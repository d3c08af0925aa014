import EventBus.Proofs.Reactor.Reachable
import EventBus.Proofs.Service.Promises
import EventBus.Catalog.Component
import EventBus.Server
import EventBus.Trial.World

/-!
# Origin authority

Who may raise events through a bus server, in every state that it can come to: for any connections with any
frames on them, whatever order its threads go in, and with any use of the bus from outside in between.

* `Acts`: what one turn of a worker that answers a frame does to the state of the server. An event is carried
  through its chain only in a turn in which the connection is bound to its origin.
* `separate`: serving one connection relies on no more than that others leave its binding and its greetings
  alone, and does not touch those of others.
* `Authorized`: who is bound and who acts. `authorized` proves it of every reachable server.
-/

namespace EventBus.Server

variable {c : Catalog} {σ : Type} {bus : Bus c σ} {raise : Bus.Raise bus} {token other : Token}
  {s t u : State bus}

/-! ## Greetings -/

/-- The verdict of a bus on an announcement. It does not depend on what was done on the bus. -/
def verdict (bus : Bus c σ) (id : SubscriberId) (name : String) : Status :=
  if (Bus.Run.announced? bus id name).isSome then .ok else .failure

theorem handshake_fst (id : SubscriberId) (name : String) (run : Bus.Run bus) :
    (Bus.Run.handshake id name run).1 = verdict bus id name := by
  rw [Bus.Run.handshake, verdict]
  cases Bus.Run.announced? bus id name with
  | none => rfl
  | some slot => rfl

/-- Nothing but activations and the journal differs: no event is counted, no handler is called and nothing is
sent. -/
structure Quiet (run run' : Bus.Run bus) : Prop where
  triggers : run'.triggers = run.triggers
  world : run'.world = run.world
  counters : ∀ slot, (run'.cell slot).counters = (run.cell slot).counters
  link : ∀ slot, (run'.cell slot).link = (run.cell slot).link

theorem Quiet.refl (run : Bus.Run bus) : Quiet run run := ⟨rfl, rfl, fun _ => rfl, fun _ => rfl⟩

theorem quiet_activate (slot : bus.Slot) (on : Bool) (cause : Bus.Cause) (run : Bus.Run bus) :
    Quiet run (run.activate slot on cause) := by
  refine ⟨rfl, rfl, fun other => ?_, fun other => ?_⟩
  all_goals
    rw [Bus.Run.activate, Bus.Run.cell_enter]
    by_cases hsame : other = slot
    · rw [hsame, Bus.Run.cell_modifyCell_self]
    · rw [Bus.Run.cell_modifyCell_of_ne _ _ hsame]

theorem quiet_handshake (id : SubscriberId) (name : String) (run : Bus.Run bus) :
    Quiet run (Bus.Run.handshake id name run).2 := by
  rw [Bus.Run.handshake]
  cases Bus.Run.announced? bus id name with
  | none => exact ⟨rfl, rfl, fun _ => rfl, fun _ => rfl⟩
  | some slot => exact quiet_activate slot true .handshake run

/-- An announcement is accepted exactly if it names an external subscriber by its id and its name. -/
theorem announced_of_isOk {id : SubscriberId} {name : String} (h : (verdict bus id name).isOk = true) :
    ∃ slot, (bus.subscriber slot).id = id ∧ (bus.subscriber slot).name = name
      ∧ (bus.subscriber slot).site = .external := by
  rw [verdict] at h
  split at h
  · next hsome =>
    obtain ⟨slot, hslot⟩ := Option.isSome_iff_exists.mp hsome
    obtain ⟨hid, hmatches⟩ := Option.filter_eq_some_iff.mp hslot
    rw [Bool.and_eq_true, beq_iff_eq, decide_eq_true_eq] at hmatches
    rw [Bus.slotOfId?] at hid
    exact ⟨slot, beq_iff_eq.mp (List.find?_some (p := fun slot => (bus.subscriber slot).id == id) hid), hmatches⟩
  · cases h

namespace State

/-- The announcements that were answered on a connection, newest first. -/
def greetingsOn (token : Token) (state : State bus) : List Greeting :=
  state.greetings.filter (·.token = token)

/-- The id of the latest announcement on a connection that was accepted. -/
def acceptedId? (token : Token) (state : State bus) : Option SubscriberId :=
  ((state.greetingsOn token).find? (·.status.isOk)).map (·.id)

/-- A greeting is the latest on its connection. -/
theorem greetingsOn_greet (id : SubscriberId) (name : String) (status : Status) :
    (s.greet token id name status).greetingsOn other
      = if token = other then ⟨token, id, name, status⟩ :: s.greetingsOn other else s.greetingsOn other := by
  have hgreetings : (s.greet token id name status).greetings = ⟨token, id, name, status⟩ :: s.greetings := by
    rw [greet]
    split <;> rfl
  rw [greetingsOn, hgreetings, greetingsOn, List.filter_cons]
  simp only [decide_eq_true_eq]

/-- An accepted one binds its connection, and a refused one leaves it as it was. -/
theorem binding?_greet (id : SubscriberId) (name : String) (status : Status) :
    (s.greet token id name status).binding? other
      = if token = other ∧ status.isOk then some id else s.binding? other := by
  rw [greet]
  by_cases hok : status.isOk
  · rw [if_pos hok]
    by_cases hsame : token = other
    · rw [if_pos ⟨hsame, hok⟩, ← hsame, binding?_bind_self]
    · rw [if_neg fun hboth => hsame hboth.1, binding?_bind_of_ne (Ne.symm hsame)]
      rfl
  · rw [if_neg hok, if_neg fun hboth => hok hboth.2]
    rfl

/-- A greeting changes the latest accepted id just as it changes the binding. -/
theorem acceptedId?_greet (id : SubscriberId) (name : String) (status : Status) :
    (s.greet token id name status).acceptedId? other
      = if token = other ∧ status.isOk then some id else s.acceptedId? other := by
  rw [acceptedId?, greetingsOn_greet]
  by_cases hsame : token = other
  · rw [if_pos hsame, List.find?_cons]
    cases hok : status.isOk with
    | true => rw [if_pos ⟨hsame, rfl⟩]; rfl
    | false => rw [if_neg fun hboth => Bool.false_ne_true hboth.2]; rfl
  · rw [if_neg hsame, if_neg fun hboth => hsame hboth.1]
    rfl

/-- Who was accepted last is a matter of the greetings. -/
theorem acceptedId?_congr (h : t.greetings = s.greetings) : t.acceptedId? token = s.acceptedId? token := by
  rw [acceptedId?, greetingsOn, h]
  rfl

end State

/-! ## What a turn does -/

/-- What one turn of the answer to a frame on a connection makes of the state. -/
inductive Acts (raise : Bus.Raise bus) (token : Token) (s : State bus) : Frame → State bus → Prop where
  | idle (frame : Frame) : Acts raise token s frame s
  /-- The bus takes notice of an announcement. -/
  | announced (id : SubscriberId) (name : String) :
    Acts raise token s (.hello id name) { s with run := (Bus.Run.handshake id name s.run).2 }
  /-- The verdict of the bus on an announcement takes effect on the connection. -/
  | greeted (id : SubscriberId) (name : String) :
    Acts raise token s (.hello id name) (s.greet token id name (verdict bus id name))
  /-- The bus carries an event that was pushed, in the name that the connection is bound to. -/
  | pushed {envelope : Envelope} {event : Event c} {run : Bus.Run bus}
      (hevent : envelope.toEvent c = .ok event) (hbound : s.binding? token = some event.origin)
      (hrun : (raise event event.freshOut).Makes s.run run) :
    Acts raise token s (.push envelope) { s with run }
  /-- The bus carries an event that was requested, in the name that the connection is bound to. -/
  | requested {envelope : Envelope} {out : Option EventOut} {event : Event c} {run : Bus.Run bus}
      (hevent : envelope.toEvent c = .ok event) (hbound : s.binding? token = some event.origin)
      (hrun : (raise event (out.getD event.freshOut)).Makes s.run run) :
    Acts raise token s (.request envelope out) { s with run }

/-- The binding and the greetings of a connection are left alone. -/
structure Keeps (token : Token) (s t : State bus) : Prop where
  binding : t.binding? token = s.binding? token
  greetings : t.greetingsOn token = s.greetingsOn token

theorem Keeps.refl (token : Token) (s : State bus) : Keeps token s s := ⟨rfl, rfl⟩

theorem Keeps.trans (h : Keeps token s t) (h' : Keeps token t u) : Keeps token s u :=
  ⟨h'.binding.trans h.binding, h'.greetings.trans h.greetings⟩

/-- A connection that may raise in the name of an id stays bound to it. -/
theorem Keeps.binding?_of_mayRaise {origin : SubscriberId} (h : Keeps token s t) (hmay : s.mayRaise token origin = true) :
    t.binding? token = some origin := by
  rw [h.binding]
  exact of_decide_eq_true hmay

/-- What is done on the bus leaves all connections alone. -/
theorem keeps_run (token : Token) (run : Bus.Run bus) (s : State bus) : Keeps token s { s with run } :=
  ⟨rfl, rfl⟩

/-- Answering a frame leaves other connections alone. -/
theorem Acts.keeps {frame : Frame} (h : Acts raise token s frame t) (hother : other ≠ token) :
    Keeps other s t := by
  cases h with
  | idle => exact .refl other s
  | announced id name => exact keeps_run other _ s
  | greeted id name =>
    refine ⟨?_, ?_⟩
    · rw [State.binding?_greet, if_neg fun hboth => hother hboth.1.symm]
    · rw [State.greetingsOn_greet, if_neg (Ne.symm hother)]
  | pushed hevent hbound hrun => exact keeps_run other _ s
  | requested hevent hbound hrun => exact keeps_run other _ s

/-- What is not quiet is done for an event in the name that the connection is bound to. -/
theorem Acts.carries {frame : Frame} (h : Acts raise token s frame t) (hloud : ¬Quiet s.run t.run) :
    ∃ event out, s.binding? token = some event.origin ∧ (raise event out).Makes s.run t.run := by
  cases h with
  | idle => exact absurd (.refl s.run) hloud
  | announced id name => exact absurd (quiet_handshake id name s.run) hloud
  | greeted id name =>
    have hrun : (s.greet token id name (verdict bus id name)).run = s.run := by
      rw [State.greet]
      split <;> rfl
    rw [hrun] at hloud
    exact absurd (.refl s.run) hloud
  | pushed hevent hbound hrun => exact ⟨_, _, hbound, hrun⟩
  | requested hevent hbound hrun => exact ⟨_, _, hbound, hrun⟩

/-! ## What answers promise -/

/-- The greeting that a frame on a connection is, if it is one. -/
def greetingOf (bus : Bus c σ) (token : Token) : Frame → List Greeting
  | .hello id name => [⟨token, id, name, verdict bus id name⟩]
  | _ => []

/-- A turn on the bus of a server. -/
theorem meets_onBus_atomic_iff {α : Type} {rely guar : State bus → State bus → Prop} {post : α → State bus → Prop}
    {act : Bus.Run bus → α × Bus.Run bus} :
    (onBus (.atomic act)).Meets rely guar post s
      ↔ guar s { s with run := (act s.run).2 }
        ∧ ∀ found, rely { s with run := (act s.run).2 } found → post (act s.run).1 found := Iff.rfl

/-- Carrying the event of an envelope keeps the promise of each of its turns. -/
theorem meets_raiseEnvelope {envelope : Envelope} {out : Option EventOut} {guar : State bus → State bus → Prop}
    (hturn : ∀ s run event, envelope.toEvent c = .ok event → s.binding? token = some event.origin →
      (raise event (out.getD event.freshOut)).Makes s.run run → guar s { s with run })
    (hbound : s.binding? token = some envelope.origin) :
    (raiseEnvelope raise envelope out).Meets (Keeps token) guar
      (fun _ found => found.greetingsOn token = s.greetingsOn token) s := by
  rw [raiseEnvelope]
  split
  · rfl
  · next event hevent =>
    -- an event has the origin of the envelope that it was read from
    have horigin : event.origin = envelope.origin := by
      rw [Envelope.toEvent] at hevent
      split at hevent <;> cases hevent
      rfl
    rw [Routine.meets_bind_iff]
    -- the binding stays what it was when the connection was asked, behind every turn
    have hkept : (onBus (raise event (out.getD event.freshOut))).Meets (Keeps token) guar
        (fun _ => Keeps token s) s := by
      refine Routine.meets_within (fun whole found hinv hkeeps => hinv.trans hkeeps)
        (fun whole part hinv hmakes => ⟨?_, hinv.trans (keeps_run token part whole)⟩) (Keeps.refl token s)
      refine hturn whole part event hevent ?_ hmakes
      rw [hinv.binding, hbound, horigin]
    exact hkept.mono (fun _ _ hguar => hguar) fun answer found hfound => hfound.greetings

/-- The answer to a frame acts only as `Acts` says, and each announcement that it answers is kept. -/
theorem meets_answer (token : Token) (frame : Frame) (s : State bus) :
    (answer raise token frame).Meets (Keeps token) (fun s t => Acts raise token s frame t)
      (fun _ found => found.greetingsOn token = greetingOf bus token frame ++ s.greetingsOn token) s := by
  cases frame with
  | hello id name =>
    -- one turn on the bus, and one that binds; between them only others act
    rw [answer, Routine.meets_bind_iff, answerHello, Routine.meets_bind_iff, meets_onBus_atomic_iff]
    refine ⟨.announced id name, fun shaken hshaken => ?_⟩
    rw [handshake_fst, Routine.meets_bind_iff, Routine.meets_change_iff]
    refine ⟨.greeted id name, fun found hfound => ?_⟩
    show found.greetingsOn token = _
    rw [hfound.greetings, State.greetingsOn_greet, if_pos rfl, hshaken.greetings]
    rfl
  | push envelope =>
    rw [answer, Routine.meets_bind_iff, Routine.meets_ask_iff]
    refine ⟨.idle _, fun found hfound => ?_⟩
    by_cases hmay : s.mayRaise token envelope.origin
    · have hbound := hfound.binding?_of_mayRaise hmay
      rw [if_pos hmay, Routine.meets_bind_iff]
      refine (meets_raiseEnvelope (fun s run event hevent hown hrun => .pushed hevent hown hrun) hbound).mono
        (fun _ _ hguar => hguar) fun answer later hlater => ?_
      exact hlater.trans hfound.greetings
    · rw [if_neg hmay]
      exact hfound.greetings
  | request envelope out =>
    rw [answer, Routine.meets_bind_iff, Routine.meets_ask_iff]
    refine ⟨.idle _, fun found hfound => ?_⟩
    by_cases hmay : s.mayRaise token envelope.origin
    · have hbound := hfound.binding?_of_mayRaise hmay
      rw [if_pos hmay, Routine.meets_bind_iff]
      refine (meets_raiseEnvelope (fun s run event hevent hown hrun => .requested hevent hown hrun) hbound).mono
        (fun _ _ hguar => hguar) fun answer later hlater => ?_
      cases answer with
      | none => exact hlater.trans hfound.greetings
      | some reply => exact hlater.trans hfound.greetings
    · rw [if_neg hmay]
      exact hfound.greetings
  | helloAck status => rfl
  | reply status out => rfl

/-! ## Serving apart -/

/-- The bus is used from outside: to activate or deactivate subscribers, or for anything else. -/
def Stirs (s t : State bus) : Prop :=
  ∃ run, t = { s with run }

/-- A server serves its connections apart from each other. -/
theorem separate (cfg : Config) (raise : Bus.Raise bus) :
    Reactor.Separate (service cfg raise).toService Stirs Keeps
      (fun token s t => ∃ frame, Acts raise token s frame t) where
  refl := Keeps.refl
  trans token _ _ _ h h' := h.trans h'
  idle token s := ⟨.helloAck .ok, .idle _⟩
  apart := fun hother ⟨frame, hacts⟩ => hacts.keeps hother
  opened := fun _ => Keeps.refl _ _
  closed := fun hother => ⟨State.binding?_release_of_ne hother _, rfl⟩
  stirred := fun {token s t} ⟨run, hrun⟩ => hrun ▸ keeps_run token run s
  received token inbox chunk answers s := by
    refine FrameService.meets_received (fun frame s _ => ?_) inbox chunk answers trivial
    exact (meets_answer token frame s).mono (fun _ _ hacts => ⟨frame, hacts⟩) fun _ _ _ => trivial

/-! ## Bindings -/

/-- A server that was started, with what its service was told since. -/
abbrev Served (cfg : Config) (raise : Bus.Raise bus) (run : Bus.Run bus) (r : Reactor (State bus)) : Prop :=
  Reactor.Reachable (service cfg raise).toService Stirs cfg { run } r

/-- Bindings and greetings are those of the connections that are open, and that were opened. -/
structure Bound (r : Reactor (State bus)) : Prop where
  /-- An open connection is bound as its latest accepted announcement says, another one is not bound. -/
  binding : ∀ token, r.state.binding? token
    = if (r.connection? token).isSome then r.state.acceptedId? token else none
  /-- An accepted announcement was for an external subscriber, by its id and its name. -/
  accepted : ∀ greeting ∈ r.state.greetings, greeting.status.isOk →
    ∃ slot, (bus.subscriber slot).id = greeting.id ∧ (bus.subscriber slot).name = greeting.name
      ∧ (bus.subscriber slot).site = .external
  /-- An announcement came on a connection that was opened. -/
  known : ∀ greeting ∈ r.state.greetings, .opened greeting.token ∈ r.callbacks

variable {cfg : Config} {run : Bus.Run bus} {r r' : Reactor (State bus)} {move : Reactor.Move}

/-- In the beginning nobody is bound, and there were no greetings. -/
theorem bound_start (cfg : Config) (run : Bus.Run bus) : Bound (.start cfg { run } : Reactor (State bus)) where
  binding _ := rfl
  accepted := nofun
  known := nofun

/-- What changes no binding, no greeting and no connection keeps who is bound. -/
theorem Bound.of_same (h : Bound r) (hbinding : ∀ token, r'.state.binding? token = r.state.binding? token)
    (hgreetings : r'.state.greetings = r.state.greetings)
    (hopen : ∀ token, (r'.connection? token).isSome = (r.connection? token).isSome)
    (hcallbacks : ∀ callback ∈ r.callbacks, callback ∈ r'.callbacks) : Bound r' where
  binding token := by rw [hbinding, hopen, State.acceptedId?_congr hgreetings, h.binding]
  accepted greeting hmem := h.accepted greeting (hgreetings ▸ hmem)
  known greeting hmem := hcallbacks _ (h.known greeting (hgreetings ▸ hmem))

/-- A connection that was not opened before has no binding and no greetings. -/
theorem Bound.acceptedId?_eq_none (h : Bound r) (hfresh : .opened token ∉ r.callbacks) :
    r.state.acceptedId? token = none := by
  have hnone : r.state.greetingsOn token = [] := by
    rw [State.greetingsOn, List.filter_eq_nil_iff]
    intro greeting hmem hsame
    have hopened := h.known greeting hmem
    rw [of_decide_eq_true hsame] at hopened
    exact hfresh hopened
  rw [State.acceptedId?, hnone]
  rfl

/-- Answering a frame on an open connection keeps the bindings as the announcements say. -/
theorem Bound.of_acts {frame : Frame} (h : Bound r) (hacts : Acts raise token r.state frame t)
    (hsome : (r.connection? token).isSome) (hopened : .opened token ∈ r.callbacks) (hstate : r'.state = t)
    (hopen : ∀ token, r'.connection? token = r.connection? token) (hcallbacks : r'.callbacks = r.callbacks) :
    Bound r' := by
  -- all but a greeting replace the bus only
  have hrun : ∀ run, t = { r.state with run } → Bound r' := by
    rintro run rfl
    refine h.of_same (fun token => ?_) ?_ (fun token => by rw [hopen]) fun callback hmem => by rwa [hcallbacks]
    · rw [hstate]
      rfl
    · rw [hstate]
  cases hacts with
  | idle => exact hrun r.state.run rfl
  | announced id name => exact hrun _ rfl
  | pushed hevent hbound hmakes => exact hrun _ rfl
  | requested hevent hbound hmakes => exact hrun _ rfl
  | greeted id name =>
    have hgreetings : r'.state.greetings = ⟨token, id, name, verdict bus id name⟩ :: r.state.greetings := by
      rw [hstate, State.greet]
      split <;> rfl
    refine ⟨fun other => ?_, fun greeting hmem hok => ?_, fun greeting hmem => ?_⟩
    · rw [hstate, hopen, State.binding?_greet, State.acceptedId?_greet, h.binding other]
      by_cases hsame : token = other
      · rw [← hsame, hsome, if_pos rfl, if_pos rfl]
      · simp only [hsame, false_and, if_false]
    · rw [hgreetings] at hmem
      rcases List.mem_cons.mp hmem with rfl | hold
      · exact announced_of_isOk hok
      · exact h.accepted greeting hold hok
    · rw [hgreetings] at hmem
      rw [hcallbacks]
      rcases List.mem_cons.mp hmem with rfl | hold
      · exact hopened
      · exact h.known greeting hold

/-- Every step keeps the bindings as the announcements say. -/
theorem Bound.step (h : Bound r)
    (hserved : Reactor.WellServed Keeps (fun token s t => ∃ frame, Acts raise token s frame t) r)
    (hfew : r.sockets.size < UInt64.size) (hstep : r.step? (service cfg raise).toService move = some r') :
    Bound r' := by
  cases Reactor.step?_tells hstep with
  | nothing hstate hcallbacks hopen hnext hgrown hmore hserving =>
    exact h.of_same (fun token => by rw [hstate]) (by rw [hstate]) hopen fun callback hmem => by rwa [hcallbacks]
  | opened hbacklog hstate hcallbacks hopen hnext hgrown hsockets hserving =>
    have hfresh := hserved.numbered.not_mem_opened hfew hbacklog
    have hsame : r'.state = r.state := hstate
    refine ⟨fun token => ?_, ?_, fun greeting hmem => ?_⟩
    · rw [hsame, hopen, h.binding token]
      by_cases hnew : r.nextToken = token
      · -- the new connection has no binding, and nothing was announced on it
        have hnone := h.acceptedId?_eq_none hfresh
        rw [← hnew, hnone, ite_self, ite_self]
      · rw [beq_false_of_ne hnew, Bool.or_false]
    · rw [hsame]
      exact h.accepted
    · rw [hsame] at hmem
      rw [hcallbacks]
      exact List.mem_cons_of_mem _ (h.known greeting hmem)
  | received token inbox chunk answers hstate hcallbacks hopen hnext hbacklog hsockets hserving =>
    exact h.of_same (fun token => by rw [hstate]) (by rw [hstate]) (fun token => by rw [hopen]) fun callback hmem => by
      rw [hcallbacks]
      exact List.mem_cons_of_mem _ hmem
  | turned worker token routine hworker hstate hcallbacks hopen hnext hbacklog hsockets hserving =>
    obtain ⟨frame, hacts⟩ := hserved.turn (separate cfg raise) hworker
    have hsome := hserved.custody.isSome_of_serves hworker
    exact h.of_acts hacts hsome (hserved.numbered.known token hsome) hstate hopen hcallbacks
  | closed token conn hconn hstate hcallbacks hopen hnext hbacklog hsockets hserving =>
    have hreleased : r'.state = r.state.release token := hstate
    have hgreetings : r'.state.greetings = r.state.greetings := by rw [hreleased, State.release]
    refine ⟨fun other => ?_, fun greeting hmem => h.accepted greeting (hgreetings ▸ hmem), fun greeting hmem => ?_⟩
    · rw [State.acceptedId?_congr hgreetings, hreleased, hopen]
      by_cases hsame : other = token
      -- the binding goes with the connection, and the greetings told of it do not
      · rw [hsame, State.binding?_release_self, if_pos rfl]
        rfl
      · rw [if_neg hsame, State.binding?_release_of_ne hsame, h.binding]
    · rw [hcallbacks]
      exact List.mem_cons_of_mem _ (h.known greeting (hgreetings ▸ hmem))

/-- At every reachable server the bindings are as the announcements say. -/
theorem Served.bound (h : Served cfg raise run r) (hfew : r.sockets.size < UInt64.size) : Bound r := by
  induction h with
  | start => exact bound_start cfg run
  | step h hstep ih =>
    -- sockets only become more, so there were few before, too
    have hbefore := Nat.lt_of_le_of_lt (Reactor.step?_tells hstep).sockets_le hfew
    exact (ih hbefore).step (h.wellServed (separate cfg raise) hbefore) hbefore hstep
  | stir h hstir ih =>
    obtain ⟨other, rfl⟩ := hstir
    exact (ih hfew).of_same (fun _ => rfl) rfl (fun _ => rfl) fun _ hmem => hmem

/-! ## Authority -/

/-- Who is bound and who acts, at a server. -/
structure Authorized (cfg : Config) (raise : Bus.Raise bus) (r : Reactor (State bus)) : Prop where
  /-- An open connection is bound to the id of the latest announcement on it that was accepted. -/
  bound : ∀ token, (r.connection? token).isSome → r.state.binding? token = r.state.acceptedId? token
  /-- A connection that is not open is not bound. -/
  unbound : ∀ token, r.connection? token = none → r.state.binding? token = none
  /-- An accepted announcement was for an external subscriber, by its id and its name. -/
  accepted : ∀ greeting ∈ r.state.greetings, greeting.status.isOk →
    ∃ slot, (bus.subscriber slot).id = greeting.id ∧ (bus.subscriber slot).name = greeting.name
      ∧ (bus.subscriber slot).site = .external
  opens : ∀ move r' token, r.step? (service cfg raise).toService move = some r' → r.connection? token = none →
    (r'.connection? token).isSome → r'.state.binding? token = none
  /-- The state changes only when a connection is closed, and when a worker answers a frame on an open one. -/
  acts : ∀ move r', r.step? (service cfg raise).toService move = some r' →
    r'.state = r.state
      ∨ (∃ token, r'.connection? token = none ∧ r'.state = r.state.release token)
      ∨ ∃ worker token rest frame, r.Serves worker token rest ∧ (r.connection? token).isSome
        ∧ r'.state = (rest.turn r.state).2 ∧ Acts raise token r.state frame r'.state
  /-- An event is counted or handled only when a worker carries one for a connection, and then in the name that
  this connection is bound to. -/
  carries : ∀ move r', r.step? (service cfg raise).toService move = some r' → ¬Quiet r.state.run r'.state.run →
    ∃ worker token rest event out, r.Serves worker token rest ∧ r'.state = (rest.turn r.state).2
      ∧ r.state.binding? token = some event.origin ∧ (raise event out).Makes r.state.run r'.state.run

/-- What a step changes at a server. -/
theorem Served.acts (h : Served cfg raise run r) (hfew : r.sockets.size < UInt64.size)
    (hstep : r.step? (service cfg raise).toService move = some r') :
    r'.state = r.state
      ∨ (∃ token, r'.connection? token = none ∧ r'.state = r.state.release token)
      ∨ ∃ worker token rest frame, r.Serves worker token rest ∧ (r.connection? token).isSome
        ∧ r'.state = (rest.turn r.state).2 ∧ Acts raise token r.state frame r'.state := by
  have hserved := h.wellServed (separate cfg raise) hfew
  cases Reactor.step?_tells hstep with
  | nothing hstate hcallbacks hopen hnext hgrown hmore hserving => exact .inl hstate
  | opened hbacklog hstate hcallbacks hopen hnext hgrown hsockets hserving => exact .inl hstate
  | received token inbox chunk answers hstate hcallbacks hopen hnext hbacklog hsockets hserving => exact .inl hstate
  | turned worker token routine hworker hstate hcallbacks hopen hnext hbacklog hsockets hserving =>
    -- the one move with effects of its own is a turn of the routine that answers a frame
    obtain ⟨frame, hacts⟩ := hserved.turn (separate cfg raise) hworker
    rw [← hstate] at hacts
    exact .inr (.inr ⟨worker, token, routine, frame, hworker, hserved.custody.isSome_of_serves hworker, hstate, hacts⟩)
  | closed token conn hconn hstate hcallbacks hopen hnext hbacklog hsockets hserving =>
    exact .inr (.inl ⟨token, by rw [hopen, if_pos rfl], hstate⟩)

/-- A connection that a step opens was not bound before, and the step does not bind it. -/
theorem Served.opens (h : Served cfg raise run r) (hfew : r.sockets.size < UInt64.size)
    (hstep : r.step? (service cfg raise).toService move = some r') (hnone : r.connection? token = none)
    (hsome : (r'.connection? token).isSome) : r'.state.binding? token = none := by
  have hunbound : r.state.binding? token = none := by
    rw [(h.bound hfew).binding, hnone]
    rfl
  cases Reactor.step?_tells hstep with
  | nothing hstate hcallbacks hopen hnext hgrown hmore hserving => rw [hstate, hunbound]
  | opened hbacklog hstate hcallbacks hopen hnext hgrown hsockets hserving => exact hstate ▸ hunbound
  | received t inbox chunk answers hstate hcallbacks hopen hnext hbacklog hsockets hserving => rw [hstate, hunbound]
  -- turns and closes open no connection
  | turned worker t routine hworker hstate hcallbacks hopen hnext hbacklog hsockets hserving =>
    rw [hopen, hnone] at hsome
    cases hsome
  | closed t conn hconn hstate hcallbacks hopen hnext hbacklog hsockets hserving =>
    rw [hopen, hnone, ite_self] at hsome
    cases hsome

/-- **Origin authority.** At every server that comes about while fewer than `2 ^ 64` connections are made, only
external subscribers that announced themselves are bound, and only who is bound acts, in its own name. The
announcements are those that were answered: the answer to each frame keeps the announcement that it was, and no
other. -/
theorem authorized (h : Served cfg raise run r) (hfew : r.sockets.size < UInt64.size) :
    Authorized cfg raise r
      ∧ ∀ token frame s, (answer raise token frame).Meets (Keeps token) (fun s t => Acts raise token s frame t)
        (fun _ found => found.greetingsOn token = greetingOf bus token frame ++ s.greetingsOn token) s := by
  have hbound := h.bound hfew
  refine ⟨⟨fun token hsome => ?_, fun token hnone => ?_, hbound.accepted,
    fun move r' token hstep hnone hsome => h.opens hfew hstep hnone hsome, fun move r' hstep => h.acts hfew hstep,
    fun move r' hstep hloud => ?_⟩, meets_answer⟩
  · rw [hbound.binding, if_pos hsome]
  · rw [hbound.binding, hnone]
    rfl
  -- a step that is heard on the bus is neither idle nor a release, so it is a turn
  · rcases h.acts hfew hstep with hsame | ⟨token, -, hreleased⟩
      | ⟨worker, token, rest, frame, hserves, -, hstate, hacts⟩
    · rw [hsame] at hloud
      exact absurd (.refl _) hloud
    · rw [hreleased] at hloud
      exact absurd (.refl r.state.run) hloud
    · obtain ⟨event, out, horigin, hmakes⟩ := hacts.carries hloud
      exact ⟨worker, token, rest, event, out, hserves, hstate, horigin, hmakes⟩

/-! ## A connection in its own name and in another's -/

/-- A bus with an external subscriber, and one that hears of hosts. -/
def extSinkBus : Bus .component (Trial.World .component Unit) where
  config := {}
  subscribers :=
    #[⟨"ext", "", .general, false, [], [], .external (.ofConfig {} (.local "ext"))⟩,
      ⟨"sink", "", .general, true, [(⟨27, by decide⟩, .empty)], [],
        .internal (some ⟨"sink", fun _ view => .done .ok view⟩) []⟩]

/-- A connection to the server of that bus greets as one subscriber, then raises an event as the other one and
an event as itself. -/
def greetAndPushMoves : List Reactor.Move :=
  let bytes := (Frame.hello (.ofName "ext") "ext").encode ++ (Frame.push ⟨.ofName "sink", 28, []⟩).encode
    ++ (Frame.push ⟨.ofName "ext", 28, []⟩).encode
  [.dial, .look, .wait [.knock], .handle, .accept, .register true, .acceptDone, .handle, .sends 0 bytes, .look,
    .wait [.ready 1], .handle, .pop 0, .check 0, .read 0 (.chunk bytes.length) []]
    ++ List.replicate 8 (.serve 0)

/-- A greeting and a push: the connection is bound, and the event was carried. -/
theorem extSinkBus_authorized :
    ∃ r, Served {} (Bus.dispatch (Trial.deserted .component) 1) (extSinkBus.start { net := () }) r
      ∧ r.sockets.size < UInt64.size ∧ r.state.binding? 1 = some (.ofName "ext")
      ∧ r.state.run.triggers.get ⟨27, by decide⟩ = 1
      ∧ Authorized {} (Bus.dispatch (Trial.deserted .component) 1) r := by
  have hrun : ((Reactor.start {} { run := extSinkBus.start { net := () } }).moves?
      (service {} (Bus.dispatch (Trial.deserted .component) 1)).toService greetAndPushMoves).any (fun r =>
        r.sockets.size < UInt64.size && r.state.binding? 1 = some (.ofName "ext")
          && r.state.run.triggers.get ⟨27, by decide⟩ = 1) = true := by
    decide +kernel
  rw [Option.any_eq_true] at hrun
  obtain ⟨r, hmoves, hholds⟩ := hrun
  rw [Bool.and_eq_true, Bool.and_eq_true, decide_eq_true_eq, decide_eq_true_eq, decide_eq_true_eq] at hholds
  obtain ⟨⟨hfew, hbound⟩, htriggers⟩ := hholds
  have hserved : Served {} (Bus.dispatch (Trial.deserted .component) 1) (extSinkBus.start { net := () }) r :=
    Reactor.Reachable.start.of_moves? hmoves
  exact ⟨r, hserved, hfew, hbound, htriggers, (authorized hserved hfew).1⟩

end EventBus.Server
