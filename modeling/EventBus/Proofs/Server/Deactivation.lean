import EventBus.Proofs.Bus.Provenance
import EventBus.Proofs.Reactor.Readers
import EventBus.Proofs.Server.Authority
import EventBus.Server.Deactivate

/-!
# Deactivation among announcements

A deactivation makes three sorts of turns: it clears the activation of the subscriber, it collects the connections that
are bound to it, and it asks each of them to close. The answer to an announcement makes two: it activates the
subscriber, and then it binds the connection. Threads make these turns in any order.

* `Duty`: what a thread does here. `Turns`: what each of its turns is; `Stage.turns` proves that there are no others.
* `Exposed`: a connection that is open, not to be closed, and bound to the subscriber.
* `Aside`: what goes on beside. `Served.aside`: so does every step of the server that neither changes the activation
  of the subscriber nor binds a connection to it.
* `Guarded`: what every turn keeps. A subscriber that is not activated has no exposed connection but those that some
  deactivation is about to close; `Guarded.step` needs that no answer stands between its two turns when the connections
  are collected.
* `Overlaps.active_or_shut`: what holds behind all turns then. `extSinkBus_exposed`: without it, a connection is bound
  behind the back of the deactivation, and stays open.
-/

namespace EventBus.Server

variable {c : Catalog} {σ : Type} {bus : Bus c σ}

/-! ## Turns -/

/-- What a thread does. -/
inductive Duty where
  /-- It answers an announcement on a connection. -/
  | answers (token : Token) (id : SubscriberId) (name : String)
  | deactivates (name : String)

/-- The turns that it makes, on the reactor with the state of the server in it. -/
def Duty.routine (bus : Bus c σ) : Duty → Routine (Reactor (State bus)) Unit
  | answers token id name => do
    let _ ← onState (answerHello token id name)
    return ()
  | deactivates name => do
    let _ ← deactivate name
    return ()

/-- What is left of an answer when the bus has taken notice: the verdict takes effect on the connection. -/
def bindNext (bus : Bus c σ) (token : Token) (id : SubscriberId) (name : String) :
    Routine (Reactor (State bus)) Unit :=
  onState (.change (State.greet token id name (verdict bus id name)))

/-- What is left of a deactivation when the subscriber is not activated any more. -/
def collect (slot : bus.Slot) : Routine (Reactor (State bus)) Unit := do
  let tokens ← onState (.ask fun state => state.boundTo (bus.subscriber slot).id)
  disconnectAll tokens

/-- The server with another state of its bus. Bindings and connections are as they were. -/
def setRun (run : Bus.Run bus) (r : Reactor (State bus)) : Reactor (State bus) :=
  { r with state := { r.state with run } }

/-- Where a thread stands. -/
inductive Stage : Routine (Reactor (State bus)) Unit → Prop where
  | answers (token : Token) (id : SubscriberId) (name : String) : Stage ((Duty.answers token id name).routine bus)
  | binds (token : Token) (id : SubscriberId) (name : String) : Stage (bindNext bus token id name)
  | deactivates (name : String) : Stage ((Duty.deactivates name).routine bus)
  | collects (slot : bus.Slot) : Stage (collect slot)
  | closes (tokens : List Token) : Stage (disconnectAll tokens)

/-- What a turn is, and what it leaves to do. -/
inductive Turns (r : Reactor (State bus)) :
    (routine rest : Routine (Reactor (State bus)) Unit) → Reactor (State bus) → Prop where
  | announced (token : Token) (id : SubscriberId) (name : String) :
    Turns r ((Duty.answers token id name).routine bus) (bindNext bus token id name)
      (setRun (Bus.Run.handshake id name r.state.run).2 r)
  | bound (token : Token) (id : SubscriberId) (name : String) :
    Turns r (bindNext bus token id name) (disconnectAll [])
      { r with state := r.state.greet token id name (verdict bus id name) }
  | cleared {name : String} {slot : bus.Slot} (hslot : bus.slotOf? name = some slot) :
    Turns r ((Duty.deactivates name).routine bus) (collect slot) (setRun (r.state.run.activate slot false .command) r)
  | collected (slot : bus.Slot) : Turns r (collect slot) (disconnectAll (r.state.boundTo (bus.subscriber slot).id)) r
  | closed (token : Token) (tokens : List Token) :
    Turns r (disconnectAll (token :: tokens)) (disconnectAll tokens) (disconnect token r)

variable {slot : bus.Slot} {token other : Token} {id : SubscriberId} {name : String} {r r' : Reactor (State bus)}
  {routine rest : Routine (Reactor (State bus)) Unit} {pool pool' : Pool (Reactor (State bus)) Unit}

/-- The first turn of an answer is the handshake on the bus; the connection is not bound yet. -/
theorem turn_answers (token : Token) (id : SubscriberId) (name : String) (r : Reactor (State bus)) :
    ((Duty.answers token id name).routine bus).turn r
      = (bindNext bus token id name, setRun (Bus.Run.handshake id name r.state.run).2 r) := by
  rw [bindNext, ← handshake_fst id name r.state.run]
  rfl

/-- The first turn of a deactivation clears the activation; the connections are not collected yet. -/
theorem turn_deactivates (hslot : bus.slotOf? name = some slot) (r : Reactor (State bus)) :
    ((Duty.deactivates name).routine bus).turn r
      = (collect slot, setRun (r.state.run.activate slot false .command) r) := by
  have hturn : (Duty.deactivates name).routine bus
      = onState (onBus (.change (Bus.Run.activate slot false .command))) >>= fun _ => collect slot := by
    simp only [Duty.routine, deactivate, hslot, collect, bind_assoc, pure_bind, bind_pure_unit]
  rw [hturn]
  rfl

/-- The turn that collects changes nothing. What is bound later is not among what it has found. -/
theorem turn_collect (slot : bus.Slot) (r : Reactor (State bus)) :
    (collect slot).turn r = (disconnectAll (r.state.boundTo (bus.subscriber slot).id), r) := rfl

/-- Each turn is one of these. -/
theorem Stage.turns (h : Stage routine) (hgoes : routine.isOver = false) (r : Reactor (State bus)) :
    Turns r routine (routine.turn r).1 (routine.turn r).2 := by
  cases h with
  | answers token id name =>
    rw [turn_answers]
    exact .announced token id name
  | binds token id name => exact .bound token id name
  | deactivates name =>
    cases hslot : bus.slotOf? name with
    | none =>
      -- nothing is done for a name that is not known
      rw [Duty.routine, deactivate, hslot] at hgoes
      cases hgoes
    | some slot =>
      rw [turn_deactivates hslot]
      exact .cleared hslot
  | collects slot => exact .collected slot
  | closes tokens =>
    cases tokens with
    | nil => cases hgoes
    | cons token tokens => exact .closed token tokens

/-- What a turn leaves to do is again one of the stages, so that `Stage.turns` applies to the next turn, too. -/
theorem Turns.stage (h : Turns r routine rest r') : Stage rest := by
  cases h with
  | announced token id name => exact .binds token id name
  | bound => exact .closes []
  | cleared => exact .collects _
  | collected => exact .closes _
  | closed token tokens => exact .closes tokens

/-! ## Exposed connections -/

/-- A connection is open, not to be closed, and may raise in the name of a subscriber. -/
def Exposed (slot : bus.Slot) (r : Reactor (State bus)) (token : Token) : Prop :=
  (r.connection? token).any (fun conn => !conn.closing) ∧ r.state.binding? token = some (bus.subscriber slot).id

/-- The next turn binds a connection to a subscriber. -/
def Binds (slot : bus.Slot) (routine : Routine (Reactor (State bus)) Unit) : Prop :=
  ∃ token, ∀ r, (routine.turn r).2.state.binding? token = some (bus.subscriber slot).id

/-- A deactivation of a subscriber has still to ask a connection to close. -/
def Closes (slot : bus.Slot) (token : Token) (routine : Routine (Reactor (State bus)) Unit) : Prop :=
  routine = collect slot ∨ ∃ tokens, token ∈ tokens ∧ routine = disconnectAll tokens

/-- Asking for a connection to be closed changes nothing about the bus and its bindings. These go when the connection is
torn down. -/
theorem state_disconnect (token : Token) (r : Reactor (State bus)) : (disconnect token r).state = r.state := by
  rw [disconnect, Reactor.outerStep?]
  cases r.connection? token with
  | none => rfl
  | some conn => rfl

/-- Only the connection that is asked to close is marked, if it is there at all. -/
theorem connection?_disconnect (token : Token) (r : Reactor (State bus)) (other : Token) :
    (disconnect token r).connection? other
      = if other = token then (r.connection? other).map fun conn => { conn with closing := true }
        else r.connection? other := by
  rw [disconnect, Reactor.outerStep?]
  cases hconn : r.connection? token with
  | none =>
    show r.connection? other = _
    split
    · next hsame => rw [hsame, hconn, Option.map_none]
    · rfl
  | some conn => exact Reactor.connection?_modifyConnection token (fun conn => { conn with closing := true }) r other

/-- Asking for a connection to be closed exposes no other one. -/
theorem exposed_disconnect (h : Exposed slot (disconnect token r) other) : other ≠ token ∧ Exposed slot r other := by
  obtain ⟨hgoes, hbound⟩ := h
  rw [state_disconnect] at hbound
  rw [connection?_disconnect] at hgoes
  split at hgoes
  · -- it is to be closed now, if it is there
    rw [Option.any_map] at hgoes
    cases hconn : r.connection? other with
    | none =>
      rw [hconn] at hgoes
      cases hgoes
    | some conn =>
      rw [hconn] at hgoes
      cases hgoes
  · next hother => exact ⟨hother, hgoes, hbound⟩

/-- A connection that is bound to a subscriber is among those that are collected for it. -/
theorem mem_boundTo {state : State bus} (h : state.binding? token = some id) : token ∈ state.boundTo id := by
  rw [State.binding?] at h
  rw [State.boundTo]
  generalize state.bindings = bindings at h
  -- the first entry for a token decides its binding, so the induction follows the search
  induction bindings with
  | nil => cases h
  | cons entry bindings ih =>
    obtain ⟨first, bound⟩ := entry
    rw [ByToken.get?_cons] at h
    split at h
    · next hsame =>
      cases h
      simp [hsame]
    · have hmem := ih h
      by_cases hbound : bound = id
      · simp [hbound, hmem]
      · simpa [hbound] using hmem

/-- A turn of a deactivation does with an exposed connection what it had to do, or leaves it to the next turns. -/
theorem Closes.turn (h : Closes slot token routine) (hbound : r.state.binding? token = some (bus.subscriber slot).id)
    (hexposed : Exposed slot (routine.turn r).2 token) : Closes slot token (routine.turn r).1 := by
  rcases h with rfl | ⟨tokens, hmem, rfl⟩
  · exact .inr ⟨_, mem_boundTo hbound, rfl⟩
  · cases tokens with
    | nil => cases hmem
    | cons first tokens =>
      obtain ⟨hother, -⟩ := exposed_disconnect hexposed
      exact .inr ⟨tokens, List.mem_of_ne_of_mem hother hmem, rfl⟩

/-- Who has a connection to close has another turn, so that nothing is left to close where all threads are over. -/
theorem isOver_of_closes (h : Closes slot token routine) : routine.isOver = false := by
  rcases h with rfl | ⟨tokens, hmem, rfl⟩
  · rfl
  · cases tokens with
    | nil => cases hmem
    | cons first tokens => rfl

/-! ## Who is about to bind -/

/-- A turn that leaves the bindings alone binds no connection. -/
theorem not_binds_of_binding? (r : Reactor (State bus))
    (h : ∀ r token, (routine.turn r).2.state.binding? token = r.state.binding? token) : ¬Binds slot routine := by
  rintro ⟨token, hbinds⟩
  -- the same turn, made where nothing is bound
  have hsame := h { r with state := { r.state with bindings := [] } } token
  rw [hbinds] at hsame
  cases hsame

/-- The second turn of an answer binds the connection if the verdict is a success, and to the subscriber with the id
that was announced. -/
theorem binds_bindNext_iff (r : Reactor (State bus)) :
    Binds slot (bindNext bus token id name) ↔ (verdict bus id name).isOk ∧ id = (bus.subscriber slot).id := by
  have hturn : ∀ r other, ((bindNext bus token id name).turn r).2.state.binding? other
      = if token = other ∧ (verdict bus id name).isOk then some id else r.state.binding? other :=
    fun r other => State.binding?_greet id name _
  constructor
  · rintro ⟨other, hbinds⟩
    -- binding is seen best where nothing was bound before
    have hbound := hbinds { r with state := { r.state with bindings := [] } }
    rw [hturn] at hbound
    split at hbound
    · next hboth => exact ⟨hboth.2, Option.some.inj hbound⟩
    · cases hbound
  · rintro ⟨hok, rfl⟩
    refine ⟨token, fun r => ?_⟩
    rw [hturn, if_pos ⟨rfl, hok⟩]

theorem not_binds_collect (slot other : bus.Slot) (r : Reactor (State bus)) : ¬Binds slot (collect other) :=
  not_binds_of_binding? r fun _ _ => rfl

theorem not_binds_disconnectAll (tokens : List Token) (r : Reactor (State bus)) :
    ¬Binds slot (disconnectAll tokens) := by
  refine not_binds_of_binding? r fun r token => ?_
  cases tokens with
  | nil => rfl
  | cons first tokens =>
    show (disconnect first r).state.binding? token = _
    rw [state_disconnect]

theorem not_binds_duty (duty : Duty) (r : Reactor (State bus)) : ¬Binds slot (duty.routine bus) := by
  refine not_binds_of_binding? r fun r token => ?_
  -- the first turn of either duty only touches the flags of subscribers
  cases duty with
  | answers token id name =>
    rw [turn_answers]
    rfl
  | deactivates name =>
    cases hslot : bus.slotOf? name with
    | none =>
      rw [Duty.routine, deactivate, hslot]
      rfl
    | some slot =>
      rw [turn_deactivates hslot]
      rfl

/-! ## What a turn does -/

/-- A turn activates the subscriber; or it clears its activation, and the bound connections are collected next; or it
leaves the activation alone, and then the next turn binds nothing to the subscriber, and no connection is exposed that
was not so before, unless this turn has bound it. -/
theorem Turns.cases (hdistinct : bus.Distinct) (h : Turns r routine rest r') (slot : bus.Slot) :
    r'.state.run.isActive slot = true ∨ rest = collect slot
      ∨ r'.state.run.isActive slot = r.state.run.isActive slot ∧ ¬Binds slot rest
        ∧ ∀ token, Exposed slot r' token → Exposed slot r token ∨ Binds slot routine := by
  cases h with
  | announced token id name =>
    -- an accepted announcement activates its subscriber; a refused one binds nothing next
    have hactive := Bus.isActive_handshake hdistinct id name r.state.run slot
    split at hactive
    · exact .inl hactive
    · next hother =>
      refine .inr (.inr ⟨hactive, ?_, fun other hexposed => .inl hexposed⟩)
      rw [binds_bindNext_iff r]
      rintro ⟨hok, rfl⟩
      obtain ⟨found, hid, hname, hsite⟩ := announced_of_isOk hok
      obtain rfl := hdistinct hid
      exact hother ⟨hsite, hname, hname ▸ rfl⟩
  | bound token id name =>
    -- the verdict takes effect on the connection, which may become exposed by it
    have hrun := Bus.run_greet token id name (verdict bus id name) r.state
    refine .inr (.inr ⟨congrArg (fun run => run.isActive slot) hrun, not_binds_disconnectAll [] r, ?_⟩)
    rintro other ⟨hgoes, hbound⟩
    change (r.state.greet token id name (verdict bus id name)).binding? other = _ at hbound
    rw [State.binding?_greet] at hbound
    split at hbound
    · next hboth => exact .inr ((binds_bindNext_iff r).mpr ⟨hboth.2, Option.some.inj hbound⟩)
    · exact .inl ⟨hgoes, hbound⟩
  | @cleared name cleared hslot =>
    by_cases hsame : slot = cleared
    · exact .inr (.inl (hsame ▸ rfl))
    · refine .inr (.inr ⟨?_, not_binds_collect slot cleared r, fun other hexposed => .inl hexposed⟩)
      exact Bus.Run.isActive_activate_of_ne false .command r.state.run hsame
  | collected => exact .inr (.inr ⟨rfl, not_binds_disconnectAll _ r, fun other hexposed => .inl hexposed⟩)
  | closed token tokens =>
    refine .inr (.inr ⟨by rw [state_disconnect], not_binds_disconnectAll tokens r, fun other hexposed => .inl ?_⟩)
    exact (exposed_disconnect hexposed).2

/-! ## What every turn keeps -/

/-- All that goes on beside leaves the subscriber as it is, and exposes no connection to it. -/
structure Aside (slot : bus.Slot) (r r' : Reactor (State bus)) : Prop where
  active : r'.state.run.isActive slot = r.state.run.isActive slot
  exposed : ∀ token, Exposed slot r' token → Exposed slot r token

/-- A step of the server goes on beside, if it leaves the activation of the subscriber alone and binds nothing to it. -/
theorem Served.aside {cfg : Config} {raise : Bus.Raise bus} {run : Bus.Run bus} {move : Reactor.Move}
    (h : Served cfg raise run r) (hfew : r.sockets.size < UInt64.size)
    (hstep : r.step? (service cfg raise).toService move = some r')
    (hactive : r'.state.run.isActive slot = r.state.run.isActive slot)
    (hbinds : ∀ token, r'.state.binding? token = some (bus.subscriber slot).id →
      r.state.binding? token = some (bus.subscriber slot).id) : Aside slot r r' := by
  refine ⟨hactive, fun token hexposed => ?_⟩
  obtain ⟨hgoes, hbound⟩ := hexposed
  obtain ⟨conn, hconn, hopen⟩ := (Option.any_eq_true _ _).mp hgoes
  refine ⟨?_, hbinds token hbound⟩
  -- the connection was there before, or this step has accepted it
  rcases Reactor.step?_lasts hstep with hlasts | ⟨-, -, haccepted⟩
  · obtain ⟨before, hbefore, hcloses⟩ := hlasts token conn hconn
    rw [hbefore, Option.any_some]
    cases hclosing : before.closing with
    | false => rfl
    | true =>
      rw [hcloses hclosing] at hopen
      cases hopen
  · rcases haccepted token conn hconn with hbefore | ⟨hnone, -⟩
    · rw [hbefore]
      exact hopen
    · -- a connection that was not open was not bound
      have hunbound := (h.bound hfew).binding token
      rw [hnone, hbinds token hbound] at hunbound
      cases hunbound

/-- How a server and those who answer announcements and deactivate subscribers came to where they are. When the
connections that are bound to the subscriber are collected, nobody is about to bind one to it. -/
inductive Overlaps (slot : bus.Slot) (initial : Reactor (State bus)) : Pool (Reactor (State bus)) Unit → Prop where
  | start : Overlaps slot initial ⟨initial, []⟩
  | begins {pool : Pool (Reactor (State bus)) Unit} (h : Overlaps slot initial pool) (duty : Duty) :
    Overlaps slot initial { pool with threads := pool.threads ++ [duty.routine bus] }
  | turns {pool pool' : Pool (Reactor (State bus)) Unit} {thread : Nat} (h : Overlaps slot initial pool)
      (hstep : pool.step? thread = some pool')
      (hapart : pool.threads[thread]? = some (collect slot) → ∀ routine ∈ pool.threads, ¬Binds slot routine) :
    Overlaps slot initial pool'
  | aside {pool : Pool (Reactor (State bus)) Unit} {r : Reactor (State bus)} (h : Overlaps slot initial pool)
      (haside : Aside slot pool.state r) : Overlaps slot initial { pool with state := r }

/-- Where nobody is off guard: the subscriber is activated, or else its connections are seen to. -/
structure Guarded (slot : bus.Slot) (pool : Pool (Reactor (State bus)) Unit) : Prop where
  staged : ∀ routine ∈ pool.threads, Stage routine
  /-- Whoever is about to bind a connection to it is noticed by a deactivation that has still to collect. -/
  noticed : pool.state.state.run.isActive slot ∨ collect slot ∈ pool.threads
    ∨ ∀ routine ∈ pool.threads, ¬Binds slot routine
  /-- An exposed connection is about to be closed. -/
  covered : pool.state.state.run.isActive slot
    ∨ ∀ token, Exposed slot pool.state token → ∃ routine ∈ pool.threads, Closes slot token routine

theorem Duty.stage (duty : Duty) : Stage (duty.routine bus) := by
  cases duty with
  | answers token id name => exact .answers token id name
  | deactivates name => exact .deactivates name

/-- A thread other than the one whose turn it is stands where it stood. -/
theorem mem_set_or_eq {threads : List (Routine (Reactor (State bus)) Unit)} {thread : Nat}
    {kept : Routine (Reactor (State bus)) Unit}
    (hmem : kept ∈ threads) (hthread : threads[thread]? = some routine) :
    kept ∈ threads.set thread rest ∨ kept = routine := by
  obtain ⟨i, hi⟩ := List.mem_iff_getElem?.mp hmem
  by_cases hsame : thread = i
  · subst hsame
    exact .inr (Option.some.inj (hi.symm.trans hthread))
  · refine .inl (List.mem_of_getElem? (i := i) ?_)
    rw [List.getElem?_set_ne hsame, hi]

/-- Without threads, the guard is what is asked of the beginning. -/
theorem guarded_start (hbegin : r.state.run.isActive slot ∨ ∀ token, ¬Exposed slot r token) :
    Guarded slot ⟨r, []⟩ := by
  refine ⟨nofun, .inr (.inr nofun), ?_⟩
  rcases hbegin with hactive | hnone
  · exact .inl hactive
  · exact .inr fun token hexposed => absurd hexposed (hnone token)

/-- A thread that begins is at its first stage, and that binds nothing. -/
theorem Guarded.begins (h : Guarded slot pool) (duty : Duty) :
    Guarded slot { pool with threads := pool.threads ++ [duty.routine bus] } := by
  refine ⟨fun routine hmem => ?_, ?_, ?_⟩
  · rcases List.mem_append.mp hmem with hold | hnew
    · exact h.staged routine hold
    · rw [List.mem_singleton.mp hnew]
      exact duty.stage
  · rcases h.noticed with hactive | hcollects | hnobody
    · exact .inl hactive
    · exact .inr (.inl (List.mem_append_left _ hcollects))
    · refine .inr (.inr fun routine hmem => ?_)
      rcases List.mem_append.mp hmem with hold | hnew
      · exact hnobody routine hold
      · rw [List.mem_singleton.mp hnew]
        -- a duty that has had no turn has not come to its binding
        exact not_binds_duty duty pool.state
  · rcases h.covered with hactive | hcovered
    · exact .inl hactive
    · refine .inr fun token hexposed => ?_
      obtain ⟨routine, hmem, hcloses⟩ := hcovered token hexposed
      exact ⟨routine, List.mem_append_left _ hmem, hcloses⟩

/-- What goes on beside neither takes the activation away nor exposes a connection. -/
theorem Guarded.aside (h : Guarded slot pool) (haside : Aside slot pool.state r) :
    Guarded slot { pool with state := r } := by
  refine ⟨h.staged, ?_, ?_⟩
  · show r.state.run.isActive slot ∨ _
    rw [haside.active]
    exact h.noticed
  · show r.state.run.isActive slot ∨ _
    rw [haside.active]
    exact h.covered.imp id fun hcovered token hexposed => hcovered token (haside.exposed token hexposed)

/-- Behind a turn of any thread, a deactivation has still to collect, or nobody was about to bind. -/
theorem Guarded.notices (h : Guarded slot pool) (hidle : ¬pool.state.state.run.isActive slot) {thread : Nat}
    (hthread : pool.threads[thread]? = some routine)
    (hapart : pool.threads[thread]? = some (collect slot) → ∀ routine ∈ pool.threads, ¬Binds slot routine) :
    collect slot ∈ pool.threads.set thread rest ∨ ∀ routine ∈ pool.threads, ¬Binds slot routine := by
  rcases h.noticed.resolve_left hidle with hcollects | hnobody
  · rcases mem_set_or_eq hcollects hthread with hkept | rfl
    · exact .inl hkept
    · exact .inr (hapart hthread)
  · exact .inr hnobody

/-- Behind a turn, an exposed connection is about to be closed, by the thread whose turn it was or by another one. -/
theorem Guarded.covers (h : Guarded slot pool) (hidle : ¬pool.state.state.run.isActive slot) {thread : Nat}
    (hthread : pool.threads[thread]? = some routine) (hbefore : Exposed slot pool.state token)
    (hexposed : Exposed slot (routine.turn pool.state).2 token) :
    ∃ closer ∈ pool.threads.set thread (routine.turn pool.state).1, Closes slot token closer := by
  obtain ⟨closer, hcloser, hcloses⟩ := h.covered.resolve_left hidle token hbefore
  rcases mem_set_or_eq hcloser hthread with hkept | rfl
  · exact ⟨closer, hkept, hcloses⟩
  · obtain ⟨hlt, -⟩ := List.getElem?_eq_some_iff.mp hthread
    exact ⟨_, List.mem_set hlt _, hcloses.turn hbefore.2 hexposed⟩

/-- Every turn keeps the guard, if nobody is about to bind where it collects. -/
theorem Guarded.step (hdistinct : bus.Distinct) (h : Guarded slot pool) {thread : Nat}
    (hstep : pool.step? thread = some pool')
    (hapart : pool.threads[thread]? = some (collect slot) → ∀ routine ∈ pool.threads, ¬Binds slot routine) :
    Guarded slot pool' := by
  obtain ⟨routine, hthread, hgoes, rfl⟩ := Pool.exists_turn_of_step? hstep
  have hmem := List.mem_of_getElem? hthread
  have hturns := (h.staged routine hmem).turns hgoes pool.state
  have hstaged : ∀ other ∈ pool.threads.set thread (routine.turn pool.state).1, Stage other := by
    intro other hother
    rcases List.mem_or_eq_of_mem_set hother with hold | rfl
    · exact h.staged other hold
    · exact hturns.stage
  -- where the subscriber is activated, or is about to be collected for, both parts of the guard hold at once
  rcases hturns.cases hdistinct slot with hactive | hcollect | ⟨hsame, hbinds, hexposes⟩
  · exact ⟨hstaged, .inl hactive, .inl hactive⟩
  · have hcollects : collect slot ∈ pool.threads.set thread (routine.turn pool.state).1 := by
      rw [← hcollect]
      exact List.mem_set (List.getElem?_eq_some_iff.mp hthread).1 _
    exact ⟨hstaged, .inr (.inl hcollects), .inr fun token _ => ⟨collect slot, hcollects, .inl rfl⟩⟩
  · by_cases hactive : pool.state.state.run.isActive slot
    · rw [← hsame] at hactive
      exact ⟨hstaged, .inl hactive, .inl hactive⟩
    · have hnotices : collect slot ∈ pool.threads.set thread (routine.turn pool.state).1
          ∨ ∀ other ∈ pool.threads, ¬Binds slot other := h.notices hactive hthread hapart
      refine ⟨hstaged, .inr (hnotices.imp id fun hnobody other hother => ?_), .inr fun token hexposed => ?_⟩
      · rcases List.mem_or_eq_of_mem_set hother with hold | rfl
        · exact hnobody other hold
        · exact hbinds
      · rcases hexposes token hexposed with hbefore | hbound
        · exact h.covers hactive hthread hbefore hexposed
        · -- it was bound just now, and will be collected
          rcases hnotices with hcollects | hnobody
          · exact ⟨collect slot, hcollects, .inl rfl⟩
          · exact absurd hbound (hnobody routine hmem)

/-- A thread that is alone makes its next turn. -/
theorem Overlaps.turn (h : Overlaps slot r ⟨r', [routine]⟩) (hgoes : routine.isOver = false)
    (hbinds : ¬Binds slot routine) : Overlaps slot r ⟨(routine.turn r').2, [(routine.turn r').1]⟩ := by
  have hstep : Pool.step? 0 ⟨r', [routine]⟩ = some ⟨(routine.turn r').2, [(routine.turn r').1]⟩ := by
    simp [Pool.step?, hgoes]
  refine h.turns hstep fun _ other hmem => ?_
  rw [List.mem_singleton.mp hmem]
  exact hbinds

/-- A deactivation that is alone closes the connection that is bound. -/
theorem overlaps_deactivates (hslot : bus.slotOf? name = some slot)
    (hbound : r.state.boundTo (bus.subscriber slot).id = [token]) :
    Overlaps slot r ⟨disconnect token (setRun (r.state.run.activate slot false .command) r), [disconnectAll []]⟩ := by
  -- three turns: clear the flag, collect the tokens, and close each connection
  have hbegun : Overlaps slot r ⟨r, [(Duty.deactivates name).routine bus]⟩ := .begins .start (.deactivates name)
  have hgoes : ((Duty.deactivates name).routine bus).isOver = false := by
    rw [Duty.routine, deactivate, hslot]
    rfl
  have hcleared := hbegun.turn hgoes (not_binds_duty _ r)
  rw [turn_deactivates hslot] at hcleared
  have hcollected := hcleared.turn rfl (not_binds_collect slot slot r)
  have htokens : (setRun (r.state.run.activate slot false .command) r).state.boundTo (bus.subscriber slot).id
      = [token] := hbound
  rw [turn_collect, htokens] at hcollected
  exact hcollected.turn rfl (not_binds_disconnectAll _ r)

/-- The guard is kept along every history in which nobody is about to bind where connections are collected. -/
theorem Overlaps.guarded (hdistinct : bus.Distinct) (h : Overlaps slot r pool)
    (hbegin : r.state.run.isActive slot ∨ ∀ token, ¬Exposed slot r token) : Guarded slot pool := by
  induction h with
  | start => exact guarded_start hbegin
  | begins h duty ih => exact ih.begins duty
  | turns h hstep hapart ih => exact ih.step hdistinct hstep hapart
  | aside h haside ih => exact ih.aside haside

/-- The two subscribers of that bus have different ids. -/
theorem distinct_extSinkBus : extSinkBus.Distinct := by
  intro first second
  revert first second
  decide +kernel

/-- **Deactivation closes the door**, if nobody is about to bind a connection to the subscriber whenever its connections
are collected: it is activated, or each of its connections that is still exposed is about to be closed. When all threads
have come to their end, it is activated, or no connection is exposed. -/
theorem Overlaps.active_or_shut (hdistinct : bus.Distinct) (h : Overlaps slot r pool)
    (hbegin : r.state.run.isActive slot ∨ ∀ token, ¬Exposed slot r token) :
    (pool.state.state.run.isActive slot
        ∨ ∀ token, Exposed slot pool.state token → ∃ routine ∈ pool.threads, Closes slot token routine)
      ∧ (pool.values?.isSome → pool.state.state.run.isActive slot ∨ ∀ token, ¬Exposed slot pool.state token) := by
  have hguarded := h.guarded hdistinct hbegin
  refine ⟨hguarded.covered, fun hover => hguarded.covered.imp id fun hcovered token hexposed => ?_⟩
  obtain ⟨routine, hmem, hcloses⟩ := hcovered token hexposed
  -- a thread that is over closes nothing any more
  obtain ⟨value, rfl⟩ := Pool.exists_done_of_values? hover routine hmem
  have hgoes := isOver_of_closes hcloses
  cases hgoes

/-- A subscriber announces itself, and is then deactivated. -/
theorem extSinkBus_shut :
    ∃ r pool, Served {} (Bus.dispatch (Trial.deserted .component) 1) (extSinkBus.start { net := () }) r
      ∧ Exposed (⟨0, by decide⟩ : extSinkBus.Slot) r 1 ∧ Overlaps (⟨0, by decide⟩ : extSinkBus.Slot) r pool
      ∧ pool.values?.isSome ∧ pool.state.state.run.isActive (⟨0, by decide⟩ : extSinkBus.Slot) = false
      ∧ ∀ token, ¬Exposed (⟨0, by decide⟩ : extSinkBus.Slot) pool.state token := by
  have hrun : ((Reactor.start {} { run := extSinkBus.start { net := () } }).moves?
      (service {} (Bus.dispatch (Trial.deserted .component) 1)).toService greetAndPushMoves).any (fun r =>
        r.state.run.isActive (⟨0, by decide⟩ : extSinkBus.Slot) && r.state.boundTo (.ofName "ext") = [1]
          && (r.connection? 1).any (fun conn => !conn.closing)
          && r.state.binding? 1 = some (.ofName "ext")) = true := by
    decide +kernel
  obtain ⟨r, hmoves, hholds⟩ := (Option.any_eq_true _ _).mp hrun
  simp only [Bool.and_eq_true, decide_eq_true_eq] at hholds
  obtain ⟨⟨⟨hactive, hbound⟩, hgoes⟩, hbinding⟩ := hholds
  have hserved : Served {} (Bus.dispatch (Trial.deserted .component) 1) (extSinkBus.start { net := () }) r :=
    Reactor.Reachable.start.of_moves? hmoves
  have hslot : extSinkBus.slotOf? "ext" = some ⟨0, by decide⟩ := by decide +kernel
  -- the only thread is the deactivation, so no answer stands between its two turns
  have hoverlaps := overlaps_deactivates hslot hbound
  have hinactive : (disconnect 1 (setRun (r.state.run.activate (⟨0, by decide⟩ : extSinkBus.Slot) false .command)
      r)).state.run.isActive (⟨0, by decide⟩ : extSinkBus.Slot) = false := by
    rw [state_disconnect]
    exact Bus.Run.isActive_activate_self _ false .command r.state.run
  obtain ⟨-, hshut⟩ := hoverlaps.active_or_shut distinct_extSinkBus (.inl hactive)
  have hnone := (hshut rfl).resolve_left (by rw [hinactive]; exact Bool.false_ne_true)
  exact ⟨r, _, hserved, ⟨hgoes, hbinding⟩, hoverlaps, rfl, hinactive, hnone⟩

/-- A connection to the server of that bus is accepted. -/
def acceptMoves : List Reactor.Move :=
  [.dial, .look, .wait [.knock], .handle, .accept, .register true, .acceptDone]

/-- The server answers the announcement of a subscriber while that is deactivated: the connection is bound when the
bound ones were collected already, and stays open, though the subscriber is not activated any more. -/
theorem extSinkBus_exposed :
    ∃ r pool, Served {} (Bus.dispatch (Trial.deserted .component) 1) (extSinkBus.start { net := () }) r
      ∧ r.sockets.size < UInt64.size ∧ r.state.bindings.isEmpty
      ∧ Pool.run? [0, 1, 1, 0] ⟨r, [(Duty.answers 1 (.ofName "ext") "ext").routine extSinkBus,
          (Duty.deactivates "ext").routine extSinkBus]⟩ = some pool
      ∧ pool.values?.isSome ∧ pool.state.state.run.isActivated "ext" = false
      ∧ Exposed (⟨0, by decide⟩ : extSinkBus.Slot) pool.state 1 := by
  -- the schedule: handshake, clear, collect, bind
  have hrun : ((Reactor.start {} { run := extSinkBus.start { net := () } }).moves?
      (service {} (Bus.dispatch (Trial.deserted .component) 1)).toService acceptMoves).any (fun r =>
        r.sockets.size < UInt64.size && r.state.bindings.isEmpty
          && (Pool.run? [0, 1, 1, 0] ⟨r, [(Duty.answers 1 (.ofName "ext") "ext").routine extSinkBus,
            (Duty.deactivates "ext").routine extSinkBus]⟩).any (fun pool =>
              pool.values?.isSome && !pool.state.state.run.isActivated "ext"
                && (pool.state.connection? 1).any (fun conn => !conn.closing)
                && pool.state.state.binding? 1 = some (.ofName "ext"))) = true := by
    decide +kernel
  obtain ⟨r, hmoves, hholds⟩ := (Option.any_eq_true _ _).mp hrun
  obtain ⟨hbefore, hpool⟩ := Bool.and_eq_true_iff.mp hholds
  obtain ⟨hfew, hempty⟩ := Bool.and_eq_true_iff.mp hbefore
  obtain ⟨pool, hturns, hholds⟩ := (Option.any_eq_true _ _).mp hpool
  simp only [Bool.and_eq_true, Bool.not_eq_true', decide_eq_true_eq] at hholds
  obtain ⟨⟨⟨hover, hinactive⟩, hgoes⟩, hbound⟩ := hholds
  have hserved : Served {} (Bus.dispatch (Trial.deserted .component) 1) (extSinkBus.start { net := () }) r :=
    Reactor.Reachable.start.of_moves? hmoves
  exact ⟨r, pool, hserved, of_decide_eq_true hfew, hempty, hturns, hover, hinactive, hgoes, hbound⟩

end EventBus.Server
