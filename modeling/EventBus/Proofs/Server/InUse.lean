import EventBus.Proofs.Reactor.Lawful
import EventBus.Proofs.Service.Promises
import EventBus.Server

/-!
# A bus in use

All that can happen on a bus: its server serves connections, and threads outside run programs on it (an
application that raises events or changes activations), all in turns and in any order.

* `InUse`: the reactor of the server and the threads outside. `Reaches`: the states that come about.
* `IsLaw`: a law on the bus that every raise and every program keeps. `IsLaw.lawful`: the server keeps it then.
* `Reaches.secured`: in every state that comes about the bus is sound, and all threads are on the law.
* `Reaches.of_alone`: what a program comes to alone comes about.
-/

namespace EventBus.Bus

variable {c : Catalog} {σ : Type} {bus : Bus c σ}

/-- A bus with its server and the threads outside that use it. -/
structure InUse (bus : Bus c σ) where
  server : Reactor (Server.State bus)
  /-- What the threads outside have still to do. -/
  threads : List (Routine (Run bus) Outcome)

namespace InUse

/-- The bus in it. -/
def run (use : InUse bus) : Run bus :=
  use.server.state.run

/-- The same with another state of the bus. -/
def setRun (run : Run bus) (use : InUse bus) : InUse bus :=
  { use with server := { use.server with state := { use.server.state with run } } }

/-- States that come about on a bus: its server makes a step, a thread begins a program, or a thread makes a
turn. Raises nest up to `depth`. -/
inductive Reaches (env : Environment σ) (cfg : Config) (depth : Nat) (initial : Run bus) : InUse bus → Prop where
  | start : Reaches env cfg depth initial ⟨.start cfg { run := initial }, []⟩
  | serves {use : InUse bus} {move : Reactor.Move} {server : Reactor (Server.State bus)}
      (h : Reaches env cfg depth initial use)
      (hstep : use.server.step? (Server.service cfg (dispatch env depth)).toService move = some server) :
    Reaches env cfg depth initial { use with server }
  | begins {use : InUse bus} (h : Reaches env cfg depth initial use) (program : Program c σ) :
    Reaches env cfg depth initial { use with threads := use.threads ++ [perform (dispatch env depth) program] }
  | turns {use : InUse bus} {thread : Nat} {routine : Routine (Run bus) Outcome}
      (h : Reaches env cfg depth initial use) (hthread : use.threads[thread]? = some routine) :
    Reaches env cfg depth initial
      { use.setRun (routine.turn use.run).2 with threads := use.threads.set thread (routine.turn use.run).1 }

end InUse

/-! ## Laws -/

/-- A law on a bus: raises and programs keep it from sound states on, and so does an announcement. -/
structure IsLaw (raise : Raise bus) (sound : Run bus → Prop) (law : Run bus → Run bus → Prop) : Prop where
  refl : ∀ run, law run run
  trans : ∀ {s t u}, law s t → law t u → law s u
  leads : ∀ {s t}, law s t → sound s → sound t
  announced : ∀ id name run, law run (Run.handshake id name run).2
  raised : ∀ event out run, sound run → (raise event out).Meets law law (fun _ => sound) run
  performed : ∀ program run, sound run → (perform raise program).Meets law law (fun _ => sound) run

variable {raise : Raise bus} {sound : Run bus → Prop} {law : Run bus → Run bus → Prop} {token : Token}
  {state : Server.State bus}

/-- What is done on the bus of a server keeps there what it promises. -/
theorem meets_onBus {α : Type} {post : α → Run bus → Prop} {routine : Routine (Run bus) α}
    (h : routine.Meets law law post state.run) :
    (Server.onBus routine).Meets (fun s t => law s.run t.run) (fun s t => law s.run t.run)
      (fun value found => post value found.run) state :=
  h.within fun _ _ => rfl

/-- What is carried in keeps a law if raises do. -/
theorem IsLaw.meets_raiseEnvelope (hlaw : IsLaw raise sound law) (envelope : Envelope) (out : Option EventOut)
    (hsound : sound state.run) :
    (Server.raiseEnvelope raise envelope out).Meets (fun s t => law s.run t.run) (fun s t => law s.run t.run)
      (fun _ found => sound found.run) state := by
  rw [Server.raiseEnvelope]
  split
  · exact hsound
  · next event _ =>
    rw [Routine.meets_bind_iff]
    have hraise := meets_onBus (hlaw.raised event (out.getD event.freshOut) state.run hsound)
    exact hraise.mono (fun _ _ hkept => hkept) fun answer found hfound => hfound

/-- The answer to a frame keeps a law, since all that it does on the bus is an announcement or a raise. -/
theorem IsLaw.meets_answer (hlaw : IsLaw raise sound law) (token : Token) (frame : Frame)
    (hsound : sound state.run) :
    (Server.answer raise token frame).Meets (fun s t => law s.run t.run) (fun s t => law s.run t.run)
      (fun _ found => sound found.run) state := by
  cases frame with
  | hello id name =>
    rw [Server.answer, Routine.meets_bind_iff, Server.answerHello, Routine.meets_bind_iff]
    have hshaken : (Routine.atomic (Run.handshake id name)).Meets law law (fun _ => sound) state.run := by
      refine ⟨hlaw.announced id name state.run, fun found hfound => ?_⟩
      exact hlaw.leads hfound (hlaw.leads (hlaw.announced id name state.run) hsound)
    refine (meets_onBus hshaken).mono (fun _ _ hkept => hkept) fun status shaken hsoundShaken => ?_
    -- what a greeting binds is no part of the bus
    have hgreeted : (shaken.greet token id name status).run = shaken.run := by
      rw [Server.State.greet]
      split <;> rfl
    rw [Routine.meets_bind_iff, Routine.meets_change_iff]
    refine ⟨?_, fun found hfound => hlaw.leads ?_ hsoundShaken⟩
    · rw [hgreeted]
      exact hlaw.refl shaken.run
    · rwa [hgreeted] at hfound
  | push envelope =>
    rw [Server.answer, Routine.meets_bind_iff, Routine.meets_ask_iff]
    refine ⟨hlaw.refl state.run, fun found hfound => ?_⟩
    split
    · rw [Routine.meets_bind_iff]
      exact (hlaw.meets_raiseEnvelope envelope none (hlaw.leads hfound hsound)).mono (fun _ _ hkept => hkept)
        fun answer later hlater => hlater
    · exact hlaw.leads hfound hsound
  | request envelope out =>
    rw [Server.answer, Routine.meets_bind_iff, Routine.meets_ask_iff]
    refine ⟨hlaw.refl state.run, fun found hfound => ?_⟩
    split
    · rw [Routine.meets_bind_iff]
      refine (hlaw.meets_raiseEnvelope envelope out (hlaw.leads hfound hsound)).mono (fun _ _ hkept => hkept)
        fun answer later hlater => ?_
      cases answer with
      | none => exact hlater
      | some reply => exact hlater
    · exact hlaw.leads hfound hsound
  | helloAck status => exact hsound
  | reply status out => exact hsound

/-- The server of a bus keeps every law of the bus. -/
theorem IsLaw.lawful (hlaw : IsLaw raise sound law) (cfg : Config) :
    Reactor.Lawful (Server.service cfg raise).toService (fun state => sound state.run)
      (fun s t => law s.run t.run) where
  refl state := hlaw.refl state.run
  trans h h' := hlaw.trans h h'
  leads h := hlaw.leads h
  opened token state _ := hlaw.refl state.run
  closed token inbox state _ := hlaw.refl state.run
  received token inbox chunk answers state hsound := by
    -- opening, closing and receiving keep the state, so the law has to be kept by answers only
    have hanswers : ∀ frame (state : Server.State bus), sound state.run →
        ((Server.service cfg raise).answer token frame).Meets (fun s t => law s.run t.run)
          (fun s t => law s.run t.run) (fun _ found => sound found.run) state :=
      fun frame state => hlaw.meets_answer token frame
    have hreceived := FrameService.meets_received hanswers inbox chunk answers hsound
    exact hreceived.mono (fun _ _ hkept => hkept) fun _ _ _ => trivial

/-! ## States that come about -/

namespace InUse

variable {env : Environment σ} {cfg : Config} {depth : Nat} {initial : Run bus} {use : InUse bus}

/-- The server is on the law, and so are the threads outside. -/
structure Secured (sound : Run bus → Prop) (law : Run bus → Run bus → Prop) (use : InUse bus) : Prop where
  server : Reactor.Secured (fun state => sound state.run) (fun s t => law s.run t.run) use.server
  threads : ∀ routine ∈ use.threads, routine.Secure law law use.run

/-- In every state that comes about from a sound bus the bus is sound, and everyone is on the law. -/
theorem Reaches.secured (hlaw : IsLaw (dispatch env depth) sound law) (hsound : sound initial)
    (h : Reaches env cfg depth initial use) : Secured sound law use := by
  induction h with
  | start => exact ⟨Reactor.secured_start cfg hsound, fun _ hmem => absurd hmem List.not_mem_nil⟩
  | serves h hstep ih =>
    -- a step of the server is on the law, which is all that the threads outside rely on
    obtain ⟨hkept, hserver⟩ := ih.server.step (hlaw.lawful cfg) hstep
    exact ⟨hserver, fun routine hmem => (ih.threads routine hmem).of_rely hlaw.trans hkept⟩
  | @begins use h program ih =>
    refine ⟨ih.server, fun routine hmem => ?_⟩
    rcases List.mem_append.mp hmem with hbefore | hnew
    · exact ih.threads routine hbefore
    · rw [List.mem_singleton.mp hnew]
      intro found hfound
      exact (hlaw.performed program found (hlaw.leads hfound ih.server.sound)).mono (fun _ _ hkept => hkept)
        fun _ _ _ => trivial
  | @turns use thread routine h hthread ih =>
    have hmeets := ih.threads routine (List.mem_of_getElem? hthread) use.run (hlaw.refl use.run)
    obtain ⟨hkept, hsecure⟩ := hmeets.turn hlaw.refl
    refine ⟨ih.server.stir (hlaw.lawful cfg) hkept, fun other hmem => ?_⟩
    rcases List.mem_or_eq_of_mem_set hmem with hbefore | rfl
    · exact (ih.threads other hbefore).of_rely hlaw.trans hkept
    · exact hsecure

/-- A thread may make all its turns before any other thread does. -/
theorem Reaches.of_alone_turns {thread : Nat} {routine waiting : Routine (Run bus) Outcome} {outcome : Outcome}
    {after : Run bus} (h : Reaches env cfg depth initial use) (hthread : use.threads[thread]? = some waiting)
    (hturn : waiting.turn use.run = routine.turn use.run) (halone : routine.alone use.run = some (outcome, after)) :
    ∃ later, Reaches env cfg depth initial later ∧ later.run = after := by
  -- a look is part of the turn that it begins, so the thread still waits with what it began with
  induction routine generalizing use waiting with
  | done value =>
    cases halone
    exact ⟨use, h, rfl⟩
  | look next ih => exact ih use.run h hthread hturn halone
  | put left rest ih =>
    obtain ⟨hlt, -⟩ := List.getElem?_eq_some_iff.mp hthread
    have hlater := h.turns hthread
    rw [hturn] at hlater
    have hnext : (use.threads.set thread rest)[thread]? = some rest := List.getElem?_set_self hlt
    exact ih hlater hnext rfl halone
  | stuck => cases halone

/-- What a program comes to alone comes about. -/
theorem Reaches.of_alone {program : Program c σ} {outcome : Outcome} {after : Run bus}
    (h : Reaches env cfg depth initial use)
    (halone : (perform (dispatch env depth) program).alone use.run = some (outcome, after)) :
    ∃ later, Reaches env cfg depth initial later ∧ later.run = after := by
  have hlast : (use.threads ++ [perform (dispatch env depth) program])[use.threads.length]?
      = some (perform (dispatch env depth) program) := by simp
  exact (h.begins program).of_alone_turns hlast rfl halone

end InUse

end EventBus.Bus
