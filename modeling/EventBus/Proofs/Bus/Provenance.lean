import EventBus.Proofs.Bus.Cells
import EventBus.Proofs.Bus.Naming
import EventBus.Proofs.Bus.Walk
import EventBus.Proofs.Routine.Chronicle
import EventBus.Server

/-!
# Where activations come from

What happens on a bus as far as activations are concerned, told turn by turn.

* `Happening`: what a turn may be. `Happening.sets?` says which activations it sets, by names, ids and deliveries.
* `Happens`: what a turn that is such a happening does. A delivery that failed is followed by the deactivation that
  it calls for, and nothing else is; only a subscriber that was activated at some time is sent anything.
* `Accords`: each activation is the one that was set last. `Happens.accords`: every happening keeps that.
* `TellsOn`, `Tellable`: a routine that does nothing else. One lemma for each layer of a dispatch, and for the server
  of a bus.
* `Errand`: what a thread may be about that uses a bus, a worker of its server included.
-/

namespace EventBus.Bus

variable {c : Catalog} {σ τ : Type} {bus : Bus c σ}

/-! ## Happenings -/

/-- What a turn is for the activations of a bus. -/
inductive Happening (bus : Bus c σ) where
  /-- It concerns no connection and no activation. -/
  | nothing
  /-- A subscriber is activated or deactivated by its name. -/
  | commanded (name : String) (on : Bool)
  | announced (id : SubscriberId) (name : String)
  /-- An event is sent to a subscriber through the transport. -/
  | sent (slot : bus.Slot) (event : Event c) (result : Except TransportError Status)
  /-- A subscriber is deactivated because a delivery to it has failed. -/
  | lost (slot : bus.Slot) (error : TransportError)

namespace Happening

/-- The activation of a slot that it sets. An announcement sets that of the external subscriber with this very name,
if the id is the one of the name. -/
def sets? (slot : bus.Slot) : Happening bus → Option Bool
  | commanded name on => if (bus.subscriber slot).name = name then some on else none
  | announced id name =>
    if (bus.subscriber slot).site = .external ∧ (bus.subscriber slot).name = name ∧ .ofName name = id then some true
    else none
  | lost other _ => if slot = other then some false else none
  | nothing | sent .. => none

/-- The deactivation that it calls for: a delivery does that has failed, unless the frame was refused for its size. -/
def owes? : Happening bus → Option (bus.Slot × TransportError)
  | sent slot _ (.error e) => if e.isFrameTooLarge then none else some (slot, e)
  | _ => none

/-- The deactivation behind a failed delivery that it is. -/
def pays? : Happening bus → Option (bus.Slot × TransportError)
  | lost slot e => some (slot, e)
  | _ => none

end Happening

/-- The activation of a slot behind a history, newest first: the one that was set last, else the one it was loaded
with. -/
def setting (past : List (Happening bus)) (slot : bus.Slot) : Bool :=
  (past.findSome? (Happening.sets? slot)).getD (bus.subscriber slot).initiallyActivated

/-- At some time the subscriber at a slot was activated. -/
def Awake (past : List (Happening bus)) (slot : bus.Slot) : Prop :=
  (bus.subscriber slot).initiallyActivated ∨ ∃ happening ∈ past, happening.sets? slot = some true

/-- Each activation of a bus is the one that was set last. -/
def Accords (past : List (Happening bus)) (run : Run bus) : Prop :=
  ∀ slot, run.isActive slot = setting past slot

/-- What a turn does to the bus that is part of a state, if it is such a happening. What it does is told of the turn
as a function; only the answer to a delivery depends on the state that it finds. -/
def Happening.Effect (env : Environment σ) (part : τ → Run bus) (past : List (Happening bus)) (act : τ → τ)
    (found : τ) : Happening bus → Prop
  | nothing => ∀ state slot, Undisturbed slot (part state) (part (act state))
  | commanded name on => ∀ state, part (act state) = ((part state).setActivated name on).2
  | announced id name => ∀ state, part (act state) = ((part state).handshake id name).2
  | sent slot event result =>
    Awake past slot ∧ ∃ client view, (bus.subscriber slot).target = .external client
      ∧ (∀ state, part (act state) = ((part state).inSession slot
          (transmit env client ((bus.subscriber slot).perm event.kind) (.ofEvent event) view)).2)
      ∧ result = ((part found).inSession slot
          (transmit env client ((bus.subscriber slot).perm event.kind) (.ofEvent event) view)).1.1
  | lost slot e => ∀ state, part (act state) = (part state).activate slot false (.delivery e)

/-- What a turn is on the bus that is part of a state, given what its thread did last. -/
structure Happens (env : Environment σ) (part : τ → Run bus) (last : Option (Happening bus))
    (past : List (Happening bus)) (act : τ → τ) (found : τ) (happening : Happening bus) : Prop where
  /-- It is the deactivation that the last turn of the thread calls for, and otherwise none of that kind. -/
  due : happening.pays? = last.bind Happening.owes?
  effect : happening.Effect env part past act found

variable {env : Environment σ} {part : τ → Run bus} {last : Option (Happening bus)}
  {past later : List (Happening bus)} {act : τ → τ} {found : τ} {happening : Happening bus} {slot : bus.Slot}

/-- The latest happening decides, if it sets the activation at all. -/
theorem setting_cons (happening : Happening bus) (past : List (Happening bus)) (slot : bus.Slot) :
    setting (happening :: past) slot = (happening.sets? slot).getD (setting past slot) := by
  rw [setting, List.findSome?_cons]
  cases happening.sets? slot <;> rfl

/-- A subscriber that was awake once has been awake ever after. -/
theorem Awake.of_suffix (h : Awake past slot) (hlater : past <:+ later) : Awake later slot :=
  h.imp_right fun ⟨happening, hmem, hsets⟩ => ⟨happening, hlater.subset hmem, hsets⟩

/-- A subscriber that is activated was activated at some time. -/
theorem Accords.awake {run : Run bus} (h : Accords past run) (hactive : run.isActive slot = true) :
    Awake past slot := by
  rw [h slot, setting] at hactive
  cases hlast : past.findSome? (Happening.sets? slot) with
  | none =>
    rw [hlast] at hactive
    exact .inl hactive
  | some on =>
    rw [hlast] at hactive
    obtain rfl : on = true := hactive
    exact .inr (List.exists_of_findSome?_eq_some hlast)

/-! ## One turn -/

/-- A command changes the activation of the subscriber with that name only. -/
theorem isActive_setActivated (hdistinct : bus.Distinct) (name : String) (on : Bool) (run : Run bus)
    (slot : bus.Slot) :
    (run.setActivated name on).2.isActive slot
      = if (bus.subscriber slot).name = name then on else run.isActive slot := by
  rw [Run.setActivated]
  split
  · next found hfound =>
    -- names are distinct, so one slot at most is meant
    have hname := hdistinct.slotOf?_eq_some_iff.mp hfound
    split
    · next hsame =>
      rw [hdistinct.eq_of_name (hsame.trans hname.symm)]
      exact Run.isActive_activate_self found on .command run
    · next hother => exact Run.isActive_activate_of_ne on .command run fun hsame => hother (hsame ▸ hname)
  · next hnone =>
    rw [if_neg fun hsame => by rw [hdistinct.slotOf?_eq_some_iff.mpr hsame] at hnone; cases hnone]

/-- An accepted announcement activates its subscriber. Nobody else is activated by it, and nobody is deactivated. -/
theorem isActive_handshake (hdistinct : bus.Distinct) (id : SubscriberId) (name : String) (run : Run bus)
    (slot : bus.Slot) :
    (run.handshake id name).2.isActive slot
      = if (bus.subscriber slot).site = .external ∧ (bus.subscriber slot).name = name ∧ .ofName name = id then true
        else run.isActive slot := by
  rw [Run.handshake]
  split
  · next found hfound =>
    split
    · next hslot =>
      -- names are distinct, so the greeting can find no other slot than the one asked about
      obtain rfl : slot = found := Option.some.inj ((hdistinct.announced?_eq_some_iff.mpr hslot).symm.trans hfound)
      exact Run.isActive_activate_self slot true .handshake run
    · next hother =>
      refine Run.isActive_activate_of_ne true .handshake run fun hsame => hother ?_
      rw [hsame]
      exact hdistinct.announced?_eq_some_iff.mp hfound
  · next hnone =>
    rw [if_neg fun hslot => by rw [hdistinct.announced?_eq_some_iff.mpr hslot] at hnone; cases hnone]
    rfl

/-- Whatever happens, each activation is the one that was set last. -/
theorem Happens.accords (hdistinct : bus.Distinct) (haccords : Accords past (part found))
    (h : Happens env part last past act found happening) : Accords (happening :: past) (part (act found)) := by
  have heffect := h.effect
  intro slot
  rw [setting_cons, ← haccords slot]
  -- only the three sorts that set an activation need a look
  cases happening with
  | nothing => exact (heffect found slot).active
  | commanded name on =>
    rw [heffect found, isActive_setActivated hdistinct, Happening.sets?]
    split <;> rfl
  | announced id name =>
    rw [heffect found, isActive_handshake hdistinct, Happening.sets?]
    split <;> rfl
  | sent other event result =>
    obtain ⟨-, client, view, -, hsent, -⟩ := heffect
    rw [hsent found]
    exact Run.isActive_inSession other slot _ (part found)
  | lost other e =>
    rw [heffect found, Happening.sets?]
    split
    · next hsame =>
      rw [hsame]
      exact Run.isActive_activate_self other false (.delivery e) (part found)
    · next hother => exact Run.isActive_activate_of_ne false (.delivery e) (part found) hother

/-! ## Routines -/

/-- From here on, each turn of a routine is a happening on the bus that is part of its state, and at its end no
deactivation is due. -/
def TellsOn {α : Type} (env : Environment σ) (part : τ → Run bus) (routine : Routine τ α)
    (last : Option (Happening bus)) (past : List (Happening bus)) (state : τ) : Prop :=
  routine.Tells (Happens env part) (fun past state => Accords past (part state))
    (fun _ last past state => last.bind Happening.owes? = none ∧ Accords past (part state)) last past state

/-- A routine that tells what it does wherever it begins, if no deactivation is due there. -/
def Tellable {α : Type} (env : Environment σ) (part : τ → Run bus) (routine : Routine τ α) : Prop :=
  ∀ last past state, last.bind Happening.owes? = none → Accords past (part state) →
    TellsOn env part routine last past state

section Tellable

variable {α β : Type}

/-- A routine tells of its turns in two parts, the second behind whatever the first has told. -/
theorem TellsOn.bind {routine : Routine τ α} {rest : α → Routine τ β} {state : τ}
    (h : TellsOn env part routine last past state) (hrest : ∀ value, Tellable env part (rest value)) :
    TellsOn env part (routine >>= rest) last past state := by
  refine Routine.Tells.bind (Routine.Tells.mono h ?_)
  rintro value last past state ⟨howes, haccords⟩
  exact hrest value last past state howes haccords

/-- A routine that is over has nothing to tell. -/
theorem tellable_pure (value : α) : Tellable env part (pure value : Routine τ α) :=
  fun _ _ _ howes haccords => .done ⟨howes, haccords⟩

/-- Two routines that only tell of happenings do so one after the other. -/
theorem Tellable.bind {routine : Routine τ α} {rest : α → Routine τ β} (h : Tellable env part routine)
    (hrest : ∀ value, Tellable env part (rest value)) : Tellable env part (routine >>= rest) :=
  fun last past state howes haccords => (h last past state howes haccords).bind hrest

/-- A turn that is no delivery and no deactivation behind one. -/
theorem tellable_atomic {act : τ → α × τ} (happening : Happening bus) (howes : happening.owes? = none)
    (hpays : happening.pays? = none)
    (heffect : ∀ past state, happening.Effect env part past (fun state => (act state).2) state) :
    Tellable env part (.atomic act) :=
  fun _ past state hlast _ => Routine.tells_atomic happening ⟨hpays.trans hlast.symm, heffect past state⟩
    fun _ _ _ haccords => ⟨howes, haccords⟩

/-- A turn that changes no connection and no activation is nothing that happens. -/
theorem tellable_quiet {act : τ → α × τ} (hquiet : ∀ state slot, Undisturbed slot (part state) (part (act state).2)) :
    Tellable env part (.atomic act) :=
  tellable_atomic .nothing rfl rfl fun _ _ => hquiet

/-- What leaves the bus as it is. -/
theorem tellable_aside {act : τ → α × τ} (hsame : ∀ state, part (act state).2 = part state) :
    Tellable env part (.atomic act) :=
  tellable_quiet fun state _ => by
    rw [hsame state]
    exact ⟨rfl, rfl⟩

/-- To look at the state is nothing that happens. -/
theorem tellable_ask (f : τ → α) : Tellable env part (.ask f) :=
  tellable_aside fun _ => rfl

end Tellable

variable {raise : Raise bus} {run : Run bus}

theorem tellable_commanded (name : String) (on : Bool) :
    Tellable env id (Routine.atomic (Run.setActivated name on) : Routine (Run bus) Bool) :=
  tellable_atomic (.commanded name on) rfl rfl fun _ _ _ => rfl

theorem tellable_announced (subscriber : SubscriberId) (name : String) :
    Tellable env id (Routine.atomic (Run.handshake subscriber name) : Routine (Run bus) Status) :=
  tellable_atomic (.announced subscriber name) rfl rfl fun _ _ _ => rfl

/-- The changes of a run that only count and note. -/
theorem tellable_recorded {f : Run bus → Run bus} (hrecorded : ∀ run, Recorded run (f run)) :
    Tellable env id (.change f) :=
  tellable_quiet fun run => (hrecorded run).undisturbed

/-- A handler can do to activations what its program can: commands and announcements, and whatever its raises
lead to. -/
theorem tellable_perform (hraise : ∀ event out, Tellable env id (raise event out)) (program : Program c σ) :
    Tellable env id (perform raise program) := by
  -- on the program; each of its steps is a turn, and a raise is a routine of its own
  induction program with
  | finish outcome => exact tellable_pure outcome
  | setActivated name on next ih => exact (tellable_commanded name on).bind ih
  | isActivated name next ih => exact (tellable_ask _).bind ih
  | handshake id name next ih => exact (tellable_announced id name).bind ih
  | raise event out next ih =>
    exact (tellable_recorded (recorded_enter (.raised event))).bind fun _ =>
      (hraise event out).bind fun (status, left) => ih status left
  | note record next ih => exact (tellable_recorded (recorded_enter (.noted record))).bind fun _ => ih
  | look next ih => exact (tellable_ask _).bind ih
  | change f next ih => exact (tellable_quiet fun _ _ => ⟨rfl, rfl⟩).bind fun _ => ih

/-- A delivery sends the event, and deactivates its subscriber if that fails with anything but the size of the
frame. -/
theorem tells_deliver {client : Client} (htarget : (bus.subscriber slot).target = .external client)
    (event : Event c) (view : Option EventOut) (howes : last.bind Happening.owes? = none)
    (hawake : Awake past slot) : TellsOn env id (deliver env slot client event view) last past run := by
  rw [deliver]
  generalize hsent : run.inSession slot
    (transmit env client ((bus.subscriber slot).perm event.kind) (.ofEvent event) view) = answer
  obtain ⟨⟨result, back⟩, sent⟩ := answer
  have heffect : (Happening.sent slot event result).Effect env id past
      (fun run => (run.inSession slot
        (transmit env client ((bus.subscriber slot).perm event.kind) (.ofEvent event) view)).2) run :=
    ⟨hawake, client, view, htarget, fun _ => rfl, by rw [id, hsent]⟩
  refine Routine.Tells.bind (Routine.tells_atomic (.sent slot event result) ⟨howes.symm, heffect⟩ ?_)
  rw [hsent]
  intro later found _ haccords
  -- a delivery that has failed owes a deactivation, which is the next turn, unless the frame was too large
  cases result with
  | ok status => exact .done ⟨rfl, haccords⟩
  | error e =>
    have hdue : (some (Happening.sent slot event (.error e))).bind Happening.owes?
        = if e.isFrameTooLarge then none else some (slot, e) := rfl
    dsimp only
    cases hlarge : e.isFrameTooLarge with
    | true =>
      rw [hlarge, if_pos rfl] at hdue
      exact .done ⟨hdue, haccords⟩
    | false =>
      rw [hlarge, if_neg Bool.false_ne_true] at hdue
      exact Routine.Tells.bind (Routine.tells_atomic (.lost slot e) ⟨hdue.symm, fun _ => rfl⟩
        fun _ _ _ haccords => .done ⟨rfl, haccords⟩)

/-- An invocation is a delivery, or a call of a handler that tells of what it does. -/
theorem tells_invoke (hraise : ∀ event out, Tellable env id (raise event out)) (event : Event c)
    (view : Option EventOut) (howes : last.bind Happening.owes? = none) (haccords : Accords past run)
    (hawake : Awake past slot) : TellsOn env id (invoke env raise slot event view) last past run := by
  rw [invoke]
  split
  · next client htarget => exact tells_deliver htarget event view howes hawake
  · split
    · next handler _ =>
      have hcall : Tellable env id (callHandler raise (bus.subscriber slot).name handler event view) :=
        (tellable_perform hraise (handler.handle event view)).bind fun _ => tellable_pure _
      exact hcall last past run howes haccords
    · exact .done ⟨howes, haccords⟩

/-- Around the invocation there is only counting, so that the subscriber is still awake when it is invoked. -/
theorem tells_serve (hraise : ∀ event out, Tellable env id (raise event out)) (event : Event c) (out : EventOut)
    (howes : last.bind Happening.owes? = none) (hawake : Awake past slot) :
    TellsOn env id (serve env raise slot event out) last past run := by
  rw [serve]
  have hbegun : (Happening.nothing : Happening bus).Effect env id past (fun run => run.begin slot event) run :=
    fun run => (recorded_begin slot event run).undisturbed
  refine Routine.Tells.bind (Routine.tells_atomic .nothing ⟨howes.symm, hbegun⟩ fun later found hlater haccords => ?_)
  have hawake := hawake.of_suffix ((List.suffix_cons _ _).trans hlater)
  refine (tells_invoke hraise event _ rfl haccords hawake).bind fun response => ?_
  exact (tellable_recorded fun run => recorded_finish slot _ _ _ run).bind fun _ => tellable_pure _

/-- Whether the chain goes on or stops is nothing that happens. -/
theorem tellable_goOn {slots : List bus.Slot} {event : Event c}
    (hrest : ∀ out, Tellable env id (walk env raise event slots out)) (slot : bus.Slot)
    (served : Option DispatchError × EventOut) : Tellable env id (goOn env raise event slot slots served) := by
  obtain ⟨failure, left⟩ := served
  cases failure with
  | none => exact hrest left
  | some error =>
    rw [goOn]
    split
    · exact (tellable_recorded (recorded_enter _)).bind fun _ => tellable_pure _
    · exact (tellable_recorded (recorded_enter _)).bind fun _ => hrest left

/-- A chain: who is found activated is awake, since activations accord with the past. -/
theorem tellable_walk (hraise : ∀ event out, Tellable env id (raise event out)) (event : Event c)
    (slots : List bus.Slot) (out : EventOut) : Tellable env id (walk env raise event slots out) := by
  induction slots generalizing out with
  | nil => exact tellable_pure (Status.ok, out)
  | cons slot slots ih =>
    rw [walk_cons]
    intro last past run howes haccords
    have hconsidered : (Happening.nothing : Happening bus).Effect env id past
        (fun run => (run.consider slot event).2) run :=
      fun run => (recorded_consider slot event run).undisturbed
    refine Routine.Tells.bind (Routine.tells_atomic .nothing ⟨howes.symm, hconsidered⟩
      fun later found hlater hfound => ?_)
    cases hactive : run.isActive slot with
    | false =>
      rw [Run.consider_of_not_isActive hactive]
      exact ih out _ later found rfl hfound
    | true =>
      rw [Run.consider_of_isActive hactive]
      -- active at its turn means that the history so far has woken it
      have hawake := (haccords.awake hactive).of_suffix ((List.suffix_cons _ _).trans hlater)
      exact (tells_serve hraise event out rfl hawake).bind (tellable_goOn ih slot)

/-- A dispatch, by induction on how deep raises may be nested. -/
theorem tellable_dispatch (env : Environment σ) (depth : Nat) (event : Event c) (out : EventOut) :
    Tellable env id (dispatch env depth event out : Routine (Run bus) (Status × EventOut)) := by
  induction depth generalizing event out with
  | zero => exact fun _ _ _ _ _ => .stuck
  | succ depth ih =>
    rw [dispatch, dispatchBy]
    split
    · exact tellable_pure (Status.ok, out)
    · exact (tellable_recorded (recorded_trigger event)).bind fun _ => tellable_walk ih event _ out

/-! ## A bus with its server -/

section Server

/-- A happening on the bus of a server. -/
theorem Happens.onBus {act : Run bus → Run bus} {state : Server.State bus}
    (h : Happens env id last past act state.run happening) :
    Happens env Server.State.run last past (fun state => { state with run := act state.run }) state happening := by
  refine ⟨h.due, ?_⟩
  have heffect := h.effect
  cases happening with
  | nothing => exact fun state => heffect state.run
  | commanded name on => exact fun state => heffect state.run
  | announced id name => exact fun state => heffect state.run
  | sent slot event result =>
    obtain ⟨hawake, client, view, htarget, hsent, hresult⟩ := heffect
    exact ⟨hawake, client, view, htarget, fun state => hsent state.run, hresult⟩
  | lost slot e => exact fun state => heffect state.run

/-- The server holds the bus as one part of its state. -/
theorem Tellable.onBus {α : Type} {routine : Routine (Run bus) α} (h : Tellable env id routine) :
    Tellable env Server.State.run (Server.onBus routine) :=
  fun last past state howes haccords => (h last past state.run howes haccords).within fun hhappens => hhappens.onBus

/-- What is carried in is raised, if it can be read. -/
theorem tellable_raiseEnvelope (hraise : ∀ event out, Tellable env id (raise event out)) (envelope : Envelope)
    (out : Option EventOut) : Tellable env Server.State.run (Server.raiseEnvelope raise envelope out) := by
  rw [Server.raiseEnvelope]
  split
  · exact tellable_pure none
  · next event _ => exact (hraise event _).onBus.bind fun answer => tellable_pure (some answer)

/-- To bind a connection is not a matter of the bus. -/
theorem run_greet (token : Token) (id : SubscriberId) (name : String) (status : Status) (state : Server.State bus) :
    (state.greet token id name status).run = state.run := by
  rw [Server.State.greet]
  split <;> rfl

/-- What answers a frame: a handshake, or a dispatch of what is carried. -/
theorem tellable_answer (hraise : ∀ event out, Tellable env id (raise event out)) (token : Token) (frame : Frame) :
    Tellable env Server.State.run (Server.answer raise token frame) := by
  cases frame with
  | hello subscriber name =>
    refine Tellable.bind ?_ fun status => tellable_pure _
    -- only a greeting tells something; events tell what their dispatch tells
    refine (tellable_announced subscriber name).onBus.bind fun status => ?_
    have hgreeted : Tellable env Server.State.run
        (.change (Server.State.greet token subscriber name status) : Routine (Server.State bus) Unit) :=
      tellable_aside (run_greet token subscriber name status)
    exact hgreeted.bind fun _ => tellable_pure status
  | push envelope =>
    refine (tellable_ask _).bind fun allowed => ?_
    split
    · exact (tellable_raiseEnvelope hraise envelope none).bind fun _ => tellable_pure _
    · exact tellable_pure Answer.silent
  | request envelope out =>
    refine (tellable_ask _).bind fun allowed => ?_
    split
    · refine (tellable_raiseEnvelope hraise envelope out).bind fun answer => ?_
      cases answer with
      | none => exact tellable_pure _
      | some reply => exact tellable_pure _
    · exact tellable_pure _
  | helloAck status => exact tellable_pure _
  | reply status out => exact tellable_pure _

end Server

theorem tellable_answerAll {service : FrameService τ} {part : τ → Run bus} {token : Token}
    (hanswer : ∀ frame, Tellable env part (service.answer token frame)) (written : List Bytes) (frames : List Frame)
    (answers : WriteAnswers) : Tellable env part (service.answerAll token written frames answers) := by
  induction frames generalizing written answers with
  | nil => exact tellable_pure (written.reverse, none)
  | cons frame frames ih =>
    refine (hanswer frame).bind fun answer => ?_
    cases answer with
    | silent => exact ih written answers
    | refuse e => exact tellable_pure (written.reverse, some e)
    -- sending tells nothing; it only decides whether the loop goes on
    | reply reply =>
      dsimp only
      split
      · exact ih _ _
      · exact tellable_pure _

/-- Serving a chunk tells of what answering its frames does. -/
theorem tellable_received {service : FrameService τ} {part : τ → Run bus} {token : Token}
    (hanswer : ∀ frame, Tellable env part (service.answer token frame)) (inbox : Inbox) (chunk : Bytes)
    (answers : WriteAnswers) : Tellable env part (service.received token inbox chunk answers) := by
  rw [FrameService.received]
  split
  · exact tellable_pure _
  · exact (tellable_answerAll hanswer [] _ answers).bind fun _ => tellable_pure _

/-! ## Threads -/

/-- What a thread sets out to do that uses a bus. -/
inductive Errand (c : Catalog) (σ : Type) where
  /-- It runs a program, with raises nested up to a depth. -/
  | runs (depth : Nat) (program : Program c σ)
  /-- As a worker of the server it serves a chunk that has arrived on a connection. -/
  | serves (cfg : Config) (depth : Nat) (token : Token) (inbox : Inbox) (chunk : Bytes) (answers : WriteAnswers)
  /-- The server is told that a connection is closed. -/
  | closes (token : Token)

/-- The turns that the thread makes on a server. -/
def Errand.routine (bus : Bus c σ) (env : Environment σ) : Errand c σ → Routine (Server.State bus) Unit
  | runs depth program => do
    let _ ← Server.onBus (perform (dispatch env depth) program)
  | serves cfg depth token inbox chunk answers => do
    let _ ← (Server.service cfg (dispatch env depth)).received token inbox chunk answers
  | closes token => .change (Server.State.release token)

/-- Whatever a thread is about, all that it does to activations is one of the happenings. -/
theorem tellable_errand (errand : Errand c σ) : Tellable env Server.State.run (errand.routine bus env) := by
  cases errand with
  | runs depth program =>
    exact (tellable_perform (tellable_dispatch env depth) program).onBus.bind fun _ => tellable_pure ()
  | serves cfg depth token inbox chunk answers =>
    exact (tellable_received (tellable_answer (tellable_dispatch env depth) token) inbox chunk answers).bind
      fun _ => tellable_pure ()
  | closes token =>
    show Tellable env Server.State.run (.change (Server.State.release token))
    exact tellable_aside fun _ => rfl

/-- A thread on a bus: it begins an errand. -/
def OnErrand (bus : Bus c σ) (env : Environment σ) (routine : Routine (Server.State bus) Unit) : Prop :=
  ∃ errand : Errand c σ, routine = errand.routine bus env

end EventBus.Bus
