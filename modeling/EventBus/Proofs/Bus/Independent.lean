import EventBus.Proofs.Bus.Counts
import EventBus.Proofs.Routine.Account

/-!
# Dispatches that do not depend on each other

Threads are independent if what each of them relies on is kept by all the others, and as long as it is kept, what a
thread enters in the journal is fixed. The counts of such threads add up to the same in every interleaving.

* `Independent`, `Independent.count_eq`: that, for any relations to rely on.
* `Footprint`: activations and parts of the surroundings that a thread may see, and those that it may change.
  `Program.Within`: a program keeps to a footprint. `Footprint.Closed`: so do the handlers that its raises reach.
* `independent_of_spares`: threads are independent if none changes what another one may see.
-/

namespace EventBus

/-! ## Footprints -/

/-- What a thread may see of a bus, and what it may do to it. -/
structure Bus.Footprint {c : Catalog} {σ : Type} (bus : Bus c σ) where
  raises : c.Kind → Prop
  /-- Slots whose activation it may see. -/
  sees : bus.Slot → Prop
  /-- Slots whose activation it may change. -/
  changes : bus.Slot → Prop
  Part : Type
  /-- The part of the surroundings that it may see. -/
  view : σ → Part
  /-- What it may do to the surroundings. -/
  stirs : (σ → σ) → Prop

/-- A program keeps to a footprint, whatever the answers are. -/
def Program.Within {c : Catalog} {σ : Type} {bus : Bus c σ} (print : bus.Footprint) : Program c σ → Prop
  | finish _ => True
  | setActivated name _ next => (∀ slot, bus.slotOf? name = some slot → print.changes slot) ∧ ∀ known, (next known).Within print
  | isActivated name next => (∀ slot, bus.slotOf? name = some slot → print.sees slot) ∧ ∀ active, (next active).Within print
  | handshake id name next =>
    (∀ slot, Bus.Run.announced? bus id name = some slot → print.changes slot) ∧ ∀ verdict, (next verdict).Within print
  | raise event _ next => print.raises event.kind ∧ ∀ status out, (next status out).Within print
  | note _ next => next.Within print
  | look next =>
    (∀ world world', print.view world = print.view world' → next world = next world') ∧ ∀ world, (next world).Within print
  | change f next => print.stirs f ∧ next.Within print

namespace Bus

variable {c : Catalog} {σ : Type} {bus : Bus c σ}

namespace Footprint

/-- Two states look the same. -/
structure Same (print : bus.Footprint) (run run' : Run bus) : Prop where
  active : ∀ slot, print.sees slot → run'.isActive slot = run.isActive slot
  world : print.view run'.world = print.view run.world

theorem Same.refl (print : bus.Footprint) (run : Run bus) : print.Same run run :=
  ⟨fun _ _ => rfl, rfl⟩

theorem Same.trans {print : bus.Footprint} {run run' run'' : Run bus} (h : print.Same run run')
    (h' : print.Same run' run'') : print.Same run run'' :=
  ⟨fun slot hsees => (h'.active slot hsees).trans (h.active slot hsees), h'.world.trans h.world⟩

/-- Nothing that one thread may do changes what another one may see. -/
structure Spares (print other : bus.Footprint) : Prop where
  slots : ∀ slot, print.changes slot → ¬other.sees slot
  world : ∀ f, print.stirs f → ∀ world, other.view (f world) = other.view world

/-- What is done within a footprint looks like nothing to those that it spares. -/
def Grants (print : bus.Footprint) (run run' : Run bus) : Prop :=
  ∀ other : bus.Footprint, print.Spares other → other.Same run run'

/-- All that the raises of a thread lead to is within its footprint. -/
structure Closed (print : bus.Footprint) : Prop where
  sees : ∀ kind, print.raises kind → ∀ slot ∈ bus.chain kind, print.sees slot
  internal : ∀ kind, print.raises kind → ∀ slot ∈ bus.chain kind, ∀ client,
    (bus.subscriber slot).target ≠ .external client
  handlers : ∀ event, print.raises event.kind → ∀ slot ∈ bus.chain event.kind, ∀ handler,
    (bus.subscriber slot).handler? event.kind = some handler → ∀ view, (handler.handle event view).Within print
  world : ∀ f, print.stirs f → ∀ {world world'}, print.view world' = print.view world →
    print.view (f world') = print.view (f world)

end Footprint

/-! ## Turns within a footprint -/

variable {α β : Type} {print : bus.Footprint} {what : Count bus}

/-- A turn leads from states that look the same to states that look the same, keeps to the footprint and adds a fixed
number to a count. -/
structure Steady (print : bus.Footprint) (what : Count bus) (f : Run bus → Run bus) (added : Nat) : Prop where
  same : ∀ {run run'}, print.Same run run' → print.Same (f run) (f run')
  grants : ∀ run, print.Grants run (f run)
  adds : ∀ run, (f run).count what.sort = run.count what.sort + added

/-- Counting and noting show in no footprint. -/
theorem Recorded.same {run kept : Run bus} (h : Recorded run kept) (print : bus.Footprint) : print.Same run kept :=
  ⟨fun slot _ => (h.undisturbed slot).active, congrArg print.view h.world⟩

/-- Two states that show the same still do so when something was counted on both. -/
theorem Footprint.Same.recorded {run run' kept kept' : Run bus} (h : print.Same run run') (hkept : Recorded run kept)
    (hkept' : Recorded run' kept') : print.Same kept kept' where
  active slot hsees := by
    rw [(hkept'.undisturbed slot).active, (hkept.undisturbed slot).active, h.active slot hsees]
  world := by rw [hkept'.world, hkept.world, h.world]

/-- An operation that only enters something in the journal adds what that is worth. -/
theorem steady_of_recorded {f : Run bus → Run bus} {entry : Entry bus} (hrecorded : ∀ run, Recorded run (f run))
    (hentry : ∀ run, (f run).journal = entry :: run.journal) :
    Steady print what f (if what.sort entry then 1 else 0) where
  same {run run'} h := h.recorded (hrecorded run) (hrecorded run')
  grants run other _ := (hrecorded run).same other
  adds run := Run.count_of_journal (hentry run)

theorem steady_note {entry : Entry bus} (hnote : entry.isNote) : Steady print what (Run.enter entry) 0 := by
  have h : Steady print what (Run.enter entry) _ := steady_of_recorded (recorded_enter entry) fun _ => rfl
  rwa [what.sort_of_isNote entry hnote] at h

/-- What is answered is whether the slot is activated. -/
theorem Run.consider_fst (slot : bus.Slot) (event : Event c) (run : Run bus) :
    (run.consider slot event).1 = run.isActive slot := by
  cases hactive : run.isActive slot with
  | false => rw [consider_of_not_isActive hactive]
  | true => rw [consider_of_isActive hactive]

/-- The look at an activation counts nothing, though it may be noted. -/
theorem steady_consider (slot : bus.Slot) (event : Event c) :
    Steady print what (fun run => (run.consider slot event).2) 0 where
  same {run run'} h := h.recorded (recorded_consider slot event run) (recorded_consider slot event run')
  grants run other _ := (recorded_consider slot event run).same other
  adds run := by
    cases hactive : run.isActive slot with
    | true => rw [Run.consider_of_isActive hactive, add_zero]
    | false =>
      rw [Run.consider_of_not_isActive hactive]
      exact Run.count_of_isNote what (.passedOver slot event) rfl rfl

theorem steady_id : Steady print what id 0 where
  same h := h
  grants _ _ _ := .refl _ _
  adds _ := rfl

/-- A change of an activation that the footprint allows counts nothing, and others do not see it. -/
theorem steady_activate {slot : bus.Slot} (hchanges : print.changes slot) (on : Bool) (cause : Cause) :
    Steady print what (Run.activate slot on cause) 0 where
  same {run run'} h := by
    refine ⟨fun other hsees => ?_, h.world⟩
    -- at the slot itself both states have what was set, elsewhere what they had
    by_cases hsame : other = slot
    · subst hsame
      rw [Run.isActive_activate_self, Run.isActive_activate_self]
    · rw [Run.isActive_activate_of_ne _ _ _ hsame, Run.isActive_activate_of_ne _ _ _ hsame, h.active other hsees]
  grants run other hspares := by
    refine ⟨fun slot' hsees => Run.isActive_activate_of_ne on cause run fun hsame => ?_, rfl⟩
    subst hsame
    exact hspares.slots slot' hchanges hsees
  adds run := Run.count_of_isNote what (.activation slot on (run.isActive slot != on) cause) rfl rfl

/-- A change of the surroundings that the footprint allows counts nothing, and others do not see it. -/
theorem steady_world (hclosed : print.Closed) {f : σ → σ} (hstirs : print.stirs f) :
    Steady print what (Run.modifyWorld f) 0 where
  same h := ⟨h.active, hclosed.world f hstirs h.world⟩
  grants run _ hspares := ⟨fun _ _ => rfl, hspares.world f hstirs run.world⟩
  adds _ := rfl

/-! ## Routines within a footprint -/

/-- From all states that look the same, a routine comes to one value, adds as much to a count and leaves states that
look the same, as long as other threads spare its footprint. -/
def FixedAs (print : bus.Footprint) (what : Count bus) (value : α) (tally : ℤ) (target : Run bus)
    (routine : Routine (Run bus) α) (run : Run bus) : Prop :=
  ∀ found held, print.Same run found →
    routine.Accounts (fun run => run.count what.sort) print.Same print.Grants (fun _ => True)
      (fun value' later after => value' = value ∧ print.Same target later ∧ after = held + tally) found held

/-- What the routine comes to and what it adds to the count is fixed, whatever others do outside of the footprint. -/
def Fixed (print : bus.Footprint) (what : Count bus) (routine : Routine (Run bus) α) (run : Run bus) : Prop :=
  ∃ value tally target, FixedAs print what value tally target routine run

theorem fixedAs_pure (value : α) (run : Run bus) : FixedAs print what value 0 run (pure value) run :=
  fun found held hsame => ⟨rfl, hsame, by omega⟩

/-- What is fixed depends on the state only as far as the footprint shows it. -/
theorem FixedAs.of_same {routine : Routine (Run bus) α} {value : α} {tally : ℤ} {run run' target : Run bus}
    (h : FixedAs print what value tally target routine run) (hsame : print.Same run run') :
    FixedAs print what value tally target routine run' :=
  fun found held hfound => h found held (hsame.trans hfound)

/-- One after the other, two routines add the sum. -/
theorem FixedAs.bind {routine : Routine (Run bus) α} {rest : α → Routine (Run bus) β} {first : α} {value : β}
    {tally tally' : ℤ} {run middle target : Run bus} (h : FixedAs print what first tally middle routine run)
    (hrest : FixedAs print what value tally' target (rest first) middle) :
    FixedAs print what value (tally + tally') target (routine >>= rest) run := by
  intro found held hsame
  refine Routine.accounts_bind_iff.mpr ((h found held hsame).mono (fun _ hallowed => hallowed) ?_)
  rintro _ later after ⟨rfl, hlater, rfl⟩
  refine (hrest later _ hlater).mono (fun _ hallowed => hallowed) ?_
  rintro _ ended final ⟨rfl, hended, rfl⟩
  exact ⟨rfl, hended, by omega⟩

/-- A turn of its own in front of a routine. Its answer may differ between states that look the same, if that makes
no difference to the rest. -/
theorem fixedAs_atomic_bind {act : Run bus → α × Run bus} {rest : α → Routine (Run bus) β} {value : β} {tally : ℤ}
    {run target : Run bus} {added : Nat} (hsteady : Steady print what (fun run => (act run).2) added)
    (hrest : ∀ found, print.Same run found → FixedAs print what value tally target (rest (act found).1) (act run).2) :
    FixedAs print what value (added + tally) target (.atomic act >>= rest) run := by
  intro found held hsame
  have hadds := hsteady.adds found
  have hadded : ((act found).2.count what.sort : ℤ) - found.count what.sort = added := by omega
  refine Routine.accounts_atomic_bind (hsteady.grants found) trivial fun later hlater => ?_
  rw [hadded]
  refine (hrest found hsame later _ ((hsteady.same hsame).trans hlater)).mono (fun _ hallowed => hallowed) ?_
  rintro _ ended after ⟨rfl, hended, rfl⟩
  exact ⟨rfl, hended, by omega⟩

theorem fixed_pure (value : α) (run : Run bus) : Fixed print what (pure value) run :=
  ⟨value, 0, run, fixedAs_pure value run⟩

/-- A fixed routine leads to one state as far as it shows, so what follows is fixed if it is so from each. -/
theorem Fixed.bind {routine : Routine (Run bus) α} {rest : α → Routine (Run bus) β} {run : Run bus}
    (h : Fixed print what routine run) (hrest : ∀ value target, Fixed print what (rest value) target) :
    Fixed print what (routine >>= rest) run := by
  obtain ⟨first, tally, middle, h⟩ := h
  obtain ⟨value, tally', target, h'⟩ := hrest first middle
  exact ⟨value, tally + tally', target, h.bind h'⟩

/-- A turn is fixed if its answer shows in the footprint and what it does is steady. -/
theorem fixed_atomic_bind {act : Run bus → α × Run bus} {rest : α → Routine (Run bus) β} {run : Run bus} {added : Nat}
    (hsteady : Steady print what (fun run => (act run).2) added)
    (hanswer : ∀ found, print.Same run found → rest (act found).1 = rest (act run).1)
    (hrest : Fixed print what (rest (act run).1) (act run).2) : Fixed print what (.atomic act >>= rest) run := by
  obtain ⟨value, tally, target, h⟩ := hrest
  refine ⟨value, added + tally, target, fixedAs_atomic_bind hsteady fun found hsame => ?_⟩
  rw [hanswer found hsame]
  exact h

variable {env : Environment σ} {raise : Raise bus}

/-- A program within a footprint is fixed if the raises are that it makes. -/
theorem fixed_perform (hclosed : print.Closed)
    (hraise : ∀ event, print.raises event.kind → ∀ out run, Fixed print what (raise event out) run)
    {program : Program c σ} (h : program.Within print) (run : Run bus) :
    Fixed print what (perform raise program) run := by
  -- on the program; a command for an unknown name changes nothing, and then there is nothing to allow
  induction program generalizing run with
  | finish outcome => exact fixed_pure outcome run
  | setActivated name on next ih =>
    cases hslot : bus.slotOf? name with
    | none =>
      have hact : Run.setActivated name on = fun run : Run bus => (false, run) :=
        funext (Run.setActivated_of_unknown hslot on)
      rw [perform, hact]
      exact fixed_atomic_bind steady_id (fun _ _ => rfl) (ih false (h.2 false) run)
    | some slot =>
      have hact : Run.setActivated name on = fun run : Run bus => (true, run.activate slot on .command) :=
        funext (Run.setActivated_of_slotOf? hslot on)
      rw [perform, hact]
      exact fixed_atomic_bind (steady_activate (h.1 slot hslot) on .command) (fun _ _ => rfl) (ih true (h.2 true) _)
  | isActivated name next ih =>
    refine fixed_atomic_bind steady_id (fun found hsame => ?_) (ih _ (h.2 _) run)
    have hanswer : found.isActivated name = run.isActivated name := by
      unfold Run.isActivated
      cases hslot : bus.slotOf? name with
      | none => rfl
      | some slot => exact hsame.active slot (h.1 slot hslot)
    exact congrArg (fun active => perform raise (next active)) hanswer
  | handshake id name next ih =>
    cases hslot : Run.announced? bus id name with
    | none =>
      have hact : Run.handshake id name = fun run : Run bus => (.failure, run.enter (.refused id name)) :=
        funext (Run.handshake_of_unannounced hslot)
      rw [perform, hact]
      exact fixed_atomic_bind (steady_note rfl) (fun _ _ => rfl) (ih _ (h.2 _) _)
    | some slot =>
      have hact : Run.handshake id name = fun run : Run bus => (.ok, run.activate slot true .handshake) :=
        funext (Run.handshake_of_announced hslot)
      rw [perform, hact]
      exact fixed_atomic_bind (steady_activate (h.1 slot hslot) true .handshake) (fun _ _ => rfl) (ih _ (h.2 _) _)
  | raise event out next ih =>
    refine fixed_atomic_bind (steady_note rfl) (fun _ _ => rfl) ((hraise event h.1 out _).bind ?_)
    exact fun (status, left) target => ih status left (h.2 status left) target
  | note record next ih => exact fixed_atomic_bind (steady_note rfl) (fun _ _ => rfl) (ih h _)
  | look next ih =>
    refine fixed_atomic_bind steady_id (fun found hsame => ?_) (ih _ (h.2 _) run)
    exact congrArg (perform raise) (h.1 found.world run.world hsame.world)
  | change f next ih => exact fixed_atomic_bind (steady_world hclosed h.1) (fun _ _ => rfl) (ih h.2 _)

variable {event : Event c} (hclosed : print.Closed) (hevent : print.raises event.kind)
  (hraise : ∀ event, print.raises event.kind → ∀ out run, Fixed print what (raise event out) run)

include hclosed hevent hraise

/-- An internal subscriber runs a handler that keeps to the footprint. -/
theorem fixed_invoke {slot : bus.Slot} (hslot : slot ∈ bus.chain event.kind) (view : Option EventOut) (run : Run bus) :
    Fixed print what (invoke env raise slot event view) run := by
  rw [invoke]
  split
  · next client htarget => exact absurd htarget (hclosed.internal event.kind hevent slot hslot client)
  · split
    · next handler hhandler =>
      have hwithin := hclosed.handlers event hevent slot hslot handler hhandler view
      exact (fixed_perform hclosed hraise hwithin run).bind fun outcome target => fixed_pure _ target
    · exact fixed_pure _ run

/-- What is counted when a slot is served does not depend on how long it took. -/
theorem fixed_serve {slot : bus.Slot} (hslot : slot ∈ bus.chain event.kind) (out : EventOut) (run : Run bus) :
    Fixed print what (serve env raise slot event out) run := by
  let perm := (bus.subscriber slot).perm event.kind
  have hinvoke : Fixed print what (invoke env raise slot event (viewOf perm out)) (run.begin slot event) :=
    fixed_invoke hclosed hevent hraise hslot _ _
  obtain ⟨response, tally, ended, hinvoke⟩ := hinvoke
  -- neither the time that is read at the beginning nor the one at the end makes a difference
  let finished : Nat := if what.sort (.finished slot event.kind response.failure) then 1 else 0
  have hfinish : ∀ began : Duration, FixedAs print what (response.failure, outAfter perm out response.view)
      (finished + 0) ended (do
        .change fun run => run.finish slot event.kind ⟨(env.now run.world).nanoseconds - began.nanoseconds⟩
          response.failure
        return (response.failure, outAfter perm out response.view)) ended := fun began => by
    have hrecorded := fun run =>
      recorded_finish slot event.kind ⟨(env.now run.world).nanoseconds - began.nanoseconds⟩ response.failure run
    have hsteady : Steady print what _ finished := steady_of_recorded hrecorded fun _ => rfl
    exact fixedAs_atomic_bind hsteady fun found _ => (fixedAs_pure _ ended).of_same ((hrecorded ended).same print)
  have hbegin : Steady print what (Run.begin slot event) _ :=
    steady_of_recorded (recorded_begin slot event) fun _ => rfl
  exact ⟨_, _, ended, fixedAs_atomic_bind hbegin fun found _ => hinvoke.bind (hfinish (env.now found.world))⟩

/-- The slots of a chain, one after the other. Their activations are among what the footprint shows. -/
theorem fixed_walk {slots : List bus.Slot} (hslots : ∀ slot ∈ slots, slot ∈ bus.chain event.kind) (out : EventOut)
    (run : Run bus) : Fixed print what (walk env raise event slots out) run := by
  induction slots generalizing out run with
  | nil => exact fixed_pure _ run
  | cons slot slots ih =>
    obtain ⟨hslot, hslots⟩ := List.forall_mem_cons.mp hslots
    have hsees := hclosed.sees event.kind hevent slot hslot
    rw [walk_cons]
    refine fixed_atomic_bind (steady_consider slot event) (fun found hsame => ?_) ?_
    -- the footprint sees every subscriber of the chain, so whether it is active is the same in both runs
    · have hanswer : (found.consider slot event).1 = (run.consider slot event).1 := by
        rw [Run.consider_fst, Run.consider_fst, hsame.active slot hsees]
      rw [hanswer]
    · split
      · refine (fixed_serve hclosed hevent hraise hslot out _).bind ?_
        rintro ⟨failure, left⟩ target
        cases failure with
        | none => exact ih hslots left target
        | some error =>
          unfold goOn
          dsimp only
          split
          · exact fixed_atomic_bind (steady_note rfl) (fun _ _ => rfl) (fixed_pure _ _)
          · exact fixed_atomic_bind (steady_note rfl) (fun _ _ => rfl) (ih hslots left _)
      · exact ih hslots out _

/-- A dispatch counts its trigger and then what its chain comes to. -/
theorem fixed_dispatchBy (out : EventOut) (run : Run bus) : Fixed print what (dispatchBy env raise event out) run := by
  unfold dispatchBy
  split
  · exact fixed_pure _ run
  · have htrigger : Steady print what (Run.trigger event) _ :=
      steady_of_recorded (recorded_trigger event) fun _ => rfl
    exact fixed_atomic_bind htrigger (fun _ _ => rfl)
      (fixed_walk hclosed hevent hraise (fun slot hslot => hslot) out _)

omit hevent hraise

/-- By induction on how deep raises may be nested: a raise is a dispatch with less depth. -/
theorem fixed_dispatch (env : Environment σ) (depth : Nat) :
    ∀ event, print.raises event.kind → ∀ out run, Fixed print what (dispatch env depth event out) run := by
  induction depth with
  | zero => exact fun event _ out run => ⟨(.ok, out), 0, run, fun found held hsame => trivial⟩
  | succ depth ih => exact fun event hevent out run => fixed_dispatchBy hclosed hevent ih out run

omit hclosed

/-! ## Threads -/

/-- What each thread relies on is kept by all the others, and as long as it is, what the thread adds to each count is
fixed. -/
structure Independent (env : Environment σ) (depth : Nat) (programs : List (Program c σ)) (run : Run bus)
    (rely guar : Nat → Run bus → Run bus → Prop) : Prop where
  fair : Pool.Fair rely guar
  fixed : ∀ thread program, programs[thread]? = some program → ∀ what : Count bus, ∃ tally,
    (perform (dispatch env depth) program).Solvent (fun run => run.count what.sort) (rely thread) (guar thread)
      (fun _ => True) (fun _ held => held = tally) run 0

/-- Threads that begin their programs at a state of a bus. -/
def threads (env : Environment σ) (depth : Nat) (programs : List (Program c σ)) (run : Run bus) :
    Pool (Run bus) Outcome :=
  ⟨run, programs.map (perform (dispatch env depth))⟩

/-- Independent threads come to the same counts in every interleaving. -/
theorem Independent.exists_count {depth : Nat} {programs : List (Program c σ)} {run : Run bus}
    {rely guar : Nat → Run bus → Run bus → Prop} (h : Independent env depth programs run rely guar)
    (what : Count bus) :
    ∃ total : ℤ, ∀ schedule ended, (threads env depth programs run).run? schedule = some ended →
      ended.values?.isSome → ended.state.count what.sort = total := by
  have hfixed : ∀ thread, ∃ tally, ∀ program, programs[thread]? = some program →
      (perform (dispatch env depth) program).Solvent (fun run => run.count what.sort) (rely thread) (guar thread)
        (fun _ => True) (fun _ held => held = tally) run 0 := fun thread => by
    cases hprogram : programs[thread]? with
    | none => exact ⟨0, nofun⟩
    | some program =>
      obtain ⟨tally, htally⟩ := h.fixed thread program hprogram what
      refine ⟨tally, fun other hother => ?_⟩
      cases hother
      exact htally
  -- each thread adds its own number, and the total is their sum
  choose tally htally using hfixed
  refine ⟨run.count what.sort + ∑ thread ∈ Finset.range programs.length, tally thread, ?_⟩
  intro schedule ended hrun hover
  have hbooks : (threads env depth programs run).Books (fun run => (run.count what.sort : ℤ)) rely guar
      (fun _ => True) (fun thread _ held => held = tally thread) (run.count what.sort) (fun _ => 0) := by
    refine Pool.books_of_solvent fun thread routine hroutine => ?_
    rw [List.getElem?_map] at hroutine
    obtain ⟨program, hprogram, rfl⟩ := Option.map_eq_some_iff.mp hroutine
    exact htally thread program hprogram
  obtain ⟨held, hended⟩ := hbooks.run h.fair hrun
  have hlength : ended.threads.length = programs.length :=
    (Pool.length_threads_of_run? hrun).trans (List.length_map _)
  have htotal := hended.amount_of_values tally h.fair hover
  rw [hlength] at htotal
  exact htotal

/-- Threads are independent if each keeps to a footprint, with all that its raises lead to, and none changes what
another one may see. -/
theorem independent_of_spares (env : Environment σ) (depth : Nat) {programs : List (Program c σ)}
    {prints : Nat → bus.Footprint}
    (hspares : ∀ {thread other}, other ≠ thread → (prints thread).Spares (prints other))
    (hwithin : ∀ thread program, programs[thread]? = some program →
      (prints thread).Closed ∧ program.Within (prints thread)) (run : Run bus) :
    Independent env depth programs run (fun thread => (prints thread).Same) fun thread => (prints thread).Grants where
  fair :=
    { idle := fun thread state other _ => .refl other state
      within := fun hapart hgrants => hgrants _ (hspares hapart)
      refl := fun thread => .refl (prints thread)
      trans := Footprint.Same.trans }
  fixed thread program hprogram what := by
    obtain ⟨hclosed, hkeeps⟩ := hwithin thread program hprogram
    obtain ⟨value, tally, target, hfixed⟩ : Fixed (prints thread) what (perform (dispatch env depth) program) run :=
      fixed_perform hclosed (fixed_dispatch hclosed env depth) hkeeps run
    refine ⟨tally, trivial, fun found hsame => (hfixed found 0 hsame).mono (fun _ hallowed => hallowed) ?_⟩
    -- a finished program holds nothing any more
    rintro _ later held ⟨-, -, hheld⟩
    omega

end Bus

end EventBus
