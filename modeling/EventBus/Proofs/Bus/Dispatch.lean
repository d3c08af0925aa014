import EventBus.Catalog.Component
import EventBus.Proofs.Bus.Walk
import EventBus.Trial.World

/-!
# Dispatches of a built bus

* `Carries` collects what holds of every dispatch: the order of the turns, what a dispatch may come to, who is
  invoked, what happens to an empty chain and to a kind that is not gated, and that the dispatch returns.
  `build_carries` proves it for built buses.
* `extends_dispatch_of_le`: the bound on the nesting of raises only decides whether there is a result.
* `ends_dispatch_of_rank`: a dispatch returns if the raises of handlers go down some rank, nested below it.
-/

namespace EventBus

variable {c : Catalog} {σ : Type}

/-- Every event that a program raises, whatever it is answered, is one of those allowed. -/
def Program.RaisesOnly (allowed : Event c → Prop) : Program c σ → Prop
  | .finish _ => True
  | .setActivated _ _ next | .isActivated _ next => ∀ known, (next known).RaisesOnly allowed
  | .handshake _ _ next => ∀ verdict, (next verdict).RaisesOnly allowed
  | .raise event _ next => allowed event ∧ ∀ status out, (next status out).RaisesOnly allowed
  | .note _ next | .change _ next => next.RaisesOnly allowed
  | .look next => ∀ world, (next world).RaisesOnly allowed

/-- Every end that a program may come to, whatever it is answered, is one of those allowed. -/
def Program.FinishesOnly (allowed : Outcome → Prop) : Program c σ → Prop
  | .finish outcome => allowed outcome
  | .setActivated _ _ next | .isActivated _ next => ∀ known, (next known).FinishesOnly allowed
  | .handshake _ _ next => ∀ verdict, (next verdict).FinishesOnly allowed
  | .raise _ _ next => ∀ status out, (next status out).FinishesOnly allowed
  | .note _ next | .change _ next => next.FinishesOnly allowed
  | .look next => ∀ world, (next world).FinishesOnly allowed

namespace Bus

variable {bus : Bus c σ} {env : Environment σ} {raise : Raise bus} {others : Run bus → Run bus → Prop}
  {event : Event c}

/-! ## Dispatches come to their end -/

/-- A program comes to its end if the raises that it may make do. -/
theorem ends_perform {allowed : Event c → Prop} {program : Program c σ} (h : program.RaisesOnly allowed)
    (hraise : ∀ event, allowed event → ∀ out run, (raise event out).Ends others run) (run : Run bus) :
    (perform raise program).Ends others run := by
  induction program generalizing run with
  | finish outcome => exact Routine.ends_pure outcome run
  | setActivated name on next ih => exact Routine.ends_atomic_bind fun found _ => ih _ (h _) found
  | isActivated name next ih => exact Routine.ends_atomic_bind fun found _ => ih _ (h _) found
  | handshake id name next ih => exact Routine.ends_atomic_bind fun found _ => ih _ (h _) found
  -- the event is allowed by the first part of the hypothesis, the rest of the program by the second
  | raise event out next ih =>
    refine Routine.ends_atomic_bind fun found _ => ?_
    exact (hraise event h.1 out found).bind fun (status, out) found _ => ih status out (h.2 status out) found
  | note record next ih => exact Routine.ends_atomic_bind fun found _ => ih h found
  | look next ih => exact Routine.ends_atomic_bind fun found _ => ih _ (h _) found
  | change f next ih => exact Routine.ends_atomic_bind fun found _ => ih h found

/-- Every call that the handlers of a slot get for an event comes to its end. -/
def CallsEnd (raise : Raise bus) (others : Run bus → Run bus → Prop) (event : Event c) (slot : bus.Slot) : Prop :=
  ∀ handler, (bus.subscriber slot).handler? event.kind = some handler →
    ∀ view run, (perform raise (handler.handle event view)).Ends others run

/-- An invocation ends if its handler does; a delivery always does. -/
theorem ends_invoke {slot : bus.Slot} (h : CallsEnd raise others event slot) (view : Option EventOut)
    (run : Run bus) : (invoke env raise slot event view).Ends others run := by
  rw [invoke]
  split
  · next client _ =>
    refine Routine.ends_atomic_bind fun found _ => ?_
    dsimp only
    split
    · exact Routine.ends_pure _ found
    · split
      · exact Routine.ends_atomic_bind fun found _ => Routine.ends_pure _ found
      · exact Routine.ends_pure _ found
  · split
    · next handler hhandler =>
      exact (h handler hhandler view run).bind fun outcome found _ => Routine.ends_pure _ found
    · exact Routine.ends_pure _ run

/-- Counting is one turn before it and one behind it. -/
theorem ends_serve {slot : bus.Slot} (h : CallsEnd raise others event slot) (out : EventOut) (run : Run bus) :
    (serve env raise slot event out).Ends others run := by
  refine Routine.ends_atomic_bind fun found _ => (ends_invoke h _ found).bind fun response found _ => ?_
  exact Routine.ends_atomic_bind fun found _ => Routine.ends_pure _ found

/-- A walk comes to its end if the calls of the handlers do. -/
theorem ends_walk {slots : List bus.Slot} (h : ∀ slot ∈ slots, CallsEnd raise others event slot) (out : EventOut)
    (run : Run bus) : (walk env raise event slots out).Ends others run := by
  induction slots generalizing out run with
  | nil => exact Routine.ends_pure _ run
  | cons slot slots ih =>
    obtain ⟨hslot, hslots⟩ := List.forall_mem_cons.mp h
    refine Routine.ends_atomic_bind fun found _ => ?_
    split
    -- whatever the subscriber did, the walk stops behind it or has the shorter rest before it
    · refine (ends_serve hslot out found).bind fun (failure, left) found _ => ?_
      cases failure with
      | none => exact ih hslots left found
      | some error =>
        dsimp only
        split
        · exact Routine.ends_atomic_bind fun found _ => Routine.ends_pure _ found
        · exact Routine.ends_atomic_bind fun found _ => ih hslots left found
    · exact ih hslots out found

/-- A dispatch ends if the handlers of its chain do. -/
theorem ends_dispatchBy (h : ∀ slot ∈ bus.chain event.kind, CallsEnd raise others event slot) (out : EventOut)
    (run : Run bus) : (dispatchBy env raise event out).Ends others run := by
  rw [dispatchBy]
  split
  · exact Routine.ends_pure _ run
  · next hchain => exact Routine.ends_atomic_bind fun found _ => ends_walk h out found

/-- If handlers raise only events of a lower rank than the one they are called for, a dispatch comes to its end
as soon as raises may nest deeper than the rank of its event. -/
theorem ends_dispatch_of_rank {rank : Event c → Nat}
    (hranked : ∀ (slot : bus.Slot) event handler view, (bus.subscriber slot).handler? event.kind = some handler →
      (handler.handle event view).RaisesOnly fun nested => rank nested < rank event)
    {depth : Nat} (hdepth : rank event < depth) (out : EventOut) (run : Run bus) :
    (dispatch env depth event out).Ends others run := by
  -- the bound goes down by one and the rank at least by one, so the rank stays below the bound
  induction depth generalizing event out run with
  | zero => exact absurd hdepth (Nat.not_lt_zero _)
  | succ depth ih =>
    refine ends_dispatchBy (fun slot _ handler hhandler view run => ?_) out run
    refine ends_perform (hranked slot event handler view hhandler) (fun nested hlower out run => ?_) run
    exact ih (Nat.lt_of_lt_of_le hlower (Nat.le_of_lt_succ hdepth)) out run

/-! ## Nesting -/

/-- What a program comes to is one of its ends, whatever its raises come to. -/
theorem finishesOnly_of_comes {allowed : Outcome → Prop} {program : Program c σ} (h : program.FinishesOnly allowed)
    {before after : Run bus} {outcome : Outcome}
    (hcomes : (perform raise program).Comes others before outcome after) : allowed outcome := by
  induction program generalizing before with
  | finish result =>
    obtain ⟨rfl, -⟩ := hcomes
    exact h
  -- steps that get an answer: the rest of the program is allowed for each of them
  | setActivated name on next ih | isActivated name next ih | handshake id name next ih | look next ih =>
    obtain ⟨found, -, hrest⟩ := Routine.comes_atomic_bind_iff.mp hcomes
    exact ih _ (h _) hrest
  | raise event out next ih =>
    obtain ⟨noted, -, hraised⟩ := Routine.comes_change_bind_iff.mp hcomes
    obtain ⟨⟨status, left⟩, found, -, hrest⟩ := Routine.comes_bind_iff.mp hraised
    exact ih status left (h status left) hrest
  | note record next ih | change f next ih =>
    obtain ⟨found, -, hrest⟩ := Routine.comes_atomic_bind_iff.mp hcomes
    exact ih h hrest

variable {raise' : Raise bus}

/-- Whether all that raises may come to is also what other raises may come to. -/
def Extends (others : Run bus → Run bus → Prop) (raise raise' : Raise bus) : Prop :=
  ∀ event out before answer after, (raise event out).Comes others before answer after →
    (raise' event out).Comes others before answer after

/-- What a program comes to while raises may be nested less deep, it comes to while they may be nested deeper. -/
theorem comes_perform_of_extends (h : Extends others raise raise') {program : Program c σ} {before after : Run bus}
    {outcome : Outcome} (hcomes : (perform raise program).Comes others before outcome after) :
    (perform raise' program).Comes others before outcome after := by
  -- only a raise asks for the depth; every other step is the same turn on both sides
  induction program generalizing before with
  | finish result => exact hcomes
  | setActivated name on next ih | isActivated name next ih | handshake id name next ih | look next ih =>
    obtain ⟨found, hothers, hrest⟩ := Routine.comes_atomic_bind_iff.mp hcomes
    exact Routine.comes_atomic_bind_iff.mpr ⟨found, hothers, ih _ hrest⟩
  | note record next ih | change f next ih =>
    obtain ⟨found, hothers, hrest⟩ := Routine.comes_atomic_bind_iff.mp hcomes
    exact Routine.comes_atomic_bind_iff.mpr ⟨found, hothers, ih hrest⟩
  | raise event out next ih =>
    obtain ⟨noted, hnoted, hraised⟩ := Routine.comes_change_bind_iff.mp hcomes
    obtain ⟨⟨status, left⟩, found, hraise, hrest⟩ := Routine.comes_bind_iff.mp hraised
    exact Routine.comes_change_bind_iff.mpr ⟨noted, hnoted, Routine.comes_bind_iff.mpr
      ⟨(status, left), found, h event out noted _ found hraise, ih status left hrest⟩⟩

/-- What an invocation comes to while raises may be nested less deep, it comes to while they may be nested deeper. -/
theorem Invoked.of_extends (h : Extends others raise raise') {slot : bus.Slot} {view back : Option EventOut}
    {before after : Run bus} {deed : Deed}
    (hinvoked : Invoked env raise others event slot view before deed back after) :
    Invoked env raise' others event slot view before deed back after := by
  cases hinvoked with
  | handled hhandler hcall => exact .handled hhandler (comes_perform_of_extends h hcall)
  | answered htarget hsent hothers => exact .answered htarget hsent hothers
  | lost htarget hsent hothers => exact .lost htarget hsent hothers

theorem Visit.Happens.of_extends (h : Extends others raise raise') {visit : Visit bus}
    (hhappens : visit.Happens env raise others event) : visit.Happens env raise' others event := by
  cases hhappens with
  | passedOver hinactive hothers => exact .passedOver hinactive hothers
  | invoked hactive hbegun hstarted hinvoked hcounted hnoted =>
    exact .invoked hactive hbegun hstarted (hinvoked.of_extends h) hcounted hnoted

theorem Walked.of_extends (h : Extends others raise raise') {slots : List bus.Slot} {before after : Run bus}
    {out left : EventOut} {visits : List (Visit bus)} {status : Status}
    (hwalked : Walked env raise others event slots before out visits status left after) :
    Walked env raise' others event slots before out visits status left after :=
  { hwalked with happens := fun visit hvisit => (hwalked.happens visit hvisit).of_extends h }

/-! ## Visits of a walk -/

/-- A subscriber is invoked exactly if it is activated when its turn comes. -/
theorem Visit.Happens.isInvoked_eq {visit : Visit bus} (h : visit.Happens env raise others event) :
    visit.isInvoked = visit.before.isActive visit.slot := by
  cases h with
  | passedOver hinactive hothers => exact hinactive.symm
  | invoked hactive => exact hactive.symm

/-- A handler that succeeds whatever its raises come to does not stop its chain. -/
theorem Visit.Happens.isFinal_eq_false {visit : Visit bus} (h : visit.Happens env raise others event)
    {handler : Handler c σ} (hhandler : (bus.subscriber visit.slot).handler? event.kind = some handler)
    (hsucceeds : ∀ view, (handler.handle event view).FinishesOnly (·.ending = .returned .ok)) :
    visit.isFinal event.kind = false := by
  cases h with
  | passedOver => rfl
  | invoked hactive hbegun hstarted hinvoked hcounted hnoted =>
    cases hinvoked with
    | handled hother hcall =>
      cases hhandler.symm.trans hother
      -- a handler that succeeds has no failure, so no permission of its subscriber can make the visit final
      have hending := finishesOnly_of_comes (hsucceeds _) hcall
      rw [Visit.isFinal, hending]
      rfl
    | answered htarget | lost htarget =>
      rw [Subscriber.handler?, htarget] at hhandler
      cases hhandler

/-- A kind that is not gated is carried to the end of its chain. -/
theorem Walked.of_not_gated {slots : List bus.Slot} {before after : Run bus} {out left : EventOut}
    {visits : List (Visit bus)} {status : Status} (hkind : Catalog.isGated event.kind = false)
    (h : Walked env raise others event slots before out visits status left after) :
    status = .ok ∧ visits.map Visit.slot = slots := by
  rcases h.verdict with ⟨front, last, -, -, hfinal, -⟩ | ⟨hall, -, hstatus⟩
  · rw [Visit.isFinal, hkind, Bool.false_and, Bool.and_false] at hfinal
    cases hfinal
  · exact ⟨hstatus, hall⟩

/-! ## The dispatches of a built bus -/

/-- What holds of the dispatch of an event with an out-structure, with raises nested below it up to a depth,
whatever handlers, peers and other threads do. -/
structure Carries (env : Environment σ) (depth : Nat) (others : Run bus → Run bus → Prop) (event : Event c)
    (out : EventOut) : Prop where
  /-- A chain has each slot once, in the order of the records. -/
  sorted : (bus.chain event.kind).Pairwise (· < ·)
  /-- With an empty chain nothing happens, and nothing is counted. -/
  empty : bus.chain event.kind = [] →
    dispatch env (depth + 1) event out = (pure (.ok, out) : Routine (Run bus) (Status × EventOut))
  /-- Else the trigger is counted, and then the dispatch comes exactly to what visits of the chain give. -/
  comes : bus.chain event.kind ≠ [] → ∀ before status left after,
    (dispatch env (depth + 1) event out).Comes others before (status, left) after
      ↔ ∃ entered visits, others (before.trigger event) entered
        ∧ Walked env (dispatch env depth) others event (bus.chain event.kind) entered out visits status left after
  /-- Visits are turns of different slots, and those are invoked that are activated when their turn comes. -/
  invoked : ∀ before visits status left after,
    Walked env (dispatch env depth) others event (bus.chain event.kind) before out visits status left after →
      (visits.map Visit.slot).Pairwise (· < ·)
        ∧ ∀ visit ∈ visits, visit.isInvoked = visit.before.isActive visit.slot
  /-- A kind that is not gated is a success, and each slot of its chain has its turn. -/
  notified : Catalog.isGated event.kind = false → ∀ before visits status left after,
    Walked env (dispatch env depth) others event (bus.chain event.kind) before out visits status left after →
      status = .ok ∧ visits.map Visit.slot = bus.chain event.kind
  /-- A handler that succeeds whatever its raises come to does not stop the chain. -/
  nested : ∀ before visits status left after,
    Walked env (dispatch env depth) others event (bus.chain event.kind) before out visits status left after →
      ∀ visit ∈ visits, ∀ handler, (bus.subscriber visit.slot).handler? event.kind = some handler →
        (∀ view, (handler.handle event view).FinishesOnly (·.ending = .returned .ok)) →
        visit.isFinal event.kind = false
  /-- The dispatch returns if the calls of the handlers do. -/
  returns : (∀ slot ∈ bus.chain event.kind, CallsEnd (dispatch env depth) others event slot) → ∀ before,
    (dispatch env (depth + 1) event out).Ends others before

/-- If subscribers receive each kind once, every dispatch carries its event as `Carries` says. -/
theorem carries (hnodup : ∀ slot, ((bus.subscriber slot).inbounds.map Prod.fst).Nodup) (env : Environment σ)
    (depth : Nat) (others : Run bus → Run bus → Prop) (event : Event c) (out : EventOut) :
    Carries env depth others event out := by
  have hsorted := chain_pairwise hnodup event.kind
  refine
    { sorted := hsorted
      empty := fun hempty => ?_
      comes := fun hne before status left after => ?_
      invoked := fun before visits status left after hwalked => ?_
      notified := fun hkind before visits status left after hwalked => hwalked.of_not_gated hkind
      nested := fun before visits status left after hwalked visit hvisit handler hhandler hsucceeds =>
        (hwalked.happens visit hvisit).isFinal_eq_false hhandler hsucceeds
      returns := fun hcalls before => ends_dispatchBy hcalls out before }
  · rw [dispatch, dispatchBy, hempty]
  -- what is in a chain answers for its kind, so that turns are visits
  · have hserves : ∀ slot ∈ bus.chain event.kind, (bus.subscriber slot).serves event.kind :=
      fun slot hslot => serves_of_mem_chain hnodup hslot
    rw [dispatch, dispatchBy]
    split
    · next hempty => exact absurd hempty hne
    · rw [Routine.comes_change_bind_iff]
      simp only [comes_walk_iff hserves, exists_and_left]
  · exact ⟨hsorted.sublist hwalked.inOrder.sublist,
      fun visit hvisit => (hwalked.happens visit hvisit).isInvoked_eq⟩

/-- **Dispatch.** The slots of a built bus are those of its records, in their order, and every dispatch on it
carries its event through the slots of its chain as `Carries` says. -/
theorem build_carries {plan : Plan c σ} {bus : Bus c σ} (hbuilt : plan.build = .ok bus) :
    bus.slots.map (fun slot => (bus.subscriber slot).name) = plan.records.map (·.name)
      ∧ ∀ (env : Environment σ) depth (others : Run bus → Run bus → Prop) event out,
        Carries env depth others event out :=
  ⟨Plan.build_names hbuilt, carries (Plan.build_inbounds_nodup hbuilt)⟩

/-! ## A nested failure -/

/-- A subscriber that raises a request whenever a host appears, one that refuses all requests and may stop them, and one
that receives both. Hosts that disappear are told to a subscriber elsewhere, which is activated from the start. -/
def relayPlan : Plan .component (Trial.World .component Unit) where
  config := {}
  records :=
    [{ name := "relay", inbounds := ["HOST_ADDED"] }, { name := "judge", inbounds := ["SW_GET_DPID,rx"] },
      { name := "sink", inbounds := ["HOST_ADDED,rw", "SW_GET_DPID"] },
      { name := "mirror", site := .external, endpoint := some (.local "mirror"), activated := some true,
        inbounds := ["HOST_DELETED"] }]
  registrations :=
    [⟨"relay", none, "relay", fun event view =>
        .raise ⟨event.origin, ⟨18, by decide⟩, []⟩ .empty fun _ _ => .done .ok view⟩,
      ⟨"judge", none, "judge", fun _ view => .done .failure view⟩,
      ⟨"sink", none, "sink", fun _ _ => .finish ⟨.panicked "full", some ⟨7, [9]⟩⟩⟩]

/-- The bus of that plan, with an empty one where it would fail. -/
def relayBus : Bus .component (Trial.World .component Unit) :=
  match relayPlan.build with
  | .ok bus => bus
  | .error _ => { config := {}, subscribers := #[] }

theorem build_relayPlan : relayPlan.build = .ok relayBus := by
  have hok : relayPlan.build.isOk = true := by decide +kernel
  rw [relayBus]
  split
  · assumption
  · next h =>
    rw [h] at hok
    cases hok

/-- What a dispatch on that bus comes to when no other thread makes a turn, if it comes to an end with room for one
raise within it. -/
def relayed (kind : Catalog.component.Kind) : Option ((Status × EventOut) × Run relayBus) :=
  (dispatch (Trial.deserted .component) 2 ⟨.ofName "relay", kind, [1]⟩ ⟨0, [1]⟩).alone (relayBus.start { net := () })

/-- A host that appears is told to the relay and to the sink, and neither the request that is refused within it nor the
panic of the sink ends that. The same request raised by itself ends with the judge: it fails, the kind is gated, and it
holds EXECUTE, so that the sink has no turn. -/
theorem relayPlan_carries :
    relayPlan.build = .ok relayBus
      ∧ (∃ visits after, Walked (Trial.deserted .component) (dispatch (Trial.deserted .component) 1) (· = ·)
          ⟨.ofName "relay", ⟨27, by decide⟩, [1]⟩ (relayBus.chain ⟨27, by decide⟩)
          ((relayBus.start { net := () }).trigger ⟨.ofName "relay", ⟨27, by decide⟩, [1]⟩) ⟨0, [1]⟩ visits .ok ⟨7, [9]⟩
          after)
      ∧ (relayBus.chain ⟨18, by decide⟩).map (fun slot => (relayBus.subscriber slot).name) = ["judge", "sink"]
      ∧ ∃ visit after, Walked (Trial.deserted .component) (dispatch (Trial.deserted .component) 1) (· = ·)
          ⟨.ofName "relay", ⟨18, by decide⟩, [1]⟩ (relayBus.chain ⟨18, by decide⟩)
          ((relayBus.start { net := () }).trigger ⟨.ofName "relay", ⟨18, by decide⟩, [1]⟩) ⟨0, [1]⟩ [visit] .failure
          ⟨0, [1]⟩ after
        ∧ (relayBus.subscriber visit.slot).name = "judge" ∧ visit.isFinal ⟨18, by decide⟩ := by
  have hcarries := fun kind => (build_carries build_relayPlan).2 (Trial.deserted .component) 1 (· = ·)
    ⟨.ofName "relay", kind, [1]⟩ ⟨0, [1]⟩
  -- the run is evaluated, and what it comes to is read as visits
  have hwalked : ∀ kind status left, relayBus.chain kind ≠ [] → (relayed kind).map Prod.fst = some (status, left) →
      ∃ visits after, Walked (Trial.deserted .component) (dispatch (Trial.deserted .component) 1) (· = ·)
        ⟨.ofName "relay", kind, [1]⟩ (relayBus.chain kind)
        ((relayBus.start { net := () }).trigger ⟨.ofName "relay", kind, [1]⟩) ⟨0, [1]⟩ visits status left after :=
    fun kind status left hchain hresult => by
      obtain ⟨⟨answer, after⟩, halone, rfl⟩ := Option.map_eq_some_iff.mp hresult
      obtain ⟨entered, visits, rfl, hwalked⟩ :=
        ((hcarries kind).comes hchain _ _ _ after).mp (Routine.comes_eq_iff.mpr halone)
      exact ⟨visits, after, hwalked⟩
  have hrequest : (relayBus.chain ⟨18, by decide⟩).map (fun slot => (relayBus.subscriber slot).name)
      = ["judge", "sink"] := by
    decide +kernel
  obtain ⟨visits, after, hrefused⟩ := hwalked ⟨18, by decide⟩ .failure ⟨0, [1]⟩ (by decide +kernel) (by decide +kernel)
  refine ⟨build_relayPlan, hwalked _ _ _ (by decide +kernel) (by decide +kernel), hrequest, ?_⟩
  rcases hrefused.verdict with ⟨front, last, rfl, -, hfinal, -⟩ | ⟨-, -, hok⟩
  · have hnames := hrequest ▸ hrefused.inOrder.map fun slot => (relayBus.subscriber slot).name
    obtain ⟨-, hholds⟩ := Bool.and_eq_true_iff.mp hfinal
    have hjudge : (relayBus.subscriber last.slot).name = "judge" := by
      have hall : ∀ slot : relayBus.Slot, (Catalog.isGated (⟨18, by decide⟩ : Catalog.component.Kind)
          && ((relayBus.subscriber slot).perm ⟨18, by decide⟩).execute) = true →
          (relayBus.subscriber slot).name = "judge" := by
        decide +kernel
      exact hall last.slot hholds
    cases front with
    | nil => exact ⟨last, after, hrefused, hjudge, hfinal⟩
    | cons first front =>
      -- behind the judge only the sink is left
      cases front <;> simp [hjudge] at hnames
  · cases hok

/-! ## The bound on nesting -/

/-- With more room for nested raises, a dispatch may come to all that it may come to with less. -/
theorem extends_dispatch_of_le {plan : Plan c σ} {bus : Bus c σ} (hbuilt : plan.build = .ok bus)
    (env : Environment σ) (others : Run bus → Run bus → Prop) {depth depth' : Nat} (hle : depth ≤ depth') :
    Extends others (dispatch env depth) (dispatch env depth') := by
  induction depth generalizing depth' with
  | zero => exact fun event out before answer after hcomes => hcomes.elim -- with no room there is no result
  | succ depth ih =>
    obtain ⟨depth', rfl⟩ : ∃ deeper, depth' = deeper + 1 := Nat.exists_eq_add_one.mpr (by omega)
    intro event out before (status, left) after hcomes
    have hcarries := carries (Plan.build_inbounds_nodup hbuilt) env depth others event out
    have hcarries' := carries (Plan.build_inbounds_nodup hbuilt) env depth' others event out
    by_cases hempty : bus.chain event.kind = []
    · rw [hcarries.empty hempty] at hcomes
      rw [hcarries'.empty hempty]
      exact hcomes
    · -- the same visits carry the event, with raises that have more room
      obtain ⟨entered, visits, hentered, hwalked⟩ := (hcarries.comes hempty before status left after).mp hcomes
      have hextends := ih (Nat.le_of_succ_le_succ hle)
      exact (hcarries'.comes hempty before status left after).mpr
        ⟨entered, visits, hentered, hwalked.of_extends hextends⟩

end Bus

end EventBus
