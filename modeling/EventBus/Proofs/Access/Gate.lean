import EventBus.Proofs.Access.Outbounds
import EventBus.Proofs.Bus.Cells
import EventBus.Proofs.Bus.Loading
import EventBus.Proofs.Bus.Walk
import EventBus.Proofs.Routine.Guarantee

/-!
# A gate at the head of chains

An access guard that stands first in the chains of gated kinds and holds EXECUTE for them.

* `Plan.Gates` says it of the records and registrations of a plan, `Bus.Gated` of a bus. `gated_of_build`: a bus
  that is built from the one is the other.
* `serve_gate_of_allowed`, `serve_gate_of_refused`: the guard takes two turns for an event that it allows, and
  three for one that it refuses.
* `ends_dispatch_of_refused`, `meets_dispatch_of_refused`: a refused raise ends with the verdict and touches
  nothing but the guard's own counters.
* `comes_dispatch_of_allowed_iff`: behind the guard an allowed raise is a walk along the rest of the chain.
-/

namespace EventBus

namespace Plan

variable {c : Catalog} {σ : Type}

/-- A record is the gate of a plan for some gated kinds: it is the first one, internal and activated, holds
EXECUTE for them, and runs the access guard of all records for them. -/
structure Gates (plan : Plan c σ) (gate : Record) (acl : AccessControl c) (kinds : c.Kind → Prop) : Prop where
  first : plan.records.head? = some gate
  internal : gate.site = .internal
  activated : gate.initiallyActivated = true
  made : AccessControl.ofRecords c plan.records = .ok acl
  gated : ∀ kind, kinds kind → Catalog.isGated kind
  held : ∀ kind, kinds kind → ∃ grants perm, gate.resolveInbounds c = .ok grants ∧ (kind, perm) ∈ grants ∧ perm.execute
  bound : ∀ kind, kinds kind → plan.registered? gate.name kind = some acl.guard

end Plan

namespace Bus

variable {c : Catalog} {σ : Type} {bus : Bus c σ} {gate : bus.Slot} {acl : AccessControl c} {kinds : c.Kind → Prop}
  {env : Environment σ} {raise : Raise bus} {others : Run bus → Run bus → Prop} {event : Event c} {out left : EventOut}

/-- A slot is the gate of a bus for some kinds: it stands first in their chains, runs an access guard for them, and
its failures stop them. -/
structure Gated (bus : Bus c σ) (gate : bus.Slot) (acl : AccessControl c) (kinds : c.Kind → Prop) : Prop where
  activated : (bus.subscriber gate).initiallyActivated = true
  guarded : ∀ kind, kinds kind → (bus.subscriber gate).handler? kind = some acl.guard
  stops : ∀ kind, kinds kind → bus.stops gate kind = true
  heads : ∀ kind, kinds kind → ∃ rest, bus.chain kind = gate :: rest

/-- A slot that none is in front of heads the chains that it is in. -/
theorem chain_eq_cons {plan : Plan c σ} (hbuilt : plan.build = .ok bus) (hfirst : gate.val = 0) {kind : c.Kind}
    (hmem : gate ∈ bus.chain kind) : ∃ rest, bus.chain kind = gate :: rest := by
  have hsorted := chain_pairwise (Plan.build_inbounds_nodup hbuilt) kind
  cases hchain : bus.chain kind with
  | nil =>
    rw [hchain] at hmem
    cases hmem
  | cons head rest =>
    rw [hchain] at hmem hsorted
    rcases List.mem_cons.mp hmem with rfl | hlater
    · exact ⟨rest, rfl⟩
    · have hlt : head < gate := (List.pairwise_cons.mp hsorted).1 gate hlater
      exact absurd hlt (by rw [Fin.lt_def]; omega)

/-- The gate of a plan is the gate of the bus that is built from it. -/
theorem gated_of_build {plan : Plan c σ} {record : Record} (hgates : plan.Gates record acl kinds)
    (hbuilt : plan.build = .ok bus) (hfirst : gate.val = 0) : Gated bus gate acl kinds := by
  have hrecord : plan.records[gate.val]? = some record := by
    rw [hfirst, ← List.head?_eq_getElem?]
    exact hgates.first
  have hload := Plan.load_of_getElem? hbuilt hrecord
  obtain ⟨-, hinbounds, -, -, hactivated⟩ := Plan.load_eq_ok hload
  have hhandler : ∀ kind, kinds kind → (bus.subscriber gate).handler? kind = some acl.guard := by
    intro kind hkind
    rw [Plan.handler?_of_load hload hgates.internal, hgates.bound kind hkind]
  have hgrant : ∀ kind, kinds kind → ∃ perm, (kind, perm) ∈ (bus.subscriber gate).inbounds ∧ perm.execute := by
    intro kind hkind
    obtain ⟨grants, perm, hgrants, hmem, hexecute⟩ := hgates.held kind hkind
    cases hinbounds.symm.trans hgrants
    exact ⟨perm, hmem, hexecute⟩
  refine ⟨hactivated.trans hgates.activated, hhandler, fun kind hkind => ?_,
    fun kind hkind => chain_eq_cons hbuilt hfirst ?_⟩
  · obtain ⟨perm, hmem, hexecute⟩ := hgrant kind hkind
    rw [stops, Subscriber.perm_of_mem (Plan.build_inbounds_nodup hbuilt gate) hmem, hexecute,
      hgates.gated kind hkind]
    rfl
  · obtain ⟨perm, hmem, hexecute⟩ := hgrant kind hkind
    -- a guard is registered for the kind, so something answers for it
    have hserves : (bus.subscriber gate).serves kind := by
      rw [Plan.serves_of_load hload, ← Plan.registered?_isSome_iff, hgates.bound kind hkind]
      exact .inr rfl
    rw [chain_eq_filter (Plan.build_inbounds_nodup hbuilt), List.mem_filter, Subscriber.listensTo, hserves,
      Bool.and_true, decide_eq_true_eq]
    exact ⟨List.mem_finRange gate, List.mem_map_of_mem hmem⟩

/-! ## The guard's turns -/

/-- For an event that is allowed the guard takes two turns, in which it counts itself. -/
theorem serve_gate_of_allowed (env : Environment σ) (raise : Raise bus) (hgated : Gated bus gate acl kinds)
    (hkind : kinds event.kind) (hallowed : acl.verify event.origin event.kind = .allowed) (out : EventOut) :
    serve env raise gate event out = (do
      let began ← .atomic fun run => (env.now run.world, run.begin gate event)
      .change fun run =>
        run.finish gate event.kind ⟨(env.now run.world).nanoseconds - began.nanoseconds⟩ none
      return (none, out)) := by
  have hinvoke : ∀ view, invoke env raise gate event view = pure ⟨none, view⟩ := by
    intro view
    rw [invoke_of_handler (hgated.guarded event.kind hkind), callHandler,
      AccessControl.handle_guard_of_allowed hallowed]
    rfl
  rw [serve]
  simp only [hinvoke, pure_bind, outAfter_viewOf]

/-- For an event that is refused it takes three turns, since it notes that. -/
theorem serve_gate_of_refused (env : Environment σ) (raise : Raise bus) (hgated : Gated bus gate acl kinds)
    (hkind : kinds event.kind) (hrefused : acl.verify event.origin event.kind ≠ .allowed) (out : EventOut) :
    ∃ record error, error.status = (acl.verify event.origin event.kind).status
      ∧ serve env raise gate event out = (do
        let began ← .atomic fun run => (env.now run.world, run.begin gate event)
        .change (Run.enter (.noted record))
        .change fun run =>
          run.finish gate event.kind ⟨(env.now run.world).nanoseconds - began.nanoseconds⟩ (some error)
        return (some error, out)) := by
  obtain ⟨record, hhandle⟩ := AccessControl.handle_guard_of_refused hrefused
  have hfails : (acl.verify event.origin event.kind).status.isOk = false :=
    eq_false_of_ne_true (mt AccessControl.isOk_verdict_iff.mp hrefused)
  refine ⟨record, .handlerFailure (bus.subscriber gate).name (Catalog.name event.kind)
    (acl.verify event.origin event.kind).status, rfl, ?_⟩
  -- the handler of the gate notes its finding and ends; the view it was called with does not matter
  have hinvoke : ∀ view, invoke env raise gate event view = (do
      .change (Run.enter (.noted record))
      return ⟨some (.handlerFailure (bus.subscriber gate).name (Catalog.name event.kind)
        (acl.verify event.origin event.kind).status), view⟩) := by
    intro view
    rw [invoke_of_handler (hgated.guarded event.kind hkind), callHandler, hhandle]
    simp only [Program.done, perform, bind_assoc, pure_bind, failureOfEnding, failureOf, hfails, Bool.false_eq_true,
      if_false]
  rw [serve]
  simp only [hinvoke, bind_assoc, pure_bind, outAfter_viewOf]

/-! ## Refused raises -/

/-- A dispatch comes first to the gate. -/
theorem dispatch_eq_of_chain {rest : List bus.Slot} (hchain : bus.chain event.kind = gate :: rest) (depth : Nat)
    (out : EventOut) :
    dispatch env (depth + 1) event out = (do
      .change (Run.trigger event)
      if ← .atomic (Run.consider gate event) then
        serve env (dispatch env depth) gate event out >>= goOn env (dispatch env depth) event gate rest
      else walk env (dispatch env depth) event rest out) := by
  rw [dispatch, dispatchBy, hchain, ← walk_cons]

/-- What a gate lets other threads do while it decides: they do not deactivate it. -/
def StaysActive (others : Run bus → Run bus → Prop) (slot : bus.Slot) : Prop :=
  ∀ before after, others before after → before.isActive slot = true → after.isActive slot = true

/-- A raise that is refused comes to an end. -/
theorem ends_dispatch_of_refused (hgated : Gated bus gate acl kinds) (hkind : kinds event.kind)
    (hrefused : acl.verify event.origin event.kind ≠ .allowed) (hothers : StaysActive others gate) (depth : Nat)
    (out : EventOut) {before : Run bus} (hactive : before.isActive gate = true) :
    (dispatch env (depth + 1) event out).Ends others before := by
  obtain ⟨rest, hchain⟩ := hgated.heads event.kind hkind
  obtain ⟨record, error, -, hserve⟩ := serve_gate_of_refused env (dispatch env depth) hgated hkind hrefused out
  rw [dispatch_eq_of_chain hchain]
  refine Routine.ends_atomic_bind fun entered hentered => Routine.ends_atomic_bind fun begun _ => ?_
  rw [Run.consider_of_isActive (hothers _ _ hentered hactive), if_pos rfl, hserve]
  simp only [bind_assoc, pure_bind, goOn, if_pos (hgated.stops event.kind hkind)]
  refine Routine.ends_atomic_bind fun started _ => Routine.ends_atomic_bind fun noted _ => ?_
  refine Routine.ends_atomic_bind fun counted _ => Routine.ends_atomic_bind fun stopped _ => ?_
  exact Routine.ends_pure _ stopped

/-- Its answer is the verdict on the origin, with the out-structure as it was, and each of its turns leaves
everything else untouched. -/
theorem meets_dispatch_of_refused (hgated : Gated bus gate acl kinds) (hkind : kinds event.kind)
    (hrefused : acl.verify event.origin event.kind ≠ .allowed) (hothers : StaysActive others gate) (depth : Nat)
    (out : EventOut) {before : Run bus} (hactive : before.isActive gate = true) :
    (dispatch env (depth + 1) event out).Meets others (Untouched gate)
      (fun answer _ => answer = ((acl.verify event.origin event.kind).status, out)) before := by
  obtain ⟨rest, hchain⟩ := hgated.heads event.kind hkind
  obtain ⟨record, error, hstatus, hserve⟩ := serve_gate_of_refused env (dispatch env depth) hgated hkind hrefused out
  -- its turns: the trigger, the look at the gate, two counts with a note between them, and the end of the chain
  rw [dispatch_eq_of_chain hchain, Routine.meets_bind_iff, Routine.meets_change_iff]
  refine ⟨untouched_of_cells rfl rfl, fun entered hentered => ?_⟩
  rw [Routine.meets_bind_iff, Routine.meets_atomic_iff, Run.consider_of_isActive (hothers _ _ hentered hactive),
    if_pos rfl, hserve]
  simp only [bind_assoc, pure_bind, goOn, if_pos (hgated.stops event.kind hkind)]
  refine ⟨untouched_of_cells rfl rfl, fun begun _ => ?_⟩
  rw [Routine.meets_bind_iff, Routine.meets_atomic_iff]
  refine ⟨untouched_begin gate event begun, fun started _ => ?_⟩
  rw [Routine.meets_bind_iff, Routine.meets_change_iff]
  refine ⟨untouched_of_cells rfl rfl, fun noted _ => ?_⟩
  rw [Routine.meets_bind_iff, Routine.meets_change_iff]
  refine ⟨untouched_finish gate event.kind _ _ noted, fun counted _ => ?_⟩
  rw [Routine.meets_bind_iff, Routine.meets_change_iff]
  refine ⟨untouched_of_cells rfl rfl, fun stopped _ => ?_⟩
  show (error.status, out) = _
  rw [hstatus]

/-! ## Allowed raises -/

variable (env others event gate) in
/-- The guard lets an event pass: it is counted once, and it succeeds. -/
def Passes (before after : Run bus) : Prop :=
  ∃ entered begun started, others (before.trigger event) entered ∧ others entered begun
    ∧ others (begun.begin gate event) started
    ∧ others (started.finish gate event.kind
      ⟨(env.now started.world).nanoseconds - (env.now begun.world).nanoseconds⟩ none) after

/-- Behind the guard, a raise that is allowed comes to what a walk along the rest of the chain comes to. -/
theorem comes_dispatch_of_allowed_iff (hgated : Gated bus gate acl kinds) (hkind : kinds event.kind)
    (hallowed : acl.verify event.origin event.kind = .allowed) (hothers : StaysActive others gate)
    {rest : List bus.Slot} (hchain : bus.chain event.kind = gate :: rest) (depth : Nat) {out : EventOut}
    {before after : Run bus} (hactive : before.isActive gate = true) {answer : Status × EventOut} :
    (dispatch env (depth + 1) event out).Comes others before answer after
      ↔ ∃ passed, Passes gate env others event before passed
        ∧ (walk env (dispatch env depth) event rest out).Comes others passed answer after := by
  have hconsider : ∀ {entered}, others (before.trigger event) entered →
      entered.consider gate event = (true, entered) :=
    fun hentered => Run.consider_of_isActive (hothers _ _ hentered hactive)
  have hserve := serve_gate_of_allowed env (dispatch env depth) hgated hkind hallowed out
  rw [dispatch_eq_of_chain hchain]
  constructor
  · intro h
    obtain ⟨entered, hentered, h⟩ := Routine.comes_change_bind_iff.mp h
    obtain ⟨begun, hbegun, h⟩ := Routine.comes_atomic_bind_iff.mp h
    rw [hconsider hentered] at hbegun h
    rw [if_pos rfl, hserve] at h
    simp only [bind_assoc, pure_bind, goOn] at h
    obtain ⟨started, hstarted, h⟩ := Routine.comes_atomic_bind_iff.mp h
    obtain ⟨passed, hpassed, hwalk⟩ := Routine.comes_change_bind_iff.mp h
    exact ⟨passed, ⟨entered, begun, started, hentered, hbegun, hstarted, hpassed⟩, hwalk⟩
  · rintro ⟨passed, ⟨entered, begun, started, hentered, hbegun, hstarted, hpassed⟩, hwalk⟩
    refine Routine.comes_change_bind_iff.mpr ⟨entered, hentered, Routine.comes_atomic_bind_iff.mpr ⟨begun, ?_⟩⟩
    rw [hconsider hentered, if_pos rfl, hserve]
    simp only [bind_assoc, pure_bind, goOn]
    refine ⟨hbegun, Routine.comes_atomic_bind_iff.mpr ⟨started, hstarted, ?_⟩⟩
    exact Routine.comes_change_bind_iff.mpr ⟨passed, hpassed, hwalk⟩

/-- It comes to an end if these walks do. -/
theorem ends_dispatch_of_allowed (hgated : Gated bus gate acl kinds) (hkind : kinds event.kind)
    (hallowed : acl.verify event.origin event.kind = .allowed) (hothers : StaysActive others gate)
    {rest : List bus.Slot} (hchain : bus.chain event.kind = gate :: rest) (depth : Nat) {out : EventOut}
    {before : Run bus} (hactive : before.isActive gate = true)
    (hwalks : ∀ passed, Passes gate env others event before passed →
      (walk env (dispatch env depth) event rest out).Ends others passed) :
    (dispatch env (depth + 1) event out).Ends others before := by
  rw [dispatch_eq_of_chain hchain]
  refine Routine.ends_atomic_bind fun entered hentered => Routine.ends_atomic_bind fun begun hbegun => ?_
  rw [Run.consider_of_isActive (hothers _ _ hentered hactive)] at hbegun ⊢
  rw [if_pos rfl, serve_gate_of_allowed env (dispatch env depth) hgated hkind hallowed out]
  simp only [bind_assoc, pure_bind, goOn]
  refine Routine.ends_atomic_bind fun started hstarted => Routine.ends_atomic_bind fun passed hpassed => ?_
  exact hwalks passed ⟨entered, begun, started, hentered, hbegun, hstarted, hpassed⟩

end Bus

end EventBus
