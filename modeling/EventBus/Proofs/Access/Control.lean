import EventBus.Proofs.Access.Passage
import EventBus.Proofs.Server.InUse
import EventBus.Trial.World

/-!
# Access control by a gate

What a gate does to all raises on a bus, for every plan that has one.

* `isLaw_follows`: the law behind a gate is one that all raises and programs on the bus keep.
* `Controls` says what becomes of raises that origins may make and of those that they may not make, and what holds
  in every state that comes about. `build_controls` proves it of every bus that is built from a plan with a gate.
-/

namespace EventBus.Bus

variable {c : Catalog} {σ : Type} {bus : Bus c σ} {gate : bus.Slot} {acl : AccessControl c} {kinds : c.Kind → Prop}
  {plan : Plan c σ}

/-- All that is done on a bus behind a gate keeps its law. -/
theorem isLaw_follows (hgated : Gated bus gate acl kinds) (env : Environment σ) (depth : Nat) :
    IsLaw (dispatch env depth) (Run.Holds gate acl kinds) (Follows gate acl kinds) where
  refl := .refl
  trans := .trans
  leads h := h.holds
  announced := follows_handshake
  raised := abides_dispatch hgated depth
  performed program _ hholds := abides_perform (abides_dispatch hgated depth) program hholds

/-- A bus begins with its gate active, and nobody was invoked. -/
theorem holds_start (hgated : Gated bus gate acl kinds) (world : σ) :
    (bus.start world).Holds gate acl kinds := by
  refine .inr ⟨?_, fun entry hmem => absurd hmem List.not_mem_nil⟩
  rw [← hgated.activated]
  simp [Run.isActive, Run.cell, start, Indexed.get]

/-- What a gate does to raises, on a bus that was built from a plan. -/
structure Controls (plan : Plan c σ) (bus : Bus c σ) (gate : bus.Slot) (kinds : c.Kind → Prop) (env : Environment σ)
    (depth : Nat) : Prop where
  /-- In every run in which the gate is not deactivated it is active, and every other subscriber is invoked for its
  kinds only in the name of origins that may raise them. -/
  cleared : ∀ cfg world use, InUse.Reaches env cfg depth (bus.start world) use → ¬use.run.WasDeactivated gate →
    use.run.isActive gate = true
      ∧ ∀ slot event, .invoked slot event ∈ use.run.journal → slot ≠ gate → kinds event.kind →
        Record.MayRaise c plan.records event.origin event.kind
  /-- A raise that its origin may not make ends with the verdict on the origin and the out-structure as it was. Each
  of its turns leaves everything else untouched. -/
  refused : ∀ others event out before, StaysActive others gate → before.isActive gate = true → kinds event.kind →
    ¬Record.MayRaise c plan.records event.origin event.kind →
      (dispatch env (depth + 1) event out).Ends others before
        ∧ (dispatch env (depth + 1) event out).Meets others (Untouched gate)
          (fun answer _ => answer.2 = out
            ∧ (Record.IsKnown plan.records event.origin → answer.1 = .unauthorized)
            ∧ (¬Record.IsKnown plan.records event.origin → answer.1 = .unknownSubscriber)) before
  /-- For a raise that its origin may make the guard succeeds, and what follows is a walk along the rest of the
  chain. -/
  allowed : ∀ others event out before, StaysActive others gate → before.isActive gate = true → kinds event.kind →
    Record.MayRaise c plan.records event.origin event.kind →
      ∃ rest, bus.chain event.kind = gate :: rest
        ∧ (∀ answer after, (dispatch env (depth + 1) event out).Comes others before answer after
          ↔ ∃ passed, Passes gate env others event before passed
            ∧ (walk env (dispatch env depth) event rest out).Comes others passed answer after)
        ∧ ((∀ passed, Passes gate env others event before passed →
            (walk env (dispatch env depth) event rest out).Ends others passed) →
          (dispatch env (depth + 1) event out).Ends others before)

/-- **Access control.** If the first record of a plan is a gate for some kinds, the first slot of the bus that is built
from it controls them. -/
theorem build_controls {record : Record} (hgates : plan.Gates record acl kinds) (hbuilt : plan.build = .ok bus)
    (hfirst : gate.val = 0) (env : Environment σ) (depth : Nat) : Controls plan bus gate kinds env depth := by
  have hgated := gated_of_build hgates hbuilt hfirst
  refine ⟨fun cfg world use hreaches hup => ?_,
    fun others event out before hothers hactive hkind hmay => ⟨?_, ?_⟩,
    fun others event out before hothers hactive hkind hmay => ?_⟩
  -- in every state that comes about the gate was deactivated, or all is cleared
  · have hsecured := hreaches.secured (isLaw_follows hgated env depth) (holds_start hgated world)
    rcases hsecured.server.sound with hdown | ⟨hactive, hcleared⟩
    · exact absurd hdown hup
    · refine ⟨hactive, fun slot event hmem hother hkind => ?_⟩
      rcases hcleared _ hmem with hsame | hallowed
      · exact absurd hsame hother
      · exact (AccessControl.verify_eq_allowed_iff hgates.made).mp (hallowed hkind)
  · have hrefused := mt (AccessControl.verify_eq_allowed_iff hgates.made).mp hmay
    exact ends_dispatch_of_refused hgated hkind hrefused hothers depth out hactive
  · have hrefused := mt (AccessControl.verify_eq_allowed_iff hgates.made).mp hmay
    refine (meets_dispatch_of_refused hgated hkind hrefused hothers depth out hactive).mono
      (fun _ _ huntouched => huntouched) ?_
    rintro answer found rfl
    refine ⟨rfl, fun hknown => ?_, fun hunknown => ?_⟩
    · show Verdict.status _ = _
      rw [AccessControl.verify_eq_unauthorized hgates.made hknown hmay]
      rfl
    · show Verdict.status _ = _
      rw [(AccessControl.verify_eq_unknownSubscriber_iff hgates.made).mpr hunknown]
      rfl
  · have hallowed := (AccessControl.verify_eq_allowed_iff hgates.made).mpr hmay
    obtain ⟨rest, hchain⟩ := hgated.heads event.kind hkind
    exact ⟨rest, hchain,
      fun answer after => comes_dispatch_of_allowed_iff hgated hkind hallowed hothers hchain depth hactive,
      ends_dispatch_of_allowed hgated hkind hallowed hothers hchain depth hactive⟩

/-! ## A plan with a gate -/

/-- A guard, a subscriber that may raise one kind and one that receives it. -/
def guardedRecords : List Record :=
  [{ name := "guard", inbounds := ["SW_GET_XID,x"] }, { name := "app", outbounds := ["SW_GET_XID", "NONE", "bogus"] },
    { name := "sw", inbounds := ["SW_GET_XID,rwx"] }]

/-- Access control that is made of these records. -/
def guardedControl : AccessControl .component :=
  match AccessControl.ofRecords .component guardedRecords with
  | .ok acl => acl
  | .error _ => ⟨[]⟩

/-- A gate, a subscriber that may raise a kind, and one that receives it. -/
def guardedPlan : Plan .component (Trial.World .component Unit) where
  config := {}
  records := guardedRecords
  registrations := [⟨"guard", none, guardedControl.guard⟩, ⟨"sw", none, ⟨"sw", fun _ view => .done .ok view⟩⟩]

/-- A request in the name of a subscriber. -/
def xidRequest (name : String) : Event .component :=
  ⟨.ofName name, ⟨20, by decide⟩, []⟩

/-- A raise in the name of the subscriber that may raise the kind, and then one in that of another. -/
def raisesAsBoth : Program .component (Trial.World .component Unit) :=
  .raise (xidRequest "app") .empty fun _ _ => .raise (xidRequest "sw") .empty fun status _ => .done status none

/-- The first of them is a gate for that kind. -/
theorem guardedPlan_gates :
    guardedPlan.Gates { name := "guard", inbounds := ["SW_GET_XID,x"] } guardedControl
      (· = (xidRequest "app").kind) := by
  refine ⟨rfl, rfl, rfl, ?_, ?_, ?_, ?_⟩
  · have hok : (AccessControl.ofRecords .component guardedRecords).isOk = true := by decide +kernel
    show AccessControl.ofRecords .component guardedRecords = _
    rw [guardedControl]
    split
    · assumption
    · next h => rw [h] at hok; cases hok
  · rintro kind rfl
    decide
  · rintro kind rfl
    exact ⟨[((xidRequest "app").kind, ⟨false, false, true⟩)], ⟨false, false, true⟩, by decide +kernel,
      List.mem_singleton_self _, rfl⟩
  · rintro kind rfl
    rfl

/-- Which slot an entry says was invoked, and with which event. -/
def Entry.invocation? : Entry bus → Option (Nat × Event c)
  | .invoked slot event => some (slot.val, event)
  | _ => none

/-- The gate is invoked for both raises, the receiver only for the one that its origin may make. -/
theorem guardedPlan_controls :
    ∃ (bus : Bus .component (Trial.World .component Unit)) (gate : bus.Slot) (use : InUse bus),
      guardedPlan.build = .ok bus ∧ gate.val = 0
        ∧ InUse.Reaches (Trial.deserted .component) {} 1 (bus.start { net := () }) use ∧ ¬use.run.WasDeactivated gate
        ∧ use.run.journal.filterMap Entry.invocation?
          = [(0, xidRequest "sw"), (2, xidRequest "app"), (0, xidRequest "app")]
        ∧ Record.MayRaise .component guardedRecords (.ofName "app") (xidRequest "app").kind := by
  have hrun : guardedPlan.build.toOption.any (fun bus =>
      ((perform (dispatch (Trial.deserted .component) 1) raisesAsBoth).alone (bus.start { net := () })).any
        fun result =>
          bus.slots.all (fun slot => decide ¬result.2.WasDeactivated slot) && 0 < bus.subscribers.size
            && result.2.journal.filterMap Entry.invocation?
              = [(0, xidRequest "sw"), (2, xidRequest "app"), (0, xidRequest "app")]) = true := by
    decide +kernel
  cases hbuilt : guardedPlan.build with
  | error e =>
    rw [hbuilt] at hrun
    cases hrun
  | ok bus =>
    rw [hbuilt] at hrun
    rw [Except.toOption, Option.any_some, Option.any_eq_true] at hrun
    obtain ⟨⟨outcome, after⟩, halone, hholds⟩ := hrun
    rw [Bool.and_eq_true, Bool.and_eq_true, List.all_eq_true, decide_eq_true_eq, decide_eq_true_eq] at hholds
    obtain ⟨⟨hup, hsize⟩, hinvocations⟩ := hholds
    have hstart : InUse.Reaches (Trial.deserted .component) {} 1 (bus.start { net := () })
        ⟨.start {} { run := bus.start { net := () } }, []⟩ := .start
    obtain ⟨use, hreaches, rfl⟩ := hstart.of_alone halone
    have hfirst : (⟨0, hsize⟩ : bus.Slot).val = 0 := rfl
    have hkept : ¬use.run.WasDeactivated ⟨0, hsize⟩ := of_decide_eq_true (hup ⟨0, hsize⟩ (List.mem_finRange _))
    refine ⟨bus, ⟨0, hsize⟩, use, rfl, hfirst, hreaches, hkept, hinvocations, ?_⟩
    -- the invocation of the receiver is one of those in the journal
    have hreceiver : (2, xidRequest "app") ∈ use.run.journal.filterMap Entry.invocation? := by
      rw [hinvocations]
      decide
    obtain ⟨entry, hmem, hentry⟩ := List.mem_filterMap.mp hreceiver
    cases entry with
    | invoked slot event =>
      obtain ⟨hslot, rfl⟩ := Prod.mk.inj (Option.some.inj hentry)
      have hother : slot ≠ ⟨0, hsize⟩ := by
        rintro rfl
        cases hslot
      have hcontrols := build_controls guardedPlan_gates hbuilt hfirst (Trial.deserted .component) 1
      exact (hcontrols.cleared {} { net := () } use hreaches hkept).2 slot _ hmem hother rfl
    | _ => cases hentry

end EventBus.Bus
