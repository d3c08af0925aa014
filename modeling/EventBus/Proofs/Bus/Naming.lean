import EventBus.Bus.Run
import EventBus.Proofs.Bus.Checks
import EventBus.Proofs.Bus.Loading

/-!
# Names of the subscribers of a bus

No two subscribers of a built bus have the same id, and so no two have the same name. Then a name is that of one
slot, and an announcement is for one slot.

* `Plan.build_id_injective`: the ids of a built bus.
* `Distinct.slotOf?_eq_some_iff`, `Distinct.announced?_eq_some_iff`: which slot a name is that of, and which slot an
  announcement is for.
-/

namespace EventBus.Plan

variable {c : Catalog} {σ : Type} {plan : Plan c σ} {bus : Bus c σ}

/-- A plan that is built has passed the check of its ids. -/
theorem checkIds_of_build (hbuilt : plan.build = .ok bus) : checkIds [] plan.records = .ok () := by
  rw [build, check] at hbuilt
  cases hnames : checkNames [] 0 plan.records with
  | error e => simp [hnames, bind, Except.bind] at hbuilt
  | ok =>
    cases hids : checkIds [] plan.records with
    | error e => simp [hnames, hids, bind, Except.bind] at hbuilt
    | ok => rfl

/-- The id of a subscriber is that of no other one. -/
theorem build_id_injective (hbuilt : plan.build = .ok bus) :
    Function.Injective fun slot : bus.Slot => (bus.subscriber slot).id := by
  have hids : (bus.slots.map fun slot => (bus.subscriber slot).id)
      = plan.records.map fun record => SubscriberId.ofName record.name := by
    have hnames := congrArg (List.map SubscriberId.ofName) (build_names hbuilt)
    rwa [List.map_map, List.map_map] at hnames
  have hchecked := checkIds_decides Record.faultless_nil [] (by simp) plan.records
  have hnodup := Record.faultless_idFault_iff.mp (hchecked.ok_iff.mp ⟨(), checkIds_of_build hbuilt⟩)
  rw [List.nil_append, ← hids] at hnodup
  exact fun slot other hsame =>
    List.inj_on_of_nodup_map hnodup (List.mem_finRange slot) (List.mem_finRange other) hsame

/-- Every record has a slot. -/
theorem exists_slot (hbuilt : plan.build = .ok bus) {record : Record} (hmem : record ∈ plan.records) :
    ∃ slot : bus.Slot, plan.records[slot.val]? = some record := by
  obtain ⟨index, hindex, rfl⟩ := List.mem_iff_getElem.mp hmem
  exact ⟨⟨index, (build_size hbuilt).symm ▸ hindex⟩, List.getElem?_eq_getElem hindex⟩

/-- A loaded subscriber runs where its record says. -/
theorem site_of_load {record : Record} {sub : Subscriber c σ} (h : plan.load record = .ok sub) :
    sub.site = record.site := by
  rcases target_of_load h with ⟨hsite, htarget⟩ | ⟨hsite, endpoint, -, htarget⟩ <;> rw [Subscriber.site, htarget, hsite]

end EventBus.Plan

namespace EventBus.Bus

variable {c : Catalog} {σ : Type} {bus : Bus c σ}

/-- No two subscribers have the same id. -/
def Distinct (bus : Bus c σ) : Prop :=
  Function.Injective fun slot : bus.Slot => (bus.subscriber slot).id

namespace Distinct

variable (h : bus.Distinct)
include h

theorem eq_of_name {slot other : bus.Slot} (hname : (bus.subscriber slot).name = (bus.subscriber other).name) :
    slot = other :=
  h (congrArg SubscriberId.ofName hname)

/-- The slot that a search for one subscriber finds. -/
theorem find?_eq_some_iff {p : bus.Slot → Bool} {slot : bus.Slot}
    (hid : ∀ found, p found = true → (bus.subscriber found).id = (bus.subscriber slot).id) :
    bus.slots.find? p = some slot ↔ p slot = true := by
  refine ⟨List.find?_some, fun hslot => ?_⟩
  have hsome : (bus.slots.find? p).isSome := List.find?_isSome.mpr ⟨slot, List.mem_finRange slot, hslot⟩
  obtain ⟨found, hfound⟩ := Option.isSome_iff_exists.mp hsome
  rw [hfound, h (hid found (List.find?_some hfound))]

/-- A name leads to the one slot that has it. -/
theorem slotOf?_eq_some_iff {name : String} {slot : bus.Slot} :
    bus.slotOf? name = some slot ↔ (bus.subscriber slot).name = name := by
  constructor
  · exact fun hslot => beq_iff_eq.mp (List.find?_some (p := fun slot => (bus.subscriber slot).name == name) hslot)
  · rintro rfl
    refine (h.find?_eq_some_iff fun found hfound => ?_).mpr (beq_self_eq_true _)
    exact congrArg SubscriberId.ofName (beq_iff_eq.mp hfound)

theorem slotOfId?_eq_some_iff {id : SubscriberId} {slot : bus.Slot} :
    bus.slotOfId? id = some slot ↔ (bus.subscriber slot).id = id := by
  constructor
  · exact fun hslot => beq_iff_eq.mp (List.find?_some (p := fun slot => (bus.subscriber slot).id == id) hslot)
  · rintro rfl
    exact (h.find?_eq_some_iff fun found hfound => beq_iff_eq.mp hfound).mpr (beq_self_eq_true _)

/-- An announcement leads to the external slot whose name it says, if the id is that of the name. -/
theorem announced?_eq_some_iff {id : SubscriberId} {name : String} {slot : bus.Slot} :
    Run.announced? bus id name = some slot
      ↔ (bus.subscriber slot).site = .external ∧ (bus.subscriber slot).name = name ∧ .ofName name = id := by
  rw [Run.announced?, Option.filter_eq_some_iff, h.slotOfId?_eq_some_iff, Bool.and_eq_true, beq_iff_eq,
    decide_eq_true_eq]
  constructor
  · rintro ⟨rfl, rfl, hsite⟩
    exact ⟨hsite, rfl, rfl⟩
  · rintro ⟨hsite, rfl, rfl⟩
    exact ⟨rfl, rfl, hsite⟩

end Distinct

end EventBus.Bus
