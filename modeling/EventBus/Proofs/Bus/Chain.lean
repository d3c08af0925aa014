import EventBus.Bus.Build
import EventBus.Proofs.Record.Inbounds
import Mathlib.Data.List.FinRange
import Mathlib.Data.List.Forall2

/-!
# Chains of a built bus

* `build_loads`: the subscribers of a built bus are its records, loaded one by one.
* `chain_eq_filter`: the chain of a kind lists, in the order of the records, the slots that listen to it.
-/

namespace EventBus.Bus

variable {c : Catalog} {σ : Type}

/-- The slots, one after the other, are the subscribers in their order. -/
theorem map_subscriber_slots (bus : Bus c σ) : bus.slots.map bus.subscriber = bus.subscribers.toList := by
  refine List.ext_getElem (by simp [slots]) fun index hleft hright => ?_
  simp [slots, subscriber]

end EventBus.Bus

namespace EventBus.Plan

variable {c : Catalog} {σ : Type} {plan : Plan c σ}

/-! ## Loading -/

/-- A loaded subscriber has the name of its record, and what the record resolves to. -/
theorem load_eq_ok {record : Record} {sub : Subscriber c σ} (h : plan.load record = .ok sub) :
    sub.name = record.name ∧ record.resolveInbounds c = .ok sub.inbounds
      ∧ record.resolveOutbounds c = .ok sub.outbounds ∧ plan.target record sub.inbounds = .ok sub.target
      ∧ sub.initiallyActivated = record.initiallyActivated := by
  rw [load] at h
  cases hinbounds : record.resolveInbounds c with
  | error e => simp [hinbounds, bind, Except.bind] at h
  | ok inbounds =>
    cases houtbounds : record.resolveOutbounds c with
    | error e => simp [hinbounds, houtbounds, bind, Except.bind] at h
    | ok outbounds =>
      cases htarget : plan.target record inbounds with
      | error e => simp [hinbounds, houtbounds, htarget, bind, Except.bind] at h
      | ok target =>
        -- only when all three parts are read is there a subscriber
        simp only [hinbounds, houtbounds, htarget, bind, Except.bind, pure, Except.pure, Except.ok.injEq] at h
        subst h
        exact ⟨rfl, rfl, rfl, htarget, rfl⟩

/-- Without a failure, every record was loaded. -/
theorem loadAll_eq_none {records : List Record} {subs : List (Subscriber c σ)}
    (h : plan.loadAll records = (subs, none)) :
    List.Forall₂ (fun record sub => plan.load record = .ok sub) records subs := by
  induction records generalizing subs with
  | nil =>
    cases h
    exact .nil
  | cons record records ih =>
    rw [loadAll] at h
    cases hload : plan.load record with
    | error e => simp [hload] at h
    | ok sub =>
      rw [hload] at h
      obtain ⟨rfl, hrest⟩ := Prod.mk.inj h
      exact .cons hload (ih (Prod.ext rfl hrest))

/-- The subscribers of a built bus are its records, loaded one by one. -/
theorem build_loads {bus : Bus c σ} (h : plan.build = .ok bus) :
    List.Forall₂ (fun record sub => plan.load record = .ok sub) plan.records bus.subscribers.toList := by
  rw [build] at h
  cases hcheck : plan.check with
  | error e => simp [hcheck, bind, Except.bind] at h
  | ok =>
    simp only [hcheck, bind, Except.bind] at h
    split at h
    · cases h
    · next subs hload =>
      cases h
      exact loadAll_eq_none hload

/-- The slots of a built bus are those of its records, in their order. -/
theorem build_names {bus : Bus c σ} (h : plan.build = .ok bus) :
    bus.slots.map (fun slot => (bus.subscriber slot).name) = plan.records.map (·.name) := by
  have hnames : plan.records.map (·.name) = bus.subscribers.toList.map (·.name) :=
    List.forall₂_eq_eq_eq ▸ List.forall₂_map_left_iff.mpr
      (List.forall₂_map_right_iff.mpr ((build_loads h).imp fun _ _ hload => (load_eq_ok hload).1.symm))
  rw [hnames, ← bus.map_subscriber_slots, List.map_map]
  rfl

/-- A subscriber of a built bus is one of its records, loaded. -/
theorem build_load {bus : Bus c σ} (h : plan.build = .ok bus) (slot : bus.Slot) :
    ∃ record ∈ plan.records, plan.load record = .ok (bus.subscriber slot) := by
  have hlength := (build_loads h).length_eq
  have hslot : slot.val < plan.records.length := by
    rw [hlength]
    exact slot.isLt
  exact ⟨plan.records[slot.val], List.getElem_mem hslot, (build_loads h).get hslot slot.isLt⟩

/-- A subscriber of a built bus has one grant for a kind at most. -/
theorem build_inbounds_nodup {bus : Bus c σ} (h : plan.build = .ok bus) (slot : bus.Slot) :
    ((bus.subscriber slot).inbounds.map Prod.fst).Nodup := by
  obtain ⟨record, -, hload⟩ := build_load h slot
  exact Record.resolveInbounds_nodup (load_eq_ok hload).2.1

end EventBus.Plan

namespace EventBus.Subscriber

variable {c : Catalog} {σ : Type}

/-- Whether a subscriber is in the chain of a kind: it receives the kind, and something answers for it. -/
def listensTo (sub : Subscriber c σ) (kind : c.Kind) : Bool :=
  decide (kind ∈ sub.inbounds.map Prod.fst) && sub.serves kind

end EventBus.Subscriber

namespace EventBus.ChainTable

variable {c : Catalog} {σ : Type} {n : Nat}

/-! ## Chains -/

theorem get_append (slot : Fin n) (kind other : c.Kind) (table : ChainTable c n) :
    (append slot kind table).get other = table.get other ++ if kind = other then [slot] else [] := by
  rw [append]
  by_cases hsame : kind = other
  · rw [hsame, Indexed.get_modify_self, if_pos rfl]
  · rw [Indexed.get_modify_of_ne (Ne.symm hsame), if_neg hsame, List.append_nil]

/-- A subscriber that receives each kind once is entered once into the chains that it listens to. -/
theorem get_enter {sub : Subscriber c σ} (hnodup : (sub.inbounds.map Prod.fst).Nodup) (slot : Fin n)
    (table : ChainTable c n) (kind : c.Kind) :
    (enter sub slot table).get kind = table.get kind ++ if sub.listensTo kind then [slot] else [] := by
  rw [enter, Subscriber.listensTo]
  generalize sub.inbounds = grants at hnodup ⊢
  -- along the grants, each of which puts the slot in the chain of its kind
  induction grants generalizing table with
  | nil => simp
  | cons grant rest ih =>
    obtain ⟨first, perm⟩ := grant
    rw [List.map_cons, List.nodup_cons] at hnodup
    rw [List.foldl_cons, ih _ hnodup.2]
    dsimp only at hnodup ⊢
    -- the kind of the first grant comes up in no other one
    by_cases hfirst : first = kind
    · subst hfirst
      cases hserves : sub.serves first with
      | false => simp
      | true =>
        have hone := get_append slot first first table
        rw [if_pos rfl] at hone
        simpa [hnodup.1] using hone
    · have hmem : kind ∈ ((first, perm) :: rest).map Prod.fst ↔ kind ∈ rest.map Prod.fst := by
        simp [Ne.symm hfirst]
      rw [decide_eq_decide.mpr hmem]
      split
      · rw [get_append, if_neg hfirst, List.append_nil]
      · exact rfl

end EventBus.ChainTable

namespace EventBus.Bus

variable {c : Catalog} {σ : Type} {bus : Bus c σ}

/-- The chain of a kind lists, in the order of the records, the slots that listen to it. -/
theorem chain_eq_filter (hnodup : ∀ slot, ((bus.subscriber slot).inbounds.map Prod.fst).Nodup)
    (kind : c.Kind) :
    bus.chain kind = bus.slots.filter fun slot => (bus.subscriber slot).listensTo kind := by
  -- subscribers are entered in their order, each at the end of its chains
  have hfold : ∀ (slots : List bus.Slot) (table : ChainTable c bus.subscribers.size),
      (slots.foldl (fun table slot => table.enter (bus.subscriber slot) slot) table).get kind
        = table.get kind ++ slots.filter fun slot => (bus.subscriber slot).listensTo kind := by
    intro slots
    induction slots with
    | nil => intro table; simp
    | cons slot slots ih =>
      intro table
      rw [List.foldl_cons, ih, ChainTable.get_enter (hnodup slot), List.filter_cons]
      split <;> simp
  rw [chain, bus.table_eq]
  refine (hfold bus.slots _).trans ?_
  simp [ChainTable.empty]

/-- A chain visits each slot at most once, in the order of the records. -/
theorem chain_pairwise (hnodup : ∀ slot, ((bus.subscriber slot).inbounds.map Prod.fst).Nodup)
    (kind : c.Kind) : (bus.chain kind).Pairwise (· < ·) := by
  rw [chain_eq_filter hnodup]
  exact (List.pairwise_lt_finRange _).filter _

/-- What is in the chain of a kind answers for it. -/
theorem serves_of_mem_chain (hnodup : ∀ slot, ((bus.subscriber slot).inbounds.map Prod.fst).Nodup)
    {kind : c.Kind} {slot : bus.Slot} (h : slot ∈ bus.chain kind) : (bus.subscriber slot).serves kind := by
  rw [chain_eq_filter hnodup, List.mem_filter, Subscriber.listensTo, Bool.and_eq_true] at h
  exact h.2.2

end EventBus.Bus
