import EventBus.Proofs.Access.Control
import EventBus.Proofs.Bus.Acceptance

/-!
# Access control and the bus of the same records

Access control and the bus are made of records by passes of their own. They say the same of every id.

* `AccessControl.Fault`: what is wrong with a record, given those in front. `extend_decides` is the induction along the
  records; it tells when access control can be made, and with which error it cannot.
* `AccessControl.Agrees`: what the verdicts and the names are, in terms of the subscribers of a bus.
* `AccessControl.ofRecords_consistent`: the two agree whenever there is a bus.
-/

namespace EventBus.AccessControl

open Record

variable {c : Catalog} {σ : Type} {records front : List Record} {acl : AccessControl c} {plan : Plan c σ}
  {bus : Bus c σ}

/-! ## When access control can be made -/

/-- What is wrong with a record behind others: its outbounds, and then its id. -/
inductive Fault (c : Catalog) (front : List Record) (record : Record) : ConfigError → Prop where
  | outbounds {e : ConfigError} (h : record.resolveOutbounds c = .error e) : Fault c front record e
  | shared {kinds : List c.Kind} (houtbounds : record.resolveOutbounds c = .ok kinds)
      (h : SubscriberId.ofName record.name ∈ front.map fun first => .ofName first.name) :
    Fault c front record (.duplicateSubscriber record.name)

/-- Nothing is wrong exactly if all outbounds can be resolved and no id comes twice. -/
theorem faultless_fault_iff : Faultless (Fault c) records
    ↔ (∀ record ∈ records, ∃ kinds, record.resolveOutbounds c = .ok kinds)
      ∧ (records.map fun record => SubscriberId.ofName record.name).Nodup := by
  rw [nodup_map_iff]
  constructor
  · intro h
    have hresolve : ∀ record ∈ records, ∃ kinds, record.resolveOutbounds c = .ok kinds := fun record hmem => by
      obtain ⟨front, back, hrecords⟩ := List.append_of_mem hmem
      cases houtbounds : record.resolveOutbounds c with
      | ok kinds => exact ⟨kinds, rfl⟩
      | error e => exact absurd (.outbounds houtbounds) (h front record back hrecords e)
    refine ⟨hresolve, fun front record back hrecords hmem => ?_⟩
    obtain ⟨kinds, houtbounds⟩ := hresolve record (hrecords ▸ List.mem_append_cons_self)
    -- the outbounds must be read for an id to be found taken, hence the first half before the second
    exact h front record back hrecords _ (.shared houtbounds hmem)
  · rintro ⟨hresolve, hdistinct⟩ front record back hrecords e hfault
    cases hfault with
    | outbounds herror =>
      obtain ⟨kinds, houtbounds⟩ := hresolve record (hrecords ▸ List.mem_append_cons_self)
      cases herror.symm.trans houtbounds
    | shared _ hmem => exact hdistinct front record back hrecords hmem

/-- The ids that have entries are those of the records that have passed. -/
theorem extend_decides (hfront : Faultless (Fault c) front) (entries : List (SubscriberId × AccessEntry c))
    (hentries : entries.map Prod.fst = front.map fun first => SubscriberId.ofName first.name) (records : List Record) :
    Decides (Faultless (Fault c) (front ++ records)) (FirstFault (Fault c) (front ++ records))
      (extend entries records) := by
  induction records generalizing front entries with
  | nil =>
    rw [List.append_nil]
    exact .of_faultless hfront entries
  | cons record records ih =>
    rw [extend]
    cases houtbounds : record.resolveOutbounds c with
    | error e =>
      refine .of_fault hfront (fun other => ⟨?_, ?_⟩) records
      · rintro (h | ⟨h, -⟩) <;> cases houtbounds.symm.trans h
        rfl
      · rintro rfl
        exact .outbounds houtbounds
    | ok kinds =>
      show Decides _ _ (if (entries.lookup (SubscriberId.ofName record.name)).isSome then _ else _)
      -- the entries made so far carry exactly the ids of the records in front
      have hknown : (entries.lookup (SubscriberId.ofName record.name)).isSome
          ↔ SubscriberId.ofName record.name ∈ front.map fun first => .ofName first.name := by
        rw [← hentries, ← not_iff_not, Bool.not_eq_true, Option.isSome_eq_false_iff, Plan.lookup_isNone_iff]
      split
      · next hsome =>
        refine .of_fault hfront (fun other => ⟨?_, ?_⟩) records
        · rintro (h | ⟨h, -⟩)
          · cases houtbounds.symm.trans h
          · rfl
        · rintro rfl
          exact .shared houtbounds (hknown.mp hsome)
      · next hnew =>
        have hpassed : Faultless (Fault c) (front ++ [record]) := by
          refine faultless_concat_iff.mpr ⟨hfront, fun e hfault => ?_⟩
          cases hfault with
          | outbounds h => cases houtbounds.symm.trans h
          | shared _ hmem => exact hnew (hknown.mpr hmem)
        have hrest := ih hpassed (entries ++ [(.ofName record.name, ⟨record.name, kinds⟩)])
          (by rw [List.map_append, List.map_append, hentries]; rfl)
        rwa [List.append_assoc] at hrest

/-- Access control can be made exactly then, and else it fails with the first fault. -/
theorem ofRecords_decides (c : Catalog) (records : List Record) :
    Decides (Faultless (Fault c) records) (FirstFault (Fault c) records) (ofRecords c records) := by
  have hextended : Decides (Faultless (Fault c) records) (FirstFault (Fault c) records) (extend [] records) :=
    extend_decides faultless_nil [] rfl records
  exact hextended.map AccessControl.mk

/-! ## Agreement with a bus -/

/-- Access control and a bus say the same of every id. -/
structure Agrees (acl : AccessControl c) (bus : Bus c σ) : Prop where
  unknown : ∀ id kind, acl.verify id kind = .unknownSubscriber ↔ bus.slotOfId? id = none
  allowed : ∀ id kind, acl.verify id kind = .allowed
    ↔ ∃ slot, bus.slotOfId? id = some slot ∧ kind ∈ (bus.subscriber slot).outbounds
  unauthorized : ∀ id kind, acl.verify id kind = .unauthorized
    ↔ ∃ slot, bus.slotOfId? id = some slot ∧ kind ∉ (bus.subscriber slot).outbounds
  named : ∀ id, acl.nameOf? id = (bus.slotOfId? id).map fun slot => (bus.subscriber slot).name

/-- The entry of an id is what the subscriber with that id has. -/
theorem entry?_eq_of_build (hmade : ofRecords c plan.records = .ok acl) (hbuilt : plan.build = .ok bus)
    (id : SubscriberId) : acl.entry? id
      = (bus.slotOfId? id).map fun slot => ⟨(bus.subscriber slot).name, (bus.subscriber slot).outbounds⟩ := by
  obtain ⟨hentries, hknown⟩ := entry?_of_ofRecords hmade
  have hindexes := Plan.build_indexes hbuilt
  by_cases hid : IsKnown plan.records id
  · obtain ⟨record, hmem, rfl⟩ := hid
    obtain ⟨index, hrecord⟩ := List.getElem?_of_mem hmem
    obtain ⟨slot, -, hload, -, hslot⟩ := hindexes.found index record hrecord
    obtain ⟨hname, -, houtbounds, -⟩ := Plan.load_eq_ok hload
    obtain ⟨kinds, hkinds, hentry⟩ := hentries record hmem
    -- both sides resolved the same record
    cases houtbounds.symm.trans hkinds
    rw [hentry, hslot, Option.map_some, hname]
  · have hnone : acl.entry? id = none := Option.eq_none_iff_forall_ne_some.mpr fun entry hentry =>
      hid (hknown id entry hentry)
    rw [hnone, hindexes.unknownId id fun record hmem hsame => hid ⟨record, hmem, hsame⟩]
    rfl

/-- Verdicts and names are read off the entries, so it is enough to compare these with the subscribers. -/
theorem agrees_of_entry? (hentry : ∀ id, acl.entry? id
    = (bus.slotOfId? id).map fun slot => ⟨(bus.subscriber slot).name, (bus.subscriber slot).outbounds⟩) :
    acl.Agrees bus := by
  have hverify : ∀ id kind, acl.verify id kind = (bus.slotOfId? id).elim .unknownSubscriber fun slot =>
      if kind ∈ (bus.subscriber slot).outbounds then .allowed else .unauthorized := fun id kind => by
    rw [verify, hentry]
    cases bus.slotOfId? id <;> rfl
  constructor
  case named =>
    intro id
    rw [nameOf?, hentry, Option.map_map]
    rfl
  -- the three verdicts: with the lookups equal, only the slot and the kind are left to split on
  all_goals
    intro id kind
    rw [hverify]
    cases bus.slotOfId? id with
    | none => simp
    | some slot => by_cases hkind : kind ∈ (bus.subscriber slot).outbounds <;> simp [hkind]

/-- **Access control agrees with the bus.** Whenever a bus is built from records, access control can be made of them,
and the two say the same of every id and kind. Access control cannot be made exactly of records of which one has
outbounds that do not resolve or two share an id. -/
theorem ofRecords_consistent (c : Catalog) (records : List Record) :
    (∀ (σ : Type) (plan : Plan c σ) (bus : Bus c σ), plan.records = records → plan.build = .ok bus →
        ∃ acl, ofRecords c records = .ok acl ∧ acl.Agrees bus)
      ∧ ((∃ e, ofRecords c records = .error e) ↔ (∃ record ∈ records, ∃ e, record.resolveOutbounds c = .error e)
        ∨ ¬(records.map fun record => SubscriberId.ofName record.name).Nodup) := by
  have hok := (ofRecords_decides c records).ok_iff.trans faultless_fault_iff
  constructor
  · rintro σ plan bus rfl hbuilt
    -- what the plan is accepted for is more than what the control asks of its records
    have hvalid := plan.build_decides.ok_iff.mp ⟨bus, hbuilt⟩
    obtain ⟨acl, hmade⟩ := hok.mpr ⟨hvalid.outbounds, hvalid.distinct⟩
    exact ⟨acl, hmade, agrees_of_entry? (entry?_eq_of_build hmade hbuilt)⟩
  · have hrejected : (∃ e, ofRecords c records = .error e) ↔ ¬∃ acl, ofRecords c records = .ok acl := by
      cases ofRecords c records <;> simp
    have hunresolved : (∃ record ∈ records, ∃ e, record.resolveOutbounds c = .error e)
        ↔ ¬∀ record ∈ records, ∃ kinds, record.resolveOutbounds c = .ok kinds := by
      simp only [not_forall, exists_prop]
      refine exists_congr fun record => and_congr_right fun _ => ?_
      cases record.resolveOutbounds c <;> simp
    rw [hrejected, hok, hunresolved, Classical.not_and_iff_not_or_not]

/-- The plan with a gate has a bus, and access control of its records. -/
theorem guardedRecords_consistent : ∃ bus acl, Bus.guardedPlan.build = .ok bus
    ∧ ofRecords .component Bus.guardedRecords = .ok acl ∧ acl.Agrees bus := by
  obtain ⟨bus, hbuilt⟩ := Bus.guardedPlan.exists_bus_of_isOk (by decide +kernel)
  obtain ⟨acl, hmade, hagrees⟩ := (ofRecords_consistent .component Bus.guardedRecords).1 _ Bus.guardedPlan bus rfl hbuilt
  exact ⟨bus, acl, hbuilt, hmade, hagrees⟩

end EventBus.AccessControl
