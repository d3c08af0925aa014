import EventBus.Bus.Build
import EventBus.Proofs.Record.Entries
import EventBus.Proofs.Record.Faults
import Mathlib.Data.List.Induction
import Mathlib.Data.List.Nodup

/-!
# The checks of a plan

What each check that comes before loading decides, said of the records and the registrations.

* `NameFault` and `IdFault`: what is wrong with a name, given the records in front. `checkNames_decides` and
  `checkIds_decides` are the inductions along the records.
* `Stray`: a handler without an internal record. `checkHandlers_decides` says which one is reported.
-/

namespace EventBus

/-! ## Names -/

/-- Nothing is left of a text without the blanks around it exactly if all of it is blank. -/
theorem Text.isEmpty_trim_iff {cs : List Char} : (Text.trim cs).isEmpty ↔ ∀ ch ∈ cs, Text.isBlank ch := by
  rw [List.isEmpty_iff, ← Text.trims_iff]
  constructor
  · rintro ⟨⟨front, back, rfl, hfront, hback⟩, -, -⟩ ch hch
    rw [List.append_nil, List.mem_append] at hch
    exact hch.elim (hfront ch) (hback ch)
  · intro h
    exact ⟨⟨cs, [], by simp, h, nofun⟩, nofun, nofun⟩

namespace Record

/-- A record without a name: nothing but blanks. -/
def IsUnnamed (record : Record) : Prop :=
  ∀ ch ∈ record.name.toList, Text.isBlank ch

/-- What is wrong with the name of a record behind others. That it is blank comes first. -/
inductive NameFault (front : List Record) (record : Record) : ConfigError → Prop where
  | blank (h : record.IsUnnamed) : NameFault front record (.emptyName front.length)
  | repeated (hnamed : ¬record.IsUnnamed) (h : record.name ∈ front.map (·.name)) :
    NameFault front record (.duplicateSubscriber record.name)

/-- A record has the id of one in front of it. -/
inductive IdFault (front : List Record) (record : Record) : ConfigError → Prop where
  | shared {first : Record} (hmem : first ∈ front) (h : SubscriberId.ofName first.name = .ofName record.name) :
    IdFault front record (.idCollision first.name record.name (.ofName record.name))

/-- No key comes twice exactly if no record has that of one in front of it. -/
theorem nodup_map_iff {κ : Type} {key : Record → κ} {records : List Record} : (records.map key).Nodup
    ↔ ∀ front record back, records = front ++ record :: back → key record ∉ front.map key := by
  constructor
  · rintro hnodup front record back rfl hmem
    rw [List.map_append, List.map_cons] at hnodup
    exact (List.nodup_append.mp hnodup).2.2 _ hmem _ List.mem_cons_self rfl
  · induction records using List.reverseRecOn with
    | nil => exact fun _ => List.nodup_nil
    | append_singleton front last ih =>
      intro h
      rw [List.map_append, List.map_singleton, List.nodup_append]
      refine ⟨ih fun first record back hfront => ?_, List.nodup_singleton _, ?_⟩
      · exact h first record (back ++ [last]) (by rw [hfront, List.append_assoc, List.cons_append])
      · rintro _ hmem _ hlast rfl
        exact h front last [] rfl (List.mem_singleton.mp hlast ▸ hmem)

/-- Names are in order if none is blank and no two are the same. -/
theorem faultless_nameFault_iff {records : List Record} : Faultless NameFault records
    ↔ (∀ record ∈ records, ¬record.IsUnnamed) ∧ (records.map (·.name)).Nodup := by
  rw [nodup_map_iff]
  constructor
  · intro h
    -- no fault in any position, so each record is named
    have hnamed : ∀ record ∈ records, ¬record.IsUnnamed := fun record hmem hblank => by
      obtain ⟨front, back, hrecords⟩ := List.append_of_mem hmem
      exact h front record back hrecords _ (.blank hblank)
    refine ⟨hnamed, fun front record back hrecords hmem => h front record back hrecords _ (.repeated ?_ hmem)⟩
    exact hnamed record (hrecords ▸ List.mem_append_cons_self)
  · rintro ⟨hnamed, hdistinct⟩ front record back hrecords e hfault
    cases hfault with
    | blank hblank => exact hnamed record (hrecords ▸ List.mem_append_cons_self) hblank
    | repeated _ hmem => exact hdistinct front record back hrecords hmem

/-- Ids are in order if no two records share one. -/
theorem faultless_idFault_iff {records : List Record} : Faultless IdFault records
    ↔ (records.map fun record => SubscriberId.ofName record.name).Nodup := by
  rw [nodup_map_iff]
  constructor
  · intro h front record back hrecords hmem
    obtain ⟨first, hfirst, hsame⟩ := List.mem_map.mp hmem
    exact h front record back hrecords _ (.shared hfirst hsame)
  · rintro hdistinct front record back hrecords e ⟨hfirst, hsame⟩
    exact hdistinct front record back hrecords (List.mem_map.mpr ⟨_, hfirst, hsame⟩)

end Record

namespace Plan

open Record

variable {c : Catalog} {σ : Type} {plan : Plan c σ} {front : List Record}

/-- The names of those that have passed are `seen`, in any order. -/
theorem checkNames_decides (hfront : Faultless NameFault front) (seen : List String)
    (hseen : ∀ name, name ∈ seen ↔ name ∈ front.map (·.name)) (records : List Record) :
    Decides (Faultless NameFault (front ++ records)) (FirstFault NameFault (front ++ records))
      (checkNames seen front.length records) := by
  -- along the records; what was seen are the names of those in front
  induction records generalizing front seen with
  | nil =>
    rw [List.append_nil]
    exact .of_faultless hfront ()
  | cons record records ih =>
    rw [checkNames]
    split
    · next hblank =>
      have hblank : record.IsUnnamed := Text.isEmpty_trim_iff.mp hblank
      refine .of_fault hfront (fun other => ⟨?_, ?_⟩) records
      · rintro (_ | ⟨hnamed, -⟩)
        · rfl
        · exact absurd hblank hnamed
      · rintro rfl
        exact .blank hblank
    · next hblank =>
      have hnamed : ¬record.IsUnnamed := mt Text.isEmpty_trim_iff.mpr hblank
      split
      · next hmem =>
        refine .of_fault hfront (fun other => ⟨?_, ?_⟩) records
        · rintro (hblank | _)
          · exact absurd hblank hnamed
          · rfl
        · rintro rfl
          exact .repeated hnamed ((hseen _).mp hmem)
      · next hnew =>
        have hpassed : Faultless NameFault (front ++ [record]) := by
          refine faultless_concat_iff.mpr ⟨hfront, fun e hfault => ?_⟩
          cases hfault with
          | blank hblank => exact hnamed hblank
          | repeated _ hmem => exact hnew ((hseen _).mpr hmem)
        have hrest := ih hpassed (record.name :: seen) fun name => by simp [hseen, or_comm]
        rwa [List.append_assoc, List.length_append] at hrest

/-- The ids of those that have passed are in `owners`, each with its name. -/
theorem checkIds_decides (hfront : Faultless IdFault front) (owners : List (SubscriberId × String))
    (howners : ∀ id name, (id, name) ∈ owners ↔ ∃ record ∈ front, .ofName record.name = id ∧ record.name = name)
    (records : List Record) :
    Decides (Faultless IdFault (front ++ records)) (FirstFault IdFault (front ++ records)) (checkIds owners records) := by
  -- along the records; the owners are those in front, which share no id
  induction records generalizing front owners with
  | nil =>
    rw [List.append_nil]
    exact .of_faultless hfront ()
  | cons record records ih =>
    rw [checkIds]
    cases hlookup : owners.lookup (SubscriberId.ofName record.name) with
    | some name =>
      obtain ⟨newer, older, hsplit, -⟩ := List.lookup_eq_some_iff.mp hlookup
      have hmem : (SubscriberId.ofName record.name, name) ∈ owners := hsplit ▸ List.mem_append_cons_self
      obtain ⟨first, hfirst, hid, rfl⟩ := (howners _ _).mp hmem
      refine .of_fault hfront (fun other => ⟨?_, ?_⟩) records
      · rintro ⟨hother, hsame⟩
        -- no two of those that have passed share an id
        rw [List.inj_on_of_nodup_map (faultless_idFault_iff.mp hfront) hother hfirst (hsame.trans hid.symm)]
      · rintro rfl
        exact .shared hfirst hid
    | none =>
      have hnew : ∀ first ∈ front, SubscriberId.ofName first.name ≠ .ofName record.name := fun first hfirst hsame => by
        have hne := List.lookup_eq_none_iff.mp hlookup _ ((howners _ _).mpr ⟨first, hfirst, hsame, rfl⟩)
        simp at hne
      have hpassed : Faultless IdFault (front ++ [record]) := by
        refine faultless_concat_iff.mpr ⟨hfront, fun e hfault => ?_⟩
        obtain ⟨hfirst, hsame⟩ := hfault
        exact hnew _ hfirst hsame
      have hrest := ih hpassed ((.ofName record.name, record.name) :: owners) fun id name => by
        simp [howners, or_and_right, exists_or, eq_comm, or_comm]
      rwa [List.append_assoc] at hrest

/-! ## Handlers -/

/-- An internal record has this name. -/
def Houses (plan : Plan c σ) (name : String) : Prop :=
  ∃ record ∈ plan.records, record.site = .internal ∧ record.name = name

/-- The registrations, those for all kinds first. -/
def ranked (plan : Plan c σ) : List (Registration c σ) :=
  plan.registrations.filter (·.kind.isNone) ++ plan.registrations.filter (·.kind.isSome)

/-- Putting the registrations in the order of the report leaves none out. -/
theorem mem_ranked_iff {r : Registration c σ} : r ∈ plan.ranked ↔ r ∈ plan.registrations := by
  rw [ranked, List.mem_append, List.mem_filter, List.mem_filter]
  cases r.kind <;> simp

/-- The first registration, of those for all kinds or else of all, whose name no internal record has. -/
def Stray (plan : Plan c σ) (name : String) : Prop :=
  ∃ front r back, plan.ranked = front ++ r :: back ∧ (∀ earlier ∈ front, plan.Houses earlier.subscriber)
    ∧ ¬plan.Houses r.subscriber ∧ r.subscriber = name

/-- Names are reported first for handlers of all kinds, and then for those of one. -/
theorem handlerNames_eq (plan : Plan c σ) : plan.handlerNames = plan.ranked.map (·.subscriber) := by
  have hothers : (fun r : Registration c σ => r.kind.isSome) = not ∘ fun r => r.kind.isNone := by
    funext r
    simp
  rw [handlerNames, List.partition_eq_filter_filter, ranked, hothers]

/-- The name of a handler that no internal record has. -/
def stray? (plan : Plan c σ) : Option String :=
  let names := (plan.records.filter fun record => record.site = .internal).map (·.name)
  plan.handlerNames.find? fun name => !names.contains name

theorem contains_internal_iff {name : String} :
    ((plan.records.filter fun record => record.site = .internal).map (·.name)).contains name ↔ plan.Houses name := by
  simp only [List.contains_iff_mem, List.mem_map, List.mem_filter, decide_eq_true_eq, and_assoc, Houses]

/-- What is reported is the first handler without an internal record. -/
theorem stray?_eq_some_iff {name : String} : plan.stray? = some name ↔ plan.Stray name := by
  rw [stray?, handlerNames_eq, List.find?_map, Option.map_eq_some_iff]
  simp only [List.find?_eq_some_iff_append, Function.comp_apply, Bool.not_eq_true', Bool.not_not, Stray,
    contains_internal_iff, ← Bool.not_eq_true]
  constructor
  · rintro ⟨r, ⟨hstray, front, back, hranked, hfront⟩, hname⟩
    exact ⟨front, r, back, hranked, hfront, hstray, hname⟩
  · rintro ⟨front, r, back, hranked, hfront, hstray, hname⟩
    exact ⟨r, ⟨hstray, front, back, hranked, hfront⟩, hname⟩

/-- Nothing is reported if every handler has one. -/
theorem stray?_eq_none_iff : plan.stray? = none ↔ ∀ r ∈ plan.registrations, plan.Houses r.subscriber := by
  rw [stray?, handlerNames_eq, List.find?_map, Option.map_eq_none_iff, List.find?_eq_none]
  simp only [Function.comp_apply, Bool.not_eq_true', Bool.not_eq_false, contains_internal_iff, mem_ranked_iff]

/-- The check of the handlers says which of the two it is. -/
theorem checkHandlers_decides (plan : Plan c σ) : Decides (∀ r ∈ plan.registrations, plan.Houses r.subscriber)
    (fun e => ∃ name, plan.Stray name ∧ .unknownHandler name = e) plan.checkHandlers := by
  have hcheck : plan.checkHandlers = plan.stray?.elim (.ok ()) fun name => .error (.unknownHandler name) := by
    rw [checkHandlers, stray?]
    cases List.find? _ plan.handlerNames <;> rfl
  simp only [hcheck, ← stray?_eq_none_iff, ← stray?_eq_some_iff]
  cases plan.stray? with
  | none => exact ⟨by simp, by simp⟩
  | some name => exact ⟨by simp, by simp⟩

end Plan

end EventBus
