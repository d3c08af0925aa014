import EventBus.Proofs.Bus.Checks
import EventBus.Proofs.Bus.Naming

/-!
# Plans that are built

Which plans a bus is built from, what it finds by name and by id, and which failure keeps a plan from being built.

* `Plan.IsValid`: all that a plan has to be. `Plan.Refused`: the first thing that is wrong with it, in the order of the
  checks.
* `LoadFault`: what is wrong with one record, once the names are in order; `loaded_decides` is the induction along the
  records.
* `build_iff`: a bus is built exactly from a valid plan, it finds each record at its slot and nothing else, and a plan
  that is not valid fails with what is wrong first.
-/

namespace EventBus.Plan

open Record

variable {c : Catalog} {σ : Type} {plan : Plan c σ} {bus : Bus c σ} {record : Record} {e : ConfigError}

/-! ## Loading a record -/

/-- A handler is registered under a name for a kind that is not among those received. -/
def Unasked (name : String) (grants : List (Grant c)) (r : Registration c σ) : Prop :=
  r.subscriber = name ∧ ∃ kind, r.kind = some kind ∧ kind ∉ grants.map Prod.fst

/-- What is wrong with how a record is reached: a handler for a kind that it does not receive, the first one registered,
or no endpoint to reach it at. -/
inductive TargetFault (plan : Plan c σ) (record : Record) (grants : List (Grant c)) : ConfigError → Prop where
  | unsubscribed {front back : List (Registration c σ)} {r : Registration c σ} {kind : c.Kind}
      (hsite : record.site = .internal) (hsplit : plan.registrations = front ++ r :: back)
      (hfront : ∀ earlier ∈ front, ¬Unasked record.name grants earlier) (hname : r.subscriber = record.name)
      (hkind : r.kind = some kind) (h : kind ∉ grants.map Prod.fst) :
    TargetFault plan record grants (.notSubscribed record.name (Catalog.name kind))
  | unreachable (hsite : record.site = .external) (h : record.endpoint = none) :
    TargetFault plan record grants (.missingEndpoint record.name)

/-- What is wrong with a record: its inbounds, then its outbounds, and then how it is reached. -/
inductive LoadFault (plan : Plan c σ) (record : Record) : ConfigError → Prop where
  | inbounds {e : ConfigError} (h : record.resolveInbounds c = .error e) : LoadFault plan record e
  | outbounds {grants : List (Grant c)} {e : ConfigError} (hinbounds : record.resolveInbounds c = .ok grants)
      (h : record.resolveOutbounds c = .error e) : LoadFault plan record e
  | target {grants : List (Grant c)} {kinds : List c.Kind} {e : ConfigError}
      (hinbounds : record.resolveInbounds c = .ok grants) (houtbounds : record.resolveOutbounds c = .ok kinds)
      (h : TargetFault plan record grants e) : LoadFault plan record e

/-- Nothing is found for a key exactly if no entry has it. -/
theorem lookup_isNone_iff {κ β : Type} [DecidableEq κ] {entries : List (κ × β)} {key : κ} :
    (entries.lookup key).isNone ↔ key ∉ entries.map Prod.fst := by
  rw [Option.isNone_iff_eq_none, List.lookup_eq_none_iff, List.mem_map, not_exists]
  refine forall_congr' fun entry => ?_
  rw [bne_iff_ne, not_and, ne_comm]

/-- What the search for a handler that nothing was asked for finds. -/
theorem any_isNone_iff {name : String} {grants : List (Grant c)} {r : Registration c σ} :
    Option.any (fun handler : c.Kind × Handler c σ => (grants.lookup handler.1).isNone)
        (if r.subscriber = name then r.kind.map fun kind => (kind, r.handler) else none)
      ↔ Unasked name grants r := by
  rw [Unasked]
  split
  · next hname =>
    cases r.kind with
    | none => simp
    | some kind => simp only [Option.map_some, Option.any_some, lookup_isNone_iff, hname, true_and, Option.some.injEq,
        exists_eq_left']
  · next hname => simp [hname]

/-- The first handler of a name for a kind that is not among those received. -/
theorem find?_handlersOf_eq_some_iff {name : String} {grants : List (Grant c)} {kind : c.Kind} {handler : Handler c σ} :
    (plan.handlersOf name).find? (fun handler => (grants.lookup handler.1).isNone) = some (kind, handler)
      ↔ ∃ front r back, plan.registrations = front ++ r :: back ∧ (∀ earlier ∈ front, ¬Unasked name grants earlier)
        ∧ r.subscriber = name ∧ r.kind = some kind ∧ kind ∉ grants.map Prod.fst ∧ r.handler = handler := by
  rw [handlersOf, List.find?_filterMap, Option.bind_eq_some_iff]
  simp only [List.find?_eq_some_iff_append, any_isNone_iff, Bool.not_eq_true', ← Bool.not_eq_true]
  constructor
  · rintro ⟨r, ⟨⟨hname, other, hkind, hmissing⟩, front, back, hsplit, hfront⟩, hfound⟩
    rw [if_pos hname, hkind, Option.map_some, Option.some.injEq, Prod.mk.injEq] at hfound
    obtain ⟨rfl, hhandler⟩ := hfound
    exact ⟨front, r, back, hsplit, hfront, hname, hkind, hmissing, hhandler⟩
  · rintro ⟨front, r, back, hsplit, hfront, hname, hkind, hmissing, hhandler⟩
    refine ⟨r, ⟨⟨hname, kind, hkind, hmissing⟩, front, back, hsplit, hfront⟩, ?_⟩
    rw [if_pos hname, hkind, Option.map_some, hhandler]

/-- Where a subscriber runs cannot be said exactly if the record has one of the faults that concern it. -/
theorem target_eq_error_iff {grants : List (Grant c)} :
    plan.target record grants = .error e ↔ plan.TargetFault record grants e := by
  rw [target]
  cases hsite : record.site with
  | internal =>
    dsimp only
    cases hfound : (plan.handlersOf record.name).find? fun handler => (grants.lookup handler.1).isNone with
    | none =>
      -- every handler has its grant, so a fault would name one that the search should have found
      refine iff_of_false (by simp) ?_
      rintro (⟨-, hsplit, hfront, hname, hkind, hmissing⟩ | ⟨hother, -⟩)
      · have hsome := find?_handlersOf_eq_some_iff.mpr ⟨_, _, _, hsplit, hfront, hname, hkind, hmissing, rfl⟩
        cases hfound.symm.trans hsome
      · cases hsite.symm.trans hother
    | some handler =>
      obtain ⟨kind, handler⟩ := handler
      dsimp only
      rw [Except.error.injEq]
      constructor
      · rintro rfl
        obtain ⟨front, r, back, hsplit, hfront, hname, hkind, hmissing, -⟩ := find?_handlersOf_eq_some_iff.mp hfound
        exact .unsubscribed hsite hsplit hfront hname hkind hmissing
      · rintro (⟨-, hsplit, hfront, hname, hkind, hmissing⟩ | ⟨hother, -⟩)
        · have hsome := find?_handlersOf_eq_some_iff.mpr ⟨_, _, _, hsplit, hfront, hname, hkind, hmissing, rfl⟩
          cases hfound.symm.trans hsome
          rfl
        · cases hsite.symm.trans hother
  | external =>
    dsimp only
    cases hendpoint : record.endpoint with
    | none =>
      dsimp only
      rw [Except.error.injEq]
      constructor
      · rintro rfl
        exact .unreachable hsite hendpoint
      · rintro (⟨hother, -⟩ | -)
        · cases hsite.symm.trans hother
        · rfl
    | some endpoint =>
      refine iff_of_false (by simp) ?_
      rintro (⟨hother, -⟩ | ⟨-, hnone⟩)
      · cases hsite.symm.trans hother
      · cases hendpoint.symm.trans hnone

/-- A record loads, or fails with what is wrong with it. -/
theorem load_eq_error_iff : plan.load record = .error e ↔ plan.LoadFault record e := by
  rw [load]
  cases hinbounds : record.resolveInbounds c with
  | error other =>
    show Except.error other = Except.error e ↔ _
    rw [Except.error.injEq]
    constructor
    · rintro rfl
      exact .inbounds hinbounds
    -- the inbounds are resolved first, so their failure excludes the later ones
    · rintro (h | ⟨h, -⟩ | ⟨h, -⟩) <;> cases hinbounds.symm.trans h
      rfl
  | ok grants =>
    cases houtbounds : record.resolveOutbounds c with
    | error other =>
      show Except.error other = Except.error e ↔ _
      rw [Except.error.injEq]
      constructor
      · rintro rfl
        exact .outbounds hinbounds houtbounds
      · rintro (h | ⟨-, h⟩ | ⟨-, h, -⟩)
        · cases hinbounds.symm.trans h
        all_goals
          cases houtbounds.symm.trans h
        rfl
    | ok kinds =>
      have hfault : plan.LoadFault record e ↔ plan.TargetFault record grants e := by
        constructor
        · rintro (h | ⟨-, h⟩ | ⟨h, -, hfault⟩)
          · cases hinbounds.symm.trans h
          · cases houtbounds.symm.trans h
          · cases hinbounds.symm.trans h
            exact hfault
        · exact .target hinbounds houtbounds
      rw [hfault, ← target_eq_error_iff]
      show (plan.target record grants >>= _) = Except.error e ↔ _
      cases plan.target record grants with
      | error other =>
        show Except.error other = Except.error e ↔ Except.error other = Except.error e
        rw [Except.error.injEq, Except.error.injEq]
      | ok target => exact iff_of_false (by simp) (by simp)

/-! ## Loading all records -/

/-- The outcome of loading records, without those that were loaded in front of a failure. -/
def loaded (plan : Plan c σ) (records : List Record) : Except ConfigError (List (Subscriber c σ)) :=
  match plan.loadAll records with
  | (_, some e) => .error e
  | (subs, none) => .ok subs

/-- Records are loaded one after the other, and the first that fails ends it. -/
theorem loaded_cons (record : Record) (records : List Record) :
    plan.loaded (record :: records) = (plan.load record).bind fun sub => (plan.loaded records).map (sub :: ·) := by
  rw [loaded, loadAll]
  cases plan.load record with
  | error e => rfl
  | ok sub =>
    dsimp only [Except.bind]
    rw [loaded]
    rcases plan.loadAll records with ⟨subs, _ | e⟩ <;> rfl

/-- By induction along the records: those in front are without fault, and the first with one is reported. -/
theorem loaded_decides (plan : Plan c σ) {front : List Record} (hfront : Faultless (fun _ => plan.LoadFault) front)
    (records : List Record) : Decides (Faultless (fun _ => plan.LoadFault) (front ++ records))
      (FirstFault (fun _ => plan.LoadFault) (front ++ records)) (plan.loaded records) := by
  induction records generalizing front with
  | nil =>
    rw [List.append_nil]
    exact .of_faultless hfront []
  | cons record records ih =>
    rw [loaded_cons]
    cases hload : plan.load record with
    | error e =>
      refine .of_fault hfront (fun other => ?_) records
      rw [← load_eq_error_iff, hload, Except.error.injEq, eq_comm]
    | ok sub =>
      -- the record that loads joins the ones in front, and the induction goes on behind it
      have hpassed : Faultless (fun _ => plan.LoadFault) (front ++ [record]) := by
        refine faultless_concat_iff.mpr ⟨hfront, fun e hfault => ?_⟩
        cases hload.symm.trans (load_eq_error_iff.mpr hfault)
      have hrest := (ih hpassed).map (sub :: ·)
      rwa [List.append_assoc] at hrest

/-! ## Valid plans -/

/-- All that a plan has to be. -/
structure IsValid (plan : Plan c σ) : Prop where
  named : ∀ record ∈ plan.records, ¬record.IsUnnamed
  distinct : (plan.records.map fun record => SubscriberId.ofName record.name).Nodup
  /-- Every handler is registered under the name of an internal record. -/
  housed : ∀ r ∈ plan.registrations, ∃ record ∈ plan.records, record.site = .internal ∧ record.name = r.subscriber
  inbounds : ∀ record ∈ plan.records, ∃ grants, record.resolveInbounds c = .ok grants
  outbounds : ∀ record ∈ plan.records, ∃ kinds, record.resolveOutbounds c = .ok kinds
  /-- Every handler for a kind is registered under the name of a record that receives the kind. -/
  subscribed : ∀ r ∈ plan.registrations, ∀ kind, r.kind = some kind →
    ∀ record ∈ plan.records, record.name = r.subscriber →
      ∃ grants, record.resolveInbounds c = .ok grants ∧ kind ∈ grants.map Prod.fst
  reachable : ∀ record ∈ plan.records, record.site = .external → record.endpoint.isSome

/-- The first thing that is wrong with a plan. -/
inductive Refused (plan : Plan c σ) : ConfigError → Prop where
  | name {e : ConfigError} (h : FirstFault NameFault plan.records e) : Refused plan e
  | id {e : ConfigError} (hnames : Faultless NameFault plan.records) (h : FirstFault IdFault plan.records e) :
    Refused plan e
  | handler {name : String} (hnames : Faultless NameFault plan.records) (hids : Faultless IdFault plan.records)
      (h : plan.Stray name) : Refused plan (.unknownHandler name)
  | record {e : ConfigError} (hnames : Faultless NameFault plan.records) (hids : Faultless IdFault plan.records)
      (hhandlers : ∀ r ∈ plan.registrations, plan.Houses r.subscriber)
      (h : FirstFault (fun _ => plan.LoadFault) plan.records e) : Refused plan e

/-- The faults in the order of the checks: names, ids and handlers of the whole plan, and then its records. -/
theorem refused_iff : plan.Refused e ↔
    (FirstFault NameFault plan.records e ∨ Faultless NameFault plan.records
        ∧ (FirstFault IdFault plan.records e ∨ Faultless IdFault plan.records
          ∧ ∃ name, plan.Stray name ∧ .unknownHandler name = e))
      ∨ (Faultless NameFault plan.records ∧ Faultless IdFault plan.records
          ∧ ∀ r ∈ plan.registrations, plan.Houses r.subscriber)
        ∧ FirstFault (fun _ => plan.LoadFault) plan.records e := by
  -- the same four cases, nested as the checks stand on one side and told one by one on the other
  constructor
  · rintro (h | ⟨hnames, h⟩ | ⟨hnames, hids, h⟩ | ⟨hnames, hids, hhandlers, h⟩)
    · exact .inl (.inl h)
    · exact .inl (.inr ⟨hnames, .inl h⟩)
    · exact .inl (.inr ⟨hnames, .inr ⟨hids, _, h, rfl⟩⟩)
    · exact .inr ⟨⟨hnames, hids, hhandlers⟩, h⟩
  · rintro ((h | ⟨hnames, h | ⟨hids, name, h, rfl⟩⟩) | ⟨⟨hnames, hids, hhandlers⟩, h⟩)
    · exact .name h
    · exact .id hnames h
    · exact .handler hnames hids h
    · exact .record hnames hids hhandlers h

/-- A handler that nothing was asked for is one of those that make a record fail. -/
theorem exists_targetFault {grants : List (Grant c)} {r : Registration c σ} (hmem : r ∈ plan.registrations)
    (hsite : record.site = .internal) (hunasked : Unasked record.name grants r) :
    ∃ e, plan.TargetFault record grants e := by
  obtain ⟨hname, kind, hkind, hmissing⟩ := hunasked
  have hhandler : (kind, r.handler) ∈ plan.handlersOf record.name :=
    List.mem_filterMap.mpr ⟨r, hmem, by simp [hname, hkind]⟩
  have hsome : ((plan.handlersOf record.name).find? fun handler => (grants.lookup handler.1).isNone).isSome :=
    List.find?_isSome.mpr ⟨_, hhandler, lookup_isNone_iff.mpr hmissing⟩
  obtain ⟨⟨first, handler⟩, hfound⟩ := Option.isSome_iff_exists.mp hsome
  obtain ⟨front, r, back, hsplit, hfront, hname, hkind, hmissing, -⟩ := find?_handlersOf_eq_some_iff.mp hfound
  exact ⟨_, .unsubscribed hsite hsplit hfront hname hkind hmissing⟩

/-- No record of a valid plan has a fault. -/
theorem IsValid.not_loadFault (hvalid : plan.IsValid) (hmem : record ∈ plan.records) : ¬plan.LoadFault record e := by
  rintro (h | ⟨-, h⟩ | ⟨hinbounds, -, hfault⟩)
  · obtain ⟨grants, hgrants⟩ := hvalid.inbounds record hmem
    cases h.symm.trans hgrants
  · obtain ⟨kinds, hkinds⟩ := hvalid.outbounds record hmem
    cases h.symm.trans hkinds
  · cases hfault with
    | unsubscribed hsite hsplit hfront hname hkind hmissing =>
      have hr := hsplit ▸ List.mem_append_cons_self
      obtain ⟨grants, hgrants, hreceived⟩ := hvalid.subscribed _ hr _ hkind record hmem hname.symm
      cases hinbounds.symm.trans hgrants
      exact hmissing hreceived
    | unreachable hsite hnone =>
      have hsome := hvalid.reachable record hmem hsite
      rw [hnone] at hsome
      cases hsome

/-- A plan is valid exactly if each check finds nothing wrong. -/
theorem isValid_iff : plan.IsValid ↔ Faultless NameFault plan.records ∧ Faultless IdFault plan.records
    ∧ (∀ r ∈ plan.registrations, plan.Houses r.subscriber)
    ∧ Faultless (fun _ => plan.LoadFault) plan.records := by
  rw [faultless_nameFault_iff, faultless_idFault_iff]
  constructor
  · intro hvalid
    have hnames : (plan.records.map (·.name)).Nodup := by
      refine List.Nodup.of_map SubscriberId.ofName ?_
      rw [List.map_map]
      exact hvalid.distinct
    -- distinct ids are distinct names, and a valid record loads
    refine ⟨⟨hvalid.named, hnames⟩, hvalid.distinct, hvalid.housed, ?_⟩
    rintro front record back hrecords e
    exact hvalid.not_loadFault (hrecords ▸ List.mem_append_cons_self)
  · rintro ⟨⟨hnamed, hnames⟩, hdistinct, hhoused, hloads⟩
    -- conversely, a record that fails in no position is without fault
    have hfine : ∀ record ∈ plan.records, ∀ e, ¬plan.LoadFault record e := fun record hmem => by
      obtain ⟨front, back, hrecords⟩ := List.append_of_mem hmem
      exact hloads front record back hrecords
    have hinbounds : ∀ record ∈ plan.records, ∃ grants, record.resolveInbounds c = .ok grants := fun record hmem => by
      cases h : record.resolveInbounds c with
      | ok grants => exact ⟨grants, rfl⟩
      | error e => exact absurd (.inbounds h) (hfine record hmem e)
    have houtbounds : ∀ record ∈ plan.records, ∃ kinds, record.resolveOutbounds c = .ok kinds := fun record hmem => by
      obtain ⟨grants, hgrants⟩ := hinbounds record hmem
      cases h : record.resolveOutbounds c with
      | ok kinds => exact ⟨kinds, rfl⟩
      | error e => exact absurd (.outbounds hgrants h) (hfine record hmem e)
    refine ⟨hnamed, hdistinct, hhoused, hinbounds, houtbounds, ?_, ?_⟩
    · intro r hr kind hkind record hmem hname
      obtain ⟨grants, hgrants⟩ := hinbounds record hmem
      obtain ⟨kinds, hkinds⟩ := houtbounds record hmem
      refine ⟨grants, hgrants, Decidable.byContradiction fun hmissing => ?_⟩
      -- the internal record with the name of the handler can only be this one
      obtain ⟨other, hother, hsite, hsame⟩ := hhoused r hr
      obtain rfl := List.inj_on_of_nodup_map hnames hother hmem (hsame.trans hname.symm)
      obtain ⟨e, hfault⟩ := exists_targetFault hr hsite ⟨hname.symm, kind, hkind, hmissing⟩
      exact hfine other hmem e (.target hgrants hkinds hfault)
    · intro record hmem hsite
      obtain ⟨grants, hgrants⟩ := hinbounds record hmem
      obtain ⟨kinds, hkinds⟩ := houtbounds record hmem
      refine Option.isSome_iff_ne_none.mpr fun hnone => ?_
      exact hfine record hmem _ (.target hgrants hkinds (.unreachable hsite hnone))

/-- A plan is checked, and then its records are loaded. -/
theorem build_eq (plan : Plan c σ) : plan.build = (plan.check >>= fun _ =>
    (plan.loaded plan.records).map fun subs => { config := plan.config, subscribers := subs.toArray }) := by
  rw [build, loaded]
  rcases plan.loadAll plan.records with ⟨subs, _ | e⟩ <;> rfl

/-- Building does what the checks do, one after the other. -/
theorem build_decides (plan : Plan c σ) : Decides plan.IsValid plan.Refused plan.build := by
  have hnames := checkNames_decides faultless_nil [] (by simp) plan.records
  have hids := checkIds_decides faultless_nil [] (by simp) plan.records
  have hloads := (loaded_decides plan faultless_nil plan.records).map
    fun subs => ({ config := plan.config, subscribers := subs.toArray } : Bus c σ)
  have hchecks : Decides _ _ plan.check := hnames.andThen (hids.andThen plan.checkHandlers_decides)
  have hall := hchecks.andThen hloads
  refine ⟨?_, fun e => ?_⟩
  · rw [build_eq, isValid_iff, hall.ok_iff, and_assoc, and_assoc]
    rfl
  · rw [build_eq, refused_iff, hall.error_iff]
    rfl

/-- A plan whose building succeeds is built to a bus. -/
theorem exists_bus_of_isOk (hok : plan.build.isOk = true) : ∃ bus, plan.build = .ok bus := by
  cases hbuilt : plan.build with
  | ok bus => exact ⟨bus, rfl⟩
  | error e =>
    rw [hbuilt] at hok
    cases hok

/-! ## What a bus finds -/

/-- What a bus finds by name and by id: each record at its slot, and nothing else. -/
structure Indexes (plan : Plan c σ) (bus : Bus c σ) : Prop where
  found : ∀ index record, plan.records[index]? = some record →
    ∃ slot : bus.Slot, slot.val = index ∧ plan.load record = .ok (bus.subscriber slot)
      ∧ bus.slotOf? record.name = some slot ∧ bus.slotOfId? (.ofName record.name) = some slot
  unknownName : ∀ name, (∀ record ∈ plan.records, record.name ≠ name) → bus.slotOf? name = none
  unknownId : ∀ id, (∀ record ∈ plan.records, SubscriberId.ofName record.name ≠ id) → bus.slotOfId? id = none

/-- Each record is found by its name and by its id, and nothing else is found. -/
theorem build_indexes (hbuilt : plan.build = .ok bus) : Indexes plan bus where
  found index record hrecord := by
    -- ids are distinct, so the slot that has the name of a record is the one of its position
    have hdistinct : bus.Distinct := build_id_injective hbuilt
    obtain ⟨hindex, -⟩ := List.getElem?_eq_some_iff.mp hrecord
    let slot : bus.Slot := ⟨index, (build_size hbuilt).symm ▸ hindex⟩
    have hload : plan.load record = .ok (bus.subscriber slot) := load_of_getElem? hbuilt hrecord
    have hname : (bus.subscriber slot).name = record.name := (load_eq_ok hload).1
    refine ⟨slot, rfl, hload, hdistinct.slotOf?_eq_some_iff.mpr hname, hdistinct.slotOfId?_eq_some_iff.mpr ?_⟩
    rw [Subscriber.id, hname]
  unknownName name hnone := by
    refine Option.eq_none_iff_forall_ne_some.mpr fun slot hslot => ?_
    obtain ⟨record, hmem, hload⟩ := build_load hbuilt slot
    have hdistinct : bus.Distinct := build_id_injective hbuilt
    exact hnone record hmem ((load_eq_ok hload).1.symm.trans (hdistinct.slotOf?_eq_some_iff.mp hslot))
  unknownId id hnone := by
    refine Option.eq_none_iff_forall_ne_some.mpr fun slot hslot => ?_
    obtain ⟨record, hmem, hload⟩ := build_load hbuilt slot
    have hdistinct : bus.Distinct := build_id_injective hbuilt
    have hid := hdistinct.slotOfId?_eq_some_iff.mp hslot
    rw [Subscriber.id, (load_eq_ok hload).1] at hid
    exact hnone record hmem hid

/-- **Which plans are built.** A bus is built exactly from a valid plan; no two of its records have one name then. It
finds each record by name and by id at the position of the record, and nothing by any other name or id. A plan that is
not valid fails with the first thing that is wrong with it, in the order of the checks. -/
theorem build_iff (plan : Plan c σ) :
    ((∃ bus, plan.build = .ok bus) ↔ plan.IsValid)
      ∧ (plan.IsValid → (plan.records.map (·.name)).Nodup)
      ∧ (∀ bus, plan.build = .ok bus → plan.Indexes bus)
      ∧ ∀ e, plan.build = .error e ↔ plan.Refused e := by
  obtain ⟨hok, herror⟩ := plan.build_decides
  refine ⟨hok, fun hvalid => ?_, fun bus hbuilt => build_indexes hbuilt, herror⟩
  exact (faultless_nameFault_iff.mp (isValid_iff.mp hvalid).1).2

end EventBus.Plan
