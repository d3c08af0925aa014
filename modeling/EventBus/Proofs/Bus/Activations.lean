import EventBus.Proofs.Bus.Counted
import EventBus.Proofs.Bus.Provenance

/-!
# The activations of a bus

Whatever threads do on a bus, and whatever arrives at its server, the activation of each subscriber is the one that was
set last: when it was loaded, by its name, by an announcement in its name, or by a delivery to it that failed.

* `History`: all that has happened on a bus, turn by turn.
* `Provenance`, `build_provenance`: where the activations of a built bus come from.
-/

namespace EventBus.Bus

variable {c : Catalog} {σ : Type} {bus : Bus c σ}

/-- How threads that use a bus with its server came to where they are: what each turn was, newest first. -/
def History (bus : Bus c σ) (env : Environment σ) (world : σ) (pool : Pool (Server.State bus) Unit)
    (past : List (Nat × Happening bus)) : Prop :=
  Pool.Chronicle (OnErrand bus env) (Happens env Server.State.run) { run := bus.start world } pool past

/-- Where the activations of a bus come from. -/
structure Provenance (plan : Plan c σ) (bus : Bus c σ) (env : Environment σ) (world : σ) : Prop where
  /-- A subscriber has the name and the site of its record. It is loaded activated if the record says so, and otherwise
  exactly if it is internal. -/
  loaded : ∀ {slot : bus.Slot} {record}, plan.records[slot.val]? = some record →
    (bus.subscriber slot).name = record.name ∧ (bus.subscriber slot).site = record.site
      ∧ (bus.start world).isActivated record.name = record.activated.getD (record.site = .internal)
  /-- Whatever comes about has a history. -/
  told : ∀ {pool}, Pool.Reached (OnErrand bus env) { run := bus.start world } pool →
    ∃ past, History bus env world pool past
  /-- An activation is the one that the history has set last, if there is one, and else the one that was loaded. -/
  latest : ∀ {pool past}, History bus env world pool past → ∀ {slot : bus.Slot} {record},
    plan.records[slot.val]? = some record →
      pool.state.run.isActivated record.name
        = ((past.map Prod.snd).findSome? (Happening.sets? slot)).getD
          (record.activated.getD (record.site = .internal))
  /-- An announcement is accepted exactly if an external record has the name, and the id is that of the name. -/
  accepted : ∀ id name (run : Run bus), (run.handshake id name).1.isOk ↔
    ∃ record ∈ plan.records, record.site = .external ∧ record.name = name ∧ .ofName name = id
  /-- One that is refused is noted, and changes nothing. -/
  refused : ∀ id name (run : Run bus), (run.handshake id name).1.isOk = false →
    (run.handshake id name).2 = run.enter (.refused id name)
  /-- Neither does a command for a name that no record has. -/
  unknown : ∀ name on (run : Run bus), name ∉ plan.records.map (·.name) → run.setActivated name on = (false, run)
  /-- An external subscriber that is not loaded activated is sent nothing before it was activated by its name or an
  announcement in its name was accepted. -/
  quiet : ∀ {pool later earlier thread slot event result record},
    History bus env world pool (later ++ (thread, .sent slot event result) :: earlier) →
    plan.records[slot.val]? = some record → record.site = .external → record.activated ≠ some true →
      ∃ happening ∈ earlier.map Prod.snd,
        happening = .commanded record.name true ∨ happening = .announced (.ofName record.name) record.name

/-- In the beginning a subscriber is activated as it was loaded. -/
theorem isActive_start (bus : Bus c σ) (world : σ) (slot : bus.Slot) :
    (bus.start world).isActive slot = (bus.subscriber slot).initiallyActivated := by
  simp [Run.isActive, Run.cell, start, Indexed.get]

/-- A bus that has just begun accords with the empty past. -/
theorem accords_start (bus : Bus c σ) (world : σ) : Accords [] (bus.start world) :=
  isActive_start bus world

/-- By induction on the history: every happening keeps the accord. -/
theorem History.accords {env : Environment σ} {world : σ} {pool : Pool (Server.State bus) Unit}
    {past : List (Nat × Happening bus)} (hdistinct : bus.Distinct) (h : History bus env world pool past) :
    Accords (past.map Prod.snd) pool.state.run :=
  Pool.Chronicle.sound (fun past state => Accords past state.run)
    (fun haccords hhappens => hhappens.accords hdistinct haccords) (accords_start bus world) h

/-- What activates a subscriber is a command by its name, or an announcement in its name. -/
theorem Happening.eq_of_sets?_true {slot : bus.Slot} {happening : Happening bus}
    (h : happening.sets? slot = some true) :
    happening = .commanded (bus.subscriber slot).name true
      ∨ happening = .announced (.ofName (bus.subscriber slot).name) (bus.subscriber slot).name := by
  cases happening with
  | nothing | sent => cases h
  | commanded name on =>
    rw [sets?] at h
    split at h
    · next hname =>
      cases h
      exact .inl (hname ▸ rfl)
    · cases h
  | announced id name =>
    rw [sets?] at h
    split at h
    · next hslot =>
      obtain ⟨-, rfl, rfl⟩ := hslot
      exact .inr rfl
    · cases h
  | lost other e =>
    rw [sets?] at h
    -- a loss only ever sets its subscriber inactive
    split at h <;> cases h

/-- Names are distinct, so to ask by name is to ask at the slot. -/
theorem isActivated_eq (hdistinct : bus.Distinct) (run : Run bus) (slot : bus.Slot) :
    run.isActivated (bus.subscriber slot).name = run.isActive slot := by
  rw [Run.isActivated, hdistinct.slotOf?_eq_some_iff.mpr rfl]

/-- An announcement is accepted exactly if it is for a slot. -/
theorem isOk_handshake_iff {id : SubscriberId} {name : String} {run : Run bus} :
    (run.handshake id name).1.isOk ↔ ∃ slot, Run.announced? bus id name = some slot := by
  cases hslot : Run.announced? bus id name with
  | none => simp [Run.handshake_of_unannounced hslot, Status.isOk, Status.failure]
  | some slot => simp [Run.handshake_of_announced hslot, Status.isOk, Status.ok]

/-- A refused announcement is noted, and changes nothing. -/
theorem handshake_snd_of_refused {id : SubscriberId} {name : String} {run : Run bus}
    (hrefused : (run.handshake id name).1.isOk = false) : (run.handshake id name).2 = run.enter (.refused id name) := by
  cases hslot : Run.announced? bus id name with
  | none => rw [Run.handshake_of_unannounced hslot]
  | some slot => exact absurd (isOk_handshake_iff.mpr ⟨slot, hslot⟩) (ne_true_of_eq_false hrefused)

/-- A subscriber that is not loaded activated is sent nothing before something activates it. -/
theorem History.exists_wake {env : Environment σ} {world : σ} {pool : Pool (Server.State bus) Unit}
    {later earlier : List (Nat × Happening bus)} {thread : Nat} {slot : bus.Slot} {event : Event c}
    {result : Except TransportError Status}
    (h : History bus env world pool (later ++ (thread, .sent slot event result) :: earlier))
    (hidle : (bus.subscriber slot).initiallyActivated = false) :
    ∃ happening ∈ earlier.map Prod.snd,
      happening = .commanded (bus.subscriber slot).name true
        ∨ happening = .announced (.ofName (bus.subscriber slot).name) (bus.subscriber slot).name := by
  obtain ⟨before, act, -, hhappens⟩ := h.exists_before
  obtain ⟨hawake, -⟩ := hhappens.effect
  -- it was awake when it was sent something: since it was loaded, or since something woke it
  rcases hawake with hloaded | ⟨happening, hmem, hsets⟩
  · rw [hidle] at hloaded
    cases hloaded
  · exact ⟨happening, hmem, Happening.eq_of_sets?_true hsets⟩

section Built

variable {plan : Plan c σ} (hbuilt : plan.build = .ok bus)
include hbuilt

/-- The subscriber at a slot is as its record says. -/
theorem build_loaded {slot : bus.Slot} {record : Record} (hrecord : plan.records[slot.val]? = some record) :
    (bus.subscriber slot).name = record.name ∧ (bus.subscriber slot).site = record.site
      ∧ (bus.subscriber slot).initiallyActivated = record.activated.getD (record.site = .internal) := by
  have hload := Plan.load_of_getElem? hbuilt hrecord
  exact ⟨(Plan.load_eq_ok hload).1, Plan.site_of_load hload, (Plan.load_eq_ok hload).2.2.2.2⟩

/-- Which announcements are for a slot can be told from the records. -/
theorem exists_announced_iff {id : SubscriberId} {name : String} :
    (∃ slot, Run.announced? bus id name = some slot)
      ↔ ∃ record ∈ plan.records, record.site = .external ∧ record.name = name ∧ .ofName name = id := by
  have hdistinct : bus.Distinct := Plan.build_id_injective hbuilt
  constructor
  · rintro ⟨slot, hannounced⟩
    obtain ⟨hsite, hname, hid⟩ := hdistinct.announced?_eq_some_iff.mp hannounced
    obtain ⟨record, hat⟩ := Plan.exists_record hbuilt slot
    obtain ⟨hsame, hplace, -⟩ := build_loaded hbuilt hat
    exact ⟨record, List.mem_of_getElem? hat, hplace ▸ hsite, hsame ▸ hname, hid⟩
  · rintro ⟨record, hmem, hsite, hname, hid⟩
    obtain ⟨slot, hat⟩ := Plan.exists_slot hbuilt hmem
    obtain ⟨hsame, hplace, -⟩ := build_loaded hbuilt hat
    exact ⟨slot, hdistinct.announced?_eq_some_iff.mpr ⟨hplace.trans hsite, hsame.trans hname, hid⟩⟩

/-- A name that no record has is found nowhere. -/
theorem slotOf?_eq_none {name : String} (hunknown : name ∉ plan.records.map (·.name)) : bus.slotOf? name = none := by
  refine Option.eq_none_iff_forall_ne_some.mpr fun slot hslot => hunknown ?_
  obtain ⟨record, hat⟩ := Plan.exists_record hbuilt slot
  have hdistinct : bus.Distinct := Plan.build_id_injective hbuilt
  refine List.mem_map.mpr ⟨record, List.mem_of_getElem? hat, ?_⟩
  rw [← (build_loaded hbuilt hat).1, hdistinct.slotOf?_eq_some_iff.mp hslot]

end Built

/-- **Activations.** On every bus that was built they come from where `Provenance` says. -/
theorem build_provenance {plan : Plan c σ} (hbuilt : plan.build = .ok bus) (env : Environment σ) (world : σ) :
    Provenance plan bus env world := by
  have hdistinct : bus.Distinct := Plan.build_id_injective hbuilt
  refine
    { loaded := fun {slot record} hslot => ?_
      told := fun h => ?_
      latest := fun {pool past} h {slot record} hslot => ?_
      accepted := fun id name run => isOk_handshake_iff.trans (exists_announced_iff hbuilt)
      refused := fun id name run => handshake_snd_of_refused
      unknown := fun name on run hunknown => Run.setActivated_of_unknown (slotOf?_eq_none hbuilt hunknown) on run
      quiet := fun {pool later earlier thread slot event result record} h hslot hsite hactivated => ?_ }
  · obtain ⟨hname, hsite, hactivated⟩ := build_loaded hbuilt hslot
    exact ⟨hname, hsite, by rw [← hname, isActivated_eq hdistinct, isActive_start, hactivated]⟩
  · refine h.exists_chronicle (fun haccords hhappens => hhappens.accords hdistinct haccords) ?_ (accords_start bus world)
    -- every thread is about some errand, and tells of what happens in it
    rintro routine ⟨errand, rfl⟩ past state haccords
    exact (tellable_errand errand none past state rfl haccords).mono fun _ _ _ _ _ => trivial
  · obtain ⟨hname, -, hactivated⟩ := build_loaded hbuilt hslot
    rw [← hname, isActivated_eq hdistinct, h.accords hdistinct slot, setting, hactivated]
  · obtain ⟨hname, -, hloaded⟩ := build_loaded hbuilt hslot
    have hidle : (bus.subscriber slot).initiallyActivated = false := by
      rw [hloaded, hsite]
      cases hrecorded : record.activated with
      | none => rfl
      | some on =>
        rw [hrecorded] at hactivated
        simpa using hactivated
    exact hname ▸ h.exists_wake hidle

/-! ## A subscriber that comes and is lost -/

/-- An external subscriber announces itself where nobody listens for it, and then an event of some kind is raised. -/
def visit (kind : Catalog.component.Kind) : Program .component (Trial.World .component Unit) :=
  .handshake (.ofName "l2") "l2" fun _ => raiseOnce ⟨.ofName "log", kind, []⟩

/-- A bus that was just started, with a thread that does this. -/
def visited (bus : Bus .component (Trial.World .component Unit)) (kind : Catalog.component.Kind) :
    Pool (Server.State bus) Unit :=
  ⟨{ run := bus.start { net := () } }, [(Errand.runs 1 (visit kind)).routine bus (Trial.deserted .component)]⟩

/-- A thread begins with the errand of a visit. -/
theorem reached_visited (bus : Bus .component (Trial.World .component Unit)) (kind : Catalog.component.Kind) :
    Pool.Reached (OnErrand bus (Trial.deserted .component)) { run := bus.start { net := () } } (visited bus kind) :=
  .begins .start ⟨.runs 1 (visit kind), rfl⟩

/-- That subscriber is activated by its announcement, and deactivated when the delivery to it fails. -/
theorem switchPlan_provenance :
    ∃ bus, Plan.switchPlan.build = .ok bus
      ∧ Provenance Plan.switchPlan bus (Trial.deserted .component) { net := () }
      ∧ ∃ announced lost, Pool.Reached (OnErrand bus (Trial.deserted .component))
            { run := bus.start { net := () } } announced
        ∧ announced.state.run.isActivated "l2" = true
        ∧ Pool.Reached (OnErrand bus (Trial.deserted .component)) { run := bus.start { net := () } } lost
        ∧ lost.state.run.isActivated "l2" = false ∧ lost.values?.isSome := by
  -- the two points of one run: behind the announcement, and at the end, where a delivery has failed
  have hturns : Plan.switchPlan.build.toOption.any (fun bus =>
      ((visited bus ⟨11, by decide⟩).run? [0]).any (fun announced => announced.state.run.isActivated "l2")
        && ((visited bus ⟨11, by decide⟩).run? (.replicate 15 0)).any (fun lost =>
          !lost.state.run.isActivated "l2" && lost.values?.isSome)) = true := by
    decide +kernel
  cases hbuilt : Plan.switchPlan.build with
  | error e => simp [hbuilt, Except.toOption] at hturns
  | ok bus =>
    rw [hbuilt] at hturns
    obtain ⟨hannounced, hlost⟩ := Bool.and_eq_true_iff.mp hturns
    obtain ⟨announced, hrun, hactive⟩ := (Option.any_eq_true _ _).mp hannounced
    obtain ⟨lost, hrun', hinactive⟩ := (Option.any_eq_true _ _).mp hlost
    obtain ⟨hinactive, hover⟩ := Bool.and_eq_true_iff.mp hinactive
    have hreached := reached_visited bus ⟨11, by decide⟩
    exact ⟨bus, rfl, build_provenance hbuilt _ _, announced, lost, hreached.run hrun, hactive, hreached.run hrun',
      Bool.not_eq_true' _ ▸ hinactive, hover⟩

end EventBus.Bus
