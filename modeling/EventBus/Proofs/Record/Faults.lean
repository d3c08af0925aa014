import EventBus.Error.Config
import EventBus.Record

/-!
# The first fault in a list of records

Checks take records one by one, and what is wrong with a record may depend on those in front of it. The first record
with which something is wrong decides the error.

* `Faultless`: nothing is wrong with any record. `FirstFault`: what is wrong with the first one with which something is.
* `Decides`: when a check succeeds, and with what it fails. `Decides.of_faultless` and `Decides.of_fault` are the two ends
  of an induction along the records, in which `front` are those that have passed.
* `Decides.andThen`: checks one after the other.
-/

namespace EventBus.Record

variable {fault : List Record → Record → ConfigError → Prop} {front back records : List Record} {record : Record}
  {e : ConfigError}

/-- Nothing is wrong with any record, given those in front of it. -/
def Faultless (fault : List Record → Record → ConfigError → Prop) (records : List Record) : Prop :=
  ∀ front record back, records = front ++ record :: back → ∀ e, ¬fault front record e

/-- Something is wrong with a record, and nothing with those in front of it. -/
def FirstFault (fault : List Record → Record → ConfigError → Prop) (records : List Record) (e : ConfigError) : Prop :=
  ∃ front record back, records = front ++ record :: back ∧ Faultless fault front ∧ fault front record e

theorem faultless_nil : Faultless fault [] := by
  intro front record back hrecords
  simp at hrecords

/-- With one record more, what may be wrong is that one. -/
theorem faultless_concat_iff :
    Faultless fault (front ++ [record]) ↔ Faultless fault front ∧ ∀ e, ¬fault front record e := by
  constructor
  · refine fun h => ⟨fun first other rest hfront => ?_, h front record [] rfl⟩
    exact h first other (rest ++ [record]) (by rw [hfront, List.append_assoc, List.cons_append])
  · rintro ⟨hfront, hrecord⟩ first other rest hsplit
    -- the record is the last one, or it is in front of that
    rcases List.eq_nil_or_concat rest with rfl | ⟨rest, last, rfl⟩
    · obtain ⟨rfl, hsame⟩ := List.append_inj' hsplit rfl
      obtain ⟨rfl, -⟩ := List.cons.inj hsame
      exact hrecord
    · rw [List.concat_eq_append, ← List.cons_append, ← List.append_assoc] at hsplit
      exact hfront first other rest (List.append_inj' hsplit rfl).1

/-- What is wrong with a record behind some with which nothing is wrong is the first fault. -/
theorem FirstFault.eq_of_fault {rest : List Record} (hfront : Faultless fault front) (hfault : fault front record e)
    {other : ConfigError} (h : FirstFault fault (front ++ record :: rest) other) : fault front record other := by
  obtain ⟨first, found, behind, hsplit, hfirst, hother⟩ := h
  -- whichever of the two faults came later has the other one in its faultless front
  rcases List.append_eq_append_iff.mp hsplit with ⟨between, rfl, hrest⟩ | ⟨between, rfl, hrest⟩
  · cases between with
    | nil =>
      obtain ⟨rfl, -⟩ := List.cons.inj hrest
      rwa [List.append_nil] at hother
    | cons next between =>
      obtain ⟨rfl, -⟩ := List.cons.inj hrest
      exact absurd hfault (hfirst front record between rfl e)
  · cases between with
    | nil =>
      obtain ⟨rfl, -⟩ := List.cons.inj hrest
      rwa [List.append_nil]
    | cons next between =>
      obtain ⟨rfl, -⟩ := List.cons.inj hrest
      exact absurd hother (hfront first found between rfl other)

/-- Where there is a first fault there is one. -/
theorem FirstFault.not_faultless (h : FirstFault fault records e) : ¬Faultless fault records := by
  obtain ⟨front, record, back, hrecords, -, hfault⟩ := h
  exact fun hnone => hnone front record back hrecords e hfault

end EventBus.Record

namespace EventBus

/-! ## Checks -/

/-- When a check succeeds, and with what it fails. -/
structure Decides {α : Type} (sound : Prop) (fails : ConfigError → Prop) (result : Except ConfigError α) : Prop where
  ok_iff : (∃ value, result = .ok value) ↔ sound
  error_iff : ∀ e, result = .error e ↔ fails e

namespace Decides

open Record

variable {fault : List Record → Record → ConfigError → Prop} {front records : List Record} {record : Record}
  {e : ConfigError} {α β : Type} {sound sound' : Prop} {fails fails' : ConfigError → Prop}

/-- A check that finds nothing wrong with the records succeeds. -/
theorem of_faultless (h : Faultless fault records) (value : α) :
    Decides (Faultless fault records) (FirstFault fault records) (.ok value) where
  ok_iff := ⟨fun _ => h, fun _ => ⟨value, rfl⟩⟩
  error_iff _ := ⟨nofun, fun hfault => absurd h hfault.not_faultless⟩

/-- A check fails at a record that has one fault, once those in front of it have passed. -/
theorem of_fault (hfront : Faultless fault front) (hfault : ∀ other, fault front record other ↔ other = e)
    (rest : List Record) : Decides (Faultless fault (front ++ record :: rest))
      (FirstFault fault (front ++ record :: rest)) (.error e : Except ConfigError α) := by
  have hfirst : FirstFault fault (front ++ record :: rest) e :=
    ⟨front, record, rest, rfl, hfront, (hfault e).mpr rfl⟩
  refine ⟨⟨nofun, fun hnone => absurd hnone hfirst.not_faultless⟩, fun other => ?_⟩
  constructor
  · rintro ⟨⟩
    exact hfirst
  · intro hother
    rw [(hfault other).mp (FirstFault.eq_of_fault hfront ((hfault e).mpr rfl) hother)]

/-- What is made of a result does not change how the check ends. -/
theorem map {result : Except ConfigError α} (h : Decides sound fails result) (f : α → β) :
    Decides sound fails (result.map f) := by
  obtain ⟨hok, herror⟩ := h
  cases result with
  | ok value =>
    refine ⟨⟨fun _ => hok.mp ⟨value, rfl⟩, fun _ => ⟨f value, rfl⟩⟩, fun e => ⟨nofun, fun hfails => ?_⟩⟩
    exact absurd ((herror e).mpr hfails) (by nofun)
  | error e =>
    refine ⟨⟨nofun, fun hsound => absurd (hok.mpr hsound) (by nofun)⟩, fun other => ?_⟩
    rw [← herror other, Except.map, Except.error.injEq, Except.error.injEq]

/-- Of two checks one after the other, the second counts only if the first one succeeds. -/
theorem andThen {first : Except ConfigError α} {rest : Except ConfigError β} (h : Decides sound fails first)
    (hrest : Decides sound' fails' rest) :
    Decides (sound ∧ sound') (fun e => fails e ∨ sound ∧ fails' e) (first >>= fun _ => rest) := by
  obtain ⟨hok, herror⟩ := h
  cases first with
  | ok value =>
    have hsound : sound := hok.mp ⟨value, rfl⟩
    have hnever : ∀ e, ¬fails e := fun e hfails => absurd ((herror e).mpr hfails) (by nofun)
    simp only [hsound, hnever, true_and, false_or]
    exact hrest
  | error e =>
    have hnot : ¬sound := fun hsound => absurd (hok.mpr hsound) (by nofun)
    refine ⟨⟨nofun, fun hboth => absurd hboth.1 hnot⟩, fun other => ?_⟩
    simp only [hnot, false_and, or_false, ← herror]
    show Except.error e = Except.error other ↔ Except.error e = Except.error other
    rw [Except.error.injEq, Except.error.injEq]

end Decides

end EventBus
