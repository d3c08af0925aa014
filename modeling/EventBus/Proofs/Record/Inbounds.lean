import EventBus.Catalog.Component
import EventBus.Proofs.Record.Entries
import EventBus.Proofs.Record.Grants
import Mathlib.Data.List.Forall2

/-!
# Inbound entries

What a record receives, said of its texts.

* **Entries that count**: those in front of the first one that `Ends` the list (`counted`).
* **What an entry asks for**: `Asks`. Its permission is spelled by its own letters, else by those of the record, and is
  READ without either (`Holds`); it is asked for each kind that the name of the entry stands for.
* **Errors**: `Refused`. The letters of the record come first, then the first entry that `Offends`. The letters of an
  entry come before its name.
* `resolveEntries_eq_ok_iff` and `resolveEntries_eq_error_iff` are the inductions along the entries, from what one entry
  comes to (`resolveEntry_cases`); `resolveInbounds_iff` is what they give for a record.
-/

namespace EventBus.Record

variable {c : Catalog} {record : Record} {raw : String}

/-! ## What entries ask for -/

/-- The name of an entry ends the list, with the prefix of the catalog or without it, and whatever letters it has. -/
def Ends (c : Catalog) (raw : String) : Prop :=
  ∃ entry, Entry.Reads raw entry ∧ c.IsBare entry.name "NONE"

/-- An entry ends the list exactly if its name is the terminator. -/
theorem ends_iff : Ends c raw ↔ c.isTerminator (Entry.ofText raw).name = true := by
  simp only [Ends, Entry.reads_iff, Catalog.isTerminator_iff, exists_eq_left']

instance (c : Catalog) (raw : String) : Decidable (Ends c raw) :=
  decidable_of_iff _ ends_iff.symm

/-- The entries in front of the first one that ends the list. -/
def counted (c : Catalog) (entries : List String) : List String :=
  entries.takeWhile fun raw => ¬Ends c raw

/-- The permission that an entry with certain letters, or with none, holds in a record. -/
inductive Holds (record : Record) : Option String → Perm → Prop where
  | suffix {letters : String} {perm : Perm} (h : Perm.Spells letters perm) : Holds record (some letters) perm
  | record {letters : String} {perm : Perm} (hperm : record.perm = some letters) (h : Perm.Spells letters perm) :
    Holds record none perm
  | read (hperm : record.perm = none) : Holds record none ⟨true, false, false⟩

/-- An entry asks for its permission, for each of the kinds that its name stands for. -/
inductive Asks (c : Catalog) (record : Record) (raw : String) : List (Grant c) → Prop where
  | entry {entry : Entry} {kinds : List c.Kind} {perm : Perm} (hreads : Entry.Reads raw entry)
      (hperm : record.Holds entry.letters perm) (hnames : c.Names entry.name kinds) :
    Asks c record raw (kinds.map (·, perm))

/-- The name of an entry is that of a kind or a group tag, and its letters spell a permission if it has any. -/
def IsProper (c : Catalog) (raw : String) : Prop :=
  ∃ entry, Entry.Reads raw entry ∧ (∀ letters ∈ entry.letters, ∃ perm, Perm.Spells letters perm)
    ∧ ∃ kinds, c.Names entry.name kinds

/-- What is wrong with an entry of a subscriber. Its letters come before its name. -/
inductive Offends (c : Catalog) (subscriber raw : String) : ConfigError → Prop where
  | permission {name letters : String} (hreads : Entry.Reads raw ⟨name, some letters⟩)
      (h : ∀ perm, ¬Perm.Spells letters perm) :
    Offends c subscriber raw (.invalidPermission subscriber raw)
  | name {entry : Entry} (hreads : Entry.Reads raw entry)
      (hletters : ∀ letters ∈ entry.letters, ∃ perm, Perm.Spells letters perm)
      (h : ∀ kinds, ¬c.Names entry.name kinds) :
    Offends c subscriber raw (.unknownEvent subscriber raw)

/-! ## What records ask for -/

/-- The letters of a record spell a permission if it has any, and all entries that count are proper. -/
structure IsSound (c : Catalog) (record : Record) : Prop where
  perm : ∀ letters ∈ record.perm, ∃ perm, Perm.Spells letters perm
  entries : ∀ raw ∈ counted c record.inbounds, IsProper c raw

/-- The grants are those that the entries ask for one after the other, merged. -/
def Resolves (c : Catalog) (record : Record) (grants : List (Grant c)) : Prop :=
  ∃ asked, List.Forall₂ (Asks c record) (counted c record.inbounds) asked ∧ Merges asked.flatten grants

/-- What is wrong with a record: its own letters, else the first entry with which something is wrong. -/
inductive Refused (c : Catalog) (record : Record) : ConfigError → Prop where
  | record {letters : String} (hperm : record.perm = some letters) (h : ∀ perm, ¬Perm.Spells letters perm) :
    Refused c record (.invalidPermission record.name letters)
  | entry {front back : List String} {raw : String} {e : ConfigError}
      (hperm : ∀ letters ∈ record.perm, ∃ perm, Perm.Spells letters perm)
      (hentries : counted c record.inbounds = front ++ raw :: back) (hfront : ∀ other ∈ front, IsProper c other)
      (h : Offends c record.name raw e) :
    Refused c record e

/-- Behind an entry that ends the list nothing counts, itself included. -/
theorem counted_of_ends (h : Ends c raw) (rest : List String) : counted c (raw :: rest) = [] :=
  List.takeWhile_cons_of_neg (by simpa using h)

theorem counted_of_not_ends (h : ¬Ends c raw) (rest : List String) :
    counted c (raw :: rest) = raw :: counted c rest :=
  List.takeWhile_cons_of_pos (by simpa using h)

/-! ## Permissions -/

/-- Without letters an entry has the permission of the record. -/
theorem holds_none_iff {perm : Perm} : record.Holds none perm ↔ record.defaultPerm = .ok perm := by
  constructor
  -- an entry without letters of its own has those of the record, or may only read
  · rintro (_ | ⟨hperm, hspells⟩ | hperm)
    · rw [defaultPerm, hperm]
      simp only [Perm.spells_iff.mp hspells]
    · rw [defaultPerm, hperm]
      rfl
  · intro h
    rw [defaultPerm] at h
    split at h
    · next hperm =>
      cases h
      exact .read hperm
    · next letters hperm =>
      split at h
      · next hparse =>
        cases h
        exact .record hperm (Perm.spells_iff.mpr hparse)
      · cases h

/-- The letters of the record are refused if they spell nothing. -/
theorem defaultPerm_eq_error_iff {e : ConfigError} : record.defaultPerm = .error e
    ↔ ∃ letters, record.perm = some letters ∧ (∀ perm, ¬Perm.Spells letters perm)
      ∧ e = .invalidPermission record.name letters := by
  rw [defaultPerm]
  cases hperm : record.perm with
  | none => simp
  | some letters =>
    cases hparse : Perm.parseHeld? letters with
    | none => simp [Perm.not_spells_iff, hparse, eq_comm]
    | some perm => simp [Perm.not_spells_iff, hparse]

/-- The record has a permission if its letters spell one, or if there are none. -/
theorem exists_defaultPerm_iff :
    (∃ perm, record.defaultPerm = .ok perm) ↔ ∀ letters ∈ record.perm, ∃ perm, Perm.Spells letters perm := by
  rw [defaultPerm]
  cases hperm : record.perm with
  | none => simp
  | some letters =>
    cases hparse : Perm.parseHeld? letters with
    | none => simp [Perm.spells_iff, hparse]
    | some perm => simp [Perm.spells_iff, hparse]

/-- What an entry asks for is some permission. -/
theorem Holds.isEmpty {letters : Option String} {perm : Perm} (h : record.Holds letters perm) :
    perm.isEmpty = false := by
  cases h with
  | suffix h | record _ h => exact Perm.isEmpty_of_parseHeld? (Perm.spells_iff.mp h)
  | read => rfl

/-! ## One entry -/

theorem asks_iff {asked : List (Grant c)} : Asks c record raw asked
    ↔ ∃ kinds perm, record.Holds (Entry.ofText raw).letters perm ∧ c.Names (Entry.ofText raw).name kinds
      ∧ asked = kinds.map (·, perm) := by
  constructor
  · rintro ⟨hreads, hperm, hnames⟩
    obtain rfl := Entry.reads_iff.mp hreads
    exact ⟨_, _, hperm, hnames, rfl⟩
  · rintro ⟨kinds, perm, hperm, hnames, rfl⟩
    exact .entry (Entry.reads_iff.mpr rfl) hperm hnames

/-- An entry is in order if its letters spell something and its name stands for something. -/
theorem isProper_iff : IsProper c raw
    ↔ (∀ letters ∈ (Entry.ofText raw).letters, ∃ perm, Perm.Spells letters perm)
      ∧ ∃ kinds, c.Names (Entry.ofText raw).name kinds := by
  simp only [IsProper, Entry.reads_iff, exists_eq_left']

/-- What is wrong with an entry: its letters, or else its name. -/
theorem offends_iff {subscriber : String} {e : ConfigError} : Offends c subscriber raw e
    ↔ (¬∀ letters ∈ (Entry.ofText raw).letters, ∃ perm, Perm.Spells letters perm)
        ∧ e = .invalidPermission subscriber raw
      ∨ (∀ letters ∈ (Entry.ofText raw).letters, ∃ perm, Perm.Spells letters perm)
        ∧ (∀ kinds, ¬c.Names (Entry.ofText raw).name kinds) ∧ e = .unknownEvent subscriber raw := by
  constructor
  · rintro (⟨hreads, h⟩ | ⟨hreads, hletters, h⟩)
    -- letters are judged before the name is
    · rw [Entry.reads_iff.mp hreads]
      refine .inl ⟨fun hall => ?_, rfl⟩
      obtain ⟨perm, hspells⟩ := hall _ rfl
      exact h perm hspells
    · obtain rfl := Entry.reads_iff.mp hreads
      exact .inr ⟨hletters, h, rfl⟩
  · generalize hentry : Entry.ofText raw = entry
    rintro (⟨hnot, rfl⟩ | ⟨hletters, h, rfl⟩)
    · push Not at hnot
      obtain ⟨letters, hsome, h⟩ := hnot
      obtain ⟨name, spelled⟩ := entry
      obtain rfl : spelled = some letters := hsome
      exact .permission (Entry.reads_iff.mpr hentry) h
    · exact .name (Entry.reads_iff.mpr hentry) hletters h

/-- An entry with which something is wrong is not in order. -/
theorem Offends.not_isProper {subscriber : String} {e : ConfigError} (h : Offends c subscriber raw e) :
    ¬IsProper c raw := by
  rintro hproper
  obtain ⟨hletters, kinds, hnames⟩ := isProper_iff.mp hproper
  rcases offends_iff.mp h with ⟨hnot, -⟩ | ⟨-, hnot, -⟩
  · exact hnot hletters
  · exact hnot kinds hnames

/-- The permission of letters, or the one that stands for no letters. -/
def permOf? (fallback : Perm) : Option String → Option Perm
  | none => some fallback
  | some letters => Perm.parseHeld? letters

/-- An entry is resolved by its letters first, and then by its name. -/
theorem resolveEntry_eq (subscriber raw : String) (fallback : Perm) (entry : Entry) :
    resolveEntry c subscriber raw fallback entry =
      match permOf? fallback entry.letters with
      | none => .error (.invalidPermission subscriber raw)
      | some perm =>
        match kindsOf? c entry.name with
        | some kinds => .ok (kinds, perm)
        | none => .error (.unknownEvent subscriber raw) := by
  obtain ⟨name, letters⟩ := entry
  cases letters with
  | none => rfl
  | some letters =>
    simp only [resolveEntry, permOf?]
    cases Perm.parseHeld? letters <;> rfl

section

variable {fallback : Perm}

/-- An entry has a permission if its letters, where there are any, spell one. -/
theorem spelled_iff (fallback : Perm) {letters : Option String} :
    (∀ spelled ∈ letters, ∃ perm, Perm.Spells spelled perm) ↔ ∃ perm, permOf? fallback letters = some perm := by
  cases letters with
  | none => simp [permOf?]
  | some letters => simp [permOf?, Perm.spells_iff]

/-- The permission that an entry has is the one that is looked up. -/
theorem holds_iff (hfallback : record.defaultPerm = .ok fallback) {letters : Option String} {perm : Perm} :
    record.Holds letters perm ↔ permOf? fallback letters = some perm := by
  cases letters with
  | none => rw [holds_none_iff, hfallback, permOf?, Except.ok.injEq, Option.some.injEq]
  | some letters =>
    rw [permOf?, ← Perm.spells_iff]
    constructor
    · rintro ⟨h⟩
      exact h
    · exact .suffix

/-- An entry either is proper, and grants what it asks for, or offends in one way, which is what its error says. -/
theorem resolveEntry_cases (c : Catalog) (hfallback : record.defaultPerm = .ok fallback) (raw : String) :
    (∃ kinds perm, resolveEntry c record.name raw fallback (Entry.ofText raw) = .ok (kinds, perm) ∧ IsProper c raw
      ∧ ∀ asked, Asks c record raw asked ↔ asked = kinds.map (·, perm))
    ∨ ∃ e, resolveEntry c record.name raw fallback (Entry.ofText raw) = .error e ∧ ¬IsProper c raw
      ∧ ∀ other, Offends c record.name raw other ↔ other = e := by
  simp only [resolveEntry_eq, asks_iff, isProper_iff, offends_iff, spelled_iff fallback, holds_iff hfallback,
    Catalog.names_iff]
  cases permOf? fallback (Entry.ofText raw).letters with
  | none => exact .inr ⟨_, rfl, by simp, by simp⟩
  | some perm =>
    cases kindsOf? c (Entry.ofText raw).name with
    | none => exact .inr ⟨_, rfl, by simp, by simp⟩
    | some kinds => exact .inl ⟨kinds, perm, rfl, by simp, by simp⟩

end

/-- An entry that asks for something is in order. -/
theorem Asks.isProper {asked : List (Grant c)} (h : Asks c record raw asked) : IsProper c raw := by
  obtain ⟨hreads, hperm, hnames⟩ := h
  refine ⟨_, hreads, fun letters hletters => ?_, _, hnames⟩
  rw [Option.mem_def.mp hletters] at hperm
  cases hperm with
  | suffix h => exact ⟨_, h⟩

theorem Asks.held {asked : List (Grant c)} (h : Asks c record raw asked) : ∀ ask ∈ asked, ask.2.isEmpty = false := by
  obtain ⟨-, hperm, -⟩ := h
  exact List.forall_mem_map.mpr fun _ _ => hperm.isEmpty

/-! ## All entries -/

theorem isProper_of_asks {entries : List String} {asked : List (List (Grant c))}
    (h : List.Forall₂ (Asks c record) entries asked) : ∀ raw ∈ entries, IsProper c raw := by
  induction h with
  | nil => nofun
  | cons hfirst _ ih => exact List.forall_mem_cons.mpr ⟨hfirst.isProper, ih⟩

/-- Only permissions that hold something are asked for. -/
theorem held_of_asks {entries : List String} {asked : List (List (Grant c))}
    (h : List.Forall₂ (Asks c record) entries asked) : ∀ ask ∈ asked.flatten, ask.2.isEmpty = false := by
  induction h with
  | nil => nofun
  | cons hfirst _ ih =>
    rw [List.flatten_cons, List.forall_mem_append]
    exact ⟨hfirst.held, ih⟩

section

variable {fallback : Perm}

/-- Resolving entries grants what those that count ask for. -/
theorem resolveEntries_eq_ok_iff (hfallback : record.defaultPerm = .ok fallback) {entries : List String}
    {grants all : List (Grant c)} : resolveEntries c record.name fallback grants entries = .ok all
      ↔ ∃ asked, List.Forall₂ (Asks c record) (counted c entries) asked ∧ all = addAll grants asked.flatten := by
  have hnothing : ∀ {grants all : List (Grant c)}, (.ok grants : Except ConfigError _) = .ok all
      ↔ ∃ asked, List.Forall₂ (Asks c record) [] asked ∧ all = addAll grants asked.flatten := by
    intro grants all
    simp only [List.forall₂_nil_left_iff, exists_eq_left, Except.ok.injEq]
    exact eq_comm
  induction entries generalizing grants with
  | nil => exact hnothing
  | cons raw rest ih =>
    rw [resolveEntries]
    -- an entry that ends the list is the last that is looked at
    by_cases hends : Ends c raw
    · rw [if_pos (ends_iff.mp hends), counted_of_ends hends]
      exact hnothing
    · rw [if_neg (mt ends_iff.mpr hends), counted_of_not_ends hends]
      rcases resolveEntry_cases c hfallback raw with ⟨kinds, perm, hentry, -, hasks⟩ | ⟨e, hentry, hnot, -⟩
      · simp only [hentry, addGrants_eq, ih, List.forall₂_cons_left_iff, hasks]
        constructor
        · rintro ⟨asked, hasked, rfl⟩
          exact ⟨_, ⟨_, asked, rfl, hasked, rfl⟩, by rw [List.flatten_cons, addAll_append]⟩
        · rintro ⟨_, ⟨_, asked, rfl, hasked, rfl⟩, rfl⟩
          exact ⟨asked, hasked, by rw [List.flatten_cons, addAll_append]⟩
      · simp only [hentry, reduceCtorEq, false_iff]
        rintro ⟨_, hall, -⟩
        obtain ⟨asked, _, hasks, -⟩ := List.forall₂_cons_left_iff.mp hall
        exact hnot hasks.isProper

/-- Resolving entries fails with the first of those that count with which something is wrong. -/
theorem resolveEntries_eq_error_iff (hfallback : record.defaultPerm = .ok fallback) {entries : List String}
    {grants : List (Grant c)} {e : ConfigError} : resolveEntries c record.name fallback grants entries = .error e
      ↔ ∃ front raw back, counted c entries = front ++ raw :: back ∧ (∀ other ∈ front, IsProper c other)
        ∧ Offends c record.name raw e := by
  have hnothing : ∀ {grants : List (Grant c)}, (.ok grants : Except ConfigError _) = .error e
      ↔ ∃ front raw back, [] = front ++ raw :: back ∧ (∀ other ∈ front, IsProper c other)
        ∧ Offends c record.name raw e := by
    intro grants
    simp
  induction entries generalizing grants with
  | nil => exact hnothing
  | cons raw rest ih =>
    rw [resolveEntries]
    by_cases hends : Ends c raw
    · rw [if_pos (ends_iff.mp hends), counted_of_ends hends]
      exact hnothing
    · rw [if_neg (mt ends_iff.mpr hends), counted_of_not_ends hends]
      -- an entry in order goes to the front, and any other is the first that offends
      rcases resolveEntry_cases c hfallback raw with ⟨kinds, perm, hentry, hproper, -⟩ | ⟨other, hentry, hnot, hoffends⟩
      · simp only [hentry, ih]
        constructor
        · rintro ⟨front, offending, back, hrest, hfront, h⟩
          refine ⟨raw :: front, offending, back, by rw [hrest, List.cons_append], ?_, h⟩
          exact List.forall_mem_cons.mpr ⟨hproper, hfront⟩
        · rintro ⟨front, offending, back, hrest, hfront, h⟩
          cases front with
          | nil =>
            obtain ⟨rfl, -⟩ := List.cons.inj hrest
            exact absurd hproper h.not_isProper
          | cons first front =>
            obtain ⟨rfl, hbehind⟩ := List.cons.inj hrest
            exact ⟨front, offending, back, hbehind, (List.forall_mem_cons.mp hfront).2, h⟩
      · simp only [hentry, Except.error.injEq]
        constructor
        · rintro rfl
          exact ⟨[], raw, _, rfl, by nofun, (hoffends _).mpr rfl⟩
        · rintro ⟨front, offending, back, hrest, hfront, h⟩
          cases front with
          | nil =>
            obtain ⟨rfl, -⟩ := List.cons.inj hrest
            exact ((hoffends e).mp h).symm
          | cons first front =>
            obtain ⟨rfl, -⟩ := List.cons.inj hrest
            exact absurd (hfront raw List.mem_cons_self) hnot

/-- Entries that do not count are not looked at. -/
theorem resolveEntries_counted (subscriber : String) (fallback : Perm) (grants : List (Grant c))
    (entries : List String) : resolveEntries c subscriber fallback grants (counted c entries)
      = resolveEntries c subscriber fallback grants entries := by
  induction entries generalizing grants with
  | nil => rfl
  | cons raw rest ih =>
    by_cases hends : Ends c raw
    · rw [counted_of_ends hends, resolveEntries, resolveEntries, if_pos (ends_iff.mp hends)]
    · rw [counted_of_not_ends hends, resolveEntries, resolveEntries]
      simp only [ih]

end

/-! ## Records -/

/-- Inbounds are resolved exactly if everything in the record is in order, and to what its entries ask for, merged. -/
theorem resolveInbounds_eq_ok_iff {grants : List (Grant c)} :
    record.resolveInbounds c = .ok grants ↔ record.IsSound c ∧ record.Resolves c grants := by
  rw [resolveInbounds]
  cases hperm : record.defaultPerm with
  -- without a fallback no entry is looked at, however sound the entries are
  | error e =>
    refine iff_of_false (by nofun) ?_
    rintro ⟨⟨hspelled, -⟩, -⟩
    obtain ⟨perm, h⟩ := exists_defaultPerm_iff.mpr hspelled
    rw [hperm] at h
    cases h
  | ok fallback =>
    show resolveEntries c record.name fallback [] record.inbounds = .ok grants ↔ _
    rw [resolveEntries_eq_ok_iff hperm]
    constructor
    · rintro ⟨asked, hasked, rfl⟩
      refine ⟨⟨exists_defaultPerm_iff.mp ⟨fallback, hperm⟩, fun raw hraw => ?_⟩, asked, hasked, merges_addAll _⟩
      exact isProper_of_asks hasked raw hraw
    · rintro ⟨-, asked, hasked, hmerges⟩
      exact ⟨asked, hasked, hmerges.unique (merges_addAll _)⟩

/-- Inbounds are refused for the letters of the record, or else for the first entry that is not in order. -/
theorem resolveInbounds_eq_error_iff {e : ConfigError} :
    record.resolveInbounds c = .error e ↔ record.Refused c e := by
  rw [resolveInbounds]
  cases hperm : record.defaultPerm with
  | error other =>
    obtain ⟨letters, hletters, hspelled, rfl⟩ := defaultPerm_eq_error_iff.mp hperm
    show Except.error _ = Except.error e ↔ _
    rw [Except.error.injEq]
    constructor
    · rintro rfl
      exact .record hletters hspelled
    · rintro (⟨hother, -⟩ | ⟨hall, -, -, -⟩)
      · rw [hletters, Option.some.injEq] at hother
        rw [hother]
      · obtain ⟨perm, h⟩ := hall letters hletters
        exact absurd h (hspelled perm)
  | ok fallback =>
    have hspelled := exists_defaultPerm_iff.mp ⟨fallback, hperm⟩
    show resolveEntries c record.name fallback [] record.inbounds = .error e ↔ _
    rw [resolveEntries_eq_error_iff hperm]
    constructor
    · rintro ⟨front, raw, back, hentries, hfront, h⟩
      exact .entry hspelled hentries hfront h
    -- the letters of the record are spelled, so the refusal is not on their account
    · rintro (⟨hletters, hnot⟩ | ⟨-, hentries, hfront, h⟩)
      · obtain ⟨perm, h⟩ := hspelled _ hletters
        exact absurd h (hnot perm)
      · exact ⟨_, _, _, hentries, hfront, h⟩

theorem Refused.not_isSound {e : ConfigError} (h : record.Refused c e) : ¬record.IsSound c := by
  rintro ⟨hperm, hentries⟩
  cases h with
  | record hletters hnot =>
    obtain ⟨perm, hspells⟩ := hperm _ hletters
    exact hnot perm hspells
  | entry _ hcounted _ h => exact h.not_isProper (hentries _ (hcounted ▸ List.mem_append_right _ List.mem_cons_self))

/-- A record that resolves receives each kind once. -/
theorem resolveInbounds_nodup {grants : List (Grant c)} (h : record.resolveInbounds c = .ok grants) :
    (grants.map Prod.fst).Nodup := by
  obtain ⟨-, asked, -, hmerges⟩ := resolveInbounds_eq_ok_iff.mp h
  exact hmerges.nodup

/-- A record that resolves holds something for each kind that it receives. -/
theorem resolveInbounds_held {grants : List (Grant c)} (h : record.resolveInbounds c = .ok grants) :
    ∀ grant ∈ grants, grant.2.isEmpty = false := by
  obtain ⟨-, asked, hasked, hmerges⟩ := resolveInbounds_eq_ok_iff.mp h
  intro grant hgrant
  have hkind := (hmerges.mem_iff grant.1).mp (List.mem_map_of_mem hgrant)
  obtain ⟨⟨kind, perm⟩, hask, hsame⟩ := List.mem_map.mp hkind
  obtain rfl : kind = grant.1 := hsame
  exact (hmerges.union grant hgrant).held hask (held_of_asks hasked _ hask)

/-- **What a record receives.** The inbound entries of a record resolve exactly if the letters of the record spell a
permission, when it has any, and each entry in front of the terminator names a kind or a group tag and spells a
permission with its letters, when it has any. The result is then what these entries ask for: each kind once, where it
was first asked for, with the union of the permissions. Else the error is that of the record or of the first entry that
offends. Nothing behind the terminator matters. -/
theorem resolveInbounds_iff (c : Catalog) (record : Record) :
    ((∃ grants, record.resolveInbounds c = .ok grants) ↔ record.IsSound c)
      ∧ (∀ grants, record.resolveInbounds c = .ok grants ↔ record.IsSound c ∧ record.Resolves c grants)
      ∧ (∀ e, record.resolveInbounds c = .error e ↔ record.Refused c e)
      ∧ resolveInbounds c { record with inbounds := counted c record.inbounds } = record.resolveInbounds c := by
  refine ⟨⟨?_, fun hsound => ?_⟩, fun grants => resolveInbounds_eq_ok_iff, fun e => resolveInbounds_eq_error_iff, ?_⟩
  · rintro ⟨grants, h⟩
    exact (resolveInbounds_eq_ok_iff.mp h).1
  · cases h : record.resolveInbounds c with
    | ok grants => exact ⟨grants, rfl⟩
    | error e => exact absurd hsound (resolveInbounds_eq_error_iff.mp h).not_isSound
  · simp only [resolveInbounds, resolveEntries_counted]
    rfl

/-- A kind stays where it was first named, and takes what the tag adds to it. -/
example : (resolveInbounds .component
      { name := "cac", inbounds := ["EV_SW_GET_FD,w", "WRITE_INTSTREAM,x", "NONE", "?"] }).map
        (·.map fun grant => (Catalog.name grant.1, grant.2.letters))
    = .ok [("EV_SW_GET_FD", "-wx"), ("EV_SW_GET_DPID", "--x"), ("EV_SW_GET_XID", "--x")] := by rfl

end EventBus.Record
