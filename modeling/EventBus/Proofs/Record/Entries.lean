import EventBus.Record.Entries
import Mathlib.Data.Bool.AllAny
import Mathlib.Data.List.Nodup
import Mathlib.Data.List.TakeWhile

/-!
# What entries say

The texts in a record, without the functions that read them.

* **Texts**: `Text.Trims` says which part of a text is left without the blanks around it. `splitOnce_eq_some_iff` and
  `splitOnce_eq_none_iff` say where the first separator cuts.
* **Permissions**: `Perm.Spells`. Letters between blanks, each of which is one of the eight that stand for a permission,
  spell the permissions that they stand for, and at least one of them.
* **Entries**: `Entry.Reads`. An entry reads as a name, and as the letters behind its first comma if it has one.
* **Names**: `Catalog.Names`. With the prefix of the catalog or without it, a name is that of a kind or a group tag.

Each of them holds of exactly what the reading function gives (`spells_iff`, `reads_iff`, `names_iff`).
-/

namespace EventBus

/-! ## Texts -/

namespace Text

/-- `core` is what is left of a text without the blank characters around it. -/
structure Trims (cs core : List Char) : Prop where
  around : ∃ front back, cs = front ++ core ++ back ∧ (∀ ch ∈ front, isBlank ch) ∧ ∀ ch ∈ back, isBlank ch
  first : ∀ ch ∈ core.head?, isBlank ch = false
  last : ∀ ch ∈ core.getLast?, isBlank ch = false

variable {cs core : List Char}

/-- A text whose front is trimmed does not begin with a blank. -/
theorem head?_trimStart (cs : List Char) : ∀ ch ∈ (trimStart cs).head?, isBlank ch = false := by
  intro ch hch
  have hnot := List.head?_dropWhile_not isBlank cs
  rwa [← trimStart, Option.mem_def.mp hch] at hnot

/-- Where there is no blank in front nothing is trimmed. -/
theorem trimStart_of_head? (h : ∀ ch ∈ cs.head?, isBlank ch = false) : trimStart cs = cs := by
  cases cs with
  | nil => rfl
  | cons first cs => exact List.dropWhile_cons_of_neg (by rw [h first rfl]; exact Bool.false_ne_true)

/-- The end is trimmed as the front of the reversed text. -/
theorem trimEnd_eq (cs : List Char) : trimEnd cs = (trimStart cs.reverse).reverse := rfl

/-- Trimming takes blanks off both ends, and all that are there. -/
theorem trims_trim (cs : List Char) : Trims cs (trim cs) := by
  have hstart : cs.takeWhile isBlank ++ trimStart cs = cs := List.takeWhile_append_dropWhile
  obtain ⟨back, hend, hback⟩ : ∃ back, trim cs ++ back = trimStart cs ∧ ∀ ch ∈ back, isBlank ch := by
    refine ⟨((trimStart cs).reverse.takeWhile isBlank).reverse, ?_, fun ch hch => ?_⟩
    · rw [trim, trimEnd_eq, ← List.reverse_append]
      exact List.reverse_eq_iff.mpr List.takeWhile_append_dropWhile
    · exact List.mem_takeWhile_imp (List.mem_reverse.mp hch)
  refine ⟨⟨cs.takeWhile isBlank, back, ?_, fun ch => List.mem_takeWhile_imp, hback⟩, ?_, ?_⟩
  · rw [List.append_assoc, hend, hstart]
  · -- what is left begins as it does before its end is trimmed
    intro ch hch
    refine head?_trimStart cs ch ?_
    rw [← hend, List.head?_append, Option.mem_def.mp hch]
    rfl
  · intro ch hch
    rw [trim, trimEnd_eq, List.getLast?_reverse] at hch
    exact head?_trimStart _ ch hch

/-- What is left of a text without the blanks around it is what trimming it gives. -/
theorem trims_iff : Trims cs core ↔ trim cs = core := by
  constructor
  · rintro ⟨⟨front, back, rfl, hfront, hback⟩, hfirst, hlast⟩
    have hstart : trimStart (front ++ core ++ back) = trimStart (core ++ back) := by
      rw [List.append_assoc]
      exact List.dropWhile_append_of_pos hfront
    -- an empty core leaves nothing that could stop the trimming, so it is a case of its own
    cases core with
    | nil =>
      have hnothing : trimStart back = [] := List.dropWhile_eq_nil_iff.mpr hback
      rw [trim, hstart, List.nil_append, hnothing]
      rfl
    | cons first core =>
      have hwhole : trimStart (first :: core ++ back) = first :: core ++ back := trimStart_of_head? hfirst
      have hend : trimStart (first :: core ++ back).reverse = (first :: core).reverse := by
        rw [List.reverse_append, trimStart, List.dropWhile_append_of_pos (by simpa using hback)]
        refine trimStart_of_head? ?_
        rw [List.head?_reverse]
        exact hlast
      rw [trim, hstart, hwhole, trimEnd_eq, hend, List.reverse_reverse]
  · rintro rfl
    exact trims_trim cs

variable {separator : Char} {front back : List Char}

theorem splitOnce_eq_none_iff : splitOnce separator cs = none ↔ separator ∉ cs := by
  have hnothing : splitOnce separator cs = none ↔ cs.dropWhile (· != separator) = [] := by
    rw [splitOnce]
    split
    · next h => exact iff_of_true rfl h
    · next h => exact iff_of_false (by nofun) (by rw [h]; nofun)
  rw [hnothing, List.dropWhile_eq_nil_iff]
  constructor
  · intro h hmem
    exact absurd (h separator hmem) (by simp)
  · intro h ch hch
    exact bne_iff_ne.mpr fun hsame => h (hsame ▸ hch)

/-- A text is cut at its first separator. -/
theorem splitOnce_eq_some_iff :
    splitOnce separator cs = some (front, back) ↔ cs = front ++ separator :: back ∧ separator ∉ front := by
  constructor
  · intro h
    rw [splitOnce] at h
    split at h
    · cases h
    · next first behind hdrop =>
      cases h
      have hfirst := List.head?_dropWhile_not (· != separator) cs
      have hwhole := List.takeWhile_append_dropWhile (p := (· != separator)) (l := cs)
      rw [hdrop] at hfirst hwhole
      -- what the front stops at is the separator
      obtain rfl : first = separator := by simpa using hfirst
      refine ⟨hwhole.symm, fun hmem => ?_⟩
      have hother := List.mem_takeWhile_imp hmem
      simp at hother
  · rintro ⟨rfl, hfront⟩
    have hothers : ∀ ch ∈ front, (ch != separator) = true := fun ch hch =>
      bne_iff_ne.mpr fun hsame => hfront (hsame ▸ hch)
    rw [splitOnce, List.dropWhile_append_of_pos hothers, List.takeWhile_append_of_pos hothers]
    simp

end Text

/-! ## Permissions -/

namespace Perm

/-- The letters of permissions. -/
def alphabet : List Char := ['r', 'R', 'w', 'W', 'x', 'X', 'e', 'E']

/-- The permissions that are among some letters. -/
def among (core : List Char) : Perm :=
  ⟨core.any (· ∈ ['r', 'R']), core.any (· ∈ ['w', 'W']), core.any (· ∈ ['x', 'X', 'e', 'E'])⟩

/-- Letters, with blanks around them, that stand for a permission each. There is at least one of them. -/
def Spells (letters : String) (perm : Perm) : Prop :=
  ∃ core, Text.Trims letters.toList core ∧ core ≠ [] ∧ (∀ ch ∈ core, ch ∈ alphabet) ∧ perm = among core

/-- Only one other character has a given lower case. -/
theorem eq_of_toLower {ch low : Char} (h : ch.toLower = low) : ch = low ∨ ch = Char.ofNat (low.toNat - 32) := by
  delta Char.toLower at h
  split at h
  · next hupper =>
    right
    have hbound : ch.toNat ≤ 90 := hupper.2
    have hvalue : low.toNat = ch.toNat + 32 := by
      rw [← h]
      show (ch.val + 32).toNat = ch.val.toNat + 32
      rw [UInt32.toNat_add]
      exact Nat.mod_eq_of_lt (by show ch.toNat + 32 < 4294967296; omega)
    rw [hvalue, Nat.add_sub_cancel, Char.ofNat_toNat]
  · exact .inl h

/-- Eight letters stand for permissions, and no others do. -/
theorem ofLetter?_eq (ch : Char) : ofLetter? ch = if ch ∈ alphabet then some (among [ch]) else none := by
  -- deciding the list, and not all characters
  have hletters : ∀ ch ∈ alphabet, ofLetter? ch = some (among [ch]) := List.all_iff_forall_prop.mp (by decide)
  have hlower : ∀ low ∈ ['r', 'w', 'x', 'e'], low ∈ alphabet ∧ Char.ofNat (low.toNat - 32) ∈ alphabet :=
    List.all_iff_forall_prop.mp (by decide)
  by_cases hch : ch ∈ alphabet
  · rw [if_pos hch]
    exact hletters ch hch
  · have hother : ch.toLower ∉ ['r', 'w', 'x', 'e'] := fun hmem => by
      obtain ⟨hlow, hupper⟩ := hlower _ hmem
      rcases eq_of_toLower (Eq.refl ch.toLower) with hsame | hsame
      · exact hch (hsame ▸ hlow)
      · exact hch (hsame ▸ hupper)
    rw [if_neg hch, ofLetter?]
    split
    case h_5 => rfl
    all_goals next h => exact absurd (by rw [h]; decide) hother

theorem union_empty (p : Perm) : p.union empty = p := by
  rcases p with ⟨_ | _, _ | _, _ | _⟩ <;> rfl

theorem union_assoc (p q r : Perm) : (p.union q).union r = p.union (q.union r) := by
  simp only [union, Bool.or_assoc]

/-- Letters stand for what each of them stands for. -/
theorem among_cons (ch : Char) (core : List Char) : among (ch :: core) = (among [ch]).union (among core) := by
  simp only [among, union, List.any_cons, List.any_nil, Bool.or_false]

/-- Reading letters adds what is among them, if all of them stand for a permission. -/
theorem foldlM_ofLetter? (core : List Char) (held : Perm) :
    core.foldlM (fun held ch => (ofLetter? ch).map held.union) held
      = if core.all (· ∈ alphabet) then some (held.union (among core)) else none := by
  induction core generalizing held with
  | nil => exact congrArg some (union_empty held).symm
  | cons ch core ih =>
    rw [List.foldlM_cons, ofLetter?_eq, List.all_cons]
    by_cases hch : ch ∈ alphabet
    · rw [if_pos hch, decide_eq_true hch, Bool.true_and]
      show core.foldlM _ (held.union (among [ch])) = _
      rw [ih, among_cons ch core, union_assoc]
    · rw [if_neg hch, decide_eq_false hch, Bool.false_and]
      rfl

/-- Letters of which there is one name a permission. -/
theorem isEmpty_among {core : List Char} (h : ∀ ch ∈ core, ch ∈ alphabet) : (among core).isEmpty = core.isEmpty := by
  cases core with
  | nil => rfl
  | cons ch core =>
    have hfirst : ∀ ch ∈ alphabet, (among [ch]).isEmpty = false := List.all_iff_forall_prop.mp (by decide)
    rw [among_cons, isEmpty_union, hfirst ch (h ch List.mem_cons_self)]
    rfl

/-- Letters spell permissions exactly if they are read as these. -/
theorem spells_iff {letters : String} {perm : Perm} : Spells letters perm ↔ parseHeld? letters = some perm := by
  -- reading letter by letter fails exactly where a letter is foreign
  have hparse : ∀ core, Text.trim letters.toList = core →
      parse? letters = if core.all (· ∈ alphabet) then some (among core) else none := by
    rintro core rfl
    rw [parse?, foldlM_ofLetter?]
    rfl
  rw [parseHeld?, Option.filter_eq_some_iff]
  constructor
  · rintro ⟨core, htrims, hsome, hall, rfl⟩
    rw [hparse core (Text.trims_iff.mp htrims), if_pos (List.all_iff_forall_prop.mpr hall), isEmpty_among hall]
    exact ⟨rfl, by simpa using hsome⟩
  · rintro ⟨hsome, hheld⟩
    rw [hparse _ rfl] at hsome
    split at hsome
    · next hletters =>
      cases hsome
      have hall := List.all_iff_forall_prop.mp hletters
      rw [isEmpty_among hall] at hheld
      exact ⟨_, Text.trims_trim _, by simpa using hheld, hall, rfl⟩
    · cases hsome

/-- Letters spell no permission exactly if they are not read as one. -/
theorem not_spells_iff {letters : String} : (∀ perm, ¬Spells letters perm) ↔ parseHeld? letters = none := by
  simp only [spells_iff, Option.eq_none_iff_forall_ne_some, ne_eq]

end Perm

/-! ## Entries -/

namespace Record

/-- What an entry says: a name with blanks around it, and letters behind the first comma, if there is one. -/
inductive Entry.Reads : String → Entry → Prop where
  | plain {raw name : String} (hcomma : ',' ∉ raw.toList) (hname : Text.Trims raw.toList name.toList) :
    Reads raw ⟨name, none⟩
  | suffix {front name letters : String} (hcomma : ',' ∉ front.toList)
      (hname : Text.Trims front.toList name.toList) :
    Reads (front ++ "," ++ letters) ⟨name, some letters⟩

/-- An entry reads as exactly one name, with letters or without. -/
theorem Entry.reads_iff {raw : String} {entry : Entry} : Reads raw entry ↔ ofText raw = entry := by
  constructor
  -- with a comma or without, and the first one cuts
  · rintro (⟨hcomma, hname⟩ | ⟨hcomma, hname⟩)
    · simp only [ofText, Text.splitOnce_eq_none_iff.mpr hcomma, Text.trims_iff.mp hname, String.ofList_toList]
    · next front name letters =>
      have hcut : Text.splitOnce ',' (front ++ "," ++ letters).toList = some (front.toList, letters.toList) :=
        Text.splitOnce_eq_some_iff.mpr ⟨by simp [String.toList_append], hcomma⟩
      simp only [ofText, hcut, Text.trims_iff.mp hname, String.ofList_toList]
  · rintro rfl
    rw [ofText]
    split
    · next front letters hcut =>
      obtain ⟨hraw, hcomma⟩ := Text.splitOnce_eq_some_iff.mp hcut
      have htext : raw = String.ofList front ++ "," ++ String.ofList letters := by
        rw [← String.toList_inj]
        simp [String.toList_append, hraw]
      have hname := Text.trims_trim front
      rw [htext]
      exact .suffix (by rwa [String.toList_ofList]) (by rwa [String.toList_ofList, String.toList_ofList])
    · next hcut =>
      have hname := Text.trims_trim raw.toList
      exact .plain (Text.splitOnce_eq_none_iff.mp hcut) (by rwa [String.toList_ofList])

end Record

/-! ## Names -/

theorem Group.ofTag?_eq_some_iff {tag : String} {groups : List Group} :
    ofTag? tag = some groups ↔ (tag, groups) ∈ tags := by
  constructor
  · intro h
    obtain ⟨front, back, htags, -⟩ := List.lookup_eq_some_iff.mp h
    rw [htags]
    exact List.mem_append_right front List.mem_cons_self
  · have hrows : ∀ row ∈ tags, ofTag? row.1 = some row.2 := by decide
    exact hrows (tag, groups)

namespace Catalog

variable {c : Catalog} {name bare : String}

/-- `bare` is a name without the prefix of the catalog, which is taken off at most once. -/
def IsBare (c : Catalog) (name bare : String) : Prop :=
  name = c.namePrefix ++ bare ∨ ¬c.namePrefix.toList <+: name.toList ∧ name = bare

/-- A name without the prefix, whether it was written with it or not. -/
theorem isBare_iff : c.IsBare name bare ↔ c.bare name = bare := by
  rw [IsBare, Catalog.bare, Text.dropPrefix]
  -- the prefix is there and comes off, or it is not
  cases hafter : Text.afterPrefix? c.namePrefix.toList name.toList with
  | some rest =>
    rw [Text.afterPrefix?_eq_some_iff] at hafter
    have hrest : name = c.namePrefix ++ bare ↔ String.ofList rest = bare := by
      rw [← String.toList_inj, String.toList_append, hafter, List.append_cancel_left_eq, ← String.toList_inj,
        String.toList_ofList]
    rw [Option.getD_some, hrest, hafter]
    exact or_iff_left fun h => h.1 (List.prefix_append _ rest)
  | none =>
    have hnot : ¬c.namePrefix.toList <+: name.toList := by
      rintro ⟨rest, hrest⟩
      rw [Text.afterPrefix?_eq_some_iff.mpr hrest.symm] at hafter
      cases hafter
    rw [Option.getD_none, String.ofList_toList]
    constructor
    · rintro (rfl | ⟨-, rfl⟩)
      · exact absurd (String.toList_append ▸ List.prefix_append _ _) hnot
      · rfl
    · exact fun h => .inr ⟨hnot, h⟩

theorem isTerminator_iff : c.isTerminator name = true ↔ c.IsBare name "NONE" := by
  rw [isBare_iff, isTerminator, beq_iff_eq, terminator]

/-- No two kinds have the same name. -/
theorem bareName_inj {kind other : c.Kind} (h : (row kind).bareName = (row other).bareName) : kind = other := by
  have hrow : ∀ kind : c.Kind, kind.val < (c.rows.toList.map (·.bareName)).length := by simp
  have hindex : Fin.mk kind.val (hrow kind) = Fin.mk other.val (hrow other) :=
    List.nodup_iff_injective_get.mp c.names_nodup (by simpa [row] using h)
  exact Fin.ext (Fin.mk.inj hindex)

theorem ofName?_eq_some_iff {kind : c.Kind} : c.ofName? name = some kind ↔ c.IsBare name (row kind).bareName := by
  rw [isBare_iff, ofName?]
  constructor
  · intro h
    have hkind := List.find?_some h
    exact (beq_iff_eq.mp hkind).symm
  · intro hbare
    cases hfind : c.kinds.find? fun kind => (row kind).bareName == c.bare name with
    | none =>
      have hkind := List.find?_eq_none.mp hfind kind (List.mem_finRange kind)
      exact absurd (beq_iff_eq.mpr hbare.symm) hkind
    | some other =>
      have hother := List.find?_some hfind
      exact congrArg some (bareName_inj ((beq_iff_eq.mp hother).trans hbare))

/-- The kinds that a name stands for: the one that it names, or those of the groups of a tag, in the order of the
catalog. -/
inductive Names (c : Catalog) (name : String) : List c.Kind → Prop where
  | kind {kind : c.Kind} (h : c.IsBare name (row kind).bareName) : Names c name [kind]
  | tag {tag : String} {groups : List Group} (h : c.IsBare name tag) (htag : (tag, groups) ∈ Group.tags) :
    Names c name (c.kinds.filter fun kind => group kind ∈ groups)

theorem ofTag?_eq_some_iff {kinds : List c.Kind} : c.ofTag? name = some kinds
    ↔ ∃ tag groups, c.IsBare name tag ∧ (tag, groups) ∈ Group.tags
      ∧ kinds = c.kinds.filter fun kind => group kind ∈ groups := by
  simp only [ofTag?, Option.map_eq_some_iff, Group.ofTag?_eq_some_iff, isBare_iff, List.contains_eq_mem]
  constructor
  · rintro ⟨groups, htag, rfl⟩
    exact ⟨_, groups, rfl, htag, rfl⟩
  · rintro ⟨tag, groups, rfl, htag, rfl⟩
    exact ⟨groups, htag, rfl⟩

/-- What a name stands for is what is looked up. -/
theorem names_iff {kinds : List c.Kind} : c.Names name kinds ↔ Record.kindsOf? c name = some kinds := by
  rw [Record.kindsOf?]
  constructor
  · rintro (h | ⟨h, htag⟩)
    · next kind =>
      -- the name of a kind is no tag
      have hrow : row kind ∈ c.rows.toList := Array.getElem_mem_toList kind.isLt
      have hnone : c.ofTag? name = none := by
        rw [ofTag?, isBare_iff.mp h, c.names_ne_tag _ hrow]
        rfl
      rw [hnone, ofName?_eq_some_iff.mpr h]
      rfl
    · rw [ofTag?_eq_some_iff.mpr ⟨_, _, h, htag, rfl⟩]
      rfl
  · intro hkinds
    cases htag : c.ofTag? name with
    | some named =>
      rw [htag] at hkinds
      cases hkinds
      obtain ⟨tag, groups, h, hmem, rfl⟩ := ofTag?_eq_some_iff.mp htag
      exact .tag h hmem
    | none =>
      rw [htag] at hkinds
      obtain ⟨kind, hname, rfl⟩ := Option.map_eq_some_iff.mp hkinds
      exact .kind (ofName?_eq_some_iff.mp hname)

end Catalog

end EventBus
