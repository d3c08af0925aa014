import EventBus.Json.Reader
import EventBus.Proofs.Json.Tokens

/-!
# Reading the values that were written

Which tokens denote which value, and how the tokens of arrays and objects are put together.

* `Reader.Reads`: a reader takes certain tokens for a value, whatever stands behind them.
* `reads_array`: an array of values is read when each of them is.
* `ofText_eq_ok`: a text that spells out the tokens of a value is read as that value.
-/

namespace EventBus.Json

variable {α β : Type}

/-! ## Delimited tokens -/

/-- Between commas there is no number if there was none before. -/
theorem delimited_intersperse {parts : List (List Token)} (h : ∀ ts ∈ parts, ∀ t ∈ ts, t.Delimited) :
    ∀ t ∈ (parts.intersperse [.comma]).flatten, t.Delimited := by
  induction parts using List.intersperse.induct with
  | case1 => exact nofun
  | case2 ts => simpa using h
  | case3 ts parts hmore ih =>
    obtain ⟨hts, hparts⟩ := List.forall_mem_cons.mp h
    obtain ⟨next, parts, rfl⟩ := List.exists_cons_of_ne_nil hmore
    simp only [List.intersperse_cons_cons, List.flatten_cons, List.forall_mem_append]
    exact ⟨hts, by simp [Token.Delimited], ih hparts⟩

/-- An array of parts without numbers has none. -/
theorem delimited_arrayTokens {parts : List (List Token)} (h : ∀ ts ∈ parts, ∀ t ∈ ts, t.Delimited) :
    ∀ t ∈ arrayTokens parts, t.Delimited := by
  rw [arrayTokens, List.forall_mem_append, List.forall_mem_cons]
  exact ⟨⟨trivial, delimited_intersperse h⟩, by simp [Token.Delimited]⟩

theorem delimited_objectTokens {members : List (String × List Token)}
    (h : ∀ member ∈ members, ∀ t ∈ member.2, t.Delimited) : ∀ t ∈ objectTokens members, t.Delimited := by
  rw [objectTokens, List.forall_mem_append, List.forall_mem_cons]
  refine ⟨⟨trivial, delimited_intersperse (List.forall_mem_map.mpr fun member hmember => ?_)⟩,
    by simp [Token.Delimited]⟩
  simp only [List.forall_mem_cons]
  exact ⟨trivial, trivial, h member hmember⟩

/-! ## Readers -/

/-- The reader takes these tokens for the value, whatever stands behind them. -/
def Reader.Reads (reader : Reader α) (ts : List Token) (a : α) : Prop :=
  ∀ rest, reader.read (ts ++ rest) = .ok (a, rest)

variable {reader : Reader α} {ts : List Token} {a : α}

theorem reads_map (f : α → β) (h : reader.Reads ts a) : (reader.map f).Reads ts (f a) := by
  intro rest
  show (reader.read (ts ++ rest)).map _ = _
  rw [h rest]
  rfl

/-- A text is read as it was written. -/
theorem reads_text (s : String) : text.Reads [textToken s] s := by
  intro rest
  show Except.ok (String.ofList s.toList, rest) = _
  rw [String.ofList_toList]

theorem reads_bool (b : Bool) : bool.Reads [.bool b] b :=
  fun _ => rfl

theorem reads_variant {variants : List (String × α)} {name : String} (h : variants.lookup name = some a) :
    (variant variants).Reads [textToken name] a := by
  intro rest
  have hname : variantName variants name.toList = .ok a := by
    rw [variantName, String.ofList_toList, h]
  show readVariant variants (.string (some name.toList) :: rest) = _
  rw [readVariant, hname]

/-- Every value takes a token. -/
theorem ne_nil_of_reads (h : reader.Reads ts a) : ts ≠ [] := by
  rintro rfl
  exact Nat.lt_irrefl _ (reader.length_lt (h []))

theorem reads_optional (h : reader.Reads ts a) (hnull : ts.head? ≠ some .null) :
    (optional reader).Reads ts (some a) := by
  intro rest
  obtain ⟨t, ts, rfl⟩ := List.exists_cons_of_ne_nil (ne_nil_of_reads h)
  unfold optional
  dsimp only
  split
  · next heq => exact absurd (congrArg some (List.cons.inj heq).1) hnull
  · exact reads_map some h rest

/-! ## Arrays -/

/-- The last element is followed by the end of the array. -/
theorem elementsOnto_last {read : List α} {rest : List Token} (h : reader.Reads ts a) :
    elementsOnto reader read (ts ++ .closeArray :: rest) = .ok ((a :: read).reverse, rest) := by
  rw [elementsOnto]
  split
  · next herror => rw [h] at herror; cases herror
  · next hread =>
    rw [h] at hread
    cases hread
    rfl

theorem elementsOnto_next {read : List α} {next : Token} {rest : List Token} (h : reader.Reads ts a)
    (hnext : next ≠ .closeArray) :
    elementsOnto reader read (ts ++ .comma :: next :: rest) = elementsOnto reader (a :: read) (next :: rest) := by
  -- a comma before anything but the end of the array announces an element
  have hfollowing : nextElement (.comma :: next :: rest) = .ok (.element (next :: rest)) := by
    unfold nextElement
    split <;> simp_all
  rw [elementsOnto]
  split
  · next herror => rw [h] at herror; cases herror
  · next hread =>
    rw [h] at hread
    cases hread
    split
    · next herror => rw [hfollowing] at herror; cases herror
    · next hdone => rw [hfollowing] at hdone; cases hdone
    · next helement =>
      rw [hfollowing] at helement
      cases helement
      rfl

variable {written : α → List Token} {as : List α}

/-- The elements of an array behind those already read. -/
theorem elementsOnto_written (h : ∀ b ∈ a :: as, reader.Reads (written b) b ∧ (written b).head? ≠ some .closeArray)
    (read : List α) (rest : List Token) :
    elementsOnto reader read ((((a :: as).map written).intersperse [.comma]).flatten ++ .closeArray :: rest)
      = .ok (read.reverse ++ a :: as, rest) := by
  induction as generalizing a read with
  | nil =>
    have ha := (h a List.mem_cons_self).1
    have hlast : elementsOnto reader read (written a ++ .closeArray :: rest) = .ok ((a :: read).reverse, rest) :=
      elementsOnto_last ha
    simpa using hlast
  | cons b as ih =>
    obtain ⟨⟨ha, -⟩, hmore⟩ := List.forall_mem_cons.mp h
    obtain ⟨hb, hclose⟩ := hmore b List.mem_cons_self
    -- the tokens of the elements behind the first one begin with those of the second
    obtain ⟨first, ts, hfirst⟩ := List.exists_cons_of_ne_nil (ne_nil_of_reads hb)
    obtain ⟨behind, hbehind⟩ : ∃ behind, (((b :: as).map written).intersperse [.comma]).flatten ++ .closeArray :: rest
        = first :: behind := by
      rw [List.map_cons]
      cases as <;> simp [hfirst]
    have hnext : first ≠ .closeArray := fun heq => hclose (by rw [hfirst, heq]; rfl)
    have hparts : (((a :: b :: as).map written).intersperse [.comma]).flatten ++ .closeArray :: rest
        = written a ++ .comma :: first :: behind := by
      rw [← hbehind]
      simp
    rw [hparts, elementsOnto_next ha hnext, ← hbehind, ih hmore]
    simp

/-- An array is read when each of its elements is, and none of them looks like its end. -/
theorem reads_array (h : ∀ b ∈ as, reader.Reads (written b) b ∧ (written b).head? ≠ some .closeArray) :
    (array reader).Reads (arrayTokens (as.map written)) as := by
  intro rest
  have hbody : (arrayTokens (as.map written)) ++ rest
      = .openArray :: (((as.map written).intersperse [.comma]).flatten ++ .closeArray :: rest) := by
    simp [arrayTokens]
  rw [hbody]
  show elements reader _ = _
  cases as with
  | nil => rfl
  | cons a as =>
    obtain ⟨⟨ha, hclose⟩, -⟩ := List.forall_mem_cons.mp h
    obtain ⟨first, ts, hfirst⟩ := List.exists_cons_of_ne_nil (ne_nil_of_reads ha)
    -- the first element does not begin with the end of the array, so there is one
    have helement : firstElement ((((a :: as).map written).intersperse [.comma]).flatten ++ .closeArray :: rest)
        = .element ((((a :: as).map written).intersperse [.comma]).flatten ++ .closeArray :: rest) := by
      unfold firstElement
      split
      · next heq =>
        cases as <;> simp [hfirst] at heq hclose <;> exact absurd heq.1 hclose
      · rfl
    rw [elements, helement]
    exact elementsOnto_written h [] rest

/-! ## Whole texts -/

/-- A text that spells out the tokens of a value. -/
theorem ofText_eq_ok {source : String} (h : reader.Reads ts a) (hts : ∀ t ∈ ts, t.Delimited)
    (hspells : Spells ts source.toList) : ofText reader source = .ok a := by
  have hread := h []
  rw [List.append_nil] at hread
  rw [ofText, tokens_of_spells hspells hts, hread]
  rfl

end EventBus.Json
