import EventBus.Json.Writer
import Mathlib.Data.List.TakeWhile

/-!
# Reading the tokens that were written

A text that spells out tokens, with white space in front of any of them and at the end, reads as these tokens.

* `stringBody?_escaped`: the escapes of a string denote its characters, whatever they are.
* `Token.Delimited`: the tokens whose text says by itself where it ends. Numbers are not among them.
* `tokens_of_spells`: the induction along the tokens of a text.
-/

namespace EventBus.Json

/-! ## Strings -/

/-- A control is written by its code. -/
theorem hexFour?_hexChar {n : Nat} (h : n < 0x20) : hexFour? '0' '0' (hexChar (n / 16)) (hexChar (n % 16)) = some n :=
  (by decide : ∀ n < 0x20, hexFour? '0' '0' (hexChar (n / 16)) (hexChar (n % 16)) = some n) n h

/-- The escape of a control character denotes it. -/
theorem firstPart_control {c : Char} (h : c.toNat < 0x20) (rest : List Char) :
    firstPart ('\\' :: 'u' :: '0' :: '0' :: hexChar (c.toNat / 16) :: hexChar (c.toNat % 16) :: rest)
      = .char (some c) rest := by
  have hhigh : isHighSurrogate c.toNat = false := by
    rw [isHighSurrogate, Bool.and_eq_false_iff, decide_eq_false_iff_not]
    omega
  have hlow : isLowSurrogate c.toNat = false := by
    rw [isLowSurrogate, Bool.and_eq_false_iff, decide_eq_false_iff_not]
    omega
  simp only [firstPart, hexFour?_hexChar h, hhigh, hlow, Bool.false_eq_true, if_false, Char.ofNat_toNat]

/-- A character that needs no escape denotes itself. -/
theorem firstPart_plain {c : Char} (hquote : c ≠ '"') (hescape : c ≠ '\\') (hcontrol : ¬c.toNat < 0x20)
    (rest : List Char) : firstPart (c :: rest) = .char (some c) rest := by
  have hneither : ¬(c == '\\' || decide (c.toNat < 0x20)) = true := by
    simp [hescape, hcontrol]
  unfold firstPart
  split
  · next heq => exact absurd (List.cons.inj heq).1 hquote
  · next heq => exact absurd (List.cons.inj heq).1 hescape
  · next heq => exact absurd (List.cons.inj heq).1 hescape
  · next heq =>
    obtain ⟨rfl, rfl⟩ := List.cons.inj heq
    exact if_neg hneither
  · next heq => cases heq

/-- A character as it is written denotes itself. -/
theorem firstPart_escapedChar (c : Char) (rest : List Char) :
    firstPart (escapedChar c ++ rest) = .char (some c) rest := by
  unfold escapedChar
  split
  case h_8 hquote hescape _ _ _ _ _ =>
    split
    · next hcontrol => exact firstPart_control hcontrol rest
    · next hcontrol => exact firstPart_plain hquote hescape hcontrol rest
  all_goals rfl

theorem stringBody?_char {read : Option (List Char)} {cs rest : List Char} {content : Option Char}
    (h : firstPart cs = .char content rest) :
    stringBody? read cs = stringBody? (do return (← content) :: (← read)) rest := by
  rw [stringBody?]
  split <;> simp_all

theorem stringBody?_close {read : Option (List Char)} {cs rest : List Char} (h : firstPart cs = .close rest) :
    stringBody? read cs = some (read.map List.reverse, rest) := by
  rw [stringBody?]
  split <;> simp_all

/-- What is written between quotes denotes the characters that were to be written. -/
theorem stringBody?_escaped (read cs rest : List Char) :
    stringBody? (some read) (cs.flatMap escapedChar ++ '"' :: rest) = some (some (read.reverse ++ cs), rest) := by
  induction cs generalizing read with
  | nil =>
    rw [List.append_nil]
    exact stringBody?_close rfl
  | cons c cs ih =>
    rw [List.flatMap_cons, List.append_assoc, stringBody?_char (firstPart_escapedChar c _)]
    calc stringBody? (some (c :: read)) (cs.flatMap escapedChar ++ '"' :: rest)
        = some (some ((c :: read).reverse ++ cs), rest) := ih (c :: read)
      _ = some (some (read.reverse ++ c :: cs), rest) := by
        rw [List.reverse_cons, List.append_assoc, List.singleton_append]

/-! ## Tokens -/

/-- A token whose text denotes it, whatever stands behind it. A number may go on, and what is no text has none. -/
def Token.Delimited : Token → Prop
  | number _ | string none | malformed => False
  | _ => True

/-- A token that says where it ends is read off the front of whatever stands behind it. -/
theorem firstToken?_chars {t : Token} (h : t.Delimited) (rest : List Char) :
    firstToken? (t.chars ++ rest) = some (t, rest) := by
  cases t with
  | number | malformed => exact h.elim
  | bool value => cases value <;> rfl
  | string content =>
    cases content with
    | none => exact h.elim
    | some cs =>
      have hchars : (Token.string (some cs)).chars ++ rest = '"' :: (cs.flatMap escapedChar ++ '"' :: rest) :=
        List.append_assoc ('"' :: cs.flatMap escapedChar) ['"'] rest
      rw [hchars, firstToken?, stringBody?_escaped]
      rfl
  | _ => rfl

/-- No token begins with white space. -/
theorem exists_chars_eq_cons {t : Token} (h : t.Delimited) : ∃ c cs, t.chars = c :: cs ∧ isSpace c = false := by
  cases t with
  | number | malformed => exact h.elim
  | bool value => cases value <;> exact ⟨_, _, rfl, rfl⟩
  | string content =>
    cases content with
    | none => exact h.elim
    | some cs => exact ⟨_, _, rfl, rfl⟩
  | _ => exact ⟨_, _, rfl, rfl⟩

/-- A text spells out tokens: one behind the other, with white space in front of any of them and at the end. -/
inductive Spells : List Token → List Char → Prop where
  | done {blanks : List Char} (hblanks : ∀ c ∈ blanks, isSpace c) : Spells [] blanks
  | token {t : Token} {ts : List Token} {blanks cs : List Char} (hblanks : ∀ c ∈ blanks, isSpace c)
    (h : Spells ts cs) : Spells (t :: ts) (blanks ++ (t.chars ++ cs))

/-- White space at the end of a text is no token. -/
theorem tokensOnto_blank {blanks : List Char} (hblanks : ∀ c ∈ blanks, isSpace c) (read : List Token) :
    tokensOnto read blanks = read := by
  rw [tokensOnto]
  have hdrop : blanks.dropWhile isSpace = [] := List.dropWhile_eq_nil_iff.mpr hblanks
  simp only [hdrop, List.isEmpty_nil, if_true]

/-- Behind white space, a token is read, and then the others. -/
theorem tokensOnto_token {t : Token} (h : t.Delimited) {blanks : List Char} (hblanks : ∀ c ∈ blanks, isSpace c)
    (read : List Token) (rest : List Char) :
    tokensOnto read (blanks ++ (t.chars ++ rest)) = tokensOnto (t :: read) rest := by
  obtain ⟨c, cs, hchars, hc⟩ := exists_chars_eq_cons h
  have hdrop : (blanks ++ (t.chars ++ rest)).dropWhile isSpace = t.chars ++ rest := by
    rw [List.dropWhile_append_of_pos hblanks, hchars, List.cons_append, List.dropWhile_cons_of_neg (by simp [hc])]
  -- a token has at least one character, so the text is not yet at its end
  have hnonempty : (t.chars ++ rest).isEmpty = false := by
    rw [hchars]
    rfl
  rw [tokensOnto]
  simp only [hdrop, hnonempty, Bool.false_eq_true, if_false]
  split
  · next hnone =>
    rw [hdrop, firstToken?_chars h] at hnone
    cases hnone
  · next hsome =>
    rw [hdrop, firstToken?_chars h] at hsome
    cases hsome
    rfl

/-- By induction along the tokens of the text. -/
theorem tokensOnto_of_spells {ts : List Token} {cs : List Char} (h : Spells ts cs) (hts : ∀ t ∈ ts, t.Delimited)
    (read : List Token) : tokensOnto read cs = ts.reverse ++ read := by
  induction h generalizing read with
  | done hblanks => exact tokensOnto_blank hblanks read
  | token hblanks _ ih =>
    obtain ⟨ht, hts⟩ := List.forall_mem_cons.mp hts
    rw [tokensOnto_token ht hblanks, ih hts, List.reverse_cons, List.append_assoc, List.singleton_append]

/-- A text reads as the tokens that it spells out. -/
theorem tokens_of_spells {ts : List Token} {text : String} (h : Spells ts text.toList) (hts : ∀ t ∈ ts, t.Delimited) :
    tokens text = ts := by
  rw [tokens, tokensOnto_of_spells h hts, List.append_nil, List.reverse_reverse]

/-- Tokens are written without white space. -/
theorem spells_render (ts : List Token) : Spells ts (render ts).toList := by
  rw [render, String.toList_ofList]
  induction ts with
  | nil => exact .done nofun
  | cons t ts ih => exact .token (List.forall_mem_nil _) ih

/-- A control, an escape that is not needed, and a pair of surrogates. -/
example : tokens " [\t\"\\u0001\\/\\uD83D\\uDE00\"\n]"
    = [.openArray, .string (some ['\x01', '/', '😀']), .closeArray] := by
  decide +kernel

end EventBus.Json
