import EventBus.Json.Number

/-!
# JSON tokens

A JSON text as a list of tokens. A reader takes tokens from the front, so the first thing wrong with
a text is what it meets first: where the text stops being JSON, the list ends with the token
`malformed`.

* **Strings** hold the characters that they denote. A string whose escapes name half a surrogate pair
  is a token without content: skipping it is fine, reading it is not.
* **Numbers** follow the grammar of JSON: no leading zeros, at least one digit behind a point and in
  an exponent.
-/

namespace EventBus.Json

/-- A token of a JSON text. -/
inductive Token where
  | openArray
  | closeArray
  | openObject
  | closeObject
  | comma
  | colon
  | null
  | bool (value : Bool)
  | number (value : Number)
  /-- A string; `none` when its escapes denote no text. -/
  | string (content : Option (List Char))
  | malformed
  deriving DecidableEq, Repr

def isSpace (c : Char) : Bool :=
  c == ' ' || c == '\n' || c == '\t' || c == '\r'

/-! ## Strings -/

def hexDigit? (c : Char) : Option Nat :=
  if '0' ≤ c && c ≤ '9' then some (c.toNat - '0'.toNat)
  else if 'a' ≤ c && c ≤ 'f' then some (c.toNat - 'a'.toNat + 10)
  else if 'A' ≤ c && c ≤ 'F' then some (c.toNat - 'A'.toNat + 10)
  else none

def hexFour? (a b c d : Char) : Option Nat := do
  return (((← hexDigit? a) * 16 + (← hexDigit? b)) * 16 + (← hexDigit? c)) * 16 + (← hexDigit? d)

def shortEscape? : Char → Option Char
  | '"' => some '"'
  | '\\' => some '\\'
  | '/' => some '/'
  | 'b' => some '\x08'
  | 'f' => some '\x0c'
  | 'n' => some '\n'
  | 'r' => some '\r'
  | 't' => some '\t'
  | _ => none

/-- Whether a sixteen-bit unit is the first half of a surrogate pair. -/
def isHighSurrogate (n : Nat) : Bool :=
  0xD800 ≤ n && n ≤ 0xDBFF

/-- Whether a sixteen-bit unit is the second half of a surrogate pair. -/
def isLowSurrogate (n : Nat) : Bool :=
  0xDC00 ≤ n && n ≤ 0xDFFF

/-- The sixteen-bit unit of an escape at the front. -/
def lowEscape? : List Char → Option (Nat × List Char)
  | '\\' :: 'u' :: a :: b :: c :: d :: rest => do
    let n ← hexFour? a b c d
    if isLowSurrogate n then some (n, rest) else none
  | _ => none

/-- One character of a string's content: what it denotes, and the text behind it. -/
inductive StringPart where
  | close (rest : List Char)
  /-- A character, or `none` for half a surrogate pair. -/
  | char (content : Option Char) (rest : List Char)
  | broken

def firstPart : List Char → StringPart
  | '"' :: rest => .close rest
  | '\\' :: 'u' :: a :: b :: c :: d :: rest =>
    match hexFour? a b c d with
    | none => .broken
    | some n =>
      if isHighSurrogate n then
        -- a second half of another kind is left in place, to be read as an escape of its own
        match lowEscape? rest with
        | some (low, rest) =>
          .char (some (Char.ofNat (0x10000 + (n - 0xD800) * 0x400 + (low - 0xDC00)))) rest
        | none => .char none rest
      else if isLowSurrogate n then .char none rest
      else .char (some (Char.ofNat n)) rest
  | '\\' :: c :: rest =>
    match shortEscape? c with
    | some content => .char (some content) rest
    | none => .broken
  | c :: rest => if c == '\\' || c.toNat < 0x20 then .broken else .char (some c) rest
  | [] => .broken

theorem length_lt_of_lowEscape? {cs rest : List Char} {n : Nat} (h : lowEscape? cs = some (n, rest)) :
    rest.length < cs.length := by
  unfold lowEscape? at h
  split at h
  · simp only [Option.bind_eq_bind, Option.bind_eq_some_iff] at h
    obtain ⟨m, _, h⟩ := h
    split at h
    · simp only [Option.some.injEq, Prod.mk.injEq] at h
      simp only [← h.2, List.length_cons]
      omega
    · simp at h
  · simp at h

theorem length_lt_of_firstPart {cs rest : List Char} {content : Option Char}
    (h : firstPart cs = .char content rest) : rest.length < cs.length := by
  unfold firstPart at h
  split at h
  · simp at h
  · split at h
    · simp at h
    · split at h
      · split at h
        · rename_i hlow
          -- a surrogate pair: the second escape is read behind the first one
          have := length_lt_of_lowEscape? hlow
          simp only [StringPart.char.injEq] at h
          simp only [← h.2, List.length_cons]
          omega
        · simp only [StringPart.char.injEq] at h
          simp only [← h.2, List.length_cons]
          omega
      · split at h <;> simp only [StringPart.char.injEq] at h <;> simp only [← h.2, List.length_cons] <;> omega
  · split at h
    · simp only [StringPart.char.injEq] at h
      simp only [← h.2, List.length_cons]
      omega
    · simp at h
  · split at h
    · simp at h
    · simp only [StringPart.char.injEq] at h
      simp [← h.2]
  · simp at h

/-- The content of a string behind its opening quote, put behind what was read before (newest first),
and the text behind the closing quote. -/
def stringBody? (read : Option (List Char)) (cs : List Char) : Option (Option (List Char) × List Char) :=
  match _h : firstPart cs with
  | .close rest => some (read.map List.reverse, rest)
  | .char content rest => stringBody? (do return (← content) :: (← read)) rest
  | .broken => none
  termination_by cs.length
  decreasing_by exact length_lt_of_firstPart _h

theorem length_lt_of_stringBody? {read content : Option (List Char)} {cs rest : List Char}
    (h : stringBody? read cs = some (content, rest)) : rest.length < cs.length := by
  fun_induction stringBody? read cs with
  | case1 read cs rest' hpart =>
    simp only [Option.some.injEq, Prod.mk.injEq] at h
    unfold firstPart at hpart
    split at hpart
    · simp_all
    · repeat' (split at hpart)
      all_goals simp at hpart
    · split at hpart <;> simp at hpart
    · split at hpart <;> simp at hpart
    · simp at hpart
  | case2 read cs part rest' hpart ih => exact Nat.lt_trans (ih h) (length_lt_of_firstPart hpart)
  | case3 => simp at h

/-! ## Numbers -/

def isDigit (c : Char) : Bool :=
  '0' ≤ c && c ≤ '9'

/-- The digits at the front, and the text behind them. -/
def spanDigits (cs : List Char) : List Char × List Char :=
  (cs.takeWhile isDigit, cs.dropWhile isDigit)

def appendDigit (n : Nat) (c : Char) : Nat :=
  n * 10 + (c.toNat - '0'.toNat)

def digitsValue (ds : List Char) : Nat :=
  ds.foldl appendDigit 0

/-- The digits of a literal as far as they fit 64 bits: the first digit that does not fit ends them,
and the flag says that it did. Also how many digits were left out. -/
def fitDigits (start : Nat) : List Char → Nat × Nat
  | [] => (start, 0)
  | d :: ds =>
    -- one digit that does not fit drops all behind it, even those that would fit again
    if appendDigit start d < UInt64.size then fitDigits (appendDigit start d) ds else (start, ds.length + 1)

/-- Whether a minus stands at the front, and the text behind the sign. -/
def sign : List Char → Bool × List Char
  | '+' :: rest => (false, rest)
  | '-' :: rest => (true, rest)
  | rest => (false, rest)

/-- The exponent at the front, if there is one, and the text behind it; `none` for an exponent
without digits. -/
def exponentPart? : List Char → Option (Option Int × List Char)
  | [] => some (none, [])
  | c :: rest =>
    if c == 'e' || c == 'E' then
      let (negative, rest) := sign rest
      let (ds, rest) := spanDigits rest
      if ds.isEmpty then none
      else some (some (if negative then -(digitsValue ds : Int) else digitsValue ds), rest)
    else some (none, c :: rest)

/-- The fraction digits at the front, if there is a point, and the text behind them; `none` for a
point without digits. -/
def fractionPart? : List Char → Option (Option (List Char) × List Char)
  | [] => some (none, [])
  | c :: rest =>
    if c == '.' then
      let (ds, rest) := spanDigits rest
      if ds.isEmpty then none else some (some ds, rest)
    else some (none, c :: rest)

/-- The digits of the whole part at the front, and the text behind them; a zero stands alone. -/
def wholePart? (cs : List Char) : Option (List Char × List Char) :=
  let (ds, rest) := spanDigits cs
  if ds.isEmpty || (ds.head? == some '0' && 1 < ds.length) then none else some (ds, rest)

/-- Whether a minus stands at the front, and the text behind it. -/
def minus : List Char → Bool × List Char
  | '-' :: rest => (true, rest)
  | rest => (false, rest)

/-- The value of a literal from its parts. Digits beyond 64 bits only shift the value: those of the
whole part raise the exponent, those of the fraction are dropped. -/
def Number.ofParts (negative : Bool) (whole : List Char) (fraction : Option (List Char)) (exponent : Option Int) :
    Number :=
  let (digits, dropped) := fitDigits 0 whole
  match fraction, exponent with
  | none, none =>
    if dropped = 0 then
      if !negative then .integer digits
      -- minus zero keeps its sign only as a floating-point number
      else if 0 < digits && digits ≤ 1 <<< 63 then .integer (-digits)
      else .floating true digits 0
    else .floating negative digits dropped
  | _, _ =>
    let fractionDigits := fraction.getD []
    let (digits, droppedFraction) := fitDigits digits fractionDigits
    let shift : Int := dropped - (fractionDigits.length - droppedFraction : Nat)
    .floating negative digits (shift + exponent.getD 0)

/-- The number at the front, and the text behind it. -/
def number? (cs : List Char) : Option (Number × List Char) := do
  let (whole, rest) ← wholePart? (minus cs).2
  let (fraction, rest) ← fractionPart? rest
  let (exponent, rest) ← exponentPart? rest
  return (.ofParts (minus cs).1 whole fraction exponent, rest)

theorem length_spanDigits (cs : List Char) :
    (spanDigits cs).1.length + (spanDigits cs).2.length = cs.length := by
  rw [← List.length_append]
  simp [spanDigits]

theorem length_sign_le (cs : List Char) : (sign cs).2.length ≤ cs.length := by
  unfold sign
  split <;> simp

theorem length_minus_le (cs : List Char) : (minus cs).2.length ≤ cs.length := by
  unfold minus
  split <;> simp

theorem length_le_of_exponentPart? {cs rest : List Char} {exponent : Option Int}
    (h : exponentPart? cs = some (exponent, rest)) : rest.length ≤ cs.length := by
  cases cs with
  | nil => simp_all [exponentPart?]
  | cons c cs =>
    have hsign := length_sign_le cs
    have hspan := length_spanDigits (sign cs).2
    simp only [exponentPart?] at h
    split at h
    · split at h
      · simp at h
      · simp only [Option.some.injEq, Prod.mk.injEq] at h
        rw [← h.2, List.length_cons]
        omega
    · simp only [Option.some.injEq, Prod.mk.injEq] at h
      simp [← h.2]

theorem length_le_of_fractionPart? {cs rest : List Char} {fraction : Option (List Char)}
    (h : fractionPart? cs = some (fraction, rest)) : rest.length ≤ cs.length := by
  cases cs with
  | nil => simp_all [fractionPart?]
  | cons c cs =>
    have hspan := length_spanDigits cs
    simp only [fractionPart?] at h
    split at h
    · split at h
      · simp at h
      · simp only [Option.some.injEq, Prod.mk.injEq] at h
        rw [← h.2, List.length_cons]
        omega
    · simp only [Option.some.injEq, Prod.mk.injEq] at h
      simp [← h.2]

theorem length_lt_of_wholePart? {cs ds rest : List Char} (h : wholePart? cs = some (ds, rest)) :
    rest.length < cs.length := by
  have hspan := length_spanDigits cs
  simp only [wholePart?] at h
  split at h
  · simp at h
  · rename_i hne
    simp only [Option.some.injEq, Prod.mk.injEq] at h
    simp only [Bool.or_eq_true, List.isEmpty_iff, not_or] at hne
    have := List.length_pos_iff.mpr hne.1
    rw [← h.2]
    omega

theorem length_lt_of_number? {cs rest : List Char} {n : Number} (h : number? cs = some (n, rest)) :
    rest.length < cs.length := by
  simp only [number?, Option.bind_eq_bind, Option.bind_eq_some_iff, Prod.exists, Option.pure_def,
    Option.some.injEq, Prod.mk.injEq] at h
  obtain ⟨ds, rest₁, hwhole, fraction, rest₂, hfraction, exponent, rest₃, hexponent, _, rfl⟩ := h
  have := length_minus_le cs
  have := length_lt_of_wholePart? hwhole
  have := length_le_of_fractionPart? hfraction
  have := length_le_of_exponentPart? hexponent
  omega

/-! ## Texts -/

/-- The first token of a text without leading white space, and the text behind it. -/
def firstToken? : List Char → Option (Token × List Char)
  | '[' :: rest => some (.openArray, rest)
  | ']' :: rest => some (.closeArray, rest)
  | '\x7b' :: rest => some (.openObject, rest)
  | '\x7d' :: rest => some (.closeObject, rest)
  | ',' :: rest => some (.comma, rest)
  | ':' :: rest => some (.colon, rest)
  | 'n' :: 'u' :: 'l' :: 'l' :: rest => some (.null, rest)
  | 't' :: 'r' :: 'u' :: 'e' :: rest => some (.bool true, rest)
  | 'f' :: 'a' :: 'l' :: 's' :: 'e' :: rest => some (.bool false, rest)
  | '"' :: rest => (stringBody? (some []) rest).map fun (content, rest) => (.string content, rest)
  | cs => (number? cs).map fun (n, rest) => (.number n, rest)

theorem length_lt_of_firstToken? {cs rest : List Char} {token : Token}
    (h : firstToken? cs = some (token, rest)) : rest.length < cs.length := by
  unfold firstToken? at h
  split at h
  -- strings and numbers have readers of their own, every other token is a fixed number of characters
  case h_10 =>
    simp only [Option.map_eq_some_iff, Prod.exists, Prod.mk.injEq] at h
    obtain ⟨content, rest', hbody, _, rfl⟩ := h
    have := length_lt_of_stringBody? hbody
    simp only [List.length_cons]
    omega
  case h_11 =>
    simp only [Option.map_eq_some_iff, Prod.exists, Prod.mk.injEq] at h
    obtain ⟨n, rest', hnumber, _, rfl⟩ := h
    exact length_lt_of_number? hnumber
  all_goals
    simp only [Option.some.injEq, Prod.mk.injEq] at h
    simp only [← h.2, List.length_cons]
    omega

/-- The tokens of a text behind those already read, newest first. -/
def tokensOnto (read : List Token) (cs : List Char) : List Token :=
  let text := cs.dropWhile isSpace
  if text.isEmpty then read
  else
    match _h : firstToken? text with
    | none => .malformed :: read
    | some (token, rest) => tokensOnto (token :: read) rest
  termination_by cs.length
  decreasing_by
    have hrest := length_lt_of_firstToken? _h
    have htext : text.length ≤ cs.length := (List.dropWhile_sublist _).length_le
    omega

def tokens (text : String) : List Token :=
  (tokensOnto [] text.toList).reverse

end EventBus.Json
