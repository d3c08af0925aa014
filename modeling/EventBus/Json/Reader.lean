import EventBus.Json.Token
import EventBus.Text.Quoted

/-!
# Reading values from JSON tokens

A `Reader` takes a value off the front of a token list and gives the tokens behind it, which are fewer. It
stops at the first thing that is wrong: `malformed` where the text is no JSON, `mismatch` where a
well-formed value has the wrong shape. A mismatch is worded as "found, expected wanted".
-/

namespace EventBus.Json

/-- Why a text could not be read. -/
inductive Fault where
  /-- The text is no JSON, or ends too early. -/
  | malformed
  | mismatch (message : String)
  deriving DecidableEq, Repr

/-- The outcome of a reader: the value and the tokens behind it. -/
abbrev Reading (α : Type) := Except Fault (α × List Token)

/-- Takes a value off the front of a token list. -/
structure Reader (α : Type) where
  read : List Token → Reading α
  /-- Every value takes at least one token. -/
  length_lt : ∀ {ts rest : List Token} {a : α}, read ts = .ok (a, rest) → rest.length < ts.length

/-- Does something to the value that a reader gives. -/
def Reader.map {α β : Type} (f : α → β) (reader : Reader α) : Reader β where
  read ts := (reader.read ts).map fun (a, rest) => (f a, rest)
  length_lt {ts rest _} h := by
    cases hread : reader.read ts with
    | error e => simp [hread, Except.map] at h
    | ok found =>
      simp only [hread, Except.map, Except.ok.injEq, Prod.mk.injEq] at h
      exact h.2 ▸ reader.length_lt hread

/-! ## What was found -/

/-- How a number is named as something found; `none` for a literal beyond the largest number. -/
def Number.found? : Number → Option String
  | .integer n => some s!"integer `{n}`"
  | .floating negative digits exponent =>
    (magnitude? digits exponent).map fun value =>
      "floating point `" ++ (if negative then "-" else "") ++ floatText value ++ "`"

/-- How the value at the front is named as something found; `none` where no value begins. -/
def found? : List Token → Option String
  | .null :: _ => some "null"
  | .bool true :: _ => some "boolean `true`"
  | .bool false :: _ => some "boolean `false`"
  | .number n :: _ => n.found?
  | .string (some cs) :: _ => some ("string " ++ String.ofList (Text.quoted cs))
  | .openArray :: _ => some "sequence"
  | .openObject :: _ => some "map"
  | _ => none

/-- The fault of a value that is not what was expected. -/
def unexpected (expected : String) (ts : List Token) : Fault :=
  match found? ts with
  | some found => .mismatch s!"invalid type: {found}, expected {expected}"
  | none => .malformed

/-! ## Values -/

def text : Reader String where
  read
    | .string (some cs) :: rest => .ok (String.ofList cs, rest)
    | ts => .error (unexpected "a string" ts)
  length_lt h := by
    split at h
    · simp only [Except.ok.injEq, Prod.mk.injEq] at h
      simp [h.2]
    · simp at h

def bool : Reader Bool where
  read
    | .bool b :: rest => .ok (b, rest)
    | ts => .error (unexpected "a boolean" ts)
  length_lt h := by
    split at h
    · simp only [Except.ok.injEq, Prod.mk.injEq] at h
      simp [h.2]
    · simp at h

/-- Null, or a value. -/
def optional {α : Type} (value : Reader α) : Reader (Option α) where
  read
    | .null :: rest => .ok (none, rest)
    | ts => (value.map some).read ts
  length_lt h := by
    split at h
    · simp only [Except.ok.injEq, Prod.mk.injEq] at h
      simp [h.2]
    · exact (value.map some).length_lt h

/-- The wording for a name that is none of the variants. -/
def unknownVariant (name : List Char) (variants : List String) : String :=
  s!"unknown variant `{String.ofList name}`, expected "
    ++ " or ".intercalate (variants.map fun v => s!"`{v}`")

def variantName {α : Type} (variants : List (String × α)) (name : List Char) : Except Fault α :=
  match variants.lookup (String.ofList name) with
  | some a => .ok a
  | none => .error (.mismatch (unknownVariant name (variants.map (·.1))))

/-- One of several named variants: its name, or an object with its name as the only key and null as
the value. -/
def readVariant {α : Type} (variants : List (String × α)) (ts : List Token) : Reading α :=
  match ts with
  | .string (some name) :: rest =>
    match variantName variants name with
    | .ok a => .ok (a, rest)
    | .error e => .error e
  | .openObject :: .string (some name) :: rest =>
    -- the name is judged before what stands behind it
    match variantName variants name, rest with
    | .error e, _ => .error e
    | .ok a, .colon :: .null :: .closeObject :: rest => .ok (a, rest)
    | .ok _, .colon :: .null :: _ => .error .malformed
    | .ok _, .colon :: rest => .error (unexpected "unit" rest)
    | .ok _, _ => .error .malformed
  | _ => .error .malformed

def variant {α : Type} (variants : List (String × α)) : Reader α where
  read := readVariant variants
  length_lt h := by
    unfold readVariant at h
    split at h
    · split at h
      · simp only [Except.ok.injEq, Prod.mk.injEq] at h
        simp [h.2]
      · simp at h
    · split at h
      case h_2 =>
        simp only [Except.ok.injEq, Prod.mk.injEq] at h
        simp only [h.2, List.length_cons]
        omega
      all_goals simp at h
    · simp at h

/-! ## Arrays -/

/-- What follows an element of an array: another element, or the end. -/
inductive Following where
  | element (ts : List Token)
  | done (rest : List Token)

def Following.tokens : Following → List Token
  | element ts => ts
  | done rest => rest

/-- The first element of an array, behind its opening bracket. -/
def firstElement (ts : List Token) : Following :=
  match ts with
  | .closeArray :: rest => .done rest
  | ts => .element ts

/-- The next element of an array, behind another element. -/
def nextElement (ts : List Token) : Except Fault Following :=
  match ts with
  | .closeArray :: rest => .ok (.done rest)
  | .comma :: .closeArray :: _ => .error .malformed
  | .comma :: rest => .ok (.element rest)
  | _ => .error .malformed

theorem length_firstElement_le (ts : List Token) : (firstElement ts).tokens.length ≤ ts.length := by
  unfold firstElement
  split <;> simp [Following.tokens]

theorem length_lt_of_nextElement {ts : List Token} {next : Following} (h : nextElement ts = .ok next) :
    next.tokens.length < ts.length := by
  unfold nextElement at h
  split at h
  all_goals simp only [Except.ok.injEq, reduceCtorEq] at h
  all_goals simp [← h, Following.tokens]

/-- The elements of an array behind those already read, newest first. -/
def elementsOnto {α : Type} (value : Reader α) (read : List α) (ts : List Token) : Reading (List α) :=
  match _h : value.read ts with
  | .error e => .error e
  | .ok (a, behind) =>
    match _hnext : nextElement behind with
    | .error e => .error e
    | .ok (.done rest) => .ok ((a :: read).reverse, rest)
    | .ok (.element next) => elementsOnto value (a :: read) next
  termination_by ts.length
  decreasing_by
    have := value.length_lt _h
    have := length_lt_of_nextElement _hnext
    simp only [Following.tokens] at this
    omega

theorem length_lt_of_elementsOnto {α : Type} {value : Reader α} {read as : List α} {ts rest : List Token}
    (h : elementsOnto value read ts = .ok (as, rest)) : rest.length < ts.length := by
  fun_induction elementsOnto value read ts with
  | case1 | case2 => simp at h
  | case3 read ts a behind hvalue rest' hnext =>
    simp only [Except.ok.injEq, Prod.mk.injEq] at h
    have := value.length_lt hvalue
    have := length_lt_of_nextElement hnext
    simp only [Following.tokens, h.2] at this
    omega
  | case4 read ts a behind hvalue next hnext ih =>
    have := value.length_lt hvalue
    have hbehind := length_lt_of_nextElement hnext
    have := ih h
    simp only [Following.tokens] at hbehind
    omega

/-- An array of values, behind its opening bracket. -/
def elements {α : Type} (value : Reader α) (ts : List Token) : Reading (List α) :=
  match firstElement ts with
  | .done rest => .ok ([], rest)
  | .element ts => elementsOnto value [] ts

def array {α : Type} (value : Reader α) : Reader (List α) where
  read
    | .openArray :: rest => elements value rest
    | ts => .error (unexpected "a sequence" ts)
  length_lt h := by
    split at h
    · next ts =>
      have hfirst := length_firstElement_le ts
      unfold elements at h
      split at h
      · next hts =>
        simp only [hts, Following.tokens] at hfirst
        simp only [Except.ok.injEq, Prod.mk.injEq] at h
        rw [← h.2, List.length_cons]
        omega
      · next hts =>
        simp only [hts, Following.tokens] at hfirst
        have := length_lt_of_elementsOnto h
        rw [List.length_cons]
        omega
    · simp at h

/-! ## Skipping -/

/-- What may come next while a value is skipped. -/
inductive Skipping where
  | value
  /-- The end of an array, or its first element. -/
  | arrayStart
  /-- The end of an object, or its first key. -/
  | objectStart
  | key
  | colon
  | following
  deriving DecidableEq, Repr

/-- Skips one value of any shape. The stack holds the containers that are open, innermost first: true
for an object. Escapes and numbers only have to be well-formed. -/
def skip (stack : List Bool) (mode : Skipping) : List Token → Except Fault (List Token)
  | [] =>
    match mode, stack with
    | .following, [] => .ok []
    | _, _ => .error .malformed
  | t :: rest =>
    match mode, t, stack with
    | .following, _, [] => .ok (t :: rest)
    | .following, .comma, false :: _ => skip stack .value rest
    | .following, .comma, true :: _ => skip stack .key rest
    | .following, .closeArray, false :: outer => skip outer .following rest
    | .following, .closeObject, true :: outer => skip outer .following rest
    | .arrayStart, .closeArray, _ :: outer => skip outer .following rest
    | .objectStart, .closeObject, _ :: outer => skip outer .following rest
    | .objectStart, .string _, _ | .key, .string _, _ => skip stack .colon rest
    | .colon, .colon, _ => skip stack .value rest
    | .value, .openArray, _ | .arrayStart, .openArray, _ => skip (false :: stack) .arrayStart rest
    | .value, .openObject, _ | .arrayStart, .openObject, _ => skip (true :: stack) .objectStart rest
    | .value, .null, _ | .arrayStart, .null, _ => skip stack .following rest
    | .value, .bool _, _ | .arrayStart, .bool _, _ => skip stack .following rest
    | .value, .number _, _ | .arrayStart, .number _, _ => skip stack .following rest
    | .value, .string _, _ | .arrayStart, .string _, _ => skip stack .following rest
    | _, _, _ => .error .malformed

theorem length_le_of_skip {stack : List Bool} {mode : Skipping} {ts rest : List Token}
    (h : skip stack mode ts = .ok rest) : rest.length ≤ ts.length := by
  fun_induction skip stack mode ts
  all_goals simp_all only [Except.ok.injEq, reduceCtorEq, List.length_cons, forall_const]
  all_goals omega

def skipValue (ts : List Token) : Except Fault (List Token) :=
  skip [] .value ts

/-! ## Whole texts -/

def ofText {α : Type} (value : Reader α) (source : String) : Except Fault α := do
  let (a, rest) ← value.read (tokens source)
  if rest.isEmpty then .ok a else .error .malformed

/-- A whole number that fits 32 signed bits; no other value is looked at closely. -/
def int32 : Reader Int32 where
  read
    | .number (.integer n) :: rest =>
      if Int32.minValue.toInt ≤ n && n ≤ Int32.maxValue.toInt then .ok (Int32.ofInt n, rest)
      else .error (.mismatch s!"invalid value: integer `{n}`, expected i32")
    | ts => .error (unexpected "i32" ts)
  length_lt h := by
    split at h
    · split at h
      · simp only [Except.ok.injEq, Prod.mk.injEq] at h
        simp [h.2]
      · simp at h
    · simp at h

end EventBus.Json
