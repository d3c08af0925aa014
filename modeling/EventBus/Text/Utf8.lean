import EventBus.Bytes

/-!
# UTF-8

Texts as bytes and back. `ofUtf8?` accepts exactly what `utf8` produces; `lossy` reads any bytes and
puts U+FFFD in the place of each ill-formed piece.

An ill-formed piece is as long as it agrees with the beginning of some well-formed character, and at
least one byte: that is the practice that the Unicode standard recommends.
-/

namespace EventBus.Text

def utf8 (s : String) : Bytes :=
  s.toByteArray.data.toList

def ofUtf8? (bytes : Bytes) : Option String :=
  String.fromUTF8? ⟨bytes.toArray⟩

theorem ofUtf8?_eq_some_iff {bytes : Bytes} {s : String} : ofUtf8? bytes = some s ↔ bytes = utf8 s := by
  unfold ofUtf8? utf8 String.fromUTF8?
  constructor
  · intro h
    split at h
    · simp only [Option.some.injEq] at h
      subst h
      rfl
    · simp at h
  · rintro rfl
    have hvalid : ByteArray.IsValidUTF8 ⟨s.toByteArray.data.toList.toArray⟩ := by
      simpa using s.isValidUTF8
    rw [dif_pos hvalid]
    rfl

def replacement : Char := '\ufffd'

def isContinuation (b : UInt8) : Bool :=
  0x80 ≤ b && b ≤ 0xBF

/-- The bytes that may stand second behind a lead byte of a three-byte or four-byte character. -/
def secondRange (lead : UInt8) : UInt8 × UInt8 :=
  if lead = 0xE0 then (0xA0, 0xBF)
  else if lead = 0xED then (0x80, 0x9F)
  else if lead = 0xF0 then (0x90, 0xBF)
  else if lead = 0xF4 then (0x80, 0x8F)
  else (0x80, 0xBF)

/-- How many bytes a character with this lead byte takes; zero for a byte that leads none. -/
def leadWidth (lead : UInt8) : Nat :=
  if lead < 0x80 then 1
  else if 0xC2 ≤ lead && lead ≤ 0xDF then 2
  else if 0xE0 ≤ lead && lead ≤ 0xEF then 3
  else if 0xF0 ≤ lead && lead ≤ 0xF4 then 4
  else 0

/-- Whether a byte may stand second behind a lead byte. -/
def mayFollow (lead second : UInt8) : Bool :=
  let (low, high) := secondRange lead
  low ≤ second && second ≤ high

/-- The bits that a byte contributes, behind those that come before it. -/
def extend (bits : Nat) (b : UInt8) : Nat :=
  bits * 64 + b.toNat % 64

/-- The first character of a byte string, given its first byte apart: the character, or `replacement`,
and how many of the bytes behind the first it takes. -/
def firstChar (lead : UInt8) (rest : Bytes) : Char × Nat :=
  match leadWidth lead with
  | 1 => (Char.ofNat lead.toNat, 0)
  | 2 =>
    match rest with
    | b :: _ => if isContinuation b then (Char.ofNat (extend (lead.toNat % 32) b), 1) else (replacement, 0)
    | [] => (replacement, 0)
  | 3 =>
    match rest with
    | b :: rest =>
      if mayFollow lead b then
        match rest with
        | c :: _ =>
          if isContinuation c then (Char.ofNat (extend (extend (lead.toNat % 16) b) c), 2)
          else (replacement, 1)
        | [] => (replacement, 1)
      else (replacement, 0)
    | [] => (replacement, 0)
  | 4 =>
    match rest with
    | b :: rest =>
      if mayFollow lead b then
        match rest with
        | c :: rest =>
          if isContinuation c then
            match rest with
            | d :: _ =>
              if isContinuation d then
                (Char.ofNat (extend (extend (extend (lead.toNat % 8) b) c) d), 3)
              else (replacement, 2)
            | [] => (replacement, 2)
          else (replacement, 1)
        | [] => (replacement, 1)
      else (replacement, 0)
    | [] => (replacement, 0)
  | _ => (replacement, 0)

/-- The characters of a byte string in front of those already read, newest first. -/
def lossyOnto (read : List Char) : Bytes → List Char
  | [] => read
  | lead :: rest =>
    let (c, taken) := firstChar lead rest
    lossyOnto (c :: read) (rest.drop taken)
  termination_by bytes => bytes.length
  decreasing_by simp only [List.length_drop, List.length_cons]; omega

/-- The characters of a byte string, with `replacement` for each ill-formed piece. -/
def lossy (bytes : Bytes) : List Char :=
  (lossyOnto [] bytes).reverse

example : lossy [0x61, 0xC3, 0xA9, 0xFF, 0xE6, 0xBC, 0x62] = "aé\ufffd\ufffdb".toList := by cbv

end EventBus.Text
