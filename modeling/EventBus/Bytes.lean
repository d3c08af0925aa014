/-!
# Byte strings

Payloads, frames and everything on the wire are lists of bytes. Numbers travel big-endian; a length
that does not fit its field is written as the largest value of the field.
-/

namespace EventBus

abbrev Bytes := List UInt8

namespace Bytes

/-- Two bytes, high byte first. -/
def be16 (n : UInt16) : Bytes :=
  [(n >>> 8).toUInt8, n.toUInt8]

/-- Four bytes, high byte first. -/
def be32 (n : UInt32) : Bytes :=
  [(n >>> 24).toUInt8, (n >>> 16).toUInt8, (n >>> 8).toUInt8, n.toUInt8]

/-- The number that two bytes denote, high byte first. -/
def toUInt16 (a b : UInt8) : UInt16 :=
  (a.toUInt16 <<< 8) ||| b.toUInt16

/-- The number that four bytes denote, high byte first. -/
def toUInt32 (a b c d : UInt8) : UInt32 :=
  (a.toUInt32 <<< 24) ||| (b.toUInt32 <<< 16) ||| (c.toUInt32 <<< 8) ||| d.toUInt32

/-- The largest length that a four-byte field can state. -/
def maxLength : Nat := UInt32.size - 1

/-- A length as a four-byte field; lengths beyond the field are written as `maxLength`. -/
def lengthField (n : Nat) : Bytes :=
  be32 (UInt32.ofNat (min n maxLength))

/-- Whether `n` elements are there; looks at no more than `n` of them. -/
def hasAtLeast : Nat → Bytes → Bool
  | 0, _ => true
  | _ + 1, [] => false
  | n + 1, _ :: rest => hasAtLeast n rest

/-- Cuts `n` bytes off the front; `none` when fewer are there. -/
def splitFirst? (n : Nat) (bytes : Bytes) : Option (Bytes × Bytes) :=
  if hasAtLeast n bytes then some (bytes.take n, bytes.drop n) else none

@[simp]
theorem hasAtLeast_iff {n : Nat} {bytes : Bytes} : hasAtLeast n bytes = true ↔ n ≤ bytes.length := by
  induction n generalizing bytes with
  | zero => simp [hasAtLeast]
  | succ n ih => cases bytes <;> simp [hasAtLeast, ih]

theorem splitFirst?_eq_some_iff {n : Nat} {bytes front back : Bytes} :
    splitFirst? n bytes = some (front, back) ↔ bytes = front ++ back ∧ front.length = n := by
  simp only [splitFirst?, hasAtLeast_iff]
  constructor
  · intro h
    split at h
    · simp only [Option.some.injEq, Prod.mk.injEq] at h
      obtain ⟨rfl, rfl⟩ := h
      simp only [List.take_append_drop, List.length_take, true_and]
      omega
    · simp at h
  · rintro ⟨rfl, rfl⟩
    simp

theorem splitFirst?_eq_none_iff {n : Nat} {bytes : Bytes} :
    splitFirst? n bytes = none ↔ bytes.length < n := by
  simp [splitFirst?]

end Bytes

end EventBus
