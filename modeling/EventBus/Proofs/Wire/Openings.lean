import EventBus.Proofs.Wire.BigEndian

/-!
# What a buffer opens with

Whoever takes a frame off bytes looks first at the length that they state, and then for a body of this length.

* `statedLength?`: the length that the first four bytes state.
* `Opening`: the four ways in which bytes can begin. `opening`: all bytes begin in one of them.
* `decode_of_short`, `decode_of_refused`, `decode_of_torn`, `decode_of_whole`: what decoding gives for each of them.
-/

namespace EventBus.Frame

variable {max : Nat} {buffer : Bytes}

/-! ## The stated length -/

/-- The length that bytes state in front, high byte first; `none` if there are fewer than four of them. -/
def statedLength? : Bytes → Option Nat
  | a :: b :: c :: d :: _ => some (((a.toNat * 256 + b.toNat) * 256 + c.toNat) * 256 + d.toNat)
  | _ => none

/-- A header states the length that was written. -/
@[simp]
theorem statedLength?_be32 (length : UInt32) (behind : Bytes) :
    statedLength? (Bytes.be32 length ++ behind) = some length.toNat := by
  rw [← Bytes.toUInt32_of_be32 length, Bytes.be32_toUInt32]
  simp only [List.cons_append, statedLength?, Bytes.toNat_toUInt32]

/-- Four bytes in front are those of a number. -/
theorem exists_be32 (h : headerLength ≤ buffer.length) : ∃ n rest, buffer = Bytes.be32 n ++ rest := by
  cases hread : takeUInt32 buffer with
  | error e => exact absurd (length_lt_of_takeUInt32 hread) (Nat.not_lt.mpr h)
  | ok parts => exact ⟨parts.1, parts.2, takeUInt32_eq_be32 hread⟩

/-- With fewer than four bytes no length is stated, and else one is. -/
theorem statedLength?_eq_none_iff : statedLength? buffer = none ↔ buffer.length < headerLength := by
  constructor
  · intro h
    refine Nat.lt_of_not_le fun hlong => ?_
    obtain ⟨n, rest, rfl⟩ := exists_be32 hlong
    cases (statedLength?_be32 n rest).symm.trans h
  · intro h
    match buffer with
    | [] | [_] | [_, _] | [_, _, _] => rfl
    | _ :: _ :: _ :: _ :: _ =>
      simp only [headerLength, List.length_cons] at h
      omega

/-! ## Lengths that are refused -/

/-- A length that no frame may have. -/
def IsRefused (max length : Nat) : Prop :=
  length = 0 ∨ max < length

instance (max length : Nat) : Decidable (IsRefused max length) :=
  inferInstanceAs (Decidable (_ ∨ _))

/-- The failure of a length that is refused. -/
def lengthRefusal (max length : Nat) : TransportError :=
  if length = 0 then .invalidFrame "empty frame" else .frameTooLarge length max

/-- The check refuses a length that is zero or beyond the maximum. -/
theorem checkLength_of_refused {length : Nat} (h : IsRefused max length) :
    checkLength max length = .error (lengthRefusal max length) := by
  rw [checkLength, lengthRefusal]
  split
  · rfl
  · next hpos => rw [if_pos (h.resolve_left hpos)]

theorem not_isRefused_iff {length : Nat} : ¬IsRefused max length ↔ 1 ≤ length ∧ length ≤ max := by
  rw [IsRefused]
  omega

theorem checkLength_of_not_refused {length : Nat} (h : ¬IsRefused max length) : checkLength max length = .ok () := by
  obtain ⟨hpos, hmax⟩ := not_isRefused_iff.mp h
  rw [checkLength, if_neg (Nat.ne_zero_of_lt hpos), if_neg (Nat.not_lt.mpr hmax)]

/-! ## Openings -/

/-- How bytes begin, for a receiver of bodies of up to `max` bytes. -/
inductive Opening (max : Nat) : Bytes → Prop where
  /-- Not even a length is there. -/
  | short {buffer : Bytes} (h : buffer.length < headerLength) : Opening max buffer
  | refused (length : UInt32) (behind : Bytes) (h : IsRefused max length.toNat) :
    Opening max (Bytes.be32 length ++ behind)
  /-- A length is stated, and not all of the body is there. -/
  | torn (length : UInt32) (behind : Bytes) (h : ¬IsRefused max length.toNat)
      (hshort : behind.length < length.toNat) :
    Opening max (Bytes.be32 length ++ behind)
  | whole (length : UInt32) (body rest : Bytes) (h : ¬IsRefused max length.toNat)
      (hlength : body.length = length.toNat) :
    Opening max (Bytes.be32 length ++ (body ++ rest))

/-- Whatever bytes there are, they begin in one of the four ways. -/
theorem opening (max : Nat) (buffer : Bytes) : Opening max buffer := by
  by_cases hshort : buffer.length < headerLength
  · exact .short hshort
  · obtain ⟨length, behind, rfl⟩ := exists_be32 (Nat.le_of_not_lt hshort)
    -- the length decides before anything behind it is looked at
    by_cases hrefused : IsRefused max length.toNat
    · exact .refused length behind hrefused
    · cases hsplit : Bytes.splitFirst? length.toNat behind with
      | none => exact .torn length behind hrefused (Bytes.splitFirst?_eq_none_iff.mp hsplit)
      | some parts =>
        obtain ⟨hbehind, hlength⟩ := Bytes.splitFirst?_eq_some_iff.mp hsplit
        rw [hbehind]
        exact .whole length parts.1 parts.2 hrefused hlength

/-! ## Decoding -/

/-- Without a whole header nothing is decoded yet. -/
theorem decode_of_short (h : buffer.length < headerLength) : decode max buffer = .incomplete := by
  cases hread : takeUInt32 buffer with
  | error e => rw [decode, hread]
  | ok parts =>
    have hlength := takeUInt32_eq_ok hread
    rw [headerLength] at h
    omega

variable {length : UInt32} {behind body rest : Bytes}

/-- A refused length is reported with nothing taken. -/
theorem decode_of_refused (h : IsRefused max length.toNat) (behind : Bytes) :
    decode max (Bytes.be32 length ++ behind)
      = .failed (lengthRefusal max length.toNat) (Bytes.be32 length ++ behind) := by
  simp only [decode, takeUInt32_be32, checkLength_of_refused h]

/-- Without a whole body nothing is decoded yet, either. -/
theorem decode_of_torn (h : ¬IsRefused max length.toNat) (hshort : behind.length < length.toNat) :
    decode max (Bytes.be32 length ++ behind) = .incomplete := by
  simp only [decode, takeUInt32_be32, checkLength_of_not_refused h, Bytes.splitFirst?_eq_none_iff.mpr hshort]

/-- A whole body is taken, whether it is a frame or not. -/
theorem decode_of_whole (h : ¬IsRefused max length.toNat) (hlength : body.length = length.toNat) (rest : Bytes) :
    decode max (Bytes.be32 length ++ (body ++ rest)) =
      match ofBody body with
      | .ok frame => .frame frame rest
      | .error e => .failed e rest := by
  have hsplit : Bytes.splitFirst? length.toNat (body ++ rest) = some (body, rest) :=
    Bytes.splitFirst?_eq_some_iff.mpr ⟨rfl, hlength⟩
  cases hbody : ofBody body <;> simp only [decode, takeUInt32_be32, checkLength_of_not_refused h, hsplit, hbody]

end EventBus.Frame
