import EventBus.Frame.Decode

/-!
# Big-endian numbers

What the bytes of a number denote, and that reading a number gives back the one that was written.

* **Denotation**: `toNat_toUInt16` and `toNat_toUInt32` state the value of a field in base 256. They are
  proved through `Nat`, where a shift followed by a disjunction is a multiplication and an addition.
* **Reading what was written**: `takeUInt16_be16` and `takeUInt32_be32`, behind any bytes.
* **Writing what was read**: `takeUInt16_eq_be16` and `takeUInt32_eq_be32`. No other bytes denote a number.
* **Length fields**: `takeUInt32_lengthField` for a length that the field can state.
-/

namespace EventBus.Bytes

/-! ## What the bytes of a field denote -/

/-- A number shifted by a byte and that byte are disjoint, so the disjunction is a sum. -/
theorem shiftLeft_or_toNat (n : Nat) (b : UInt8) : n <<< 8 ||| b.toNat = n * 256 + b.toNat := by
  rw [← Nat.shiftLeft_add_eq_or_of_lt b.toNat_lt, Nat.shiftLeft_eq]

/-- Two bytes denote their number in base 256. -/
theorem toNat_toUInt16 (a b : UInt8) : (toUInt16 a b).toNat = a.toNat * 256 + b.toNat := by
  have ha := a.toNat_lt
  simp only [toUInt16, UInt16.toNat_or, UInt16.toNat_shiftLeft, UInt8.toNat_toUInt16]
  show a.toNat <<< 8 % UInt16.size ||| b.toNat = _
  -- the field has room for both bytes, so the shift loses nothing
  have hroom : a.toNat <<< 8 < UInt16.size := by
    show a.toNat <<< 8 < 65536
    omega
  rw [Nat.mod_eq_of_lt hroom, shiftLeft_or_toNat]

/-- Four bytes denote their number in base 256. -/
theorem toNat_toUInt32 (a b c d : UInt8) :
    (toUInt32 a b c d).toNat = ((a.toNat * 256 + b.toNat) * 256 + c.toNat) * 256 + d.toNat := by
  have ha := a.toNat_lt
  have hb := b.toNat_lt
  have hc := c.toNat_lt
  simp only [toUInt32, UInt32.toNat_or, UInt32.toNat_shiftLeft, UInt8.toNat_toUInt32]
  show a.toNat <<< 24 % UInt32.size ||| b.toNat <<< 16 % UInt32.size ||| c.toNat <<< 8 % UInt32.size ||| d.toNat = _
  have hroom : a.toNat <<< 24 < UInt32.size ∧ b.toNat <<< 16 < UInt32.size ∧ c.toNat <<< 8 < UInt32.size := by
    show a.toNat <<< 24 < 4294967296 ∧ b.toNat <<< 16 < 4294967296 ∧ c.toNat <<< 8 < 4294967296
    omega
  rw [Nat.mod_eq_of_lt hroom.1, Nat.mod_eq_of_lt hroom.2.1, Nat.mod_eq_of_lt hroom.2.2]
  -- Horner's form: each byte is put below the bytes in front of it
  calc a.toNat <<< 24 ||| b.toNat <<< 16 ||| c.toNat <<< 8 ||| d.toNat
      = ((a.toNat <<< 8 ||| b.toNat) <<< 8 ||| c.toNat) <<< 8 ||| d.toNat := by
        simp only [Nat.shiftLeft_or_distrib, ← Nat.shiftLeft_add]
    _ = _ := by rw [shiftLeft_or_toNat, shiftLeft_or_toNat, shiftLeft_or_toNat]

/-! ## Reading what was written -/

/-- The two bytes of a number denote it. -/
theorem toUInt16_of_be16 (n : UInt16) : toUInt16 (n >>> 8).toUInt8 n.toUInt8 = n := by
  apply UInt16.toNat_inj.mp
  have hn := n.toNat_lt
  rw [toNat_toUInt16, UInt16.toNat_toUInt8, UInt16.toNat_toUInt8, UInt16.toNat_shiftRight]
  show n.toNat >>> 8 % 256 * 256 + n.toNat % 256 = n.toNat
  omega

/-- The four bytes of a number denote it. -/
theorem toUInt32_of_be32 (n : UInt32) :
    toUInt32 (n >>> 24).toUInt8 (n >>> 16).toUInt8 (n >>> 8).toUInt8 n.toUInt8 = n := by
  apply UInt32.toNat_inj.mp
  have hn := n.toNat_lt
  simp only [toNat_toUInt32, UInt32.toNat_toUInt8, UInt32.toNat_shiftRight]
  show ((n.toNat >>> 24 % 256 * 256 + n.toNat >>> 16 % 256) * 256 + n.toNat >>> 8 % 256) * 256 + n.toNat % 256
    = n.toNat
  omega

/-! ## Writing what was read -/

/-- Bytes that denote the same number are the same. -/
theorem toUInt16_inj {a b a' b' : UInt8} (h : toUInt16 a b = toUInt16 a' b') : a = a' ∧ b = b' := by
  have hb := b.toNat_lt
  have hb' := b'.toNat_lt
  have hvalue := congrArg UInt16.toNat h
  rw [toNat_toUInt16, toNat_toUInt16] at hvalue
  constructor
  all_goals
    apply UInt8.toNat_inj.mp
    omega

/-- Different bytes denote different numbers. -/
theorem toUInt32_inj {a b c d a' b' c' d' : UInt8} (h : toUInt32 a b c d = toUInt32 a' b' c' d') :
    a = a' ∧ b = b' ∧ c = c' ∧ d = d' := by
  have hb := b.toNat_lt
  have hb' := b'.toNat_lt
  have hc := c.toNat_lt
  have hc' := c'.toNat_lt
  have hd := d.toNat_lt
  have hd' := d'.toNat_lt
  -- two numbers in base 256 with digits below 256
  have hvalue := congrArg UInt32.toNat h
  rw [toNat_toUInt32, toNat_toUInt32] at hvalue
  refine ⟨?_, ?_, ?_, ?_⟩
  all_goals
    apply UInt8.toNat_inj.mp
    omega

/-- A number is written with the bytes from which it was read. -/
theorem be16_toUInt16 (a b : UInt8) : be16 (toUInt16 a b) = [a, b] := by
  obtain ⟨hhigh, hlow⟩ := toUInt16_inj (toUInt16_of_be16 (toUInt16 a b))
  rw [be16, hhigh, hlow]

/-- The bytes of a number that was read are those that it was read from. -/
theorem be32_toUInt32 (a b c d : UInt8) : be32 (toUInt32 a b c d) = [a, b, c, d] := by
  obtain ⟨hfirst, hsecond, hthird, hfourth⟩ := toUInt32_inj (toUInt32_of_be32 (toUInt32 a b c d))
  rw [be32, hfirst, hsecond, hthird, hfourth]

/-! ## Lengths -/

@[simp]
theorem length_be16 (n : UInt16) : (be16 n).length = 2 := rfl

@[simp]
theorem length_be32 (n : UInt32) : (be32 n).length = 4 := rfl

@[simp]
theorem length_lengthField (n : Nat) : (lengthField n).length = 4 := rfl

/-- A length that the field can state is stated as it is. -/
theorem toNat_of_lengthField {n : Nat} (h : n ≤ maxLength) :
    (UInt32.ofNat (min n maxLength)).toNat = n := by
  have hlt : n < 4294967296 := by
    have hmax : maxLength = 4294967295 := rfl
    omega
  rw [Nat.min_eq_left h]
  exact UInt32.toNat_ofNat_of_lt' hlt

end EventBus.Bytes

namespace EventBus.Frame

/-- Reading a number of sixteen bits gives the one that was written, and what is behind it. -/
@[simp]
theorem takeUInt16_be16 (n : UInt16) (rest : Bytes) :
    takeUInt16 (Bytes.be16 n ++ rest) = .ok (n, rest) := by
  show Except.ok (Bytes.toUInt16 (n >>> 8).toUInt8 n.toUInt8, rest) = _
  rw [Bytes.toUInt16_of_be16]

/-- Reading a number of 32 bits gives the one that was written, and what is behind it. -/
@[simp]
theorem takeUInt32_be32 (n : UInt32) (rest : Bytes) :
    takeUInt32 (Bytes.be32 n ++ rest) = .ok (n, rest) := by
  show Except.ok (Bytes.toUInt32 (n >>> 24).toUInt8 (n >>> 16).toUInt8 (n >>> 8).toUInt8 n.toUInt8, rest) = _
  rw [Bytes.toUInt32_of_be32]

variable {bytes rest : Bytes}

/-- The bytes from which a number was read are those with which it is written. -/
theorem takeUInt16_eq_be16 {n : UInt16} (h : takeUInt16 bytes = .ok (n, rest)) : bytes = Bytes.be16 n ++ rest := by
  unfold takeUInt16 at h
  split at h
  · next a b behind =>
    cases h
    rw [Bytes.be16_toUInt16]
    rfl
  · cases h

theorem takeUInt32_eq_be32 {n : UInt32} (h : takeUInt32 bytes = .ok (n, rest)) : bytes = Bytes.be32 n ++ rest := by
  unfold takeUInt32 at h
  split at h
  · next a b c d behind =>
    cases h
    rw [Bytes.be32_toUInt32]
    rfl
  · cases h

/-- Reading a length field gives the length, if the field can state it. -/
theorem takeUInt32_lengthField {n : Nat} (h : n ≤ Bytes.maxLength) (rest : Bytes) :
    ∃ field : UInt32, takeUInt32 (Bytes.lengthField n ++ rest) = .ok (field, rest) ∧ field.toNat = n :=
  ⟨_, takeUInt32_be32 _ rest, Bytes.toNat_of_lengthField h⟩

/-- Taking as many bytes as a byte string has gives it, and what is behind it. -/
@[simp]
theorem takeBytes_append (bytes rest : Bytes) : takeBytes bytes.length (bytes ++ rest) = .ok (bytes, rest) := by
  have hsplit : Bytes.splitFirst? bytes.length (bytes ++ rest) = some (bytes, rest) :=
    Bytes.splitFirst?_eq_some_iff.mpr ⟨rfl, rfl⟩
  rw [takeBytes, hsplit]

end EventBus.Frame
