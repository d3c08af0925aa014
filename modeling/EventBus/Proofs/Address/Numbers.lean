import EventBus.Address.Ipv4
import Mathlib.Algebra.Group.Nat.Defs
import Mathlib.Data.List.TakeWhile

/-!
# Numbers in addresses, written and read

The digits that a number is written with read back as the number, whatever stands behind them but another digit.

* `number?_toDigits`: that, for every base up to sixteen. The digits have no leading zero, so that it makes no
  difference whether one may be there.
* `Ipv4.read?_chars`: an IPv4 address reads back from its text.
-/

namespace EventBus.Address

variable {base n : Nat} {cs rest : List Char}

/-! ## Digits -/

/-- No digit of a base stands at the front of a text. -/
def Stops (base : Nat) (rest : List Char) : Prop :=
  ∀ ch ∈ rest.head?, isDigit base ch = false

theorem stops_nil (base : Nat) : Stops base [] := by
  intro ch hch
  cases hch

theorem stops_cons {ch : Char} (h : isDigit base ch = false) (rest : List Char) : Stops base (ch :: rest) := by
  rintro _ ⟨⟩
  exact h

theorem takeWhile_of_stops (h : Stops base rest) : rest.takeWhile (isDigit base) = [] := by
  cases rest with
  | nil => rfl
  | cons ch rest => exact List.takeWhile_cons_of_neg (by rw [h ch rfl]; exact Bool.false_ne_true)

theorem dropWhile_of_stops (h : Stops base rest) : rest.dropWhile (isDigit base) = rest := by
  cases rest with
  | nil => rfl
  | cons ch rest => exact List.dropWhile_cons_of_neg (by rw [h ch rfl]; exact Bool.false_ne_true)

/-- Where no digit stands no number is read. -/
theorem number?_of_stops {width : Option Nat} {padded : Bool} {bound : Nat} (h : Stops base rest) :
    number? base width padded bound rest = none := by
  unfold number?
  rw [takeWhile_of_stops h]
  rfl

/-- The character of a digit is read as that digit. -/
theorem digit?_digitChar {d : Nat} (hbase : base ≤ 16) (hd : d < base) : digit? base (Nat.digitChar d) = some d := by
  have hsixteen : ∀ d < 16, digit? 16 (Nat.digitChar d) = some d := by decide
  have hvalue := hsixteen d (Nat.lt_of_lt_of_le hd hbase)
  -- the bases differ in the values that they let through only
  rw [digit?, Option.filter_eq_some_iff] at hvalue ⊢
  exact ⟨hvalue.1, decide_eq_true hd⟩

theorem isDigit_digitChar {d : Nat} (hbase : base ≤ 16) (hd : d < base) : isDigit base (Nat.digitChar d) = true := by
  rw [isDigit, digit?_digitChar hbase hd]
  rfl

/-- A digit at the end counts once, and the others once more the base. -/
theorem value_append_singleton (base : Nat) (ds : List Char) (ch : Char) :
    value base (ds ++ [ch]) = value base ds * base + (digit? base ch).getD 0 := by
  unfold value
  rw [List.foldl_append]
  rfl

/-- What a number is written with: its last digit, and what is in front of it. -/
theorem toDigits_cases (hbase : 1 < base) (n : Nat) :
    Nat.toDigits base n = (if n < base then [] else Nat.toDigits base (n / base)) ++ [Nat.digitChar (n % base)] := by
  rw [Nat.toDigits_eq_if hbase]
  split
  · next hn => rw [Nat.mod_eq_of_lt hn, List.nil_append]
  · rfl

/-- A number is written with digits only. -/
theorem isDigit_of_mem_toDigits (hbase : 1 < base) (hbase' : base ≤ 16) {ch : Char} (h : ch ∈ Nat.toDigits base n) :
    isDigit base ch = true := by
  induction n using Nat.strongRecOn with
  | ind n ih =>
    rw [toDigits_cases hbase, List.mem_append, List.mem_singleton] at h
    obtain h | rfl := h
    · split at h
      · cases h
      · next hn => exact ih (n / base) (Nat.div_lt_self (by omega) hbase) h
    · exact isDigit_digitChar hbase' (Nat.mod_lt _ (by omega))

/-- The value of the digits that a number is written with is the number. -/
theorem value_toDigits (hbase : 1 < base) (hbase' : base ≤ 16) (n : Nat) : value base (Nat.toDigits base n) = n := by
  induction n using Nat.strongRecOn with
  | ind n ih =>
    -- the last digit is the remainder, and the others are those of the quotient
    have hdigit := digit?_digitChar hbase' (Nat.mod_lt n (Nat.zero_lt_of_lt hbase))
    rw [toDigits_cases hbase, value_append_singleton, hdigit, Option.getD_some]
    split
    · next hn =>
      rw [Nat.mod_eq_of_lt hn]
      exact (congrArg (· + n) (Nat.zero_mul base)).trans (Nat.zero_add n)
    · next hn =>
      rw [ih (n / base) (Nat.div_lt_self (by omega) hbase), Nat.mul_comm]
      exact Nat.div_add_mod n base

/-- No number but zero is written with a zero in front. -/
theorem eq_zero_of_head?_toDigits (hbase : 1 < base) (hbase' : base ≤ 16) (h : (Nat.toDigits base n).head? = some '0') :
    n = 0 := by
  induction n using Nat.strongRecOn with
  | ind n ih =>
    rw [toDigits_cases hbase] at h
    split at h
    · next hn =>
      rw [Nat.mod_eq_of_lt hn] at h
      exact Nat.digitChar_eq_zero.mp (Option.some.inj h)
    · next hn =>
      obtain ⟨first, more, hfront⟩ := List.exists_cons_of_ne_nil (Nat.toDigits_ne_nil (n := n / base) (b := base))
      rw [hfront] at h
      have hzero := ih (n / base) (Nat.div_lt_self (by omega) hbase) (by rw [hfront]; exact h)
      have hpos := Nat.div_pos (Nat.not_lt.mp hn) (Nat.zero_lt_of_lt hbase)
      omega

/-- A number reads back from the digits that it is written with. -/
theorem number?_toDigits (hbase : 1 < base) (hbase' : base ≤ 16) {width : Option Nat} {padded : Bool} {bound : Nat}
    (hwidth : ∀ w ∈ width, 0 < w ∧ n < base ^ w) (hbound : n < bound) (hrest : Stops base rest) :
    number? base width padded bound (Nat.toDigits base n ++ rest) = some (n, rest) := by
  have hdigits : ∀ ch ∈ Nat.toDigits base n, isDigit base ch = true := fun ch => isDigit_of_mem_toDigits hbase hbase'
  have htake : (Nat.toDigits base n ++ rest).takeWhile (isDigit base) = Nat.toDigits base n := by
    rw [List.takeWhile_append_of_pos hdigits, takeWhile_of_stops hrest, List.append_nil]
  have hdrop : (Nat.toDigits base n ++ rest).dropWhile (isDigit base) = rest := by
    rw [List.dropWhile_append_of_pos hdigits, dropWhile_of_stops hrest]
  have hsome : (Nat.toDigits base n).isEmpty = false := List.isEmpty_eq_false_iff.mpr Nat.toDigits_ne_nil
  -- the width that is allowed is enough for the number
  have hnarrow : (width.any fun w => decide (w < (Nat.toDigits base n).length)) = false := by
    cases width with
    | none => rfl
    | some w =>
      obtain ⟨hpos, hlt⟩ := hwidth w rfl
      exact decide_eq_false (Nat.not_lt.mpr ((Nat.length_toDigits_le_iff hbase hpos).mpr hlt))
  have hunpadded : ((Nat.toDigits base n).head? == some '0' && decide (1 < (Nat.toDigits base n).length)) = false := by
    rw [Bool.and_eq_false_iff]
    by_cases hzero : (Nat.toDigits base n).head? = some '0'
    · rw [eq_zero_of_head?_toDigits hbase hbase' hzero, Nat.toDigits_zero]
      exact .inr rfl
    · exact .inl (beq_eq_false_iff_ne.mpr hzero)
  unfold number?
  dsimp only
  rw [htake, hdrop, value_toDigits hbase hbase']
  simp only [hsome, hnarrow, Bool.and_assoc, hunpadded, Nat.not_le.mpr hbound, Bool.and_false, decide_false,
    Bool.or_false, Bool.false_eq_true, if_false]

theorem number?_decimal {width : Option Nat} {padded : Bool} {bound : Nat} (hwidth : ∀ w ∈ width, 0 < w ∧ n < 10 ^ w)
    (hbound : n < bound) (hrest : Stops 10 rest) :
    number? 10 width padded bound (Nat.toDigits 10 n ++ rest) = some (n, rest) :=
  number?_toDigits (by decide) (by decide) hwidth hbound hrest

/-- The digits of a port are read as the port. -/
theorem port?_toDigits (port : UInt16) : port? (Nat.toDigits 10 port.toNat) = some port := by
  have hnumber : number? 10 none true UInt16.size (Nat.toDigits 10 port.toNat) = some (port.toNat, []) := by
    have hread : number? 10 none true UInt16.size (Nat.toDigits 10 port.toNat ++ []) = some (port.toNat, []) :=
      number?_decimal nofun port.toNat_lt (stops_nil 10)
    rwa [List.append_nil] at hread
  unfold port?
  rw [hnumber]
  exact congrArg some (UInt16.ofNat_toNat)

/-! ## IPv4 addresses -/

namespace Ipv4

theorem octet?_toDigits (octet : UInt8) (hrest : Stops 10 rest) :
    octet? (Nat.toDigits 10 octet.toNat ++ rest) = some (octet, rest) := by
  have hlt := octet.toNat_lt
  unfold octet?
  rw [number?_decimal (by rintro _ ⟨⟩; omega) hlt hrest]
  exact congrArg (fun octet => some (octet, rest)) UInt8.ofNat_toNat

theorem dottedOctet?_toDigits (octet : UInt8) (hrest : Stops 10 rest) :
    dottedOctet? ('.' :: Nat.toDigits 10 octet.toNat ++ rest) = some (octet, rest) :=
  octet?_toDigits octet hrest

/-- An IPv4 address reads back from its text. -/
theorem read?_chars (ip : Ipv4) (hrest : Stops 10 rest) : read? (ip.chars ++ rest) = some (ip, rest) := by
  have hdot : ∀ digits rest, Stops 10 ('.' :: digits ++ rest) := fun digits rest => stops_cons rfl (digits ++ rest)
  unfold read? chars
  rw [List.append_assoc, List.append_assoc, List.append_assoc]
  simp only [Option.bind_eq_bind, Option.pure_def]
  rw [octet?_toDigits ip.a (hdot _ _), Option.bind_some, dottedOctet?_toDigits ip.b (hdot _ _), Option.bind_some,
    dottedOctet?_toDigits ip.c (hdot _ _), Option.bind_some, dottedOctet?_toDigits ip.d hrest, Option.bind_some]

/-- Where no digit stands, no IPv4 address does. -/
theorem read?_of_stops (h : Stops 10 rest) : read? rest = none := by
  unfold read? octet?
  rw [number?_of_stops h]
  rfl

/-- Nor does one where no dot stands behind the first digits. -/
theorem read?_of_no_dot (h : (cs.dropWhile (isDigit 10)).head? ≠ some '.') : read? cs = none := by
  unfold read? octet? number?
  dsimp only
  split
  · rfl
  · have hdot : dottedOctet? (cs.dropWhile (isDigit 10)) = none := by
      unfold dottedOctet?
      split
      · next hcs =>
        rw [hcs] at h
        exact absurd rfl h
      · rfl
    show (dottedOctet? (cs.dropWhile (isDigit 10))).bind _ = none
    rw [hdot]
    rfl

end Ipv4

end EventBus.Address
