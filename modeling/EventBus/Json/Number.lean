import EventBus.Decimal.Shortest

/-!
# JSON numbers

What a number token denotes: an integer of 64 bits, or a floating-point number. A literal without
fraction and exponent is an integer as long as it fits; minus zero and longer literals are
floating-point numbers.

A floating-point literal keeps the digits that fit 64 bits and a power of ten. Its value is the
rounded digits times or divided by the rounded power, each operation rounded.
-/

namespace EventBus.Json

/-- The value of a number token. -/
inductive Number where
  /-- An integer of 64 bits, signed or unsigned. -/
  | integer (n : Int)
  /-- A floating-point number `±digits * 10 ^ exponent`. -/
  | floating (negative : Bool) (digits : Nat) (exponent : Int)
  deriving DecidableEq, Repr

/-- The largest power of ten that is a floating-point number. -/
def maxPower : Nat := 308

/-- The absolute value of a floating-point literal; `none` beyond the largest number. `fuel` bounds
the divisions by the largest power. -/
def scale? : Nat → Float → Int → Option Float
  | 0, value, _ => some value
  | fuel + 1, value, exponent =>
    if exponent.natAbs ≤ maxPower then
      -- two roundings, one for the power and one for the product or quotient
      let power := Float.ofScientific 1 false exponent.natAbs
      if 0 ≤ exponent then
        let scaled := value * power
        if scaled.isInf then none else some scaled
      else some (value / power)
    else if value == 0 then some value
    else if 0 ≤ exponent then none
    else scale? fuel (value / Float.ofScientific 1 false maxPower) (exponent + maxPower)

/-- The absolute value of a floating-point literal; `none` beyond the largest number. -/
def magnitude? (digits : Nat) (exponent : Int) : Option Float :=
  scale? (exponent.natAbs / maxPower + 2) (Float.ofNat digits) exponent

/-- The digits of a decimal with a point: positional while the point is at most sixteen places to the
right and less than five to the left of the first digit, with an exponent otherwise. The exponent
bears its sign and no leading zero. -/
def positional (d : Decimal) : String :=
  let digits := toString d.digits
  let count := digits.length
  let point := d.exponent + count
  if 0 ≤ d.exponent && point ≤ 16 then
    digits ++ String.ofList (List.replicate d.exponent.toNat '0') ++ ".0"
  else if 0 < point && point ≤ 16 then
    String.ofList (digits.toList.take point.toNat) ++ "." ++ String.ofList (digits.toList.drop point.toNat)
  else if -5 < point && point ≤ 0 then
    "0." ++ String.ofList (List.replicate (-point).toNat '0') ++ digits
  else
    let fraction := digits.toList.drop 1
    String.ofList (digits.toList.take 1)
      ++ (if fraction.isEmpty then "" else "." ++ String.ofList fraction)
      ++ (if 0 < point then "e+" else "e") ++ toString (point - 1)

/-- The text of a non-negative floating-point number. -/
def floatText (value : Float) : String :=
  if value == 0 then "0.0" else positional (Decimal.shortest value.toBits)

end EventBus.Json
