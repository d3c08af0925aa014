/-!
# Shortest decimals

The shortest decimal that reads back as a given binary floating-point number. The number is taken
apart into `m * 2 ^ q`; every real between its two half-way points reads back as it (the half-way
points themselves when `m` is even). For one digit, two digits and so on, the two neighbours of the
value on that decimal grid are tested in exact arithmetic: the first grid with a hit decides, and of
two hits the nearer one.
-/

namespace EventBus

/-- A decimal `digits * 10 ^ exponent`. -/
structure Decimal where
  digits : Nat
  exponent : Int

namespace Decimal

/-- A positive fraction. -/
structure Ratio where
  num : Nat
  den : Nat

/-- `m * base ^ e` as a fraction. -/
def Ratio.scaled (base m : Nat) (e : Int) : Ratio :=
  if 0 ≤ e then ⟨m * Nat.pow base e.toNat, 1⟩ else ⟨m, Nat.pow base (-e).toNat⟩

def Ratio.lt (x y : Ratio) : Bool :=
  x.num * y.den < y.num * x.den

def Ratio.le (x y : Ratio) : Bool :=
  !y.lt x

/-- A positive binary number with the reals that read back as it. -/
structure Binary where
  /-- Twice twice the significand: all three points are multiples of the same unit. -/
  value : Ratio
  low : Ratio
  high : Ratio
  /-- Whether the half-way points belong to the interval. -/
  closed : Bool

/-- The number `m * 2 ^ q`; `atPowerOfTwo` says that its lower neighbour is half as far away. -/
def Binary.of (m : Nat) (q : Int) (atPowerOfTwo : Bool) : Binary where
  value := .scaled 2 (4 * m) (q - 2)
  low := .scaled 2 (if atPowerOfTwo then 4 * m - 1 else 4 * m - 2) (q - 2)
  high := .scaled 2 (4 * m + 2) (q - 2)
  closed := m % 2 == 0

/-- Whether a fraction reads back as the number. -/
def Binary.holds (b : Binary) (x : Ratio) : Bool :=
  if b.closed then b.low.le x && x.le b.high else b.low.lt x && x.lt b.high

def ratio (d : Decimal) : Ratio :=
  .scaled 10 d.digits d.exponent

/-- The neighbour of the value on the grid of `10 ^ exponent` that reads back, the nearer of two; the
even one of two that are equally near. -/
def Binary.onGrid? (b : Binary) (exponent : Int) : Option Decimal :=
  let unit := Ratio.scaled 10 1 exponent
  let below := b.value.num * unit.den / (b.value.den * unit.num)
  let lower : Decimal := ⟨below, exponent⟩
  let upper : Decimal := ⟨below + 1, exponent⟩
  match b.holds lower.ratio, b.holds upper.ratio with
  | true, true =>
    let middle := Ratio.scaled 10 (10 * below + 5) (exponent - 1)
    if b.value.lt middle then some lower
    else if middle.lt b.value then some upper
    else some (if below % 2 == 0 then lower else upper)
  | true, false => some lower
  | false, true => some upper
  | false, false => none

/-- The first of `count` grids, each ten times finer, on which a neighbour reads back. -/
def Binary.firstGrid? (b : Binary) : Nat → Int → Option Decimal
  | 0, _ => none
  | count + 1, exponent =>
    match b.onGrid? exponent with
    | some d => some d
    | none => b.firstGrid? count (exponent - 1)

/-- The number of digits in front of the point of a value near `2 ^ e`: the first of a few guesses
whose power of ten exceeds the value. -/
def Binary.magnitude (b : Binary) (e : Int) : Int :=
  let guess := e * 30103 / 100000 - 1
  ([guess, guess + 1, guess + 2].find? fun p => b.value.lt (.scaled 10 1 p)).getD (guess + 3)

/-- A decimal without zeros at the end of its digits. -/
def trimmed : Nat → Decimal → Decimal
  | 0, d => d
  | fuel + 1, d =>
    if d.digits % 10 == 0 && d.digits != 0 then trimmed fuel ⟨d.digits / 10, d.exponent + 1⟩ else d

/-- The shortest decimal of the positive finite number with these bits. -/
def shortest (bits : UInt64) : Decimal :=
  let fraction := (bits % (1 <<< 52)).toNat
  let biased := ((bits >>> 52) % (1 <<< 11)).toNat
  let m := if biased == 0 then fraction else fraction + 1 <<< 52
  let q : Int := (if biased == 0 then 1 else biased : Int) - 1075
  let b := Binary.of m q (fraction == 0 && 1 < biased)
  let top := b.magnitude (q + Nat.log2 m)
  ((b.firstGrid? 17 (top - 1)).getD ⟨m, 0⟩).trimmed 20

end Decimal

end EventBus
