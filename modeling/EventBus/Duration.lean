/-!
# Spans of time

A span is a whole number of nanoseconds. Its text uses the largest unit that leaves a whole part,
and writes the rest as a fraction without trailing zeros.
-/

namespace EventBus

/-- A span of time. -/
structure Duration where
  nanoseconds : Nat
  deriving DecidableEq, Repr

namespace Duration

def zero : Duration := ⟨0⟩

/-- A span of whole seconds and further nanoseconds. -/
def ofParts (seconds nanoseconds : Nat) : Duration :=
  ⟨seconds * 1000000000 + nanoseconds⟩

def ofSeconds (n : Nat) : Duration :=
  ofParts n 0

def ofMilliseconds (n : Nat) : Duration :=
  ⟨n * 1000000⟩

def seconds (d : Duration) : Nat :=
  d.nanoseconds / 1000000000

def subsecond (d : Duration) : Nat :=
  d.nanoseconds % 1000000000

def milliseconds (d : Duration) : Nat :=
  d.nanoseconds / 1000000

/-- The longest span whose seconds fit 64 bits; it stands for waiting without end. -/
def longest : Duration :=
  ofParts (UInt64.size - 1) 999999999

/-- The last `width` decimal digits of a number, leading zeros included. -/
def digits : Nat → Nat → List Char
  | 0, _ => []
  | width + 1, n => digits width (n / 10) ++ [Nat.digitChar (n % 10)]

/-- A fraction of `width` digits with its point, without trailing zeros; nothing for zero. -/
def fraction (width n : Nat) : List Char :=
  match ((digits width n).reverse.dropWhile (· == '0')).reverse with
  | [] => []
  | ds => '.' :: ds

/-- A span in a unit of `size` nanoseconds, a one with `width` zeros. -/
def inUnit (d : Duration) (size width : Nat) (unit : String) : String :=
  toString (d.nanoseconds / size) ++ String.ofList (fraction width (d.nanoseconds % size)) ++ unit

/-- A span in the largest unit that leaves a whole part. -/
def text (d : Duration) : String :=
  if 1000000000 ≤ d.nanoseconds then d.inUnit 1000000000 9 "s"
  else if 1000000 ≤ d.nanoseconds then d.inUnit 1000000 6 "ms"
  else if 1000 ≤ d.nanoseconds then d.inUnit 1000 3 "µs"
  else d.inUnit 1 0 "ns"

theorem ofParts_seconds_subsecond (d : Duration) : ofParts d.seconds d.subsecond = d := by
  simp only [ofParts, seconds, subsecond]
  congr 1
  omega

example : (Duration.mk 1500).text = "1.5µs" := by cbv
example : (Duration.mk 0).text = "0ns" := by cbv
example : (Duration.ofParts 60 10).text = "60.00000001s" := by cbv

end Duration

end EventBus
