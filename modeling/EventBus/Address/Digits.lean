/-!
# Numbers in addresses

The digits of an octet, a group or a port, taken from the front of a text.
-/

namespace EventBus.Address

/-- The value of a digit of a base, upper and lower case alike. -/
def digit? (base : Nat) (c : Char) : Option Nat :=
  let value? :=
    if '0' ≤ c && c ≤ '9' then some (c.toNat - '0'.toNat)
    else if 'a' ≤ c && c ≤ 'z' then some (c.toNat - 'a'.toNat + 10)
    else if 'A' ≤ c && c ≤ 'Z' then some (c.toNat - 'A'.toNat + 10)
    else none
  value?.filter (· < base)

def isDigit (base : Nat) (c : Char) : Bool :=
  (digit? base c).isSome

def value (base : Nat) (ds : List Char) : Nat :=
  ds.foldl (fun n c => n * base + (digit? base c).getD 0) 0

/-- The number at the front of a text, and the text behind its digits: at least one digit, a value
below `bound`, at most `width` digits if a width is given, and a zero in front of other digits only
if `padded`. -/
def number? (base : Nat) (width : Option Nat) (padded : Bool) (bound : Nat) (cs : List Char) :
    Option (Nat × List Char) :=
  let ds := cs.takeWhile (isDigit base)
  let n := value base ds
  if ds.isEmpty || width.any (· < ds.length)
      || (!padded && ds.head? == some '0' && 1 < ds.length) || bound ≤ n then
    none
  else some (n, cs.dropWhile (isDigit base))

/-- A number of sixteen bits that fills a whole text. -/
def port? (cs : List Char) : Option UInt16 :=
  match number? 10 none true UInt16.size cs with
  | some (n, []) => some (UInt16.ofNat n)
  | _ => none

end EventBus.Address
