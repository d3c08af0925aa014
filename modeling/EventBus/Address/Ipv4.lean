import EventBus.Address.Digits

/-!
# IPv4 addresses

Four decimal octets with dots between them, each without leading zeros. As the name of a host an
address has older spellings too: one to four numbers, decimal, octal behind `0` or hexadecimal behind
`0x`, of which the last one fills all octets that are left.
-/

namespace EventBus.Address

/-- An IPv4 address. -/
structure Ipv4 where
  a : UInt8
  b : UInt8
  c : UInt8
  d : UInt8
  deriving DecidableEq, Repr

namespace Ipv4

def octet? (cs : List Char) : Option (UInt8 × List Char) :=
  (number? 10 (some 3) false 256 cs).map fun (n, rest) => (UInt8.ofNat n, rest)

/-- The octet behind a dot at the front of a text. -/
def dottedOctet? : List Char → Option (UInt8 × List Char)
  | '.' :: rest => octet? rest
  | _ => none

def read? (cs : List Char) : Option (Ipv4 × List Char) := do
  let (a, cs) ← octet? cs
  let (b, cs) ← dottedOctet? cs
  let (c, cs) ← dottedOctet? cs
  let (d, cs) ← dottedOctet? cs
  return (⟨a, b, c, d⟩, cs)

def chars (ip : Ipv4) : List Char :=
  Nat.toDigits 10 ip.a.toNat ++ '.' :: Nat.toDigits 10 ip.b.toNat ++ '.' :: Nat.toDigits 10 ip.c.toNat
    ++ '.' :: Nat.toDigits 10 ip.d.toNat

/-! ## Older spellings -/

/-- The number at the front of a text, octal behind `0` and hexadecimal behind `0x`. -/
def looseNumber? (cs : List Char) : Option (Nat × List Char) :=
  match cs with
  | '0' :: 'x' :: rest => number? 16 none true UInt32.size rest
  | '0' :: 'X' :: rest => number? 16 none true UInt32.size rest
  | '0' :: _ => number? 8 none true UInt32.size cs
  | _ => number? 10 none true UInt32.size cs

/-- The value of the last `more + 1` octets, which a whole text fills: one octet with each number in
front of a dot, the others with the last number. -/
def looseValue? (more : Nat) (cs : List Char) : Option Nat :=
  match looseNumber? cs, more with
  | some (n, []), more => if n < 1 <<< (8 * (more + 1)) then some n else none
  | some (n, '.' :: rest), more + 1 =>
    if n < 256 then (looseValue? more rest).map (n <<< (8 * (more + 1)) + ·) else none
  | _, _ => none

/-- The address with the given value, the first octet being the highest. -/
def ofValue (n : Nat) : Ipv4 :=
  ⟨UInt8.ofNat (n >>> 24), UInt8.ofNat (n >>> 16), UInt8.ofNat (n >>> 8), UInt8.ofNat n⟩

/-- The address that a whole text denotes as the name of a host. -/
def loose? (cs : List Char) : Option Ipv4 :=
  (looseValue? 3 cs).map ofValue

end Ipv4

example : Ipv4.loose? "127.1".toList = some ⟨127, 0, 0, 1⟩ := by decide
example : Ipv4.loose? "010.0x1.65535".toList = some ⟨8, 1, 255, 255⟩ := by decide
example : Ipv4.loose? "1.256.3.4".toList = none := by decide

end EventBus.Address
