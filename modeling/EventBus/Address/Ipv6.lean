import EventBus.Address.Ipv4

/-!
# IPv6 addresses

Eight groups of sixteen bits. The text of an address is its normal form: lower-case groups without
leading zeros, the longest run of at least two zero groups (the first of several) written `::`, and
an IPv4-mapped address with its last two groups as an IPv4 address. Reading accepts any spelling.
-/

namespace EventBus.Address

/-- An IPv6 address. -/
structure Ipv6 where
  /-- The groups, in the order of the text. -/
  groups : List UInt16
  length_eq : groups.length = 8

namespace Ipv6

theorem ext_groups {x y : Ipv6} (h : x.groups = y.groups) : x = y := by
  cases x; cases y; simp_all

instance : DecidableEq Ipv6 := fun x y =>
  if h : x.groups = y.groups then isTrue (ext_groups h) else isFalse fun e => h (e ▸ rfl)

/-! ## Reading -/

/-- The group at the front of a text: one to four hexadecimal digits. -/
def group? (cs : List Char) : Option (UInt16 × List Char) :=
  (number? 16 (some 4) true UInt16.size cs).map fun (n, rest) => (UInt16.ofNat n, rest)

def ofIpv4 (ip : Ipv4) : List UInt16 :=
  [ip.a.toUInt16 <<< 8 ||| ip.b.toUInt16, ip.c.toUInt16 <<< 8 ||| ip.d.toUInt16]

/-- A run of groups read from a text. -/
structure Run where
  groups : List UInt16
  /-- Whether an IPv4 address fills the last two. -/
  endsInIpv4 : Bool
  rest : List Char

/-- The text behind the separator that the next group needs; the first of a run needs none. -/
def afterSeparator? (first : Bool) (cs : List Char) : Option (List Char) :=
  if first then some cs
  else
    match cs with
    | ':' :: rest => some rest
    | _ => none

/-- The longest run of at most `limit` groups at the front of a text. An IPv4 address may stand where
two groups have room, and ends the run. -/
def readRun (first : Bool) : Nat → List Char → Run
  | 0, cs => ⟨[], false, cs⟩
  | limit + 1, cs =>
    match afterSeparator? first cs with
    | none => ⟨[], false, cs⟩
    | some start =>
      -- an IPv4 address is tried first, since its first octet also reads as a group
      match if 0 < limit then Ipv4.read? start else none with
      | some (ip, rest) => ⟨ofIpv4 ip, true, rest⟩
      | none =>
        match group? start with
        | none => ⟨[], false, cs⟩
        | some (g, rest) =>
          let run := readRun false limit rest
          { run with groups := g :: run.groups }

/-- The address with the given groups, if there are eight. -/
def ofGroups? (groups : List UInt16) : Option Ipv6 :=
  if h : groups.length = 8 then some ⟨groups, h⟩ else none

/-- The address at the front of a text: eight groups, or fewer around a `::` that stands for at least
one zero group. No IPv4 address may stand in front of the `::`. -/
def read? (cs : List Char) : Option (Ipv6 × List Char) :=
  let head := readRun true 8 cs
  if head.groups.length = 8 then (ofGroups? head.groups).map (·, head.rest)
  else if head.endsInIpv4 then none
  else
    match head.rest with
    | ':' :: ':' :: rest =>
      let tail := readRun true (7 - head.groups.length) rest
      let zeros := List.replicate (8 - head.groups.length - tail.groups.length) 0
      (ofGroups? (head.groups ++ zeros ++ tail.groups)).map (·, tail.rest)
    | _ => none

/-! ## Writing -/

def joinGroups : List UInt16 → List Char
  | [] => []
  | [g] => Nat.toDigits 16 g.toNat
  | g :: gs => Nat.toDigits 16 g.toNat ++ ':' :: joinGroups gs

def zerosAtFront (groups : List UInt16) : Nat :=
  (groups.takeWhile (· == 0)).length

/-- Start and length of the longest run of zero groups, the first of several. -/
def longestZeros : List UInt16 → Nat × Nat
  | [] => (0, 0)
  | g :: gs =>
    let here := zerosAtFront (g :: gs)
    let (start, length) := longestZeros gs
    -- the run at the front wins a tie
    if length ≤ here then (0, here) else (start + 1, length)

/-- The IPv4 address that an IPv4-mapped address carries. -/
def mappedIpv4? (groups : List UInt16) : Option Ipv4 :=
  match groups with
  | [0, 0, 0, 0, 0, 0xFFFF, x, y] => some ⟨(x >>> 8).toUInt8, x.toUInt8, (y >>> 8).toUInt8, y.toUInt8⟩
  | _ => none

def chars (ip : Ipv6) : List Char :=
  match mappedIpv4? ip.groups with
  | some v4 => "::ffff:".toList ++ v4.chars
  | none =>
    let (start, length) := longestZeros ip.groups
    if 1 < length then
      joinGroups (ip.groups.take start) ++ ':' :: ':' :: joinGroups (ip.groups.drop (start + length))
    else joinGroups ip.groups

end Ipv6

end EventBus.Address
