import EventBus.Text.Utf8

/-!
# Subscriber identity

A subscriber is known on the wire by a 32-bit hash of its name, so that a subscriber in another
process can compute its own id. The hash is Bob Jenkins' lookup3 mixing over one block of 32 bytes:
the name's UTF-8, cut or padded with zeros, read as eight little-endian words.
-/

namespace EventBus

/-- A hashed subscriber name. -/
structure SubscriberId where
  raw : UInt32
  deriving DecidableEq, Repr

namespace SubscriberId

/-- Names are cut to this many bytes before they are hashed. -/
def blockSize : Nat := 32

/-- A name's bytes, cut or padded with zeros to the size of a block. -/
def block (name : String) : Bytes :=
  (Text.utf8 name ++ List.replicate blockSize 0).take blockSize

/-- The little-endian words of a byte string; bytes that fill no word are left out. -/
def words : Bytes → List UInt32
  | a :: b :: c :: d :: rest => Bytes.toUInt32 d c b a :: words rest
  | _ => []

def rotateLeft (x : UInt32) (n : UInt32) : UInt32 :=
  (x <<< n) ||| (x >>> (32 - n))

/-- The three words that are mixed. -/
structure Lanes where
  a : UInt32
  b : UInt32
  /-- The third lane, which becomes the hash. -/
  c : UInt32

/-- One half round of mixing. The lanes change places, so that three half rounds touch all of them and
bring them back. -/
def Lanes.turn (l : Lanes) (n : UInt32) : Lanes :=
  ⟨l.b, l.c + l.b, (l.a - l.c) ^^^ rotateLeft l.c n⟩

def Lanes.mix (l : Lanes) : Lanes :=
  (((((l.turn 4).turn 6).turn 8).turn 16).turn 19).turn 4

/-- One half round of the last mixing: the third lane is mixed with the second and becomes it. -/
def Lanes.settle (l : Lanes) (n : UInt32) : Lanes :=
  ⟨l.b, (l.c ^^^ l.b) - rotateLeft l.b n, l.a⟩

/-- The last mixing, which leaves the hash. -/
def Lanes.finish (l : Lanes) : UInt32 :=
  (((((((l.settle 14).settle 11).settle 25).settle 16).settle 4).settle 14).settle 24).b

def Lanes.start : Lanes :=
  let seed := 0xdeadbeef + UInt32.ofNat blockSize
  ⟨seed, seed, seed⟩

def Lanes.absorb (l : Lanes) : List UInt32 → Lanes
  | [] => l
  | [x] => ⟨l.a + x, l.b, l.c⟩
  | [x, y] => ⟨l.a + x, l.b + y, l.c⟩
  | x :: y :: z :: _ => ⟨l.a + x, l.b + y, l.c + z⟩

/-- The hash of a block: mixed after the first and the second three words, finished after the rest. -/
def hash (block : Bytes) : UInt32 :=
  let ws := words block
  let l := (Lanes.start.absorb (ws.take 3)).mix
  let l := (l.absorb ((ws.drop 3).take 3)).mix
  (l.absorb (ws.drop 6)).finish

def ofName (name : String) : SubscriberId :=
  ⟨hash (block name)⟩

def text (id : SubscriberId) : String :=
  toString id.raw.toNat

example : (ofName "conn").raw = 1651030346 := by cbv
example : (ofName "l2_learning").raw = 153576300 := by cbv

end SubscriberId

end EventBus
