import EventBus.Error.Transport
import EventBus.Event

/-!
# Frames

The messages between a bus and the subscribers outside its process. A frame travels as a length of
four bytes followed by a body of that length: one byte for the kind of frame, then its fields. All
numbers are big-endian.

```text
1 hello      id u32, name length u16, name
2 hello_ack  status i32
3 push       envelope
4 request    envelope, out
5 reply      status i32, out

envelope     origin u32, code u16, payload length u32, payload
out          0, or 1, checksum u32, data length u32, data
```

A name is cut to what its length field can state, between two characters.
-/

namespace EventBus

/-- An event as it travels, with the code in place of the kind. -/
structure Envelope where
  origin : SubscriberId
  code : UInt16
  payload : Bytes
  deriving DecidableEq

namespace Envelope

def ofEvent {c : Catalog} (event : Event c) : Envelope :=
  ⟨event.origin, Catalog.code event.kind, event.payload⟩

/-- The event of an envelope, if its code is in the catalog. -/
def toEvent (c : Catalog) (envelope : Envelope) : Except TransportError (Event c) :=
  match c.ofCode? envelope.code with
  | some kind => .ok ⟨envelope.origin, kind, envelope.payload⟩
  | none => .error (.unknownEvent envelope.code)

end Envelope

/-- A message between a bus and a remote subscriber. -/
inductive Frame where
  | hello (id : SubscriberId) (name : String)
  | helloAck (status : Status)
  | push (envelope : Envelope)
  /-- An event that expects a reply, with the out-structure if the receiver may write it. -/
  | request (envelope : Envelope) (out : Option EventOut)
  | reply (status : Status) (out : Option EventOut)
  deriving DecidableEq

namespace Frame

def label : Frame → String
  | hello .. => "hello"
  | helloAck .. => "hello_ack"
  | push .. => "push"
  | request .. => "request"
  | reply .. => "reply"

/-- The length of the field in front of a body. -/
def headerLength : Nat := 4

/-! ## Encoding -/

/-- The longest name that its length field can state. -/
def maxName : Nat := UInt16.size - 1

/-- A name as it is sent: cut between two characters to what its length field can state. -/
def sentName (name : String) : String :=
  if (Text.utf8 name).length ≤ maxName then name else String.ofList (Text.takeBytes maxName name.toList)

def envelopeBytes (envelope : Envelope) : Bytes :=
  Bytes.be32 envelope.origin.raw ++ Bytes.be16 envelope.code
    ++ Bytes.lengthField envelope.payload.length ++ envelope.payload

def outBytes : Option EventOut → Bytes
  | none => [0]
  | some out => 1 :: Bytes.be32 out.checksum ++ Bytes.lengthField out.data.length ++ out.data

def body : Frame → Bytes
  | hello id name =>
    let sent := Text.utf8 (sentName name)
    1 :: Bytes.be32 id.raw ++ Bytes.be16 (UInt16.ofNat sent.length) ++ sent
  | helloAck status => 2 :: Bytes.be32 status.code.toUInt32
  | push envelope => 3 :: envelopeBytes envelope
  | request envelope out => 4 :: envelopeBytes envelope ++ outBytes out
  | reply status out => 5 :: Bytes.be32 status.code.toUInt32 ++ outBytes out

def encode (frame : Frame) : Bytes :=
  let body := frame.body
  Bytes.lengthField body.length ++ body

/-- A frame as it travels, unless its body exceeds `max` or what a length field can state. -/
def encodeWithin (max : Nat) (frame : Frame) : Except TransportError Bytes :=
  let body := frame.body
  let max := min max Bytes.maxLength
  if max < body.length then .error (.frameTooLarge body.length max)
  else .ok (Bytes.lengthField body.length ++ body)

theorem encodeWithin_eq_ok_iff {max : Nat} {frame : Frame} {bytes : Bytes} :
    frame.encodeWithin max = .ok bytes ↔
      frame.body.length ≤ min max Bytes.maxLength ∧ bytes = frame.encode := by
  simp only [encodeWithin, encode]
  split
  · simp only [reduceCtorEq, false_iff, not_and]
    omega
  · simp only [Except.ok.injEq]
    constructor
    · rintro rfl
      exact ⟨by omega, rfl⟩
    · exact fun h => h.2.symm

theorem encodeWithin_eq_error_iff {max : Nat} {frame : Frame} {e : TransportError} :
    frame.encodeWithin max = .error e
      ↔ min max Bytes.maxLength < frame.body.length
        ∧ e = .frameTooLarge frame.body.length (min max Bytes.maxLength) := by
  simp only [encodeWithin]
  split
  · next hlarge =>
    simp only [hlarge, true_and, Except.error.injEq]
    exact eq_comm
  · next hfits => simp only [hfits, false_and, reduceCtorEq]

end Frame

end EventBus
