import EventBus.Frame.Decode

/-!
# Decoding by accesses

The decoder as it goes over its bytes. An access takes bytes off the front that have to be there: one that finds too
few of them overruns, and there is no answer at all, neither a frame nor a failure. Guards in front of the accesses
refuse bytes that are too few, and one guard may stand for several accesses.

`decode` is `Frame.decode` with the accesses and the guards written out, and with the buffer that a call leaves as a
part of its result.
-/

namespace EventBus.Frame

/-- What keeps a step over bytes from giving a value. -/
inductive Fault where
  /-- An access found fewer bytes than it takes. -/
  | overrun
  /-- The bytes are no frame. -/
  | refused (error : TransportError)

/-- A step over bytes: takes some of them off the front. -/
abbrev Cursor (α : Type) := StateT Bytes (Except Fault) α

namespace Cursor

/-! ## Accesses -/

def getUInt8 : Cursor UInt8 := fun bytes =>
  match bytes with
  | a :: rest => .ok (a, rest)
  | _ => .error .overrun

def getUInt16 : Cursor UInt16 := fun bytes =>
  match bytes with
  | a :: b :: rest => .ok (Bytes.toUInt16 a b, rest)
  | _ => .error .overrun

def getUInt32 : Cursor UInt32 := fun bytes =>
  match bytes with
  | a :: b :: c :: d :: rest => .ok (Bytes.toUInt32 a b c d, rest)
  | _ => .error .overrun

def splitTo (n : Nat) : Cursor Bytes := fun bytes =>
  match Bytes.splitFirst? n bytes with
  | some parts => .ok parts
  | none => .error .overrun

/-! ## Guards -/

def refuse {α : Type} (error : TransportError) : Cursor α := fun _ => .error (.refused error)

/-- Refuses bytes that are fewer than `n`. -/
def need (n : Nat) : Cursor Unit := fun bytes =>
  if bytes.length < n then .error (.refused truncated) else .ok ((), bytes)

/-! ## Parts of a frame -/

/-- Bytes behind a field that states how many they are. -/
def block (length : Nat) : Cursor Bytes := do
  need length
  splitTo length

def status : Cursor Status := do
  need 4
  let code ← getUInt32
  return ⟨code.toInt32⟩

def envelope : Cursor Envelope := do
  need 10
  let origin ← getUInt32
  let code ← getUInt16
  let length ← getUInt32
  let payload ← block length.toNat
  return ⟨⟨origin⟩, code, payload⟩

def out : Cursor (Option EventOut) := do
  need 1
  match ← getUInt8 with
  | 0 => return none
  | 1 =>
    need 8
    let checksum ← getUInt32
    let length ← getUInt32
    let data ← block length.toNat
    return some ⟨checksum, data⟩
  | _ => refuse (.invalidFrame "bad out marker")

def hello : Cursor Frame := do
  need 6
  let id ← getUInt32
  let length ← getUInt16
  let name ← block length.toNat
  match Text.ofUtf8? name with
  | some name => return .hello ⟨id⟩ name
  | none => refuse (.invalidFrame "hello name is not utf-8")

def fields (tag : UInt8) : Cursor Frame :=
  match tag with
  | 1 => hello
  | 2 => do return .helloAck (← status)
  | 3 => do return .push (← envelope)
  | 4 => do
    let envelope ← envelope
    let out ← out
    return .request envelope out
  | 5 => do
    let status ← status
    let out ← out
    return .reply status out
  | _ => refuse (.invalidFrame "unknown frame tag")

/-- A whole body; nothing may follow its fields. -/
def body : Cursor Frame := do
  need 1
  let tag ← getUInt8
  let frame ← fields tag
  if (← get).isEmpty then return frame else refuse (.invalidFrame "trailing bytes")

/-! ## One call -/

end Cursor

/-- What a decode call answers: a frame, or that none is complete, or a failure. -/
def Decoded.answer : Decoded → Except TransportError (Option Frame)
  | .incomplete => .ok none
  | .frame f _ => .ok (some f)
  | .failed e _ => .error e

/-- The buffer that a decode call leaves. -/
def Decoded.left (buffer : Bytes) : Decoded → Bytes
  | .incomplete => buffer
  | .frame _ rest => rest
  | .failed _ rest => rest

namespace Cursor

/-- The length in front of a buffer, by its first four bytes; `none` if an access overruns. -/
def header (buffer : Bytes) : Option UInt32 := do
  return Bytes.toUInt32 (← buffer[0]?) (← buffer[1]?) (← buffer[2]?) (← buffer[3]?)

/-- What a decode call does when the length in front is accepted. -/
def decodeBody (length : Nat) (buffer : Bytes) : Option (Except TransportError (Option Frame) × Bytes) :=
  if buffer.length < headerLength + length then some (.ok none, buffer)
  else do
    let (whole, left) ← Bytes.splitFirst? (headerLength + length) buffer
    let (_, behind) ← Bytes.splitFirst? headerLength whole
    match body behind with
    | .ok (frame, _) => some (.ok (some frame), left)
    | .error (.refused e) => some (.error e, left)
    | .error .overrun => none

/-- One decode call on a buffer: its answer, which is no frame while none is complete, and the buffer that it leaves;
`none` if an access overruns. -/
def decode (max : Nat) (buffer : Bytes) : Option (Except TransportError (Option Frame) × Bytes) :=
  if buffer.length < headerLength then some (.ok none, buffer)
  else do
    let length ← header buffer
    match checkLength max length.toNat with
    | .error e => some (.error e, buffer)
    | .ok () => decodeBody length.toNat buffer

end Cursor

end EventBus.Frame
