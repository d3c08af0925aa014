import EventBus.Frame

/-!
# Decoding frames

`decode` takes one frame off the front of a buffer. A frame that is not complete yet leaves the
buffer alone; so does a length that is zero or too large, which fails again in the same way whenever
it is tried. A complete body is consumed even when it does not parse.
-/

namespace EventBus.Frame

/-- What a parser of a body gives: the value and the bytes behind it. -/
abbrev Parsed (α : Type) := Except TransportError (α × Bytes)

/-- The failure of a body that is shorter than its fields. -/
def truncated : TransportError := .invalidFrame "truncated body"

/-- The first `n` bytes. -/
def takeBytes (n : Nat) (bytes : Bytes) : Parsed Bytes :=
  match Bytes.splitFirst? n bytes with
  | some parts => .ok parts
  | none => .error truncated

def takeUInt16 : Bytes → Parsed UInt16
  | a :: b :: rest => .ok (Bytes.toUInt16 a b, rest)
  | _ => .error truncated

def takeUInt32 : Bytes → Parsed UInt32
  | a :: b :: c :: d :: rest => .ok (Bytes.toUInt32 a b c d, rest)
  | _ => .error truncated

def takeStatus (bytes : Bytes) : Parsed Status :=
  (takeUInt32 bytes).map fun (n, rest) => (⟨n.toInt32⟩, rest)

def takeEnvelope (bytes : Bytes) : Except TransportError (Envelope × Bytes) := do
  let (origin, bytes) ← takeUInt32 bytes
  let (code, bytes) ← takeUInt16 bytes
  let (length, bytes) ← takeUInt32 bytes
  let (payload, bytes) ← takeBytes length.toNat bytes
  return (⟨⟨origin⟩, code, payload⟩, bytes)

def takeOut (bytes : Bytes) : Except TransportError (Option EventOut × Bytes) :=
  match bytes with
  | [] => .error truncated
  | 0 :: bytes => .ok (none, bytes)
  | 1 :: bytes => do
    let (checksum, bytes) ← takeUInt32 bytes
    let (length, bytes) ← takeUInt32 bytes
    let (data, bytes) ← takeBytes length.toNat bytes
    return (some ⟨checksum, data⟩, bytes)
  | _ => .error (.invalidFrame "bad out marker")

def takeHello (bytes : Bytes) : Except TransportError (Frame × Bytes) := do
  let (id, bytes) ← takeUInt32 bytes
  let (length, bytes) ← takeUInt16 bytes
  let (name, bytes) ← takeBytes length.toNat bytes
  match Text.ofUtf8? name with
  | some name => return (.hello ⟨id⟩ name, bytes)
  | none => .error (.invalidFrame "hello name is not utf-8")

/-- The fields of a frame, behind the byte that gives its kind. -/
def takeFields (tag : UInt8) (bytes : Bytes) : Except TransportError (Frame × Bytes) :=
  match tag with
  | 1 => takeHello bytes
  | 2 => (takeStatus bytes).map fun (status, rest) => (.helloAck status, rest)
  | 3 => (takeEnvelope bytes).map fun (envelope, rest) => (.push envelope, rest)
  | 4 => do
    let (envelope, bytes) ← takeEnvelope bytes
    let (out, bytes) ← takeOut bytes
    return (.request envelope out, bytes)
  | 5 => do
    let (status, bytes) ← takeStatus bytes
    let (out, bytes) ← takeOut bytes
    return (.reply status out, bytes)
  | _ => .error (.invalidFrame "unknown frame tag")

/-- The frame of a whole body; nothing may follow its fields. -/
def ofBody (body : Bytes) : Except TransportError Frame :=
  match body with
  | [] => .error truncated
  | tag :: fields => do
    let (frame, rest) ← takeFields tag fields
    if rest.isEmpty then .ok frame else .error (.invalidFrame "trailing bytes")

/-- Refuses a length of zero and one above `max`. -/
def checkLength (max length : Nat) : Except TransportError Unit :=
  if length = 0 then .error (.invalidFrame "empty frame")
  else if max < length then .error (.frameTooLarge length max)
  else .ok ()

/-- What taking one frame off a buffer gives. -/
inductive Decoded where
  /-- No complete frame is there yet; the buffer stays as it is. -/
  | incomplete
  /-- A frame, and the buffer behind it. -/
  | frame (frame : Frame) (rest : Bytes)
  /-- A failure, and the buffer as it leaves it. -/
  | failed (error : TransportError) (rest : Bytes)

def decode (max : Nat) (buffer : Bytes) : Decoded :=
  match takeUInt32 buffer with
  | .error _ => .incomplete
  | .ok (length, behind) =>
    match checkLength max length.toNat with
    | .error e => .failed e buffer -- nothing is taken off: the next attempt fails alike
    | .ok () =>
      match Bytes.splitFirst? length.toNat behind with
      | none => .incomplete
      | some (body, rest) =>
        match ofBody body with
        | .ok frame => .frame frame rest
        | .error e => .failed e rest -- the frame is gone, whatever its body holds

theorem takeUInt32_eq_ok {bytes rest : Bytes} {n : UInt32} (h : takeUInt32 bytes = .ok (n, rest)) :
    bytes.length = rest.length + 4 := by
  unfold takeUInt32 at h
  split at h
  · simp only [Except.ok.injEq, Prod.mk.injEq] at h
    simp [← h.2]
  · simp at h

theorem takeUInt32_append {bytes rest : Bytes} {n : UInt32} (h : takeUInt32 bytes = .ok (n, rest))
    (more : Bytes) : takeUInt32 (bytes ++ more) = .ok (n, rest ++ more) := by
  unfold takeUInt32 at h
  split at h
  · simp only [Except.ok.injEq, Prod.mk.injEq] at h
    simp [takeUInt32, h.1, h.2]
  · simp at h

theorem length_lt_of_takeUInt32 {bytes : Bytes} {e : TransportError} (h : takeUInt32 bytes = .error e) :
    bytes.length < headerLength := by
  unfold takeUInt32 at h
  split at h
  · simp at h
  · next hshort =>
    match bytes with
    | [] | [_] | [_, _] | [_, _, _] => simp [headerLength]
    | a :: b :: c :: d :: rest => exact absurd rfl (hshort a b c d rest)

/-- A frame takes at least five bytes off the buffer. -/
theorem length_of_decode_frame {max : Nat} {buffer rest : Bytes} {frame : Frame}
    (h : decode max buffer = .frame frame rest) : rest.length + 5 ≤ buffer.length := by
  unfold decode at h
  split at h
  · simp at h
  · rename_i length behind hheader
    have hlen := takeUInt32_eq_ok hheader
    split at h
    · simp at h
    · rename_i hcheck
      split at h
      · simp at h
      · rename_i body rest' hsplit
        obtain ⟨rfl, hbody⟩ := Bytes.splitFirst?_eq_some_iff.mp hsplit
        -- an accepted length is positive, so the frame takes its four header bytes and at least its tag
        have hpos : 0 < length.toNat := by
          unfold checkLength at hcheck
          split at hcheck
          · simp at hcheck
          · omega
        split at h
        · simp only [Decoded.frame.injEq] at h
          rw [hlen, ← h.2, List.length_append, hbody]
          omega
        · simp at h

/-- What decoding a buffer as far as it goes gives. -/
structure Drained where
  /-- The complete frames, in order. -/
  frames : List Frame
  /-- The failure that ended decoding, if one did. -/
  failure : Option TransportError
  rest : Bytes

/-- Decodes frames off a buffer until none is complete or one fails, behind those already decoded
(newest first). -/
def drainOnto (max : Nat) (decoded : List Frame) (buffer : Bytes) : Drained :=
  match _h : decode max buffer with
  | .incomplete => ⟨decoded.reverse, none, buffer⟩
  | .failed e rest => ⟨decoded.reverse, some e, rest⟩
  | .frame frame rest => drainOnto max (frame :: decoded) rest
  termination_by buffer.length
  decreasing_by
    have := length_of_decode_frame _h
    omega

/-- Decodes frames off a buffer until none is complete or one fails. -/
def drain (max : Nat) (buffer : Bytes) : Drained :=
  drainOnto max [] buffer

end EventBus.Frame
