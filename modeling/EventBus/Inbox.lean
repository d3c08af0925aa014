import EventBus.Frame.Decode

/-!
# Inboxes

What has arrived on a connection and was not used yet. It arrives in pieces of any size, so an inbox keeps
the pieces apart and knows how many bytes they are together: that a frame is not complete yet is seen
without putting them together.

Main statement: draining an inbox takes out of it what `Frame.drain` takes off its bytes.
-/

namespace EventBus

/-- Bytes that arrived in pieces. -/
structure Inbox where
  front : Bytes := []
  /-- The pieces behind it, newest first. -/
  later : List Bytes := []
  size : Nat := 0
  size_eq : size = front.length + later.flatten.length := by simp
  /-- The header of the first frame is not torn apart. -/
  header_le : later = [] ∨ Frame.headerLength ≤ front.length := by simp

namespace Inbox

/-- All bytes, in the order in which they arrived. -/
def bytes (inbox : Inbox) : Bytes :=
  inbox.front ++ inbox.later.reverse.flatten

theorem length_eq_of_front (bytes : Bytes) : bytes.length = bytes.length + ([] : List Bytes).flatten.length := rfl

def ofBytes (bytes : Bytes) : Inbox where
  front := bytes
  size := bytes.length
  size_eq := length_eq_of_front bytes

/-- The inbox of a connection on which nothing has arrived. -/
def empty : Inbox :=
  ofBytes []

def push (piece : Bytes) (inbox : Inbox) : Inbox :=
  if h : Bytes.hasAtLeast Frame.headerLength inbox.front then
    { front := inbox.front
      later := piece :: inbox.later
      size := inbox.size + piece.length
      size_eq := by
        simp only [inbox.size_eq, List.flatten_cons, List.length_append]
        omega
      header_le := .inr (Bytes.hasAtLeast_iff.mp h) }
  else
    { front := inbox.front ++ piece
      size := inbox.size + piece.length
      size_eq := by
        have hnil := inbox.header_le.resolve_right (fun hle => h (Bytes.hasAtLeast_iff.mpr hle))
        simp [inbox.size_eq, hnil] }

@[simp]
theorem bytes_ofBytes (bytes : Bytes) : (ofBytes bytes).bytes = bytes := by
  simp [ofBytes, Inbox.bytes]

@[simp]
theorem bytes_push (piece : Bytes) (inbox : Inbox) : (inbox.push piece).bytes = inbox.bytes ++ piece := by
  unfold push
  split
  · simp [bytes]
  · next h =>
    have hnil := inbox.header_le.resolve_right (fun hle => h (Bytes.hasAtLeast_iff.mpr hle))
    simp [bytes, hnil]

/-! ## Taking frames out -/

/-- Whether the first frame is not complete yet and may still become one of at most `max` bytes. -/
def isIncomplete (max : Nat) (inbox : Inbox) : Bool :=
  match Frame.takeUInt32 inbox.front with
  | .error _ => true
  | .ok (length, _) => length.toNat ≤ max && inbox.size < Frame.headerLength + length.toNat

/-- What draining an inbox gives. -/
structure Drained where
  /-- The complete frames, in order. -/
  frames : List Frame
  /-- The failure that ended decoding, if one did. -/
  failure : Option TransportError
  inbox : Inbox

/-- Takes frames out of an inbox until none is complete or one fails. -/
def drain (max : Nat) (inbox : Inbox) : Drained :=
  if inbox.isIncomplete max then ⟨[], none, inbox⟩
  else
    let drained := Frame.drain max inbox.bytes
    ⟨drained.frames, drained.failure, .ofBytes drained.rest⟩

theorem decode_of_isIncomplete {max : Nat} {inbox : Inbox} (h : inbox.isIncomplete max = true) :
    Frame.decode max inbox.bytes = .incomplete := by
  unfold isIncomplete at h
  unfold Frame.decode
  split at h
  · next e hfront =>
    -- without a whole header in front there is nothing behind it
    have hshort := Nat.not_le.mpr (Frame.length_lt_of_takeUInt32 hfront)
    have hbytes : inbox.bytes = inbox.front := by simp [bytes, inbox.header_le.resolve_right hshort]
    simp [hbytes, hfront]
  · next length behind hfront =>
    simp only [Bool.and_eq_true, decide_eq_true_eq] at h
    rw [bytes, Frame.takeUInt32_append hfront]
    have hfrontLength := Frame.takeUInt32_eq_ok hfront
    have hsize := inbox.size_eq
    rw [List.length_flatten] at hsize
    have hsplit : Bytes.splitFirst? length.toNat (behind ++ inbox.later.reverse.flatten) = none := by
      rw [Bytes.splitFirst?_eq_none_iff]
      simp only [List.length_append, List.length_flatten, List.map_reverse, List.sum_reverse]
      simp only [Frame.headerLength] at h
      omega
    have hpositive : length.toNat ≠ 0 := by
      simp only [Frame.headerLength] at h
      omega
    have hmax : ¬max < length.toNat := by omega
    simp [Frame.checkLength, hpositive, hmax, hsplit]

/-- Draining an inbox takes out of it what draining its bytes takes off them. -/
theorem drain_eq (max : Nat) (inbox : Inbox) :
    Frame.drain max inbox.bytes =
      ⟨(inbox.drain max).frames, (inbox.drain max).failure, (inbox.drain max).inbox.bytes⟩ := by
  unfold drain
  split
  · next h =>
    unfold Frame.drain Frame.drainOnto
    split <;> simp_all [decode_of_isIncomplete h]
  · simp

end Inbox

end EventBus
