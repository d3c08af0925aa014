import EventBus.Bytes

/-!
# Byte streams

What was sent over a stream and has not been read yet. Bytes are added at the back, in pieces, and read at
the front, as many at a time as the reader likes. The pieces are put together only when a reader gets to
them, so that many small ones that wait cost no more than a large one.

Main statements: adding a piece appends it to the bytes (`bytes_push`), and reading takes a first part off
them (`take_eq`, `bytes_drop`).
-/

namespace EventBus

/-- Bytes on their way to a reader. -/
structure ByteStream where
  front : Bytes := []
  /-- The pieces behind it, newest first. -/
  later : List Bytes := []
  size : Nat := 0
  size_eq : size = front.length + later.flatten.length := by simp
  later_eq : front = [] → later = [] := by simp

namespace ByteStream

/-- All bytes, in the order in which they were sent. -/
def bytes (s : ByteStream) : Bytes :=
  s.front ++ s.later.reverse.flatten

def empty : ByteStream := {}

def isEmpty (s : ByteStream) : Bool :=
  s.front.isEmpty

def push (piece : Bytes) (s : ByteStream) : ByteStream :=
  if h : s.front = [] then
    { front := piece, size := piece.length }
  else
    { front := s.front
      later := piece :: s.later
      size := s.size + piece.length
      size_eq := by
        simp only [s.size_eq, List.flatten_cons, List.length_append]
        omega
      later_eq := fun h' => absurd h' h }

/-- The first `n` bytes, or all if there are fewer. -/
def take (n : Nat) (s : ByteStream) : Bytes :=
  if Bytes.hasAtLeast n s.front then s.front.take n else s.bytes.take n

theorem size_eq_length (s : ByteStream) : s.size = s.bytes.length := by
  simp [bytes, s.size_eq, List.length_flatten, List.sum_reverse]

/-- What is left behind the first `n` bytes. -/
def drop (n : Nat) (s : ByteStream) : ByteStream :=
  if h : Bytes.hasAtLeast (n + 1) s.front then
    { front := s.front.drop n
      later := s.later
      size := s.size - n
      size_eq := by
        have hle := Bytes.hasAtLeast_iff.mp h
        simp only [s.size_eq, List.length_drop]
        omega
      later_eq := by
        have hle := Bytes.hasAtLeast_iff.mp h
        intro hnil
        have hlength := congrArg List.length hnil
        simp only [List.length_drop, List.length_nil] at hlength
        omega }
  else
    { front := s.bytes.drop n
      size := s.size - n
      size_eq := by simp [s.size_eq_length] }

/-! ## Through the bytes -/

theorem isEmpty_iff (s : ByteStream) : s.isEmpty = true ↔ s.bytes = [] := by
  constructor
  · intro h
    have hfront : s.front = [] := List.isEmpty_iff.mp h
    simp [bytes, hfront, s.later_eq hfront]
  · intro h
    exact List.isEmpty_iff.mpr (List.append_eq_nil_iff.mp h).1

@[simp]
theorem bytes_push (piece : Bytes) (s : ByteStream) : (s.push piece).bytes = s.bytes ++ piece := by
  unfold push
  split
  · next h => simp [bytes, h, s.later_eq h]
  · simp [bytes]

theorem take_eq (n : Nat) (s : ByteStream) : s.take n = s.bytes.take n := by
  unfold take
  split
  · next h => rw [bytes, List.take_append_of_le_length (Bytes.hasAtLeast_iff.mp h)]
  · rfl

@[simp]
theorem bytes_drop (n : Nat) (s : ByteStream) : (s.drop n).bytes = s.bytes.drop n := by
  unfold drop
  split
  · next h =>
    have hle : n ≤ s.front.length := Nat.le_of_succ_le (Bytes.hasAtLeast_iff.mp h)
    simp [bytes, List.drop_append_of_le_length hle]
  · simp [bytes]

end ByteStream

end EventBus
