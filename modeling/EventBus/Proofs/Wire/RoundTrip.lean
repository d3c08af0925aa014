import EventBus.Proofs.Wire.Codec
import EventBus.Proofs.Wire.Openings
import Mathlib.Data.List.Forall2

/-!
# Frames over a buffer

Frames that are encoded one after the other into a buffer come out of it in the same order, and what is
behind them stays.

* `decode_encode`: one frame behind its own encoding, for any bytes that follow.
* `decodeTimes` makes a number of decode calls one after the other; `decodeTimes_encode` is the induction
  over the list of frames.
* `decodeTimes_flatMap_encode`: the round trip. A frame arrives as it was sent (`Arrives`), except that
  a name longer than its length field can state arrives as its longest front that fits.
-/

namespace EventBus.Frame

/-! ## One frame -/

variable {max : Nat} {frame : Frame}

/-- A frame is sent behind a number that states the length of its body. -/
theorem exists_encode (h : frame.body.length ≤ Bytes.maxLength) :
    ∃ length : UInt32, length.toNat = frame.body.length ∧ frame.encode = Bytes.be32 length ++ frame.body :=
  ⟨_, Bytes.toNat_of_lengthField h, rfl⟩

/-- A body is not empty, so a receiver that takes so many bytes accepts its length. -/
theorem not_isRefused_body (h : frame.body.length ≤ max) : ¬IsRefused max frame.body.length :=
  not_isRefused_iff.mpr ⟨List.length_pos_iff.mpr frame.body_ne_nil, h⟩

/-- A frame is decoded from the front of its own encoding, and what is behind it stays. -/
theorem decode_encode (h : frame.body.length ≤ min max Bytes.maxLength) (rest : Bytes) :
    decode max (frame.encode ++ rest) = .frame frame.asSent rest := by
  obtain ⟨hmax, hle⟩ := Nat.le_min.mp h
  obtain ⟨length, hlength, hencode⟩ := exists_encode hle
  have haccepted : ¬IsRefused max length.toNat := hlength ▸ not_isRefused_body hmax
  rw [hencode, List.append_assoc, decode_of_whole haccepted hlength.symm, ofBody_body hle]

/-! ## Several frames -/

/-- The frames that a number of decode calls give one after the other, and what they leave in the buffer;
`none` if one of them gives no frame. -/
def decodeTimes (max : Nat) : Nat → Bytes → Option (List Frame × Bytes)
  | 0, buffer => some ([], buffer)
  | n + 1, buffer =>
    match decode max buffer with
    | .frame frame rest => (decodeTimes max n rest).map fun (frames, left) => (frame :: frames, left)
    | .incomplete | .failed .. => none

/-- By induction along the frames: each call takes one off the front. -/
theorem decodeTimes_encode {max : Nat} {frames : List Frame}
    (h : ∀ frame ∈ frames, frame.body.length ≤ min max Bytes.maxLength) (rest : Bytes) :
    decodeTimes max frames.length (frames.flatMap encode ++ rest) = some (frames.map asSent, rest) := by
  induction frames with
  | nil => rfl
  | cons frame frames ih =>
    -- behind the first frame stand the encodings of the others, and then `rest`
    have hfirst := decode_encode (h frame List.mem_cons_self) (frames.flatMap encode ++ rest)
    have hlater := ih fun other hother => h other (List.mem_cons_of_mem _ hother)
    rw [List.flatMap_cons, List.append_assoc, List.length_cons, decodeTimes, hfirst]
    simp only [hlater, Option.map_some, List.map_cons]

/-- How a frame arrives: as it was sent, but for a name that its length field cannot state. -/
inductive Arrives : Frame → Frame → Prop where
  | whole (frame : Frame) (hname : ∀ id name, frame = .hello id name → (Text.utf8 name).length ≤ 65535) :
    Arrives frame frame
  /-- It arrives with the longest front of its name that the field can state. -/
  | cut (id : SubscriberId) (name front : String) (hlong : 65535 < (Text.utf8 name).length)
    (hfront : Text.IsLongestFront 65535 name front) : Arrives (.hello id name) (.hello id front)

/-- A frame arrives as it was sent; only a name may have been cut. -/
theorem arrives_asSent (frame : Frame) : Arrives frame frame.asSent := by
  cases frame with
  | hello id name =>
    by_cases hfits : (Text.utf8 name).length ≤ 65535
    · rw [asSent, sentName_of_le hfits]
      refine .whole _ fun id' name' heq => ?_
      rw [hello.injEq] at heq
      exact heq.2 ▸ hfits
    · exact .cut id name _ (Nat.lt_of_not_le hfits) (isLongestFront_sentName name)
  | helloAck | push | request | reply => exact .whole _ (by nofun)

/-- **The round trip.** Of frames whose bodies a receiver accepts, encoded one after the other in front of
any bytes, as many decode calls as there are frames give all of them in their order, as they arrive, and
leave what was behind them. -/
theorem decodeTimes_flatMap_encode (max : Nat) (frames : List Frame) (rest : Bytes)
    (h : ∀ frame ∈ frames, frame.body.length ≤ min max (UInt32.size - 1)) :
    ∃ received, decodeTimes max frames.length (frames.flatMap encode ++ rest) = some (received, rest)
      ∧ List.Forall₂ Arrives frames received := by
  refine ⟨frames.map asSent, decodeTimes_encode h rest, ?_⟩
  rw [List.forall₂_map_right_iff, List.forall₂_same]
  exact fun frame _ => arrives_asSent frame

/-- An announcement, a request with an out-structure and an answer in front of bytes that are no frame. -/
theorem decodeTimes_three_frames :
    (∀ frame ∈ ([.hello ⟨7⟩ "é漢", .request ⟨⟨7⟩, 3, [1, 2]⟩ (some ⟨4294967295, [9]⟩), .helloAck ⟨-1⟩] : List Frame),
        frame.body.length ≤ min 25 (UInt32.size - 1))
      ∧ ∃ received,
        decodeTimes 25 3
            (([.hello ⟨7⟩ "é漢", .request ⟨⟨7⟩, 3, [1, 2]⟩ (some ⟨4294967295, [9]⟩), .helloAck ⟨-1⟩] :
              List Frame).flatMap encode ++ [0, 0, 0])
          = some (received, [0, 0, 0])
        ∧ List.Forall₂ Arrives
            [.hello ⟨7⟩ "é漢", .request ⟨⟨7⟩, 3, [1, 2]⟩ (some ⟨4294967295, [9]⟩), .helloAck ⟨-1⟩] received := by
  have hfits : ∀ frame ∈ ([.hello ⟨7⟩ "é漢", .request ⟨⟨7⟩, 3, [1, 2]⟩ (some ⟨4294967295, [9]⟩),
      .helloAck ⟨-1⟩] : List Frame), frame.body.length ≤ min 25 (UInt32.size - 1) := by
    decide +kernel
  exact ⟨hfits, decodeTimes_flatMap_encode 25 _ [0, 0, 0] hfits⟩

end EventBus.Frame
