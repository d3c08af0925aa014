import EventBus.Frame.Reader
import EventBus.Proofs.Wire.RoundTrip

/-!
# Frames over a blocking stream

A frame comes off a stream as it was sent, however the stream is cut and interrupted.

* `exact_append`, `exact_of_short`: what is taken off a stream depends on its bytes only, and a stream with too few of
  them fails as it ends.
* `frame_of_short`, `frame_of_refused`, `frame_of_torn`, `frame_of_whole`: what is read off a stream, by how its bytes
  begin.
* `decode_of_frame`: a frame that is read is the one that decoding the bytes gives.
* `frame_encode`: a reader takes a frame off a stream that begins with its encoding, and leaves what is behind it.
-/

namespace EventBus.Frame.Reader

variable {n : Nat} {ending : StreamEnd} {reader : Reader}

/-- Arrivals one after the other bring their bytes one after the other. -/
theorem bytes_append (front back : List Arrival) :
    (Reader.mk (front ++ back) ending).bytes = (Reader.mk front ending).bytes ++ (Reader.mk back ending).bytes :=
  List.flatMap_append

/-- If enough bytes are to come, so many are taken, whatever the pieces and the interruptions. -/
theorem takeExact_eq {arrivals : List Arrival} (hpos : 0 < n) (henough : n ≤ (Reader.mk arrivals ending).bytes.length)
    (taken : List Bytes) :
    ∃ left, takeExact ending n taken arrivals
        = (.ok (taken.reverse.flatten ++ (Reader.mk arrivals ending).bytes.take n), left)
      ∧ (Reader.mk left ending).bytes = (Reader.mk arrivals ending).bytes.drop n := by
  -- `n` stays positive, so that a stream at its end has too few bytes
  induction arrivals generalizing n taken with
  | nil =>
    change n ≤ 0 at henough
    omega
  | cons arrival rest ih =>
    cases arrival with
    | interrupted => exact ih hpos henough taken
    | piece bytes =>
      have hbytes : (Reader.mk (.piece bytes :: rest) ending).bytes = bytes ++ (Reader.mk rest ending).bytes := rfl
      rw [hbytes, List.length_append] at henough
      rw [hbytes, takeExact]
      cases hsplit : Bytes.splitFirst? n bytes with
      | some parts =>
        obtain ⟨front, back⟩ := parts
        obtain ⟨rfl, rfl⟩ := Bytes.splitFirst?_eq_some_iff.mp hsplit
        refine ⟨if back.isEmpty then rest else .piece back :: rest, by simp, ?_⟩
        cases back <;> simp [Reader.bytes]
      | none =>
        -- the piece is taken whole, and the rest of the bytes comes off later ones
        have hshort := Bytes.splitFirst?_eq_none_iff.mp hsplit
        obtain ⟨left, htaken, hleft⟩ := ih (Nat.sub_pos_of_lt hshort) (by omega) (bytes :: taken)
        refine ⟨left, ?_, ?_⟩
        · dsimp only
          rw [htaken, List.take_append, List.take_of_length_le (Nat.le_of_lt hshort)]
          simp
        · rw [hleft, List.drop_append, List.drop_of_length_le (Nat.le_of_lt hshort), List.nil_append]

/-- Exactly the first bytes of a stream are taken off it. -/
theorem exact_append {front rest : Bytes} (hbytes : reader.bytes = front ++ rest) :
    ∃ left, reader.exact front.length = (.ok front, left) ∧ left.bytes = rest := by
  rw [Reader.exact]
  split
  · next hzero =>
    obtain rfl := List.length_eq_zero_iff.mp hzero
    exact ⟨reader, rfl, hbytes⟩
  · next hpos =>
    obtain ⟨arrivals, htaken, hleft⟩ := takeExact_eq (n := front.length) (Nat.pos_of_ne_zero hpos)
      (show front.length ≤ reader.bytes.length by rw [hbytes, List.length_append]; omega) []
    refine ⟨⟨arrivals, reader.ending⟩, ?_, hleft.trans (by rw [hbytes, List.drop_left])⟩
    rw [htaken, hbytes, List.take_left]
    rfl

/-- If too few bytes are to come, taking them fails as the stream ends, whatever the pieces and the interruptions. -/
theorem takeExact_of_short {arrivals : List Arrival} (h : (Reader.mk arrivals ending).bytes.length < n)
    (taken : List Bytes) : takeExact ending n taken arrivals = (.error (StreamEnd.error ending), []) := by
  induction arrivals generalizing n taken with
  | nil => rfl
  | cons arrival rest ih =>
    cases arrival with
    | interrupted => exact ih h taken
    | piece bytes =>
      have hbytes : (Reader.mk (.piece bytes :: rest) ending).bytes = bytes ++ (Reader.mk rest ending).bytes := rfl
      rw [hbytes, List.length_append] at h
      -- the piece is too short, and so is what comes behind it for the bytes that are still missing
      have hpiece : Bytes.splitFirst? n bytes = none := Bytes.splitFirst?_eq_none_iff.mpr (by omega)
      rw [takeExact, hpiece]
      exact ih (by omega) (bytes :: taken)

/-- With too few bytes a read fails as the stream ends. -/
theorem exact_of_short (h : reader.bytes.length < n) :
    ∃ left, reader.exact n = (.error (StreamEnd.error reader.ending), left) := by
  have hpos : n ≠ 0 := Nat.ne_zero_of_lt h
  have htaken := takeExact_of_short (show (Reader.mk reader.arrivals reader.ending).bytes.length < n from h) []
  exact ⟨{ reader with arrivals := [] }, by rw [Reader.exact, if_neg hpos, htaken]⟩

/-- Taking bytes off a stream does not change how it ends. -/
theorem ending_exact (n : Nat) (reader : Reader) : (reader.exact n).2.ending = reader.ending := by
  rw [Reader.exact]
  split <;> rfl

/-! ## Frames, by how the bytes begin -/

variable {max : Nat} {limit : Duration} {length : UInt32} {behind body rest : Bytes}

/-- The read of a frame without its header fails as the stream ends. -/
theorem frame_of_short (h : reader.bytes.length < headerLength) :
    ∃ left, reader.frame max limit = (.error (.ofIo (StreamEnd.error reader.ending) limit), left) := by
  obtain ⟨left, hexact⟩ := exact_of_short h
  exact ⟨left, by rw [Reader.frame, hexact]⟩

/-- The header is taken off first. -/
theorem exact_header (hbytes : reader.bytes = Bytes.be32 length ++ behind) :
    ∃ left, reader.exact headerLength = (.ok (Bytes.be32 length), left) ∧ left.bytes = behind
      ∧ left.ending = reader.ending ∧ takeUInt32 (Bytes.be32 length) = .ok (length, []) := by
  obtain ⟨left, hexact, hleft⟩ := exact_append hbytes
  have hending := ending_exact headerLength reader
  rw [Bytes.length_be32] at hexact
  rw [headerLength, hexact] at hending
  have htake := takeUInt32_be32 length []
  rw [List.append_nil] at htake
  exact ⟨left, hexact, hleft, hending, htake⟩

/-- A refused length fails as such, with nothing taken behind the header. -/
theorem frame_of_refused (hbytes : reader.bytes = Bytes.be32 length ++ behind) (h : IsRefused max length.toNat)
    (limit : Duration) :
    ∃ left, reader.frame max limit = (.error (lengthRefusal max length.toNat), left) ∧ left.bytes = behind := by
  obtain ⟨left, hexact, hleft, -, htake⟩ := exact_header hbytes
  refine ⟨left, ?_, hleft⟩
  simp only [Reader.frame, hexact, htake, checkLength_of_refused h]

/-- The read of a frame without its body fails as the stream ends. -/
theorem frame_of_torn (hbytes : reader.bytes = Bytes.be32 length ++ behind) (h : ¬IsRefused max length.toNat)
    (hshort : behind.length < length.toNat) (limit : Duration) :
    ∃ left, reader.frame max limit = (.error (.ofIo (StreamEnd.error reader.ending) limit), left) := by
  obtain ⟨afterHeader, hexact, rfl, hending, htake⟩ := exact_header hbytes
  obtain ⟨left, hbody⟩ := exact_of_short hshort
  refine ⟨left, ?_⟩
  simp only [Reader.frame, hexact, htake, checkLength_of_not_refused h, hbody, hending]

/-- A body of the length that is stated is read, and what is behind it stays. -/
theorem frame_of_whole (hbytes : reader.bytes = Bytes.be32 length ++ (body ++ rest)) (h : ¬IsRefused max length.toNat)
    (hlength : body.length = length.toNat) (limit : Duration) :
    ∃ left, reader.frame max limit = (ofBody body, left) ∧ left.bytes = rest := by
  obtain ⟨afterHeader, hexact, hbehind, -, htake⟩ := exact_header hbytes
  obtain ⟨left, hbody, hleft⟩ := exact_append hbehind
  rw [hlength] at hbody
  refine ⟨left, ?_, hleft⟩
  simp only [Reader.frame, hexact, htake, checkLength_of_not_refused h, hbody]

/-! ## Frames -/

/-- What is read off a stream is what decoding its bytes gives, and what that leaves. -/
theorem decode_of_frame {left : Reader} {frame : Frame} (h : reader.frame max limit = (.ok frame, left)) :
    decode max reader.bytes = .frame frame left.bytes := by
  generalize hbytes : reader.bytes = bytes
  -- by what stands at the front of the bytes; only the last case gives a frame
  cases opening max bytes with
  | short hshort =>
    obtain ⟨_, hframe⟩ := frame_of_short (hbytes ▸ hshort)
    cases h.symm.trans hframe
  | refused length behind hrefused =>
    obtain ⟨_, hframe, -⟩ := frame_of_refused hbytes hrefused limit
    cases h.symm.trans hframe
  | torn length behind haccepted hshort =>
    obtain ⟨_, hframe⟩ := frame_of_torn hbytes haccepted hshort limit
    cases h.symm.trans hframe
  | whole length body rest haccepted hlength =>
    obtain ⟨behind, hframe, rfl⟩ := frame_of_whole hbytes haccepted hlength limit
    obtain ⟨hbody, rfl⟩ := Prod.mk.inj (h.symm.trans hframe)
    rw [decode_of_whole haccepted hlength, ← hbody]

/-- A reader takes a frame off a stream that begins with its encoding, and leaves what is behind it. -/
theorem frame_encode {frame : Frame} (hfits : frame.body.length ≤ min max Bytes.maxLength)
    (hbytes : reader.bytes = frame.encode ++ rest) (limit : Duration) :
    ∃ left, reader.frame max limit = (.ok frame.asSent, left) ∧ left.bytes = rest := by
  obtain ⟨hmax, hle⟩ := Nat.le_min.mp hfits
  obtain ⟨length, hlength, hencode⟩ := exists_encode hle
  have haccepted : ¬IsRefused max length.toNat := hlength ▸ not_isRefused_body hmax
  rw [hencode, List.append_assoc] at hbytes
  rw [← ofBody_body hle]
  exact frame_of_whole hbytes haccepted hlength.symm limit

end EventBus.Frame.Reader
