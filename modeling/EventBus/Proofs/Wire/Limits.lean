import EventBus.Proofs.Wire.Unambiguous

/-!
# Limits of frames

The sender of a frame and its receiver have the same limit, and neither takes what the other one refuses.

* `IsBlock`, `IsEnvelope`, `IsOut`, `IsBody`, `IsEncoding`: the bytes of each part of a frame when every length field in
  it states exactly how many bytes are behind it. No length is saturated.
* `isBody_body`: a body that its own length field can state is of this form, as no part of it is longer than the whole.
* `decode_encode_iff`: of all frames, however large, a receiver decodes the encodings of those that fit, and of no other
  ones.
* `encodeWithin_agrees` is what it comes to for a sender that has the limit of the receiver.
-/

namespace EventBus.Frame

/-! ## Lengths that are stated exactly -/

/-- Bytes with a length in front that is exactly theirs. -/
def IsBlock (data bytes : Bytes) : Prop :=
  ∃ length : UInt32, length.toNat = data.length ∧ bytes = Bytes.be32 length ++ data

/-- The bytes of an envelope, whose payload is a block. -/
inductive IsEnvelope : Envelope → Bytes → Prop where
  | envelope {origin : SubscriberId} {code : UInt16} {payload block : Bytes} (hpayload : IsBlock payload block) :
    IsEnvelope ⟨origin, code, payload⟩ (Bytes.be32 origin.raw ++ Bytes.be16 code ++ block)

/-- The bytes of an out-structure, with the mark in front that there is one, or none. -/
inductive IsOut : Option EventOut → Bytes → Prop where
  | none : IsOut none [0]
  | some {checksum : UInt32} {data block : Bytes} (hdata : IsBlock data block) :
    IsOut (some ⟨checksum, data⟩) (1 :: Bytes.be32 checksum ++ block)

/-- The bytes of a body in which every length is exact. -/
inductive IsBody : Frame → Bytes → Prop where
  /-- The length of a name is that of the part of it that is sent. -/
  | hello {id : SubscriberId} {name sent : String} {length : UInt16} (hsent : Text.IsLongestFront 65535 name sent)
      (hlength : length.toNat = (Text.utf8 sent).length) :
    IsBody (.hello id name) (1 :: Bytes.be32 id.raw ++ Bytes.be16 length ++ Text.utf8 sent)
  | helloAck {status : Status} : IsBody (.helloAck status) (2 :: Bytes.be32 status.code.toUInt32)
  | push {envelope : Envelope} {bytes : Bytes} (henvelope : IsEnvelope envelope bytes) :
    IsBody (.push envelope) (3 :: bytes)
  | request {envelope : Envelope} {out : Option EventOut} {bytes behind : Bytes} (henvelope : IsEnvelope envelope bytes)
      (hout : IsOut out behind) :
    IsBody (.request envelope out) (4 :: bytes ++ behind)
  | reply {status : Status} {out : Option EventOut} {bytes : Bytes} (hout : IsOut out bytes) :
    IsBody (.reply status out) (5 :: Bytes.be32 status.code.toUInt32 ++ bytes)

/-- The bytes of a frame in which every length is exact. -/
def IsEncoding (frame : Frame) (bytes : Bytes) : Prop :=
  ∃ body, IsBody frame body ∧ IsBlock body bytes

/-- A length that the field can state is stated exactly. -/
theorem isBlock_lengthField {data : Bytes} (h : data.length ≤ Bytes.maxLength) :
    IsBlock data (Bytes.lengthField data.length ++ data) :=
  ⟨_, Bytes.toNat_of_lengthField h, rfl⟩

/-- An envelope is encoded with the exact length of its payload. -/
theorem isEnvelope_envelopeBytes {envelope : Envelope} (h : envelope.payload.length ≤ Bytes.maxLength) :
    IsEnvelope envelope (envelopeBytes envelope) := by
  rw [envelopeBytes, List.append_assoc]
  exact .envelope (isBlock_lengthField h)

theorem isOut_outBytes {out : Option EventOut} (h : ∀ o ∈ out, o.data.length < Bytes.maxLength) :
    IsOut out (outBytes out) := by
  cases out with
  | none => exact .none
  | some out =>
    rw [outBytes, List.append_assoc]
    exact .some (isBlock_lengthField (Nat.le_of_lt (h out rfl)))

variable {frame : Frame}

/-- In a body that its own length field can state, every length is exact. -/
theorem isBody_body (h : frame.body.length ≤ Bytes.maxLength) : IsBody frame frame.body := by
  cases frame with
  | hello id name =>
    exact .hello (isLongestFront_sentName name) (UInt16.toNat_ofNat_of_lt' (length_sentName_lt name))
  | helloAck status => exact .helloAck
  | push envelope =>
    simp only [body, List.length_cons, length_envelopeBytes] at h
    exact .push (isEnvelope_envelopeBytes (by omega))
  | request envelope out =>
    simp only [body, List.cons_append, List.length_cons, List.length_append, length_envelopeBytes] at h
    exact .request (isEnvelope_envelopeBytes (by omega)) (isOut_outBytes (length_data_lt (by omega)))
  | reply status out =>
    simp only [body, List.cons_append, List.length_cons, List.length_append, Bytes.length_be32] at h
    exact .reply (isOut_outBytes (length_data_lt (by omega)))

/-- A frame whose body is not too long is encoded with its exact lengths. -/
theorem isEncoding_encode (h : frame.body.length ≤ Bytes.maxLength) : IsEncoding frame frame.encode :=
  ⟨frame.body, isBody_body h, isBlock_lengthField h⟩

/-! ## Limits -/

/-- A receiver decodes the encoding of a frame exactly if its body fits. One that is too large for its length field is
cut by the length that it states, and no body begins with another one. -/
theorem decode_encode_iff {max : Nat} {rest : Bytes} :
    (∃ received behind, decode max (frame.encode ++ rest) = .frame received behind)
      ↔ frame.body.length ≤ min max Bytes.maxLength := by
  constructor
  · rintro ⟨received, behind, h⟩
    obtain ⟨hbytes, hfits, -⟩ := eq_encode_of_decode h
    obtain ⟨hsame, -⟩ := encode_inj (Nat.le_trans hfits (Nat.min_le_right ..)) hbytes.symm
    rwa [← hsame]
  · intro hfits
    exact ⟨frame.asSent, rest, decode_encode hfits rest⟩

/-- **The limits of sender and receiver agree.** A sender takes a frame exactly if its body is no longer than its limit
and than a length field can state. What it sends then has no saturated length in it, and a receiver with the same limit
decodes it to the frame, with nothing left over. A frame is refused with the size of its body and that limit, and a
receiver would not have taken it either, whatever follows it. -/
theorem encodeWithin_agrees (max : Nat) (frame : Frame) :
    ((∃ bytes, frame.encodeWithin max = .ok bytes) ↔ frame.body.length ≤ min max (UInt32.size - 1))
      ∧ (∀ bytes, frame.encodeWithin max = .ok bytes → IsEncoding frame bytes
          ∧ ∃ received, decode max bytes = .frame received [] ∧ Arrives frame received)
      ∧ (∀ e, frame.encodeWithin max = .error e →
          e = .frameTooLarge frame.body.length (min max (UInt32.size - 1)))
      ∧ ∀ rest, (∃ received behind, decode max (frame.encode ++ rest) = .frame received behind)
          ↔ frame.body.length ≤ min max (UInt32.size - 1) := by
  refine ⟨⟨?_, fun hfits => ⟨frame.encode, encodeWithin_eq_ok_iff.mpr ⟨hfits, rfl⟩⟩⟩, ?_, ?_, ?_⟩
  · rintro ⟨bytes, h⟩
    exact (encodeWithin_eq_ok_iff.mp h).1
  · intro bytes h
    obtain ⟨hfits, rfl⟩ := encodeWithin_eq_ok_iff.mp h
    have hdecode := decode_encode hfits []
    rw [List.append_nil] at hdecode
    exact ⟨isEncoding_encode (Nat.le_trans hfits (Nat.min_le_right ..)), frame.asSent, hdecode, arrives_asSent frame⟩
  · intro e h
    exact (encodeWithin_eq_error_iff.mp h).2
  · intro rest
    -- the receiver goes by the length alone, so bytes behind the frame do not matter
    exact decode_encode_iff

/-- A body of five bytes passes a limit of five, and none below. -/
example : (Frame.helloAck ⟨-1⟩).encodeWithin 5 = .ok [0, 0, 0, 5, 2, 255, 255, 255, 255]
    ∧ (Frame.helloAck ⟨-1⟩).encodeWithin 4 = .error (.frameTooLarge 5 4) := by
  exact ⟨by rfl, by rfl⟩

end EventBus.Frame
