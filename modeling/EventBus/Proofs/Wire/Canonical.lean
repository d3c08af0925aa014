import EventBus.Proofs.Wire.RoundTrip

/-!
# One encoding for each frame

Whatever is read as a part of a frame is the encoding of what was read, so a frame that was decoded can be sent on
byte for byte.

* **Fields**: for each reader, `take..._eq_ok` says which bytes it took. A length field states the number of bytes
  behind it, an out-structure is marked by zero or one, and a name that was read is no longer than its field can state.
* **Bodies**: `eq_body_of_ofBody`. Nothing is left behind the fields, so the body is that of the frame.
* **Frames**: `decode_eq_frame_iff`. `decode_canonical` is what it comes to: a decoded frame stands in front of
  the buffer as it is encoded, and decoding accepts what encoding produces, and nothing else.
-/

namespace EventBus

namespace Frame

variable {bytes rest : Bytes}

/-- A reader that goes on with another one has read with both. -/
theorem bind_eq_ok {α β : Type} {x : Except TransportError α} {f : α → Except TransportError β} {b : β}
    (h : x >>= f = .ok b) : ∃ a, x = .ok a ∧ f a = .ok b := by
  cases x with
  | error e => cases h
  | ok a => exact ⟨a, rfl, h⟩

/-! ## Fields -/

theorem takeBytes_eq_ok {n : Nat} {front : Bytes} (h : takeBytes n bytes = .ok (front, rest)) :
    bytes = front ++ rest ∧ front.length = n := by
  unfold takeBytes at h
  split at h
  · next parts hsplit =>
    cases h
    exact Bytes.splitFirst?_eq_some_iff.mp hsplit
  · cases h

/-- A length field that was read states the number of bytes that were taken behind it, and is the field that is written
for them. -/
theorem takeBlock_eq_ok {behind : Bytes} {length : UInt32} {front : Bytes}
    (hlength : takeUInt32 bytes = .ok (length, behind))
    (hfront : takeBytes length.toNat behind = .ok (front, rest)) :
    bytes = Bytes.lengthField front.length ++ (front ++ rest) ∧ front.length ≤ Bytes.maxLength := by
  obtain ⟨rfl, hstated⟩ := takeBytes_eq_ok hfront
  have hfits : front.length ≤ Bytes.maxLength := by
    have hlt := length.toNat_lt
    show front.length ≤ 4294967295
    omega
  refine ⟨?_, hfits⟩
  rw [takeUInt32_eq_be32 hlength, Bytes.lengthField, Nat.min_eq_left hfits, hstated, UInt32.ofNat_toNat]

/-- A status that was read stood in front, as it is encoded. -/
theorem takeStatus_eq_ok {status : Status} (h : takeStatus bytes = .ok (status, rest)) :
    bytes = Bytes.be32 status.code.toUInt32 ++ rest := by
  unfold takeStatus at h
  cases hcode : takeUInt32 bytes with
  | error e =>
    rw [hcode] at h
    cases h
  | ok parts =>
    rw [hcode] at h
    cases h
    show bytes = Bytes.be32 parts.1.toInt32.toUInt32 ++ parts.2
    rw [UInt32.toUInt32_toInt32]
    exact takeUInt32_eq_be32 hcode

theorem takeEnvelope_eq_ok {envelope : Envelope} (h : takeEnvelope bytes = .ok (envelope, rest)) :
    bytes = envelopeBytes envelope ++ rest := by
  obtain ⟨⟨origin, bytes₁⟩, horigin, h⟩ := bind_eq_ok h
  obtain ⟨⟨code, bytes₂⟩, hcode, h⟩ := bind_eq_ok h
  obtain ⟨⟨length, bytes₃⟩, hlength, h⟩ := bind_eq_ok h
  obtain ⟨⟨payload, bytes₄⟩, hpayload, h⟩ := bind_eq_ok h
  cases h
  obtain ⟨hblock, -⟩ := takeBlock_eq_ok hlength hpayload
  rw [takeUInt32_eq_be32 horigin, takeUInt16_eq_be16 hcode, hblock]
  simp only [envelopeBytes, List.append_assoc]

/-- An out-structure that was read stood in front, as it is encoded. Its mark was zero or one. -/
theorem takeOut_eq_ok {out : Option EventOut} (h : takeOut bytes = .ok (out, rest)) : bytes = outBytes out ++ rest := by
  unfold takeOut at h
  split at h
  · cases h
  · cases h
    rfl
  · next behind =>
    obtain ⟨⟨checksum, bytes₁⟩, hchecksum, h⟩ := bind_eq_ok h
    obtain ⟨⟨length, bytes₂⟩, hlength, h⟩ := bind_eq_ok h
    obtain ⟨⟨data, bytes₃⟩, hdata, h⟩ := bind_eq_ok h
    cases h
    obtain ⟨hblock, -⟩ := takeBlock_eq_ok hlength hdata
    rw [takeUInt32_eq_be32 hchecksum, hblock]
    simp only [outBytes, List.cons_append, List.append_assoc]
  · cases h

/-- An announcement that was read has a name that its field can state, so it is sent as it was read. -/
theorem takeHello_eq_ok {frame : Frame} (h : takeHello bytes = .ok (frame, rest)) :
    1 :: bytes = frame.body ++ rest ∧ frame.asSent = frame := by
  obtain ⟨⟨id, bytes₁⟩, hid, h⟩ := bind_eq_ok h
  obtain ⟨⟨length, bytes₂⟩, hlength, h⟩ := bind_eq_ok h
  obtain ⟨⟨name, bytes₃⟩, hname, h⟩ := bind_eq_ok h
  dsimp only at h
  split at h
  · next text htext =>
    cases h
    obtain rfl := Text.ofUtf8?_eq_some_iff.mp htext
    obtain ⟨rfl, hstated⟩ := takeBytes_eq_ok hname
    -- the length field has two bytes, so a name that was received is never one that is cut
    have hfits : (Text.utf8 text).length ≤ maxName := by
      have hlt := length.toNat_lt
      show (Text.utf8 text).length ≤ 65535
      omega
    have hsent := sentName_of_le hfits
    refine ⟨?_, by rw [asSent, hsent]⟩
    rw [takeUInt32_eq_be32 hid, takeUInt16_eq_be16 hlength]
    simp only [body, hsent, hstated, UInt16.ofNat_toNat, List.cons_append, List.append_assoc]
  · cases h

/-! ## Bodies -/

/-- The fields that were read, behind the byte that gives their kind, are those of the frame. -/
theorem takeFields_eq_ok {tag : UInt8} {frame : Frame} (h : takeFields tag bytes = .ok (frame, rest)) :
    tag :: bytes = frame.body ++ rest ∧ frame.asSent = frame := by
  unfold takeFields at h
  split at h
  -- one case for each tag; the last one is for tags that name no frame
  · exact takeHello_eq_ok h
  · cases hstatus : takeStatus bytes with
    | error e =>
      rw [hstatus] at h
      cases h
    | ok parts =>
      rw [hstatus] at h
      cases h
      exact ⟨congrArg (2 :: ·) (takeStatus_eq_ok hstatus), rfl⟩
  · cases henvelope : takeEnvelope bytes with
    | error e =>
      rw [henvelope] at h
      cases h
    | ok parts =>
      rw [henvelope] at h
      cases h
      exact ⟨congrArg (3 :: ·) (takeEnvelope_eq_ok henvelope), rfl⟩
  · obtain ⟨⟨envelope, bytes₁⟩, henvelope, h⟩ := bind_eq_ok h
    obtain ⟨⟨out, bytes₂⟩, hout, h⟩ := bind_eq_ok h
    cases h
    refine ⟨?_, rfl⟩
    rw [takeEnvelope_eq_ok henvelope, takeOut_eq_ok hout]
    simp only [body, List.cons_append, List.append_assoc]
  · obtain ⟨⟨status, bytes₁⟩, hstatus, h⟩ := bind_eq_ok h
    obtain ⟨⟨out, bytes₂⟩, hout, h⟩ := bind_eq_ok h
    cases h
    refine ⟨?_, rfl⟩
    rw [takeStatus_eq_ok hstatus, takeOut_eq_ok hout]
    simp only [body, List.cons_append, List.append_assoc]
  · cases h

/-- A body that was read is the body of the frame. -/
theorem eq_body_of_ofBody {frame : Frame} (h : ofBody bytes = .ok frame) :
    bytes = frame.body ∧ frame.asSent = frame := by
  cases bytes with
  | nil => cases h
  | cons tag fields =>
    obtain ⟨⟨read, behind⟩, hfields, h⟩ := bind_eq_ok h
    dsimp only at h
    split at h
    · next hempty =>
      cases h
      obtain rfl := List.isEmpty_iff.mp hempty
      obtain ⟨hbody, hsent⟩ := takeFields_eq_ok hfields
      rw [List.append_nil] at hbody
      exact ⟨hbody, hsent⟩
    · cases h

/-! ## Frames -/

variable {max : Nat} {buffer : Bytes} {frame : Frame}

/-- What decoding a frame takes off the buffer is the frame as it is encoded. -/
theorem eq_encode_of_decode (h : decode max buffer = .frame frame rest) :
    buffer = frame.encode ++ rest ∧ frame.body.length ≤ min max Bytes.maxLength ∧ frame.asSent = frame := by
  cases opening max buffer with
  | short hshort =>
    rw [decode_of_short hshort] at h
    cases h
  | refused length behind hrefused =>
    rw [decode_of_refused hrefused] at h
    cases h
  | torn length behind haccepted hshort =>
    rw [decode_of_torn haccepted hshort] at h
    cases h
  -- a frame comes only of a whole body
  | whole length body behind haccepted hlength =>
    rw [decode_of_whole haccepted hlength] at h
    cases hbody : ofBody body with
    | error e =>
      rw [hbody] at h
      cases h
    | ok read =>
      rw [hbody] at h
      cases h
      obtain ⟨rfl, hsent⟩ := eq_body_of_ofBody hbody
      have hmax := (not_isRefused_iff.mp haccepted).2
      have hfits : frame.body.length ≤ Bytes.maxLength := by
        have hlt := length.toNat_lt
        show frame.body.length ≤ 4294967295
        omega
      refine ⟨?_, by omega, hsent⟩
      rw [encode, Bytes.lengthField, Nat.min_eq_left hfits, hlength, UInt32.ofNat_toNat, List.append_assoc]

/-- A frame is decoded exactly from a buffer that begins with its encoding, if its body is not too large, and if no
name in it is. -/
theorem decode_eq_frame_iff : decode max buffer = .frame frame rest
    ↔ buffer = frame.encode ++ rest ∧ frame.body.length ≤ min max Bytes.maxLength ∧ frame.asSent = frame := by
  refine ⟨eq_encode_of_decode, ?_⟩
  rintro ⟨rfl, hfits, hsent⟩
  rw [decode_encode hfits, hsent]

/-- **One encoding for each frame.** A decoded frame is encoded with the bytes that were taken off the buffer for it, so
no other bytes give the same frame, and decoding accepts exactly the encodings of frames whose bodies fit. -/
theorem decode_canonical (max : Nat) :
    (∀ buffer frame rest, decode max buffer = .frame frame rest → buffer = frame.encode ++ rest)
      ∧ (∀ max' frame taken taken' rest rest', decode max (taken ++ rest) = .frame frame rest →
          decode max' (taken' ++ rest') = .frame frame rest' → taken = taken')
      ∧ ∀ taken rest, (∃ frame, decode max (taken ++ rest) = .frame frame rest)
          ↔ ∃ sent : Frame, taken = sent.encode ∧ sent.body.length ≤ min max (UInt32.size - 1) := by
  -- what stands in front of the rest is what was taken
  have htaken : ∀ {max taken rest frame}, decode max (taken ++ rest) = .frame frame rest →
      taken = frame.encode ∧ frame.body.length ≤ min max Bytes.maxLength := by
    intro max taken rest frame h
    obtain ⟨hbuffer, hfits, -⟩ := eq_encode_of_decode h
    exact ⟨List.append_cancel_right hbuffer, hfits⟩
  refine ⟨fun buffer frame rest h => (eq_encode_of_decode h).1, ?_, fun taken rest => ⟨?_, ?_⟩⟩
  · intro max' frame taken taken' rest rest' h h'
    rw [(htaken h).1, (htaken h').1]
  · rintro ⟨frame, h⟩
    exact ⟨frame, htaken h⟩
  · rintro ⟨sent, rfl, hfits⟩
    -- a name that is too long for its field arrives cut
    exact ⟨sent.asSent, decode_encode hfits rest⟩

/-- Bytes behind the fields make a body that is none, though it begins with one. -/
example : ofBody ((Frame.helloAck .ok).body ++ [0]) = .error (.invalidFrame "trailing bytes") := by rfl

end Frame

end EventBus
