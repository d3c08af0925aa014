import EventBus.Proofs.Wire.Draining
import EventBus.Proofs.Wire.Stream
import EventBus.Proofs.Wire.Unambiguous

/-!
# First parts of what was sent

What a receiver sees when only a first part of what was sent has reached it.

* `drain_frames_prefix`: of frames that were sent one behind the other, a first part of their bytes gives a first part
  of the frames, however much the receiver takes at a time.
* `decode_front`: of one frame, a frame is decoded only when it is there as a whole. It is the frame as it was sent then,
  and nothing is left behind it. A frame that its length field cannot state is never decoded.
* `eq_of_frame`: the same of a reply that is read off a stream.
-/

namespace EventBus

/-- What stands at a position of a first part stands there in the whole. -/
theorem getElem?_of_front {α : Type} {front whole : List α} (h : front <+: whole) {i : Nat} {a : α}
    (ha : front[i]? = some a) : whole[i]? = some a := by
  obtain ⟨rest, rfl⟩ := h
  rw [List.getElem?_append_left (List.getElem?_eq_some_iff.mp ha).1]
  exact ha

namespace Frame

variable {max : Nat} {frame : Frame}

/-! ## Frames over a buffer -/

/-- A frame that is too large for its receiver is refused, whatever follows. -/
theorem decode_encode_of_large (hlarge : max < frame.body.length) (hle : frame.body.length ≤ Bytes.maxLength)
    (rest : Bytes) : ∃ e, decode max (frame.encode ++ rest) = .failed e (frame.encode ++ rest) := by
  obtain ⟨length, hlength, hencode⟩ := exists_encode hle
  have hrefused : IsRefused max length.toNat := .inr (hlength ▸ hlarge)
  rw [hencode, List.append_assoc]
  exact ⟨_, decode_of_refused hrefused _⟩

/-- A first part of the bytes of frames gives a first part of the frames. -/
theorem drain_frames_prefix {frames : List Frame} (hframes : ∀ frame ∈ frames, frame.body.length ≤ Bytes.maxLength)
    {bytes : Bytes} (h : bytes <+: frames.flatMap encode) : (drain max bytes).frames <+: frames.map asSent := by
  induction frames generalizing bytes with
  | nil =>
    obtain rfl := List.prefix_nil.mp h
    have hnothing : (drain max []).frames = [] := by rw [drain_of_incomplete rfl]
    exact List.prefix_nil.mpr hnothing
  | cons first frames ih =>
    obtain ⟨hfirst, hframes⟩ := List.forall_mem_cons.mp hframes
    obtain ⟨more, hmore⟩ := h
    rw [List.flatMap_cons] at hmore
    -- either the first frame is not there as a whole, or draining goes on behind it
    cases hdecode : decode max bytes with
    | incomplete =>
      rw [drain_of_incomplete hdecode]
      exact List.nil_prefix
    | failed e rest =>
      rw [drain_of_failed hdecode]
      exact List.nil_prefix
    | frame read rest =>
      -- with the bytes that are missing it is the first frame that is read, and it is read alike
      have hwhole := decode_append_of_frame hdecode more
      rw [hmore] at hwhole
      by_cases hmax : first.body.length ≤ max
      · rw [decode_encode (by omega), Decoded.frame.injEq] at hwhole
        obtain ⟨rfl, hrest⟩ := hwhole
        rw [drain_of_frame hdecode, List.map_cons]
        exact List.cons_prefix_cons.mpr ⟨rfl, ih hframes ⟨more, hrest.symm⟩⟩
      · obtain ⟨e, hfailed⟩ := decode_encode_of_large (Nat.lt_of_not_le hmax) hfirst (frames.flatMap encode)
        rw [hfailed] at hwhole
        cases hwhole

/-- A frame is decoded from the first bytes of another one only when all of them are there. It is the other one as it
was sent. -/
theorem decode_front {bytes rest : Bytes} {sent : Frame} (hbytes : bytes <+: sent.encode)
    (h : decode max bytes = .frame frame rest) :
    frame = sent.asSent ∧ bytes = sent.encode ∧ rest = [] ∧ sent.body.length ≤ min max Bytes.maxLength := by
  obtain ⟨rfl, hfits, hframe⟩ := eq_encode_of_decode h
  obtain ⟨more, hmore⟩ := hbytes
  have hle : frame.body.length ≤ Bytes.maxLength := Nat.le_trans hfits (Nat.min_le_right ..)
  have hsplit : frame.encode ++ (rest ++ more) = sent.encode ++ [] := by
    rw [List.append_nil, ← List.append_assoc]
    exact hmore
  obtain ⟨hbody, hnothing⟩ := encode_inj hle hsplit
  obtain ⟨rfl, -⟩ := List.append_eq_nil_iff.mp hnothing
  have hread : Except.ok frame.asSent = Except.ok sent.asSent :=
    (ofBody_body hle).symm.trans (hbody ▸ ofBody_body (hbody ▸ hle))
  refine ⟨hframe.symm.trans (Except.ok.inj hread), ?_, rfl, hbody ▸ hfits⟩
  rw [List.append_nil, encode, encode, hbody]

/-! ## Replies -/

/-- Whether a frame answers another one. -/
def isReply : Frame → Bool
  | helloAck _ | reply .. => true
  | _ => false

theorem asSent_of_isReply (h : frame.isReply) : frame.asSent = frame := by
  cases frame with
  | hello | push | request => cases h
  | helloAck | reply => rfl

variable {reply : Frame} {reader left : Reader} {limit : Duration}

/-- A frame whose bytes give a frame is one that fits. -/
theorem fits_of_frame (hbytes : reader.bytes <+: reply.encode) (h : reader.frame max limit = (.ok frame, left)) :
    reply.body.length ≤ min max Bytes.maxLength := by
  obtain ⟨-, -, -, hfits⟩ := decode_front hbytes (Reader.decode_of_frame h)
  exact hfits

/-- A frame that is read from the first bytes of a reply is the reply, all of which was there. -/
theorem eq_of_frame (hreply : reply.isReply) (hbytes : reader.bytes <+: reply.encode)
    (h : reader.frame max limit = (.ok frame, left)) :
    frame = reply ∧ reader.bytes = reply.encode ∧ left.bytes = [] := by
  obtain ⟨hframe, hwhole, hnothing, -⟩ := decode_front hbytes (Reader.decode_of_frame h)
  exact ⟨hframe.trans (asSent_of_isReply hreply), hwhole, hnothing⟩

end Frame

end EventBus
