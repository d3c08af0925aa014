import EventBus.Proofs.Wire.Openings

/-!
# Draining a buffer that grows

What decoding a buffer as far as it goes gives, and how that goes on when bytes are appended.

* **One decode call**: any outcome but an incomplete frame stays what it is when bytes are appended
  (`decode_append`), so a frame stays a frame and a failure stays a failure (`decode_append_of_frame`,
  `decode_append_of_failed`).
* **Equations**: `drain` by the outcome of the first decode call, without the accumulator of `drainOnto`,
  and `drain_induction` with one case for each outcome.
* **Appending**: a failure is final (`drain_append_of_failure`), and without one draining goes on from what
  was left (`drain_append`).
-/

namespace EventBus.Frame

variable {max : Nat} {buffer rest : Bytes} {frame : Frame} {e : TransportError}

/-! ## One decode call -/

/-- An outcome of a decode call, with more bytes behind those that it left. -/
def Decoded.withMore (more : Bytes) : Decoded → Decoded
  | .incomplete => .incomplete
  | .frame read rest => .frame read (rest ++ more)
  | .failed e rest => .failed e (rest ++ more)

/-- Bytes behind a complete frame stay where they are. -/
theorem decode_append (hcomplete : decode max buffer ≠ .incomplete) (more : Bytes) :
    decode max (buffer ++ more) = (decode max buffer).withMore more := by
  cases opening max buffer with
  | short h => exact absurd (decode_of_short h) hcomplete
  | refused length behind h =>
    rw [List.append_assoc, decode_of_refused h, decode_of_refused h, Decoded.withMore, List.append_assoc]
  | torn length behind h hshort => exact absurd (decode_of_torn h hshort) hcomplete
  | whole length body behind h hlength =>
    rw [List.append_assoc, List.append_assoc, decode_of_whole h hlength, decode_of_whole h hlength]
    cases ofBody body <;> rfl

/-- A frame stays a frame when bytes are appended, which are then behind it. -/
theorem decode_append_of_frame (h : decode max buffer = .frame frame rest) (more : Bytes) :
    decode max (buffer ++ more) = .frame frame (rest ++ more) := by
  rw [decode_append (by rw [h]; nofun), h, Decoded.withMore]

theorem decode_append_of_failed (h : decode max buffer = .failed e rest) (more : Bytes) :
    decode max (buffer ++ more) = .failed e (rest ++ more) := by
  rw [decode_append (by rw [h]; nofun), h, Decoded.withMore]

/-! ## Equations for draining -/

/-- Frames that were decoded before stand in front, and change nothing else. -/
theorem drainOnto_eq (max : Nat) (decoded : List Frame) (buffer : Bytes) :
    drainOnto max decoded buffer =
      ⟨decoded.reverse ++ (drain max buffer).frames, (drain max buffer).failure, (drain max buffer).rest⟩ := by
  -- on the length of the buffer, as each frame leaves a shorter one
  induction hn : buffer.length using Nat.strongRecOn generalizing decoded buffer with
  | ind n ih =>
    subst hn
    rw [drain, drainOnto.eq_def max decoded, drainOnto.eq_def max []]
    split
    · simp
    · simp
    · next frame rest hdecode =>
      have hshort := length_of_decode_frame hdecode
      rw [ih rest.length (by omega) (frame :: decoded) rest rfl, ih rest.length (by omega) [frame] rest rfl]
      simp

theorem drain_of_incomplete (h : decode max buffer = .incomplete) : drain max buffer = ⟨[], none, buffer⟩ := by
  rw [drain, drainOnto.eq_def]
  split <;> simp_all

/-- A failure ends the draining, and what is behind it is left. -/
theorem drain_of_failed (h : decode max buffer = .failed e rest) : drain max buffer = ⟨[], some e, rest⟩ := by
  rw [drain, drainOnto.eq_def]
  split <;> simp_all

/-- A frame comes out, and then what is behind it. -/
theorem drain_of_frame (h : decode max buffer = .frame frame rest) :
    drain max buffer = ⟨frame :: (drain max rest).frames, (drain max rest).failure, (drain max rest).rest⟩ := by
  rw [drain, drainOnto.eq_def]
  split
  · simp_all
  · simp_all
  · next frame' rest' hdecode =>
    rw [h, Decoded.frame.injEq] at hdecode
    obtain ⟨rfl, rfl⟩ := hdecode
    rw [drainOnto_eq]
    rfl

/-- Induction along the decode calls of a drain. -/
theorem drain_induction {motive : Bytes → Prop} (max : Nat)
    (incomplete : ∀ buffer, decode max buffer = .incomplete → motive buffer)
    (failed : ∀ buffer e rest, decode max buffer = .failed e rest → motive buffer)
    (frame : ∀ buffer frame rest, decode max buffer = .frame frame rest → motive rest → motive buffer)
    (buffer : Bytes) : motive buffer := by
  induction hn : buffer.length using Nat.strongRecOn generalizing buffer with
  | ind n ih =>
    subst hn
    cases hdecode : decode max buffer with
    | incomplete => exact incomplete buffer hdecode
    | failed e rest => exact failed buffer e rest hdecode
    | frame f rest =>
      have hshort := length_of_decode_frame hdecode
      exact frame buffer f rest hdecode (ih rest.length (by omega) rest rfl)

/-! ## Appending bytes -/

/-- Once draining has failed, nothing that is appended changes the frames or the failure. -/
theorem drain_append_of_failure (h : (drain max buffer).failure = some e) (more : Bytes) :
    drain max (buffer ++ more) = ⟨(drain max buffer).frames, some e, (drain max buffer).rest ++ more⟩ := by
  induction buffer using drain_induction max with
  | incomplete buffer hdecode =>
    rw [drain_of_incomplete hdecode] at h
    cases h
  | failed buffer e' rest hdecode =>
    rw [drain_of_failed hdecode] at h ⊢
    rw [drain_of_failed (decode_append_of_failed hdecode more), ← h]
  | frame buffer frame rest hdecode ih =>
    rw [drain_of_frame hdecode] at h ⊢
    rw [drain_of_frame (decode_append_of_frame hdecode more), ih h]

/-- Without a failure, draining goes on from what was left with what is appended. -/
theorem drain_append (h : (drain max buffer).failure = none) (more : Bytes) :
    drain max (buffer ++ more) =
      let later := drain max ((drain max buffer).rest ++ more)
      ⟨(drain max buffer).frames ++ later.frames, later.failure, later.rest⟩ := by
  induction buffer using drain_induction max with
  | incomplete buffer hdecode => rw [drain_of_incomplete hdecode]; rfl
  | failed buffer e rest hdecode =>
    rw [drain_of_failed hdecode] at h
    cases h
  | frame buffer frame rest hdecode ih =>
    rw [drain_of_frame hdecode] at h ⊢
    rw [drain_of_frame (decode_append_of_frame hdecode more), ih h]
    rfl

end EventBus.Frame
