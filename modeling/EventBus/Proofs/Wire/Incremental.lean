import EventBus.Proofs.Wire.Draining

/-!
# Decoding as bytes arrive

Bytes that arrive in chunks and are decoded chunk by chunk give what they give when all of them are there at once.

* `Loop`: decode calls on a buffer, one after the other, until one gives no frame. `loop_iff`: from every buffer there
  is exactly one such loop, and it comes to its end, as each frame takes at least five bytes off the buffer.
* `drainChunks`: chunks are appended to a buffer one by one, with a loop of decode calls behind each of them, until the
  first failure. `drainChunks_eq` is the induction along the chunks: what was drained before stands in front.
* `drainChunks_eq_drain`: wherever the chunks end, the frames and the failure are those of all bytes at once, and so is
  what is left, if nothing has failed.
-/

namespace EventBus.Frame

variable {max : Nat} {buffer rest : Bytes}

/-! ## A loop of decode calls -/

/-- Decode calls on a buffer until one of them gives no frame, with what they come to. -/
inductive Loop (max : Nat) : Bytes → Drained → Prop where
  | incomplete {buffer : Bytes} (h : decode max buffer = .incomplete) : Loop max buffer ⟨[], none, buffer⟩
  | failed {buffer rest : Bytes} {e : TransportError} (h : decode max buffer = .failed e rest) :
    Loop max buffer ⟨[], some e, rest⟩
  /-- A call gives a frame, which takes at least five bytes, and the loop goes on. -/
  | frame {buffer rest : Bytes} {frame : Frame} {drained : Drained} (h : decode max buffer = .frame frame rest)
      (htaken : rest.length + 5 ≤ buffer.length) (hloop : Loop max rest drained) :
    Loop max buffer { drained with frames := frame :: drained.frames }

theorem loop_drain (max : Nat) (buffer : Bytes) : Loop max buffer (drain max buffer) := by
  induction buffer using drain_induction max with
  | incomplete buffer hdecode =>
    rw [drain_of_incomplete hdecode]
    exact .incomplete hdecode
  | failed buffer e rest hdecode =>
    rw [drain_of_failed hdecode]
    exact .failed hdecode
  | frame buffer frame rest hdecode ih =>
    rw [drain_of_frame hdecode]
    exact .frame hdecode (length_of_decode_frame hdecode) ih

/-- Every loop of decode calls on a buffer comes to the same end. -/
theorem Loop.eq_drain {drained : Drained} (h : Loop max buffer drained) : drained = drain max buffer := by
  induction h with
  | incomplete hdecode => rw [drain_of_incomplete hdecode]
  | failed hdecode => rw [drain_of_failed hdecode]
  | frame hdecode htaken hloop ih => rw [drain_of_frame hdecode, ← ih]

/-- A loop ends as draining does, and every loop ends. -/
theorem loop_iff {drained : Drained} : Loop max buffer drained ↔ drained = drain max buffer := by
  constructor
  · exact Loop.eq_drain
  · rintro rfl
    exact loop_drain max buffer

/-! ## Chunks -/

/-- Appends chunks to a buffer and drains it behind each of them, until that fails. -/
def drainChunks (max : Nat) (buffer : Bytes) : List Bytes → Drained
  | [] => ⟨[], none, buffer⟩
  | chunk :: chunks =>
    let drained := drain max (buffer ++ chunk)
    match drained.failure with
    | some _ => drained
    | none =>
      let later := drainChunks max drained.rest chunks
      { later with frames := drained.frames ++ later.frames }

/-- With what was seen drained down to the buffer, chunks go on to what all of it comes to. -/
theorem drainChunks_eq {seen : Bytes} (hseen : (drain max seen).failure = none) (chunks : List Bytes) :
    (drain max (seen ++ chunks.flatten)).frames
        = (drain max seen).frames ++ (drainChunks max (drain max seen).rest chunks).frames
      ∧ (drain max (seen ++ chunks.flatten)).failure = (drainChunks max (drain max seen).rest chunks).failure
      ∧ ((drain max (seen ++ chunks.flatten)).failure = none →
          (drain max (seen ++ chunks.flatten)).rest = (drainChunks max (drain max seen).rest chunks).rest) := by
  induction chunks generalizing seen with
  | nil => simp [drainChunks, hseen]
  | cons chunk chunks ih =>
    have hnext := drain_append hseen chunk
    rw [List.flatten_cons, ← List.append_assoc, drainChunks]
    dsimp only at hnext ⊢
    cases hfailure : (drain max ((drain max seen).rest ++ chunk)).failure with
    | some e =>
      -- what comes behind a failure changes nothing any more
      have hfirst : (drain max (seen ++ chunk)).failure = some e := by rw [hnext, hfailure]
      rw [drain_append_of_failure hfirst, hnext]
      exact ⟨rfl, hfailure.symm, nofun⟩
    | none =>
      have hfirst : (drain max (seen ++ chunk)).failure = none := by rw [hnext, hfailure]
      obtain ⟨hframes, hends, hrest⟩ := ih hfirst
      rw [hnext] at hframes hends hrest
      rw [hframes, List.append_assoc]
      exact ⟨rfl, hends, hrest⟩

/-- **Decoding as bytes arrive.** Chunks that are appended one by one, each with a loop of decode calls behind it, give
the frames and the failure that all bytes give at once, and leave the same bytes if there is no failure. Every loop of
decode calls comes to an end, with at least five bytes off the buffer for each frame. -/
theorem drainChunks_eq_drain (max : Nat) (chunks : List Bytes) :
    ((drainChunks max [] chunks).frames = (drain max chunks.flatten).frames
        ∧ (drainChunks max [] chunks).failure = (drain max chunks.flatten).failure
        ∧ ((drain max chunks.flatten).failure = none →
            (drainChunks max [] chunks).rest = (drain max chunks.flatten).rest))
      ∧ ∀ buffer drained, Loop max buffer drained ↔ drained = drain max buffer := by
  have hempty : drain max [] = ⟨[], none, []⟩ := drain_of_incomplete rfl
  have hnothing : (drain max []).failure = none := by rw [hempty]
  obtain ⟨hframes, hends, hrest⟩ := drainChunks_eq hnothing chunks
  rw [hempty, List.nil_append, List.nil_append] at hframes
  rw [hempty, List.nil_append] at hends hrest
  exact ⟨⟨hframes.symm, hends.symm, fun hnone => (hrest hnone).symm⟩, fun buffer drained => loop_iff⟩

end EventBus.Frame
