import EventBus.Frame.Decode

/-!
# How reading fails

What is read from bytes fails in few ways.

* `FailsOnly`: a result that, if it is a failure, is one of a sort; it goes through the readers as they go on with one
  another.
* **Truncation**: bytes, numbers and envelopes are read unless there are too few bytes.
* **Bodies**: `failsOnly_ofBody`. Whatever a body holds, it is a frame or it is malformed (`IsMalformed`).
-/

namespace EventBus.Frame

variable {α β : Type} {sort : TransportError → Prop}

/-- If this is a failure, it is one of a sort. -/
def FailsOnly (sort : TransportError → Prop) (parsed : Except TransportError α) : Prop :=
  ∀ e, parsed = .error e → sort e

namespace FailsOnly

theorem ok (value : α) : FailsOnly sort (.ok value) := by
  intro e h
  cases h

theorem error {e : TransportError} (h : sort e) : FailsOnly sort (.error e : Except TransportError α) := by
  intro e' h'
  cases h'
  exact h

/-- What is read behind another thing may fail like either. -/
theorem bind {parsed : Except TransportError α} {rest : α → Except TransportError β} (h : FailsOnly sort parsed)
    (hrest : ∀ value, FailsOnly sort (rest value)) : FailsOnly sort (parsed >>= rest) := by
  cases parsed with
  | error e => exact .error (h e rfl)
  | ok value => exact hrest value

theorem map {parsed : Except TransportError α} (h : FailsOnly sort parsed) (f : α → β) :
    FailsOnly sort (parsed.map f) := by
  cases parsed with
  | error e => exact .error (h e rfl)
  | ok value => exact .ok (f value)

end FailsOnly

/-! ## Truncation -/

/-- Bytes are read unless there are too few. -/
theorem failsOnly_takeBytes (h : sort truncated) (n : Nat) (bytes : Bytes) : FailsOnly sort (takeBytes n bytes) := by
  rw [takeBytes]
  split
  · exact .ok _
  · exact .error h

theorem failsOnly_takeUInt16 (h : sort truncated) (bytes : Bytes) : FailsOnly sort (takeUInt16 bytes) := by
  rw [takeUInt16.eq_def]
  split
  · exact .ok _
  · exact .error h

theorem failsOnly_takeUInt32 (h : sort truncated) (bytes : Bytes) : FailsOnly sort (takeUInt32 bytes) := by
  rw [takeUInt32.eq_def]
  split
  · exact .ok _
  · exact .error h

theorem failsOnly_takeStatus (h : sort truncated) (bytes : Bytes) : FailsOnly sort (takeStatus bytes) :=
  (failsOnly_takeUInt32 h bytes).map _

theorem failsOnly_takeEnvelope (h : sort truncated) (bytes : Bytes) : FailsOnly sort (takeEnvelope bytes) := by
  refine (failsOnly_takeUInt32 h bytes).bind fun _ => ?_
  refine (failsOnly_takeUInt16 h _).bind fun _ => ?_
  refine (failsOnly_takeUInt32 h _).bind fun _ => ?_
  exact (failsOnly_takeBytes h _ _).bind fun _ => .ok _

/-! ## Bodies -/

/-- The bytes do not decode, for some reason. -/
def IsMalformed (e : TransportError) : Prop :=
  ∃ reason, e = .invalidFrame reason

/-- A frame that is invalid for whatever reason is malformed. -/
theorem isMalformed_invalidFrame (reason : String) : IsMalformed (.invalidFrame reason) :=
  ⟨reason, rfl⟩

theorem isMalformed_truncated : IsMalformed truncated :=
  isMalformed_invalidFrame _

/-- What is malformed is not refused for its size. -/
theorem IsMalformed.isFrameTooLarge_eq {e : TransportError} (h : IsMalformed e) : e.isFrameTooLarge = false := by
  obtain ⟨reason, rfl⟩ := h
  rfl

/-- An out-structure is read, or it is too short, or its mark is bad. -/
theorem failsOnly_takeOut (bytes : Bytes) : FailsOnly IsMalformed (takeOut bytes) := by
  rw [takeOut.eq_def]
  split
  · exact .error isMalformed_truncated
  · exact .ok _
  · refine (failsOnly_takeUInt32 isMalformed_truncated _).bind fun _ => ?_
    refine (failsOnly_takeUInt32 isMalformed_truncated _).bind fun _ => ?_
    exact (failsOnly_takeBytes isMalformed_truncated _ _).bind fun _ => .ok _
  · exact .error (isMalformed_invalidFrame _)

theorem failsOnly_takeHello (bytes : Bytes) : FailsOnly IsMalformed (takeHello bytes) := by
  refine (failsOnly_takeUInt32 isMalformed_truncated bytes).bind fun _ => ?_
  refine (failsOnly_takeUInt16 isMalformed_truncated _).bind fun _ => ?_
  refine (failsOnly_takeBytes isMalformed_truncated _ _).bind fun parts => ?_
  dsimp only
  split
  · exact .ok _
  · exact .error (isMalformed_invalidFrame _)

/-- The fields behind any tag are read, or malformed. -/
theorem failsOnly_takeFields (tag : UInt8) (bytes : Bytes) : FailsOnly IsMalformed (takeFields tag bytes) := by
  rw [takeFields.eq_def]
  split
  · exact failsOnly_takeHello bytes
  · exact (failsOnly_takeStatus isMalformed_truncated bytes).map _
  · exact (failsOnly_takeEnvelope isMalformed_truncated bytes).map _
  · refine (failsOnly_takeEnvelope isMalformed_truncated bytes).bind fun _ => ?_
    exact (failsOnly_takeOut _).bind fun _ => .ok _
  · refine (failsOnly_takeStatus isMalformed_truncated bytes).bind fun _ => ?_
    exact (failsOnly_takeOut _).bind fun _ => .ok _
  · exact .error (isMalformed_invalidFrame _)

/-- A body is a frame, or it is malformed. -/
theorem failsOnly_ofBody (body : Bytes) : FailsOnly IsMalformed (ofBody body) := by
  rw [ofBody.eq_def]
  split
  · exact .error isMalformed_truncated
  · refine (failsOnly_takeFields _ _).bind fun parts => ?_
    show FailsOnly IsMalformed (if parts.2.isEmpty then _ else _)
    split
    · exact .ok _
    · exact .error (isMalformed_invalidFrame _)

end EventBus.Frame
