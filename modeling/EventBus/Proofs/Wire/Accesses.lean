import EventBus.Frame.Cursor
import EventBus.Proofs.Wire.Failures
import EventBus.Proofs.Wire.Openings
import Mathlib.Logic.ExistsUnique

/-!
# No access overruns

The decoder of accesses never runs past its bytes, and is the decoder.

* `Guarded`: a step that does as a reader does wherever enough bytes are there, and a reader that fails with fewer of
  them as a guard does. Accesses add up to the bytes that they take together, and a guard for so many bytes covers them
  (`Guarded.need`).
* `guarded_envelope`, `guarded_out`, `guarded_fields`, `guarded_body`: each part of a frame behind its guards.
* `decode_eq`: a decode call does what `Frame.decode` says.
* `decode_stays_within`: how a call ends, with the bytes that are gone from the buffer.
-/

namespace EventBus.Frame.Cursor

variable {α β : Type} {n k : Nat} {step : Cursor α} {reader : Bytes → Except TransportError (α × Bytes)}

/-! ## Accesses and guards -/

/-- What a reader gives, as the result of a step. -/
def lift (parsed : Except TransportError α) : Except Fault α :=
  parsed.mapError .refused

/-- A step whose accesses are covered by a guard for `n` bytes. -/
structure Guarded (n : Nat) (step : Cursor α) (reader : Bytes → Except TransportError (α × Bytes)) : Prop where
  /-- With so many bytes no access overruns. -/
  within : ∀ bytes, n ≤ bytes.length → step bytes = lift (reader bytes)
  /-- With fewer of them the reader fails as the guard does. -/
  short : ∀ bytes, bytes.length < n → reader bytes = .error truncated

namespace Guarded

/-- A step that does as a reader does for any bytes needs no guard. -/
theorem of_eq (h : ∀ bytes, step bytes = lift (reader bytes)) : Guarded 0 step reader where
  within bytes _ := h bytes
  short _ h := absurd h (Nat.not_lt_zero _)

theorem eq (h : Guarded 0 step reader) (bytes : Bytes) : step bytes = lift (reader bytes) :=
  h.within bytes (Nat.zero_le _)

/-- A guard in front of a step that needs so many bytes: with fewer of them, both fail alike. -/
theorem need (h : Guarded n step reader) : Guarded 0 (Cursor.need n >>= fun _ => step) reader := by
  refine of_eq fun bytes => ?_
  show (Cursor.need n bytes >>= fun parts => step parts.2) = _
  rw [Cursor.need]
  split
  · next hshort => rw [h.short bytes hshort]; rfl
  · next henough => exact h.within bytes (Nat.le_of_not_lt henough)

theorem andThen {next : α → Cursor β} {reads : α × Bytes → Except TransportError (β × Bytes)}
    (h : Guarded 0 step reader) (hnext : ∀ a, Guarded 0 (next a) fun rest => reads (a, rest)) :
    Guarded 0 (step >>= next) fun bytes => reader bytes >>= reads := by
  refine of_eq fun bytes => ?_
  show (step bytes >>= fun parts => next parts.1 parts.2) = _
  rw [h.eq]
  cases reader bytes with
  | error e => rfl
  | ok parts => exact (hnext parts.1).eq parts.2

theorem map (h : Guarded 0 step reader) (f : α → β) :
    Guarded 0 (step >>= fun a => pure (f a)) fun bytes => (reader bytes).map fun parts => (f parts.1, parts.2) := by
  refine of_eq fun bytes => ?_
  show (step bytes >>= fun parts => (pure (f parts.1) : Cursor β) parts.2) = _
  rw [h.eq]
  cases reader bytes <;> rfl

theorem getUInt8 {next : UInt8 → Cursor α} (h : ∀ byte, Guarded 0 (next byte) fun rest => reader (byte :: rest))
    (hnil : reader [] = .error truncated) : Guarded 1 (Cursor.getUInt8 >>= next) reader where
  within bytes henough := by
    cases bytes with
    | nil => cases henough
    | cons byte rest => exact (h byte).eq rest
  short bytes hshort := by
    cases bytes with
    | nil => exact hnil
    | cons byte rest => cases Nat.not_lt_zero _ (Nat.lt_of_succ_lt_succ hshort)

/-- Two bytes, and then what they leave to need. -/
theorem getUInt16 {next : UInt16 → Cursor α} {reads : UInt16 × Bytes → Except TransportError (α × Bytes)}
    (h : ∀ value, Guarded k (next value) fun rest => reads (value, rest)) :
    Guarded (k + 2) (Cursor.getUInt16 >>= next) fun bytes =>
      (takeUInt16 bytes : Except TransportError _) >>= reads where
  within bytes henough := by
    match bytes with
    | [] | [_] => simp at henough
    | a :: b :: rest => exact (h _).within rest (Nat.le_of_add_le_add_right henough)
  short bytes hshort := by
    match bytes with
    | [] | [_] => rfl
    | a :: b :: rest => exact (h _).short rest (Nat.lt_of_succ_lt_succ (Nat.lt_of_succ_lt_succ hshort))

/-- Four bytes, and then what they leave to need. -/
theorem getUInt32 {next : UInt32 → Cursor α} {reads : UInt32 × Bytes → Except TransportError (α × Bytes)}
    (h : ∀ value, Guarded k (next value) fun rest => reads (value, rest)) :
    Guarded (k + 4) (Cursor.getUInt32 >>= next) fun bytes =>
      (takeUInt32 bytes : Except TransportError _) >>= reads where
  within bytes henough := by
    match bytes with
    | [] | [_] | [_, _] | [_, _, _] => simp at henough
    | a :: b :: c :: d :: rest => exact (h _).within rest (Nat.le_of_add_le_add_right henough)
  short bytes hshort := by
    match bytes with
    | [] | [_] | [_, _] | [_, _, _] => rfl
    | a :: b :: c :: d :: rest => exact (h _).short rest (by simp at hshort; omega)

end Guarded

/-! ## Parts of a frame -/

/-- To change a value is to go on with the changed one. -/
theorem map_eq_bind {ε : Type} (parsed : Except ε α) (f : α → β) : parsed.map f = parsed >>= fun a => .ok (f a) := by
  cases parsed <;> rfl

theorem guarded_pure (a : α) : Guarded 0 (pure a) fun rest => pure (a, rest) :=
  .of_eq fun _ => rfl

theorem guarded_refuse (e : TransportError) : Guarded 0 (refuse e : Cursor α) fun _ => .error e :=
  .of_eq fun _ => rfl

/-- Bytes are split off behind a guard for just so many. -/
theorem guarded_block (n : Nat) : Guarded 0 (block n) (takeBytes n) := by
  refine .need ⟨fun bytes henough => ?_, fun bytes hshort => ?_⟩
  · obtain ⟨parts, hsplit⟩ : ∃ parts, Bytes.splitFirst? n bytes = some parts :=
      Option.ne_none_iff_exists'.mp fun hnone =>
        absurd henough (Nat.not_le.mpr (Bytes.splitFirst?_eq_none_iff.mp hnone))
    simp only [splitTo, takeBytes, hsplit]
    rfl
  · rw [takeBytes, Bytes.splitFirst?_eq_none_iff.mpr hshort]

theorem guarded_status : Guarded 0 status takeStatus := by
  show Guarded 0 status fun bytes => (takeUInt32 bytes).map _
  simp only [map_eq_bind]
  exact .need (.getUInt32 fun _ => guarded_pure _)

/-- An envelope states the length of its payload, for which there is a second guard. -/
theorem guarded_envelope : Guarded 0 envelope takeEnvelope := by
  refine .need (.getUInt32 fun origin => .getUInt16 fun code => .getUInt32 fun length => ?_)
  exact (guarded_block _).andThen fun payload => guarded_pure _

/-- An out-structure has a mark in front, which decides how much there is to guard. -/
theorem guarded_out : Guarded 0 out takeOut := by
  refine .need (.getUInt8 (fun mark => ?_) rfl)
  split
  · exact guarded_pure none
  · refine .need (.getUInt32 fun checksum => .getUInt32 fun length => ?_)
    exact (guarded_block _).andThen fun data => guarded_pure _
  · next hnone hsome =>
    -- any mark but the two is bad, whatever stands behind it
    have hbad : ∀ rest, takeOut (mark :: rest) = .error (.invalidFrame "bad out marker") := by
      intro rest
      rw [takeOut]
      · exact List.cons_ne_nil _ _
      · intro bytes h
        exact hnone (List.cons.inj h).1
      · intro bytes h
        exact hsome (List.cons.inj h).1
    simp only [hbad]
    exact guarded_refuse _

/-- An announcement states the length of its name. -/
theorem guarded_hello : Guarded 0 hello takeHello := by
  refine .need (.getUInt32 fun id => .getUInt16 fun length => ?_)
  refine (guarded_block _).andThen fun name => ?_
  dsimp only
  cases Text.ofUtf8? name with
  | some text => exact guarded_pure _
  | none => exact guarded_refuse _

/-- The fields behind a tag, each sort with its own parts. -/
theorem guarded_fields (tag : UInt8) : Guarded 0 (fields tag) (takeFields tag) := by
  unfold fields
  -- one case for each tag
  split
  · exact guarded_hello
  · exact guarded_status.map _
  · exact guarded_envelope.map _
  · exact guarded_envelope.andThen fun _ => guarded_out.andThen fun _ => guarded_pure _
  · exact guarded_status.andThen fun _ => guarded_out.andThen fun _ => guarded_pure _
  · have hbad : takeFields tag = fun _ => .error (.invalidFrame "unknown frame tag") := by
      funext bytes
      rw [takeFields] <;> assumption
    rw [hbad]
    exact guarded_refuse _

/-- A body is a tag and its fields, with nothing behind them. -/
theorem guarded_body : Guarded 0 body fun bytes => (ofBody bytes).map (·, []) := by
  refine .need (.getUInt8 (fun tag => ?_) rfl)
  simp only [ofBody, map_eq_bind]
  refine .of_eq fun bytes => ?_
  show ((fields tag bytes) >>= fun parts => _) = _
  rw [(guarded_fields tag).eq]
  cases takeFields tag bytes with
  | error e => rfl
  | ok parts =>
    obtain ⟨frame, rest⟩ := parts
    cases rest <;> rfl

/-! ## One call -/

variable {max : Nat} {buffer : Bytes}

/-- A header states the length that was written. -/
theorem header_be32 (length : UInt32) (behind : Bytes) : header (Bytes.be32 length ++ behind) = some length :=
  congrArg some (Bytes.toUInt32_of_be32 length)

/-- With four bytes in front a call goes on as the length that they state allows. -/
theorem decode_be32 (length : UInt32) (behind : Bytes) :
    decode max (Bytes.be32 length ++ behind) =
      match checkLength max length.toNat with
      | .error e => some (.error e, Bytes.be32 length ++ behind)
      | .ok () => decodeBody length.toNat (Bytes.be32 length ++ behind) := by
  have hlong : ¬(Bytes.be32 length ++ behind).length < headerLength := by
    rw [List.length_append, Bytes.length_be32, headerLength]
    omega
  rw [decode, if_neg hlong, header_be32]
  rfl

/-- With too few bytes behind the header nothing is taken. -/
theorem decodeBody_of_torn {length : UInt32} {behind : Bytes} (hshort : behind.length < length.toNat) :
    decodeBody length.toNat (Bytes.be32 length ++ behind) = some (.ok none, Bytes.be32 length ++ behind) := by
  rw [decodeBody, if_pos]
  rw [List.length_append, Bytes.length_be32, headerLength]
  omega

/-- A whole body is split off, and its header off it; the accesses to its fields are covered by their guards. -/
theorem decodeBody_of_whole {length : UInt32} {whole : Bytes} (hlength : whole.length = length.toNat) (rest : Bytes) :
    decodeBody length.toNat (Bytes.be32 length ++ (whole ++ rest)) = some ((ofBody whole).map some, rest) := by
  have hlong : ¬(Bytes.be32 length ++ (whole ++ rest)).length < headerLength + length.toNat := by
    simp only [List.length_append, Bytes.length_be32, headerLength]
    omega
  have hwhole : Bytes.splitFirst? (headerLength + length.toNat) (Bytes.be32 length ++ (whole ++ rest))
      = some (Bytes.be32 length ++ whole, rest) := by
    refine Bytes.splitFirst?_eq_some_iff.mpr ⟨(List.append_assoc ..).symm, ?_⟩
    rw [List.length_append, Bytes.length_be32, hlength, headerLength]
  have hheader : Bytes.splitFirst? headerLength (Bytes.be32 length ++ whole) = some (Bytes.be32 length, whole) :=
    Bytes.splitFirst?_eq_some_iff.mpr ⟨rfl, rfl⟩
  simp only [decodeBody, if_neg hlong, hwhole, hheader, bind, Option.bind, guarded_body.eq]
  cases ofBody whole <;> rfl

/-- A decode call by accesses does not overrun, and is one decode call. -/
theorem decode_eq (max : Nat) (buffer : Bytes) :
    decode max buffer = some ((Frame.decode max buffer).answer, (Frame.decode max buffer).left buffer) := by
  cases opening max buffer with
  | short h =>
    rw [decode, if_pos h, decode_of_short h]
    rfl
  | refused length behind h =>
    rw [decode_be32, decode_of_refused h, checkLength_of_refused h]
    rfl
  | torn length behind h hshort =>
    rw [decode_be32, decode_of_torn h hshort, checkLength_of_not_refused h]
    exact decodeBody_of_torn hshort
  | whole length whole rest h hlength =>
    rw [decode_be32, decode_of_whole h hlength, checkLength_of_not_refused h]
    refine (decodeBody_of_whole hlength rest).trans ?_
    cases ofBody whole <;> rfl

/-! ## How a call ends -/

/-- The bytes are too few for a frame: fewer than a length takes, or fewer than an accepted length states. -/
def IsIncomplete (max : Nat) (buffer : Bytes) : Prop :=
  buffer.length < 4
    ∨ ∃ length, statedLength? buffer = some length ∧ 1 ≤ length ∧ length ≤ max ∧ buffer.length < 4 + length

/-- The ways in which a decode call ends. -/
inductive Ending where
  | waits
  | refuses
  | takes

/-- A decode call on a buffer ends in a way, with its answer and the buffer that it leaves. -/
inductive Ends (max : Nat) (buffer : Bytes) (answer : Except TransportError (Option Frame)) (left : Bytes) :
    Ending → Prop where
  | waits (h : IsIncomplete max buffer) (hanswer : answer = .ok none) (hleft : left = buffer) :
    Ends max buffer answer left .waits
  /-- The stated length is zero or too large. -/
  | refuses (length : Nat) (hstated : statedLength? buffer = some length) (h : length = 0 ∨ max < length)
      (hanswer : answer = .error (lengthRefusal max length)) (hleft : left = buffer) :
    Ends max buffer answer left .refuses
  /-- The length and the bytes that it states are gone, for a frame or for a body that is none. -/
  | takes (length : Nat) (taken : Bytes) (hstated : statedLength? buffer = some length) (hpos : 1 ≤ length)
      (hmax : length ≤ max) (hbuffer : buffer = taken ++ left) (htaken : taken.length = 4 + length)
      (hanswer : (∃ frame, answer = .ok (some frame)) ∨ ∃ reason, answer = .error (.invalidFrame reason)) :
    Ends max buffer answer left .takes

/-- The way in which a call on a buffer ends. -/
def endingOf (max : Nat) (buffer : Bytes) : Ending :=
  match statedLength? buffer with
  | none => .waits
  | some length =>
    if IsRefused max length then .refuses
    else if buffer.length < 4 + length then .waits
    else .takes

/-- A buffer is incomplete exactly if a call would wait. -/
theorem isIncomplete_iff : IsIncomplete max buffer ↔ endingOf max buffer = .waits := by
  constructor
  · rintro (hshort | ⟨length, hstated, hpos, hmax, hshort⟩)
    · rw [endingOf, statedLength?_eq_none_iff.mpr hshort]
    · simp only [endingOf, hstated, if_neg (not_isRefused_iff.mpr ⟨hpos, hmax⟩), if_pos hshort]
  · intro h
    unfold endingOf at h
    split at h
    · next hnone => exact .inl (statedLength?_eq_none_iff.mp hnone)
    · next length hstated =>
      split at h
      · cases h
      -- waiting for a body means that its length was accepted
      · next haccepted =>
        obtain ⟨hpos, hmax⟩ := not_isRefused_iff.mp haccepted
        split at h
        · next hshort => exact .inr ⟨length, hstated, hpos, hmax, hshort⟩
        · cases h

variable {answer : Except TransportError (Option Frame)} {left : Bytes} {ending : Ending}

/-- The ending of a call is determined by the buffer. -/
theorem Ends.eq_endingOf (h : Ends max buffer answer left ending) : ending = endingOf max buffer := by
  cases h with
  | waits h _ _ => exact (isIncomplete_iff.mp h).symm
  | refuses length hstated h _ _ =>
    have hrefused : IsRefused max length := h
    simp only [endingOf, hstated, if_pos hrefused]
  | takes length taken hstated hpos hmax hbuffer htaken _ =>
    have haccepted : ¬IsRefused max length := not_isRefused_iff.mpr ⟨hpos, hmax⟩
    have henough : ¬buffer.length < 4 + length := by
      rw [hbuffer, List.length_append, htaken]
      omega
    simp only [endingOf, hstated, if_neg haccepted, if_neg henough]

/-- Nothing is answered exactly by a call that waits. -/
theorem Ends.eq_none_iff (h : Ends max buffer answer left ending) : answer = .ok none ↔ ending = .waits := by
  cases h with
  | waits _ hanswer _ => exact iff_of_true hanswer rfl
  | refuses _ _ _ hanswer _ => exact iff_of_false (hanswer ▸ nofun) nofun
  | takes _ _ _ _ _ _ _ hanswer =>
    refine iff_of_false ?_ nofun
    rcases hanswer with ⟨frame, rfl⟩ | ⟨reason, rfl⟩ <;> nofun

/-- What a body gives, as the answer of a call: a frame or the failure of a body. -/
theorem map_ofBody (body : Bytes) :
    (∃ frame, (ofBody body).map some = .ok (some frame))
      ∨ ∃ reason, (ofBody body).map some = .error (.invalidFrame reason) := by
  cases hbody : ofBody body with
  | ok frame => exact .inl ⟨frame, rfl⟩
  | error e =>
    obtain ⟨reason, rfl⟩ := failsOnly_ofBody body e hbody
    exact .inr ⟨reason, rfl⟩

/-- Every call ends in some way. -/
theorem exists_ends (max : Nat) (buffer : Bytes) :
    ∃ ending answer left, decode max buffer = some (answer, left) ∧ Ends max buffer answer left ending := by
  cases opening max buffer with
  | short h => exact ⟨.waits, .ok none, buffer, by rw [decode, if_pos h], .waits (.inl h) rfl rfl⟩
  | refused length behind h =>
    -- a length that is out of bounds is refused with nothing taken
    refine ⟨.refuses, .error (lengthRefusal max length.toNat), Bytes.be32 length ++ behind, ?_, ?_⟩
    · rw [decode_be32, checkLength_of_refused h]
    · exact .refuses length.toNat (statedLength?_be32 length behind) h rfl rfl
  | torn length behind h hshort =>
    obtain ⟨hpos, hmax⟩ := not_isRefused_iff.mp h
    refine ⟨.waits, .ok none, Bytes.be32 length ++ behind, ?_, .waits (.inr ?_) rfl rfl⟩
    · rw [decode_be32, checkLength_of_not_refused h]
      exact decodeBody_of_torn hshort
    · refine ⟨length.toNat, statedLength?_be32 length behind, hpos, hmax, ?_⟩
      rw [List.length_append, Bytes.length_be32]
      omega
  | whole length whole rest h hlength =>
    obtain ⟨hpos, hmax⟩ := not_isRefused_iff.mp h
    refine ⟨.takes, (ofBody whole).map some, rest, ?_, ?_⟩
    · rw [decode_be32, checkLength_of_not_refused h]
      exact decodeBody_of_whole hlength rest
    · refine .takes length.toNat (Bytes.be32 length ++ whole) (statedLength?_be32 length _) hpos hmax
        (List.append_assoc ..).symm ?_ (map_ofBody whole)
      rw [List.length_append, Bytes.length_be32, hlength]

/-- **Within the buffer.** Whatever bytes a buffer holds and whatever lengths they state, no access of a decode call
overruns, and the call is that of `Frame.decode`. It ends in exactly one of three ways: it waits, just when the bytes
are too few, and leaves the buffer alone; it refuses the length and leaves the buffer alone, so that it fails alike when
it is made again; or it takes off just the length and the bytes that it states, for a frame or for a failure of the
body. -/
theorem decode_stays_within (max : Nat) (buffer : Bytes) :
    ∃ answer left, decode max buffer = some (answer, left)
      ∧ (Frame.decode max buffer).answer = answer ∧ (Frame.decode max buffer).left buffer = left
      ∧ (∃! ending, Ends max buffer answer left ending)
      ∧ (answer = .ok none ↔ IsIncomplete max buffer)
      ∧ (Ends max buffer answer left .refuses → decode max left = some (answer, left)) := by
  obtain ⟨ending, answer, left, hdecode, hends⟩ := exists_ends max buffer
  obtain ⟨hanswer, hleft⟩ := Prod.mk.inj (Option.some.inj ((decode_eq max buffer).symm.trans hdecode))
  refine ⟨answer, left, hdecode, hanswer, hleft, ⟨ending, hends, fun other hother => ?_⟩, ?_, fun hrefuses => ?_⟩
  · exact hother.eq_endingOf.trans hends.eq_endingOf.symm
  · rw [hends.eq_none_iff, isIncomplete_iff, hends.eq_endingOf]
  · -- a refusal leaves the buffer as it was
    cases hrefuses with
    | refuses _ _ _ _ hleft => rw [hleft, hdecode, hleft]

/-- An envelope that states more bytes than its body holds is refused by a guard, in front of the access. -/
example : decode 64 [0, 0, 0, 11, 3, 0, 0, 0, 1, 0, 1, 255, 255, 255, 255, 7] = some (.error truncated, [7]) := by rfl

example : splitTo 4294967295 [7] = .error .overrun := by rfl

end EventBus.Frame.Cursor
