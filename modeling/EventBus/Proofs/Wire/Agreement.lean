import EventBus.Proofs.Wire.Stream

/-!
# Two readers of frames

Frames are taken off a buffer that grows, and off a stream that blocks. Both give the same frames and the same
failures for the same bytes.

* `CutOff`: what the end of a stream means to whoever waits for a frame. `cutOff_ofIo`: every end means just one thing.
* `frame_agrees`: the agreement, with the bytes that are gone from the stream.
-/

namespace EventBus.Frame.Reader

variable {n max : Nat} {ending : StreamEnd} {limit : Duration} {reader left : Reader}

/-! ## Ends of streams -/

/-- What the end of a stream means to whoever waits for a frame up to a limit. -/
inductive CutOff (limit : Duration) : StreamEnd → TransportError → Prop where
  | closed : CutOff limit .closed .connectionClosed
  | early {e : IoError} (h : e.kind = .unexpectedEof) : CutOff limit (.fails e) .connectionClosed
  | late {e : IoError} (h : e.kind = .wouldBlock ∨ e.kind = .timedOut) : CutOff limit (.fails e) (.timeout limit)
  /-- Any other failure is reported as it is. -/
  | broken {e : IoError}
      (h : e.kind ≠ .unexpectedEof ∧ e.kind ≠ .wouldBlock ∧ e.kind ≠ .timedOut ∧ e.kind ≠ .interrupted) :
    CutOff limit (.fails e) (.io e)

theorem cutOff_ofIo (limit : Duration) (hends : ∀ e, ending = .fails e → e.kind ≠ .interrupted) :
    CutOff limit ending (.ofIo (StreamEnd.error ending) limit) := by
  cases ending with
  | closed => exact .closed
  | fails e =>
    have hinterrupted := hends e rfl
    rw [StreamEnd.error, TransportError.ofIo]
    split
    · next h => exact .late (.inl h)
    · next h => exact .late (.inr h)
    · next h => exact .early h
    · next hblock htime heof => exact .broken ⟨heof, hblock, htime, hinterrupted⟩

/-! ## Agreement -/

/-- So many bytes are gone from the front of a stream. -/
def Consumed (n : Nat) (reader left : Reader) : Prop :=
  ∃ taken, taken.length = n ∧ reader.bytes = taken ++ left.bytes

/-- What was read off a stream, and what it left there, agree with what decoding all the bytes of the stream gives. -/
inductive Agrees (max : Nat) (limit : Duration) (reader : Reader) (answer : Except TransportError Frame)
    (left : Reader) : Decoded → Prop where
  | frame {frame : Frame} {rest : Bytes} {length : Nat} (hanswer : answer = .ok frame) (hrest : left.bytes = rest)
      (hstated : statedLength? reader.bytes = some length) (hconsumed : Consumed (4 + length) reader left) :
    Agrees max limit reader answer left (.frame frame rest)
  /-- Of a frame whose length is refused only the length is gone. -/
  | refused {e : TransportError} {rest : Bytes} {length : Nat} (hanswer : answer = .error e)
      (hstated : statedLength? reader.bytes = some length) (h : length = 0 ∨ max < length)
      (hconsumed : Consumed 4 reader left) :
    Agrees max limit reader answer left (.failed e rest)
  /-- A body that is no frame is gone all the same. -/
  | malformed {e : TransportError} {rest : Bytes} {length : Nat} (hanswer : answer = .error e)
      (hstated : statedLength? reader.bytes = some length) (h : 1 ≤ length ∧ length ≤ max)
      (hconsumed : Consumed (4 + length) reader left) :
    Agrees max limit reader answer left (.failed e rest)
  | incomplete {e : TransportError} (hanswer : answer = .error e) (hcut : CutOff limit reader.ending e) :
    Agrees max limit reader answer left .incomplete

/-- **Both readers agree.** Off a stream that delivers bytes in any pieces with any interruptions between them, and
ends in any other way than with one, the frame or the failure is read that decoding all its bytes gives, and what is
gone from the stream is the length and the body, or the length alone if it is refused. Where decoding finds no complete
frame, reading fails as the end of the stream says. -/
theorem frame_agrees (max : Nat) (limit : Duration) (reader : Reader)
    (hends : ∀ e, reader.ending = .fails e → e.kind ≠ .interrupted) :
    ∃ answer left, reader.frame max limit = (answer, left)
      ∧ Agrees max limit reader answer left (decode max reader.bytes) := by
  have hcut := cutOff_ofIo limit hends
  -- the bytes begin in one of four ways, and each of them says what both readers do
  generalize hbytes : reader.bytes = bytes
  cases opening max bytes with
  | short h =>
    obtain ⟨left, hframe⟩ : ∃ left, reader.frame max limit = _ := frame_of_short (hbytes ▸ h)
    rw [decode_of_short h]
    exact ⟨_, left, hframe, .incomplete rfl hcut⟩
  | refused length behind h =>
    obtain ⟨left, hframe, rfl⟩ := frame_of_refused hbytes h limit
    have hstated := statedLength?_be32 length left.bytes
    rw [decode_of_refused h]
    exact ⟨_, left, hframe, .refused rfl (hbytes ▸ hstated) h ⟨Bytes.be32 length, rfl, hbytes⟩⟩
  | torn length behind h hshort =>
    obtain ⟨left, hframe⟩ := frame_of_torn hbytes h hshort limit
    rw [decode_of_torn h hshort]
    exact ⟨_, left, hframe, .incomplete rfl hcut⟩
  | whole length body rest h hlength =>
    obtain ⟨left, hframe, rfl⟩ := frame_of_whole hbytes h hlength limit
    have hstated := statedLength?_be32 length (body ++ left.bytes)
    have hconsumed : Consumed (4 + length.toNat) reader left := by
      refine ⟨Bytes.be32 length ++ body, ?_, by rw [hbytes, List.append_assoc]⟩
      rw [List.length_append, Bytes.length_be32, hlength]
    rw [decode_of_whole h hlength]
    refine ⟨_, left, hframe, ?_⟩
    cases hbody : ofBody body with
    | ok frame => exact .frame rfl rfl (hbytes ▸ hstated) hconsumed
    | error e => exact .malformed rfl (hbytes ▸ hstated) (not_isRefused_iff.mp h) hconsumed

/-- A stream that delivers a frame and a byte behind it in three pieces, and runs out of time then. -/
def piecemealReader : Reader :=
  ⟨[.interrupted, .piece [0, 0], .interrupted, .interrupted, .piece [0, 5, 2, 0, 0], .piece [0, 9, 255]],
    .fails .wouldBlock⟩

theorem piecemealReader_agrees :
    (∀ e, piecemealReader.ending = .fails e → e.kind ≠ .interrupted)
      ∧ decode 5 piecemealReader.bytes = .frame (.helloAck ⟨9⟩) [255]
      ∧ ∃ answer left, piecemealReader.frame 5 (.ofSeconds 1) = (answer, left)
        ∧ Agrees 5 (.ofSeconds 1) piecemealReader answer left (decode 5 piecemealReader.bytes) := by
  have hends : ∀ e, piecemealReader.ending = .fails e → e.kind ≠ .interrupted := by
    intro e h
    obtain rfl := StreamEnd.fails.inj h
    decide
  exact ⟨hends, rfl, frame_agrees 5 (.ofSeconds 1) piecemealReader hends⟩

end EventBus.Frame.Reader
