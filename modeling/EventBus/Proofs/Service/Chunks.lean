import EventBus.Catalog.Component
import EventBus.Proofs.Wire.Draining
import EventBus.Server
import EventBus.Trial.World

/-!
# Streams in chunks

What a peer sends arrives in chunks that end anywhere. A frame service takes the frames out of each chunk
before it answers any of them, so where the chunks end can be seen from outside.

* `receiveAll` is what a service does with chunks one after the other, `inOrder` what it would do with the
  frames of the whole stream: answer all of them in front of the first malformed one.
* `soundChunks` are the chunks in front of the one in which a malformed frame shows itself.
  `receiveAll_eq`: exactly the frames that are complete in these are answered, whatever the cut.
* `receiveAll_eq_inOrder_iff`: so a cut is harmless exactly if the chunk in which a malformed frame shows
  itself completes no frame.

Both sides are compared as routines, so the statements hold for every state of the service, every answer of
its handlers and every turn that other threads make in between.
-/

namespace EventBus.FrameService

variable {τ : Type}

/-! ## Two ways to serve a stream -/

/-- What is done with chunks one after the other until one of them ends the connection: what is written,
and the failure that ended it. -/
def receiveAll (service : FrameService τ) (token : Token) :
    Inbox → List Bytes → WriteAnswers → Routine τ (List Bytes × Option TransportError)
  | _, [], _ => pure ([], none)
  | inbox, chunk :: rest, answers => do
    let reaction ← service.received token inbox chunk answers
    match reaction.failure with
    | some e => return (reaction.written, some e)
    | none =>
      let (written, failure) ←
        service.receiveAll token reaction.inbox rest (answers.drop reaction.written.length)
      return (reaction.written ++ written, failure)

/-- Answers frames; the connection ends at the first one that is refused, or else with a failure behind
them. -/
def answerBefore (service : FrameService τ) (token : Token) (frames : List Frame)
    (failure : Option TransportError) (answers : WriteAnswers) :
    Routine τ (List Bytes × Option TransportError) := do
  let (written, refused) ← service.answerAll token [] frames answers
  return (written, refused <|> failure)

/-- Answers all frames of a stream in front of the first malformed one, which ends the connection. -/
def inOrder (service : FrameService τ) (token : Token) (stream : Bytes) (answers : WriteAnswers) :
    Routine τ (List Bytes × Option TransportError) :=
  let drained := Frame.drain service.maxFrame stream
  service.answerBefore token drained.frames drained.failure answers

/-- The chunks in front of the one in which a malformed frame shows itself, behind those seen. -/
def soundChunks (max : Nat) (seen : Bytes) : List Bytes → List Bytes
  | [] => []
  | chunk :: rest =>
    match (Frame.drain max (seen ++ chunk)).failure with
    | some _ => []
    | none => chunk :: soundChunks max (seen ++ chunk) rest

/-! ## Answering frames in two parts -/

variable (service : FrameService τ) (token : Token)

/-- What was written before stands in front, and changes nothing else. -/
theorem answerAll_eq (written : List Bytes) (frames : List Frame) (answers : WriteAnswers) :
    service.answerAll token written frames answers =
      (do
        let (later, refused) ← service.answerAll token [] frames answers
        return (written.reverse ++ later, refused)) := by
  induction frames generalizing written answers with
  | nil => simp [answerAll]
  | cons frame frames ih =>
    simp only [answerAll, bind_assoc]
    refine congrArg _ (funext fun answer => ?_)
    cases answer with
    | silent => exact ih written answers
    | refuse e => simp
    | reply sent =>
      dsimp only
      -- only whether sending ends the loop matters, not what it sends
      generalize Socket.sendBytes service.writeLimit answers.head?.toList.flatten sent.encode = sending
      obtain ⟨bytes, e | done⟩ := sending
      · simp
      · show service.answerAll token (bytes :: written) frames answers.tail
          = service.answerAll token [bytes] frames answers.tail >>= _
        rw [ih (bytes :: written), ih [bytes]]
        simp

/-- Frames that stand behind others are answered when none of those was refused. -/
theorem answerAll_append (front back : List Frame) (answers : WriteAnswers) :
    service.answerAll token [] (front ++ back) answers =
      (do
        let (written, refused) ← service.answerAll token [] front answers
        match refused with
        | some e => return (written, some e)
        | none =>
          let (later, refused) ← service.answerAll token [] back (answers.drop written.length)
          return (written ++ later, refused)) := by
  induction front generalizing answers with
  | nil => simp [answerAll]
  | cons frame front ih =>
    simp only [List.cons_append, answerAll, bind_assoc]
    refine congrArg _ (funext fun answer => ?_)
    -- a reply that cannot be written ends both sides at the same frame
    cases answer with
    | silent => exact ih answers
    | refuse e => simp
    | reply sent =>
      dsimp only
      generalize Socket.sendBytes service.writeLimit answers.head?.toList.flatten sent.encode = sending
      obtain ⟨bytes, e | done⟩ := sending
      · simp
      · show service.answerAll token [bytes] (front ++ back) answers.tail
          = service.answerAll token [bytes] front answers.tail >>= _
        rw [service.answerAll_eq token [bytes], service.answerAll_eq token [bytes] front, ih]
        simp only [bind_assoc, pure_bind]
        refine congrArg _ (funext fun (written, refused) => ?_)
        cases refused with
        | some e => simp
        | none => simp

/-! ## The chunks in front of a failure -/

variable {max : Nat}

/-- Chunks in front of one that shows a failure are all sound: a failure would have stayed. -/
theorem soundChunks_append_cons {seen chunk : Bytes} {front back : List Bytes}
    (hfront : (Frame.drain max (seen ++ front.flatten)).failure = none)
    (hchunk : (Frame.drain max (seen ++ front.flatten ++ chunk)).failure ≠ none) :
    soundChunks max seen (front ++ chunk :: back) = front := by
  induction front generalizing seen with
  | nil =>
    obtain ⟨e, hfailure⟩ := Option.ne_none_iff_exists'.mp hchunk
    rw [List.flatten_nil, List.append_nil] at hfailure
    rw [List.nil_append, soundChunks, hfailure]
  | cons first front ih =>
    rw [List.flatten_cons, ← List.append_assoc] at hfront hchunk
    -- a failure in the first chunk would still be one behind all of the front
    have hfirst : (Frame.drain max (seen ++ first)).failure = none := by
      cases hfailure : (Frame.drain max (seen ++ first)).failure with
      | none => rfl
      | some e =>
        rw [Frame.drain_append_of_failure hfailure] at hfront
        cases hfront
    rw [List.cons_append, soundChunks, hfirst]
    exact congrArg _ (ih hfront hchunk)

/-- Either all chunks are sound, or the one behind the sound ones shows a failure. -/
theorem soundChunks_cases {seen : Bytes} (hseen : (Frame.drain max seen).failure = none)
    (chunks : List Bytes) :
    (soundChunks max seen chunks = chunks ∧ (Frame.drain max (seen ++ chunks.flatten)).failure = none)
      ∨ ∃ front chunk back, chunks = front ++ chunk :: back
        ∧ (Frame.drain max (seen ++ front.flatten)).failure = none
        ∧ (Frame.drain max (seen ++ front.flatten ++ chunk)).failure ≠ none := by
  induction chunks generalizing seen with
  | nil => exact .inl ⟨rfl, by simpa using hseen⟩
  | cons first chunks ih =>
    cases hfirst : (Frame.drain max (seen ++ first)).failure with
    | some e => exact .inr ⟨[], first, chunks, rfl, by simpa using hseen, by simp [hfirst]⟩
    | none =>
      rcases ih hfirst with ⟨hall, hnone⟩ | ⟨front, chunk, back, rfl, hfront, hchunk⟩
      · refine .inl ⟨?_, by simpa using hnone⟩
        rw [soundChunks, hfirst]
        exact congrArg _ hall
      -- the first bad chunk of the rest is the first bad chunk of all
      · exact .inr ⟨first :: front, chunk, back, rfl, by simpa using hfront, by simpa using hchunk⟩

/-! ## What a cut stream comes to -/

/-- A chunk in which a malformed frame shows itself is given up: none of its frames is answered. -/
theorem received_of_failure {inbox : Inbox} {chunk : Bytes} {e : TransportError}
    (h : ((inbox.push chunk).drain service.maxFrame).failure = some e) (answers : WriteAnswers) :
    service.received token inbox chunk answers =
      pure { inbox := ((inbox.push chunk).drain service.maxFrame).inbox, failure := some e } := by
  simp only [received, h]

/-- The frames of a sound chunk are answered, one after the other. -/
theorem received_of_none {inbox : Inbox} {chunk : Bytes}
    (h : ((inbox.push chunk).drain service.maxFrame).failure = none) (answers : WriteAnswers) :
    service.received token inbox chunk answers =
      (do
        let drained := (inbox.push chunk).drain service.maxFrame
        let (written, failure) ← service.answerAll token [] drained.frames answers
        return { inbox := drained.inbox, written, failure }) := by
  simp only [received, h]

/-- With what was seen drained into the inbox, further chunks come to answering the frames that the sound
ones among them complete. -/
theorem receiveAll_append {seen : Bytes} {inbox : Inbox}
    (hseen : (Frame.drain service.maxFrame seen).failure = none)
    (hinbox : inbox.bytes = (Frame.drain service.maxFrame seen).rest) (chunks : List Bytes)
    (answers : WriteAnswers) :
    ∃ later, (Frame.drain service.maxFrame (seen ++ (soundChunks service.maxFrame seen chunks).flatten)).frames
        = (Frame.drain service.maxFrame seen).frames ++ later
      ∧ service.receiveAll token inbox chunks answers
        = service.answerBefore token later (Frame.drain service.maxFrame (seen ++ chunks.flatten)).failure
            answers := by
  -- the invariant: the inbox holds what draining all of `seen` leaves
  induction chunks generalizing seen inbox answers with
  | nil =>
    refine ⟨[], by simp [soundChunks], ?_⟩
    simp [receiveAll, answerBefore, answerAll, hseen]
  | cons chunk chunks ih =>
    -- what the inbox gives for this chunk is what draining goes on with behind `seen`
    have hinboxDrain := (inbox.push chunk).drain_eq service.maxFrame
    have hnext := Frame.drain_append hseen chunk
    rw [Inbox.bytes_push, hinbox] at hinboxDrain
    rw [hinboxDrain] at hnext
    rw [List.flatten_cons, ← List.append_assoc, receiveAll]
    cases hfailure : ((inbox.push chunk).drain service.maxFrame).failure with
    | some e =>
      have hfirst : (Frame.drain service.maxFrame (seen ++ chunk)).failure = some e := by rw [hnext, hfailure]
      refine ⟨[], by simp [soundChunks, hfirst], ?_⟩
      rw [service.received_of_failure token hfailure, Frame.drain_append_of_failure hfirst]
      simp [answerBefore, answerAll]
    | none =>
      have hfirst : (Frame.drain service.maxFrame (seen ++ chunk)).failure = none := by rw [hnext, hfailure]
      have hrest : ((inbox.push chunk).drain service.maxFrame).inbox.bytes
          = (Frame.drain service.maxFrame (seen ++ chunk)).rest := by rw [hnext]
      obtain ⟨later, hframes, -⟩ := ih hfirst hrest answers
      refine ⟨((inbox.push chunk).drain service.maxFrame).frames ++ later, ?_, ?_⟩
      · rw [soundChunks, hfirst, List.flatten_cons, ← List.append_assoc, hframes, hnext, List.append_assoc]
      · rw [service.received_of_none token hfailure, answerBefore, service.answerAll_append]
        simp only [bind_assoc, pure_bind]
        refine congrArg _ (funext fun (written, refused) => ?_)
        cases refused with
        | some e => simp
        | none =>
          obtain ⟨later', hframes', hlater⟩ := ih hfirst hrest (answers.drop written.length)
          have hsame : later' = later := List.append_cancel_left (hframes'.symm.trans hframes)
          simp [hlater, hsame, answerBefore]

/-- Whatever the cut, exactly the frames that are complete in the sound chunks are answered. -/
theorem receiveAll_eq (chunks : List Bytes) (answers : WriteAnswers) :
    service.receiveAll token .empty chunks answers =
      service.answerBefore token
        (Frame.drain service.maxFrame (soundChunks service.maxFrame [] chunks).flatten).frames
        (Frame.drain service.maxFrame chunks.flatten).failure answers := by
  have hempty : Frame.drain service.maxFrame [] = ⟨[], none, []⟩ := Frame.drain_of_incomplete rfl
  have hseen : (Frame.drain service.maxFrame []).failure = none := by rw [hempty]
  have hinbox : Inbox.empty.bytes = (Frame.drain service.maxFrame []).rest := by rw [hempty]; rfl
  obtain ⟨later, hframes, hlater⟩ := service.receiveAll_append token hseen hinbox chunks answers
  rw [hempty, List.nil_append, List.nil_append] at hframes
  rw [hlater, hframes, List.nil_append]

/-- A service that answers every frame alike and at once. -/
def alike (max : Nat) : FrameService Unit where
  maxFrame := max
  writeLimit := .zero
  answer _ _ := pure (.reply (.helloAck .ok))
  release _ state := state

/-- How many frames were answered can be told from what was written. -/
theorem answerBefore_alike (frames : List Frame) (failure : Option TransportError) :
    (alike max).answerBefore token frames failure []
      = pure (List.replicate frames.length (Frame.helloAck .ok).encode, failure) := by
  have hall : (alike max).answerAll token [] frames []
      = pure (List.replicate frames.length (Frame.helloAck .ok).encode, none) := by
    induction frames with
    | nil => rfl
    | cons frame frames ih =>
      show (alike max).answerAll token [(Frame.helloAck .ok).encode] frames [] = _
      rw [answerAll_eq, ih]
      rfl
  rw [answerBefore, hall]
  rfl

/-- A failure that shows itself fixes the frames of the whole stream. -/
theorem drain_frames_of_cut {front back : List Bytes} {chunk : Bytes}
    (hchunk : (Frame.drain max (front.flatten ++ chunk)).failure ≠ none) :
    (Frame.drain max (front ++ chunk :: back).flatten).frames = (Frame.drain max (front.flatten ++ chunk)).frames := by
  obtain ⟨e, hfailure⟩ := Option.ne_none_iff_exists'.mp hchunk
  rw [List.flatten_append, List.flatten_cons, ← List.append_assoc, Frame.drain_append_of_failure hfailure]

/-- The chunks in front of the first that does not drain to its end. -/
theorem soundChunks_nil_append_cons {front back : List Bytes} {chunk : Bytes}
    (hfront : (Frame.drain max front.flatten).failure = none)
    (hchunk : (Frame.drain max (front.flatten ++ chunk)).failure ≠ none) :
    soundChunks max [] (front ++ chunk :: back) = front :=
  soundChunks_append_cons (by simpa using hfront) (by simpa using hchunk)

/-- The service that answers all frames alike tells how many of them were answered: if the cut makes no difference to it,
the chunk in which a malformed frame shows itself completes none. -/
theorem frames_eq_of_alike {front back : List Bytes} {chunk : Bytes}
    (hfront : (Frame.drain max front.flatten).failure = none)
    (hchunk : (Frame.drain max (front.flatten ++ chunk)).failure ≠ none)
    (hharmless : (alike max).receiveAll 1 .empty (front ++ chunk :: back) []
      = (alike max).inOrder 1 (front ++ chunk :: back).flatten []) :
    (Frame.drain max (front.flatten ++ chunk)).frames = (Frame.drain max front.flatten).frames := by
  have hactual := (alike max).receiveAll_eq 1 (front ++ chunk :: back) []
  have hmax : (alike max).maxFrame = max := rfl
  rw [hharmless, inOrder, answerBefore_alike, answerBefore_alike, hmax, soundChunks_nil_append_cons hfront hchunk,
    drain_frames_of_cut hchunk] at hactual
  have hlength := congrArg List.length (Prod.mk.inj (Routine.done.inj hactual)).1
  rw [List.length_replicate, List.length_replicate] at hlength
  -- frames in front stay in front, so as many are the same
  have happend := Frame.drain_append hfront chunk
  rw [happend, List.length_append] at hlength
  have hnone : (Frame.drain max ((Frame.drain max front.flatten).rest ++ chunk)).frames = [] :=
    List.length_eq_zero_iff.mp (by omega)
  rw [happend]
  show (Frame.drain max front.flatten).frames ++ _ = _
  rw [hnone, List.append_nil]

/-- **What the cut of a stream does.** Every service answers the frames that are complete in front of the
chunk in which a malformed frame shows itself. So a cut is harmless, for all services, exactly if that
chunk completes no frame; in particular if the stream has no malformed frame. -/
theorem receiveAll_eq_inOrder_iff (max : Nat) (chunks : List Bytes) :
    (∀ (τ : Type) (service : FrameService τ) (token : Token) (answers : WriteAnswers),
        service.maxFrame = max →
        service.receiveAll token .empty chunks answers =
          service.answerBefore token (Frame.drain max (soundChunks max [] chunks).flatten).frames
            (Frame.drain max chunks.flatten).failure answers)
      ∧ ((∀ (τ : Type) (service : FrameService τ) (token : Token) (answers : WriteAnswers),
            service.maxFrame = max →
            service.receiveAll token .empty chunks answers = service.inOrder token chunks.flatten answers)
          ↔ ∀ front chunk back, chunks = front ++ chunk :: back →
              (Frame.drain max front.flatten).failure = none →
              (Frame.drain max (front.flatten ++ chunk)).failure ≠ none →
              (Frame.drain max (front.flatten ++ chunk)).frames = (Frame.drain max front.flatten).frames) := by
  -- what is answered for any cut; the two sides of the equivalence are compared through it
  have hactual : ∀ (τ : Type) (service : FrameService τ) (token : Token) (answers : WriteAnswers),
      service.maxFrame = max →
      service.receiveAll token .empty chunks answers =
        service.answerBefore token (Frame.drain max (soundChunks max [] chunks).flatten).frames
          (Frame.drain max chunks.flatten).failure answers := by
    rintro τ service token answers rfl
    exact service.receiveAll_eq token chunks answers
  refine ⟨hactual, ?_, fun hnothing τ service token answers hmax => ?_⟩
  · rintro hharmless front chunk back rfl hfront hchunk
    exact frames_eq_of_alike hfront hchunk (hharmless Unit (alike max) 1 [] rfl)
  · rw [hactual τ service token answers hmax, inOrder, hmax]
    have hempty : (Frame.drain max []).failure = none := by rw [Frame.drain_of_incomplete rfl]
    rcases soundChunks_cases hempty chunks with ⟨hall, -⟩ | ⟨front, chunk, back, rfl, hfront, hchunk⟩
    · rw [hall]
    · rw [List.nil_append] at hfront hchunk
      rw [soundChunks_nil_append_cons hfront hchunk, drain_frames_of_cut hchunk,
        hnothing front chunk back rfl hfront hchunk]

/-! ## A greeting that a cut loses -/

/-- A bus with one external subscriber and without a network. -/
def loneExtBus : Bus .component (Trial.World .component Unit) where
  config := {}
  subscribers := #[⟨"ext", "", .general, false, [], [], .external (.ofConfig {} (.local "ext"))⟩]

/-- A server on a bus whose one subscriber is external, and whose dispatches bring nothing up. -/
def loneExtServer : FrameService (Server.State loneExtBus) :=
  Server.service {} (Bus.dispatch (Trial.deserted .component) 1)

/-- What comes of chunks on a connection of that server, with nothing else going on: what is written, the
failure, and whether the connection is bound and the subscriber activated. -/
def loneExtAfter (chunks : List Bytes) : Option (List Bytes × Option TransportError × Bool × Bool) :=
  ((loneExtServer.receiveAll 1 .empty chunks []).alone { run := loneExtBus.start { net := () } }).map
    fun ((written, failure), state) =>
      (written, failure, state.mayRaise 1 (.ofName "ext"), state.run.isActivated "ext")

/-- A greeting and a malformed frame behind it: in two chunks the greeting is answered, in one it is lost. -/
theorem loneExtAfter_greeting_malformed :
    loneExtAfter [(Frame.hello (.ofName "ext") "ext").encode, [0, 0, 0, 1, 0xff]]
        = some ([(Frame.helloAck .ok).encode], some (.invalidFrame "unknown frame tag"), true, true)
      ∧ loneExtAfter [(Frame.hello (.ofName "ext") "ext").encode ++ [0, 0, 0, 1, 0xff]]
        = some ([], some (.invalidFrame "unknown frame tag"), false, false) := by
  decide +kernel

end EventBus.FrameService
