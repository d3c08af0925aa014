import EventBus.Inbox
import EventBus.Queue
import EventBus.Routine
import EventBus.Socket

/-!
# Services

A `Service` is what a reactor does with its connections: it is told when one opens, what arrives on it,
and when it closes. What arrives comes in chunks that end anywhere; a service keeps what it cannot use
yet in the connection's inbox.

A `FrameService` answers one frame at a time. As a service it first takes all complete frames out of the
inbox and the new chunk; only if none of them is malformed does it answer them, one after the other, and
it stops at the first one that it refuses or whose reply cannot be written.

Several workers use one service at a time, so what it does with a chunk is a `Routine` on its state.
-/

namespace EventBus

/-- What a chunk leads to. -/
structure Reaction where
  inbox : Inbox
  /-- What was written to the connection, in order. -/
  written : List Bytes := []
  closing : Bool := false
  /-- The failure that ends the connection, if there is one. -/
  failure : Option TransportError := none

/-- How the sockets answer: for each write in turn, the answers to its attempts. Behind these, every
write is taken whole. -/
abbrev WriteAnswers := List (List WriteAnswer)

/-- What a reactor does with its connections. -/
structure Service (τ : Type) where
  opened : Token → τ → τ
  /-- A chunk arrived on a connection with this inbox. -/
  received : Token → Inbox → (chunk : Bytes) → WriteAnswers → Routine τ Reaction
  /-- A connection with this inbox is closed. -/
  closed : Token → Inbox → τ → τ

/-- The answer to one frame. -/
inductive Answer where
  | silent
  | reply (frame : Frame)
  /-- The frame should not have come; the connection ends. -/
  | refuse (error : TransportError)

/-- A service that answers one frame at a time. -/
structure FrameService (τ : Type) where
  maxFrame : Nat
  /-- How long a write waits for a full socket. -/
  writeLimit : Duration
  answer : Token → Frame → Routine τ Answer
  release : Token → τ → τ

namespace FrameService

variable {τ : Type}

/-- Answers frames in order, behind what was already written (newest first). -/
def answerAll (service : FrameService τ) (token : Token) (written : List Bytes) :
    List Frame → WriteAnswers → Routine τ (List Bytes × Option TransportError)
  | [], _ => pure (written.reverse, none)
  | frame :: rest, answers => do
    match ← service.answer token frame with
    | .silent => answerAll service token written rest answers
    | .refuse e => return (written.reverse, some e)
    | .reply frame =>
      match Socket.sendBytes service.writeLimit answers.head?.toList.flatten frame.encode with
      | (bytes, .ok ()) => answerAll service token (bytes :: written) rest answers.tail
      -- what was written before the failure has been sent all the same
      | (bytes, .error e) => return ((bytes :: written).reverse, some e)

/-- Takes the complete frames out of what has arrived, and answers them if none is malformed. -/
def received (service : FrameService τ) (token : Token) (inbox : Inbox) (chunk : Bytes)
    (answers : WriteAnswers) : Routine τ Reaction := do
  let drained := (inbox.push chunk).drain service.maxFrame
  -- a malformed frame also silences the well-formed ones in front of it
  match drained.failure with
  | some e => return { inbox := drained.inbox, failure := some e }
  | none =>
    let (written, failure) ← service.answerAll token [] drained.frames answers
    return { inbox := drained.inbox, written, failure }

def toService (service : FrameService τ) : Service τ where
  opened _ state := state
  received := service.received
  closed token _ state := service.release token state

end FrameService

end EventBus
