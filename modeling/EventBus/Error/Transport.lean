import EventBus.Duration
import EventBus.Error.Io
import EventBus.Status

/-!
# Failures of the transport

What can go wrong between the bus and a remote subscriber: frames that are refused, answers that do
not come, peers that go away.
-/

namespace EventBus

/-- A failure of the transport. -/
inductive TransportError where
  /-- The body of a frame exceeds the configured maximum. -/
  | frameTooLarge (size max : Nat)
  /-- The header or the body of a frame does not decode. -/
  | invalidFrame (reason : String)
  /-- A valid frame arrived where another kind was expected. -/
  | unexpectedFrame (expected got : String)
  /-- A frame names a code outside the catalog. -/
  | unknownEvent (code : UInt16)
  /-- The peer closed the connection in the middle of an exchange. -/
  | connectionClosed
  | timeout (limit : Duration)
  /-- The queue of ready connections is full. -/
  | queueFull (capacity : Nat)
  /-- A handshake was answered with a failure. -/
  | handshakeRejected (status : Status)
  | io (error : IoError)
  deriving DecidableEq, Repr

namespace TransportError

def label : TransportError → String
  | frameTooLarge .. => "transport_frame_too_large"
  | invalidFrame .. => "transport_invalid_frame"
  | unexpectedFrame .. => "transport_unexpected_frame"
  | unknownEvent .. => "transport_unknown_event"
  | connectionClosed => "transport_connection_closed"
  | timeout .. => "transport_timeout"
  | queueFull .. => "transport_queue_full"
  | handshakeRejected .. => "transport_handshake_rejected"
  | io .. => "transport_io"

def message : TransportError → String
  | frameTooLarge size max => s!"frame too large: {size} bytes (max {max})"
  | invalidFrame reason => s!"invalid frame: {reason}"
  | unexpectedFrame expected got => s!"unexpected frame: expected {expected}, got {got}"
  | unknownEvent code => s!"unknown event code {code.toNat}"
  | connectionClosed => "connection closed by peer"
  | timeout limit => s!"no reply within {limit.text}"
  | queueFull capacity => s!"ready queue full (capacity {capacity})"
  | handshakeRejected status => s!"handshake rejected with {status.text}"
  | io error => s!"io error: {error.text}"

/-- Whether the same operation may succeed when it is tried again. A framing failure is permanent for
its connection; a timeout and a full queue are not. -/
def isRecoverable : TransportError → Bool
  | timeout .. | queueFull .. => true
  | io error => error.kind = .wouldBlock || error.kind = .interrupted
  | _ => false

def isFrameTooLarge : TransportError → Bool
  | frameTooLarge .. => true
  | _ => false

/-- What a failed read or write means for an exchange that waits up to `limit`: a wait that ran out is
a timeout, and an early end of the stream is a closed connection. -/
def ofIo (error : IoError) (limit : Duration) : TransportError :=
  match error.kind with
  | .wouldBlock | .timedOut => timeout limit
  | .unexpectedEof => connectionClosed
  | _ => io error

end TransportError

end EventBus
