import EventBus.ByteStream
import EventBus.Error.Transport

/-!
# Sockets

A `Socket` is one accepted connection as its two ends see it: what the peer sent and was not read yet,
what was written and the peer has not fetched yet, and who has closed.

`send` writes bytes to a socket that does not block. The socket may take a part of them, be interrupted,
be full for a while, or fail; `send` goes on until all bytes are written, and gives up only when the
socket fails or stays full too long.
-/

namespace EventBus

/-- An accepted connection. -/
structure Socket where
  /-- What the peer sent and was not read yet. -/
  incoming : ByteStream := .empty
  ended : Bool := false
  /-- What was written and the peer has not fetched yet, in pieces, newest first. -/
  outgoing : List Bytes := []
  closed : Bool := false

/-- How a socket takes part in one attempt to write. -/
inductive WriteAnswer where
  | takes (n : Nat)
  | interrupted
  /-- It is full, and the time to wait for it is over or not. -/
  | full (expired : Bool)
  | fails (error : IoError)
  deriving DecidableEq

namespace Socket

/-- Writes bytes, given how the socket answers one attempt after the other; behind these answers it
takes everything. Gives what was written and how the write ended. -/
def sendBytes (limit : Duration) : List WriteAnswer → Bytes → Bytes × Except TransportError Unit
  | _, [] => ([], .ok ())
  | [], bytes => (bytes, .ok ())
  -- a socket that takes nothing takes nothing any more
  | .takes 0 :: _, _ => ([], .error .connectionClosed)
  | .takes n :: answers, bytes =>
    let (written, result) := sendBytes limit answers (bytes.drop n)
    (bytes.take n ++ written, result)
  | .interrupted :: answers, bytes => sendBytes limit answers bytes
  | .full false :: answers, bytes => sendBytes limit answers bytes
  | .full true :: _, _ => ([], .error (.timeout limit))
  | .fails e :: _, _ => ([], .error (.io e))

/-- What the peer fetches: all that was written so far. -/
def fetch (socket : Socket) : Bytes × Socket :=
  (socket.outgoing.reverse.flatten, { socket with outgoing := [] })

end Socket

end EventBus
