import EventBus.Endpoint
import EventBus.Frame.Reader

/-!
# Environments

What a bus and its clients find around them: sockets, and a clock. An `Environment` says how its state
answers each operation; the state itself may be anything, so a statement about all environments covers
every peer and every network.
-/

namespace EventBus

/-- A number by which an environment knows an open connection. -/
abbrev Handle := Nat

/-- The answers of the surroundings, on states of type `σ`. -/
structure Environment (σ : Type) where
  connect : Endpoint → σ → Except IoError Handle × σ
  /-- Writes bytes to a connection, all of them or with a failure. -/
  write : Handle → Bytes → σ → Except IoError Unit × σ
  /-- Waits for what the peer of a connection sends, up to a limit or for ever: what has arrived since
  the last wait, and how the stream goes on behind it. -/
  receive : Handle → Option Duration → σ → Frame.Reader × σ
  close : Handle → σ → σ
  now : σ → Duration

end EventBus
