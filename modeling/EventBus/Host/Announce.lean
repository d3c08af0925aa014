import EventBus.Client

/-!
# Announcing a subscriber

A host announces its subscriber to a bus server over a connection that it opens for this alone.
-/

namespace EventBus.Host

variable {σ : Type}

/-- Announces a name; a verdict other than success is a failure. -/
def announce (env : Environment σ) (client : Client) (name : String) (world : σ) :
    Except TransportError Unit × σ :=
  let (result, session) := client.hello env name ⟨none, world⟩
  let world := (Client.reset env session).world
  match result with
  | .error e => (.error e, world)
  | .ok status => (if status.isOk then .ok () else .error (.handshakeRejected status), world)

end EventBus.Host
