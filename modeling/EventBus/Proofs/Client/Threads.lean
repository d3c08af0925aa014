import EventBus.Client
import EventBus.Routine
import Mathlib.Control.Monad.Basic

/-!
# Calls of several threads

Threads that share a client make their calls in turns: a call has the connection for itself until it is over. Only
when it was answered with a frame of the wrong kind does it give the connection up, and close it in a turn of its own.

`alone_perform_push`, `alone_perform_request` and `alone_perform_hello`: what a call of one thread comes to when no other
thread makes a turn.
-/

namespace EventBus

/-- A call on a client. -/
inductive Call where
  | push (envelope : Envelope)
  | request (envelope : Envelope) (out : Option EventOut)
  | hello (name : String)

/-- What a call comes to. -/
structure Report where
  /-- A push has no status. -/
  result : Except TransportError (Option Status)
  /-- The out-structure of the caller. -/
  out : Option EventOut := none
  deriving DecidableEq

namespace Call

/-- What a call sends. -/
def frame : Call → Frame
  | push envelope => .push envelope
  | request envelope out => .request envelope out
  | hello name => .hello (.ofName name) name

/-- What a call makes of the frame that answers it, if that is of the kind that it waits for. -/
def report? : Call → Frame → Option Report
  | request _ out, .reply status returned => some ⟨.ok (some status), Client.writtenBack out returned⟩
  | hello _, .helloAck status => some { result := .ok (some status) }
  | _, _ => none

/-- A call that fails leaves the out-structure as it was. -/
def failed : Call → TransportError → Report
  | request _ out, e => ⟨.error e, out⟩
  | _, e => { result := .error e }

/-- The kind of frame that a call waits for. -/
def awaited : Call → String
  | hello _ => "hello_ack"
  | _ => "reply"

end Call

namespace Client

variable {σ : Type} (env : Environment σ) (client : Client)

/-- Sends a frame and makes a report of the answer. -/
def await (call : Call) : Routine (Session σ) Report := do
  match ← .atomic (client.call env call.frame) with
  | .error e => return call.failed e
  | .ok answer =>
    match call.report? answer with
    | some report => return report
    | none =>
      -- other threads may have the connection in between
      .change (reset env)
      return call.failed (.unexpectedFrame call.awaited answer.label)

/-- The turns of a call. A push awaits nothing. -/
def perform : Call → Routine (Session σ) Report
  | .push envelope => do
    let result ← .atomic (client.push env envelope)
    return { result := result.map fun _ => none }
  | call => client.await env call

variable {env client} {session : Session σ}

theorem alone_perform_push (envelope : Envelope) :
    (client.perform env (.push envelope)).alone session
      = some ({ result := (client.push env envelope session).1.map fun _ => none },
        (client.push env envelope session).2) := rfl

theorem alone_perform_request (envelope : Envelope) (out : Option EventOut) :
    (client.perform env (.request envelope out)).alone session
      = some (⟨(client.request env envelope out session).1.map some, (client.request env envelope out session).2.1⟩,
        (client.request env envelope out session).2.2) := by
  show (client.await env (.request envelope out)).alone session = _
  rw [await, Routine.alone_bind, Routine.alone_atomic, request]
  show Option.bind (some (client.call env (.request envelope out) session)) _ = _
  generalize client.call env (.request envelope out) session = answered
  obtain ⟨e | answer, left⟩ := answered
  · rfl
  · cases answer <;> rfl

theorem alone_perform_hello (name : String) :
    (client.perform env (.hello name)).alone session
      = some ({ result := (client.hello env name session).1.map some }, (client.hello env name session).2) := by
  show (client.await env (.hello name)).alone session = _
  rw [await, Routine.alone_bind, Routine.alone_atomic, hello]
  show Option.bind (some (client.call env (.hello (.ofName name) name) session)) _ = _
  generalize client.call env (.hello (.ofName name) name) session = answered
  obtain ⟨e | answer, left⟩ := answered
  · rfl
  · cases answer <;> rfl

end Client

end EventBus
