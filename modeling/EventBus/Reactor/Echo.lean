import EventBus.Service

/-!
# The echo service

A service for trials of a reactor. It sends every chunk back, or keeps it in the inbox when it is quiet.
A chunk that begins with `!` is a failure, and one that begins with `Q` asks for the connection to be
closed. All that it is told is recorded.
-/

namespace EventBus.Reactor.Echo

/-- Something that the service was told. -/
inductive Event where
  | opened (token : Token)
  | received (token : Token) (chunk : Bytes)
  /-- A connection was closed, with this left in its inbox. -/
  | closed (token : Token) (inbox : Bytes)

namespace Event

def token : Event → Token
  | opened token | received token _ | closed token _ => token

end Event

def react (quiet : Bool) (limit : Duration) (inbox : Inbox) (chunk : Bytes) (answers : WriteAnswers) :
    Reaction :=
  match chunk with
  | 0x21 :: _ => { inbox, failure := some (.invalidFrame "refused") }
  | 0x51 :: _ => { inbox, closing := true }
  | _ =>
    if quiet then { inbox := inbox.push chunk }
    else
      let (written, result) := Socket.sendBytes limit answers.head?.toList.flatten chunk
      { inbox
        written := [written]
        failure :=
          match result with
          | .ok () => none
          | .error e => some e }

/-- The echo service; its state is what it was told, newest first. -/
def service (quiet : Bool) (limit : Duration) : Service (List Event) where
  opened token events := .opened token :: events
  received token inbox chunk answers :=
    .atomic fun events => (react quiet limit inbox chunk answers, .received token chunk :: events)
  closed token inbox events := .closed token inbox.bytes :: events

end EventBus.Reactor.Echo
