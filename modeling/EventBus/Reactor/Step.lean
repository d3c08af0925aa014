import EventBus.Reactor

/-!
# Steps of a reactor

What the threads of a reactor and its surroundings do, one step at a time. `step?` gives the state after
a `Move`, and `none` where the move is not possible. Any order of possible moves is a run: which thread
goes next, when peers send, and how reads, writes and arming go are all part of the move.
-/

namespace EventBus.Reactor

/-- How an attempt to read from a connection goes. -/
inductive Read where
  | chunk (length : Nat)
  | ended
  | nothing
  | interrupted
  | failed
  deriving DecidableEq

/-- One step. -/
inductive Move where
  | dial
  | sends (socket : Nat) (bytes : Bytes)
  | ends (socket : Nat)
  /-- Someone asks for a connection to be closed. -/
  | disconnect (token : Token)
  /-- Someone asks the reactor to shut down. -/
  | shutDown
  /-- The poll thread sees whether it has to stop. -/
  | look
  /-- The poll thread is told of events; connections among them are disarmed. -/
  | wait (events : List PollEvent)
  /-- The poll thread cannot wait, and stops. -/
  | waitFails
  /-- The poll thread handles its next event. -/
  | handle
  /-- The poll thread accepts a connection. -/
  | accept
  /-- The poll thread finds nothing to accept, or cannot. -/
  | acceptDone
  /-- The poll thread arms a new connection, or cannot. -/
  | register (ok : Bool)
  /-- The poll thread arms a connection again that found the queue full, or cannot. -/
  | rearmRejected (ok : Bool)
  /-- A worker takes an entry out of the queue. -/
  | pop (worker : Nat)
  /-- A worker sees whether its connection is to be closed. -/
  | check (worker : Nat)
  /-- A worker reads from its connection. The answers are those that the socket will give to what is
  written for a chunk. -/
  | read (worker : Nat) (read : Read) (answers : WriteAnswers)
  /-- A worker goes on serving a chunk: it makes the next turn, or does what the chunk led to. -/
  | serve (worker : Nat)
  /-- A worker arms its connection again, or cannot. -/
  | rearm (worker : Nat) (ok : Bool)
  | leave (worker : Nat)
  | pushStops
  | join
  /-- A connection that is left is torn down. -/
  | closeNext
  /-- The listener is closed, and with it the sockets that still wait to be accepted. -/
  | finish

variable {τ : Type}

/-- Takes a connection out of the backlog: gives it a token, enters it, and tells the service. -/
def enroll (service : Service τ) (socket : Nat) (backlog : List Nat) (r : Reactor τ) : Reactor τ :=
  let token := r.nextToken
  { r with
    backlog
    nextToken := token + 1
    connections := r.connections ++ [(token, { socket })]
    state := service.opened token r.state
    callbacks := .opened token :: r.callbacks }

/-- Takes a chunk off the socket of a connection and begins to serve it. -/
def receive (service : Service τ) (token : Token) (conn : Connection) (length : Nat)
    (answers : WriteAnswers) (r : Reactor τ) : Option (Routine τ Reaction × Reactor τ) :=
  match r.sockets[conn.socket]? with
  | none => none
  | some socket =>
    let chunk := socket.incoming.take length
    let r := r.modifySocket conn.socket fun socket =>
      { socket with incoming := socket.incoming.drop length }
    some (service.received token conn.inbox chunk answers,
      { r with callbacks := .received token chunk :: r.callbacks })

/-- Does with a connection what a chunk led to. -/
def conclude (token : Token) (conn : Connection) (reaction : Reaction) (r : Reactor τ) : Reactor τ :=
  let r := r.modifySocket conn.socket fun socket =>
    { socket with outgoing := reaction.written.reverse ++ socket.outgoing }
  let r := r.modifyConnection token fun conn => { conn with inbox := reaction.inbox }
  if reaction.closing then r.close token conn else r

/-- Whether an attempt to read can go this way. -/
def canRead (r : Reactor τ) (conn : Connection) (read : Read) : Bool :=
  match r.sockets[conn.socket]? with
  | none => false
  | some socket =>
    match read with
    | .chunk n => 0 < n && n ≤ r.config.readBufferClamped && n ≤ socket.incoming.size
    | .ended => socket.incoming.isEmpty && (socket.ended || socket.closed)
    | .nothing => socket.incoming.isEmpty && !(socket.ended || socket.closed)
    | .interrupted | .failed => true

def setWorker (worker : Nat) (next : Worker τ) (r : Reactor τ) : Reactor τ :=
  { r with workers := r.workers.setIfInBounds worker next }

/-- Whether the poll thread can be told of an event: each connection only while it is armed. -/
def canHappen (r : Reactor τ) : PollEvent → Bool
  | .knock => !r.backlog.isEmpty
  | .ready token => (r.connection? token).any (·.armed)

def threadsLeft (r : Reactor τ) : Bool :=
  r.poll != .stopped || r.workers.any (!·.hasStopped)

/-- Fetches events, which disarms their connections, whoever handles them and when. -/
def fetch (events : List PollEvent) (r : Reactor τ) : Reactor τ :=
  events.foldl
    (fun r event =>
      match event with
      | .knock => r
      | .ready token => r.disarm token) r

def pollStep? (service : Service τ) (r : Reactor τ) : Move → Option (Reactor τ)
  | .look =>
    match r.poll with
    | .looping => some { r with poll := if r.lifecycle = .running then .waiting else .stopped }
    | _ => none
  | .wait events =>
    match r.poll with
    | .waiting =>
      if events.length ≤ r.config.maxEventsClamped && events.all r.canHappen && events.Nodup then
        some { r.fetch events with poll := .handling events }
      else none
    | _ => none
  | .waitFails =>
    match r.poll with
    | .waiting => some { r with poll := .stopped }
    | _ => none
  | .handle =>
    match r.poll with
    | .handling [] => some { r with poll := .looping }
    | .handling (.knock :: events) => some { r with poll := .accepting events }
    | .handling (.ready token :: events) =>
      match r.queue.push token with
      | .ok queue => some { r with queue, poll := .handling events }
      | .error _ => some { r with poll := .rejected token events }
    | _ => none
  | .accept =>
    match r.poll, r.backlog with
    | .accepting events, socket :: backlog =>
      some { r.enroll service socket backlog with poll := .registering r.nextToken events }
    | _, _ => none
  | .acceptDone =>
    match r.poll with
    | .accepting events => some { r with poll := .handling events }
    | _ => none
  | .register ok =>
    match r.poll with
    | .registering token events =>
      some { (if ok then r.arm token else r.tearDown service token) with poll := .accepting events }
    | _ => none
  | .rearmRejected ok =>
    match r.poll with
    | .rejected token events =>
      some { (if ok then r.arm token else r.tearDown service token) with poll := .handling events }
    | _ => none
  | _ => none

def workerStep? (service : Service τ) (r : Reactor τ) : Move → Option (Reactor τ)
  | .pop worker =>
    match r.workers[worker]?, r.queue.pop? with
    | some .idle, some (.stop, queue) => some ({ r with queue }.setWorker worker .stopped)
    | some .idle, some (.connection token, queue) =>
      -- the connection may have been torn down since it was queued
      let next := if (r.connection? token).isSome then .checking token else .idle
      some ({ r with queue }.setWorker worker next)
    | _, _ => none
  | .check worker =>
    match r.workers[worker]? with
    | some (.checking token) =>
      let mayRead := (r.connection? token).any fun conn => !conn.closing
      some (r.setWorker worker (if mayRead then .reading token else .leaving token))
    | _ => none
  | .read worker read answers =>
    match r.workers[worker]? with
    | some (.reading token) =>
      match r.connection? token with
      | none => none
      | some conn =>
        if r.canRead conn read then
          match read with
          | .chunk length =>
            (r.receive service token conn length answers).map fun (routine, r) =>
              r.setWorker worker (.serving token routine)
          | .ended | .failed => some (r.setWorker worker (.leaving token))
          | .nothing => some (r.setWorker worker (.rearming token))
          | .interrupted => some (r.setWorker worker (.checking token))
        else none
    | _ => none
  | .serve worker =>
    match r.workers[worker]? with
    | some (.serving token (.done reaction)) =>
      let next : Worker τ := if reaction.failure.isNone then .checking token else .leaving token
      (r.connection? token).map fun conn => (r.conclude token conn reaction).setWorker worker next
    | some (.serving _ .stuck) => none -- the worker never gets on
    | some (.serving token routine) =>
      let (rest, state) := routine.turn r.state
      some ({ r with state }.setWorker worker (.serving token rest))
    | _ => none
  | .rearm worker ok =>
    match r.workers[worker]? with
    | some (.rearming token) =>
      if ok then some ((r.arm token).setWorker worker .idle)
      else some (r.setWorker worker (.leaving token))
    | _ => none
  | .leave worker =>
    match r.workers[worker]? with
    | some (.leaving token) => some ((r.tearDown service token).setWorker worker .idle)
    | _ => none
  | _ => none

def shutdownStep? (service : Service τ) (r : Reactor τ) : Move → Option (Reactor τ)
  | .shutDown => if r.lifecycle = .running then some { r with lifecycle := .cancelled } else some r
  | .pushStops =>
    if r.lifecycle = .cancelled then
      some { r with queue := r.queue.pushStops r.workers.size, lifecycle := .joining }
    else none
  | .join =>
    if r.lifecycle = .joining && !r.threadsLeft then some { r with lifecycle := .closing } else none
  | .closeNext =>
    match r.lifecycle, r.connections with
    | .closing, (token, _) :: _ => some (r.tearDown service token)
    | _, _ => none
  | .finish =>
    if r.lifecycle = .closing && r.connections.isEmpty then
      -- with the listener go the peers that were not accepted yet
      some { r.backlog.foldl closeSocket r with backlog := [], lifecycle := .finished }
    else none
  | _ => none

def outerStep? (r : Reactor τ) : Move → Option (Reactor τ)
  | .dial =>
    if r.lifecycle = .finished then none
    else some { r with sockets := r.sockets.push {}, backlog := r.backlog ++ [r.sockets.size] }
  | .sends socket bytes =>
    if r.sockets[socket]?.any fun s => !s.ended && !s.closed then
      some (r.modifySocket socket fun s => { s with incoming := s.incoming.push bytes })
    else none
  | .ends socket =>
    if socket < r.sockets.size then some (r.modifySocket socket fun s => { s with ended := true })
    else none
  | .disconnect token => (r.connection? token).map fun conn => r.close token conn
  | _ => none

/-- The state after a move, if the move is possible. -/
def step? (service : Service τ) (move : Move) (r : Reactor τ) : Option (Reactor τ) :=
  match move with
  | .dial | .sends .. | .ends _ | .disconnect _ => r.outerStep? move
  | .look | .wait _ | .waitFails | .handle | .accept | .acceptDone | .register _ | .rearmRejected _ =>
    r.pollStep? service move
  | .pop _ | .check _ | .read .. | .serve _ | .rearm .. | .leave _ => r.workerStep? service move
  | .shutDown | .pushStops | .join | .closeNext | .finish => r.shutdownStep? service move

end EventBus.Reactor
