import EventBus.Reactor.Step

/-!
# Letting a reactor settle

One particular run: after each thing that happens outside, the threads go on until nothing is left for
them to do. Workers go before the poll thread, the threads before the steps of a shutdown; chunks are as
large as they can be, arming always succeeds, and a write fails only if the peer is gone. A chunk is
served while no other thread does anything.
-/

namespace EventBus.Reactor

variable {τ : Type}

/-- How the sockets answer a worker that serves a connection. -/
def plainAnswers (socket : Socket) : WriteAnswers :=
  if socket.ended then [[.fails .brokenPipe]] else []

/-- How a worker reads from a socket when it reads all it can. -/
def plainRead (r : Reactor τ) (socket : Socket) : Read :=
  if socket.incoming.isEmpty then if socket.ended || socket.closed then .ended else .nothing
  else .chunk (min socket.incoming.size r.config.readBufferClamped)

def workerMove? (r : Reactor τ) (index : Nat) : Worker τ → Option Move
  | .idle => if r.queue.isEmpty then none else some (.pop index)
  | .checking _ => some (.check index)
  | .reading token => do
    let conn ← r.connection? token
    let socket ← r.sockets[conn.socket]?
    return .read index (r.plainRead socket) (plainAnswers socket)
  | .serving .. => some (.serve index)
  | .rearming _ => some (.rearm index true)
  | .leaving _ => some (.leave index)
  | .stopped => none

/-- Whether something can be read from a connection that is armed. -/
def isReady (r : Reactor τ) (conn : Connection) : Bool :=
  conn.armed
    && r.sockets[conn.socket]?.any fun s => !s.incoming.isEmpty || s.ended || s.closed

def signals (r : Reactor τ) : List PollEvent :=
  let ready := r.connections.filterMap fun (token, conn) =>
    if r.isReady conn then some (.ready token) else none
  (if r.backlog.isEmpty then [] else [PollEvent.knock]) ++ ready

/-- The events that the poll thread can be told of at once. -/
def pending (r : Reactor τ) : List PollEvent :=
  r.signals.take r.config.maxEventsClamped

def pollMove? (r : Reactor τ) : Option Move :=
  match r.poll with
  | .looping => some .look
  | .waiting =>
    let events := r.pending
    if events.isEmpty && r.lifecycle = .running then none else some (.wait events)
  | .handling _ => some .handle
  | .accepting _ => some (if r.backlog.isEmpty then .acceptDone else .accept)
  | .registering .. => some (.register true)
  | .rejected .. => some (.rearmRejected true)
  | .stopped => none

def shutdownMove? (r : Reactor τ) : Option Move :=
  match r.lifecycle with
  | .running | .finished => none
  | .cancelled => some .pushStops
  | .joining => if r.threadsLeft then none else some .join
  | .closing => some (if r.connections.isEmpty then .finish else .closeNext)

/-- The next move, if anything is left to do. -/
def nextMove? (r : Reactor τ) : Option Move :=
  (r.workers.zipIdx.findSome? fun (worker, index) => r.workerMove? index worker)
    <|> r.pollMove? <|> r.shutdownMove?

/-- Makes all turns that a worker has left for its chunk. -/
def serveAlone? (worker : Nat) (r : Reactor τ) : Option (Reactor τ) :=
  match r.workers[worker]? with
  | some (.serving token routine) =>
    (routine.alone r.state).map fun (reaction, state) =>
      { r with state }.setWorker worker (.serving token (.done reaction))
  | _ => some r

/-- Makes a move. A worker that goes on serving a chunk makes all its turns. -/
def advance? (service : Service τ) (move : Move) (r : Reactor τ) : Option (Reactor τ) :=
  match move with
  | .serve worker => (r.serveAlone? worker).bind (step? service move)
  | _ => r.step? service move

/-- Makes up to `fuel` moves, as long as anything is left to do. -/
def settleWithin (service : Service τ) : (fuel : Nat) → Reactor τ → Option (Reactor τ)
  | 0, r => some r
  | fuel + 1, r =>
    match r.nextMove? with
    | none => some r
    | some move => (r.advance? service move).bind (settleWithin service fuel)

/-- A bound on the moves until nothing is left to do: three for each byte that waits, and a number for
each socket, worker and queued entry. -/
def settleBound (r : Reactor τ) : Nat :=
  let bytes := r.sockets.foldl (fun n s => n + s.incoming.size) 0
  3 * bytes + 32 * (1 + r.sockets.size + r.workers.size + r.queue.size)

/-- Lets the threads go on until nothing is left for them to do. -/
def settle (service : Service τ) (r : Reactor τ) : Option (Reactor τ) :=
  settleWithin service r.settleBound r

/-- Makes a move, if it is possible, and lets the threads settle. -/
def after (service : Service τ) (move : Move) (r : Reactor τ) : Option (Reactor τ) :=
  settle service ((r.step? service move).getD r)

end EventBus.Reactor
