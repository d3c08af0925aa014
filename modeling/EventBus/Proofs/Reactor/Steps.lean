import EventBus.Reactor.Step

/-!
# What each step does

One relation for each of those who make steps, with one constructor for each thing that a step can do: what
it takes, and what comes of it. `step?_steps` reads a possible move as one of them, so that a proof about all
steps is a case analysis that does not open the steps themselves.
-/

namespace EventBus.Reactor

variable {τ : Type}

/-- Who has a connection in hand either arms it or tears it down. -/
def handBack (service : Service τ) (token : Token) (ok : Bool) (r : Reactor τ) : Reactor τ :=
  if ok then r.arm token else r.tearDown service token

/-! ## The surroundings -/

/-- What the surroundings do. -/
inductive OuterSteps (r : Reactor τ) : Move → Reactor τ → Prop where
  | dial (hlife : r.lifecycle ≠ .finished) :
    OuterSteps r .dial { r with sockets := r.sockets.push {}, backlog := r.backlog ++ [r.sockets.size] }
  | sends (socket : Nat) (bytes : Bytes) (hopen : r.sockets[socket]?.any fun s => !s.ended && !s.closed) :
    OuterSteps r (.sends socket bytes) (r.modifySocket socket fun s => { s with incoming := s.incoming.push bytes })
  | ends (socket : Nat) (hsocket : socket < r.sockets.size) :
    OuterSteps r (.ends socket) (r.modifySocket socket fun s => { s with ended := true })
  | disconnect (token : Token) {conn : Connection} (hconn : r.connection? token = some conn) :
    OuterSteps r (.disconnect token) (r.close token conn)

/-- A possible move of a peer, or of one who asks for a connection to be closed, is one of the steps for these. -/
theorem outerStep?_steps {r r' : Reactor τ} {move : Move} (h : r.outerStep? move = some r') :
    OuterSteps r move r' := by
  cases move with
  | dial =>
    rw [outerStep?] at h
    split at h
    · cases h
    · next hlife =>
      cases h
      exact .dial hlife
  | sends socket bytes =>
    rw [outerStep?] at h
    split at h
    · next hopen =>
      cases h
      exact .sends socket bytes hopen
    · cases h
  | ends socket =>
    rw [outerStep?] at h
    split at h
    · next hsocket =>
      cases h
      exact .ends socket hsocket
    · cases h
  | disconnect token =>
    obtain ⟨conn, hconn, rfl⟩ := Option.map_eq_some_iff.mp h
    exact .disconnect token hconn
  | _ => cases h

/-! ## The poll thread -/

/-- What the poll thread does. -/
inductive PollSteps (service : Service τ) (r : Reactor τ) : Move → Reactor τ → Prop where
  /-- It goes on, or stops. -/
  | look (hpoll : r.poll = .looping) :
    PollSteps service r .look { r with poll := if r.lifecycle = .running then .waiting else .stopped }
  | wait {events : List PollEvent} (hpoll : r.poll = .waiting) (hfew : events.length ≤ r.config.maxEventsClamped)
      (hcan : events.all r.canHappen) (hnodup : events.Nodup) :
    PollSteps service r (.wait events) { r.fetch events with poll := .handling events }
  | waitFails (hpoll : r.poll = .waiting) : PollSteps service r .waitFails { r with poll := .stopped }
  | handled (hpoll : r.poll = .handling []) : PollSteps service r .handle { r with poll := .looping }
  /-- It turns to the peers that want to connect. -/
  | knocked {events : List PollEvent} (hpoll : r.poll = .handling (.knock :: events)) :
    PollSteps service r .handle { r with poll := .accepting events }
  | queued {token : Token} {events : List PollEvent} {queue : Queue}
      (hpoll : r.poll = .handling (.ready token :: events)) (hpush : r.queue.push token = .ok queue) :
    PollSteps service r .handle { r with queue, poll := .handling events }
  | rejected {token : Token} {events : List PollEvent} {error : TransportError}
      (hpoll : r.poll = .handling (.ready token :: events)) (hpush : r.queue.push token = .error error) :
    PollSteps service r .handle { r with poll := .rejected token events }
  | accept {events : List PollEvent} {socket : Nat} {backlog : List Nat} (hpoll : r.poll = .accepting events)
      (hbacklog : r.backlog = socket :: backlog) :
    PollSteps service r .accept
      { r.enroll service socket backlog with poll := .registering r.nextToken events }
  | acceptDone {events : List PollEvent} (hpoll : r.poll = .accepting events) :
    PollSteps service r .acceptDone { r with poll := .handling events }
  /-- It hands on a connection that it accepted. -/
  | register {token : Token} {events : List PollEvent} (ok : Bool) (hpoll : r.poll = .registering token events) :
    PollSteps service r (.register ok) { r.handBack service token ok with poll := .accepting events }
  /-- It hands on a connection for which the queue was full. -/
  | rearmRejected {token : Token} {events : List PollEvent} (ok : Bool) (hpoll : r.poll = .rejected token events) :
    PollSteps service r (.rearmRejected ok) { r.handBack service token ok with poll := .handling events }

theorem pollStep?_steps {service : Service τ} {r r' : Reactor τ} {move : Move}
    (h : r.pollStep? service move = some r') : PollSteps service r move r' := by
  cases move with
  | look =>
    rw [pollStep?] at h
    split at h
    · next hpoll =>
      cases h
      exact .look hpoll
    · cases h
  | wait events =>
    rw [pollStep?] at h
    -- one split for each guard of the move; where it fails there is no step
    split at h
    · next hpoll =>
      split at h
      · next hcan =>
        cases h
        simp only [Bool.and_eq_true, decide_eq_true_eq] at hcan
        exact .wait hpoll hcan.1.1 hcan.1.2 hcan.2
      · cases h
    · cases h
  | waitFails =>
    rw [pollStep?] at h
    split at h
    · next hpoll =>
      cases h
      exact .waitFails hpoll
    · cases h
  | handle =>
    rw [pollStep?] at h
    split at h
    · next hpoll =>
      cases h
      exact .handled hpoll
    · next events hpoll =>
      cases h
      exact .knocked hpoll
    · next token events hpoll =>
      split at h
      · next queue hpush =>
        cases h
        exact .queued hpoll hpush
      · next error hpush =>
        cases h
        exact .rejected hpoll hpush
    · cases h
  | accept =>
    rw [pollStep?] at h
    split at h
    · next events socket backlog hpoll hbacklog =>
      cases h
      exact .accept hpoll hbacklog
    · cases h
  | acceptDone =>
    rw [pollStep?] at h
    split at h
    · next events hpoll =>
      cases h
      exact .acceptDone hpoll
    · cases h
  | register ok =>
    rw [pollStep?] at h
    split at h
    · next token events hpoll =>
      cases h
      exact .register ok hpoll
    · cases h
  | rearmRejected ok =>
    rw [pollStep?] at h
    split at h
    · next token events hpoll =>
      cases h
      exact .rearmRejected ok hpoll
    · cases h
  | _ => cases h

/-! ## The workers -/

/-- What a worker does. -/
inductive WorkerSteps (service : Service τ) (r : Reactor τ) : Move → Reactor τ → Prop where
  | popStop {worker : Nat} {queue : Queue} (hworker : r.workers[worker]? = some .idle)
      (hpop : r.queue.pop? = some (.stop, queue)) :
    WorkerSteps service r (.pop worker) ({ r with queue }.setWorker worker .stopped)
  /-- It takes a connection out of the queue, if that is still open. -/
  | popConnection {worker : Nat} {token : Token} {queue : Queue} (hworker : r.workers[worker]? = some .idle)
      (hpop : r.queue.pop? = some (.connection token, queue)) :
    WorkerSteps service r (.pop worker)
      ({ r with queue }.setWorker worker (if (r.connection? token).isSome then .checking token else .idle))
  /-- It reads, or leaves a connection that is to be closed. -/
  | check {worker : Nat} {token : Token} (hworker : r.workers[worker]? = some (.checking token)) :
    WorkerSteps service r (.check worker)
      (r.setWorker worker
        (if (r.connection? token).any fun conn => !conn.closing then .reading token else .leaving token))
  | readChunk {worker : Nat} {token : Token} {conn : Connection} {socket : Socket} {length : Nat}
      (answers : WriteAnswers) (hworker : r.workers[worker]? = some (.reading token))
      (hconn : r.connection? token = some conn) (hcan : r.canRead conn (.chunk length))
      (hsocket : r.sockets[conn.socket]? = some socket) :
    WorkerSteps service r (.read worker (.chunk length) answers)
      ({ r.modifySocket conn.socket fun socket => { socket with incoming := socket.incoming.drop length } with
          callbacks := .received token (socket.incoming.take length) :: r.callbacks }.setWorker worker
        (.serving token (service.received token conn.inbox (socket.incoming.take length) answers)))
  /-- It finds something else than a chunk. -/
  | readOther {worker : Nat} {token : Token} {conn : Connection} {read : Read} {next : Worker τ}
      (answers : WriteAnswers) (hworker : r.workers[worker]? = some (.reading token))
      (hconn : r.connection? token = some conn) (hcan : r.canRead conn read)
      (hnext : read = .ended ∧ next = .leaving token ∨ read = .failed ∧ next = .leaving token
        ∨ read = .nothing ∧ next = .rearming token ∨ read = .interrupted ∧ next = .checking token) :
    WorkerSteps service r (.read worker read answers) (r.setWorker worker next)
  | turn {worker : Nat} {token : Token} {routine : Routine τ Reaction}
      (hworker : r.workers[worker]? = some (.serving token routine)) (hgoes : routine.isOver = false) :
    WorkerSteps service r (.serve worker)
      ({ r with state := (routine.turn r.state).2 }.setWorker worker (.serving token (routine.turn r.state).1))
  | conclude {worker : Nat} {token : Token} {reaction : Reaction} {conn : Connection}
      (hworker : r.workers[worker]? = some (.serving token (.done reaction)))
      (hconn : r.connection? token = some conn) :
    WorkerSteps service r (.serve worker)
      ((r.conclude token conn reaction).setWorker worker
        (if reaction.failure.isNone then .checking token else .leaving token))
  | rearmFailed {worker : Nat} {token : Token} (hworker : r.workers[worker]? = some (.rearming token)) :
    WorkerSteps service r (.rearm worker false) (r.setWorker worker (.leaving token))
  /-- It hands its connection on: armed, or torn down. -/
  | handBack {worker : Nat} {token : Token} {move : Move} (ok : Bool)
      (hworker : move = .rearm worker true ∧ ok = true ∧ r.workers[worker]? = some (.rearming token)
        ∨ move = .leave worker ∧ ok = false ∧ r.workers[worker]? = some (.leaving token)) :
    WorkerSteps service r move ((r.handBack service token ok).setWorker worker .idle)

/-- What a worker may find when it reads. -/
theorem workerStep?_read {service : Service τ} {r r' : Reactor τ} {worker : Nat} {read : Read} {answers : WriteAnswers}
    (h : r.workerStep? service (.read worker read answers) = some r') :
    WorkerSteps service r (.read worker read answers) r' := by
  rw [workerStep?] at h
  split at h
  · next token hworker =>
    split at h
    · cases h
    · next conn hconn =>
      split at h
      · next hcan =>
        -- what the operating system answers decides which of the two steps it is
        cases read with
        | chunk length =>
          obtain ⟨⟨routine, taken⟩, hreceive, rfl⟩ := Option.map_eq_some_iff.mp h
          rw [receive] at hreceive
          split at hreceive
          · cases hreceive
          · next socket hsocket =>
            cases hreceive
            exact .readChunk answers hworker hconn hcan hsocket
        | ended =>
          cases h
          exact .readOther answers hworker hconn hcan (.inl ⟨rfl, rfl⟩)
        | failed =>
          cases h
          exact .readOther answers hworker hconn hcan (.inr (.inl ⟨rfl, rfl⟩))
        | nothing =>
          cases h
          exact .readOther answers hworker hconn hcan (.inr (.inr (.inl ⟨rfl, rfl⟩)))
        | interrupted =>
          cases h
          exact .readOther answers hworker hconn hcan (.inr (.inr (.inr ⟨rfl, rfl⟩)))
      · cases h
  · cases h

theorem workerStep?_steps {service : Service τ} {r r' : Reactor τ} {move : Move}
    (h : r.workerStep? service move = some r') : WorkerSteps service r move r' := by
  cases move with
  | pop worker =>
    rw [workerStep?] at h
    split at h
    · next queue hworker hpop =>
      cases h
      exact .popStop hworker hpop
    · next token queue hworker hpop =>
      cases h
      exact .popConnection hworker hpop
    · cases h
  | check worker =>
    rw [workerStep?] at h
    split at h
    · next token hworker =>
      cases h
      exact .check hworker
    · cases h
  | read worker read answers => exact workerStep?_read h
  | serve worker =>
    rw [workerStep?] at h
    split at h
    · next token reaction hworker =>
      obtain ⟨conn, hconn, rfl⟩ := Option.map_eq_some_iff.mp h
      exact .conclude hworker hconn
    · cases h
    · next token routine hdone hstuck hworker =>
      cases h
      refine .turn hworker ?_
      -- a routine that is neither over nor stuck has a turn to take
      cases routine with
      | done reaction => exact absurd rfl (hdone reaction)
      | stuck => exact absurd rfl hstuck
      | look | put => rfl
    · cases h
  | rearm worker ok =>
    rw [workerStep?] at h
    split at h
    · next token hworker =>
      cases ok with
      | true =>
        cases h
        exact .handBack true (.inl ⟨rfl, rfl, hworker⟩)
      | false =>
        cases h
        exact .rearmFailed hworker
    · cases h
  | leave worker =>
    rw [workerStep?] at h
    split at h
    · next token hworker =>
      cases h
      exact .handBack false (.inr ⟨rfl, rfl, hworker⟩)
    · cases h
  | _ => cases h

/-! ## The way to the end -/

/-- What is done on the way to the end. -/
inductive ShutdownSteps (service : Service τ) (r : Reactor τ) : Move → Reactor τ → Prop where
  | shutDown (hlife : r.lifecycle = .running) :
    ShutdownSteps service r .shutDown { r with lifecycle := .cancelled }
  | shutDownAgain (hlife : r.lifecycle ≠ .running) : ShutdownSteps service r .shutDown r
  /-- The workers find that they are to stop. -/
  | pushStops (hlife : r.lifecycle = .cancelled) :
    ShutdownSteps service r .pushStops { r with queue := r.queue.pushStops r.workers.size, lifecycle := .joining }
  | join (hlife : r.lifecycle = .joining) (hleft : r.threadsLeft = false) :
    ShutdownSteps service r .join { r with lifecycle := .closing }
  /-- A connection that is left is torn down. -/
  | closeNext {token : Token} {conn : Connection} {rest : ByToken Connection} (hlife : r.lifecycle = .closing)
      (hconnections : r.connections = (token, conn) :: rest) :
    ShutdownSteps service r .closeNext (r.tearDown service token)
  | finish (hlife : r.lifecycle = .closing) (hconnections : r.connections.isEmpty) :
    ShutdownSteps service r .finish { r.backlog.foldl closeSocket r with backlog := [], lifecycle := .finished }

theorem shutdownStep?_steps {service : Service τ} {r r' : Reactor τ} {move : Move}
    (h : r.shutdownStep? service move = some r') : ShutdownSteps service r move r' := by
  cases move with
  | shutDown =>
    rw [shutdownStep?] at h
    split at h
    · next hlife =>
      cases h
      exact .shutDown hlife
    · next hlife =>
      cases h
      exact .shutDownAgain hlife
  | pushStops =>
    rw [shutdownStep?] at h
    split at h
    · next hlife =>
      cases h
      exact .pushStops hlife
    · cases h
  | join =>
    rw [shutdownStep?] at h
    split at h
    · next hjoin =>
      cases h
      rw [Bool.and_eq_true, decide_eq_true_eq, Bool.not_eq_true'] at hjoin
      exact .join hjoin.1 hjoin.2
    · cases h
  | closeNext =>
    rw [shutdownStep?] at h
    split at h
    · next token conn rest hlife hconnections =>
      cases h
      exact .closeNext hlife hconnections
    · cases h
  | finish =>
    rw [shutdownStep?] at h
    split at h
    · next hfinish =>
      cases h
      rw [Bool.and_eq_true, decide_eq_true_eq] at hfinish
      exact .finish hfinish.1 hfinish.2
    · cases h
  | _ => cases h

/-! ## All of them -/

/-- What a step does. -/
inductive Steps (service : Service τ) (r : Reactor τ) (move : Move) (r' : Reactor τ) : Prop where
  | outer (h : OuterSteps r move r')
  | poll (h : PollSteps service r move r')
  | worker (h : WorkerSteps service r move r')
  | shutdown (h : ShutdownSteps service r move r')

/-- Every possible move is one of the steps above. -/
theorem step?_steps {service : Service τ} {r r' : Reactor τ} {move : Move} (h : r.step? service move = some r') :
    Steps service r move r' := by
  cases move with
  | dial | sends | ends | disconnect => exact .outer (outerStep?_steps h)
  | look | wait | waitFails | handle | accept | acceptDone | register | rearmRejected =>
    exact .poll (pollStep?_steps h)
  | pop | check | read | serve | rearm | leave => exact .worker (workerStep?_steps h)
  | shutDown | pushStops | join | closeNext | finish => exact .shutdown (shutdownStep?_steps h)

end EventBus.Reactor
