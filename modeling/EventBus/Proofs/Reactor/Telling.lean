import EventBus.Proofs.Reactor.Places

/-!
# What a step tells the service

Every step of a reactor does one of five things to its service: nothing, or one turn of a worker that serves
a chunk, or it tells the service that a connection was opened, that a chunk arrived, or that a connection is
closed. `Tells` says which, and what becomes of the state of the service, the callbacks, the connections, the
next token and the chunks that are being served; `step?_tells` proves it of every step.
-/

namespace EventBus.Reactor

variable {τ : Type}

/-- Whether a worker serves a chunk of a connection, and what it has still to do. -/
def Serves (r : Reactor τ) (worker : Nat) (token : Token) (rest : Routine τ Reaction) : Prop :=
  r.workers[worker]? = some (.serving token rest)

/-- What a step tells a service. -/
inductive Tells (service : Service τ) (r r' : Reactor τ) : Prop where
  | nothing (hstate : r'.state = r.state) (hcallbacks : r'.callbacks = r.callbacks)
      (hopen : ∀ token, (r'.connection? token).isSome = (r.connection? token).isSome)
      (hnext : r'.nextToken = r.nextToken)
      (hgrown : r'.backlog.length + r.sockets.size ≤ r.backlog.length + r'.sockets.size)
      (hmore : r.sockets.size ≤ r'.sockets.size)
      (hserving : ∀ worker token rest, r'.Serves worker token rest → r.Serves worker token rest)
  | opened (hbacklog : r.backlog ≠ []) (hstate : r'.state = service.opened r.nextToken r.state)
      (hcallbacks : r'.callbacks = .opened r.nextToken :: r.callbacks)
      (hopen : ∀ token, (r'.connection? token).isSome = ((r.connection? token).isSome || r.nextToken == token))
      (hnext : r'.nextToken = r.nextToken + 1)
      (hgrown : r'.backlog.length + 1 = r.backlog.length) (hsockets : r'.sockets.size = r.sockets.size)
      (hserving : ∀ worker token rest, r'.Serves worker token rest → r.Serves worker token rest)
  /-- A chunk arrived, which a worker begins to serve. -/
  | received (token : Token) (inbox : Inbox) (chunk : Bytes) (answers : WriteAnswers)
      (hstate : r'.state = r.state) (hcallbacks : r'.callbacks = .received token chunk :: r.callbacks)
      (hopen : ∀ token, r'.connection? token = r.connection? token) (hnext : r'.nextToken = r.nextToken)
      (hbacklog : r'.backlog = r.backlog) (hsockets : r'.sockets.size = r.sockets.size)
      (hserving : ∀ worker t rest, r'.Serves worker t rest →
        r.Serves worker t rest ∨ t = token ∧ rest = service.received token inbox chunk answers)
  | turned (worker : Nat) (token : Token) (routine : Routine τ Reaction) (hworker : r.Serves worker token routine)
      (hstate : r'.state = (routine.turn r.state).2) (hcallbacks : r'.callbacks = r.callbacks)
      (hopen : ∀ token, r'.connection? token = r.connection? token) (hnext : r'.nextToken = r.nextToken)
      (hbacklog : r'.backlog = r.backlog) (hsockets : r'.sockets.size = r.sockets.size)
      (hserving : ∀ other t rest, r'.Serves other t rest →
        (other ≠ worker ∧ r.Serves other t rest) ∨ t = token ∧ rest = (routine.turn r.state).1)
  | closed (token : Token) (conn : Connection) (hconn : r.connection? token = some conn)
      (hstate : r'.state = service.closed token conn.inbox r.state)
      (hcallbacks : r'.callbacks = .closed token :: r.callbacks)
      (hopen : ∀ other, r'.connection? other = if other = token then none else r.connection? other)
      (hnext : r'.nextToken = r.nextToken) (hbacklog : r'.backlog = r.backlog)
      (hsockets : r'.sockets.size = r.sockets.size)
      (hserving : ∀ worker token rest, r'.Serves worker token rest → r.Serves worker token rest)

variable {service : Service τ} {r r' kept : Reactor τ} {move : Move} {token : Token}

/-! ## What workers do -/

/-- What the workers do after one of them has turned to something else. -/
theorem getElem?_setWorker (worker : Nat) (next : Worker τ) (r : Reactor τ) (other : Nat) :
    (r.setWorker worker next).workers[other]?
      = if worker = other ∧ worker < r.workers.size then some next else r.workers[other]? := by
  show (r.workers.setIfInBounds worker next)[other]? = _
  rw [Array.getElem?_setIfInBounds]
  by_cases hsame : worker = other
  · subst hsame
    by_cases hlt : worker < r.workers.size
    · simp [hlt]
    · simp [hlt]
  · simp [hsame]

/-- The worker itself does what it has turned to. -/
theorem getElem?_setWorker_self {worker : Nat} {now : Worker τ} (hworker : r.workers[worker]? = some now)
    (next : Worker τ) : (r.setWorker worker next).workers[worker]? = some next := by
  rw [getElem?_setWorker]
  exact if_pos ⟨rfl, (Array.getElem?_eq_some_iff.mp hworker).1⟩

/-- A worker that leaves a connection tears it down next. -/
theorem step?_leave (service : Service τ) {worker : Nat} (hworker : r.workers[worker]? = some (.leaving token)) :
    r.step? service (.leave worker) = some ((r.tearDown service token).setWorker worker .idle) := by
  show r.workerStep? service (.leave worker) = _
  rw [workerStep?, hworker]

/-- With a connection that is counted once for all workers is one of them. -/
theorem eq_of_workerCount_le_one (hone : r.workerCount token ≤ 1) {worker other : Nat} {now now' : Worker τ}
    (hworker : r.workers[worker]? = some now) (hother : r.workers[other]? = some now')
    (hnow : now.token? = some token) (hnow' : now'.token? = some token) : worker = other := by
  by_contra hne
  -- without the first worker there is still the other one
  have hcount := workerCount_setWorker hworker .idle token
  have hleft : (r.setWorker worker .idle).workers[other]? = some now' := by
    rw [getElem?_setWorker, if_neg fun hboth => hne hboth.1]
    exact hother
  have hhas := holds_le_workerCount hleft token
  rw [Worker.holds, hnow', if_pos (beq_self_eq_true _)] at hhas
  rw [Worker.holds, hnow, if_pos (beq_self_eq_true _)] at hcount
  have hidle : (if (Worker.idle : Worker τ).holds token then 1 else 0) = 0 := rfl
  omega

theorem serves_of_workers (h : kept.workers = r.workers) (worker : Nat) (token : Token)
    (rest : Routine τ Reaction) (hserves : kept.Serves worker token rest) : r.Serves worker token rest := by
  rwa [Serves, h] at hserves

/-- After a worker went on to something else than serving, those that serve have served before. -/
theorem serves_of_setWorker {worker : Nat} {next : Worker τ} (h : kept.workers = r.workers)
    (hnext : ∀ token rest, next ≠ .serving token rest) (other : Nat) (token : Token)
    (rest : Routine τ Reaction) (hserves : (kept.setWorker worker next).Serves other token rest) :
    r.Serves other token rest := by
  rw [Serves, getElem?_setWorker] at hserves
  split at hserves
  · exact absurd (Option.some.inj hserves) (hnext token rest)
  · exact serves_of_workers h other token rest hserves

/-- After a worker began to serve, it does that, and the others what they did. -/
theorem serves_setWorker {worker : Nat} {next : Routine τ Reaction} (h : kept.workers = r.workers)
    {other : Nat} {t : Token} {rest : Routine τ Reaction}
    (hserves : (kept.setWorker worker (.serving token next)).Serves other t rest) :
    (other ≠ worker ∧ r.Serves other t rest) ∨ t = token ∧ rest = next := by
  rw [Serves, getElem?_setWorker] at hserves
  split at hserves
  · obtain ⟨rfl, rfl⟩ := Worker.serving.inj (Option.some.inj hserves)
    exact .inr ⟨rfl, rfl⟩
  · next hother =>
    refine .inl ⟨fun hsame => ?_, serves_of_workers h other t rest hserves⟩
    subst hsame
    have hlt := (Array.getElem?_eq_some_iff.mp hserves).1
    exact hother ⟨rfl, hlt⟩

/-! ## Steps -/

/-- An operation of which the service knows nothing, after which no worker serves anything new. -/
theorem Tells.of_same (h : SameTold r kept)
    (hserving : ∀ worker token rest, r'.Serves worker token rest → r.Serves worker token rest)
    (hstate : r'.state = kept.state) (hcallbacks : r'.callbacks = kept.callbacks)
    (hconnections : r'.connections = kept.connections) (hnext : r'.nextToken = kept.nextToken)
    (hbacklog : r'.backlog = kept.backlog) (hsockets : r'.sockets = kept.sockets) : Tells service r r' := by
  refine .nothing (hstate.trans h.state) (hcallbacks.trans h.callbacks) (fun token => ?_) (hnext.trans h.nextToken)
    (Nat.le_of_eq ?_) (Nat.le_of_eq ?_) hserving
  · rw [connection?, hconnections]
    exact h.opened token
  · rw [hbacklog, h.backlog, hsockets, h.sockets]
  · rw [hsockets, h.sockets]

/-- Handing a connection back tells the service of a closed connection, or nothing. -/
theorem tells_handBack (token : Token) (ok : Bool) {service : Service τ} {r : Reactor τ}
    (hstate : kept.state = (r.handBack service token ok).state)
    (hcallbacks : kept.callbacks = (r.handBack service token ok).callbacks)
    (hopen : ∀ other, kept.connection? other = (r.handBack service token ok).connection? other)
    (hnext : kept.nextToken = (r.handBack service token ok).nextToken)
    (hbacklog : kept.backlog = (r.handBack service token ok).backlog)
    (hsockets : kept.sockets = (r.handBack service token ok).sockets)
    (hserving : ∀ worker token rest, kept.Serves worker token rest → r.Serves worker token rest) :
    Tells service r kept := by
  cases ok with
  | true =>
    -- armed again, the connection stays open, and nobody is told
    refine .nothing hstate hcallbacks (fun other => ?_) hnext (Nat.le_of_eq ?_) (Nat.le_of_eq ?_) hserving
    · rw [hopen]
      exact isSome_connection?_modifyConnection token _ r other
    · rw [hbacklog, hsockets]
      rfl
    · rw [hsockets]
      rfl
  | false =>
    have htorn : r.handBack service token false = r.tearDown service token := rfl
    cases hconn : r.connection? token with
    | none =>
      -- it was torn down before
      have hkept : r.tearDown service token = r := by rw [tearDown, hconn]
      rw [htorn, hkept] at hstate hcallbacks hopen hnext hbacklog hsockets
      exact .nothing hstate hcallbacks (fun other => congrArg _ (hopen other)) hnext
        (Nat.le_of_eq (by rw [hbacklog, hsockets])) (Nat.le_of_eq (by rw [hsockets])) hserving
    | some conn =>
      have hopened := connection?_tearDown service token r
      rw [htorn] at hstate hcallbacks hopen hnext hbacklog hsockets
      rw [tearDown, hconn] at hstate hcallbacks hnext hbacklog hsockets
      refine .closed token conn hconn hstate hcallbacks (fun other => (hopen other).trans (hopened other)) hnext
        hbacklog ?_ hserving
      rw [hsockets]
      exact Array.size_modify

theorem tells_outerSteps (h : OuterSteps r move r') : Tells service r r' := by
  cases h with
  | dial hlife =>
    refine .nothing rfl rfl (fun _ => rfl) rfl ?_ ?_ (serves_of_workers rfl)
    · simp only [List.length_append, List.length_singleton, Array.size_push]
      omega
    · simp only [Array.size_push]
      omega
  | sends socket bytes hopen =>
    exact .of_same (sameTold_modifySocket socket _ r) (serves_of_workers rfl) rfl rfl rfl rfl rfl rfl
  | ends socket hsocket =>
    exact .of_same (sameTold_modifySocket socket _ r) (serves_of_workers rfl) rfl rfl rfl rfl rfl rfl
  | @disconnect token conn hconn =>
    exact .of_same (sameTold_close token conn r) (serves_of_workers rfl) rfl rfl rfl rfl rfl rfl

/-- The poll thread tells of connections that it opens, and of those that it cannot register. -/
theorem tells_pollSteps (h : PollSteps service r move r') : Tells service r r' := by
  -- most steps change nothing but what the poll thread is about to do
  have hpasses : ∀ poll, Tells service r { r with poll } := fun poll =>
    .of_same (.refl r) (serves_of_workers rfl) rfl rfl rfl rfl rfl rfl
  cases h with
  | look hpoll => exact hpasses _
  | @wait events hpoll hfew hcan hnodup =>
    have hfetch := fetch_eq events r
    refine .nothing (by rw [hfetch]) (by rw [hfetch]) (fun token => ?_) (by rw [hfetch])
      (Nat.le_of_eq (by rw [hfetch])) (Nat.le_of_eq (by rw [hfetch])) (serves_of_workers (by rw [hfetch]))
    show ((r.fetch events).connection? token).isSome = _
    rw [connection?_fetch]
    split
    · rw [Option.isSome_map]
    · rfl
  | waitFails hpoll => exact hpasses _
  | handled hpoll => exact hpasses _
  | knocked hpoll => exact hpasses _
  | queued hpoll hpush => exact .of_same (.refl r) (serves_of_workers rfl) rfl rfl rfl rfl rfl rfl
  | rejected hpoll hpush => exact hpasses _
  | @accept events socket backlog hpoll hbacklog =>
    refine .opened (by rw [hbacklog]; simp) rfl rfl (fun token => ?_) rfl (by rw [hbacklog]; rfl) rfl
      (serves_of_workers rfl)
    show ((r.enroll service socket backlog).connection? token).isSome = _
    rw [connection?_enroll]
    by_cases hsame : r.nextToken = token
    · simp [hsame]
    · simp [hsame]
  | acceptDone hpoll => exact hpasses _
  | @register token events ok hpoll =>
    exact tells_handBack token ok rfl rfl (fun _ => rfl) rfl rfl rfl
      (serves_of_workers (handBack_frame service token ok r).2.1)
  | @rearmRejected token events ok hpoll =>
    exact tells_handBack token ok rfl rfl (fun _ => rfl) rfl rfl rfl
      (serves_of_workers (handBack_frame service token ok r).2.1)

/-- A worker tells of chunks and of the end of a connection, and makes the turns of its service. -/
theorem tells_workerSteps (h : WorkerSteps service r move r') : Tells service r r' := by
  -- a worker that does not begin to serve tells nothing
  have hpasses : ∀ worker next, (∀ token rest, next ≠ .serving token rest) →
      Tells service r (r.setWorker worker next) := fun worker next hnext =>
    .of_same (.refl r) (serves_of_setWorker rfl hnext) rfl rfl rfl rfl rfl rfl
  cases h with
  | popStop hworker hpop => exact .of_same (.refl r) (serves_of_setWorker rfl (by simp)) rfl rfl rfl rfl rfl rfl
  | popConnection hworker hpop =>
    refine .of_same (.refl r) (serves_of_setWorker rfl fun token rest => ?_) rfl rfl rfl rfl rfl rfl
    split <;> simp
  | check hworker =>
    refine hpasses _ _ fun token rest => ?_
    split <;> simp
  | @readChunk worker token conn socket length answers hworker hconn hcan hsocket =>
    refine .received token conn.inbox (socket.incoming.take length) answers rfl rfl (fun _ => rfl) rfl rfl
      Array.size_modify fun other t rest hserves => ?_
    rcases serves_setWorker (r := r) rfl hserves with ⟨-, hbefore⟩ | hnew
    · exact .inl hbefore
    · exact .inr hnew
  | readOther answers hworker hconn hcan hnext =>
    refine hpasses _ _ fun token rest => ?_
    rcases hnext with ⟨-, rfl⟩ | ⟨-, rfl⟩ | ⟨-, rfl⟩ | ⟨-, rfl⟩
    all_goals simp
  | @turn worker token routine hworker hgoes =>
    exact .turned worker token routine hworker rfl rfl (fun _ => rfl) rfl rfl rfl
      fun other t rest hserves => serves_setWorker (r := r) rfl hserves
  | @conclude worker token reaction conn hworker hconn =>
    have hsame := sameTold_conclude token conn reaction r
    refine .of_same hsame (serves_of_setWorker hsame.workers fun token rest => ?_) rfl rfl rfl rfl rfl rfl
    split <;> simp
  | rearmFailed hworker => exact hpasses _ _ (by simp)
  | @handBack worker token move ok hworker =>
    exact tells_handBack token ok rfl rfl (fun _ => rfl) rfl rfl rfl
      (serves_of_setWorker (handBack_frame service token ok r).2.1 (by simp))

/-- A shutdown tells of the connections that it closes. -/
theorem tells_shutdownSteps (h : ShutdownSteps service r move r') : Tells service r r' := by
  cases h with
  | shutDown hlife => exact .of_same (.refl r) (serves_of_workers rfl) rfl rfl rfl rfl rfl rfl
  | shutDownAgain hlife => exact .of_same (.refl r) (serves_of_workers rfl) rfl rfl rfl rfl rfl rfl
  | pushStops hlife => exact .of_same (.refl r) (serves_of_workers rfl) rfl rfl rfl rfl rfl rfl
  | join hlife hleft => exact .of_same (.refl r) (serves_of_workers rfl) rfl rfl rfl rfl rfl rfl
  | @closeNext token conn rest hlife hconnections =>
    exact tells_handBack token false rfl rfl (fun _ => rfl) rfl rfl rfl
      (serves_of_workers (tearDown_workers service token r))
  | finish hlife hconnections =>
    have hsame := sameTold_closeSockets r.backlog r
    refine .nothing hsame.state hsame.callbacks hsame.opened hsame.nextToken ?_ (Nat.le_of_eq hsame.sockets.symm)
      (serves_of_workers hsame.workers)
    rw [show (r.backlog.foldl closeSocket r).sockets.size = r.sockets.size from hsame.sockets]
    exact Nat.add_le_add_right (Nat.zero_le _) _

/-- What every step tells the service. -/
theorem step?_tells (h : r.step? service move = some r') : Tells service r r' := by
  cases step?_steps h with
  | outer hsteps => exact tells_outerSteps hsteps
  | poll hsteps => exact tells_pollSteps hsteps
  | worker hsteps => exact tells_workerSteps hsteps
  | shutdown hsteps => exact tells_shutdownSteps hsteps

end EventBus.Reactor
