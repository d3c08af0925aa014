import EventBus.Proofs.Reactor.Exclusive
import EventBus.Proofs.Reactor.Readers
import EventBus.Proofs.Reactor.Views

/-!
# What a step does to one connection

Every step of a reactor does one of five things to the connection of a given peer, whatever the service.

* `Steady`: what holds of a reactor after any moves (`Ran.steady`), as far as it matters here.
* `Glance`: the connection is as it was; or a chunk is taken off it, a turn is made in serving one, a chunk is done
  with; or the reactor will not go on with it.
* `step?_glance`: every step is one of these. One lemma for each of those who make moves.
* `Abandoned`: a connection that the reactor does not go on with. It stays so, and nothing is written to it any more
  (`Onward.abandoned`).
-/

namespace EventBus.Reactor

variable {τ : Type} {service : Service τ} {stir : τ → τ → Prop} {config : Config} {initial : τ} {r r' kept : Reactor τ}
  {move : Move} {moves : List Move} {token : Token} {place : Nat} {conn : Connection} {worker : Nat}
  {now next : Worker τ}

/-- Whether a reactor goes on with a connection, or with a peer that it may still accept. -/
def goesOn (r : Reactor τ) (token : Token) : Bool :=
  r.isAround token && !r.isLeft token

/-- What holds of a reactor after any moves. -/
structure Steady (moves : List Move) (r : Reactor τ) : Prop where
  custody : Custody r
  numbered : Numbered r
  fed : Fed moves r
  few : r.sockets.size < UInt64.size

/-- The invariants of a reactor, put together for its connections. -/
theorem Ran.steady (h : Ran service stir config initial moves r) (hfew : r.sockets.size < UInt64.size) :
    Steady moves r :=
  have hboth := h.reachable.custody hfew
  ⟨hboth.1, hboth.2, h.fed hfew, hfew⟩

namespace Steady

/-- A connection is that of a peer that has dialled. -/
theorem socket_lt (h : Steady moves r) (hconn : r.connection? token = some conn) : conn.socket < r.sockets.size := by
  have hpeer := h.fed.peers token conn hconn
  have hused := h.numbered.used token (h.numbered.known token (by rw [hconn]; rfl))
  have hroom := h.numbered.few
  omega

/-- The connection of a peer has its socket, -/
theorem socket_eq (h : Steady moves r) (hplace : place + 1 < UInt64.size)
    (hconn : r.connection? (Handle.token place) = some conn) : conn.socket = place := by
  have hpeer := h.fed.peers _ conn hconn
  have htoken := (Handle.token_eq_iff hplace).mp rfl
  omega

/-- and no other connection has. -/
theorem socket_ne (h : Steady moves r) (hplace : place + 1 < UInt64.size) (hconn : r.connection? token = some conn)
    (hother : Handle.token place ≠ token) : conn.socket ≠ place := by
  rintro rfl
  exact hother ((Handle.token_eq_iff hplace).mpr (h.fed.peers token conn hconn))

/-- What a worker has in hand is an open connection. -/
theorem exists_conn_of_worker (h : Steady moves r) (hworker : r.workers[worker]? = some now)
    (hnow : now.token? = some token) : ∃ conn, r.connection? token = some conn :=
  Option.isSome_iff_exists.mp (h.custody.isSome_of_worker hworker hnow)

/-- The reactor goes on with a connection that a worker has in hand and is not about to leave. -/
theorem goesOn_of_worker (h : Steady moves r) (hworker : r.workers[worker]? = some now)
    (hnow : now.token? = some token) (hstays : now.leaves token = false) : r.goesOn token = true := by
  obtain ⟨conn, hconn⟩ := h.exists_conn_of_worker hworker hnow
  rw [goesOn, h.custody.isLeft_eq_false hworker hnow hstays, isAround, hconn]
  rfl

end Steady

/-! ## Glances -/

/-- What a step does to the connection of a peer. -/
inductive Glance (service : Service τ) (r r' : Reactor τ) (place : Nat) : Prop where
  | same (h : SameView r r' place)
  | received (chunk : Bytes) (answers : WriteAnswers) (hidle : r.work? (Handle.token place) = none)
      (hopen : r.goesOn (Handle.token place) = true)
      (hchunks : r'.chunks (Handle.token place) = r.chunks (Handle.token place) ++ [chunk])
      (hwork : r'.work? (Handle.token place)
        = some (service.received (Handle.token place) (r.inboxOf (Handle.token place)) chunk answers))
      (hwritten : r'.written place = r.written place)
  | turned (routine : Routine τ Reaction) (hwork : r.work? (Handle.token place) = some routine)
      (hopen : r.goesOn (Handle.token place) = true)
      (hchunks : r'.chunks (Handle.token place) = r.chunks (Handle.token place))
      (hwork' : r'.work? (Handle.token place) = some (routine.turn r.state).1)
      (hwritten : r'.written place = r.written place)
  /-- What a chunk led to is done. -/
  | concluded (reaction : Reaction) (hwork : r.work? (Handle.token place) = some (.done reaction))
      (hopen : r.goesOn (Handle.token place) = true)
      (hchunks : r'.chunks (Handle.token place) = r.chunks (Handle.token place))
      (hinbox : r'.inboxOf (Handle.token place) = reaction.inbox) (hidle : r'.work? (Handle.token place) = none)
      (hwritten : r'.written place = r.written place ++ reaction.written.flatten)
      (hgoes : r'.goesOn (Handle.token place) = reaction.failure.isNone)
  | abandoned (hchunks : r'.chunks (Handle.token place) = r.chunks (Handle.token place))
      (hidle : r'.work? (Handle.token place) = none) (hwritten : r'.written place = r.written place)
      (hgoes : r'.goesOn (Handle.token place) = false)

/-- A step that leaves these four fields alone leaves the connection of every peer alone. -/
theorem sameView_of_eq (hsockets : kept.sockets = r.sockets) (hcallbacks : kept.callbacks = r.callbacks)
    (hconnections : kept.connections = r.connections) (hworkers : kept.workers = r.workers) : SameView r kept place :=
  .of_eq hsockets hcallbacks hconnections hworkers place

/-! ## Connections that are given up -/

/-- A worker turns to leaving its connection. -/
theorem glance_leaving (hworker : r.workers[worker]? = some now) (hnow : now.token? = some token)
    (hcustody : Custody (r.setWorker worker (.leaving token))) :
    Glance service r (r.setWorker worker (.leaving token)) place := by
  by_cases hsame : Handle.token place = token
  · subst hsame
    have hleaves : (r.setWorker worker (.leaving (Handle.token place))).workers[worker]?
        = some (.leaving (Handle.token place)) :=
      getElem?_setWorker_self hworker _
    refine .abandoned rfl ?_ rfl ?_
    · exact hcustody.work?_of_worker hleaves rfl
    · rw [goesOn, isLeft_of_worker hleaves, Bool.not_true, Bool.and_false]
  · exact .same (sameView_setWorker_of_ne hworker hnow rfl hsame)

/-- A connection is torn down, and whoever had it in hand goes on. -/
theorem glance_tearDown (hnumbered : Numbered r) (hopen : (r.connection? token).isSome)
    (hothers : Handle.token place ≠ token → SameView (r.tearDown service token) r' place)
    (hsockets : r'.sockets = (r.tearDown service token).sockets)
    (hcallbacks : r'.callbacks = (r.tearDown service token).callbacks)
    (hconnections : r'.connections = (r.tearDown service token).connections) (hcustody : Custody r') :
    Glance service r r' place := by
  by_cases hsame : Handle.token place = token
  · subst hsame
    have hgone : r'.connection? (Handle.token place) = none := by
      rw [connection?, hconnections]
      exact (connection?_tearDown service _ r _).trans (if_pos rfl)
    refine .abandoned ?_ (hcustody.work?_of_none hgone) ?_ ?_
    · rw [chunks, hcallbacks]
      exact chunks_tearDown service _ r _
    · rw [written, hsockets]
      exact written_tearDown service _ r place
    -- it is known to have been opened and is not open any more, so it is not around
    · have hopened : .opened (Handle.token place) ∈ r'.callbacks := by
        rw [hcallbacks]
        exact (mem_callbacks_tearDown service _ r _).mpr (hnumbered.known _ hopen)
      rw [goesOn, isAround, hgone, decide_eq_false (not_not_intro hopened)]
      rfl
  · exact .same ((sameView_tearDown service r hsame).trans (hothers hsame))

/-! ## The surroundings, the poll thread, and the way to the end -/

/-- What peers do, and who asks for a connection to be closed, does nothing to any connection yet. -/
theorem glance_outerSteps (hsteps : OuterSteps r move r') (place : Nat) : Glance service r r' place := by
  cases hsteps with
  | dial hlife => exact .same (sameView_dial r place)
  | sends socket bytes hopen => exact .same (sameView_modifySocket socket r fun _ _ => rfl)
  | ends socket hsocket => exact .same (sameView_modifySocket socket r fun _ _ => rfl)
  | @disconnect token conn hconn => exact .same (sameView_close token conn r place)

/-- The poll thread hands a connection back. -/
theorem glance_poll_handBack (h : Steady moves r) (hmem : token ∈ r.poll.inHand) (ok : Bool) (poll : PollThread)
    (hcustody : Custody { r.handBack service token ok with poll }) (place : Nat) :
    Glance service r { r.handBack service token ok with poll } place := by
  cases ok with
  | true =>
    have harmed : SameView r (r.arm token) place := sameView_modifyConnection token r fun _ _ => rfl
    exact .same (harmed.withPoll poll)
  | false =>
    exact glance_tearDown h.numbered (h.custody.isSome_of_mem_inHand hmem)
      (fun _ => SameView.withPoll (.refl _ place) poll) rfl rfl rfl hcustody

/-- The poll thread tears down connections that cannot be registered; whatever else it does moves them only. -/
theorem glance_pollSteps (h : Steady moves r) (hsteps : PollSteps service r move r') (hcustody : Custody r')
    (place : Nat) : Glance service r r' place := by
  cases hsteps with
  | look hpoll => exact .same (sameView_of_eq rfl rfl rfl rfl)
  | @wait events hpoll hfew hcan hnodup => exact .same ((sameView_fetch events r place).withPoll _)
  | waitFails hpoll => exact .same (sameView_of_eq rfl rfl rfl rfl)
  | handled hpoll => exact .same (sameView_of_eq rfl rfl rfl rfl)
  | knocked hpoll => exact .same (sameView_of_eq rfl rfl rfl rfl)
  | queued hpoll hpush => exact .same (sameView_of_eq rfl rfl rfl rfl)
  | rejected hpoll hpush => exact .same (sameView_of_eq rfl rfl rfl rfl)
  | @accept events socket backlog hpoll hbacklog =>
    -- the connection accepted now has a token nobody was told of before
    have hfresh : .opened r.nextToken ∉ r.callbacks :=
      h.numbered.not_mem_opened h.few (by rw [hbacklog]; exact List.cons_ne_nil _ _)
    exact .same ((sameView_enroll service socket backlog hfresh place).withPoll _)
  | acceptDone hpoll => exact .same (sameView_of_eq rfl rfl rfl rfl)
  | register ok hpoll =>
    exact glance_poll_handBack h (by rw [hpoll]; exact List.mem_cons_self) ok _ hcustody place
  | rearmRejected ok hpoll =>
    exact glance_poll_handBack h (by rw [hpoll]; exact List.mem_cons_self) ok _ hcustody place

/-- A shutdown closes the connections that are left. Its other steps do nothing to them. -/
theorem glance_shutdownSteps (h : Steady moves r) (hsteps : ShutdownSteps service r move r') (hcustody : Custody r')
    (place : Nat) : Glance service r r' place := by
  cases hsteps with
  | shutDown hlife => exact .same (sameView_of_eq rfl rfl rfl rfl)
  | shutDownAgain hlife => exact .same (.refl r place)
  | pushStops hlife => exact .same (sameView_of_eq rfl rfl rfl rfl)
  | join hlife hleft => exact .same (sameView_of_eq rfl rfl rfl rfl)
  | @closeNext token conn rest hlife hconnections =>
    have hhead := ByToken.get?_cons token token conn rest
    rw [if_pos rfl, ← hconnections] at hhead
    exact glance_tearDown h.numbered (Option.isSome_iff_exists.mpr ⟨conn, hhead⟩) (fun _ => .refl _ place) rfl rfl rfl
      hcustody
  | finish hlife hconnections =>
    have hclosed := sameView_closeSockets r.backlog r place
    exact .same ⟨hclosed.chunks, hclosed.inbox, hclosed.work, hclosed.left, hclosed.around, hclosed.written⟩

/-! ## Workers -/

/-- A worker takes a chunk off the socket of a connection, and begins to serve it. -/
theorem glance_readChunk (h : Steady moves r) {length : Nat} {chunk : Bytes} {answers : WriteAnswers}
    (hworker : r.workers[worker]? = some (.reading token)) (hconn : r.connection? token = some conn)
    (hafter : r' = (r.takeChunk token conn.socket length chunk).setWorker worker
      (.serving token (service.received token conn.inbox chunk answers)))
    (hcustody : Custody r') (place : Nat) : Glance service r r' place := by
  -- of all connections it is only this one that a chunk is taken off
  by_cases hsame : Handle.token place = token
  · subst hsame
    have hserves : r'.workers[worker]? = some (.serving (Handle.token place)
        (service.received (Handle.token place) conn.inbox chunk answers)) := by
      rw [hafter]
      exact getElem?_setWorker_self (r := r.takeChunk _ conn.socket length chunk) hworker _
    refine .received chunk answers ?_ (h.goesOn_of_worker hworker rfl rfl) ?_ ?_ ?_
    · exact h.custody.work?_of_worker hworker rfl
    · rw [hafter]
      refine (chunks_takeChunk _ conn.socket length chunk r _).trans ?_
      rw [if_pos rfl]
    · rw [hcustody.work?_of_worker hserves rfl, Worker.work?, if_pos rfl, inboxOf, hconn]
      rfl
    · rw [hafter]
      exact written_takeChunk (Handle.token place) conn.socket length chunk r place
  · rw [hafter]
    exact .same ((sameView_takeChunk conn.socket length chunk r hsame).trans
      (sameView_setWorker_of_ne hworker rfl rfl hsame))

/-- A turn in serving a chunk concerns the connection that is served. -/
theorem glance_turn (h : Steady moves r) {routine : Routine τ Reaction}
    (hworker : r.workers[worker]? = some (.serving token routine))
    (hafter : r' = { r with state := (routine.turn r.state).2 }.setWorker worker
      (.serving token (routine.turn r.state).1))
    (hcustody : Custody r') (place : Nat) : Glance service r r' place := by
  by_cases hsame : Handle.token place = token
  · subst hsame
    have hserves : r'.workers[worker]? = some (.serving (Handle.token place) (routine.turn r.state).1) := by
      rw [hafter]
      exact getElem?_setWorker_self (r := { r with state := (routine.turn r.state).2 }) hworker _
    -- this connection sees a turn of its own routine
    refine .turned routine ?_ (h.goesOn_of_worker hworker rfl rfl) ?_ ?_ ?_
    · rw [h.custody.work?_of_worker hworker rfl, Worker.work?, if_pos rfl]
    · rw [hafter]
      rfl
    · rw [hcustody.work?_of_worker hserves rfl, Worker.work?, if_pos rfl]
    · rw [hafter]
      rfl
  · have hview : SameView r (r.setWorker worker (.serving token (routine.turn r.state).1)) place :=
      sameView_setWorker_of_ne hworker rfl rfl hsame
    rw [hafter]
    exact .same ⟨hview.chunks, hview.inbox, hview.work, hview.left, hview.around, hview.written⟩

/-- The end of a chunk concerns the connection that is served. Its worker may turn to tearing it down. -/
theorem glance_conclude (h : Steady moves r) {reaction : Reaction}
    (hworker : r.workers[worker]? = some (.serving token (.done reaction))) (hconn : r.connection? token = some conn)
    (hafter : r' = (r.conclude token conn reaction).setWorker worker
      (if reaction.failure.isNone then .checking token else .leaving token)) (hcustody : Custody r')
    (hplace : place + 1 < UInt64.size) : Glance service r r' place := by
  have htold := sameTold_conclude token conn reaction r
  have hbefore : (r.conclude token conn reaction).workers[worker]? = some (.serving token (.done reaction)) := by
    rw [htold.workers]
    exact hworker
  have hnext : (if reaction.failure.isNone then .checking token else .leaving token : Worker τ).token?
      = some token := by
    split <;> rfl
  have hgoes : r'.workers[worker]? = some (if reaction.failure.isNone then .checking token else .leaving token) := by
    rw [hafter]
    exact getElem?_setWorker_self hbefore _
  by_cases hsame : Handle.token place = token
  · subst hsame
    obtain rfl := h.socket_eq hplace hconn
    have hresponded := sameView_conclude_respond (Handle.token conn.socket) conn reaction r conn.socket
    refine .concluded reaction ?_ (h.goesOn_of_worker hworker rfl rfl) ?_ ?_ ?_ ?_ ?_
    · rw [h.custody.work?_of_worker hworker rfl, Worker.work?, if_pos rfl]
    · rw [hafter]
      exact hresponded.chunks
    · rw [hafter]
      exact hresponded.inbox.trans (inboxOf_respond reaction hconn)
    · rw [hcustody.work?_of_worker hgoes hnext]
      split <;> rfl
    · rw [hafter]
      exact hresponded.written.trans (written_respond reaction (h.socket_lt hconn))
    · have haround : r'.isAround (Handle.token conn.socket) = true := by
        rw [hafter]
        refine (isAround_of_isSome (htold.opened _) htold.callbacks).trans ?_
        rw [isAround, hconn]
        rfl
      rw [goesOn, haround, Bool.true_and]
      -- whether it goes on is whether the worker checks again or is about to leave
      cases hfailure : reaction.failure.isNone with
      | true =>
        rw [hfailure, if_pos rfl] at hgoes
        rw [hcustody.isLeft_eq_false hgoes rfl rfl, Bool.not_false]
      | false =>
        rw [hfailure, if_neg Bool.false_ne_true] at hgoes
        rw [isLeft_of_worker hgoes, Bool.not_true]
  · rw [hafter]
    exact .same ((sameView_conclude reaction r hsame (h.socket_ne hplace hconn hsame)).trans
      (sameView_setWorker_of_ne hbefore rfl hnext hsame))

/-- Who may read, serve and write is a worker. -/
theorem glance_workerSteps (h : Steady moves r) (hsteps : WorkerSteps service r move r') (hcustody : Custody r')
    (hplace : place + 1 < UInt64.size) : Glance service r r' place := by
  cases hsteps with
  | @popStop worker queue hworker hpop =>
    have hpopped : SameView r { r with queue } place := sameView_of_eq rfl rfl rfl rfl
    exact .same (hpopped.trans (sameView_setWorker (r := { r with queue }) hworker rfl rfl))
  | @popConnection worker token queue hworker hpop =>
    have hpopped : SameView r { r with queue } place := sameView_of_eq rfl rfl rfl rfl
    refine .same (hpopped.trans (sameView_setWorker (r := { r with queue }) hworker ?_ ?_))
    · split <;> rfl
    · split <;> rfl
  | check hworker =>
    split
    · exact .same (sameView_setWorker hworker rfl rfl)
    · next hclosing =>
      rw [if_neg hclosing] at hcustody
      exact glance_leaving hworker rfl hcustody
  | readChunk answers hworker hconn hcan hsocket => exact glance_readChunk h hworker hconn rfl hcustody place
  | readOther answers hworker hconn hcan hnext =>
    rcases hnext with ⟨-, rfl⟩ | ⟨-, rfl⟩ | ⟨-, rfl⟩ | ⟨-, rfl⟩
    · exact glance_leaving hworker rfl hcustody
    · exact glance_leaving hworker rfl hcustody
    · exact .same (sameView_setWorker hworker rfl rfl)
    · exact .same (sameView_setWorker hworker rfl rfl)
  | turn hworker hgoes => exact glance_turn h hworker rfl hcustody place
  | conclude hworker hconn => exact glance_conclude h hworker hconn rfl hcustody hplace
  | rearmFailed hworker => exact glance_leaving hworker rfl hcustody
  | @handBack worker token move ok hworker =>
    rcases hworker with ⟨-, rfl, hworker⟩ | ⟨-, rfl, hworker⟩
    · have harmed : SameView r (r.arm token) place := sameView_modifyConnection token r fun _ _ => rfl
      exact .same (harmed.trans (sameView_setWorker (r := r.arm token) hworker rfl rfl))
    -- tearing down a connection moves no worker
    · have hgone : (r.tearDown service token).workers[worker]? = some (.leaving token) := by
        rw [tearDown_workers]
        exact hworker
      exact glance_tearDown h.numbered (h.custody.isSome_of_worker hworker rfl)
        (fun hother => sameView_setWorker hgone rfl (Worker.leaves_of_ne rfl hother).symm) rfl rfl rfl hcustody

/-- Every step does one of these to the connection of a peer. -/
theorem step?_glance (h : Steady moves r) (hplace : place + 1 < UInt64.size) (hstep : r.step? service move = some r') :
    Glance service r r' place := by
  have hcustody := h.custody.step (h.numbered.connection?_nextToken h.few) hstep
  cases step?_steps hstep with
  | outer hsteps => exact glance_outerSteps hsteps place
  | poll hsteps => exact glance_pollSteps h hsteps hcustody place
  | worker hsteps => exact glance_workerSteps h hsteps hcustody hplace
  | shutdown hsteps => exact glance_shutdownSteps h hsteps hcustody place

/-- Nothing that was written is taken back. -/
theorem Glance.written_grows (h : Glance service r r' place) : r.written place <+: r'.written place := by
  cases h with
  | same h => exact h.written ▸ List.prefix_refl _
  | received _ _ _ _ _ _ hwritten => exact hwritten ▸ List.prefix_refl _
  | turned _ _ _ _ _ hwritten => exact hwritten ▸ List.prefix_refl _
  | concluded _ _ _ _ _ _ hwritten => exact hwritten ▸ List.prefix_append _ _
  | abandoned _ _ hwritten => exact hwritten ▸ List.prefix_refl _

/-! ## Connections that a reactor does not go on with -/

/-- A connection that is closed, or that a worker is about to close. -/
structure Abandoned (r : Reactor τ) (token : Token) : Prop where
  opened : .opened token ∈ r.callbacks
  closes : r.connection? token = none ∨ ∃ worker : Nat, r.workers[worker]? = some (.leaving token)

/-- A connection is abandoned once it is closed or about to be torn down. -/
theorem Steady.abandoned_iff (h : Steady moves r) : r.Abandoned token ↔ r.goesOn token = false := by
  rw [goesOn, isAround, Bool.and_eq_false_iff, Bool.not_eq_false', Bool.or_eq_false_iff, decide_eq_false_iff_not,
    not_not, Option.isSome_eq_false_iff, Option.isNone_iff_eq_none]
  constructor
  · rintro ⟨hopened, hnone | ⟨worker, hworker⟩⟩
    · exact .inl ⟨hnone, hopened⟩
    · exact .inr (isLeft_of_worker hworker)
  · rintro (⟨hnone, hopened⟩ | hleft)
    · exact ⟨hopened, .inl hnone⟩
    · obtain ⟨worker, hworker⟩ := exists_leaving_of_isLeft hleft
      exact ⟨h.numbered.known token (h.custody.isSome_of_worker hworker rfl), .inr ⟨worker, hworker⟩⟩

/-- A connection that is given up stays so, and nothing is written to it. -/
theorem Glance.of_abandoned (h : Glance service r r' place) (hgoes : r.goesOn (Handle.token place) = false) :
    r'.goesOn (Handle.token place) = false ∧ r'.written place = r.written place := by
  have hclosed : ∀ {p : Prop}, r.goesOn (Handle.token place) = true → p := fun hopen =>
    absurd (hgoes.symm.trans hopen) Bool.false_ne_true
  cases h with
  | same h =>
    refine ⟨?_, h.written⟩
    rw [goesOn, h.around, h.left]
    exact hgoes
  | received _ _ _ hopen => exact hclosed hopen
  | turned _ _ hopen => exact hclosed hopen
  | concluded _ _ hopen => exact hclosed hopen
  | abandoned _ _ hwritten hgoes' => exact ⟨hgoes', hwritten⟩

/-- What becomes of a reactor that has come about has come about, too. -/
theorem Onward.exists_ran (h : Onward service stir r r') (hr : Ran service stir config initial moves r) :
    ∃ more, Ran service stir config initial more r' := by
  induction h with
  | here => exact ⟨moves, hr⟩
  | step h hstep ih =>
    obtain ⟨more, hmore⟩ := ih
    exact ⟨_, hmore.step hstep⟩
  | stir h hstir ih =>
    obtain ⟨more, hmore⟩ := ih
    exact ⟨more, hmore.stir hstir⟩

/-- Nothing that was written to a peer is taken back, however the reactor goes on. -/
theorem Onward.written_grows (h : Onward service stir r r') (hr : Ran service stir config initial moves r)
    (hplace : place + 1 < UInt64.size) (hfew : r'.sockets.size < UInt64.size) :
    r.written place <+: r'.written place := by
  induction h with
  | here => exact List.prefix_refl _
  | step h hstep ih =>
    have hbefore := Nat.lt_of_le_of_lt (step?_tells hstep).sockets_le hfew
    obtain ⟨more, hmore⟩ := h.exists_ran hr
    exact (ih hbefore).trans (step?_glance (hmore.steady hbefore) hplace hstep).written_grows
  | stir h hstir ih => exact ih hfew

/-- An abandoned connection stays so, and nothing more is written to its peer. -/
theorem Onward.abandoned (h : Onward service stir r r') (hr : Ran service stir config initial moves r)
    (hplace : place + 1 < UInt64.size) (hfew : r'.sockets.size < UInt64.size)
    (habandoned : r.Abandoned (Handle.token place)) :
    r'.Abandoned (Handle.token place) ∧ r'.written place = r.written place := by
  induction h with
  | here => exact ⟨habandoned, rfl⟩
  | step h hstep ih =>
    -- the bound on the peers goes from the end of the history back to each point of it
    have hbefore := Nat.lt_of_le_of_lt (step?_tells hstep).sockets_le hfew
    obtain ⟨more, hmore⟩ := h.exists_ran hr
    obtain ⟨hmiddle, hsame⟩ := ih hbefore
    have hsteady := hmore.steady hbefore
    obtain ⟨hafter, hwritten⟩ := (step?_glance hsteady hplace hstep).of_abandoned (hsteady.abandoned_iff.mp hmiddle)
    exact ⟨((hmore.step hstep).steady hfew).abandoned_iff.mpr hafter, hwritten.trans hsame⟩
  | stir h hstir ih =>
    obtain ⟨hmiddle, hsame⟩ := ih hfew
    exact ⟨⟨hmiddle.opened, hmiddle.closes⟩, hsame⟩

/-- What a worker that leaves a connection can do next is to close it. -/
theorem Steady.closed_of_leaving (h : Steady moves r) (service : Service τ) (hplace : place + 1 < UInt64.size)
    (hworker : r.workers[worker]? = some (.leaving (Handle.token place))) :
    ∃ left, r.step? service (.leave worker) = some left ∧ left.connection? (Handle.token place) = none
      ∧ (left.sockets[place]?).all Socket.closed = true := by
  obtain ⟨conn, hconn⟩ := h.exists_conn_of_worker hworker rfl
  obtain rfl := h.socket_eq hplace hconn
  refine ⟨_, step?_leave service hworker, (connection?_tearDown service _ r _).trans (if_pos rfl), ?_⟩
  · show ((r.tearDown service (Handle.token conn.socket)).sockets[conn.socket]?).all Socket.closed = true
    rw [tearDown, hconn]
    show ((r.sockets.modify conn.socket _)[conn.socket]?).all Socket.closed = true
    rw [Array.getElem?_modify, if_pos rfl]
    cases r.sockets[conn.socket]? <;> rfl

end EventBus.Reactor
