import EventBus.Proofs.Reactor.Exclusive
import EventBus.Proofs.Reactor.Views

/-!
# Reactors as trunks

A reactor whose service makes notes, as some of its peers see it, goes on as `Trunk.Step` says.

* `Watched`: what holds of such a reactor after any moves (`Ran.watched`).
* `Watched.moves_step`: every move of the reactor that sends nothing on the connections of these peers is some moves of
  the trunk. One lemma for each of those who make moves.
-/

namespace EventBus.Reactor

variable {τ : Type} {service : FrameService τ} {config : Config} {initial : τ} {r r' : Reactor (Noted τ)} {move : Move}
  {moves : List Move} {token : Token} {place : Nat} {near : Handle → Option NearEnd}

/-- What holds of a reactor whose service makes notes. -/
structure Watched (moves : List Move) (r : Reactor (Noted τ)) : Prop where
  served : WellServed (fun _ _ _ => True) (fun token => Noted.Adds token.place) r
  fed : Fed moves r
  few : r.sockets.size < UInt64.size
  /-- Nothing is noted of a peer that did not connect. -/
  unnoted : ∀ place, r.sockets.size ≤ place → r.state.begun place = [] ∧ r.state.answered place = []
  /-- Nor has it sent anything. -/
  unsent : ∀ place, r.sockets.size ≤ place → sent place moves = []

namespace Watched

/-- The connection of a peer bears its number. -/
theorem socket_lt (h : Watched moves r) {conn : Connection} (hconn : r.connection? token = some conn) :
    conn.socket < r.sockets.size := by
  have hpeer := h.fed.peers token conn hconn
  have hused := h.served.numbered.used token (h.served.numbered.known token (by rw [hconn]; rfl))
  have hroom := h.served.numbered.few
  omega

/-- A connection has the token of the place of its peer. -/
theorem token_eq (h : Watched moves r) {conn : Connection} (hconn : r.connection? token = some conn) :
    Handle.token conn.socket = token := by
  have hlt := h.socket_lt hconn
  exact (Handle.token_eq_iff (Nat.lt_of_le_of_lt hlt h.few)).mpr (h.fed.peers token conn hconn)

/-- A token is that of the place of the peer that has the connection. -/
theorem place_eq (h : Watched moves r) {conn : Connection} (hconn : r.connection? token = some conn) :
    token.place = conn.socket := by
  have hpeer := h.fed.peers token conn hconn
  unfold Token.place
  omega

theorem token_ne (h : Watched moves r) {conn : Connection} (hconn : r.connection? token = some conn)
    (hplace : place < r.sockets.size) (hother : place ≠ conn.socket) : Handle.token place ≠ token := by
  intro hsame
  have hpeer := h.fed.peers token conn hconn
  have htoken := (Handle.token_eq_iff (Nat.lt_of_le_of_lt hplace h.few)).mp hsame
  omega

/-- Nothing is to be seen of a peer that has not connected. -/
theorem channel_unaccepted (h : Watched moves r) (hfew : r.sockets.size + 1 < UInt64.size) (near : NearEnd) :
    r.channel r.sockets.size near = { token := Handle.token r.sockets.size, near } := by
  have htoken := (Handle.token_eq_iff hfew).mp rfl
  have hfresh : .opened (Handle.token r.sockets.size) ∉ r.callbacks := by
    intro hmem
    -- the token was not given out, so nothing is recorded under it
    have hused := h.served.numbered.used _ hmem
    have hroom := h.served.numbered.few
    omega
  have hnone : r.connection? (Handle.token r.sockets.size) = none := by
    cases hconn : r.connection? (Handle.token r.sockets.size) with
    | none => rfl
    | some conn => exact absurd (h.served.numbered.known _ (by rw [hconn]; rfl)) hfresh
  have hfed := h.fed.fed r.sockets.size hfew
  rw [h.unsent _ (Nat.le_refl _)] at hfed
  refine Channel.ext rfl rfl ?_ ?_ ?_ ?_ ?_
  · exact (List.append_eq_nil_iff.mp hfed).1
  · show (r.connection? _).elim _ _ = _
    rw [hnone]
    rfl
  · exact h.served.custody.work?_of_none hnone
  · show (r.sockets[r.sockets.size]?).elim _ _ = _
    rw [Array.getElem?_eq_none (Nat.le_refl _)]
    rfl
  · show (r.isAround _ && !r.isLeft _) = true
    rw [h.served.custody.isLeft_of_none hnone, isAround, decide_eq_true hfresh, Bool.or_true]
    rfl

end Watched

/-- A step makes notes only of peers that have connected. -/
theorem keeps_of_step (hserved : WellServed (fun _ _ _ => True) (fun token => Noted.Adds token.place) r)
    (hstep : r.step? service.notedAll.toService move = some r') (hplace : r.sockets.size ≤ place) :
    Noted.Keeps place r.state r'.state := by
  cases step?_tells hstep with
  | nothing hstate => exact hstate ▸ .refl place r.state
  | opened hbacklog hstate => exact hstate ▸ .refl place r.state
  | received token inbox chunk answers hstate => exact hstate ▸ .refl place r.state
  | turned worker token routine hworker hstate =>
    have hopen := hserved.custody.isSome_of_serves hworker
    have hused := hserved.numbered.used token (hserved.numbered.known token hopen)
    have hroom := hserved.numbered.few
    have hpeer : 0 < r.openedCount := List.countP_pos_iff.mpr ⟨_, hserved.numbered.known token hopen, rfl⟩
    -- the place is beyond the sockets there are, the connection served was accepted on one of them
    have hother : place ≠ token.place := by
      unfold Token.place
      omega
    have hadds := hserved.turn service.separate_notedAll hworker
    exact hstate ▸ hadds.others place hother
  | closed token conn hconn hstate =>
    rw [hstate]
    exact ⟨rfl, rfl⟩

/-- Nothing is noted about a peer that has not dialled. -/
theorem Ran.unnoted (h : Ran service.notedAll.toService Noted.Stirs config { state := initial } moves r)
    (hfew : r.sockets.size < UInt64.size) (hplace : r.sockets.size ≤ place) :
    r.state.begun place = [] ∧ r.state.answered place = [] := by
  induction h with
  | start => exact ⟨rfl, rfl⟩
  | step h hstep ih =>
    have hmore := (step?_tells hstep).sockets_le
    have hbefore := Nat.lt_of_le_of_lt hmore hfew
    -- what a step notes is about a connection that is in somebody's hands, and that is none of this peer
    have hserved := h.reachable.wellServed service.separate_notedAll hbefore
    have hkeeps := keeps_of_step hserved hstep (Nat.le_trans hmore hplace)
    obtain ⟨hbegun, hanswered⟩ := ih hbefore (Nat.le_trans hmore hplace)
    exact ⟨hkeeps.begun.trans hbegun, hkeeps.answered.trans hanswered⟩
  | stir h hstirs ih =>
    obtain ⟨hbegun, hanswered⟩ := ih hfew hplace
    exact ⟨(hstirs.keeps place).begun.trans hbegun, (hstirs.keeps place).answered.trans hanswered⟩

/-- A peer that has not dialled has sent nothing. -/
theorem Ran.unsent {σ : Type} {any : Service σ} {stir : σ → σ → Prop} {start : σ} {r : Reactor σ}
    (h : Ran any stir config start moves r) (hplace : r.sockets.size ≤ place) : sent place moves = [] := by
  induction h with
  | start => rfl
  | @step moves r r' move h hstep ih =>
    have hmore := (step?_tells hstep).sockets_le
    have hnothing : move.sentBy place = [] := by
      cases step?_steps hstep with
      | outer hsteps =>
        cases hsteps with
        | sends socket bytes hopen =>
          -- bytes are sent on sockets that exist
          refine if_neg fun hsame => ?_
          rw [hsame, Array.getElem?_eq_none (Nat.le_trans hmore hplace)] at hopen
          cases hopen
        | _ => rfl
      | poll hsteps => cases hsteps <;> rfl
      | worker hsteps =>
        cases hsteps with
        | handBack ok hworker => rcases hworker with ⟨rfl, -⟩ | ⟨rfl, -⟩ <;> rfl
        | _ => rfl
      | shutdown hsteps => cases hsteps <;> rfl
    rw [sent_append_singleton, ih (Nat.le_trans hmore hplace), hnothing]
    rfl
  | stir h hstirs ih => exact ih hplace

/-- All that is asked of a watched reactor has been shown of every run. -/
theorem Ran.watched (h : Ran service.notedAll.toService Noted.Stirs config { state := initial } moves r)
    (hfew : r.sockets.size < UInt64.size) : Watched moves r where
  served := h.reachable.wellServed service.separate_notedAll hfew
  fed := h.fed hfew
  few := hfew
  unnoted _ hplace := h.unnoted hfew hplace
  unsent _ hplace := h.unsent hplace

/-! ## Moves of the trunk -/

/-- A client sees the change of one connection only. -/
theorem trunk_eq_put {here : NearEnd} (hnear : near place = some here)
    (hothers : ∀ other, other ≠ place → (near other).isSome → SameView r r' other) :
    r'.trunk near = { (r.trunk near).put place (r'.channel place here) with peer := r'.state } := by
  -- the peer is the state either way, so only the channels are to be compared
  have hchannels : (r'.trunk near).channel?
      = Function.update (r.trunk near).channel? place (some (r'.channel place here)) := by
    funext other
    show (near other).map _ = _
    by_cases hsame : other = place
    · subst hsame
      rw [hnear, Function.update_self]
      rfl
    · rw [Function.update_of_ne hsame]
      show _ = (near other).map _
      cases hother : near other with
      | none => rfl
      | some there => exact congrArg some ((hothers other hsame (by rw [hother]; rfl)).channel_eq there)
  unfold Trunk.put
  rw [← hchannels]
  rfl

/-- Where every peer of the trunk sees the same, only the state of the service is another. -/
theorem trunk_eq_of_sameView (hsame : ∀ place, (near place).isSome → SameView r r' place) :
    r'.trunk near = ⟨(r.trunk near).channel?, r'.state⟩ := by
  have hchannels : (r'.trunk near).channel? = (r.trunk near).channel? := by
    funext place
    show (near place).map _ = (near place).map _
    cases hplace : near place with
    | none => rfl
    | some here => exact congrArg some ((hsame place (by rw [hplace]; rfl)).channel_eq here)
  rw [← hchannels]
  rfl

/-- A client is one more peer. -/
theorem trunk_update (near : Handle → Option NearEnd) (place : Nat) (here : NearEnd) (r : Reactor (Noted τ)) :
    r.trunk (Function.update near place (some here)) = (r.trunk near).put place (r.channel place here) := by
  have hchannels : (r.trunk (Function.update near place (some here))).channel?
      = Function.update (r.trunk near).channel? place (some (r.channel place here)) := by
    funext other
    show (Function.update near place (some here) other).map _ = _
    by_cases hsame : other = place
    · subst hsame
      rw [Function.update_self, Function.update_self]
      rfl
    · rw [Function.update_of_ne hsame, Function.update_of_ne hsame]
      rfl
  unfold Trunk.put
  rw [← hchannels]
  rfl

/-- A client sees no change but in the notes on others. -/
theorem moves_of_sameView (hsame : ∀ place, (near place).isSome → SameView r r' place)
    (hgrows : r.state.Grows r'.state) (hkeeps : ∀ place, (near place).isSome → Noted.Keeps place r.state r'.state) :
    Trunk.Moves service (r.trunk near) (r'.trunk near) := by
  rw [trunk_eq_of_sameView hsame]
  refine .single (.stir hgrows fun place channel hchannel => hkeeps place ?_)
  obtain ⟨here, hhere, -⟩ := Option.map_eq_some_iff.mp hchannel
  rw [hhere]
  rfl

theorem moves_of_sameView_of_eq (hsame : ∀ place, (near place).isSome → SameView r r' place)
    (hstate : r'.state = r.state) : Trunk.Moves service (r.trunk near) (r'.trunk near) :=
  moves_of_sameView hsame (hstate ▸ .refl r.state) fun place _ => hstate ▸ .refl place r.state

/-- Of the fields of a reactor, five are all that its trunk is made of. -/
theorem moves_of_eq (hsockets : r'.sockets = r.sockets) (hcallbacks : r'.callbacks = r.callbacks)
    (hconnections : r'.connections = r.connections) (hworkers : r'.workers = r.workers) (hstate : r'.state = r.state) :
    Trunk.Moves service (r.trunk near) (r'.trunk near) :=
  moves_of_sameView_of_eq (fun place _ => .of_eq hsockets hcallbacks hconnections hworkers place) hstate

/-- What is done on the connection of one peer, whether or not a client is that peer. -/
theorem moves_of_one (place : Nat)
    (hothers : ∀ other, other ≠ place → (near other).isSome → SameView r r' other) (hadds : Noted.Adds place r.state r'.state)
    (hhere : ∀ here, near place = some here →
      Trunk.Moves service (r.trunk near) { (r.trunk near).put place (r'.channel place here) with peer := r'.state }) :
    Trunk.Moves service (r.trunk near) (r'.trunk near) := by
  cases hnear : near place with
  | some here =>
    rw [trunk_eq_put hnear hothers]
    exact hhere here hnear
  | none =>
    have hne : ∀ other, (near other).isSome → other ≠ place := by
      rintro other hother rfl
      rw [hnear] at hother
      cases hother
    exact moves_of_sameView (fun other hother => hothers other (hne other hother) hother) hadds.grows
      fun other hother => hadds.others other (hne other hother)

/-- The channel of a peer that is part of the trunk. -/
theorem channel?_trunk {here : NearEnd} (hnear : near place = some here) :
    (r.trunk near).channel? place = some (r.channel place here) := by
  show (near place).map _ = _
  rw [hnear]
  rfl

/-- A connection on which nothing more is read. -/
structure Ends (r r' : Reactor (Noted τ)) (place : Nat) : Prop where
  chunks : r'.chunks (Handle.token place) = r.chunks (Handle.token place)
  work : r'.work? (Handle.token place) = r.work? (Handle.token place)
  written : r'.written place = r.written place
  shut : (r'.isAround (Handle.token place) && !r'.isLeft (Handle.token place)) = false

/-- The end of one connection is one step of the trunk, in which its client may find it closed. -/
theorem moves_of_ends (place : Nat) (hothers : ∀ other, other ≠ place → (near other).isSome → SameView r r' other)
    (hends : Ends r r' place) (hkeeps : ∀ other, Noted.Keeps other r.state r'.state) :
    Trunk.Moves service (r.trunk near) (r'.trunk near) := by
  refine moves_of_one place hothers (Noted.adds_of_keeps hkeeps place) fun here hhere => ?_
  have hhung : Trunk.Step service (r.trunk near) _ := .hangUp (channel?_trunk hhere) (r'.inboxOf (Handle.token place))
  have hchannel : r'.channel place here
      = { r.channel place here with inbox := r'.inboxOf (Handle.token place), isOpen := false } := by
    unfold channel
    rw [hends.chunks, hends.work, hends.written, hends.shut]
  rw [hchannel]
  exact .tail (.single hhung) (.stir (.of_keeps hkeeps) fun other _ _ => hkeeps other)

/-! ## Connections in hand -/

/-- The peers that a client is. -/
def Known (near : Handle → Option NearEnd) (r : Reactor (Noted τ)) : Prop :=
  ∀ place, (near place).isSome → place < r.sockets.size

namespace Watched

variable {conn : Connection} {worker : Nat} {now next : Worker (Noted τ)}

/-- A worker goes on with the connection that it has in hand, which concerns no other one. -/
theorem sameView_setWorker (h : Watched moves r) (hknown : Known near r) (hconn : r.connection? token = some conn)
    (hworker : r.workers[worker]? = some now) (hnow : now.token? = some token) (hnext : next.token? = some token) :
    ∀ other, other ≠ conn.socket → (near other).isSome → SameView r (r.setWorker worker next) other :=
  fun other hother hsome =>
    sameView_setWorker_of_ne hworker hnow hnext (h.token_ne hconn (hknown other hsome) hother)

/-- What a worker has in hand is an open connection. -/
theorem exists_conn_of_worker (h : Watched moves r) (hworker : r.workers[worker]? = some now)
    (hnow : now.token? = some token) : ∃ conn, r.connection? token = some conn :=
  Option.isSome_iff_exists.mp (h.served.custody.isSome_of_worker hworker hnow)

/-- What there is to do on a channel is what the worker has to do that has the connection in hand. -/
theorem work_channel (h : Watched moves r) (hconn : r.connection? token = some conn)
    (hworker : r.workers[worker]? = some now) (hnow : now.token? = some token) (here : NearEnd) :
    (r.channel conn.socket here).work = now.work? token := by
  show r.work? _ = now.work? token
  rw [h.token_eq hconn, h.served.custody.work?_of_worker hworker hnow]

/-- A worker turns to leaving its connection. -/
theorem moves_leaving (h : Watched moves r) (hknown : Known near r) (hworker : r.workers[worker]? = some now)
    (hnow : now.token? = some token) (hwork : now.work? token = none) :
    Trunk.Moves service (r.trunk near) ((r.setWorker worker (.leaving token)).trunk near) := by
  obtain ⟨conn, hconn⟩ := h.exists_conn_of_worker hworker hnow
  have htoken := h.token_eq hconn
  refine moves_of_ends conn.socket (h.sameView_setWorker hknown hconn hworker hnow rfl) ⟨rfl, ?_, rfl, ?_⟩
    fun other => .refl other r.state
  · rw [htoken]
    unfold work?
    have hsame : (Worker.leaving token : Worker (Noted τ)).work? token = now.work? token := hwork.symm
    rw [map_workers_setWorker (Worker.work? token) hworker hsame]
  · have hleft : (r.setWorker worker (.leaving token)).isLeft token = true :=
      isLeft_of_worker (getElem?_setWorker_self hworker _)
    rw [htoken, hleft, Bool.not_true, Bool.and_false]

/-- A connection is torn down, and whoever had it in hand goes on. -/
theorem moves_tearDown (h : Watched moves r) (hknown : Known near r) (hopen : (r.connection? token).isSome)
    (hothers : ∀ place, Handle.token place ≠ token → SameView (r.tearDown service.notedAll.toService token) r' place)
    (hsockets : r'.sockets = (r.tearDown service.notedAll.toService token).sockets)
    (hcallbacks : r'.callbacks = (r.tearDown service.notedAll.toService token).callbacks)
    (hconnections : r'.connections = (r.tearDown service.notedAll.toService token).connections)
    (hwork : r'.work? token = r.work? token)
    (hstate : r'.state = (r.tearDown service.notedAll.toService token).state) :
    Trunk.Moves service (r.trunk near) (r'.trunk near) := by
  obtain ⟨conn, hconn⟩ := Option.isSome_iff_exists.mp hopen
  have htoken := h.token_eq hconn
  -- one peer has this connection; for the others it is an operation that leaves theirs alone
  refine moves_of_ends conn.socket (fun other hother hsome => ?_) ⟨?_, ?_, ?_, ?_⟩ fun other => ?_
  · have hne := h.token_ne hconn (hknown other hsome) hother
    exact (sameView_tearDown service.notedAll.toService r hne).trans (hothers other hne)
  · rw [chunks, hcallbacks]
    exact chunks_tearDown service.notedAll.toService token r _
  · rw [htoken, hwork]
  · rw [written, hsockets]
    exact written_tearDown service.notedAll.toService token r _
  · have hmem := (mem_callbacks_tearDown service.notedAll.toService token r token).mpr (h.served.numbered.known token hopen)
    have hgone := connection?_tearDown service.notedAll.toService token r token
    rw [if_pos rfl, connection?, ← hconnections] at hgone
    rw [htoken, isAround, connection?, hgone, hcallbacks, decide_eq_false (not_not_intro hmem)]
    rfl
  · rw [hstate, tearDown, hconn]
    exact ⟨rfl, rfl⟩

/-! ## The surroundings, the poll thread, and the way to the end -/

/-- Nothing that peers do is seen by the service, unless it is sent on the connections of the trunk. -/
theorem moves_outerSteps (hsteps : OuterSteps r move r') : Trunk.Moves service (r.trunk near) (r'.trunk near) := by
  cases hsteps with
  | dial hlife => exact moves_of_sameView_of_eq (fun place _ => sameView_dial r place) rfl
  | sends socket bytes hopen =>
    exact moves_of_sameView_of_eq (fun place _ => sameView_modifySocket socket r fun _ _ => rfl) rfl
  | ends socket hsocket =>
    exact moves_of_sameView_of_eq (fun place _ => sameView_modifySocket socket r fun _ _ => rfl) rfl
  | @disconnect token conn hconn => exact moves_of_sameView_of_eq (fun place _ => sameView_close token conn r place) rfl

/-- The poll thread hands a connection back. -/
theorem moves_poll_handBack (h : Watched moves r) (hknown : Known near r) (hmem : token ∈ r.poll.inHand) (ok : Bool)
    (poll : PollThread) :
    Trunk.Moves service (r.trunk near)
      (trunk near { r.handBack service.notedAll.toService token ok with poll }) := by
  cases ok with
  | true =>
    have harmed : ∀ place, SameView r (r.arm token) place :=
      fun place => sameView_modifyConnection token r fun _ _ => rfl
    exact moves_of_sameView_of_eq (fun place _ => (harmed place).withPoll poll) rfl
  | false =>
    refine h.moves_tearDown hknown (h.served.custody.isSome_of_mem_inHand hmem)
      (fun place _ => SameView.withPoll (.refl _ place) poll) rfl rfl rfl ?_ rfl
    show (r.tearDown service.notedAll.toService token).work? token = _
    rw [work?, tearDown_workers, work?]

/-- The poll thread accepts peers, which is a step of the trunk, and tears down connections that cannot
be registered. -/
theorem moves_pollSteps (h : Watched moves r) (hknown : Known near r)
    (hsteps : PollSteps service.notedAll.toService r move r') : Trunk.Moves service (r.trunk near) (r'.trunk near) := by
  cases hsteps with
  | look hpoll => exact moves_of_eq rfl rfl rfl rfl rfl
  | @wait events hpoll hfew hcan hnodup =>
    refine moves_of_sameView_of_eq (fun place _ => (sameView_fetch events r place).withPoll _) ?_
    show (r.fetch events).state = r.state
    rw [fetch_eq]
  | waitFails hpoll => exact moves_of_eq rfl rfl rfl rfl rfl
  | handled hpoll => exact moves_of_eq rfl rfl rfl rfl rfl
  | knocked hpoll => exact moves_of_eq rfl rfl rfl rfl rfl
  | queued hpoll hpush => exact moves_of_eq rfl rfl rfl rfl rfl
  | rejected hpoll hpush => exact moves_of_eq rfl rfl rfl rfl rfl
  | @accept events socket backlog hpoll hbacklog =>
    -- no near end is affected by an accepted connection that nobody was told of before
    have hfresh : .opened r.nextToken ∉ r.callbacks :=
      h.served.numbered.not_mem_opened h.few (by rw [hbacklog]; exact List.cons_ne_nil _ _)
    have henrolled := sameView_enroll service.notedAll.toService socket backlog hfresh
    exact moves_of_sameView_of_eq (fun place _ => (henrolled place).withPoll _) rfl
  | acceptDone hpoll => exact moves_of_eq rfl rfl rfl rfl rfl
  | @register token events ok hpoll =>
    exact h.moves_poll_handBack hknown (by rw [hpoll]; exact List.mem_cons_self) ok _
  | @rearmRejected token events ok hpoll =>
    exact h.moves_poll_handBack hknown (by rw [hpoll]; exact List.mem_cons_self) ok _

/-- A shutdown ends the connections one after the other. -/
theorem moves_shutdownSteps (h : Watched moves r) (hknown : Known near r)
    (hsteps : ShutdownSteps service.notedAll.toService r move r') :
    Trunk.Moves service (r.trunk near) (r'.trunk near) := by
  cases hsteps with
  | shutDown hlife => exact moves_of_eq rfl rfl rfl rfl rfl
  | shutDownAgain hlife => exact .refl
  | pushStops hlife => exact moves_of_eq rfl rfl rfl rfl rfl
  | join hlife hleft => exact moves_of_eq rfl rfl rfl rfl rfl
  | @closeNext token conn rest hlife hconnections =>
    refine h.moves_tearDown hknown ?_ (fun place _ => .refl _ place) rfl rfl rfl ?_ rfl
    · have hhead := ByToken.get?_cons token token conn rest
      rw [if_pos rfl, ← hconnections] at hhead
      exact Option.isSome_iff_exists.mpr ⟨conn, hhead⟩
    · rw [work?, tearDown_workers, work?]
  | finish hlife hconnections =>
    -- sockets that wait in the backlog belong to no connection
    refine moves_of_sameView_of_eq (fun place _ => ?_) (sameTold_closeSockets r.backlog r).state
    have hclosed := sameView_closeSockets r.backlog r place
    exact ⟨hclosed.chunks, hclosed.inbox, hclosed.work, hclosed.left, hclosed.around, hclosed.written⟩

/-! ## Workers -/

/-- A chunk is taken off the socket of a connection, and a worker begins to serve it. -/
theorem moves_readChunk (h : Watched moves r) (hknown : Known near r) {length : Nat} {chunk : Bytes}
    {answers : WriteAnswers} (hworker : r.workers[worker]? = some (.reading token))
    (hconn : r.connection? token = some conn)
    (hafter : r' = (r.takeChunk token conn.socket length chunk).setWorker worker
      (.serving token (service.notedAll.received token conn.inbox chunk answers)))
    (hcustody : Custody r')
    (hsent : ∀ here, near conn.socket = some here → (r'.chunks token).flatten <+: here.sent.flatten) :
    Trunk.Moves service (r.trunk near) (r'.trunk near) := by
  have htoken := h.token_eq hconn
  have hplace := h.place_eq hconn
  have hserves : r'.workers[worker]? = some (.serving token (service.notedAll.received token conn.inbox chunk answers)) := by
    rw [hafter]
    exact getElem?_setWorker_self (r := r.takeChunk token conn.socket length chunk) hworker _
  -- one peer has sent the chunk; for the others nothing has changed
  refine moves_of_one conn.socket (fun other hother hsome => ?_) (hafter ▸ Noted.adds_self _ r.state)
    fun here hhere => ?_
  · have hne := h.token_ne hconn (hknown other hsome) hother
    rw [hafter]
    exact (sameView_takeChunk conn.socket length chunk r hne).trans (sameView_setWorker_of_ne hworker rfl rfl hne)
  · have hopen : (r.channel conn.socket here).isOpen = true := by
      show (r.isAround _ && !r.isLeft _) = true
      rw [htoken, h.served.custody.isLeft_eq_false hworker rfl rfl, isAround, hconn]
      rfl
    have hidle : (r.channel conn.socket here).work = none := h.work_channel hconn hworker rfl here
    have hchunks : (r'.chunks token).flatten = (r.chunks token).flatten ++ chunk := by
      rw [hafter]
      show ((r.takeChunk token conn.socket length chunk).chunks token).flatten = _
      rw [chunks_takeChunk, if_pos rfl, List.flatten_append, List.flatten_singleton]
    have hprefix : (r.channel conn.socket here).delivered ++ chunk <+: here.sent.flatten := by
      show (r.chunks _).flatten ++ chunk <+: _
      rw [htoken, ← hchunks]
      exact hsent here hhere
    have hstep : Trunk.Step service (r.trunk near) _ :=
      .deliver (channel?_trunk hhere) hopen hidle chunk answers hprefix
    have hchannel : r'.channel conn.socket here = { r.channel conn.socket here with
        delivered := (r.channel conn.socket here).delivered ++ chunk
        work := some ((service.noted conn.socket).received (Handle.token conn.socket)
          (r.inboxOf (Handle.token conn.socket)) chunk answers) } := by
      refine Channel.ext rfl rfl ?_ ?_ ?_ ?_ ?_
      · show (r'.chunks _).flatten = (r.chunks _).flatten ++ chunk
        rw [htoken, hchunks]
      · rw [hafter]
        rfl
      · show r'.work? _ = some _
        rw [htoken, hcustody.work?_of_worker hserves rfl, Worker.work?, if_pos rfl, FrameService.received_notedAll, hplace,
          inboxOf, hconn]
        rfl
      · rw [hafter]
        exact written_takeChunk token conn.socket length chunk r _
      · show (r'.isAround _ && !r'.isLeft _) = (r.isAround _ && !r.isLeft _)
        rw [htoken, hcustody.isLeft_eq_false hserves rfl rfl, h.served.custody.isLeft_eq_false hworker rfl rfl, hafter]
        show ((r.takeChunk token conn.socket length chunk).isAround token && _) = _
        rw [isAround_takeChunk]
    rw [hchannel, hafter]
    exact .single hstep

/-- A turn of the work on a chunk is a turn of the channel of that connection. -/
theorem moves_turn (h : Watched moves r) (hknown : Known near r) {routine : Routine (Noted τ) Reaction}
    (hworker : r.workers[worker]? = some (.serving token routine))
    (hafter : r' = { r with state := (routine.turn r.state).2 }.setWorker worker (.serving token (routine.turn r.state).1))
    (hcustody : Custody r') : Trunk.Moves service (r.trunk near) (r'.trunk near) := by
  obtain ⟨conn, hconn⟩ := h.exists_conn_of_worker hworker rfl
  have htoken := h.token_eq hconn
  -- the turn notes nothing but answers of this connection
  have hadds := h.served.secure worker token routine hworker r.state trivial
  replace hadds := (hadds.turn (Noted.adds_self token.place)).1
  rw [h.place_eq hconn] at hadds
  have hserves : r'.workers[worker]? = some (.serving token (routine.turn r.state).1) := by
    rw [hafter]
    exact getElem?_setWorker_self (r := { r with state := (routine.turn r.state).2 }) hworker _
  refine moves_of_one conn.socket (fun other hother hsome => ?_) (hafter ▸ hadds) fun here hhere => ?_
  · have hsame : SameView r (r.setWorker worker (.serving token (routine.turn r.state).1)) other :=
      h.sameView_setWorker hknown hconn hworker rfl rfl other hother hsome
    rw [hafter]
    exact ⟨hsame.chunks, hsame.inbox, hsame.work, hsame.left, hsame.around, hsame.written⟩
  · have hwork : (r.channel conn.socket here).work = some routine :=
      (h.work_channel hconn hworker rfl here).trans (if_pos rfl)
    have hstep : Trunk.Step service (r.trunk near) _ := .turn (channel?_trunk hhere) hwork
    have hchannel : r'.channel conn.socket here
        = { r.channel conn.socket here with work := some (routine.turn r.state).1 } := by
      refine Channel.ext rfl rfl ?_ ?_ ?_ ?_ ?_
      · rw [hafter]
        rfl
      · rw [hafter]
        rfl
      · show r'.work? _ = some _
        rw [htoken, hcustody.work?_of_worker hserves rfl, Worker.work?, if_pos rfl]
      · rw [hafter]
        rfl
      · show (r'.isAround _ && !r'.isLeft _) = (r.isAround _ && !r.isLeft _)
        rw [htoken, hcustody.isLeft_eq_false hserves rfl rfl, h.served.custody.isLeft_eq_false hworker rfl rfl, hafter]
        rfl
    rw [hchannel, hafter]
    exact .single hstep

/-- At the end of a chunk its answers are written and the rest of its bytes is kept: one step of its channel. -/
theorem moves_conclude (h : Watched moves r) (hknown : Known near r) {reaction : Reaction}
    (hworker : r.workers[worker]? = some (.serving token (.done reaction))) (hconn : r.connection? token = some conn)
    (hafter : r' = (r.conclude token conn reaction).setWorker worker
      (if reaction.failure.isNone then .checking token else .leaving token)) (hcustody : Custody r') :
    Trunk.Moves service (r.trunk near) (r'.trunk near) := by
  have htoken := h.token_eq hconn
  have hsame := sameTold_conclude token conn reaction r
  have hbefore : (r.conclude token conn reaction).workers[worker]? = some (.serving token (.done reaction)) := by
    rw [hsame.workers]
    exact hworker
  have hnext : (if reaction.failure.isNone then .checking token else .leaving token : Worker (Noted τ)).token? = some token := by
    split <;> rfl
  have hgoes : r'.workers[worker]? = some (if reaction.failure.isNone then .checking token else .leaving token) := by
    rw [hafter]
    exact getElem?_setWorker_self hbefore _
  have hstate : r'.state = r.state := by
    rw [hafter]
    exact hsame.state
  have hadds : Noted.Adds conn.socket r.state r'.state := by
    rw [hstate]
    exact Noted.adds_self conn.socket r.state
  refine moves_of_one conn.socket (fun other hother hsome => ?_) hadds fun here hhere => ?_
  · have hne := h.token_ne hconn (hknown other hsome) hother
    rw [hafter]
    exact (sameView_conclude reaction r hne (Ne.symm hother)).trans (sameView_setWorker_of_ne hbefore rfl hnext hne)
  · have hwork : (r.channel conn.socket here).work = some (.done reaction) :=
      (h.work_channel hconn hworker rfl here).trans (if_pos rfl)
    have hstep : Trunk.Step service (r.trunk near) _ := .conclude (channel?_trunk hhere) hwork
    have hresponded := sameView_conclude_respond token conn reaction r conn.socket
    have hchannel : r'.channel conn.socket here = { r.channel conn.socket here with
        inbox := reaction.inbox
        work := none
        written := (r.channel conn.socket here).written ++ reaction.written.flatten
        isOpen := (r.channel conn.socket here).isOpen && reaction.failure.isNone } := by
      -- field by field: the reaction replaces the inbox, ends the work, adds what was written and may shut the channel
      refine Channel.ext rfl rfl ?_ ?_ ?_ ?_ ?_
      · rw [hafter]
        exact congrArg List.flatten hresponded.chunks
      · show r'.inboxOf _ = reaction.inbox
        rw [hafter]
        refine hresponded.inbox.trans ?_
        rw [htoken]
        exact inboxOf_respond reaction hconn
      · show r'.work? _ = none
        rw [htoken, hcustody.work?_of_worker hgoes hnext]
        split <;> rfl
      · rw [hafter]
        exact hresponded.written.trans (written_respond reaction (h.socket_lt hconn))
      · show (r'.isAround _ && !r'.isLeft _) = (r.isAround _ && !r.isLeft _ && reaction.failure.isNone)
        have haround : r'.isAround token = r.isAround token := by
          rw [hafter]
          exact isAround_of_isSome (hsame.opened token) hsame.callbacks
        rw [htoken, haround, h.served.custody.isLeft_eq_false hworker rfl rfl]
        cases hfailure : reaction.failure.isNone with
        | true =>
          rw [hfailure, if_pos rfl] at hgoes
          rw [hcustody.isLeft_eq_false hgoes rfl rfl, Bool.and_true]
        | false =>
          rw [hfailure, if_neg Bool.false_ne_true] at hgoes
          rw [isLeft_of_worker hgoes, Bool.not_true, Bool.and_false, Bool.and_false]
    rw [hchannel, hstate]
    exact .single hstep

/-- A worker does something that a client does not see. -/
theorem moves_setWorker (hworker : r.workers[worker]? = some now) (hwork : ∀ token, next.work? token = now.work? token)
    (hleaves : ∀ token, next.leaves token = now.leaves token) :
    Trunk.Moves service (r.trunk near) ((r.setWorker worker next).trunk near) :=
  moves_of_sameView_of_eq (fun _ _ => Reactor.sameView_setWorker hworker (hwork _) (hleaves _)) rfl

/-- The moves of a worker. Those that only pass a connection on are no move of the trunk. -/
theorem moves_workerSteps (h : Watched moves r) (hknown : Known near r)
    (hsteps : WorkerSteps service.notedAll.toService r move r') (hcustody : Custody r')
    (hsent : ∀ token here, near token.place = some here → (r'.chunks token).flatten <+: here.sent.flatten) :
    Trunk.Moves service (r.trunk near) (r'.trunk near) := by
  cases hsteps with
  | @popStop worker queue hworker hpop =>
    have hpopped : Trunk.Moves service (r.trunk near) (trunk near { r with queue }) := moves_of_eq rfl rfl rfl rfl rfl
    exact hpopped.trans (moves_setWorker (r := { r with queue }) hworker (fun _ => rfl) fun _ => rfl)
  | @popConnection worker token queue hworker hpop =>
    have hpopped : Trunk.Moves service (r.trunk near) (trunk near { r with queue }) := moves_of_eq rfl rfl rfl rfl rfl
    refine hpopped.trans (moves_setWorker (r := { r with queue }) hworker (fun _ => ?_) fun _ => ?_)
    · split <;> rfl
    · split <;> rfl
  | check hworker =>
    split
    · exact moves_setWorker hworker (fun _ => rfl) fun _ => rfl
    · exact h.moves_leaving hknown hworker rfl rfl
  | @readChunk worker token conn socket length answers hworker hconn hcan hsocket =>
    refine h.moves_readChunk hknown hworker hconn rfl hcustody fun here hhere => hsent token here ?_
    rw [h.place_eq hconn]
    exact hhere
  | readOther answers hworker hconn hcan hnext =>
    rcases hnext with ⟨-, rfl⟩ | ⟨-, rfl⟩ | ⟨-, rfl⟩ | ⟨-, rfl⟩
    · exact h.moves_leaving hknown hworker rfl rfl
    · exact h.moves_leaving hknown hworker rfl rfl
    · exact moves_setWorker hworker (fun _ => rfl) fun _ => rfl
    · exact moves_setWorker hworker (fun _ => rfl) fun _ => rfl
  | turn hworker hgoes => exact h.moves_turn hknown hworker rfl hcustody
  | conclude hworker hconn => exact h.moves_conclude hknown hworker hconn rfl hcustody
  | rearmFailed hworker => exact h.moves_leaving hknown hworker rfl rfl
  | @handBack worker token move ok hworker =>
    rcases hworker with ⟨rfl, rfl, hworker⟩ | ⟨rfl, rfl, hworker⟩
    -- a connection that is armed again shows the near end nothing new
    · have harmed : Trunk.Moves service (r.trunk near) ((r.arm token).trunk near) :=
        moves_of_sameView_of_eq (fun place _ => sameView_modifyConnection token r fun _ _ => rfl) rfl
      exact harmed.trans (moves_setWorker (r := r.arm token) hworker (fun _ => rfl) fun _ => rfl)
    · have hgone : (r.tearDown service.notedAll.toService token).workers[worker]? = some (.leaving token) := by
        rw [tearDown_workers]
        exact hworker
      refine h.moves_tearDown hknown (h.served.custody.isSome_of_worker hworker rfl) (fun place hne => ?_) rfl rfl rfl ?_ rfl
      · exact Reactor.sameView_setWorker hgone rfl (Worker.leaves_of_ne rfl hne).symm
      · show ((r.tearDown service.notedAll.toService token).setWorker worker .idle).work? token = _
        have hidle : (Worker.idle : Worker (Noted τ)).work? token = (Worker.leaving token).work? token := rfl
        unfold work?
        rw [map_workers_setWorker (Worker.work? token) hgone hidle, tearDown_workers]

/-! ## Moves -/

/-- Every move of a reactor is some moves of the trunk, for a client that is the peers in some places. -/
theorem moves_step (h : Watched moves r) (h' : Watched (moves ++ [move]) r') (hknown : Known near r)
    (hsent : ∀ place here, near place = some here → here.sent.flatten = sent place (moves ++ [move]))
    (hstep : r.step? service.notedAll.toService move = some r') :
    Trunk.Moves service (r.trunk near) (r'.trunk near) := by
  cases step?_steps hstep with
  | outer hsteps => exact moves_outerSteps hsteps
  | poll hsteps => exact h.moves_pollSteps hknown hsteps
  | worker hsteps =>
    refine h.moves_workerSteps hknown hsteps h'.served.custody fun token here hhere => ?_
    rw [hsent token.place here hhere]
    exact h'.fed.flatten_chunks_prefix token
  | shutdown hsteps => exact h.moves_shutdownSteps hknown hsteps

/-- Changes of the state from outside are moves of the trunk as well. -/
theorem moves_stir {state : Noted τ} (hstirs : Noted.Stirs r.state state) :
    Trunk.Moves service (r.trunk near) (trunk near { r with state }) :=
  moves_of_sameView (fun _ _ => ⟨rfl, rfl, rfl, rfl, rfl, rfl⟩) (.of_keeps hstirs.keeps) fun place _ => hstirs.keeps place

end Watched

end EventBus.Reactor
