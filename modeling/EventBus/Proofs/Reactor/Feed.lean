import EventBus.Proofs.Reactor.Reachable

/-!
# What arrives on connections

The chunks that a service is given, against what the peers sent.

* `Ran`: a reactor that comes about, with the moves that led to it.
* `Fed`: the `i`-th peer has the token `i + 1`; the chunks that were given for it and what waits unread on its
  socket are, one after the other, what it sent.
* `Ran.fed`: that holds after any moves. `Fed.flatten_chunks_prefix` is what it says of one connection.
-/

namespace EventBus

/-- What a peer is given to read by a move. -/
def Reactor.Move.sentBy (peer : Nat) : Reactor.Move → Bytes
  | .sends socket bytes => if socket = peer then bytes else []
  | _ => []

/-- The chunk that the service was given for a connection. -/
def Callback.chunkOf? (token : Token) : Callback → Option Bytes
  | .received t chunk => if t = token then some chunk else none
  | _ => none

namespace Reactor

variable {τ : Type} {service : Service τ} {stir : τ → τ → Prop} {config : Config} {initial : τ}
  {r r' kept : Reactor τ} {move : Move} {moves : List Move} {token : Token}

/-- A reactor comes about by these moves, in this order, with changes of the state from outside in between. -/
inductive Ran (service : Service τ) (stir : τ → τ → Prop) (config : Config) (initial : τ) :
    List Move → Reactor τ → Prop where
  | start : Ran service stir config initial [] (.start config initial)
  | step {moves : List Move} {r r' : Reactor τ} {move : Move} (h : Ran service stir config initial moves r)
      (hstep : r.step? service move = some r') : Ran service stir config initial (moves ++ [move]) r'
  | stir {moves : List Move} {r : Reactor τ} {state : τ} (h : Ran service stir config initial moves r)
      (hstir : stir r.state state) : Ran service stir config initial moves { r with state }

/-- What comes about by moves is reachable, when the moves are forgotten. -/
theorem Ran.reachable (h : Ran service stir config initial moves r) : Reachable service stir config initial r := by
  induction h with
  | start => exact .start
  | step h hstep ih => exact ih.step hstep
  | stir h hstir ih => exact ih.stir hstir

/-- A run that is computed may follow one that has come about. -/
theorem Ran.of_moves? (h : Ran service stir config initial moves r) {more : List Move}
    (hmoves : r.moves? service more = some r') : Ran service stir config initial (moves ++ more) r' := by
  induction more generalizing moves r with
  | nil =>
    cases hmoves
    rwa [List.append_nil]
  | cons move rest ih =>
    -- the first of the moves is one step, and the others are a shorter run behind it
    obtain ⟨next, hstep, hrest⟩ := Option.bind_eq_some_iff.mp hmoves
    have hran := ih (h.step hstep) hrest
    rwa [List.append_assoc, List.singleton_append] at hran

/-! ## Sent, unread, given -/

/-- What a peer sent on its connection in the course of some moves. -/
def sent (peer : Nat) (moves : List Move) : Bytes :=
  moves.flatMap (Move.sentBy peer)

/-- What waits on the socket of a peer. -/
def unread (r : Reactor τ) (peer : Nat) : Bytes :=
  (r.sockets[peer]?).elim [] fun socket => socket.incoming.bytes

/-- The chunks that the service was given for a connection, in order. -/
def chunks (r : Reactor τ) (token : Token) : List Bytes :=
  r.callbacks.reverse.filterMap (Callback.chunkOf? token)

theorem sent_append_singleton (peer : Nat) (moves : List Move) (move : Move) :
    sent peer (moves ++ [move]) = sent peer moves ++ move.sentBy peer := by
  unfold sent
  rw [List.flatMap_append, List.flatMap_singleton]

/-- A callback more is a chunk more for the connection that it is about, and if it is about a chunk. -/
theorem chunks_of_callbacks {callback : Callback} (h : r'.callbacks = callback :: r.callbacks) (token : Token) :
    r'.chunks token = r.chunks token ++ (callback.chunkOf? token).toList := by
  unfold chunks
  rw [h, List.reverse_cons, List.filterMap_append]
  cases hchunk : callback.chunkOf? token with
  | none => rw [List.filterMap_cons_none hchunk]; rfl
  | some chunk => rw [List.filterMap_cons_some hchunk]; rfl

/-- What waits unread after one of the sockets has changed. -/
theorem unread_modifySocket (i : Nat) (f : Socket → Socket) (r : Reactor τ) (peer : Nat) :
    (r.modifySocket i f).unread peer
      = if i = peer then (r.sockets[peer]?).elim [] fun socket => (f socket).incoming.bytes
        else r.unread peer := by
  unfold unread
  show (Option.elim (r.sockets.modify i f)[peer]? _ _) = _
  rw [Array.getElem?_modify]
  split
  · cases r.sockets[peer]? <;> rfl
  · rfl

/-! ## Operations that move no bytes -/

/-- No bytes are sent, read, or given to the service, and no peer comes or is accepted. -/
structure SameFeed (r kept : Reactor τ) : Prop where
  unread : ∀ peer, kept.unread peer = r.unread peer
  chunks : ∀ token, kept.chunks token = r.chunks token
  /-- Connections may be closed, but each that is open keeps its socket. -/
  socket : ∀ token conn, kept.connection? token = some conn →
    ∃ before, r.connection? token = some before ∧ before.socket = conn.socket
  opened : kept.openedCount = r.openedCount
  backlog : kept.backlog = r.backlog
  size : kept.sockets.size = r.sockets.size
  finished : kept.lifecycle ≠ .finished → r.lifecycle ≠ .finished

theorem SameFeed.trans (h : SameFeed r r') (h' : SameFeed r' kept) : SameFeed r kept where
  unread peer := (h'.unread peer).trans (h.unread peer)
  chunks token := (h'.chunks token).trans (h.chunks token)
  socket token conn hconn := by
    obtain ⟨middle, hmiddle, hsame⟩ := h'.socket token conn hconn
    obtain ⟨before, hbefore, hsame'⟩ := h.socket token middle hmiddle
    exact ⟨before, hbefore, hsame'.trans hsame⟩
  opened := h'.opened.trans h.opened
  backlog := h'.backlog.trans h.backlog
  size := h'.size.trans h.size
  finished hlife := h.finished (h'.finished hlife)

/-- Nothing that bytes pass through differs. -/
theorem SameFeed.of_eq (hsockets : kept.sockets = r.sockets) (hcallbacks : kept.callbacks = r.callbacks)
    (hconnections : kept.connections = r.connections) (hbacklog : kept.backlog = r.backlog)
    (hlife : kept.lifecycle ≠ .finished → r.lifecycle ≠ .finished) : SameFeed r kept where
  unread peer := by rw [Reactor.unread, hsockets, Reactor.unread]
  chunks token := by rw [Reactor.chunks, hcallbacks, Reactor.chunks]
  socket token conn hconn := ⟨conn, by rwa [connection?, hconnections] at hconn, rfl⟩
  opened := by rw [openedCount, hcallbacks, openedCount]
  backlog := hbacklog
  size := by rw [hsockets]
  finished := hlife

theorem SameFeed.refl (r : Reactor τ) : SameFeed r r :=
  .of_eq rfl rfl rfl rfl id

/-- Bytes arrive at a socket by its incoming side only. -/
theorem sameFeed_modifySocket {f : Socket → Socket} (hf : ∀ socket, (f socket).incoming = socket.incoming)
    (i : Nat) (r : Reactor τ) : SameFeed r (r.modifySocket i f) where
  unread peer := by
    rw [unread_modifySocket]
    split
    · unfold unread
      cases r.sockets[peer]? with
      | none => rfl
      | some socket => rw [Option.elim_some, Option.elim_some, hf]
    · rfl
  chunks _ := rfl
  socket _ conn hconn := ⟨conn, hconn, rfl⟩
  opened := rfl
  backlog := rfl
  size := Array.size_modify
  finished := id

/-- Sockets that are closed keep what waits on them. -/
theorem sameFeed_closeSockets (sockets : List Nat) (r : Reactor τ) : SameFeed r (sockets.foldl closeSocket r) := by
  induction sockets generalizing r with
  | nil => exact .refl r
  | cons socket sockets ih =>
    have hclosed : SameFeed r (r.closeSocket socket) := sameFeed_modifySocket (fun _ => by rfl) socket r
    exact hclosed.trans (ih _)

theorem sameFeed_modifyConnection {f : Connection → Connection} (hf : ∀ conn, (f conn).socket = conn.socket)
    (token : Token) (r : Reactor τ) : SameFeed r (r.modifyConnection token f) where
  unread _ := rfl
  chunks _ := rfl
  socket other conn hconn := by
    rw [connection?_modifyConnection] at hconn
    split at hconn
    · obtain ⟨before, hbefore, rfl⟩ := Option.map_eq_some_iff.mp hconn
      exact ⟨before, hbefore, (hf before).symm⟩
    · exact ⟨conn, hconn, rfl⟩
  opened := rfl
  backlog := rfl
  size := rfl
  finished := id

/-- Asking for the end of a connection takes no bytes. -/
theorem sameFeed_close (token : Token) (conn : Connection) (r : Reactor τ) : SameFeed r (r.close token conn) := by
  have hmarked : SameFeed r (r.modifyConnection token fun conn => { conn with closing := true }) :=
    sameFeed_modifyConnection (fun _ => by rfl) token r
  exact hmarked.trans (sameFeed_modifySocket (fun _ => by rfl) conn.socket _)

/-- The end of a chunk takes none either: the chunk was taken off the socket when it was read. -/
theorem sameFeed_conclude (token : Token) (conn : Connection) (reaction : Reaction) (r : Reactor τ) :
    SameFeed r (r.conclude token conn reaction) := by
  have hwritten : SameFeed r (r.modifySocket conn.socket fun socket =>
      { socket with outgoing := reaction.written.reverse ++ socket.outgoing }) :=
    sameFeed_modifySocket (fun _ => by rfl) conn.socket r
  have hkept := hwritten.trans (sameFeed_modifyConnection
    (f := fun conn => { conn with inbox := reaction.inbox }) (fun _ => rfl) token _)
  unfold conclude
  split
  · exact hkept.trans (sameFeed_close token conn _)
  · exact hkept

/-- A connection that is torn down is a connection less to feed. Its chunks stay as they were given. -/
theorem sameFeed_tearDown (service : Service τ) (token : Token) (r : Reactor τ) :
    SameFeed r (r.tearDown service token) := by
  cases hconn : r.connection? token with
  | none =>
    rw [show r.tearDown service token = r by rw [tearDown, hconn]]
    exact .refl r
  | some conn =>
    have hclosed : SameFeed r (r.closeSocket conn.socket) := sameFeed_modifySocket (fun _ => by rfl) conn.socket r
    have hopen := connection?_tearDown service token r
    rw [tearDown, hconn] at hopen ⊢
    refine hclosed.trans ⟨fun _ => rfl, fun other => ?_, fun other conn hother => ?_, ?_, rfl, rfl, id⟩
    · rw [chunks_of_callbacks (r := r.closeSocket conn.socket) rfl]
      -- the close that is entered is no chunk
      exact List.append_nil _
    · rw [hopen] at hother
      split at hother
      · cases hother
      · exact ⟨conn, hother, rfl⟩
    · rw [openedCount, List.countP_cons_of_neg Bool.false_ne_true, openedCount]

/-- Giving a connection back is to arm it or to tear it down. -/
theorem sameFeed_handBack (service : Service τ) (token : Token) (ok : Bool) (r : Reactor τ) :
    SameFeed r (r.handBack service token ok) := by
  cases ok with
  | true => exact sameFeed_modifyConnection (fun _ => by rfl) token r
  | false => exact sameFeed_tearDown service token r

theorem sameFeed_fetch (events : List PollEvent) (r : Reactor τ) : SameFeed r (r.fetch events) := by
  induction events generalizing r with
  | nil => exact .refl r
  | cons event events ih =>
    cases event with
    | knock => exact ih r
    | ready token =>
      have hdisarmed : SameFeed r (r.disarm token) := sameFeed_modifyConnection (fun _ => by rfl) token r
      exact hdisarmed.trans (ih _)

/-! ## The invariant -/

/-- The bytes that peers sent are with the service, or still on their sockets. -/
structure Fed (moves : List Move) (r : Reactor τ) : Prop where
  /-- Peers are accepted in the order in which they came. -/
  inOrder : r.backlog = List.range' r.openedCount r.backlog.length
  all : r.lifecycle ≠ .finished → r.openedCount + r.backlog.length = r.sockets.size
  peers : ∀ token conn, r.connection? token = some conn → conn.socket + 1 = token.toNat
  numbered : ∀ token, r.chunks token ≠ [] → token ≠ 0
  fed : ∀ peer, peer + 1 < UInt64.size →
    (r.chunks (UInt64.ofNat (peer + 1))).flatten ++ r.unread peer = sent peer moves

theorem fed_start (config : Config) (state : τ) : Fed [] (start config state) where
  inOrder := rfl
  all _ := rfl
  peers _ _ hconn := nomatch hconn
  numbered _ hchunks := absurd rfl hchunks
  fed _ _ := rfl

/-- What each peer sent is accounted for in the same way after an operation that brings and takes no bytes. -/
theorem Fed.of_same (h : Fed moves r) (hsame : SameFeed r kept) : Fed moves kept where
  inOrder := by
    rw [hsame.backlog, hsame.opened]
    exact h.inOrder
  all hlife := by
    rw [hsame.opened, hsame.backlog, hsame.size]
    exact h.all (hsame.finished hlife)
  peers token conn hconn := by
    obtain ⟨before, hbefore, hsocket⟩ := hsame.socket token conn hconn
    rw [← hsocket]
    exact h.peers token before hbefore
  numbered token hchunks := h.numbered token (hsame.chunks token ▸ hchunks)
  fed peer hpeer := by
    rw [hsame.chunks, hsame.unread]
    exact h.fed peer hpeer

/-- A move that sends nothing. -/
theorem Fed.of_move (h : Fed moves r) (hmove : ∀ peer, move.sentBy peer = []) : Fed (moves ++ [move]) r := by
  refine ⟨h.inOrder, h.all, h.peers, h.numbered, fun peer hpeer => ?_⟩
  rw [sent_append_singleton, hmove, List.append_nil]
  exact h.fed peer hpeer

/-! ## Peers that come, and are accepted -/

/-- A peer that dials is the last one on the backlog, and has sent nothing. -/
theorem Fed.dial (h : Fed moves r) (hlife : r.lifecycle ≠ .finished) :
    Fed moves { r with sockets := r.sockets.push {}, backlog := r.backlog ++ [r.sockets.size] } := by
  have hall := h.all hlife
  refine ⟨?_, fun _ => ?_, h.peers, h.numbered, fun peer hpeer => ?_⟩
  · show r.backlog ++ [r.sockets.size] = List.range' r.openedCount (r.backlog ++ [r.sockets.size]).length
    rw [List.length_append, List.length_singleton, List.range'_concat, ← h.inOrder, Nat.one_mul, hall]
  · show r.openedCount + (r.backlog ++ [r.sockets.size]).length = (r.sockets.push {}).size
    rw [List.length_append, List.length_singleton, Array.size_push]
    omega
  -- nothing waits on a socket that is new
  · have hunread : unread { r with sockets := r.sockets.push {}, backlog := r.backlog ++ [r.sockets.size] } peer
        = r.unread peer := by
      unfold unread
      rw [Array.getElem?_push]
      split
      · next hnew =>
        have hnone : r.sockets[peer]? = none := Array.getElem?_eq_none (by omega)
        rw [hnone]
        rfl
      · rfl
    rw [hunread]
    exact h.fed peer hpeer

/-- The next peer gets the next token. -/
theorem Fed.accept (h : Fed moves r) (hnumbered : Numbered r) (hfew : r.sockets.size < UInt64.size) {socket : Nat}
    {backlog : List Nat} (hbacklog : r.backlog = socket :: backlog) :
    Fed moves (r.enroll service socket backlog) := by
  have horder := h.inOrder
  rw [hbacklog, List.length_cons, List.range'_succ, List.cons.injEq] at horder
  -- peers are accepted in the order in which they dialled, so the next one has the next token
  obtain ⟨rfl, horder⟩ := horder
  have hopened : (r.enroll service r.openedCount backlog).openedCount = r.openedCount + 1 :=
    List.countP_cons_of_pos rfl
  have htoken : r.nextToken.toNat = r.openedCount + 1 := by
    have hroom := hnumbered.few
    rw [hbacklog, List.length_cons] at hroom
    have hlt : r.openedCount + 1 < UInt64.size := by omega
    rw [hnumbered.next, UInt64.toNat_ofNat', Nat.mod_eq_of_lt hlt]
  have hchunks : ∀ token, (r.enroll service r.openedCount backlog).chunks token = r.chunks token := fun token => by
    rw [chunks_of_callbacks (r := r) rfl]
    exact List.append_nil _
  refine ⟨?_, fun hlife => ?_, fun token conn hconn => ?_, fun token hgiven => ?_, fun peer hpeer => ?_⟩
  · rw [hopened]
    exact horder
  · have hall := h.all hlife
    rw [hbacklog, List.length_cons] at hall
    rw [hopened]
    show r.openedCount + 1 + backlog.length = r.sockets.size
    omega
  · rw [connection?_enroll] at hconn
    cases hbefore : r.connection? token with
    | some before =>
      rw [hbefore] at hconn
      cases hconn
      exact h.peers token _ hbefore
    | none =>
      rw [hbefore, Option.none_or] at hconn
      split at hconn
      · next hnext =>
        cases hconn
        rw [← hnext, htoken]
      · cases hconn
  · exact h.numbered token (hchunks token ▸ hgiven)
  · rw [hchunks]
    exact h.fed peer hpeer

/-! ## Bytes that are sent, and read -/

/-- What a peer sends waits unread on its socket. -/
theorem Fed.sends (h : Fed moves r) {socket : Nat} (bytes : Bytes) (hsocket : socket < r.sockets.size) :
    Fed (moves ++ [.sends socket bytes])
      (r.modifySocket socket fun s => { s with incoming := s.incoming.push bytes }) := by
  refine ⟨h.inOrder, fun hlife => ?_, h.peers, h.numbered, fun peer hpeer => ?_⟩
  · rw [modifySocket, Array.size_modify]
    exact h.all hlife
  · rw [sent_append_singleton, ← h.fed peer hpeer, unread_modifySocket]
    show (r.chunks _).flatten ++ _ = _
    rw [List.append_assoc]
    congr 1
    -- what is new is at the end of what waits, and at the end of what was sent
    by_cases hsame : socket = peer
    · subst hsame
      show _ = _ ++ if socket = socket then bytes else []
      unfold unread
      rw [if_pos rfl, if_pos rfl, Array.getElem?_eq_getElem hsocket]
      exact ByteStream.bytes_push bytes _
    · show _ = _ ++ if socket = peer then bytes else []
      rw [if_neg hsame, if_neg hsame, List.append_nil]

/-- A chunk goes from the front of what is unread to the end of what was given. -/
theorem Fed.receive (h : Fed moves r) {conn : Connection} {socket : Socket} (hconn : r.connection? token = some conn)
    (hsocket : r.sockets[conn.socket]? = some socket) (length : Nat) :
    Fed moves { r.modifySocket conn.socket fun socket => { socket with incoming := socket.incoming.drop length } with
      callbacks := .received token (socket.incoming.take length) :: r.callbacks } := by
  have hpeers := h.peers token conn hconn
  refine ⟨h.inOrder, fun hlife => ?_, h.peers, fun t hgiven => ?_, fun peer hpeer => ?_⟩
  · show r.openedCount + r.backlog.length = (r.sockets.modify _ _).size
    rw [Array.size_modify]
    exact h.all hlife
  -- a chunk comes with the token of a peer, which is not zero
  · by_cases hsame : token = t
    · subst hsame
      rintro rfl
      exact absurd hpeers (Nat.succ_ne_zero _)
    · refine h.numbered t ?_
      rw [chunks_of_callbacks (r := r) rfl, Callback.chunkOf?, if_neg hsame] at hgiven
      simpa using hgiven
  · rw [chunks_of_callbacks (r := r) rfl, ← h.fed peer hpeer, List.flatten_append, List.append_assoc]
    congr 1
    show _ ++ (r.modifySocket conn.socket _).unread peer = r.unread peer
    rw [unread_modifySocket, Callback.chunkOf?]
    -- the token of a peer is its number, so the chunk is added where it was taken off
    have htoken : token = UInt64.ofNat (peer + 1) ↔ conn.socket = peer := by
      rw [← UInt64.toNat_inj, UInt64.toNat_ofNat', Nat.mod_eq_of_lt hpeer, ← hpeers]
      omega
    by_cases hsame : conn.socket = peer
    · subst hsame
      rw [if_pos (htoken.mpr rfl), if_pos rfl, hsocket]
      unfold unread
      rw [hsocket]
      show [socket.incoming.take length].flatten ++ (socket.incoming.drop length).bytes = socket.incoming.bytes
      rw [List.flatten_singleton, ByteStream.take_eq, ByteStream.bytes_drop, List.take_append_drop]
    · rw [if_neg fun h => hsame (htoken.mp h), if_neg hsame]
      rfl

/-! ## Steps -/

/-- Moves of the peers, and of those who ask for connections to be closed. -/
theorem Fed.outerSteps (h : Fed moves r) (hsteps : OuterSteps r move r') : Fed (moves ++ [move]) r' := by
  cases hsteps with
  | dial hlife => exact (h.dial hlife).of_move fun _ => rfl
  | sends socket bytes hopen =>
    refine h.sends bytes ?_
    by_contra hout
    rw [Array.getElem?_eq_none (Nat.not_lt.mp hout)] at hopen
    cases hopen
  | ends socket hsocket => exact (h.of_same (sameFeed_modifySocket (fun _ => by rfl) socket r)).of_move fun _ => rfl
  | @disconnect token conn hconn => exact (h.of_same (sameFeed_close token conn r)).of_move fun _ => rfl

/-- Moves of the poll thread. One of them is that a peer gets its connection, in the order of the backlog. -/
theorem Fed.pollSteps (h : Fed moves r) (hnumbered : Numbered r) (hfew : r.sockets.size < UInt64.size)
    (hsteps : PollSteps service r move r') : Fed (moves ++ [move]) r' := by
  -- what the poll thread is about to do is not a matter of bytes
  have hpasses : ∀ {kept : Reactor τ} (poll : PollThread), Fed moves kept → Fed moves { kept with poll } :=
    fun poll hkept => hkept.of_same (.of_eq rfl rfl rfl rfl id)
  refine Fed.of_move ?_ fun peer => by cases hsteps <;> rfl
  cases hsteps with
  | look hpoll => exact hpasses _ h
  | @wait events hpoll hfew hcan hnodup => exact hpasses _ (h.of_same (sameFeed_fetch events r))
  | waitFails hpoll => exact hpasses _ h
  | handled hpoll => exact hpasses _ h
  | knocked hpoll => exact hpasses _ h
  | queued hpoll hpush => exact h.of_same (.of_eq rfl rfl rfl rfl id)
  | rejected hpoll hpush => exact hpasses _ h
  | accept hpoll hbacklog => exact hpasses _ (h.accept hnumbered hfew hbacklog)
  | acceptDone hpoll => exact hpasses _ h
  | @register token events ok hpoll => exact hpasses _ (h.of_same (sameFeed_handBack service token ok r))
  | @rearmRejected token events ok hpoll => exact hpasses _ (h.of_same (sameFeed_handBack service token ok r))

/-- Moves of the workers. One of them is that a chunk is read, which is given to the service as it came off
the socket. -/
theorem Fed.workerSteps (h : Fed moves r) (hsteps : WorkerSteps service r move r') : Fed (moves ++ [move]) r' := by
  have hpasses : ∀ {kept : Reactor τ} (worker : Nat) (next : Worker τ), Fed moves kept →
      Fed moves (kept.setWorker worker next) :=
    fun worker next hkept => hkept.of_same (.of_eq rfl rfl rfl rfl id)
  -- one part is what the step does with the bytes, the other that no worker sends any for a peer
  refine Fed.of_move ?_ fun peer => ?_
  · cases hsteps with
    | popStop hworker hpop => exact hpasses _ _ (h.of_same (.of_eq rfl rfl rfl rfl id))
    | popConnection hworker hpop => exact hpasses _ _ (h.of_same (.of_eq rfl rfl rfl rfl id))
    | check hworker => exact hpasses _ _ h
    | readChunk answers hworker hconn hcan hsocket => exact hpasses _ _ (h.receive hconn hsocket _)
    | readOther answers hworker hconn hcan hnext => exact hpasses _ _ h
    | turn hworker hgoes => exact hpasses _ _ (h.of_same (.of_eq rfl rfl rfl rfl id))
    | @conclude worker token reaction conn hworker hconn =>
      exact hpasses _ _ (h.of_same (sameFeed_conclude token conn reaction r))
    | rearmFailed hworker => exact hpasses _ _ h
    | @handBack worker token move ok hworker =>
      exact hpasses _ _ (h.of_same (sameFeed_handBack service token ok r))
  · cases hsteps with
    | handBack ok hworker => rcases hworker with ⟨rfl, -⟩ | ⟨rfl, -⟩ <;> rfl
    | _ => rfl

/-- Moves of a shutdown. At its end nobody waits to be accepted. -/
theorem Fed.shutdownSteps (h : Fed moves r) (hsteps : ShutdownSteps service r move r') :
    Fed (moves ++ [move]) r' := by
  refine Fed.of_move ?_ fun peer => by cases hsteps <;> rfl
  cases hsteps with
  | shutDown hlife => exact h.of_same (.of_eq rfl rfl rfl rfl fun _ => by simp [hlife])
  | shutDownAgain hlife => exact h
  | pushStops hlife => exact h.of_same (.of_eq rfl rfl rfl rfl fun _ => by simp [hlife])
  | join hlife hleft => exact h.of_same (.of_eq rfl rfl rfl rfl fun _ => by simp [hlife])
  | @closeNext token conn rest hlife hconnections => exact h.of_same (sameFeed_tearDown service token r)
  | finish hlife hconnections =>
    have hclosed := h.of_same (sameFeed_closeSockets r.backlog r)
    exact ⟨rfl, fun hlife => absurd rfl hlife, hclosed.peers, hclosed.numbered, hclosed.fed⟩

/-- Every step accounts for the bytes of all peers. -/
theorem Fed.step (h : Fed moves r) (hnumbered : Numbered r) (hfew : r.sockets.size < UInt64.size)
    (hstep : r.step? service move = some r') : Fed (moves ++ [move]) r' := by
  cases step?_steps hstep with
  | outer hsteps => exact h.outerSteps hsteps
  | poll hsteps => exact h.pollSteps hnumbered hfew hsteps
  | worker hsteps => exact h.workerSteps hsteps
  | shutdown hsteps => exact h.shutdownSteps hsteps

/-! ## Runs -/

/-- The bytes of every peer are accounted for after any moves. -/
theorem Ran.fed (h : Ran service stir config initial moves r) (hfew : r.sockets.size < UInt64.size) :
    Fed moves r := by
  induction h with
  | start => exact fed_start config initial
  | step h hstep ih =>
    have hbefore := Nat.lt_of_le_of_lt (step?_tells hstep).sockets_le hfew
    exact (ih hbefore).step (h.reachable.custody hbefore).2 hbefore hstep
  | stir h hstir ih => exact (ih hfew).of_same (.of_eq rfl rfl rfl rfl id)

/-- The chunks of a connection, put together, are a first part of what its peer sent. -/
theorem Fed.flatten_chunks_prefix (h : Fed moves r) (token : Token) :
    (r.chunks token).flatten <+: sent (token.toNat - 1) moves := by
  by_cases hgiven : r.chunks token = []
  · rw [hgiven]
    exact List.nil_prefix
  · have hpos : 0 < token.toNat := by
      apply Nat.pos_of_ne_zero
      intro hzero
      exact h.numbered token hgiven (UInt64.toNat_inj.mp hzero)
    have htoken : UInt64.ofNat (token.toNat - 1 + 1) = token := by
      rw [Nat.sub_add_cancel hpos]
      exact UInt64.ofNat_toNat
    -- tokens do not wrap, so the token names the place it was made from
    have hlt : token.toNat - 1 + 1 < UInt64.size := by
      rw [Nat.sub_add_cancel hpos]
      exact token.toNat_lt
    have hfed := h.fed (token.toNat - 1) hlt
    rw [htoken] at hfed
    exact ⟨r.unread (token.toNat - 1), hfed⟩

end Reactor

end EventBus
