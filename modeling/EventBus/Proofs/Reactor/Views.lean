import EventBus.Proofs.Client.Channel
import EventBus.Proofs.Reactor.Feed
import EventBus.Proofs.Service.Noting

/-!
# Connections as their clients see them

The state of a reactor, as far as it concerns the connection of one peer.

* `Reactor.channel`: the connection of a peer, put together from what the reactor keeps of it in various places.
* `SameView`: nothing of that has changed. One lemma for each operation of a reactor that leaves a connection alone, and
  one for each that does not.
-/

namespace EventBus

/-- The token of the peer in a place among all that ever connected. -/
def Handle.token (place : Nat) : Token :=
  UInt64.ofNat (place + 1)

/-- The token of a place is one more than the place, as long as fewer peers than there are tokens have been there. -/
theorem Handle.token_eq_iff {place : Nat} (hfew : place + 1 < UInt64.size) {token : Token} :
    Handle.token place = token ↔ place + 1 = token.toNat := by
  unfold Handle.token
  rw [← UInt64.toNat_inj, UInt64.toNat_ofNat', Nat.mod_eq_of_lt hfew]

/-- What a worker has still to do with a chunk of a connection. -/
def Worker.work? {τ : Type} (token : Token) : Worker τ → Option (Routine τ Reaction)
  | serving t rest => if t = token then some rest else none
  | _ => none

/-- The worker is about to tear the connection down. -/
def Worker.leaves {τ : Type} (token : Token) : Worker τ → Bool
  | leaving t => t == token
  | _ => false

/-- A worker that is busy with one connection does no work for another. -/
theorem Worker.work?_of_ne {τ : Type} {now : Worker τ} {token other : Token} (htoken : now.token? = some token)
    (hother : other ≠ token) : now.work? other = none := by
  cases now with
  | serving t rest =>
    obtain rfl := Option.some.inj htoken
    exact if_neg (Ne.symm hother)
  | _ => rfl

theorem Worker.leaves_of_ne {τ : Type} {now : Worker τ} {token other : Token} (htoken : now.token? = some token)
    (hother : other ≠ token) : now.leaves other = false := by
  cases now with
  | leaving t =>
    obtain rfl := Option.some.inj htoken
    exact beq_false_of_ne (Ne.symm hother)
  | _ => rfl

namespace Reactor

variable {τ : Type} {service : Service τ} {r r' kept : Reactor τ} {token : Token} {place : Nat}

/-! ## What a reactor keeps of a connection -/

/-- What is kept of the bytes of a connection that are not decoded yet. It is empty without a connection. -/
def inboxOf (r : Reactor τ) (token : Token) : Inbox :=
  (r.connection? token).elim .empty Connection.inbox

/-- What is left of the work on the chunk that is being served for a connection, if one is. -/
def work? (r : Reactor τ) (token : Token) : Option (Routine τ Reaction) :=
  (r.workers.toList.map (Worker.work? token)).findSome? id

/-- A worker is about to tear the connection down. -/
def isLeft (r : Reactor τ) (token : Token) : Bool :=
  (r.workers.toList.map (Worker.leaves token)).any id

/-- A connection is open, or it was not accepted yet. -/
def isAround (r : Reactor τ) (token : Token) : Bool :=
  (r.connection? token).isSome || decide (.opened token ∉ r.callbacks)

/-- All that was written to a peer. -/
def written (r : Reactor τ) (peer : Nat) : Bytes :=
  (r.sockets[peer]?).elim [] fun socket => socket.outgoing.reverse.flatten

/-- The connection of a peer, with what the peer does at its own end. -/
def channel (r : Reactor (Noted τ)) (place : Nat) (near : NearEnd) : Channel τ where
  token := Handle.token place
  near
  delivered := (r.chunks (Handle.token place)).flatten
  inbox := r.inboxOf (Handle.token place)
  work := r.work? (Handle.token place)
  written := r.written place
  isOpen := r.isAround (Handle.token place) && !r.isLeft (Handle.token place)

/-- What a client sees of a reactor. -/
def trunk (near : Handle → Option NearEnd) (r : Reactor (Noted τ)) : Trunk τ where
  channel? place := (near place).map (r.channel place)
  peer := r.state

/-! ## Workers -/

/-- What a worker is told apart by stays if it goes on to something that is not told apart from it. -/
theorem map_workers_setWorker {α : Type} (f : Worker τ → α) {worker : Nat} {now next : Worker τ}
    (hworker : r.workers[worker]? = some now) (hsame : f next = f now) :
    (r.setWorker worker next).workers.toList.map f = r.workers.toList.map f := by
  show (r.workers.setIfInBounds worker next).toList.map f = _
  rw [Array.toList_setIfInBounds, List.map_set, hsame]
  -- setting an entry to the value it has changes no list
  apply List.ext_getElem?
  intro i
  rw [List.getElem?_set]
  split
  · next hi =>
    subst hi
    rw [List.getElem?_map, Array.getElem?_toList, hworker]
    split
    · rfl
    · next hout =>
      have hlt := (Array.getElem?_eq_some_iff.mp hworker).1
      rw [List.length_map, Array.length_toList] at hout
      exact absurd hlt hout
  · rfl

/-- Work for a connection is the work of some worker. -/
theorem exists_serves_of_work? {rest : Routine τ Reaction} (hwork : r.work? token = some rest) :
    ∃ worker, r.Serves worker token rest := by
  unfold work? at hwork
  obtain ⟨found, hmem, hfound⟩ := List.exists_of_findSome?_eq_some hwork
  obtain ⟨now, hnow, rfl⟩ := List.mem_map.mp hmem
  obtain ⟨worker, hworker⟩ := List.mem_iff_getElem?.mp hnow
  rw [Array.getElem?_toList] at hworker
  refine ⟨worker, hworker.trans ?_⟩
  -- only a worker that serves this very connection has work for it
  cases now with
  | serving t routine =>
    unfold Worker.work? at hfound
    dsimp only [id] at hfound
    split at hfound
    · next hsame =>
      obtain rfl := Option.some.inj hfound
      rw [hsame]
    · cases hfound
  | _ => cases hfound

/-- What there is to do with a connection is what the worker has to do that has it in hand. -/
theorem Custody.workerWork?_of_work? (h : Custody r) {worker : Nat} {now : Worker τ}
    (hworker : r.workers[worker]? = some now) (htoken : now.token? = some token) {rest : Routine τ Reaction}
    (hwork : r.work? token = some rest) : now.work? token = some rest := by
  obtain ⟨other, hother⟩ := exists_serves_of_work? hwork
  obtain rfl := h.eq_of_worker hworker hother htoken rfl
  obtain rfl := Option.some.inj (hworker.symm.trans hother)
  rw [Worker.work?, if_pos rfl]

/-- What a worker has still to do with the connection that it has in hand is all that there is to do there. -/
theorem Custody.work?_of_worker (h : Custody r) {worker : Nat} {now : Worker τ} (hworker : r.workers[worker]? = some now)
    (htoken : now.token? = some token) : r.work? token = now.work? token := by
  cases hwork : r.work? token with
  | none =>
    have hmem : now ∈ r.workers.toList := Array.mem_toList_iff.mpr (Array.mem_of_getElem? hworker)
    exact (List.findSome?_eq_none_iff.mp hwork _ (List.mem_map_of_mem (f := Worker.work? token) hmem)).symm
  | some rest => exact (h.workerWork?_of_work? hworker htoken hwork).symm

/-- Nobody works for a connection that is not open. -/
theorem Custody.work?_of_none (h : Custody r) (hnone : r.connection? token = none) : r.work? token = none := by
  cases hwork : r.work? token with
  | none => rfl
  | some rest =>
    obtain ⟨worker, hserves⟩ := exists_serves_of_work? hwork
    have hsome := h.isSome_of_serves hserves
    rw [hnone] at hsome
    cases hsome

/-- Who is about to tear a connection down is one of the workers. -/
theorem exists_leaving_of_isLeft (hleft : r.isLeft token = true) :
    ∃ worker : Nat, r.workers[worker]? = some (.leaving token) := by
  unfold isLeft at hleft
  rw [List.any_map, List.any_eq_true] at hleft
  obtain ⟨now, hnow, hleaves⟩ := hleft
  obtain ⟨worker, hworker⟩ := List.mem_iff_getElem?.mp hnow
  rw [Array.getElem?_toList] at hworker
  refine ⟨worker, hworker.trans ?_⟩
  cases now with
  | leaving t => rw [beq_iff_eq.mp hleaves]
  | _ => cases hleaves

theorem isLeft_of_worker {worker : Nat} (hworker : r.workers[worker]? = some (.leaving token)) : r.isLeft token = true := by
  unfold isLeft
  rw [List.any_map, List.any_eq_true]
  exact ⟨_, Array.mem_toList_iff.mpr (Array.mem_of_getElem? hworker), beq_self_eq_true token⟩

/-- While one worker holds a connection and is not about to tear it down, nobody is: it is in no other hands. -/
theorem Custody.isLeft_eq_false (h : Custody r) {worker : Nat} {now : Worker τ} (hworker : r.workers[worker]? = some now)
    (htoken : now.token? = some token) (hstays : now.leaves token = false) : r.isLeft token = false := by
  rw [Bool.eq_false_iff]
  intro hleft
  obtain ⟨other, hother⟩ := exists_leaving_of_isLeft hleft
  -- two workers that hold the connection are one
  obtain rfl := h.eq_of_worker hworker hother htoken rfl
  obtain rfl := Option.some.inj (hworker.symm.trans hother)
  rw [Worker.leaves, beq_self_eq_true] at hstays
  cases hstays

/-- Nobody is about to tear down a connection that is not open. -/
theorem Custody.isLeft_of_none (h : Custody r) (hnone : r.connection? token = none) : r.isLeft token = false := by
  rw [Bool.eq_false_iff]
  intro hleft
  obtain ⟨worker, hworker⟩ := exists_leaving_of_isLeft hleft
  have hsome := h.isSome_of_worker hworker rfl
  rw [hnone] at hsome
  cases hsome

/-! ## Operations that leave a connection alone -/

/-- Nothing that a client sees of a connection has changed. -/
structure SameView (r kept : Reactor τ) (place : Nat) : Prop where
  chunks : kept.chunks (Handle.token place) = r.chunks (Handle.token place)
  inbox : kept.inboxOf (Handle.token place) = r.inboxOf (Handle.token place)
  work : kept.work? (Handle.token place) = r.work? (Handle.token place)
  left : kept.isLeft (Handle.token place) = r.isLeft (Handle.token place)
  around : kept.isAround (Handle.token place) = r.isAround (Handle.token place)
  written : kept.written place = r.written place

theorem SameView.trans (h : SameView r r' place) (h' : SameView r' kept place) : SameView r kept place where
  chunks := h'.chunks.trans h.chunks
  inbox := h'.inbox.trans h.inbox
  work := h'.work.trans h.work
  left := h'.left.trans h.left
  around := h'.around.trans h.around
  written := h'.written.trans h.written

/-- A view is put together from four fields of the reactor, so nothing has changed where these have not. -/
theorem SameView.of_eq (hsockets : kept.sockets = r.sockets) (hcallbacks : kept.callbacks = r.callbacks)
    (hconnections : kept.connections = r.connections) (hworkers : kept.workers = r.workers) (place : Nat) :
    SameView r kept place where
  chunks := by rw [Reactor.chunks, hcallbacks, Reactor.chunks]
  inbox := by rw [inboxOf, connection?, hconnections, inboxOf, connection?]
  work := by rw [work?, hworkers, work?]
  left := by rw [isLeft, hworkers, isLeft]
  around := by rw [isAround, connection?, hconnections, hcallbacks, isAround, connection?]
  written := by rw [Reactor.written, hsockets, Reactor.written]

theorem SameView.refl (r : Reactor τ) (place : Nat) : SameView r r place :=
  .of_eq rfl rfl rfl rfl place

/-- What the poll thread is about to do is not to be seen. -/
theorem SameView.withPoll (h : SameView r kept place) (poll : PollThread) : SameView r { kept with poll } place :=
  ⟨h.chunks, h.inbox, h.work, h.left, h.around, h.written⟩

/-- The channel is made of what the view consists of and of what the client keeps itself. -/
theorem SameView.channel_eq {r kept : Reactor (Noted τ)} (h : SameView r kept place) (near : NearEnd) :
    kept.channel place near = r.channel place near := by
  unfold channel
  rw [h.chunks, h.inbox, h.work, h.left, h.around, h.written]

/-- What was written to a peer after one of the sockets has changed. -/
theorem written_modifySocket (i : Nat) (f : Socket → Socket) (r : Reactor τ) (peer : Nat) :
    (r.modifySocket i f).written peer
      = if i = peer then (r.sockets[peer]?).elim [] fun socket => (f socket).outgoing.reverse.flatten
        else r.written peer := by
  unfold written
  show (Option.elim (r.sockets.modify i f)[peer]? _ _) = _
  rw [Array.getElem?_modify]
  split
  · cases r.sockets[peer]? <;> rfl
  · rfl

/-- What happens to a socket is seen only by its own peer, and by it only as far as bytes are written to it. -/
theorem sameView_modifySocket {f : Socket → Socket} (i : Nat) (r : Reactor τ)
    (hf : i = place → ∀ socket, (f socket).outgoing = socket.outgoing) : SameView r (r.modifySocket i f) place where
  chunks := rfl
  inbox := rfl
  work := rfl
  left := rfl
  around := rfl
  written := by
    rw [written_modifySocket]
    split
    · next hsame =>
      unfold written
      cases r.sockets[place]? with
      -- the socket of this very peer is changed, but not in what is written
      | none => rfl
      | some socket => rw [Option.elim_some, Option.elim_some, hf hsame]
    · rfl

/-- A new peer is on the backlog; nothing of its connection is there before it is accepted. -/
theorem sameView_dial (r : Reactor τ) (place : Nat) :
    SameView r { r with sockets := r.sockets.push {}, backlog := r.backlog ++ [r.sockets.size] } place where
  chunks := rfl
  inbox := rfl
  work := rfl
  left := rfl
  around := rfl
  written := by
    unfold written
    rw [Array.getElem?_push]
    split
    · next hnew =>
      -- the new socket is the last, and nothing was written to it
      have hnone : r.sockets[place]? = none := Array.getElem?_eq_none (by omega)
      rw [hnone]
      rfl
    · rfl

theorem sameView_closeSockets (sockets : List Nat) (r : Reactor τ) (place : Nat) :
    SameView r (sockets.foldl closeSocket r) place := by
  induction sockets generalizing r with
  | nil => exact .refl r place
  | cons socket sockets ih =>
    have hclosed : SameView r (r.closeSocket socket) place := sameView_modifySocket socket r fun _ _ => rfl
    exact hclosed.trans (ih _)

/-- The bytes that are kept are those of before where the change is to another connection or to other fields. -/
theorem inboxOf_modifyConnection {f : Connection → Connection} {token t : Token} (r : Reactor τ)
    (hf : token = t → ∀ conn, (f conn).inbox = conn.inbox) : (r.modifyConnection token f).inboxOf t = r.inboxOf t := by
  unfold inboxOf
  rw [connection?_modifyConnection]
  split
  · next hsame =>
    cases r.connection? t with
    | none => rfl
    | some conn => exact hf hsame.symm conn
  · rfl

/-- Whether a connection is around is a matter of its being open and of the callbacks. -/
theorem isAround_of_isSome {t : Token} (hopen : (kept.connection? t).isSome = (r.connection? t).isSome)
    (hcallbacks : kept.callbacks = r.callbacks) : kept.isAround t = r.isAround t := by
  unfold isAround
  rw [hopen, hcallbacks]

/-- Of the record of a connection only the bytes that are kept are part of the view, so arming and marking it are not
seen. -/
theorem sameView_modifyConnection {f : Connection → Connection} (token : Token) (r : Reactor τ)
    (hf : token = Handle.token place → ∀ conn, (f conn).inbox = conn.inbox) :
    SameView r (r.modifyConnection token f) place where
  chunks := rfl
  inbox := inboxOf_modifyConnection r hf
  work := rfl
  left := rfl
  around := isAround_of_isSome (isSome_connection?_modifyConnection token f r _) rfl
  written := rfl

/-- Asking for the end of a connection is not seen before it is torn down. -/
theorem sameView_close (token : Token) (conn : Connection) (r : Reactor τ) (place : Nat) :
    SameView r (r.close token conn) place := by
  have hmarked : SameView r (r.modifyConnection token fun conn => { conn with closing := true }) place :=
    sameView_modifyConnection token r fun _ _ => rfl
  exact hmarked.trans (sameView_modifySocket conn.socket _ fun _ _ => rfl)

/-- Looking which connections are ready disarms them, and that is not seen either. -/
theorem sameView_fetch (events : List PollEvent) (r : Reactor τ) (place : Nat) : SameView r (r.fetch events) place := by
  induction events generalizing r with
  | nil => exact .refl r place
  | cons event events ih =>
    cases event with
    | knock => exact ih r
    | ready token =>
      have hdisarmed : SameView r (r.disarm token) place := sameView_modifyConnection token r fun _ _ => rfl
      exact hdisarmed.trans (ih _)

/-- A worker goes on to something else that says the same of a connection. -/
theorem sameView_setWorker {worker : Nat} {now next : Worker τ} (hworker : r.workers[worker]? = some now)
    (hwork : next.work? (Handle.token place) = now.work? (Handle.token place))
    (hleaves : next.leaves (Handle.token place) = now.leaves (Handle.token place)) :
    SameView r (r.setWorker worker next) place where
  chunks := rfl
  inbox := rfl
  work := by
    unfold work?
    rw [map_workers_setWorker (Worker.work? _) hworker hwork]
  left := by
    unfold isLeft
    rw [map_workers_setWorker (Worker.leaves _) hworker hleaves]
  around := rfl
  written := rfl

/-- A worker goes on with the connection that it has in hand. -/
theorem sameView_setWorker_of_ne {worker : Nat} {now next : Worker τ} (hworker : r.workers[worker]? = some now)
    (hnow : now.token? = some token) (hnext : next.token? = some token) (hother : Handle.token place ≠ token) :
    SameView r (r.setWorker worker next) place :=
  sameView_setWorker hworker (by rw [Worker.work?_of_ne hnow hother, Worker.work?_of_ne hnext hother])
    (by rw [Worker.leaves_of_ne hnow hother, Worker.leaves_of_ne hnext hother])

/-- Takes a chunk off the socket of a connection. -/
def takeChunk (token : Token) (i length : Nat) (chunk : Bytes) (r : Reactor τ) : Reactor τ :=
  { r.modifySocket i fun socket => { socket with incoming := socket.incoming.drop length } with
    callbacks := .received token chunk :: r.callbacks }

/-- A chunk that is taken is the last of its connection; others have the chunks of before. -/
theorem chunks_takeChunk (token : Token) (i length : Nat) (chunk : Bytes) (r : Reactor τ) (t : Token) :
    (r.takeChunk token i length chunk).chunks t = r.chunks t ++ if token = t then [chunk] else [] := by
  rw [chunks_of_callbacks (r := r) rfl, Callback.chunkOf?]
  split <;> rfl

theorem isAround_takeChunk (token : Token) (i length : Nat) (chunk : Bytes) (r : Reactor τ) (t : Token) :
    (r.takeChunk token i length chunk).isAround t = r.isAround t := by
  have hmem : .opened t ∈ (r.takeChunk token i length chunk).callbacks ↔ .opened t ∈ r.callbacks := by
    show Callback.opened t ∈ Callback.received token chunk :: r.callbacks ↔ _
    rw [List.mem_cons, or_iff_right nofun]
  unfold isAround
  simp only [hmem]
  rfl

theorem written_takeChunk (token : Token) (i length : Nat) (chunk : Bytes) (r : Reactor τ) (peer : Nat) :
    (r.takeChunk token i length chunk).written peer = r.written peer :=
  (sameView_modifySocket (f := fun socket => { socket with incoming := socket.incoming.drop length }) i r
    fun _ _ => rfl).written

/-- To take a chunk of one connection leaves the others alone. -/
theorem sameView_takeChunk (i length : Nat) (chunk : Bytes) (r : Reactor τ) (hother : Handle.token place ≠ token) :
    SameView r (r.takeChunk token i length chunk) place where
  chunks := by rw [chunks_takeChunk, if_neg (Ne.symm hother), List.append_nil]
  inbox := rfl
  work := rfl
  left := rfl
  around := isAround_takeChunk token i length chunk r _
  written := written_takeChunk token i length chunk r place

/-- A connection that is torn down keeps the chunks that it was given. -/
theorem chunks_tearDown (service : Service τ) (token : Token) (r : Reactor τ) (t : Token) :
    (r.tearDown service token).chunks t = r.chunks t :=
  (sameFeed_tearDown service token r).chunks t

theorem written_tearDown (service : Service τ) (token : Token) (r : Reactor τ) (peer : Nat) :
    (r.tearDown service token).written peer = r.written peer := by
  unfold tearDown
  split
  · rfl
  · next conn hconn =>
    have hclosed : SameView r (r.closeSocket conn.socket) peer := sameView_modifySocket conn.socket r fun _ _ => rfl
    exact hclosed.written

/-- That a connection was opened is still known after it is torn down. -/
theorem mem_callbacks_tearDown (service : Service τ) (token : Token) (r : Reactor τ) (t : Token) :
    .opened t ∈ (r.tearDown service token).callbacks ↔ .opened t ∈ r.callbacks := by
  unfold tearDown
  split
  · rfl
  · show Callback.opened t ∈ Callback.closed token :: r.callbacks ↔ _
    rw [List.mem_cons, or_iff_right nofun]

/-- To tear one connection down leaves the others alone. -/
theorem sameView_tearDown (service : Service τ) (r : Reactor τ) (hother : Handle.token place ≠ token) :
    SameView r (r.tearDown service token) place where
  chunks := chunks_tearDown service token r _
  inbox := by rw [inboxOf, connection?_tearDown, if_neg hother, inboxOf]
  work := by rw [work?, tearDown_workers, work?]
  left := by rw [isLeft, tearDown_workers, isLeft]
  around := by
    unfold isAround
    rw [connection?_tearDown, if_neg hother]
    simp only [mem_callbacks_tearDown]
  written := written_tearDown service token r place

/-- What a chunk led to is written, and its inbox kept. -/
def respond (token : Token) (conn : Connection) (reaction : Reaction) (r : Reactor τ) : Reactor τ :=
  (r.modifySocket conn.socket fun socket =>
    { socket with outgoing := reaction.written.reverse ++ socket.outgoing }).modifyConnection token
      fun conn => { conn with inbox := reaction.inbox }

/-- The end of a chunk in two operations: what the service has answered is taken, and then the connection is closed if
it asked for that. -/
theorem conclude_eq (token : Token) (conn : Connection) (reaction : Reaction) (r : Reactor τ) :
    r.conclude token conn reaction
      = if reaction.closing then (r.respond token conn reaction).close token conn else r.respond token conn reaction := rfl

theorem sameView_conclude_respond (token : Token) (conn : Connection) (reaction : Reaction) (r : Reactor τ)
    (place : Nat) : SameView (r.respond token conn reaction) (r.conclude token conn reaction) place := by
  rw [conclude_eq]
  split
  · exact sameView_close token conn _ place
  · exact .refl _ place

/-- The end of a chunk of one connection leaves the others alone. -/
theorem sameView_conclude {conn : Connection} (reaction : Reaction) (r : Reactor τ) (htoken : Handle.token place ≠ token)
    (hsocket : conn.socket ≠ place) : SameView r (r.conclude token conn reaction) place := by
  have hwritten : SameView r (r.modifySocket conn.socket fun socket =>
      { socket with outgoing := reaction.written.reverse ++ socket.outgoing }) place :=
    sameView_modifySocket conn.socket r fun hsame => absurd hsame hsocket
  have hresponded : SameView r (r.respond token conn reaction) place :=
    hwritten.trans (sameView_modifyConnection token _ fun hsame => absurd hsame.symm htoken)
  exact hresponded.trans (sameView_conclude_respond token conn reaction r place)

/-- Nothing is to be seen of a connection that is accepted before something arrives on it. -/
theorem sameView_enroll (service : Service τ) (socket : Nat) (backlog : List Nat)
    (hfresh : .opened r.nextToken ∉ r.callbacks) (place : Nat) : SameView r (r.enroll service socket backlog) place where
  chunks := by
    rw [chunks_of_callbacks (r := r) rfl]
    exact List.append_nil _
  inbox := by
    unfold inboxOf
    rw [connection?_enroll]
    cases r.connection? (Handle.token place) with
    | some conn => rfl
    | none =>
      rw [Option.none_or]
      split <;> rfl
  work := rfl
  left := rfl
  around := by
    have hmem : .opened (Handle.token place) ∈ (r.enroll service socket backlog).callbacks
        ↔ Handle.token place = r.nextToken ∨ .opened (Handle.token place) ∈ r.callbacks := by
      show Callback.opened _ ∈ Callback.opened r.nextToken :: r.callbacks ↔ _
      rw [List.mem_cons, Callback.opened.injEq]
    unfold isAround
    rw [connection?_enroll]
    -- to the peer itself, being opened and being recorded as opened come at the same time
    by_cases hsame : Handle.token place = r.nextToken
    · rw [hsame, if_pos rfl]
      cases r.connection? r.nextToken <;> simp [hfresh]
    · rw [if_neg (Ne.symm hsame), Option.or_none]
      simp only [hmem, hsame, false_or]
  written := rfl

/-! ## Operations that do not -/

/-- What the service has left of the bytes is kept for the next chunk. -/
theorem inboxOf_respond {conn : Connection} (reaction : Reaction) (hconn : r.connection? token = some conn) :
    (r.respond token conn reaction).inboxOf token = reaction.inbox := by
  unfold respond inboxOf
  rw [connection?_modifyConnection, if_pos rfl]
  show ((r.connection? token).map _).elim _ _ = _
  rw [hconn]
  rfl

/-- What a chunk led to is written behind what was written before. -/
theorem written_respond {conn : Connection} (reaction : Reaction) (hsocket : conn.socket < r.sockets.size) :
    (r.respond token conn reaction).written conn.socket = r.written conn.socket ++ reaction.written.flatten := by
  show (r.modifySocket conn.socket fun socket =>
    { socket with outgoing := reaction.written.reverse ++ socket.outgoing }).written conn.socket = _
  rw [written_modifySocket, if_pos rfl]
  unfold written
  rw [Array.getElem?_eq_getElem hsocket]
  simp

end Reactor

end EventBus
