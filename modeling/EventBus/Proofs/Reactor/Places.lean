import EventBus.Proofs.Reactor.Steps
import Mathlib.Data.List.Nodup

/-!
# Where connections are

A connection is armed, with the poll thread, in the queue, or with a worker. `places` counts how often it is in
any of these, and this module says what each operation of a reactor does to that count, and which operations
move no connection at all (`SameCustody`) or do not even concern the service (`SameTold`).
-/

namespace EventBus

namespace ByToken

variable {α : Type}

/-- An entry at the end is found only by who finds none before it. -/
theorem get?_append_singleton (token t : Token) (a : α) (entries : ByToken α) :
    get? token (entries ++ [(t, a)]) = (get? token entries).or (if t = token then some a else none) := by
  induction entries with
  | nil => simp [get?_cons]
  | cons entry entries ih =>
    obtain ⟨other, b⟩ := entry
    rw [List.cons_append, get?_cons, get?_cons, ih]
    split <;> rfl

end ByToken

/-! ## Places -/

/-- How often a connection is with the poll thread: its event was fetched, or it is about to be armed. -/
def PollThread.count (token : Token) : PollThread → Nat
  | looping | waiting | stopped => 0
  | handling events | accepting events => events.count (.ready token)
  | registering t events | rejected t events => (if t = token then 1 else 0) + events.count (.ready token)

/-- The connection that a worker has in hand. -/
def Worker.token? {τ : Type} : Worker τ → Option Token
  | checking token | reading token | serving token _ | rearming token | leaving token => some token
  | idle | stopped => none

/-- The worker has the connection in hand. -/
def Worker.holds {τ : Type} (token : Token) (worker : Worker τ) : Bool :=
  worker.token? == some token

namespace Reactor

variable {τ : Type}

/-- One for an open connection, else zero. -/
def openCount (r : Reactor τ) (token : Token) : Nat :=
  if (r.connection? token).isSome then 1 else 0

/-- One for an armed connection, else zero. -/
def armedCount (r : Reactor τ) (token : Token) : Nat :=
  if (r.connection? token).any (·.armed) then 1 else 0

/-- How often a connection waits in the queue. -/
def queueCount (r : Reactor τ) (token : Token) : Nat :=
  r.queue.waiting.count (.connection token)

/-- How many workers have a connection in hand. -/
def workerCount (r : Reactor τ) (token : Token) : Nat :=
  r.workers.countP (·.holds token)

/-- How often a connection is armed, with the poll thread, in the queue or with a worker. -/
def places (r : Reactor τ) (token : Token) : Nat :=
  r.armedCount token + r.poll.count token + r.queueCount token + r.workerCount token

variable {r : Reactor τ} {token other : Token}

/-! ## What operations do to connections -/

/-- A change of one connection is found under its token and under no other. -/
theorem connection?_modifyConnection (token : Token) (f : Connection → Connection) (r : Reactor τ)
    (other : Token) :
    (r.modifyConnection token f).connection? other
      = if other = token then (r.connection? other).map f else r.connection? other := by
  show ByToken.get? other (r.connections.modify token f) = _
  split
  · next h => rw [h, ByToken.get?_modify_self]; rfl
  · next h => rw [ByToken.get?_modify_of_ne h]; rfl

/-- A connection that is torn down is gone, and nothing else is. -/
theorem connection?_tearDown (service : Service τ) (token : Token) (r : Reactor τ) (other : Token) :
    (r.tearDown service token).connection? other
      = if other = token then none else r.connection? other := by
  rw [tearDown]
  split
  · next hnone =>
    split
    · next h => rw [h, hnone]
    · rfl
  · show ByToken.get? other (r.connections.erase token) = _
    split
    · next h => rw [h, ByToken.get?_erase_self]
    · next h => rw [ByToken.get?_erase_of_ne h]; rfl

/-- The next token is that of the new connection. If it were taken, the one that has it would be found. -/
theorem connection?_enroll (service : Service τ) (socket : Nat) (backlog : List Nat) (r : Reactor τ)
    (other : Token) :
    (r.enroll service socket backlog).connection? other
      = (r.connection? other).or (if r.nextToken = other then some { socket } else none) :=
  ByToken.get?_append_singleton ..

/-- A change of a connection opens and closes nothing. -/
theorem isSome_connection?_modifyConnection (token : Token) (f : Connection → Connection) (r : Reactor τ)
    (other : Token) : ((r.modifyConnection token f).connection? other).isSome = (r.connection? other).isSome := by
  rw [connection?_modifyConnection]
  split
  · rw [Option.isSome_map]
  · rfl

theorem openCount_modifyConnection (token : Token) (f : Connection → Connection) (r : Reactor τ)
    (other : Token) : (r.modifyConnection token f).openCount other = r.openCount other := by
  rw [openCount, isSome_connection?_modifyConnection, openCount]

/-- To arm a connection arms it if it is open, and no other. -/
theorem armedCount_arm (token : Token) (r : Reactor τ) (other : Token) :
    (r.arm token).armedCount other = if other = token then r.openCount other else r.armedCount other := by
  rw [armedCount, arm, connection?_modifyConnection]
  split
  · rw [openCount]
    -- an open connection is armed now, and one that is not open cannot be
    cases r.connection? other <;> rfl
  · rfl

/-- A connection that is torn down is not open. -/
theorem openCount_tearDown (service : Service τ) (token : Token) (r : Reactor τ) (other : Token) :
    (r.tearDown service token).openCount other = if other = token then 0 else r.openCount other := by
  rw [openCount, connection?_tearDown]
  split <;> rfl

theorem armedCount_tearDown (service : Service τ) (token : Token) (r : Reactor τ) (other : Token) :
    (r.tearDown service token).armedCount other = if other = token then 0 else r.armedCount other := by
  rw [armedCount, connection?_tearDown]
  split <;> rfl

/-- A connection is torn down by its removal only: who waits in the queue still does. -/
@[simp]
theorem tearDown_queue (service : Service τ) (token : Token) (r : Reactor τ) :
    (r.tearDown service token).queue = r.queue := by
  rw [tearDown]
  split <;> rfl

@[simp]
theorem tearDown_workers (service : Service τ) (token : Token) (r : Reactor τ) :
    (r.tearDown service token).workers = r.workers := by
  rw [tearDown]
  split <;> rfl

@[simp]
theorem tearDown_poll (service : Service τ) (token : Token) (r : Reactor τ) :
    (r.tearDown service token).poll = r.poll := by
  rw [tearDown]
  split <;> rfl

@[simp]
theorem tearDown_lifecycle (service : Service τ) (token : Token) (r : Reactor τ) :
    (r.tearDown service token).lifecycle = r.lifecycle := by
  rw [tearDown]
  split <;> rfl

/-- A token is the token of one connection at most. -/
theorem openCount_le_one (r : Reactor τ) (token : Token) : r.openCount token ≤ 1 := by
  unfold openCount
  split <;> omega

/-- Either way the connection is out of the hand, and in another place exactly if it is still open. -/
theorem armedCount_handBack {service : Service τ} {ok : Bool} {rest : Nat}
    (h : r.armedCount other + (if token = other then 1 else 0) + rest = r.openCount other) :
    (r.handBack service token ok).armedCount other + rest = (r.handBack service token ok).openCount other := by
  -- a connection that is in hand and open is in no other place
  have hle := openCount_le_one r other
  cases ok with
  | true =>
    show (r.arm token).armedCount other + rest = (r.arm token).openCount other
    rw [armedCount_arm, arm, openCount_modifyConnection]
    by_cases hsame : token = other
    · rw [if_pos hsame] at h
      rw [if_pos hsame.symm]
      omega
    · rw [if_neg hsame] at h
      rw [if_neg (Ne.symm hsame)]
      exact h
  | false =>
    show (r.tearDown service token).armedCount other + rest = (r.tearDown service token).openCount other
    rw [armedCount_tearDown, openCount_tearDown]
    by_cases hsame : token = other
    · rw [if_pos hsame] at h
      rw [if_pos hsame.symm, if_pos hsame.symm]
      omega
    · rw [if_neg hsame] at h
      rw [if_neg (Ne.symm hsame), if_neg (Ne.symm hsame)]
      exact h

/-- Giving a connection back changes only connections and sockets. -/
theorem handBack_frame (service : Service τ) (token : Token) (ok : Bool) (r : Reactor τ) :
    (r.handBack service token ok).queue = r.queue ∧ (r.handBack service token ok).workers = r.workers
      ∧ (r.handBack service token ok).poll = r.poll
      ∧ (r.handBack service token ok).lifecycle = r.lifecycle := by
  cases ok with
  | true => exact ⟨rfl, rfl, rfl, rfl⟩
  | false => exact ⟨tearDown_queue .., tearDown_workers .., tearDown_poll .., tearDown_lifecycle ..⟩

/-- A new connection is not armed. -/
theorem armedCount_enroll (service : Service τ) (socket : Nat) (backlog : List Nat) (r : Reactor τ)
    (token : Token) : (r.enroll service socket backlog).armedCount token = r.armedCount token := by
  rw [armedCount, connection?_enroll, armedCount]
  cases r.connection? token with
  | none => by_cases h : r.nextToken = token <;> simp [h]
  | some conn => rfl

/-- An accepted connection is open once, as its token is new. -/
theorem openCount_enroll (hfresh : r.connection? r.nextToken = none) (service : Service τ) (socket : Nat)
    (backlog : List Nat) (token : Token) :
    (r.enroll service socket backlog).openCount token
      = r.openCount token + if r.nextToken = token then 1 else 0 := by
  rw [openCount, connection?_enroll, openCount]
  -- the new token was nobody's; the others are as they were
  by_cases h : r.nextToken = token
  · rw [← h, hfresh]
    simp
  · rw [if_neg h, if_neg h, Option.or_none, Nat.add_zero]

/-- A worker that goes on to something else takes a connection in hand, or out of it. -/
theorem workerCount_setWorker {worker : Nat} {now : Worker τ} (h : r.workers[worker]? = some now)
    (next : Worker τ) (token : Token) :
    (r.setWorker worker next).workerCount token + (if now.holds token then 1 else 0)
      = r.workerCount token + if next.holds token then 1 else 0 := by
  obtain ⟨hlt, rfl⟩ := Array.getElem?_eq_some_iff.mp h
  have hle := Array.boole_getElem_le_countP (p := fun worker => worker.holds token) hlt
  show (r.workers.setIfInBounds worker next).countP (·.holds token) + _ = r.workers.countP (·.holds token) + _
  rw [Array.setIfInBounds, dif_pos hlt, Array.countP_set]
  omega

/-- A connection that a worker has is not counted out. -/
theorem holds_le_workerCount {worker : Nat} {now : Worker τ} (h : r.workers[worker]? = some now)
    (token : Token) : (if now.holds token then 1 else 0) ≤ r.workerCount token := by
  obtain ⟨hlt, rfl⟩ := Array.getElem?_eq_some_iff.mp h
  exact Array.boole_getElem_le_countP (p := fun worker => worker.holds token) hlt

/-! ## Fetching events -/

/-- One more event that a connection is ready counts for that connection. -/
theorem count_ready_cons (t token : Token) (events : List PollEvent) :
    (PollEvent.ready t :: events).count (.ready token)
      = events.count (.ready token) + if t = token then 1 else 0 := by
  rw [List.count_cons]
  by_cases h : t = token
  · simp [h]
  · simp [h]

/-- A ticket for a connection counts for that one. -/
theorem count_connection_singleton (t token : Token) :
    [Ticket.connection t].count (.connection token) = if t = token then 1 else 0 := by
  by_cases h : t = token
  · simp [h]
  · simp [h]

/-- Fetching events changes nothing but connections. -/
theorem fetch_eq (events : List PollEvent) (r : Reactor τ) :
    r.fetch events = { r with connections := (r.fetch events).connections } := by
  induction events generalizing r with
  | nil => rfl
  | cons event events ih =>
    cases event with
    | knock => exact ih r
    | ready token => exact ih (r.disarm token)

/-- Fetching events disarms the connections among them. -/
theorem connection?_fetch (events : List PollEvent) (r : Reactor τ) (token : Token) :
    (r.fetch events).connection? token
      = if .ready token ∈ events then (r.connection? token).map fun conn => { conn with armed := false }
        else r.connection? token := by
  induction events generalizing r with
  | nil => rfl
  | cons event events ih =>
    cases event with
    | knock =>
      show (r.fetch events).connection? token = _
      rw [ih]
      simp
    | ready t =>
      show ((r.disarm t).fetch events).connection? token = _
      rw [ih, disarm, connection?_modifyConnection]
      -- disarming twice is disarming once
      by_cases hsame : token = t
      · subst hsame
        cases r.connection? token <;> simp
      · simp [hsame]

/-- A connection whose event is fetched goes from being armed to the poll thread. -/
theorem armedCount_fetch {events : List PollEvent} (hcan : events.all r.canHappen) (hnodup : events.Nodup)
    (token : Token) :
    (r.fetch events).armedCount token + events.count (.ready token) = r.armedCount token := by
  rw [armedCount, connection?_fetch, armedCount]
  split
  · next hmem =>
    have harmed : (r.connection? token).any (·.armed) := List.all_eq_true.mp hcan _ hmem
    rw [List.count_eq_one_of_mem hnodup hmem, if_pos harmed]
    cases r.connection? token <;> rfl
  · next hmem => rw [List.count_eq_zero_of_not_mem hmem, Nat.add_zero]

theorem openCount_fetch (events : List PollEvent) (r : Reactor τ) (token : Token) :
    (r.fetch events).openCount token = r.openCount token := by
  rw [openCount, connection?_fetch, openCount]
  split
  · rw [Option.isSome_map]
  · rfl

/-! ## Operations that move no connection -/

/-- Nothing of what says who has the connections differs. -/
structure SameCustody (r kept : Reactor τ) : Prop where
  armed : ∀ token, (kept.connection? token).any (·.armed) = (r.connection? token).any (·.armed)
  opened : ∀ token, (kept.connection? token).isSome = (r.connection? token).isSome
  queue : kept.queue = r.queue
  poll : kept.poll = r.poll
  workers : kept.workers = r.workers
  lifecycle : kept.lifecycle = r.lifecycle

/-- An operation that moves no connection closes none. -/
theorem SameCustody.openCount {kept : Reactor τ} (h : SameCustody r kept) (token : Token) :
    kept.openCount token = r.openCount token := by
  rw [Reactor.openCount, h.opened, Reactor.openCount]

/-- An operation that moves no connection leaves each in as many places as it was. -/
theorem SameCustody.places {kept : Reactor τ} (h : SameCustody r kept) (token : Token) :
    kept.places token = r.places token := by
  rw [Reactor.places, Reactor.places, armedCount, armedCount, h.armed, h.poll, queueCount, queueCount, h.queue,
    workerCount, workerCount, h.workers]

/-- Nor does anything that the service is told of. -/
structure SameTold (r kept : Reactor τ) : Prop extends SameCustody r kept where
  state : kept.state = r.state
  callbacks : kept.callbacks = r.callbacks
  nextToken : kept.nextToken = r.nextToken
  backlog : kept.backlog = r.backlog
  sockets : kept.sockets.size = r.sockets.size

theorem SameTold.refl (r : Reactor τ) : SameTold r r :=
  ⟨⟨fun _ => rfl, fun _ => rfl, rfl, rfl, rfl, rfl⟩, rfl, rfl, rfl, rfl, rfl⟩

theorem SameTold.trans {r r' r'' : Reactor τ} (h : SameTold r r') (h' : SameTold r' r'') : SameTold r r'' where
  armed token := (h'.armed token).trans (h.armed token)
  opened token := (h'.opened token).trans (h.opened token)
  queue := h'.queue.trans h.queue
  poll := h'.poll.trans h.poll
  workers := h'.workers.trans h.workers
  lifecycle := h'.lifecycle.trans h.lifecycle
  state := h'.state.trans h.state
  callbacks := h'.callbacks.trans h.callbacks
  nextToken := h'.nextToken.trans h.nextToken
  backlog := h'.backlog.trans h.backlog
  sockets := h'.sockets.trans h.sockets

/-- Sockets are not a matter of places or of the service. -/
theorem sameTold_modifySocket (i : Nat) (f : Socket → Socket) (r : Reactor τ) : SameTold r (r.modifySocket i f) :=
  ⟨⟨fun _ => rfl, fun _ => rfl, rfl, rfl, rfl, rfl⟩, rfl, rfl, rfl, rfl, Array.size_modify⟩

theorem sameTold_closeSockets (sockets : List Nat) (r : Reactor τ) :
    SameTold r (sockets.foldl closeSocket r) := by
  induction sockets generalizing r with
  | nil => exact .refl r
  | cons socket sockets ih => exact (sameTold_modifySocket socket _ r).trans (ih _)

theorem sameTold_modifyConnection {f : Connection → Connection} (hf : ∀ conn, (f conn).armed = conn.armed)
    (token : Token) (r : Reactor τ) : SameTold r (r.modifyConnection token f) where
  armed other := by
    rw [connection?_modifyConnection]
    split
    · cases r.connection? other with
      | none => rfl
      | some conn => rw [Option.map_some, Option.any_some, hf, Option.any_some]
    · rfl
  opened other := isSome_connection?_modifyConnection token f r other
  queue := rfl
  poll := rfl
  workers := rfl
  lifecycle := rfl
  state := rfl
  callbacks := rfl
  nextToken := rfl
  backlog := rfl
  sockets := rfl

/-- Asking for the end of a connection only marks it; it is told when it is torn down. -/
theorem sameTold_close (token : Token) (conn : Connection) (r : Reactor τ) : SameTold r (r.close token conn) :=
  (sameTold_modifyConnection (f := fun conn => { conn with closing := true }) (fun _ => rfl) token r).trans
    (sameTold_modifySocket conn.socket _ _)

/-- What a chunk led to moves no connection. -/
theorem sameTold_conclude (token : Token) (conn : Connection) (reaction : Reaction) (r : Reactor τ) :
    SameTold r (r.conclude token conn reaction) := by
  have hwritten := sameTold_modifySocket conn.socket
    (fun socket => { socket with outgoing := reaction.written.reverse ++ socket.outgoing }) r
  have hkept := hwritten.trans (sameTold_modifyConnection
    (f := fun conn => { conn with inbox := reaction.inbox }) (fun _ => rfl) token _)
  rw [conclude]
  split
  · exact hkept.trans (sameTold_close token conn _)
  · exact hkept

end Reactor

end EventBus
