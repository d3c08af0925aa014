import EventBus.Catalog.Component
import EventBus.Proofs.Client.Exchange
import EventBus.Proofs.Client.Threads
import EventBus.Proofs.Routine.Account

/-!
# Replies belong to their calls

Any number of threads share a client. Replies do not say what they reply to, so all depends on that no connection is
kept on which a reply may still arrive.

* `Callers` are the threads with their calls, and with each write that one of them has made. `Callers.Ran` are the
  histories: threads begin calls and make turns, the peer and the network go on in between, and connections are given up.
* `turn_perform`: a call is over after one turn, as its peer answers with frames of the right kind only.
* `Callers.Paired` is what every step of a history keeps (`Ran.paired`).
* `Callers.Matched`: each call is served at most once; a call that gives a status was served, and the status and the
  out-structure behind it are those of the reply that the peer came to in serving it. `Ran.replies_paired` proves it
  for all histories.
-/

namespace EventBus

variable {σ τ : Type} {service : FrameService τ} {env : Environment σ}

/-- A write that a thread has made for its call. -/
structure Post where
  thread : Nat
  call : Call

/-- Threads that share a client. -/
structure Callers (σ : Type) where
  pool : Pool (Session σ) Report
  /-- The call of each thread. -/
  calls : List Call
  /-- The writes on each connection, oldest first. -/
  posts : Handle → List Post

namespace Callers

/-- The frames of the writes on each connection. -/
def frames (callers : Callers σ) (handle : Handle) : List Frame :=
  (callers.posts handle).map (·.call.frame)

/-- No thread, in surroundings in which no connection was opened. -/
def atStart (world : σ) : Callers σ :=
  ⟨⟨⟨none, world⟩, []⟩, [], fun _ => []⟩

/-- One more thread. -/
def begin (env : Environment σ) (client : Client) (call : Call) (callers : Callers σ) : Callers σ :=
  { callers with
    pool := { callers.pool with threads := callers.pool.threads ++ [client.perform env call] }
    calls := callers.calls ++ [call] }

/-- A turn of a thread. What was written in it was written for the call of the thread. -/
def turned (uplink : Uplink service env) (post : Post) (pool : Pool (Session σ) Report) (callers : Callers σ) :
    Callers σ :=
  let written (handle : Handle) : Nat :=
    ((uplink.trunk pool.state.world).nearEnd handle).sent.length
      - ((uplink.trunk callers.pool.state.world).nearEnd handle).sent.length
  { callers with
    pool
    posts := fun handle => callers.posts handle ++ List.replicate (written handle) post }

/-- The connection and the surroundings are others. -/
def withSession (session : Session σ) (callers : Callers σ) : Callers σ :=
  { callers with pool := { callers.pool with state := session } }

/-- The next turn of a thread, if it has one. -/
def advance (uplink : Uplink service env) (thread : Nat) (callers : Callers σ) : Callers σ :=
  match callers.calls[thread]?, callers.pool.step? thread with
  | some call, some pool => callers.turned uplink ⟨thread, call⟩ pool
  | _, _ => callers

/-- The histories of threads that share a client. -/
inductive Ran (uplink : Uplink service env) (client : Client) : Callers σ → Prop where
  | start {world : σ} (hunopened : ∀ handle, (uplink.trunk world).channel? handle = none) :
      Ran uplink client (atStart world)
  | begin {callers : Callers σ} (h : Ran uplink client callers) (call : Call) :
      Ran uplink client (callers.begin env client call)
  | turn {callers : Callers σ} (h : Ran uplink client callers) {thread : Nat} {call : Call}
      (hcall : callers.calls[thread]? = some call) {pool : Pool (Session σ) Report}
      (hstep : callers.pool.step? thread = some pool) :
      Ran uplink client (callers.turned uplink ⟨thread, call⟩ pool)
  /-- The peer and the network go on. -/
  | drift {callers : Callers σ} (h : Ran uplink client callers) {world : σ}
      (hmoves : Trunk.Moves service (uplink.trunk callers.pool.state.world) (uplink.trunk world)) :
      Ran uplink client (callers.withSession { callers.pool.state with world })
  /-- Somebody gives the connection up. -/
  | reset {callers : Callers σ} (h : Ran uplink client callers) :
      Ran uplink client (callers.withSession (Client.reset env callers.pool.state))

end Callers

/-! ## One call -/

variable {uplink : Uplink service env} {client : Client} {session : Session σ} {frames : Handle → List Frame}

/-- A call can make a report of every reply that fits its frame. -/
theorem Call.exists_report {call : Call} {reply : Frame} (h : (Answer.reply reply).Fits call.frame.asSent) :
    ∃ report, call.report? reply = some report := by
  cases call <;> cases reply <;> first | exact ⟨_, rfl⟩ | exact h.elim

/-- A request makes a report of replies only: the status is that of the reply, and the out-structure what the two of
them come to. -/
theorem Call.of_report?_request {envelope : Envelope} {out : Option EventOut} {reply : Frame} {report : Report}
    {status : Status} (h : (Call.request envelope out).report? reply = some report)
    (hstatus : report.result = .ok (some status)) :
    ∃ returned, reply = .reply status returned ∧ report.out = Client.writtenBack out returned := by
  cases reply with
  | reply replied returned =>
    obtain rfl := Option.some.inj h
    obtain rfl := Option.some.inj (Except.ok.inj hstatus)
    exact ⟨returned, rfl, rfl⟩
  | hello | helloAck | push | request => cases h

/-- An announcement makes a report of verdicts only. -/
theorem Call.of_report?_hello {name : String} {reply : Frame} {report : Report} {status : Status}
    (h : (Call.hello name).report? reply = some report) (hstatus : report.result = .ok (some status)) :
    reply = .helloAck status := by
  cases reply with
  | helloAck verdict =>
    obtain rfl := Option.some.inj h
    obtain rfl := Option.some.inj (Except.ok.inj hstatus)
    rfl
  | hello | push | request | reply => cases h

/-- A report of a status is made of the reply to the frame that was sent last on a connection. -/
def Uplink.Returns (uplink : Uplink service env) (call : Call) (frames frames' : Handle → List Frame) (world : σ)
    (report : Report) : Prop :=
  ∀ status, report.result = .ok (some status) →
    ∃ handle reply, frames' = Function.update frames handle (frames handle ++ [call.frame])
      ∧ ((uplink.peer world).answered handle)[(frames handle).length]? = some (.reply reply)
      ∧ call.report? reply = some report

/-- The one turn of a request or an announcement: it sends at most one frame, and what it gives comes from the reply to
that one. -/
theorem turn_await (hproper : service.Proper) (h : uplink.Settled session frames) (call : Call) :
    ∃ report left frames', (client.await env call).turn session = (.done report, left)
      ∧ uplink.Sends call.frame session frames left frames' ∧ uplink.Returns call frames frames' left.world report := by
  unfold Client.await
  rw [Routine.turn_atomic_bind]
  generalize hcall : client.call env call.frame session = answered
  obtain ⟨result, left⟩ := answered
  obtain ⟨frames', hsends, hanswered⟩ := Uplink.call_settled hproper h hcall
  cases result with
  | error e =>
    -- a failed call gives no status, so there is no reply to account for
    refine ⟨call.failed e, left, frames', rfl, hsends, fun status hstatus => ?_⟩
    cases call <;> cases hstatus
  | ok reply =>
    obtain ⟨handle, hframes, hanswer⟩ := hanswered reply rfl
    have hsent : frames' handle = frames handle ++ [call.frame] := by
      rw [hframes]
      exact Function.update_self ..
    have hopened := hsends.settled.orderly.isSome_near? (hsent ▸ List.concat_ne_nil _ _)
    obtain ⟨frame, hframe, -, hgives⟩ := hsends.settled.orderly.answer_at hopened hanswer
    rw [hsent, List.getElem?_concat_length] at hframe
    obtain rfl := Option.some.inj hframe
    obtain ⟨report, hreport⟩ := Call.exists_report (hproper _ _ hgives)
    refine ⟨report, left, frames', ?_, hsends, fun _ _ => ⟨handle, reply, hframes, hanswer, hreport⟩⟩
    dsimp only
    rw [hreport]
    rfl

/-- A call is over after one turn. -/
theorem turn_perform (hproper : service.Proper) (h : uplink.Settled session frames) (call : Call) :
    ∃ report left frames', (client.perform env call).turn session = (.done report, left)
      ∧ uplink.Sends call.frame session frames left frames' ∧ uplink.Returns call frames frames' left.world report := by
  cases call with
  | request envelope out => exact turn_await hproper h (.request envelope out)
  | hello name => exact turn_await hproper h (.hello name)
  | push envelope =>
    generalize hpush : client.push env envelope session = pushed
    obtain ⟨result, left⟩ := pushed
    obtain ⟨frames', hsends⟩ := Uplink.push_settled h hpush
    -- a push is done when it is sent, and reports no status that would have to be matched
    refine ⟨{ result := result.map fun _ => none }, left, frames', ?_, hsends, fun status hstatus => ?_⟩
    · unfold Client.perform
      rw [Routine.turn_atomic_bind, hpush]
      rfl
    · cases result <;> cases hstatus

/-! ## What is kept -/

namespace Callers

variable {callers : Callers σ} {pool : Pool (Session σ) Report} {thread : Nat} {call : Call} {report : Report}

/-- A report of a status is made of the reply to the frame that was written for the call. -/
def Replied (uplink : Uplink service env) (callers : Callers σ) (post : Post) (report : Report) : Prop :=
  ∀ status, report.result = .ok (some status) →
    ∃ (handle : Handle) (n : Nat) (reply : Frame), (callers.posts handle)[n]? = some post
      ∧ ((uplink.peer callers.pool.state.world).answered handle)[n]? = some (.reply reply)
      ∧ post.call.report? reply = some report

/-- A thread has not begun its call, or it is over. -/
inductive Stands (uplink : Uplink service env) (client : Client) (callers : Callers σ) (post : Post) :
    Routine (Session σ) Report → Prop where
  | waits (hnone : ∀ handle, ∀ other ∈ callers.posts handle, other.thread ≠ post.thread) :
      Stands uplink client callers post (client.perform env post.call)
  | done {report : Report} (hreplied : callers.Replied uplink post report) : Stands uplink client callers post (.done report)

/-- What every step keeps: the connection that is kept is settled, each post belongs to its call, no thread has posted
twice, and each thread stands as its call does. -/
structure Paired (uplink : Uplink service env) (client : Client) (callers : Callers σ) : Prop where
  settled : uplink.Settled callers.pool.state callers.frames
  length : callers.pool.threads.length = callers.calls.length
  known : ∀ handle, ∀ post ∈ callers.posts handle, callers.calls[post.thread]? = some post.call
  once : ∀ {handle handle' : Handle} {n n' : Nat} {post post' : Post}, (callers.posts handle)[n]? = some post →
    (callers.posts handle')[n']? = some post' → post.thread = post'.thread → handle = handle' ∧ n = n'
  stands : ∀ thread call routine, callers.calls[thread]? = some call →
    callers.pool.threads[thread]? = some routine → callers.Stands uplink client ⟨thread, call⟩ routine

/-- What was replied stays so while more is written and noted. -/
theorem Replied.of_grows {callers' : Callers σ} {post : Post} (h : callers.Replied uplink post report)
    (hposts : ∀ handle, callers.posts handle <+: callers'.posts handle)
    (hgrows : (uplink.peer callers.pool.state.world).Grows (uplink.peer callers'.pool.state.world)) :
    callers'.Replied uplink post report := by
  intro status hstatus
  obtain ⟨handle, n, reply, hpost, hanswer, hreport⟩ := h status hstatus
  exact ⟨handle, n, reply, getElem?_of_front (hposts handle) hpost,
    getElem?_of_front (hgrows.answered handle) hanswer, hreport⟩

/-- Another session, with the same writes. -/
theorem Paired.withSession (h : callers.Paired uplink client) (hsettled : uplink.Settled session callers.frames)
    (hgrows : (uplink.peer callers.pool.state.world).Grows (uplink.peer session.world)) :
    (callers.withSession session).Paired uplink client where
  settled := hsettled
  length := h.length
  known := h.known
  once := h.once
  stands thread call routine hcall hroutine := by
    cases h.stands thread call routine hcall hroutine with
    | waits hnone => exact .waits hnone
    | done hreplied => exact .done (hreplied.of_grows (fun _ => List.prefix_refl _) hgrows)

theorem Paired.begin (h : callers.Paired uplink client) (call : Call) :
    (callers.begin env client call).Paired uplink client where
  settled := h.settled
  length := by
    show (callers.pool.threads ++ [client.perform env call]).length = (callers.calls ++ [call]).length
    rw [List.length_append, List.length_append, h.length]
    rfl
  known handle post hpost := getElem?_of_front (List.prefix_append _ _) (h.known handle post hpost)
  once := h.once
  stands thread found routine hfound hroutine := by
    change (callers.calls ++ [call])[thread]? = some found at hfound
    change (callers.pool.threads ++ [client.perform env call])[thread]? = some routine at hroutine
    rw [List.getElem?_append] at hfound
    split at hfound
    · next hlt =>
      rw [List.getElem?_append_left (h.length ▸ hlt)] at hroutine
      cases h.stands thread found routine hfound hroutine with
      | waits hnone => exact .waits hnone
      | done hreplied => exact .done hreplied
    · next hge =>
      have hlast : thread = callers.calls.length := by
        have hlt := (List.getElem?_eq_some_iff.mp hfound).1
        rw [List.length_singleton] at hlt
        omega
      subst hlast
      rw [← h.length, List.getElem?_concat_length] at hroutine
      rw [Nat.sub_self] at hfound
      obtain rfl := Option.some.inj hfound
      obtain rfl := Option.some.inj hroutine
      -- only threads that there were have written
      refine .waits fun handle other hother hsame => ?_
      have hlt := (List.getElem?_eq_some_iff.mp (h.known handle other hother)).1
      exact absurd hsame (Nat.ne_of_lt hlt)

/-! ## A turn -/

variable {post : Post} {frames' : Handle → List Frame}

/-- What was written in a turn is what was added to the frames. -/
theorem posts_turned (h : uplink.Settled callers.pool.state callers.frames) (h' : uplink.Settled pool.state frames')
    (post : Post) (handle : Handle) :
    (callers.turned uplink post pool).posts handle
      = callers.posts handle ++ List.replicate ((frames' handle).length - (callers.frames handle).length) post := by
  unfold turned
  dsimp only
  rw [h.orderly.counts, h'.orderly.counts]

/-- A turn that sends adds one post on one connection. -/
theorem posts_turned_update (h : uplink.Settled callers.pool.state callers.frames)
    (h' : uplink.Settled pool.state frames') {handle : Handle}
    (hframes : frames' = Function.update callers.frames handle (callers.frames handle ++ [post.call.frame])) :
    (callers.turned uplink post pool).posts = Function.update callers.posts handle (callers.posts handle ++ [post]) := by
  funext other
  rw [posts_turned h h', hframes]
  -- the new frame is the only one, and its connection the only one with a frame more
  by_cases hsame : other = handle
  · subst hsame
    rw [Function.update_self, Function.update_self, List.length_append, Nat.add_sub_cancel_left]
    rfl
  · rw [Function.update_of_ne hsame, Function.update_of_ne hsame, Nat.sub_self]
    exact List.append_nil _

theorem posts_turned_self (h : uplink.Settled callers.pool.state callers.frames)
    (h' : uplink.Settled pool.state callers.frames) : (callers.turned uplink post pool).posts = callers.posts := by
  funext handle
  rw [posts_turned h h', Nat.sub_self]
  exact List.append_nil _

/-- The frames that were sent are those of the writes that were made. -/
theorem frames_turned (h : uplink.Settled callers.pool.state callers.frames)
    (h' : uplink.Settled pool.state frames') (hposts : Uplink.Posts post.call.frame callers.frames frames') :
    (callers.turned uplink post pool).frames = frames' := by
  funext other
  unfold frames
  cases hposts with
  | none =>
    rw [posts_turned_self h h']
    rfl
  | one handle =>
    rw [posts_turned_update h h' rfl]
    by_cases hsame : other = handle
    · subst hsame
      rw [Function.update_self, Function.update_self, List.map_append]
      rfl
    · rw [Function.update_of_ne hsame, Function.update_of_ne hsame]
      rfl

/-- A write was made before, or it is the only one of its turn. -/
theorem posts_turned_cases (post : Post) (h : uplink.Settled callers.pool.state callers.frames)
    (h' : uplink.Settled pool.state frames') (hposts : Uplink.Posts post.call.frame callers.frames frames') :
    ∃ place : Handle × Nat, ∀ handle n other, ((callers.turned uplink post pool).posts handle)[n]? = some other →
      (callers.posts handle)[n]? = some other ∨ (other = post ∧ (handle, n) = place) := by
  cases hposts with
  | none =>
    rw [posts_turned_self h h']
    exact ⟨(0, 0), fun handle n other hother => .inl hother⟩
  | one handle =>
    rw [posts_turned_update h h' rfl]
    refine ⟨(handle, (callers.posts handle).length), fun other n found hfound => ?_⟩
    by_cases hsame : other = handle
    · subst hsame
      rw [Function.update_self, List.getElem?_append] at hfound
      split at hfound
      · exact .inl hfound
      · have hlt := (List.getElem?_eq_some_iff.mp hfound).1
        rw [List.length_singleton] at hlt
        have hlast : n = (callers.posts other).length := by omega
        -- the new post stands behind all posts of its connection
        subst hlast
        rw [Nat.sub_self] at hfound
        exact .inr ⟨(Option.some.inj hfound).symm, rfl⟩
    · rw [Function.update_of_ne hsame] at hfound
      exact .inl hfound

/-- What a turn leads to for the thread that has made it, and for the others. -/
theorem Paired.stands_turned (h : callers.Paired uplink client) (hcall : callers.calls[post.thread]? = some post.call)
    (hthread : post.thread < callers.pool.threads.length) {left : Session σ}
    (hsends : uplink.Sends post.call.frame callers.pool.state callers.frames left frames')
    (hreturns : uplink.Returns post.call callers.frames frames' left.world report) {other : Nat} {otherCall : Call}
    {routine : Routine (Session σ) Report} (hother : callers.calls[other]? = some otherCall)
    (hroutine : (callers.pool.threads.set post.thread (.done report))[other]? = some routine) :
    (callers.turned uplink post ⟨left, callers.pool.threads.set post.thread (.done report)⟩).Stands uplink client
      ⟨other, otherCall⟩ routine := by
  have hafter : uplink.Settled
      (Pool.mk left (callers.pool.threads.set post.thread (.done report))).state frames' := hsends.settled
  by_cases hsame : post.thread = other
  · subst hsame
    obtain rfl := Option.some.inj (hcall.symm.trans hother)
    rw [List.getElem?_set_self hthread] at hroutine
    obtain rfl := Option.some.inj hroutine
    refine .done fun status hstatus => ?_
    obtain ⟨handle, reply, hframes, hanswer, hreport⟩ := hreturns status hstatus
    refine ⟨handle, (callers.posts handle).length, reply, ?_, ?_, hreport⟩
    · rw [posts_turned_update h.settled hafter hframes, Function.update_self, List.getElem?_concat_length]
    · unfold Callers.frames at hanswer
      rw [List.length_map] at hanswer
      exact hanswer
  · rw [List.getElem?_set_ne hsame] at hroutine
    cases h.stands other otherCall routine hother hroutine with
    -- one that still waits has sent nothing, and the new post is of another thread
    | waits hnone =>
      refine .waits fun handle found hfound => ?_
      obtain ⟨place, hplace⟩ := posts_turned_cases post h.settled hafter hsends.posts
      obtain ⟨n, hn⟩ := List.mem_iff_getElem?.mp hfound
      rcases hplace handle n found hn with hbefore | ⟨rfl, -⟩
      · exact hnone handle found (List.mem_of_getElem? hbefore)
      · exact hsame
    | done hreplied => exact .done (hreplied.of_grows (fun handle => List.prefix_append _ _) hsends.grows)

/-- The turn of a call. What it posts is its own, so that the others stand as they did. -/
theorem Paired.turn (hproper : service.Proper) (h : callers.Paired uplink client)
    (hcall : callers.calls[thread]? = some call) (hstep : callers.pool.step? thread = some pool) :
    (callers.turned uplink ⟨thread, call⟩ pool).Paired uplink client := by
  obtain ⟨routine, hthread, hgoes, rfl⟩ := Pool.exists_turn_of_step? hstep
  -- a call has one turn, so one that is over makes none
  cases h.stands thread call routine hcall hthread with
  | done => cases hgoes
  | waits hnone =>
    obtain ⟨report, left, frames', hturn, hsends, hreturns⟩ := turn_perform hproper h.settled call
    rw [hturn]
    let post : Post := ⟨thread, call⟩
    let pool : Pool (Session σ) Report := ⟨left, callers.pool.threads.set thread (.done report)⟩
    have hafter : uplink.Settled pool.state frames' := hsends.settled
    obtain ⟨place, hplace⟩ := posts_turned_cases post h.settled hafter hsends.posts
    refine ⟨?_, ?_, fun handle other hother => ?_, ?_, fun other otherCall routine hother hroutine => ?_⟩
    · rw [frames_turned h.settled hafter hsends.posts]
      exact hafter
    · show (callers.pool.threads.set thread (.done report)).length = callers.calls.length
      rw [List.length_set, h.length]
    · obtain ⟨n, hn⟩ := List.mem_iff_getElem?.mp hother
      rcases hplace handle n other hn with hbefore | ⟨rfl, -⟩
      · exact h.known handle other (List.mem_of_getElem? hbefore)
      · exact hcall
    · intro handle handle' n n' first second hfirst hsecond hsame
      -- the thread of this turn has not written before
      rcases hplace handle n first hfirst with hbefore | ⟨rfl, hhere⟩ <;>
        rcases hplace handle' n' second hsecond with hbefore' | ⟨rfl, hhere'⟩
      · exact h.once hbefore hbefore' hsame
      · exact absurd hsame (hnone handle first (List.mem_of_getElem? hbefore))
      · exact absurd hsame.symm (hnone handle' second (List.mem_of_getElem? hbefore'))
      · exact Prod.mk.inj (hhere.trans hhere'.symm)
    · exact h.stands_turned hcall (List.getElem?_eq_some_iff.mp hthread).1 hsends hreturns hother hroutine

/-! ## Histories -/

/-- In the beginning there are no calls and no connections. -/
theorem paired_atStart {world : σ} (hunopened : ∀ handle, (uplink.trunk world).channel? handle = none) :
    (atStart world).Paired uplink client := by
  -- no channel was ever opened, so every near end is the empty one
  have hunused : ∀ handle, (uplink.trunk world).nearEnd handle = {} := by
    intro handle
    unfold Trunk.nearEnd Trunk.near?
    rw [hunopened]
    rfl
  refine ⟨⟨⟨fun handle channel hchannel => ?_, ?_, fun handle => ?_, fun handle => ?_⟩, nofun⟩, rfl, nofun, nofun, nofun⟩
  · change (uplink.trunk world).channel? handle = some channel at hchannel
    rw [hunopened] at hchannel
    cases hchannel
  · exact fun _ => nofun
  · show ((uplink.trunk world).nearEnd handle).sent.length = 0
    rw [hunused]
    rfl
  · refine List.prefix_nil.mpr ?_
    show ((uplink.trunk world).nearEnd handle).sent.flatten = []
    rw [hunused]
    rfl

/-- Every history keeps the callers paired, by induction on its steps. -/
theorem Ran.paired (hproper : service.Proper) (h : Ran uplink client callers) : callers.Paired uplink client := by
  induction h with
  | start hunopened => exact paired_atStart hunopened
  | begin _ call ih => exact ih.begin call
  | turn _ hcall hstep ih => exact ih.turn hproper hcall hstep
  | drift _ hmoves ih =>
    -- what goes on at the peer adds answers and takes none back
    obtain ⟨horderly, hextends⟩ := ih.settled.orderly.moves hmoves
    exact ih.withSession ⟨horderly, fun link hlink => (ih.settled.ready link hlink).extends hextends⟩ hextends.grows
  | @reset callers _ ih =>
    unfold Client.reset
    split
    · next link hlink =>
      obtain ⟨hclosed, hgrows⟩ := Uplink.close_settled ih.settled.orderly link.handle
      exact ih.withSession hclosed hgrows
    · exact ih.withSession ih.settled (.refl _)

/-- The peer has taken up the frame of a thread's call, which was sent as the one with this number on a connection. -/
def Serves (uplink : Uplink service env) (callers : Callers σ) (thread : Nat) (handle : Handle) (n : Nat) : Prop :=
  ∃ call, callers.calls[thread]? = some call ∧ (callers.posts handle)[n]? = some ⟨thread, call⟩
    ∧ ((uplink.peer callers.pool.state.world).begun handle)[n]? = some call.frame.asSent

/-- What the peer takes up was sent, and what was sent was written for one call. -/
theorem Paired.existsUnique_serves (h : callers.Paired uplink client) {handle : Handle} {n : Nat} {frame : Frame}
    (hopened : ((uplink.trunk callers.pool.state.world).near? handle).isSome)
    (hframe : ((uplink.peer callers.pool.state.world).begun handle)[n]? = some frame) :
    ∃! thread, callers.Serves uplink thread handle n := by
  have hsent := getElem?_of_front (h.settled.orderly.begun hopened) hframe
  unfold frames at hsent
  rw [List.map_map, List.getElem?_map] at hsent
  obtain ⟨⟨thread, call⟩, hpost, rfl⟩ := Option.map_eq_some_iff.mp hsent
  have hcall := h.known handle _ (List.mem_of_getElem? hpost)
  refine ⟨thread, ⟨call, hcall, hpost, hframe⟩, fun other hother => ?_⟩
  obtain ⟨otherCall, -, hpost', -⟩ := hother
  exact congrArg Post.thread (Option.some.inj (hpost'.symm.trans hpost))

/-- A call that gave a status was replied to with it. -/
theorem Paired.exists_reply (h : callers.Paired uplink client) (hcall : callers.calls[thread]? = some call)
    (hdone : callers.pool.threads[thread]? = some (.done report)) {status : Status}
    (hstatus : report.result = .ok (some status)) :
    ∃ (handle : Handle) (n : Nat) (reply : Frame), callers.Serves uplink thread handle n
      ∧ ((uplink.peer callers.pool.state.world).answered handle)[n]? = some (.reply reply)
      ∧ call.report? reply = some report := by
  have hstands := h.stands thread call _ hcall hdone
  generalize hroutine : (Routine.done report : Routine (Session σ) Report) = routine at hstands
  cases hstands with
  | waits =>
    -- no call is over before its only turn
    cases call <;> cases hroutine
  | done hreplied =>
    obtain rfl := Routine.done.inj hroutine
    obtain ⟨handle, n, reply, hpost, hanswer, hreport⟩ := hreplied status hstatus
    have hsent : (callers.frames handle)[n]? = some call.frame := by
      unfold frames
      rw [List.getElem?_map, hpost]
      rfl
    have hopened := h.settled.orderly.isSome_near? (List.ne_nil_of_mem (List.mem_of_getElem? hsent))
    obtain ⟨frame, hframe, hbegun, -⟩ := h.settled.orderly.answer_at hopened hanswer
    obtain rfl := Option.some.inj (hframe.symm.trans hsent)
    exact ⟨handle, n, reply, ⟨call, hcall, hpost, hbegun⟩, hanswer, hreport⟩

/-- How the calls of threads belong to what their peer takes up and answers on the connections. -/
structure Matched (uplink : Uplink service env) (callers : Callers σ) : Prop where
  /-- Each frame that the peer takes up is that of the call of one thread. -/
  served : ∀ {handle : Handle} {n : Nat} {frame : Frame},
    ((uplink.trunk callers.pool.state.world).near? handle).isSome →
    ((uplink.peer callers.pool.state.world).begun handle)[n]? = some frame →
      ∃! thread, callers.Serves uplink thread handle n
  /-- The call of a thread is served at most once. -/
  once : ∀ {thread : Nat} {handle handle' : Handle} {n n' : Nat}, callers.Serves uplink thread handle n →
    callers.Serves uplink thread handle' n' → handle = handle' ∧ n = n'
  /-- What the peer answers, it has come to in serving the frame with the same number. -/
  answered : ∀ {handle : Handle} {n : Nat} {answer : Answer},
    ((uplink.trunk callers.pool.state.world).near? handle).isSome →
    ((uplink.peer callers.pool.state.world).answered handle)[n]? = some answer →
      ∃ frame, ((uplink.peer callers.pool.state.world).begun handle)[n]? = some frame ∧ service.Gives frame answer
  /-- A request that gives a status was served, and this is the status of the reply to its very frame. The
  out-structure of that reply is written back where the caller has passed one; where it has not, or where the reply
  carries none, the caller is left with what it had. -/
  request : ∀ {thread : Nat} {envelope : Envelope} {out : Option EventOut} {report : Report} {status : Status},
    callers.calls[thread]? = some (.request envelope out) →
    callers.pool.threads[thread]? = some (.done report) → report.result = .ok (some status) →
      ∃ (handle : Handle) (n : Nat) (returned : Option EventOut), callers.Serves uplink thread handle n
        ∧ ((uplink.peer callers.pool.state.world).answered handle)[n]? = some (.reply (.reply status returned))
        ∧ (∀ passed written, out = some passed → returned = some written → report.out = some written)
        ∧ (out = none ∨ returned = none → report.out = out)
  /-- An announcement that gives a status was served, and this is the verdict on its very frame. -/
  hello : ∀ {thread : Nat} {name : String} {report : Report} {status : Status},
    callers.calls[thread]? = some (.hello name) →
    callers.pool.threads[thread]? = some (.done report) → report.result = .ok (some status) →
      ∃ (handle : Handle) (n : Nat), callers.Serves uplink thread handle n
        ∧ ((uplink.peer callers.pool.state.world).answered handle)[n]? = some (.reply (.helloAck status))
  /-- No push gives a status. -/
  push : ∀ {thread : Nat} {envelope : Envelope} {report : Report} {status : Status},
    callers.calls[thread]? = some (.push envelope) →
    callers.pool.threads[thread]? = some (.done report) → report.result ≠ .ok (some status)

/-- Whatever the threads of a client call, and whatever becomes of its connections: on these the peer takes up nothing
but frames of the calls, and of each call at most once; and where a call gives a status, the peer has taken up its frame,
and the status and the out-structure are those of the reply that it then came to. -/
theorem Ran.replies_paired (hpeer : IsPeer service) (h : Ran uplink client callers) : callers.Matched uplink := by
  have hpaired := h.paired hpeer.proper
  refine
    { served := fun hopened hframe => hpaired.existsUnique_serves hopened hframe
      once := ?_
      answered := fun {handle n answer} hopened hanswer => ?_
      request := fun {thread envelope out report status} hcall hdone hstatus => ?_
      hello := fun {thread name report status} hcall hdone hstatus => ?_
      push := fun {thread envelope report status} hcall hdone hstatus => ?_ }
  · rintro thread handle handle' n n' ⟨call, -, hpost, -⟩ ⟨call', -, hpost', -⟩
    exact hpaired.once hpost hpost' rfl
  -- what was answered was taken up first, and frames are taken up in the order in which they were sent
  · obtain ⟨frame, -, hbegun, hgives⟩ := hpaired.settled.orderly.answer_at hopened hanswer
    exact ⟨frame.asSent, hbegun, hgives⟩
  · obtain ⟨handle, n, reply, hserves, hanswer, hreport⟩ := hpaired.exists_reply hcall hdone hstatus
    obtain ⟨returned, rfl, hout⟩ := Call.of_report?_request hreport hstatus
    refine ⟨handle, n, returned, hserves, hanswer, ?_, fun hnone => hout.trans (Client.writtenBack_of_none hnone)⟩
    rintro passed written rfl rfl
    exact hout
  · obtain ⟨handle, n, reply, hserves, hanswer, hreport⟩ := hpaired.exists_reply hcall hdone hstatus
    obtain rfl := Call.of_report?_hello hreport hstatus
    exact ⟨handle, n, hserves, hanswer⟩
  · obtain ⟨handle, n, reply, -, -, hreport⟩ := hpaired.exists_reply hcall hdone hstatus
    cases hreport

/-! ## A late reply -/

theorem Ran.advance (h : Ran uplink client callers) (thread : Nat) : Ran uplink client (callers.advance uplink thread) := by
  unfold Callers.advance
  split
  · next call pool hcall hstep => exact h.turn hcall hstep
  · exact h

theorem calls_advance (uplink : Uplink service env) (thread : Nat) (callers : Callers σ) :
    (callers.advance uplink thread).calls = callers.calls := by
  unfold Callers.advance
  split <;> rfl

/-- Something goes on at the reactor of the peer. -/
def pass {config : Config} {initial : τ} (events : List (Station.Event τ))
    (callers : Callers (Exchange service config initial)) : Callers (Exchange service config initial) :=
  let exchange := callers.pool.state.world
  callers.withSession { callers.pool.state with
    world := { exchange with station := events.foldl Station.pass exchange.station } }

theorem Ran.pass {config : Config} {initial : τ} {callers : Callers (Exchange service config initial)}
    (h : Ran (Exchange.uplink service config initial) client callers) (events : List (Station.Event τ)) :
    Ran (Exchange.uplink service config initial) client (callers.pass events) :=
  h.drift (Station.moves_foldl_pass events callers.pool.state.world.station)

/-- A host that counts the events that it is given. It replies with their number, and leaves the payload of the last
one in the out-structure. -/
def countingHost : FrameService Nat :=
  Host.service {}
    { name := "counter"
      handle := fun event _ => .change (· + 1) (.look fun n => .done ⟨.ofNat n⟩ (some ⟨1, event.payload⟩)) :
      Handler .component Nat }

/-- A client of the counting host. -/
def countingClient : Client := .ofConfig {} (.local "counter")

/-- One thread asks without an out-structure, and all others pass one. -/
def countedCall (thread : Nat) : Call :=
  if thread = 0 then .request ⟨.ofName "first", 19, [1]⟩ none
  else .request ⟨.ofName "second", 19, [2]⟩ (some ⟨0, [5]⟩)

/-- The poll thread accepts the next peer, and a worker serves what this one has sent. -/
def acceptedAndServed (token : Token) (worker length : Nat) : List (Station.Event Nat) :=
  List.map .move
    ([.look, .wait [.knock], .handle, .accept, .register true, .acceptDone, .handle, .look, .wait [.ready token], .handle,
      .handle, .pop worker, .check worker, .read worker (.chunk length) []] ++ List.replicate 5 (.serve worker))

/-- The uplink of a client to the counting host. -/
abbrev countingUplink : Uplink countingHost (Exchange.environment countingHost {} 0) :=
  Exchange.uplink countingHost {} 0

/-- Nothing happens while the first call waits for its answer; the second one is served while it waits. -/
def slowExchange : Exchange countingHost {} 0 where
  station := .start countingHost {} 0
  course := List.replicate 6 {} ++ [{ events := acceptedAndServed 2 1 26, sizes := [some 64] }]

/-- The first call waits in vain. -/
def firstTimedOut : Callers (Exchange countingHost {} 0) :=
  ((atStart slowExchange).begin (Exchange.environment countingHost {} 0) countingClient (countedCall 0)).advance
    countingUplink 0

/-- The host serves it all the same, and replies to nobody. -/
def firstServedLate : Callers (Exchange countingHost {} 0) :=
  firstTimedOut.pass (acceptedAndServed 1 0 17)

/-- The second call is made when the first one, which was too late, has been served. -/
def secondAnswered : Callers (Exchange countingHost {} 0) :=
  (firstServedLate.begin (Exchange.environment countingHost {} 0) countingClient (countedCall 1)).advance countingUplink 1

/-- All of that is a history: a call, time that passes, and another call. -/
theorem ran_secondAnswered : Ran countingUplink countingClient secondAnswered := by
  have hstart : Ran countingUplink countingClient (atStart slowExchange) := .start fun _ => rfl
  have htimed : Ran countingUplink countingClient firstTimedOut := (hstart.begin (countedCall 0)).advance 0
  have hlate : Ran countingUplink countingClient firstServedLate := htimed.pass (acceptedAndServed 1 0 17)
  exact (hlate.begin (countedCall 1)).advance 1

theorem calls_secondAnswered : secondAnswered.calls = [countedCall 0, countedCall 1] := by
  have htimed : firstTimedOut.calls = [countedCall 0] := calls_advance countingUplink 0 _
  have hlate : firstServedLate.calls = [countedCall 0] := htimed
  have hdone : secondAnswered.calls = firstServedLate.calls ++ [countedCall 1] := calls_advance countingUplink 1 _
  rw [hdone, hlate]
  rfl

/-- The second call gives two as its status, the number of its own event, and not the one that is late. Its caller finds
the payload of that event where the out-structure was that it had passed. -/
theorem secondAnswered_replies_paired :
    IsPeer countingHost ∧ Ran countingUplink countingClient secondAnswered
      ∧ secondAnswered.pool.threads.map Routine.value?
        = [some { result := .error (.timeout (.ofSeconds 1)) }, some ⟨.ok (some ⟨2⟩), some ⟨1, [2]⟩⟩]
      ∧ countedCall 1 = .request ⟨.ofName "second", 19, [2]⟩ (some ⟨0, [5]⟩)
      ∧ ∃ (handle : Handle) (n : Nat), secondAnswered.Serves countingUplink 1 handle n
        ∧ ((countingUplink.peer secondAnswered.pool.state.world).answered handle)[n]?
          = some (.reply (.reply ⟨2⟩ (some ⟨1, [2]⟩))) := by
  have hvalues : secondAnswered.pool.threads.map Routine.value?
      = [some { result := .error (.timeout (.ofSeconds 1)) }, some ⟨.ok (some ⟨2⟩), some ⟨1, [2]⟩⟩] := by
    decide +kernel
  have hsecond : (secondAnswered.pool.threads.map Routine.value?)[1]? = some (some ⟨.ok (some ⟨2⟩), some ⟨1, [2]⟩⟩) := by
    rw [hvalues]
    rfl
  rw [List.getElem?_map] at hsecond
  obtain ⟨routine, hroutine, hvalue⟩ := Option.map_eq_some_iff.mp hsecond
  rw [Pool.eq_done_of_value? hvalue] at hroutine
  have hcall : secondAnswered.calls[1]? = some (countedCall 1) := by
    rw [calls_secondAnswered]
    rfl
  have hpeer : IsPeer countingHost := .host {} _
  obtain ⟨handle, n, returned, hserves, hanswer, hwritten, hkept⟩ :=
    (Ran.replies_paired hpeer ran_secondAnswered).request hcall hroutine rfl
  refine ⟨hpeer, ran_secondAnswered, hvalues, rfl, handle, n, hserves, ?_⟩
  -- the out-structure differs from the one that was passed, so the reply carries one
  cases returned with
  | none => exact absurd (hkept (.inr rfl)) (by decide)
  | some written =>
    obtain rfl := Option.some.inj (hwritten _ written rfl rfl)
    exact hanswer

end Callers

end EventBus
