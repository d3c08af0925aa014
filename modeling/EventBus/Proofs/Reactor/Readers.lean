import EventBus.Proofs.Reactor.Feed

/-!
# Who may still read

A worker looks whether its connection is to be closed each time before it reads, so a connection that is to be closed is
read at most once more: by the worker that had looked before.

* `Lasts`: a connection that is open after an operation was open before it, and is to be closed if it was to be before.
* `Reading`: what a step does to those who are about to read from a connection, and to the chunks that were received on
  it. `step?_reading` proves it of every step.
* `Shut`: a connection is to be closed, or is closed. `Shut.step`: it stays so, as tokens are not given out again.
* `Onward`: what becomes of a reactor. `Onward.chunks_le`: behind a connection that is shut, one more chunk may be
  received, and none more as soon as no worker is about to read.
-/

namespace EventBus.Reactor

variable {τ : Type} {service : Service τ} {stir : τ → τ → Prop} {config : Config} {initial : τ}
  {r r' r'' kept : Reactor τ} {move : Move} {token : Token} {worker other : Nat}

/-! ## Connections that last -/

/-- No connection is opened by an operation, and none that is to be closed gets another chance. -/
def Lasts (r kept : Reactor τ) : Prop :=
  ∀ token conn, kept.connection? token = some conn →
    ∃ before, r.connection? token = some before ∧ (before.closing = true → conn.closing = true)

theorem Lasts.of_eq (h : kept.connections = r.connections) : Lasts r kept := by
  intro token conn hconn
  refine ⟨conn, ?_, id⟩
  rwa [connection?, h] at hconn

theorem Lasts.refl (r : Reactor τ) : Lasts r r :=
  .of_eq rfl

theorem Lasts.trans (h : Lasts r r') (h' : Lasts r' kept) : Lasts r kept := by
  intro token conn hconn
  obtain ⟨middle, hmiddle, hcloses⟩ := h' token conn hconn
  obtain ⟨before, hbefore, hcloses'⟩ := h token middle hmiddle
  exact ⟨before, hbefore, fun hclosing => hcloses (hcloses' hclosing)⟩

/-- A change of a connection does not take its mark off. -/
theorem lasts_modifyConnection {f : Connection → Connection}
    (hf : ∀ conn, conn.closing = true → (f conn).closing = true) (token : Token) (r : Reactor τ) :
    Lasts r (r.modifyConnection token f) := by
  intro other conn hconn
  rw [connection?_modifyConnection] at hconn
  split at hconn
  · obtain ⟨before, hbefore, rfl⟩ := Option.map_eq_some_iff.mp hconn
    exact ⟨before, hbefore, hf before⟩
  · exact ⟨conn, hconn, id⟩

theorem lasts_tearDown (service : Service τ) (token : Token) (r : Reactor τ) : Lasts r (r.tearDown service token) := by
  intro other conn hconn
  rw [connection?_tearDown] at hconn
  split at hconn
  · cases hconn
  · exact ⟨conn, hconn, id⟩

theorem lasts_handBack (service : Service τ) (token : Token) (ok : Bool) (r : Reactor τ) :
    Lasts r (r.handBack service token ok) := by
  cases ok with
  | true => exact lasts_modifyConnection (f := fun conn => { conn with armed := true }) (fun _ => id) token r
  | false => exact lasts_tearDown service token r

/-- A connection that is asked to close is the same with its mark. -/
theorem lasts_close (token : Token) (conn : Connection) (r : Reactor τ) : Lasts r (r.close token conn) := by
  have hmarked : Lasts r (r.modifyConnection token fun conn => { conn with closing := true }) :=
    lasts_modifyConnection (fun _ _ => rfl) token r
  exact hmarked.trans (.of_eq rfl)

/-- The end of a chunk opens nothing, whether it asks for the connection to be closed or not. -/
theorem lasts_conclude (token : Token) (conn : Connection) (reaction : Reaction) (r : Reactor τ) :
    Lasts r (r.conclude token conn reaction) := by
  have hwritten : Lasts r (r.modifySocket conn.socket fun socket =>
      { socket with outgoing := reaction.written.reverse ++ socket.outgoing }) := .of_eq rfl
  have hkept := hwritten.trans (lasts_modifyConnection (f := fun conn => { conn with inbox := reaction.inbox })
    (fun _ => id) token _)
  unfold conclude
  -- with or without the request to close
  split
  · exact hkept.trans (lasts_close token conn _)
  · exact hkept

/-- To find connections ready disarms them and keeps their marks. -/
theorem lasts_fetch (events : List PollEvent) (r : Reactor τ) : Lasts r (r.fetch events) := by
  intro token conn hconn
  rw [connection?_fetch] at hconn
  split at hconn
  · obtain ⟨before, hbefore, rfl⟩ := Option.map_eq_some_iff.mp hconn
    exact ⟨before, hbefore, id⟩
  · exact ⟨conn, hconn, id⟩

theorem lasts_closeSockets (sockets : List Nat) (r : Reactor τ) : Lasts r (sockets.foldl closeSocket r) := by
  induction sockets generalizing r with
  | nil => exact .refl r
  | cons socket sockets ih =>
    have hclosed : Lasts r (r.closeSocket socket) := .of_eq rfl
    exact hclosed.trans (ih _)

/-- A connection that is open behind a step was open before, unless the poll thread accepted it. -/
theorem step?_lasts (h : r.step? service move = some r') :
    Lasts r r' ∨ r.poll ≠ .stopped ∧ r.backlog ≠ [] ∧ ∀ token conn, r'.connection? token = some conn →
      r.connection? token = some conn ∨ r.connection? token = none ∧ token = r.nextToken := by
  cases step?_steps h with
  | outer hsteps =>
    refine .inl ?_
    cases hsteps with
    | dial | sends | ends => exact .of_eq rfl
    | @disconnect token conn hconn => exact lasts_close token conn r
  | poll hsteps =>
    cases hsteps with
    | look | waitFails | handled | knocked | queued | rejected | acceptDone => exact .inl (.of_eq rfl)
    | @wait events => exact .inl (lasts_fetch events r)
    | @accept events socket backlog hpoll hbacklog =>
      -- the only step that opens a connection, and it gives it the next token
      refine .inr ⟨by rw [hpoll]; simp, by rw [hbacklog]; simp, fun token conn hconn => ?_⟩
      have henrolled : (r.connection? token).or (if r.nextToken = token then some { socket } else none)
          = some conn := by
        rw [← connection?_enroll service socket backlog]
        exact hconn
      cases hbefore : r.connection? token with
      | some before =>
        rw [hbefore, Option.some_or] at henrolled
        exact .inl henrolled
      | none =>
        rw [hbefore, Option.none_or] at henrolled
        split at henrolled
        · next hnew => exact .inr ⟨rfl, hnew.symm⟩
        · cases henrolled
    | @register token events ok => exact .inl (lasts_handBack service token ok r)
    | @rearmRejected token events ok => exact .inl (lasts_handBack service token ok r)
  | worker hsteps =>
    refine .inl ?_
    cases hsteps with
    | popStop | popConnection | check | readChunk | readOther | turn | rearmFailed => exact .of_eq rfl
    | @conclude worker token reaction conn => exact lasts_conclude token conn reaction r
    | @handBack worker token move ok => exact lasts_handBack service token ok r
  | shutdown hsteps =>
    refine .inl ?_
    cases hsteps with
    | shutDown | shutDownAgain | pushStops | join => exact .of_eq rfl
    | @closeNext token => exact lasts_tearDown service token r
    | finish => exact lasts_closeSockets r.backlog r

/-! ## Workers that are about to read -/

/-- A worker has seen that its connection is not to be closed, and is about to read from it. -/
def Reads (r : Reactor τ) (worker : Nat) (token : Token) : Prop :=
  r.workers[worker]? = some (.reading token)

/-- What a step does to those who are about to read from a connection. -/
inductive Reading (r r' : Reactor τ) (token : Token) : Prop where
  /-- Nothing is received, and nobody gets about to read unless the connection is open and not to be closed. -/
  | nothing (hchunks : r'.chunks token = r.chunks token)
      (hreads : ∀ worker, r'.Reads worker token → r.Reads worker token
        ∨ ∃ conn, r.connection? token = some conn ∧ conn.closing = false)
  | received (worker : Nat) (chunk : Bytes) (hworker : r.Reads worker token) (hopen : (r.connection? token).isSome)
      (hchunks : r'.chunks token = r.chunks token ++ [chunk])
      (hreads : ∀ other, r'.Reads other token → other ≠ worker ∧ r.Reads other token)

/-- A worker that turns to something else than reading leaves only the others about to read. -/
theorem reads_of_setWorker {next : Worker τ} (h : kept.workers = r.workers) (hnext : next ≠ .reading token)
    (hreads : (kept.setWorker worker next).Reads other token) : other ≠ worker ∧ r.Reads other token := by
  rw [Reads, getElem?_setWorker] at hreads
  split at hreads
  · exact absurd (Option.some.inj hreads) hnext
  · next hother =>
    rw [h] at hother hreads
    refine ⟨?_, hreads⟩
    rintro rfl
    exact hother ⟨rfl, (Array.getElem?_eq_some_iff.mp hreads).1⟩

/-- Without a chunk and with the workers as they were, nobody new is about to read. -/
theorem Reading.of_workers (hchunks : r'.chunks token = r.chunks token) (hworkers : r'.workers = r.workers) :
    Reading r r' token := by
  refine .nothing hchunks fun worker hreads => .inl ?_
  rwa [Reads, hworkers] at hreads

/-- Without a chunk, and with one worker that turns to something else than reading, nobody new is about to read. -/
theorem Reading.of_setWorker {next : Worker τ} (hchunks : kept.chunks token = r.chunks token)
    (hworkers : kept.workers = r.workers) (hnext : next ≠ .reading token) :
    Reading r (kept.setWorker worker next) token :=
  .nothing hchunks fun _ hreads => .inl (reads_of_setWorker hworkers hnext hreads).2

/-- Peers, and those who ask for connections to be closed, read nothing. -/
theorem reading_outerSteps (h : OuterSteps r move r') (token : Token) : Reading r r' token := by
  cases h with
  | dial | sends | ends | disconnect => exact .of_workers rfl rfl

/-- The poll thread reads nothing either: it only says which connections are ready. -/
theorem reading_pollSteps (h : PollSteps service r move r') (token : Token) : Reading r r' token := by
  cases h with
  | look | waitFails | handled | knocked | queued | rejected | acceptDone => exact .of_workers rfl rfl
  | @wait events => exact .of_workers ((sameFeed_fetch events r).chunks token) (by rw [fetch_eq])
  | accept =>
    refine .of_workers ?_ rfl
    rw [chunks_of_callbacks (r := r) rfl]
    exact List.append_nil _
  | @register t events ok =>
    exact .of_workers ((sameFeed_handBack service t ok r).chunks token) (handBack_frame service t ok r).2.1
  | @rearmRejected t events ok =>
    exact .of_workers ((sameFeed_handBack service t ok r).chunks token) (handBack_frame service t ok r).2.1

/-- A worker gets about to read when it has looked at the mark, and reads when it was about to. -/
theorem reading_workerSteps (h : WorkerSteps service r move r') (token : Token) : Reading r r' token := by
  cases h with
  | popStop | turn | rearmFailed => exact .of_setWorker rfl rfl (by simp)
  | popConnection =>
    refine .of_setWorker rfl rfl ?_
    split <;> simp
  | @check worker t hworker =>
    -- the worker gets about to read only if the connection is open and not to be closed
    refine .nothing rfl fun other hreads => ?_
    rw [Reads, getElem?_setWorker] at hreads
    split at hreads
    · split at hreads
      · next hmay =>
        cases hreads
        cases hconn : r.connection? token with
        | none =>
          rw [hconn] at hmay
          cases hmay
        | some conn =>
          rw [hconn, Option.any_some, Bool.not_eq_true'] at hmay
          exact .inr ⟨conn, rfl, hmay⟩
      · cases hreads
    · exact .inl hreads
  | @readChunk worker t conn socket length answers hworker hconn hcan hsocket =>
    by_cases hsame : t = token
    · subst hsame
      refine .received worker (socket.incoming.take length) hworker (by rw [hconn]; rfl) ?_ fun other hreads =>
        reads_of_setWorker (r := r) rfl (by simp) hreads
      rw [chunks_of_callbacks (r := r) rfl]
      simp [Callback.chunkOf?]
    · refine .nothing ?_ fun other hreads => .inl (reads_of_setWorker (r := r) rfl (by simp) hreads).2
      rw [chunks_of_callbacks (r := r) rfl]
      simp [Callback.chunkOf?, hsame]
  | readOther answers hworker hconn hcan hnext =>
    refine .of_setWorker rfl rfl ?_
    rcases hnext with ⟨-, rfl⟩ | ⟨-, rfl⟩ | ⟨-, rfl⟩ | ⟨-, rfl⟩
    all_goals simp
  | @conclude worker t reaction conn =>
    refine .of_setWorker ((sameFeed_conclude t conn reaction r).chunks token)
      (sameTold_conclude t conn reaction r).workers ?_
    split <;> simp
  | @handBack worker t move ok =>
    exact .of_setWorker ((sameFeed_handBack service t ok r).chunks token) (handBack_frame service t ok r).2.1 (by simp)

theorem reading_shutdownSteps (h : ShutdownSteps service r move r') (token : Token) : Reading r r' token := by
  cases h with
  | shutDown | shutDownAgain | pushStops | join => exact .of_workers rfl rfl
  | @closeNext t =>
    exact .of_workers ((sameFeed_tearDown service t r).chunks token) (tearDown_workers service t r)
  | finish =>
    exact .of_workers ((sameFeed_closeSockets r.backlog r).chunks token) (sameTold_closeSockets r.backlog r).workers

/-- What every step does to those who are about to read. -/
theorem step?_reading (h : r.step? service move = some r') (token : Token) : Reading r r' token := by
  cases step?_steps h with
  | outer hsteps => exact reading_outerSteps hsteps token
  | poll hsteps => exact reading_pollSteps hsteps token
  | worker hsteps => exact reading_workerSteps hsteps token
  | shutdown hsteps => exact reading_shutdownSteps hsteps token

/-! ## Connections that are shut -/

/-- A connection was opened, and is to be closed or is closed. -/
structure Shut (r : Reactor τ) (token : Token) : Prop where
  opened : .opened token ∈ r.callbacks
  closing : ∀ conn, r.connection? token = some conn → conn.closing = true

theorem Tells.callbacks_suffix (h : Tells service r r') : r.callbacks <:+ r'.callbacks := by
  cases h with
  | nothing hstate hcallbacks => exact hcallbacks ▸ List.suffix_refl _
  | opened hbacklog hstate hcallbacks => exact hcallbacks ▸ List.suffix_cons ..
  | received t inbox chunk answers hstate hcallbacks => exact hcallbacks ▸ List.suffix_cons ..
  | turned worker t routine hworker hstate hcallbacks => exact hcallbacks ▸ List.suffix_refl _
  | closed t conn hconn hstate hcallbacks => exact hcallbacks ▸ List.suffix_cons ..

/-- A connection that is shut stays shut: its token is not given to another one. -/
theorem Shut.step (h : r.Shut token) (hnumbered : Numbered r) (hfew : r.sockets.size < UInt64.size)
    (hstep : r.step? service move = some r') : r'.Shut token := by
  refine ⟨(step?_tells hstep).callbacks_suffix.subset h.opened, fun conn hconn => ?_⟩
  rcases step?_lasts hstep with hlasts | ⟨-, hbacklog, haccepted⟩
  · obtain ⟨before, hbefore, hcloses⟩ := hlasts token conn hconn
    exact hcloses (h.closing before hbefore)
  · rcases haccepted token conn hconn with hbefore | ⟨-, rfl⟩
    · exact h.closing conn hbefore
    · exact absurd h.opened (hnumbered.not_mem_opened hfew hbacklog)

/-! ## What becomes of a reactor -/

/-- A reactor comes about from another one, by moves and by changes of the state from outside. -/
inductive Onward (service : Service τ) (stir : τ → τ → Prop) (r : Reactor τ) : Reactor τ → Prop where
  | here : Onward service stir r r
  | step {r' r'' : Reactor τ} {move : Move} (h : Onward service stir r r')
      (hstep : r'.step? service move = some r'') : Onward service stir r r''
  | stir {r' : Reactor τ} {state : τ} (h : Onward service stir r r') (hstir : stir r'.state state) :
    Onward service stir r { r' with state }

/-- What becomes of a reachable reactor is reachable. -/
theorem Onward.reachable (h : Onward service stir r r') (hr : Reachable service stir config initial r) :
    Reachable service stir config initial r' := by
  induction h with
  | here => exact hr
  | step h hstep ih => exact ih.step hstep
  | stir h hstir ih => exact ih.stir hstir

/-- What may still be received on a connection that is shut: one chunk, and then nobody is about to read. -/
theorem Onward.chunks_le (h : Onward service stir r r') (hr : Reachable service stir config initial r)
    (hshut : r.Shut token) (hfew : r'.sockets.size < UInt64.size) :
    r'.Shut token ∧ ((r'.chunks token).length = (r.chunks token).length
      ∨ (r'.chunks token).length = (r.chunks token).length + 1 ∧ ∀ worker, ¬r'.Reads worker token) := by
  induction h with
  | here => exact ⟨hshut, .inl rfl⟩
  | stir h hstir ih =>
    obtain ⟨hshut', hchunks⟩ := ih hfew
    exact ⟨⟨hshut'.opened, hshut'.closing⟩, hchunks⟩
  | @step middle after move h hstep ih =>
    have hbefore := Nat.lt_of_le_of_lt (step?_tells hstep).sockets_le hfew
    obtain ⟨hcustody, hnumbered⟩ := (h.reachable hr).custody hbefore
    -- it was shut already, so that what the step reads was about to be read before
    obtain ⟨hshut', hchunks⟩ := ih hbefore
    refine ⟨hshut'.step hnumbered hbefore hstep, ?_⟩
    cases step?_reading hstep token with
    | nothing hsame hreads =>
      rw [hsame]
      -- nobody gets about to read a connection that is shut
      have hold : ∀ worker, after.Reads worker token → middle.Reads worker token := by
        intro worker hworker
        rcases hreads worker hworker with hbefore | ⟨conn, hconn, hgoes⟩
        · exact hbefore
        · rw [hshut'.closing conn hconn] at hgoes
          cases hgoes
      rcases hchunks with hequal | ⟨hmore, hnobody⟩
      · exact .inl hequal
      · exact .inr ⟨hmore, fun worker hworker => hnobody worker (hold worker hworker)⟩
    | received worker chunk hworker hopen hmore hreads =>
      rcases hchunks with hequal | ⟨-, hnobody⟩
      · refine .inr ⟨by rw [hmore, List.length_append, hequal]; rfl, fun other hother => ?_⟩
        obtain ⟨hne, hboth⟩ := hreads other hother
        exact hne (hcustody.eq_of_worker hboth hworker rfl rfl)
      · exact absurd hworker (hnobody worker)

end EventBus.Reactor
