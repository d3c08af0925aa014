import EventBus.Proofs.Reactor.Readers
import EventBus.Reactor.Echo

/-!
# What a service is told of a connection

A connection is opened once, then chunks are received on it, and then it is closed once, whoever closes it: its worker,
the poll thread or a shutdown.

* `Life`: what a service may be told of one connection, in order.
* `Stands`: how a connection stands with the service. It is open exactly between the first thing that the service is
  told of it and the last one. `Stands.step`: every step keeps it, for all connections.
* `closing_ends`: when all threads have stopped, as many connections as are left can be closed, and then the shutdown
  can return.
* `Lived`, `Ran.lived`: what holds of all connections after any moves.
-/

namespace EventBus

/-- The connection of which a service is told. -/
def Callback.token : Callback → Token
  | opened token | received token _ | closed token => token

/-- What a service may be told of a connection, from the first time to the last. -/
inductive Life (token : Token) : List Callback → Prop where
  | unborn : Life token []
  | running (chunks : List Bytes) : Life token (.opened token :: chunks.map (.received token))
  | ended (chunks : List Bytes) : Life token (.opened token :: chunks.map (.received token) ++ [.closed token])

namespace Reactor

variable {τ : Type} {service : Service τ} {stir : τ → τ → Prop} {config : Config} {initial : τ}
  {r r' r'' kept : Reactor τ} {move : Move} {moves : List Move} {token other : Token} {callback : Callback}

/-- What the service was told of a connection, in order. -/
def told (r : Reactor τ) (token : Token) : List Callback :=
  r.callbacks.reverse.filter fun callback => callback.token = token

/-- What the service is told of a connection are the callbacks about it. -/
theorem mem_told : callback ∈ r.told token ↔ callback ∈ r.callbacks ∧ callback.token = token := by
  rw [told, List.mem_filter, List.mem_reverse, decide_eq_true_eq]

/-- A callback more is told last, and only to whom it is about. -/
theorem told_of_callbacks (h : r'.callbacks = callback :: r.callbacks) (token : Token) :
    r'.told token = r.told token ++ if callback.token = token then [callback] else [] := by
  rw [told, h, List.reverse_cons, List.filter_append, told]
  by_cases hsame : callback.token = token
  · simp [hsame]
  · simp [hsame]

/-! ## How a connection stands -/

/-- How a connection stands with the service, and whether it is open. -/
inductive Stands (r : Reactor τ) (token : Token) : Prop where
  | unborn (htold : r.told token = []) (hchunks : r.chunks token = []) (hconn : r.connection? token = none)
  | running (htold : r.told token = .opened token :: (r.chunks token).map (.received token))
      (hopen : (r.connection? token).isSome)
  | ended (htold : r.told token = .opened token :: (r.chunks token).map (.received token) ++ [.closed token])
      (hconn : r.connection? token = none)

/-- A connection stands as before when nothing is told of it and it is neither opened nor closed. -/
theorem Stands.of_same (h : r.Stands token) (htold : r'.told token = r.told token)
    (hchunks : r'.chunks token = r.chunks token)
    (hopen : (r'.connection? token).isSome = (r.connection? token).isSome) : r'.Stands token := by
  have hnone : r.connection? token = none → r'.connection? token = none := by
    intro hconn
    rwa [← Option.isNone_iff_eq_none, ← Option.not_isSome, hopen, Option.not_isSome, Option.isNone_iff_eq_none]
  cases h with
  | unborn hempty hfresh hconn => exact .unborn (htold.trans hempty) (hchunks.trans hfresh) (hnone hconn)
  | running htrace hbefore => exact .running (by rw [htold, hchunks, htrace]) (hopen.trans hbefore)
  | ended htrace hconn => exact .ended (by rw [htold, hchunks, htrace]) (hnone hconn)

/-- Being told of another connection changes nothing for this one. -/
theorem Stands.of_other (h : r.Stands token) (hcallbacks : r'.callbacks = callback :: r.callbacks)
    (hother : callback.token ≠ token) (hopen : (r'.connection? token).isSome = (r.connection? token).isSome) :
    r'.Stands token := by
  refine h.of_same ?_ ?_ hopen
  · rw [told_of_callbacks hcallbacks, if_neg hother, List.append_nil]
  · rw [chunks_of_callbacks hcallbacks]
    cases callback with
    | received t chunk =>
      have hnone : (Callback.received t chunk).chunkOf? token = none := if_neg hother
      rw [hnone]
      exact List.append_nil _
    | opened | closed => exact List.append_nil _

/-- An open connection was opened and not closed. -/
theorem Stands.told_of_isSome (h : r.Stands token) (hopen : (r.connection? token).isSome) :
    r.told token = .opened token :: (r.chunks token).map (.received token) := by
  cases h with
  | unborn htold hchunks hconn =>
    rw [hconn] at hopen
    cases hopen
  | running htold => exact htold
  | ended htold hconn =>
    rw [hconn] at hopen
    cases hopen

theorem stands_start (config : Config) (state : τ) (token : Token) : (start config state).Stands token :=
  .unborn rfl rfl rfl

/-- A connection of which nothing was told is opened. -/
theorem Stands.opened (h : r.Stands token) (hfresh : Callback.opened token ∉ r.callbacks)
    (hcallbacks : r'.callbacks = .opened token :: r.callbacks) (hopen : (r'.connection? token).isSome) :
    r'.Stands token := by
  -- whatever is told of a connection begins with its opening, so nothing was told yet
  have hunopened : ∀ rest, r.told token ≠ .opened token :: rest := by
    intro rest htold
    have hmem : Callback.opened token ∈ r.told token := by
      rw [htold]
      exact List.mem_cons_self
    exact hfresh (mem_told.mp hmem).1
  cases h with
  | unborn htold hchunks hconn =>
    refine .running ?_ hopen
    rw [told_of_callbacks hcallbacks, chunks_of_callbacks hcallbacks, htold, hchunks]
    simp [Callback.token, Callback.chunkOf?]
  | running htold => exact absurd htold (hunopened _)
  | ended htold => exact absurd htold (hunopened _)

/-- An open connection is given a chunk. -/
theorem Stands.received (h : r.Stands token) (hsome : (r.connection? token).isSome) {chunk : Bytes}
    (hcallbacks : r'.callbacks = .received token chunk :: r.callbacks)
    (hopen : (r'.connection? token).isSome = (r.connection? token).isSome) : r'.Stands token := by
  refine .running ?_ (hopen.trans hsome)
  rw [told_of_callbacks hcallbacks, chunks_of_callbacks hcallbacks, h.told_of_isSome hsome]
  simp [Callback.token, Callback.chunkOf?]

/-- An open connection is closed. -/
theorem Stands.closed (h : r.Stands token) (hsome : (r.connection? token).isSome)
    (hcallbacks : r'.callbacks = .closed token :: r.callbacks) (hopen : r'.connection? token = none) :
    r'.Stands token := by
  refine .ended ?_ hopen
  rw [told_of_callbacks hcallbacks, chunks_of_callbacks hcallbacks, h.told_of_isSome hsome]
  simp [Callback.token, Callback.chunkOf?]

/-- A connection that was given a chunk was read by a worker, so it is open. -/
theorem isSome_of_received (hstep : r.step? service move = some r') {chunk : Bytes}
    (hcallbacks : r'.callbacks = .received token chunk :: r.callbacks) : (r.connection? token).isSome := by
  have hchunks : r'.chunks token = r.chunks token ++ [chunk] := by
    rw [chunks_of_callbacks hcallbacks]
    simp [Callback.chunkOf?]
  cases step?_reading hstep token with
  | nothing hequal =>
    -- there is one chunk more, so the step was a reading
    have hlength := congrArg List.length (hequal.symm.trans hchunks)
    rw [List.length_append, List.length_singleton] at hlength
    omega
  | received worker read hworker hbefore => exact hbefore

/-- Every step leaves every connection standing, if new connections get new tokens. -/
theorem Stands.step (h : ∀ token, r.Stands token) (hnumbered : Numbered r) (hfew : r.sockets.size < UInt64.size)
    (hstep : r.step? service move = some r') (token : Token) : r'.Stands token := by
  have hstands := h token
  cases step?_tells hstep with
  | nothing hstate hcallbacks hopen hnext hgrown hmore hserving =>
    refine hstands.of_same ?_ ?_ (hopen token)
    · rw [told, hcallbacks, told]
    · rw [chunks, hcallbacks, chunks]
  | opened hbacklog hstate hcallbacks hopen hnext hgrown hsockets hserving =>
    -- the connection that is opened is unborn: its token was given to nobody
    by_cases hnew : r.nextToken = token
    · subst hnew
      refine hstands.opened (hnumbered.not_mem_opened hfew hbacklog) hcallbacks ?_
      rw [hopen, beq_self_eq_true, Bool.or_true]
    · refine hstands.of_other hcallbacks hnew ?_
      rw [hopen, beq_false_of_ne hnew, Bool.or_false]
  | received t inbox chunk answers hstate hcallbacks hopen hnext hbacklog hsockets hserving =>
    by_cases hsame : t = token
    · subst hsame
      exact hstands.received (isSome_of_received hstep hcallbacks) hcallbacks (by rw [hopen])
    · exact hstands.of_other hcallbacks hsame (by rw [hopen])
  | turned worker t routine hworker hstate hcallbacks hopen hnext hbacklog hsockets hserving =>
    refine hstands.of_same ?_ ?_ (by rw [hopen])
    · rw [told, hcallbacks, told]
    · rw [chunks, hcallbacks, chunks]
  | closed t conn hconn hstate hcallbacks hopen hnext hbacklog hsockets hserving =>
    by_cases hsame : t = token
    · subst hsame
      exact hstands.closed (by rw [hconn]; rfl) hcallbacks (by rw [hopen, if_pos rfl])
    · exact hstands.of_other hcallbacks hsame (by rw [hopen, if_neg (Ne.symm hsame)])

/-- After any moves, each connection stands with the service in one of the three ways. -/
theorem Reachable.stands (h : Reachable service stir config initial r) (hfew : r.sockets.size < UInt64.size)
    (token : Token) : r.Stands token := by
  induction h generalizing token with
  | start => exact stands_start config initial token
  | step h hstep ih =>
    have hbefore := Nat.lt_of_le_of_lt (step?_tells hstep).sockets_le hfew
    exact Stands.step (ih hbefore) (h.custody hbefore).2 hbefore hstep token
  | stir h hstir ih => exact (ih hfew token).of_same rfl rfl rfl

/-! ## The end of a shutdown -/

/-- When the threads have stopped, no connection is opened any more. -/
theorem Custody.lasts (h : Custody r) (hthreads : r.lifecycle.hasThreads = false)
    (hstep : r.step? service move = some r') : Lasts r r' := by
  rcases step?_lasts hstep with hlasts | ⟨hpoll, -⟩
  · exact hlasts
  · rw [h.hasThreads_of_poll hpoll] at hthreads
    cases hthreads

/-- Where nothing is found under any token there is no entry. -/
theorem eq_nil_of_get? {α : Type} {entries : ByToken α} (h : ∀ token, entries.get? token = none) : entries = [] := by
  cases entries with
  | nil => rfl
  | cons entry rest =>
    have hfirst := h entry.1
    rw [ByToken.get?_cons, if_pos rfl] at hfirst
    cases hfirst

/-- To close sockets is not to close connections. -/
theorem connections_closeSockets (sockets : List Nat) (r : Reactor τ) :
    (sockets.foldl closeSocket r).connections = r.connections := by
  induction sockets generalizing r with
  | nil => rfl
  | cons socket sockets ih => exact (ih _).trans rfl

/-- A shutdown returns when no connection is left. -/
theorem finished_of_step (hstep : r.step? service move = some r') (hlife : r'.lifecycle = .finished) :
    r.lifecycle = .finished ∨ r'.connections = [] := by
  -- one step of a shutdown ends it, and that one closes no connection before it
  cases step?_steps hstep with
  | outer hsteps =>
    cases hsteps with
    | dial | sends | ends | disconnect => exact .inl hlife
  | poll hsteps =>
    cases hsteps with
    | look | waitFails | handled | knocked | queued | rejected | accept | acceptDone => exact .inl hlife
    | wait =>
      rw [fetch_eq] at hlife
      exact .inl hlife
    | @register t events ok => exact .inl ((handBack_frame service t ok r).2.2.2.symm.trans hlife)
    | @rearmRejected t events ok => exact .inl ((handBack_frame service t ok r).2.2.2.symm.trans hlife)
  | worker hsteps =>
    cases hsteps with
    | popStop | popConnection | check | readChunk | readOther | turn | rearmFailed => exact .inl hlife
    | @conclude worker t reaction conn => exact .inl ((sameTold_conclude t conn reaction r).lifecycle.symm.trans hlife)
    | @handBack worker t move ok => exact .inl ((handBack_frame service t ok r).2.2.2.symm.trans hlife)
  | shutdown hsteps =>
    cases hsteps with
    | shutDown | pushStops | join => cases hlife
    | shutDownAgain => exact .inl hlife
    | closeNext => exact .inl ((tearDown_lifecycle ..).symm.trans hlife)
    | finish hclosing hnone =>
      exact .inr ((connections_closeSockets r.backlog r).trans (List.isEmpty_iff.mp hnone))

/-- A reactor that was shut down has no connections. -/
theorem Reachable.connections_of_finished (h : Reachable service stir config initial r)
    (hfew : r.sockets.size < UInt64.size) (hlife : r.lifecycle = .finished) : r.connections = [] := by
  induction h with
  | start => rfl
  | stir h hstir ih => exact ih hfew hlife
  | @step before after move h hstep ih =>
    have hbefore := Nat.lt_of_le_of_lt (step?_tells hstep).sockets_le hfew
    rcases finished_of_step hstep hlife with hfinished | hnone
    · -- it was shut down before, and no connection was opened since
      have hlasts := (h.custody hbefore).1.lasts (by rw [hfinished]; rfl) hstep
      have hnothing := ih hbefore hfinished
      refine eq_nil_of_get? fun token => ?_
      cases hconn : ByToken.get? token after.connections with
      | none => rfl
      | some conn =>
        obtain ⟨earlier, hearlier, -⟩ := hlasts token conn hconn
        rw [connection?, hnothing] at hearlier
        cases hearlier
    · exact hnone

/-- A shutdown can always close the next connection that is left. -/
theorem step?_closeNext {conn : Connection} {rest : ByToken Connection} (hlife : r.lifecycle = .closing)
    (hconnections : r.connections = (token, conn) :: rest) :
    r.step? service .closeNext = some (r.tearDown service token) := by
  show r.shutdownStep? service .closeNext = _
  unfold shutdownStep?
  simp only [hlife, hconnections]

theorem length_connections_tearDown (service : Service τ) {conn : Connection} {rest : ByToken Connection}
    (hconnections : r.connections = (token, conn) :: rest) :
    (r.tearDown service token).connections.length < r.connections.length := by
  have hconn : r.connection? token = some conn := by
    rw [connection?, hconnections, ByToken.get?_cons, if_pos rfl]
  rw [tearDown, hconn]
  show (r.connections.erase token).length < r.connections.length
  rw [hconnections, ByToken.erase_cons, if_pos rfl]
  exact Nat.lt_succ_of_le (List.length_filter_le ..)

/-- When the threads have stopped, the connections that are left are closed one after the other, and then the shutdown
returns. -/
theorem closing_ends (service : Service τ) {r : Reactor τ} (hlife : r.lifecycle = .closing) :
    ∃ n r', r.moves? service (List.replicate n .closeNext ++ [.finish]) = some r' ∧ r'.lifecycle = .finished := by
  -- each close takes a connection off the list, so the induction is on how many are left
  induction hn : r.connections.length using Nat.strongRecOn generalizing r with
  | ind n ih =>
    subst hn
    cases hconnections : r.connections with
    | nil =>
      refine ⟨0, { r.backlog.foldl closeSocket r with backlog := [], lifecycle := .finished }, ?_, rfl⟩
      have hfinish : r.step? service .finish
          = some { r.backlog.foldl closeSocket r with backlog := [], lifecycle := .finished } := by
        show r.shutdownStep? service .finish = _
        unfold shutdownStep?
        simp [hlife, hconnections]
      simp [moves?, hfinish]
    | cons entry rest =>
      obtain ⟨token, conn⟩ := entry
      have hshorter := length_connections_tearDown service hconnections
      obtain ⟨n, r', hmoves, hfinished⟩ := ih _ hshorter (by rw [tearDown_lifecycle, hlife]) rfl
      refine ⟨n + 1, r', ?_, hfinished⟩
      rw [List.replicate_succ, List.cons_append, moves?, step?_closeNext hlife hconnections]
      exact hmoves

/-! ## All connections -/

/-- What holds of the connections of a reactor. -/
structure Lived (service : Service τ) (stir : τ → τ → Prop) (r : Reactor τ) : Prop where
  /-- The service is told that a connection opens, then what is received on it, then once that it closes. -/
  life : ∀ token, Life token (r.told token)
  isOpen : ∀ token, (r.connection? token).isSome ↔ .opened token ∈ r.callbacks ∧ .closed token ∉ r.callbacks
  /-- Whoever asks for a connection to be closed, and finds it, may see one more chunk received on it, and no second
  one. -/
  disconnected : ∀ token r', r.step? service (.disconnect token) = some r' → ∀ r'', Onward service stir r' r'' →
    r''.sockets.size < UInt64.size → (r''.chunks token).length ≤ (r.chunks token).length + 1
  /-- When the threads have stopped, the shutdown closes the connections that are left, and returns. -/
  ends : r.lifecycle = .closing →
    ∃ n r', r.moves? service (List.replicate n .closeNext ++ [.finish]) = some r' ∧ r'.lifecycle = .finished
  /-- When the shutdown has returned, no connection is left, and the service was told of each that it is closed. -/
  finished : r.lifecycle = .finished → r.size = 0 ∧ ∀ token, .opened token ∈ r.callbacks →
    r.told token = .opened token :: (r.chunks token).map (.received token) ++ [.closed token]

/-- However a connection stands, what was told of it is one of the lives. -/
theorem Stands.life (h : r.Stands token) : Life token (r.told token) := by
  cases h with
  | unborn htold hchunks hconn =>
    rw [htold]
    exact .unborn
  | running htold hopen =>
    rw [htold]
    exact .running _
  | ended htold hconn =>
    rw [htold]
    exact .ended _

/-- A connection is open when it was opened and not closed, which the callbacks show. -/
theorem Stands.isSome_iff (h : r.Stands token) :
    (r.connection? token).isSome ↔ .opened token ∈ r.callbacks ∧ .closed token ∉ r.callbacks := by
  have hopened : .opened token ∈ r.callbacks ↔ .opened token ∈ r.told token := by simp [mem_told, Callback.token]
  have hclosed : .closed token ∈ r.callbacks ↔ .closed token ∈ r.told token := by simp [mem_told, Callback.token]
  rw [hopened, hclosed]
  cases h with
  | unborn htold hchunks hconn => simp [htold, hconn]
  | running htold hopen => simp [htold, hopen]
  | ended htold hconn => simp [htold, hconn]

/-- Asking for a connection to be closed has it shut, and nothing is received meanwhile. -/
theorem shut_of_disconnect (hnumbered : Numbered r) (hstep : r.step? service (.disconnect token) = some r') :
    r'.Shut token ∧ r'.chunks token = r.chunks token := by
  have hclosed : (r.connection? token).map (fun conn => r.close token conn) = some r' := hstep
  obtain ⟨conn, hconn, rfl⟩ := Option.map_eq_some_iff.mp hclosed
  have hopened := hnumbered.known token (by rw [hconn]; rfl)
  refine ⟨⟨hopened, fun after hafter => ?_⟩, rfl⟩
  have hmarked := connection?_modifyConnection token (fun conn => { conn with closing := true }) r token
  rw [if_pos rfl, hconn] at hmarked
  have hsame := hmarked.symm.trans hafter
  cases hsame
  rfl

/-- **Lifetimes of connections.** After any moves, as long as there were fewer than `2 ^ 64` peers: what a service is
told of a connection is that it opens, then chunks, then once that it closes; behind a request to close it at most one
more chunk is received; and when a shutdown has returned, all connections were closed. -/
theorem Ran.lived (h : Ran service stir config initial moves r) (hfew : r.sockets.size < UInt64.size) :
    Lived service stir r := by
  have hreachable := h.reachable
  have hstands := hreachable.stands hfew
  constructor
  case life => exact fun token => (hstands token).life
  case isOpen => exact fun token => (hstands token).isSome_iff
  case disconnected =>
    intro token r' hstep r'' honward hfew'
    -- from here on the connection is shut, and one worker at most had looked before that
    obtain ⟨hshut, hsame⟩ := shut_of_disconnect (hreachable.custody hfew).2 hstep
    obtain ⟨-, hchunks⟩ := honward.chunks_le (hreachable.step hstep) hshut hfew'
    rw [hsame] at hchunks
    omega
  case ends => exact closing_ends service
  case finished =>
    intro hlife
    have hnone := hreachable.connections_of_finished hfew hlife
    refine ⟨by rw [size, hnone]; rfl, fun token hopened => ?_⟩
    have hmem : .opened token ∈ r.told token := mem_told.mpr ⟨hopened, rfl⟩
    cases hstands token with
    | unborn htold hchunks hconn =>
      rw [htold] at hmem
      cases hmem
    | running htold hopen =>
      rw [connection?, hnone] at hopen
      cases hopen
    | ended htold hconn => exact htold

/-- Two peers dial, and a worker has looked after the first one when somebody asks for it to be closed: it still reads
one chunk, and leaves the next one. Then the reactor is shut down, twice, and closes the second connection. -/
def partingMoves : List Move :=
  [.dial, .dial, .look, .wait [.knock], .handle, .accept, .register true, .accept, .register true, .acceptDone, .handle,
    .sends 0 [1, 2, 3], .look, .wait [.ready 1], .handle, .handle, .pop 0, .check 0, .disconnect 1,
    .read 0 (.chunk 2) [], .serve 0, .serve 0, .check 0, .leave 0, .shutDown, .shutDown, .look, .pushStops, .pop 0,
    .pop 1, .join, .closeNext, .finish]

/-- Two peers, one of which sends: the connections are closed by the shutdown, and the service is told so. -/
theorem parted_lived :
    ∃ r, Ran (Echo.service false .zero) (fun _ _ => False) { workers := 2 } [] partingMoves r
      ∧ r.sockets.size < UInt64.size ∧ r.lifecycle = .finished
      ∧ r.told 1 = [.opened 1, .received 1 [1, 2], .closed 1] ∧ r.told 2 = [.opened 2, .closed 2]
      ∧ Lived (Echo.service false .zero) (fun _ _ => False) r := by
  have hrun : ((Reactor.start { workers := 2 } []).moves? (Echo.service false .zero) partingMoves).any (fun r =>
      r.sockets.size < UInt64.size && r.lifecycle = .finished && r.told 1 = [.opened 1, .received 1 [1, 2], .closed 1]
        && r.told 2 = [.opened 2, .closed 2]) = true := by
    decide +kernel
  rw [Option.any_eq_true] at hrun
  obtain ⟨r, hmoves, hholds⟩ := hrun
  simp only [Bool.and_eq_true, decide_eq_true_eq] at hholds
  obtain ⟨⟨⟨hfew, hlife⟩, hfirst⟩, hsecond⟩ := hholds
  have hran : Ran (Echo.service false .zero) (fun _ _ => False) { workers := 2 } [] partingMoves r :=
    Ran.start.of_moves? hmoves
  exact ⟨r, hran, hfew, hlife, hfirst, hsecond, hran.lived hfew⟩

end Reactor

end EventBus
