import EventBus.Proofs.Reactor.Custody
import EventBus.Proofs.Reactor.Telling
import EventBus.Proofs.Routine.Guarantee

/-!
# Reachable reactors

What holds of a reactor after any moves in any order, with changes of the service's state from outside in
between (`stir`).

* `Reachable`: the states that come about.
* `Numbered`: tokens are given out one after the other. `Numbered.not_mem_opened`: the next connection gets a
  token that none had before, as long as there were fewer than `2 ^ 64` sockets.
* `Separate`: what it takes for connections to be served apart from each other, in terms of what serving a
  connection relies on and guarantees.
* `Reachable.wellServed`: every reachable reactor has all of this, and every worker in the middle of a chunk
  keeps its promise.
-/

namespace EventBus.Reactor

variable {τ : Type} {service : Service τ} {stir : τ → τ → Prop} {config : Config} {initial : τ}
  {r r' : Reactor τ} {move : Move} {token : Token}

/-- A reactor comes about from one that was started, by moves and by changes of the state from outside. -/
inductive Reachable (service : Service τ) (stir : τ → τ → Prop) (config : Config) (initial : τ) :
    Reactor τ → Prop where
  | start : Reachable service stir config initial (.start config initial)
  | step {r r' : Reactor τ} {move : Move} (h : Reachable service stir config initial r)
      (hstep : r.step? service move = some r') : Reachable service stir config initial r'
  | stir {r : Reactor τ} {state : τ} (h : Reachable service stir config initial r) (hstir : stir r.state state) :
    Reachable service stir config initial { r with state }

/-- The state after some moves, if all of them are possible. -/
def moves? (service : Service τ) : List Move → Reactor τ → Option (Reactor τ)
  | [], r => some r
  | move :: rest, r => (r.step? service move).bind (moves? service rest)

/-- A computed run leads from one reachable state to another. -/
theorem Reachable.of_moves? (h : Reachable service stir config initial r) {moves : List Move}
    (hmoves : r.moves? service moves = some r') : Reachable service stir config initial r' := by
  induction moves generalizing r with
  | nil =>
    cases hmoves
    exact h
  | cons move rest ih =>
    obtain ⟨next, hstep, hrest⟩ := Option.bind_eq_some_iff.mp hmoves
    exact ih (h.step hstep) hrest

/-! ## Tokens -/

/-- How many connections were opened so far. -/
def openedCount (r : Reactor τ) : Nat :=
  r.callbacks.countP fun
    | .opened _ => true
    | _ => false

/-- Tokens are given out one after the other. -/
structure Numbered (r : Reactor τ) : Prop where
  /-- The next token is the number of the next connection. -/
  next : r.nextToken = UInt64.ofNat (r.openedCount + 1)
  /-- Every connection that was opened or waits has a socket. -/
  few : r.openedCount + r.backlog.length ≤ r.sockets.size
  /-- Tokens that were given out are at most the number of connections so far. -/
  used : ∀ token, .opened token ∈ r.callbacks → token.toNat ≤ r.openedCount
  known : ∀ token, (r.connection? token).isSome → .opened token ∈ r.callbacks

/-- In the beginning the first token is the next one. -/
theorem numbered_start (config : Config) (state : τ) : Numbered (start config state) where
  next := rfl
  few := Nat.le_refl 0
  used := nofun
  known := nofun

/-- A connection that waits gets a token that none had before. -/
theorem Numbered.not_mem_opened (h : Numbered r) (hfew : r.sockets.size < UInt64.size) (hbacklog : r.backlog ≠ []) :
    .opened r.nextToken ∉ r.callbacks := by
  intro hmem
  have hused := h.used _ hmem
  have hwaits := List.length_pos_iff.mpr hbacklog
  have hroom := h.few
  have hlt : r.openedCount + 1 < UInt64.size := by omega
  rw [h.next, UInt64.toNat_ofNat', Nat.mod_eq_of_lt hlt] at hused
  omega

theorem Numbered.connection?_nextToken (h : Numbered r) (hfew : r.sockets.size < UInt64.size)
    (hbacklog : r.backlog ≠ []) : r.connection? r.nextToken = none := by
  cases hconn : r.connection? r.nextToken with
  | none => rfl
  | some conn => exact absurd (h.known _ (by rw [hconn]; rfl)) (h.not_mem_opened hfew hbacklog)

/-- A callback that opens nothing leaves the numbers alone. -/
theorem Numbered.of_callbacks {callback : Callback} (h : Numbered r) (hother : ∀ token, callback ≠ .opened token)
    (hcallbacks : r'.callbacks = callback :: r.callbacks)
    (hopen : ∀ token, (r'.connection? token).isSome → (r.connection? token).isSome)
    (hnext : r'.nextToken = r.nextToken) (hbacklog : r'.backlog = r.backlog)
    (hsockets : r'.sockets.size = r.sockets.size) : Numbered r' := by
  -- only openings count, so any other callback leaves the numbers as they are
  have hcount : r'.openedCount = r.openedCount := by
    rw [openedCount, hcallbacks, List.countP_cons_of_neg, openedCount]
    cases callback with
    | opened token => exact absurd rfl (hother token)
    | _ => exact Bool.false_ne_true
  refine ⟨by rw [hnext, hcount, h.next], by rw [hcount, hbacklog, hsockets]; exact h.few, fun token hmem => ?_,
    fun token hsome => ?_⟩
  · rw [hcallbacks] at hmem
    rw [hcount]
    rcases List.mem_cons.mp hmem with hnew | hold
    · exact absurd hnew.symm (hother token)
    · exact h.used token hold
  · rw [hcallbacks]
    exact List.mem_cons_of_mem _ (h.known token (hopen token hsome))

/-- A step without a callback leaves the numbers alone. -/
theorem Numbered.of_same (h : Numbered r) (hcallbacks : r'.callbacks = r.callbacks)
    (hopen : ∀ token, (r'.connection? token).isSome → (r.connection? token).isSome) (hnext : r'.nextToken = r.nextToken)
    (hgrown : r'.backlog.length + r.sockets.size ≤ r.backlog.length + r'.sockets.size) : Numbered r' := by
  have hcount : r'.openedCount = r.openedCount := by rw [openedCount, hcallbacks, openedCount]
  refine ⟨by rw [hnext, hcount, h.next], ?_, ?_, fun token hsome => ?_⟩
  · have := h.few
    omega
  · rw [hcallbacks, hcount]
    exact h.used
  · rw [hcallbacks]
    exact h.known token (hopen token hsome)

/-- The next connection is opened. -/
theorem Numbered.opened (h : Numbered r) (hcallbacks : r'.callbacks = .opened r.nextToken :: r.callbacks)
    (hopen : ∀ token, (r'.connection? token).isSome = ((r.connection? token).isSome || r.nextToken == token))
    (hnext : r'.nextToken = r.nextToken + 1) (hgrown : r'.backlog.length + 1 = r.backlog.length)
    (hsockets : r'.sockets.size = r.sockets.size) : Numbered r' := by
  have hcount : r'.openedCount = r.openedCount + 1 := by
    rw [openedCount, hcallbacks, List.countP_cons_of_pos rfl, openedCount]
  refine ⟨?_, ?_, fun token hmem => ?_, fun token hsome => ?_⟩
  · rw [hnext, hcount, h.next, UInt64.ofNat_add (r.openedCount + 1)]
    rfl
  · have := h.few
    omega
  · rw [hcallbacks] at hmem
    rw [hcount]
    rcases List.mem_cons.mp hmem with hnew | hold
    -- the token given now is the number of openings after this one
    · rw [Callback.opened.inj hnew, h.next, UInt64.toNat_ofNat']
      exact Nat.mod_le _ _
    · exact Nat.le_succ_of_le (h.used token hold)
  · rw [hopen, Bool.or_eq_true, beq_iff_eq] at hsome
    rw [hcallbacks]
    rcases hsome with hold | rfl
    · exact List.mem_cons_of_mem _ (h.known token hold)
    · exact List.mem_cons_self

/-- Every step keeps the numbers; one sort of step gives the next one out. -/
theorem Numbered.step (h : Numbered r) (htells : Tells service r r') : Numbered r' := by
  cases htells with
  | nothing hstate hcallbacks hopen hnext hgrown hmore hserving =>
    exact h.of_same hcallbacks (fun token hsome => by rwa [hopen] at hsome) hnext hgrown
  | opened hbacklog hstate hcallbacks hopen hnext hgrown hsockets hserving =>
    exact h.opened hcallbacks hopen hnext hgrown hsockets
  | received t inbox chunk answers hstate hcallbacks hopen hnext hbacklog hsockets hserving =>
    exact h.of_callbacks (by nofun) hcallbacks (fun token hsome => by rwa [hopen] at hsome) hnext hbacklog hsockets
  | turned worker t routine hworker hstate hcallbacks hopen hnext hbacklog hsockets hserving =>
    refine h.of_same hcallbacks (fun token hsome => by rwa [hopen] at hsome) hnext (Nat.le_of_eq ?_)
    rw [hbacklog, hsockets]
  | closed t conn hconn hstate hcallbacks hopen hnext hbacklog hsockets hserving =>
    refine h.of_callbacks (by nofun) hcallbacks (fun token hsome => ?_) hnext hbacklog hsockets
    rw [hopen] at hsome
    split at hsome
    · cases hsome
    · exact hsome

/-! ## Serving apart -/

/-- There are threads while a worker has something in hand, so that what is said of the places holds. -/
theorem Custody.places_of_worker (h : Custody r) {worker : Nat} {now : Worker τ} (hworker : r.workers[worker]? = some now)
    (htoken : now.token? = some token) : r.places token = r.openCount token := by
  refine h.served (h.hasThreads_of_worker hworker ?_) token
  cases now with
  | stopped => cases htoken
  | _ => rfl

/-- A connection that a worker has in hand is open. -/
theorem Custody.isSome_of_worker (h : Custody r) {worker : Nat} {now : Worker τ} (hworker : r.workers[worker]? = some now)
    (htoken : now.token? = some token) : (r.connection? token).isSome := by
  have hplaces := h.places_of_worker hworker htoken
  have hhas := holds_le_workerCount hworker token
  rw [Worker.holds, htoken, beq_self_eq_true, if_pos rfl] at hhas
  rw [places, openCount] at hplaces
  split at hplaces
  · assumption
  · omega

/-- A connection whose chunk is served is open. -/
theorem Custody.isSome_of_serves (h : Custody r) {worker : Nat} {rest : Routine τ Reaction}
    (hserves : r.Serves worker token rest) : (r.connection? token).isSome :=
  h.isSome_of_worker hserves rfl

/-- One worker has a connection in hand. -/
theorem Custody.eq_of_worker (h : Custody r) {worker other : Nat} {now now' : Worker τ}
    (hworker : r.workers[worker]? = some now) (hother : r.workers[other]? = some now') (htoken : now.token? = some token)
    (htoken' : now'.token? = some token) : worker = other := by
  have hplaces := h.places_of_worker hworker htoken
  have hle := openCount_le_one r token
  rw [places] at hplaces
  exact eq_of_workerCount_le_one (by omega) hworker hother htoken htoken'

/-- One worker at a time serves a connection. -/
theorem Custody.eq_of_serves (h : Custody r) {worker other : Nat} {rest rest' : Routine τ Reaction}
    (hserves : r.Serves worker token rest) (hother : r.Serves other token rest') : worker = other :=
  h.eq_of_worker hserves hother rfl rfl

/-- What it takes for connections to be served apart from each other: serving a connection relies on `rely`
and guarantees `guar`, and nothing that is done for another connection, or from outside, is against it. -/
structure Separate (service : Service τ) (stir : τ → τ → Prop) (rely guar : Token → τ → τ → Prop) : Prop where
  refl : ∀ token state, rely token state state
  trans : ∀ token {s t u}, rely token s t → rely token t u → rely token s u
  idle : ∀ token state, guar token state state
  apart : ∀ {token other s t}, other ≠ token → guar token s t → rely other s t
  opened : ∀ {token other state}, other ≠ token → rely other state (service.opened token state)
  closed : ∀ {token other inbox state}, other ≠ token → rely other state (service.closed token inbox state)
  stirred : ∀ {token s t}, stir s t → rely token s t
  received : ∀ token inbox chunk answers state,
    (service.received token inbox chunk answers).Meets (rely token) (guar token) (fun _ _ => True) state

/-- What holds of a reactor at all times. -/
structure WellServed (rely guar : Token → τ → τ → Prop) (r : Reactor τ) : Prop where
  /-- Every open connection is in one place. -/
  custody : Custody r
  /-- Tokens are given out one after the other. -/
  numbered : Numbered r
  /-- A worker in the middle of a chunk keeps its promise. -/
  secure : ∀ worker token rest, r.Serves worker token rest → rest.Secure (rely token) (guar token) r.state

variable {rely guar : Token → τ → τ → Prop}

/-- Every step keeps what is asked of the reactor and of its service. A chunk that is being served goes on within what
it relies on, since its connection is served by nobody else. -/
theorem WellServed.step (hseparate : Separate service stir rely guar) (h : WellServed rely guar r)
    (hfew : r.sockets.size < UInt64.size) (hstep : r.step? service move = some r') : WellServed rely guar r' := by
  have htells := step?_tells hstep
  have hcustody := h.custody.step (h.numbered.connection?_nextToken hfew) hstep
  refine ⟨hcustody, h.numbered.step htells, fun worker token rest hserves => ?_⟩
  -- what others do to the state is within what serving this connection relies on
  have hkeeps : r.Serves worker token rest → rely token r.state r'.state →
      rest.Secure (rely token) (guar token) r'.state :=
    fun hbefore hrely => (h.secure worker token rest hbefore).of_rely (hseparate.trans token) hrely
  cases htells with
  | nothing hstate hcallbacks hopen hnext hgrown hmore hserving =>
    rw [hstate] at hkeeps ⊢
    exact hkeeps (hserving worker token rest hserves) (hseparate.refl token r.state)
  | opened hbacklog hstate hcallbacks hopen hnext hgrown hsockets hserving =>
    have hbefore := hserving worker token rest hserves
    have hne : token ≠ r.nextToken := by
      rintro rfl
      have hsome := h.custody.isSome_of_serves hbefore
      rw [h.numbered.connection?_nextToken hfew hbacklog] at hsome
      cases hsome
    rw [hstate] at hkeeps ⊢
    exact hkeeps hbefore (hseparate.opened hne)
  | received t inbox chunk answers hstate hcallbacks hopen hnext hbacklog hsockets hserving =>
    rw [hstate] at hkeeps ⊢
    rcases hserving worker token rest hserves with hbefore | ⟨rfl, rfl⟩
    · exact hkeeps hbefore (hseparate.refl token r.state)
    · exact fun found _ => hseparate.received token inbox chunk answers found
  | turned server t routine hserver hstate hcallbacks hopen hnext hbacklog hsockets hserving =>
    have hmeets := h.secure server t routine hserver r.state (hseparate.refl t r.state)
    obtain ⟨hguar, hsecure⟩ := hmeets.turn (hseparate.idle t)
    rw [hstate] at hkeeps ⊢
    rcases hserving worker token rest hserves with ⟨hother, hbefore⟩ | ⟨rfl, rfl⟩
    · have hne : token ≠ t := by
        rintro rfl
        exact hother (h.custody.eq_of_serves hbefore hserver)
      exact hkeeps hbefore (hseparate.apart hne hguar)
    · exact hsecure
  | closed t conn hconn hstate hcallbacks hopen hnext hbacklog hsockets hserving =>
    have hne : token ≠ t := by
      rintro rfl
      have hsome := hcustody.isSome_of_serves hserves
      rw [hopen, if_pos rfl] at hsome
      cases hsome
    rw [hstate] at hkeeps ⊢
    exact hkeeps (hserving worker token rest hserves) (hseparate.closed hne)

theorem Tells.sockets_le (h : Tells service r r') : r.sockets.size ≤ r'.sockets.size := by
  cases h with
  | nothing hstate hcallbacks hopen hnext hgrown hmore hserving => exact hmore
  | opened hbacklog hstate hcallbacks hopen hnext hgrown hsockets hserving => exact Nat.le_of_eq hsockets.symm
  | received t inbox chunk answers hstate hcallbacks hopen hnext hbacklog hsockets hserving =>
    exact Nat.le_of_eq hsockets.symm
  | turned server t routine hserver hstate hcallbacks hopen hnext hbacklog hsockets hserving =>
    exact Nat.le_of_eq hsockets.symm
  | closed t conn hconn hstate hcallbacks hopen hnext hbacklog hsockets hserving =>
    exact Nat.le_of_eq hsockets.symm

/-- Every reachable reactor is well served, as long as there are fewer than `2 ^ 64` sockets. -/
theorem Reachable.wellServed (hseparate : Separate service stir rely guar)
    (h : Reachable service stir config initial r) (hfew : r.sockets.size < UInt64.size) : WellServed rely guar r := by
  induction h with
  | start =>
    -- no worker serves yet
    refine ⟨custody_start config initial, numbered_start config initial, fun worker token rest hserves => ?_⟩
    have hidle := (Array.mem_replicate.mp (Array.mem_of_getElem? hserves)).2
    cases hidle
  | step h hstep ih =>
    have hbefore := Nat.lt_of_le_of_lt (step?_tells hstep).sockets_le hfew
    exact (ih hbefore).step hseparate hbefore hstep
  | stir h hstir ih =>
    obtain ⟨hcustody, hnumbered, hsecure⟩ := ih hfew
    refine ⟨⟨hcustody.served, hcustody.settled⟩, ⟨hnumbered.next, hnumbered.few, hnumbered.used, hnumbered.known⟩, ?_⟩
    intro worker token rest hserves
    exact (hsecure worker token rest hserves).of_rely (hseparate.trans token) (hseparate.stirred hstir)

/-- Custody and numbering need nothing of the service. -/
theorem Reachable.custody (h : Reachable service stir config initial r) (hfew : r.sockets.size < UInt64.size) :
    Custody r ∧ Numbered r := by
  have hseparate : Separate service stir (fun _ _ _ => True) (fun _ _ _ => True) :=
    ⟨fun _ _ => trivial, fun _ _ _ _ _ _ => trivial, fun _ _ => trivial, fun _ _ => trivial, fun _ => trivial,
      fun _ => trivial, fun _ => trivial, fun _ _ _ _ _ => Routine.meets_true _ _⟩
  have hserved := h.wellServed hseparate hfew
  exact ⟨hserved.custody, hserved.numbered⟩

/-- The next turn of a worker that serves a connection is within what serving it guarantees. -/
theorem WellServed.turn (h : WellServed rely guar r) (hseparate : Separate service stir rely guar) {worker : Nat}
    {rest : Routine τ Reaction} (hserves : r.Serves worker token rest) :
    guar token r.state (rest.turn r.state).2 :=
  ((h.secure worker token rest hserves r.state (hseparate.refl token r.state)).turn (hseparate.idle token)).1

end EventBus.Reactor
