import EventBus.Proofs.Routine.Account

/-!
# Histories of routines

What the threads of a pool do, told as a history: a list of deeds, newest first, with one deed for each turn. What a
turn may be depends on what its thread did last, and on all that has happened so far. A deed is told of a turn as a
function, and not only of what it makes of the state that it finds.

* `Tells`: each turn of a routine is a deed that may be done then, whatever other threads have done in between, as
  long as the history accords with the state. One law for each way in which routines are made.
* `Pool.Reached`: the pools that come about when threads begin routines at any time. `Pool.Chronicle`: how one of
  them came about, turn by turn.
* `Pool.Reached.exists_chronicle`: where all routines tell what they do, every pool that comes about has a history.
-/

namespace EventBus

namespace Routine

variable {σ τ δ α β : Type}

/-! ## Turns -/

/-- A turn that is begun ends by putting a state, whatever it finds. -/
def Puts : Routine σ α → Prop
  | look next => ∀ state, (next state).Puts
  | put .. => True
  | done _ | stuck => False

/-- A routine with a turn to make has one with something behind it, too. -/
theorem Puts.bind {routine : Routine σ α} (h : routine.Puts) (rest : α → Routine σ β) : (routine.bind rest).Puts := by
  induction routine with
  | look next ih => exact fun state => ih state (h state)
  | put left routine => trivial
  | done value | stuck => exact h.elim

theorem Puts.turn_bind {routine : Routine σ α} (h : routine.Puts) (rest : α → Routine σ β) (state : σ) :
    (routine.bind rest).turn state = ((routine.turn state).1.bind rest, (routine.turn state).2) := by
  induction routine with
  | look next ih => exact ih state (h state)
  | put left routine => rfl
  | done value | stuck => exact h.elim

theorem Puts.within {routine : Routine σ α} (h : routine.Puts) (get : τ → σ) (set : σ → τ → τ) :
    (routine.within get set).Puts := by
  induction routine with
  | look next ih => exact fun whole => ih (get whole) (h (get whole))
  | put left routine => exact fun _ => trivial
  | done value | stuck => exact h.elim

/-- On a larger state, a routine makes the same turn on its part. -/
theorem Puts.turn_within {routine : Routine σ α} (h : routine.Puts) (get : τ → σ) (set : σ → τ → τ) (whole : τ) :
    (routine.within get set).turn whole
      = ((routine.turn (get whole)).1.within get set, set (routine.turn (get whole)).2 whole) := by
  induction routine with
  | look next ih => exact ih (get whole) (h (get whole))
  | put left routine => rfl
  | done value | stuck => exact h.elim

/-! ## One routine -/

variable {may : Option δ → List δ → (σ → σ) → σ → δ → Prop} {accords : List δ → σ → Prop}
  {post : α → Option δ → List δ → σ → Prop} {last : Option δ} {past : List δ} {state : σ}

/-- Each turn of a routine is a deed that may be done behind its own `last` deed and the whole `past`. Behind each of
its turns other threads may add to the history, which accords with the state then. -/
inductive Tells (may : Option δ → List δ → (σ → σ) → σ → δ → Prop) (accords : List δ → σ → Prop)
    (post : α → Option δ → List δ → σ → Prop) : Routine σ α → Option δ → List δ → σ → Prop where
  | done {value : α} {last : Option δ} {past : List δ} {state : σ} (hpost : post value last past state) :
    Tells may accords post (.done value) last past state
  | stuck {last : Option δ} {past : List δ} {state : σ} : Tells may accords post .stuck last past state
  | turn {routine : Routine σ α} {last : Option δ} {past : List δ} {state : σ} (hputs : routine.Puts) (deed : δ)
      (hmay : may last past (fun found => (routine.turn found).2) state deed)
      (hrest : ∀ later found, (deed :: past) <:+ later → accords later found →
        Tells may accords post (routine.turn state).1 (some deed) later found) :
    Tells may accords post routine last past state

/-- One routine behind the other: the second one tells behind what the first one has told. -/
theorem Tells.bind {post : β → Option δ → List δ → σ → Prop} {routine : Routine σ α} {rest : α → Routine σ β}
    (h : routine.Tells may accords (fun value last past state => (rest value).Tells may accords post last past state)
      last past state) :
    (routine >>= rest).Tells may accords post last past state := by
  change (routine.bind rest).Tells may accords post last past state
  -- on the deeds of the first routine; at its end the second one takes over, behind the same past
  induction h with
  | done hpost => exact hpost
  | stuck => exact .stuck
  | @turn routine last past state hputs deed hmay _ ih =>
    refine .turn (hputs.bind rest) deed ?_ fun later found hlater hfound => ?_
    · simpa only [hputs.turn_bind rest] using hmay
    · rw [hputs.turn_bind rest]
      exact ih later found hlater hfound

/-- A routine of one turn tells one deed. -/
theorem tells_atomic {act : σ → α × σ} (deed : δ) (hmay : may last past (fun found => (act found).2) state deed)
    (hpost : ∀ later found, (deed :: past) <:+ later → accords later found →
      post (act state).1 (some deed) later found) :
    (atomic act).Tells may accords post last past state :=
  .turn (fun _ => trivial) deed hmay fun later found hlater hfound => .done (hpost later found hlater hfound)

theorem Tells.mono {post' : α → Option δ → List δ → σ → Prop} {routine : Routine σ α}
    (h : routine.Tells may accords post last past state)
    (hpost : ∀ value last past state, post value last past state → post' value last past state) :
    routine.Tells may accords post' last past state := by
  induction h with
  | done hvalue => exact .done (hpost _ _ _ _ hvalue)
  | stuck => exact .stuck
  | turn hputs deed hmay _ ih => exact .turn hputs deed hmay ih

/-- A routine on a part of the state tells there what it does. -/
theorem Tells.within {may' : Option δ → List δ → (τ → τ) → τ → δ → Prop} {get : τ → σ} {set : σ → τ → τ}
    (hmay : ∀ {last past act whole deed}, may last past act (get whole) deed →
      may' last past (fun found => set (act (get found)) found) whole deed)
    {routine : Routine σ α} {whole : τ} (h : routine.Tells may accords post last past (get whole)) :
    (routine.within get set).Tells may' (fun past whole => accords past (get whole))
      (fun value last past whole => post value last past (get whole)) last past whole := by
  generalize hpart : get whole = part at h
  induction h generalizing whole with
  | done hpost => exact .done (hpart ▸ hpost)
  | stuck => exact .stuck
  | @turn routine last past state hputs deed hturn _ ih =>
    subst hpart
    refine .turn (hputs.within get set) deed ?_ fun later found hlater hfound => ?_
    · simpa only [hputs.turn_within get set] using hmay hturn
    · rw [hputs.turn_within get set]
      exact ih later (get found) hlater hfound rfl

end Routine

/-! ## Pools -/

namespace Pool

variable {σ δ α : Type} {begins : Routine σ α → Prop} {may : Option δ → List δ → (σ → σ) → σ → δ → Prop}
  {accords : List δ → σ → Prop} {initial : σ} {pool pool' : Pool σ α} {past : List (Nat × δ)}

/-- The pools that come about when threads begin routines at any time and make their turns in any order. -/
inductive Reached (begins : Routine σ α → Prop) (initial : σ) : Pool σ α → Prop where
  | start : Reached begins initial ⟨initial, []⟩
  | begins {pool : Pool σ α} {routine : Routine σ α} (h : Reached begins initial pool) (hbegins : begins routine) :
    Reached begins initial { pool with threads := pool.threads ++ [routine] }
  | turns {pool pool' : Pool σ α} {thread : Nat} (h : Reached begins initial pool)
    (hstep : pool.step? thread = some pool') : Reached begins initial pool'

/-- A run leads from a pool that has come about to one that has. -/
theorem Reached.run {schedule : List Nat} (h : Reached begins initial pool) (hrun : pool.run? schedule = some pool') :
    Reached begins initial pool' := by
  induction schedule generalizing pool with
  | nil =>
    cases hrun
    exact h
  | cons thread rest ih =>
    obtain ⟨next, hstep, hrest⟩ := Option.bind_eq_some_iff.mp hrun
    exact ih (h.turns hstep) hrest

/-- How a pool came about: for each turn its thread and what it was, newest first. -/
inductive Chronicle (begins : Routine σ α → Prop) (may : Option δ → List δ → (σ → σ) → σ → δ → Prop) (initial : σ) :
    Pool σ α → List (Nat × δ) → Prop where
  | start : Chronicle begins may initial ⟨initial, []⟩ []
  | begins {pool : Pool σ α} {past : List (Nat × δ)} {routine : Routine σ α}
    (h : Chronicle begins may initial pool past) (hbegins : begins routine) :
    Chronicle begins may initial { pool with threads := pool.threads ++ [routine] } past
  | turns {pool pool' : Pool σ α} {past : List (Nat × δ)} {thread : Nat} {routine : Routine σ α} {deed : δ}
    (h : Chronicle begins may initial pool past) (hstep : pool.step? thread = some pool')
    (hthread : pool.threads[thread]? = some routine)
    (hmay : may (past.lookup thread) (past.map Prod.snd) (fun found => (routine.turn found).2) pool.state deed) :
    Chronicle begins may initial pool' ((thread, deed) :: past)

/-- All threads go on with a history that accords with the state. -/
structure Telling (may : Option δ → List δ → (σ → σ) → σ → δ → Prop) (accords : List δ → σ → Prop) (pool : Pool σ α)
    (past : List (Nat × δ)) : Prop where
  sound : accords (past.map Prod.snd) pool.state
  threads : ∀ thread (routine : Routine σ α), pool.threads[thread]? = some routine → ∀ later found,
    past.map Prod.snd <:+ later → accords later found →
      routine.Tells may accords (fun _ _ _ _ => True) (past.lookup thread) later found
  /-- Only threads that have begun did anything. -/
  fresh : ∀ thread, pool.threads.length ≤ thread → past.lookup thread = none

/-- A thread that begins has no deed yet, so that the history is the same. -/
theorem Telling.begin (h : pool.Telling may accords past) {routine : Routine σ α}
    (hroutine : ∀ later found, accords later found →
      routine.Tells may accords (fun _ _ _ _ => True) none later found) :
    Telling may accords { pool with threads := pool.threads ++ [routine] } past := by
  refine ⟨h.sound, fun thread routine' hthread later found hlater hfound => ?_, fun thread hthread => ?_⟩
  · rw [List.getElem?_append] at hthread
    split at hthread
    · exact h.threads thread routine' hthread later found hlater hfound
    · next hge =>
      obtain rfl := List.mem_singleton.mp (List.mem_of_getElem? hthread)
      rw [h.fresh thread (Nat.le_of_not_lt hge)]
      exact hroutine later found hfound
  · rw [List.length_append] at hthread
    exact h.fresh thread (Nat.le_of_add_right_le hthread)

/-- The next turn is a deed of its thread, and all others tell behind it as they did. -/
theorem Telling.step
    (hkept : ∀ {last past act before deed}, accords past before → may last past act before deed →
      accords (deed :: past) (act before))
    (h : pool.Telling may accords past) {thread : Nat} (hstep : pool.step? thread = some pool') :
    ∃ routine deed, pool.threads[thread]? = some routine
      ∧ may (past.lookup thread) (past.map Prod.snd) (fun found => (routine.turn found).2) pool.state deed
      ∧ pool'.Telling may accords ((thread, deed) :: past) := by
  obtain ⟨routine, hthread, hgoes, rfl⟩ := exists_turn_of_step? hstep
  obtain ⟨hlt, -⟩ := List.getElem?_eq_some_iff.mp hthread
  cases h.threads thread routine hthread _ _ (List.suffix_refl _) h.sound with
  | done | stuck => cases hgoes
  | turn hputs deed hmay hrest =>
    refine ⟨routine, deed, hthread, hmay, hkept h.sound hmay, fun other routine' hother later found hlater hfound => ?_,
      fun other hother => ?_⟩
    · rw [List.getElem?_set] at hother
      by_cases hsame : thread = other
      · subst hsame
        rw [if_pos rfl, if_pos hlt, Option.some.injEq] at hother
        subst hother
        rw [List.lookup_cons_self]
        exact hrest later found hlater hfound
      · rw [if_neg hsame] at hother
        rw [List.lookup_cons, beq_false_of_ne (Ne.symm hsame)]
        -- what another thread did is one more thing that has happened
        exact h.threads other routine' hother later found ((List.suffix_cons _ _).trans hlater) hfound
    · rw [List.length_set] at hother
      rw [List.lookup_cons, beq_false_of_ne (Nat.ne_of_gt (Nat.lt_of_lt_of_le hlt hother))]
      exact h.fresh other hother

/-- Where all routines that threads begin tell what they do, every pool that comes about has a history. -/
theorem Reached.exists_chronicle
    (hkept : ∀ {last past act before deed}, accords past before → may last past act before deed →
      accords (deed :: past) (act before))
    (hbegins : ∀ routine, begins routine → ∀ past state, accords past state →
      routine.Tells may accords (fun _ _ _ _ => True) none past state)
    (hinitial : accords [] initial) (h : Reached begins initial pool) :
    ∃ past, Chronicle begins may initial pool past := by
  -- the induction carries that every thread goes on telling what suits the past so far
  suffices hall : ∃ past, Chronicle begins may initial pool past ∧ pool.Telling may accords past by
    obtain ⟨past, hpast, -⟩ := hall
    exact ⟨past, hpast⟩
  induction h with
  | start => exact ⟨[], .start, hinitial, nofun, fun _ _ => rfl⟩
  | begins h hroutine ih =>
    obtain ⟨past, hpast, htelling⟩ := ih
    exact ⟨past, hpast.begins hroutine, htelling.begin (hbegins _ hroutine)⟩
  | turns h hstep ih =>
    obtain ⟨past, hpast, htelling⟩ := ih
    obtain ⟨routine, deed, hthread, hmay, hnext⟩ := htelling.step hkept hstep
    exact ⟨_, hpast.turns hstep hthread hmay, hnext⟩

/-- In every pool the history accords with the state. -/
theorem Chronicle.sound (accords : List δ → σ → Prop)
    (hkept : ∀ {last past act before deed}, accords past before → may last past act before deed →
      accords (deed :: past) (act before))
    (hinitial : accords [] initial) (h : Chronicle begins may initial pool past) :
    accords (past.map Prod.snd) pool.state := by
  induction h with
  | start => exact hinitial
  | begins h hbegins ih => exact ih
  | turns h hstep hthread hmay ih =>
    obtain ⟨routine, hroutine, -, rfl⟩ := exists_turn_of_step? hstep
    cases hthread.symm.trans hroutine
    exact hkept ih hmay

/-- Each deed of a history was done behind those in front of it. -/
theorem Chronicle.exists_before {thread : Nat} {deed : δ} {later earlier : List (Nat × δ)}
    (h : Chronicle begins may initial pool (later ++ (thread, deed) :: earlier)) :
    ∃ (before : Pool σ α) (act : σ → σ), Chronicle begins may initial before earlier
      ∧ may (earlier.lookup thread) (earlier.map Prod.snd) act before.state deed := by
  generalize hall : later ++ (thread, deed) :: earlier = past at h
  induction h generalizing later with
  | start => simp at hall
  | begins h hbegins ih => exact ih hall
  | @turns before after past thread' routine deed' h hstep hthread hmay ih =>
    cases later with
    | nil =>
      obtain ⟨hsame, rfl⟩ := List.cons.inj hall
      obtain ⟨rfl, rfl⟩ := Prod.mk.inj hsame
      exact ⟨before, _, h, hmay⟩
    | cons first later => exact ih (List.cons.inj hall).2

end Pool

end EventBus
