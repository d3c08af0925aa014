import EventBus.Proofs.Routine.Interference
import Mathlib.Algebra.BigOperators.Group.Finset.Piecewise
import Mathlib.Algebra.Order.BigOperators.Group.Finset

/-!
# Accounts of routines

An amount of the shared state, and how much of it is due to each thread. A thread holds what its own turns have
added to the amount; what other threads add is on their own accounts.

* `Accounts`: what a routine holds is allowed after each of its turns, and is as it should be at its end. One law
  for each way in which routines are made.
* `Pool.Books`: each thread of a pool keeps its account, and together they hold what the amount has grown by.
  `Pool.Books.step` and `Pool.Books.run`: so it stays, whichever thread has the next turn.
* `Pool.Books.amount_of_values`: where all threads have come to their end, the amount is the sum of what they hold.
-/

namespace EventBus

namespace Routine

variable {σ α β : Type} {amount : σ → ℤ} {rely guar : σ → σ → Prop} {allowed : ℤ → Prop}

/-! ## One routine -/

/-- A routine that holds this much adds only what is allowed, turn by turn, with each turn within `guar`, as long as
other threads stay within `rely`; where it comes to its end, `post` says what it holds. -/
def Accounts (amount : σ → ℤ) (rely guar : σ → σ → Prop) (allowed : ℤ → Prop) (post : α → σ → ℤ → Prop) :
    Routine σ α → σ → ℤ → Prop
  | done value, state, held => post value state held
  | look next, state, held => (next state).Accounts amount rely guar allowed post state held
  | put left rest, state, held =>
    guar state left ∧ allowed (held + (amount left - amount state))
      ∧ ∀ found, rely left found →
        rest.Accounts amount rely guar allowed post found (held + (amount left - amount state))
  | stuck, _, _ => True

/-- One after the other: the second routine begins with what the first one holds. -/
theorem accounts_bind_iff {post : β → σ → ℤ → Prop} {routine : Routine σ α} {rest : α → Routine σ β} {state : σ}
    {held : ℤ} :
    (routine >>= rest).Accounts amount rely guar allowed post state held
      ↔ routine.Accounts amount rely guar allowed
        (fun value found held => (rest value).Accounts amount rely guar allowed post found held) state held := by
  change (routine.bind rest).Accounts amount rely guar allowed post state held ↔ _
  -- on the first routine; the account is a recursion along its turns
  induction routine generalizing state held with
  | done value => exact Iff.rfl
  | look next ih => exact ih state
  | put left routine ih =>
    exact and_congr_right fun _ => and_congr_right fun _ => forall₂_congr fun found _ => ih
  | stuck => exact Iff.rfl

/-- A turn of its own in front of a routine. -/
theorem accounts_atomic_bind {post : β → σ → ℤ → Prop} {act : σ → α × σ} {rest : α → Routine σ β} {state : σ}
    {held : ℤ} (hguar : guar state (act state).2) (hallowed : allowed (held + (amount (act state).2 - amount state)))
    (hrest : ∀ found, rely (act state).2 found →
      (rest (act state).1).Accounts amount rely guar allowed post found (held + (amount (act state).2 - amount state))) :
    (atomic act >>= rest).Accounts amount rely guar allowed post state held :=
  ⟨hguar, hallowed, hrest⟩

/-- An account that allows more, and asks for less in the end. -/
theorem Accounts.mono {allowed' : ℤ → Prop} {post post' : α → σ → ℤ → Prop} {routine : Routine σ α} {state : σ}
    {held : ℤ} (h : routine.Accounts amount rely guar allowed post state held)
    (hallowed : ∀ held, allowed held → allowed' held)
    (hpost : ∀ value found held, post value found held → post' value found held) :
    routine.Accounts amount rely guar allowed' post' state held := by
  induction routine generalizing state held with
  | done value => exact hpost value state held h
  | look next ih => exact ih state h
  | put left rest ih =>
    obtain ⟨hguar, hturn, hrest⟩ := h
    exact ⟨hguar, hallowed _ hturn, fun found hfound => ih (hrest found hfound)⟩
  | stuck => trivial

/-- A routine that keeps an account comes to its values by its own turns and by those of other threads. -/
theorem Accounts.comes {post : α → σ → ℤ → Prop} {routine : Routine σ α} {state : σ} {held : ℤ}
    (h : routine.Accounts amount rely guar allowed post state held) :
    routine.Accounts amount rely guar allowed
      (fun value found held => routine.Comes rely state value found ∧ post value found held) state held := by
  induction routine generalizing state held with
  | done value => exact ⟨⟨rfl, rfl⟩, h⟩
  | look next ih => exact ih state h
  | put left rest ih =>
    obtain ⟨hguar, hturn, hrest⟩ := h
    refine ⟨hguar, hturn, fun found hfound => (ih (hrest found hfound)).mono (fun _ hallowed => hallowed) ?_⟩
    rintro value later held ⟨hcomes, hpost⟩
    exact ⟨⟨found, hfound, hcomes⟩, hpost⟩
  | stuck => trivial

/-- Where every turn, of whomever, is a step of a path, a routine comes only to what the path leads to. -/
theorem Accounts.along {path : σ → σ → Prop} (hrefl : ∀ state, path state state)
    (htrans : ∀ {s t u}, path s t → path t u → path s u) (hrely : ∀ {s t}, rely s t → path s t)
    (hguar : ∀ {s t}, guar s t → path s t) {post : α → σ → ℤ → Prop} {routine : Routine σ α} {state : σ} {held : ℤ}
    (h : routine.Accounts amount rely guar allowed post state held) :
    routine.Accounts amount rely guar allowed (fun value found held => path state found ∧ post value found held)
      state held := by
  induction routine generalizing state held with
  | done value => exact ⟨hrefl state, h⟩
  | look next ih => exact ih state h
  | put left rest ih =>
    obtain ⟨hturn, hallowed, hrest⟩ := h
    refine ⟨hturn, hallowed, fun found hfound => (ih (hrest found hfound)).mono (fun _ hheld => hheld) ?_⟩
    rintro value later held ⟨hpath, hpost⟩
    exact ⟨htrans (hguar hturn) (htrans (hrely hfound) hpath), hpost⟩
  | stuck => trivial

/-! ## Between two turns -/

/-- A routine waits for its next turn with an account in order, whatever other threads do. -/
def Solvent (amount : σ → ℤ) (rely guar : σ → σ → Prop) (allowed : ℤ → Prop) (final : α → ℤ → Prop)
    (routine : Routine σ α) (state : σ) (held : ℤ) : Prop :=
  allowed held ∧ ∀ found, rely state found →
    routine.Accounts amount rely guar allowed (fun value _ held => final value held) found held

variable {final : α → ℤ → Prop}

/-- A routine that waits is solvent still when others have had their turns. -/
theorem Solvent.of_rely {routine : Routine σ α} {state later : σ} {held : ℤ}
    (h : routine.Solvent amount rely guar allowed final state held)
    (htrans : ∀ {s t u}, rely s t → rely t u → rely s u) (hrely : rely state later) :
    routine.Solvent amount rely guar allowed final later held :=
  ⟨h.1, fun found hfound => h.2 found (htrans hrely hfound)⟩

/-- The next turn adds to the account what it adds to the amount. -/
theorem Accounts.turn {routine : Routine σ α} {state : σ} {held : ℤ} (hidle : ∀ state, guar state state)
    (hheld : allowed held) (h : routine.Accounts amount rely guar allowed (fun value _ held => final value held) state held) :
    guar state (routine.turn state).2
      ∧ (routine.turn state).1.Solvent amount rely guar allowed final (routine.turn state).2
        (held + (amount (routine.turn state).2 - amount state)) := by
  induction routine with
  | look next ih => exact ih state h
  | put left rest ih =>
    obtain ⟨hguar, hallowed, hrest⟩ := h
    exact ⟨hguar, hallowed, hrest⟩
  -- a routine that cannot go on changes nothing, so nothing is added to what is held
  | done value =>
    have hsame : held + (amount state - amount state) = held := by omega
    show guar state state ∧ Solvent amount rely guar allowed final (done value) state (held + (amount state - amount state))
    rw [hsame]
    exact ⟨hidle state, hheld, fun found _ => h⟩
  | stuck =>
    have hsame : held + (amount state - amount state) = held := by omega
    show guar state state ∧ Solvent amount rely guar allowed final stuck state (held + (amount state - amount state))
    rw [hsame]
    exact ⟨hidle state, hheld, fun found _ => trivial⟩

end Routine

/-! ## Pools -/

namespace Pool

variable {σ α : Type} {amount : σ → ℤ} {rely guar : Nat → σ → σ → Prop} {allowed : ℤ → Prop}
  {final : Nat → α → ℤ → Prop} {base : ℤ} {pool pool' : Pool σ α} {held : Nat → ℤ}

/-- What each thread guarantees is within what the others rely on. -/
structure Fair (rely guar : Nat → σ → σ → Prop) : Prop where
  idle : ∀ thread state, guar thread state state
  within : ∀ {thread other s t}, other ≠ thread → guar thread s t → rely other s t
  refl : ∀ thread state, rely thread state state
  trans : ∀ {thread s t u}, rely thread s t → rely thread t u → rely thread s u

/-- The accounts of all threads are in order, and together they hold what the amount is more than it was. -/
structure Books (amount : σ → ℤ) (rely guar : Nat → σ → σ → Prop) (allowed : ℤ → Prop)
    (final : Nat → α → ℤ → Prop) (base : ℤ) (pool : Pool σ α) (held : Nat → ℤ) : Prop where
  solvent : ∀ thread (routine : Routine σ α), pool.threads[thread]? = some routine →
    routine.Solvent amount (rely thread) (guar thread) allowed (final thread) pool.state (held thread)
  balance : amount pool.state = base + ∑ thread ∈ Finset.range pool.threads.length, held thread

/-- What one thread has added, the sum has grown by. -/
theorem sum_update {n i : Nat} (hi : i < n) (held : Nat → ℤ) (added : ℤ) :
    ∑ thread ∈ Finset.range n, Function.update held i (held i + added) thread
      = (∑ thread ∈ Finset.range n, held thread) + added := by
  have hmem := Finset.mem_range.mpr hi
  rw [Finset.sum_update_of_mem hmem, ← Finset.add_sum_erase _ held hmem, Finset.sdiff_singleton_eq_erase]
  omega

/-- Threads that all begin with nothing. -/
theorem books_of_solvent {threads : List (Routine σ α)} {state : σ}
    (h : ∀ thread (routine : Routine σ α), threads[thread]? = some routine →
      routine.Solvent amount (rely thread) (guar thread) allowed (final thread) state 0) :
    Books amount rely guar allowed final (amount state) ⟨state, threads⟩ fun _ => 0 := by
  refine ⟨h, ?_⟩
  rw [Finset.sum_const_zero, add_zero]

/-- A step is the next turn of a thread that is not over. -/
theorem exists_turn_of_step? {thread : Nat} (h : pool.step? thread = some pool') :
    ∃ routine, pool.threads[thread]? = some routine ∧ routine.isOver = false
      ∧ pool' = ⟨(routine.turn pool.state).2, pool.threads.set thread (routine.turn pool.state).1⟩ := by
  unfold step? at h
  split at h
  · cases h
  · next routine hroutine =>
    split at h
    · cases h
    · next hgoes => exact ⟨routine, hroutine, Bool.not_eq_true _ ▸ hgoes, (Option.some.inj h).symm⟩

theorem length_threads_of_step? {thread : Nat} (h : pool.step? thread = some pool') :
    pool'.threads.length = pool.threads.length := by
  obtain ⟨routine, -, -, rfl⟩ := exists_turn_of_step? h
  exact List.length_set

theorem length_threads_of_run? {schedule : List Nat} (h : pool.run? schedule = some pool') :
    pool'.threads.length = pool.threads.length := by
  induction schedule generalizing pool with
  | nil =>
    cases h
    rfl
  | cons thread rest ih =>
    obtain ⟨next, hstep, hrest⟩ := Option.bind_eq_some_iff.mp h
    exact (ih hrest).trans (length_threads_of_step? hstep)

/-- Whichever thread has the next turn, all accounts are kept: what it adds is its own, and the others allow for it. -/
theorem Books.step (hfair : Fair rely guar) (h : pool.Books amount rely guar allowed final base held) {thread : Nat}
    (hstep : pool.step? thread = some pool') :
    guar thread pool.state pool'.state ∧ ∃ held', pool'.Books amount rely guar allowed final base held' := by
  obtain ⟨routine, hthread, -, rfl⟩ := exists_turn_of_step? hstep
  obtain ⟨hheld, hwaits⟩ := h.solvent thread routine hthread
  obtain ⟨hturn, hsolvent⟩ := (hwaits pool.state (hfair.refl thread pool.state)).turn (hfair.idle thread) hheld
  generalize routine.turn pool.state = next at hturn hsolvent ⊢
  obtain ⟨rest, state⟩ := next
  obtain ⟨hlt, -⟩ := List.getElem?_eq_some_iff.mp hthread
  let added := amount state - amount pool.state
  refine ⟨hturn, Function.update held thread (held thread + added), fun other routine' hother => ?_, ?_⟩
  · rw [List.getElem?_set] at hother
    by_cases hsame : thread = other
    · subst hsame
      rw [if_pos rfl, if_pos hlt, Option.some.injEq] at hother
      subst hother
      rw [Function.update_self]
      exact hsolvent
    · rw [if_neg hsame] at hother
      have hapart := Ne.symm hsame
      rw [Function.update_of_ne hapart]
      exact (h.solvent other routine' hother).of_rely hfair.trans (hfair.within hapart hturn)
  -- what the turn adds to the amount it adds to the holdings of its own thread, so the sum is right again
  · have hbalance := h.balance
    rw [List.length_set, sum_update hlt]
    show amount state = base + (_ + (amount state - amount pool.state))
    omega

/-- A run keeps the books, by induction on the schedule. -/
theorem Books.run (hfair : Fair rely guar) (h : pool.Books amount rely guar allowed final base held)
    {schedule : List Nat} (hrun : pool.run? schedule = some pool') :
    ∃ held', pool'.Books amount rely guar allowed final base held' := by
  induction schedule generalizing pool held with
  | nil =>
    cases hrun
    exact ⟨held, h⟩
  | cons thread rest ih =>
    obtain ⟨next, hstep, hrest⟩ := Option.bind_eq_some_iff.mp hrun
    obtain ⟨-, held', hnext⟩ := h.step hfair hstep
    exact ih hnext hrest

/-- A thread that begins with nothing changes no account. -/
theorem Books.begin (h : pool.Books amount rely guar allowed final base held) {routine : Routine σ α}
    (hroutine : routine.Solvent amount (rely pool.threads.length) (guar pool.threads.length) allowed
      (final pool.threads.length) pool.state 0) :
    ∃ held', Books amount rely guar allowed final base { pool with threads := pool.threads ++ [routine] } held' := by
  -- the new thread holds nothing, so that the sum is as before
  refine ⟨Function.update held pool.threads.length 0, fun thread routine' hthread => ?_, ?_⟩
  · rw [List.getElem?_append] at hthread
    split at hthread
    · next hlt =>
      rw [Function.update_of_ne (Nat.ne_of_lt hlt)]
      exact h.solvent thread routine' hthread
    · next hge =>
      have hlast : thread = pool.threads.length := by
        have hlt := (List.getElem?_eq_some_iff.mp hthread).1
        rw [List.length_singleton] at hlt
        omega
      subst hlast
      rw [Nat.sub_self, List.getElem?_cons_zero, Option.some.injEq] at hthread
      subst hthread
      rw [Function.update_self]
      exact hroutine
  · rw [h.balance, List.length_append, List.length_singleton, Finset.sum_range_succ, Function.update_self, add_zero]
    congr 1
    refine Finset.sum_congr rfl fun thread hthread => ?_
    rw [Function.update_of_ne (Nat.ne_of_lt (Finset.mem_range.mp hthread))]

/-- If no thread may hold less than nothing, the amount is never less than it was. -/
theorem Books.le_amount (h : pool.Books amount rely guar (0 ≤ ·) final base held) : base ≤ amount pool.state := by
  have hsum : 0 ≤ ∑ thread ∈ Finset.range pool.threads.length, held thread := by
    refine Finset.sum_nonneg fun thread hthread => ?_
    have hlt := Finset.mem_range.mp hthread
    exact (h.solvent thread _ (List.getElem?_eq_getElem hlt)).1
  rw [h.balance]
  omega

theorem eq_done_of_value? {routine : Routine σ α} {value : α} (h : routine.value? = some value) :
    routine = .done value := by
  cases routine with
  | done other =>
    obtain rfl := Option.some.inj h
    rfl
  | look | put | stuck => cases h

/-- Where a pool has come to its values, so has each of its threads. -/
theorem exists_done_of_values? {threads : List (Routine σ α)} (h : (threads.mapM Routine.value?).isSome) :
    ∀ routine ∈ threads, ∃ value, routine = .done value := by
  induction threads with
  | nil => exact fun routine hmem => absurd hmem List.not_mem_nil
  | cons first rest ih =>
    rw [List.mapM_cons] at h
    cases hfirst : first.value? with
    | none =>
      rw [hfirst] at h
      cases h
    | some value =>
      have hrest : (rest.mapM Routine.value?).isSome := by
        rw [hfirst] at h
        cases hvalues : rest.mapM Routine.value? with
        | none =>
          rw [hvalues] at h
          cases h
        | some values => rfl
      exact List.forall_mem_cons.mpr ⟨⟨value, eq_done_of_value? hfirst⟩, ih hrest⟩

/-- Where all threads have come to their end with what they should hold then, so has the amount. -/
theorem Books.amount_of_values (tally : Nat → ℤ) (hfair : Fair rely guar)
    (h : pool.Books amount rely guar allowed (fun thread _ held => held = tally thread) base held)
    (hover : pool.values?.isSome) :
    amount pool.state = base + ∑ thread ∈ Finset.range pool.threads.length, tally thread := by
  rw [h.balance]
  congr 1
  refine Finset.sum_congr rfl fun thread hthread => ?_
  have hlt := Finset.mem_range.mp hthread
  obtain ⟨value, hvalue⟩ := exists_done_of_values? hover _ (List.getElem_mem hlt)
  have hdone : pool.threads[thread]? = some (.done value) := by
    rw [List.getElem?_eq_getElem hlt, hvalue]
  exact (h.solvent thread _ hdone).2 pool.state (hfair.refl thread pool.state)

end Pool

end EventBus
