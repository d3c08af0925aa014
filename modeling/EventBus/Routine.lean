/-!
# Routines

A `Routine` is what one thread does to a state that it shares with others, in turns. In a turn a thread may
look at the state, and it ends the turn by putting a new state in place of the old one; no other thread
sees anything of a turn but its result. Between two turns other threads may change the state.

* `Routine.turn` makes the next turn of a routine.
* `Routine.alone` runs a routine while no other thread does anything.
* A `Pool` is a shared state with the routines of several threads. A schedule names the thread that has
  the next turn, so the schedules are exactly the interleavings.

As long as nothing is put, looking again shows the same state, so a turn is atomic.
-/

namespace EventBus

/-- A computation in turns on a shared state. -/
inductive Routine (σ α : Type) where
  | done (value : α)
  /-- It looks at the state; the turn goes on. -/
  | look (next : σ → Routine σ α)
  /-- It puts a state, which ends the turn. -/
  | put (state : σ) (rest : Routine σ α)
  | stuck

namespace Routine

variable {σ τ α β : Type}

/-- Goes on with another routine where one has come to its end. -/
def bind : Routine σ α → (α → Routine σ β) → Routine σ β
  | done value, rest => rest value
  | look next, rest => look fun state => (next state).bind rest
  | put state routine, rest => put state (routine.bind rest)
  | stuck, _ => stuck

instance : Monad (Routine σ) where
  pure := done
  bind := bind

/-! ## Turns -/

/-- A turn that changes the state and takes an answer from it. -/
def atomic (act : σ → α × σ) : Routine σ α :=
  look fun state =>
    let (answer, state) := act state
    put state (done answer)

/-- A turn that takes an answer from the state. -/
def ask (f : σ → α) : Routine σ α :=
  atomic fun state => (f state, state)

def change (f : σ → σ) : Routine σ Unit :=
  atomic fun state => ((), f state)

def within (get : τ → σ) (set : σ → τ → τ) : Routine σ α → Routine τ α
  | done value => done value
  | look next => look fun whole => (next (get whole)).within get set
  | put part rest => look fun whole => put (set part whole) (rest.within get set)
  | stuck => stuck

/-- The routine and the state after the next turn. -/
def turn : Routine σ α → σ → Routine σ α × σ
  | look next, state => (next state).turn state
  | put state rest, _ => (rest, state)
  | done value, state => (done value, state)
  | stuck, state => (stuck, state)

/-! ## One thread -/

/-- Runs a routine while no other thread does anything; `none` if it never comes to its end. -/
def alone : Routine σ α → σ → Option (α × σ)
  | done value, state => some (value, state)
  | look next, state => (next state).alone state
  | put state rest, _ => rest.alone state
  | stuck, _ => none

@[simp]
theorem alone_pure (value : α) (state : σ) :
    (pure value : Routine σ α).alone state = some (value, state) := rfl

@[simp]
theorem alone_stuck (state : σ) : (stuck : Routine σ α).alone state = none := rfl

@[simp]
theorem alone_atomic (act : σ → α × σ) (state : σ) : (atomic act).alone state = some (act state) := rfl

@[simp]
theorem alone_ask (f : σ → α) (state : σ) : (ask f).alone state = some (f state, state) := rfl

@[simp]
theorem alone_change (f : σ → σ) (state : σ) : (change f).alone state = some ((), f state) := rfl

/-- A routine that goes on with another one runs the two one after the other. -/
@[simp]
theorem alone_bind (routine : Routine σ α) (rest : α → Routine σ β) (state : σ) :
    (routine >>= rest).alone state =
      (routine.alone state).bind fun (value, state) => (rest value).alone state := by
  change (routine.bind rest).alone state = _
  induction routine generalizing state with
  | done value => rfl
  | look next ih => exact ih state state
  | put left routine ih => exact ih left
  | stuck => rfl

instance : LawfulMonad (Routine σ) := by
  refine LawfulMonad.mk' _ (fun routine => ?_) (fun _ _ => rfl) fun routine f g => ?_
  · change routine.bind done = routine
    induction routine with
    | done | stuck => rfl
    | look next ih => exact congrArg look (funext ih)
    | put state routine ih => exact congrArg (put state) ih
  · change (routine.bind f).bind g = routine.bind fun value => (f value).bind g
    induction routine with
    | done | stuck => rfl
    | look next ih => exact congrArg look (funext ih)
    | put state routine ih => exact congrArg (put state) ih

/-! ## Several threads -/

def isOver : Routine σ α → Bool
  | done _ | stuck => true
  | look _ | put .. => false

/-- The value of a routine that has come to its end. -/
def value? : Routine σ α → Option α
  | done value => some value
  | _ => none

end Routine

/-- A shared state with the routines of several threads. -/
structure Pool (σ α : Type) where
  state : σ
  threads : List (Routine σ α)

namespace Pool

variable {σ α : Type}

/-- The pool after the next turn of one thread, if that thread has one. -/
def step? (thread : Nat) (pool : Pool σ α) : Option (Pool σ α) :=
  match pool.threads[thread]? with
  | none => none
  | some routine =>
    if routine.isOver then none
    else
      let (rest, state) := routine.turn pool.state
      some { state, threads := pool.threads.set thread rest }

/-- The pool after the threads of a schedule have made their turns one after the other. -/
def run? : (schedule : List Nat) → Pool σ α → Option (Pool σ α)
  | [], pool => some pool
  | thread :: rest, pool => (pool.step? thread).bind (run? rest)

/-- What the threads came to; `none` while one of them has still something to do. -/
def values? (pool : Pool σ α) : Option (List α) :=
  pool.threads.mapM Routine.value?

end Pool

end EventBus
