import EventBus.Routine

/-!
# Routines among other threads

What a routine comes to when other threads make turns between its own. `others` relates a state to all
those that other threads may have made of it by the next turn; it may be any relation.

* `Comes`: a routine that starts its first turn at a state may come to a value, and the state is then
  another one. One law for each way in which routines are made (`comes_bind_iff`, `comes_atomic_iff`).
* `Ends`: a routine comes to its end whatever other threads do. Again one law for each way.
* `comes_eq_iff`: when other threads do nothing, `Comes` is `Routine.alone`.
* `Settles`: a routine comes to its end and to one value, whatever other threads do.
-/

namespace EventBus.Routine

variable {σ α β : Type} {others : σ → σ → Prop}

/-- A routine whose next turn begins at a state may come to a value at another state, if other threads
make turns behind each of its own. -/
def Comes (others : σ → σ → Prop) : Routine σ α → σ → α → σ → Prop
  | done result, state, value, later => value = result ∧ later = state
  | look next, state, value, later => (next state).Comes others state value later
  | put left rest, _, value, later => ∃ found, others left found ∧ rest.Comes others found value later
  | stuck, _, _, _ => False

/-- A routine whose next turn begins at a state comes to its end, whatever other threads do behind each of
its turns. -/
def Ends (others : σ → σ → Prop) : Routine σ α → σ → Prop
  | done _, _ => True
  | look next, state => (next state).Ends others state
  | put left rest, _ => ∀ found, others left found → rest.Ends others found
  | stuck, _ => False

/-! ## What a routine may come to -/

/-- A routine that is over comes to its value. -/
@[simp]
theorem comes_pure_iff {result value : α} {state later : σ} :
    (pure result : Routine σ α).Comes others state value later ↔ value = result ∧ later = state := Iff.rfl

/-- A routine that goes on with another one: the second begins where the first one came to. -/
theorem comes_bind_iff {routine : Routine σ α} {rest : α → Routine σ β} {state later : σ} {value : β} :
    (routine >>= rest).Comes others state value later
      ↔ ∃ first middle, routine.Comes others state first middle ∧ (rest first).Comes others middle value later := by
  change (routine.bind rest).Comes others state value later ↔ _
  -- on the first routine; where each turn begins is up to other threads
  induction routine generalizing state with
  | done result =>
    refine ⟨fun h => ⟨result, state, ⟨rfl, rfl⟩, h⟩, ?_⟩
    rintro ⟨_, _, ⟨rfl, rfl⟩, h⟩
    exact h
  | look next ih => exact ih state
  | put left routine ih =>
    constructor
    · rintro ⟨found, hothers, h⟩
      obtain ⟨first, middle, hfirst, hrest⟩ := ih.mp h
      exact ⟨first, middle, ⟨found, hothers, hfirst⟩, hrest⟩
    · rintro ⟨first, middle, ⟨found, hothers, hfirst⟩, hrest⟩
      exact ⟨found, hothers, ih.mpr ⟨first, middle, hfirst, hrest⟩⟩
  | stuck => exact ⟨False.elim, fun ⟨_, _, h, _⟩ => h⟩

/-- One turn, and then what others have made of the state. -/
theorem comes_atomic_iff {act : σ → α × σ} {state later : σ} {value : α} :
    (atomic act).Comes others state value later ↔ value = (act state).1 ∧ others (act state).2 later := by
  show (∃ found, others (act state).2 found ∧ value = (act state).1 ∧ later = found) ↔ _
  constructor
  · rintro ⟨found, hothers, rfl, rfl⟩
    exact ⟨rfl, hothers⟩
  · rintro ⟨rfl, hothers⟩
    exact ⟨later, hothers, rfl, rfl⟩

/-- A turn of its own in front of a routine. -/
theorem comes_atomic_bind_iff {act : σ → α × σ} {rest : α → Routine σ β} {state later : σ} {value : β} :
    (atomic act >>= rest).Comes others state value later
      ↔ ∃ found, others (act state).2 found ∧ (rest (act state).1).Comes others found value later := Iff.rfl

/-- A turn that only changes, with something behind it. -/
theorem comes_change_bind_iff {f : σ → σ} {rest : Unit → Routine σ β} {state later : σ} {value : β} :
    (change f >>= rest).Comes others state value later
      ↔ ∃ found, others (f state) found ∧ (rest ()).Comes others found value later := Iff.rfl

/-- When other threads do nothing, a routine comes to what it comes to alone. -/
theorem comes_eq_iff {routine : Routine σ α} {state later : σ} {value : α} :
    routine.Comes (· = ·) state value later ↔ routine.alone state = some (value, later) := by
  induction routine generalizing state with
  | done result => simp [Comes, alone, eq_comm]
  | look next ih => exact ih state
  | put left rest ih =>
    rw [alone, ← ih]
    exact ⟨fun ⟨_, hsame, h⟩ => hsame ▸ h, fun h => ⟨left, rfl, h⟩⟩
  | stuck => simp [Comes, alone]

/-! ## Routines that come to their end -/

theorem ends_pure (value : α) (state : σ) : (pure value : Routine σ α).Ends others state := trivial

theorem ends_atomic (act : σ → α × σ) (state : σ) : (atomic act).Ends others state := fun _ _ => trivial

/-- One routine behind the other ends if the second one does wherever the first one leads. -/
theorem Ends.bind {routine : Routine σ α} {rest : α → Routine σ β} {state : σ} (h : routine.Ends others state)
    (hrest : ∀ value middle, routine.Comes others state value middle → (rest value).Ends others middle) :
    (routine >>= rest).Ends others state := by
  change (routine.bind rest).Ends others state
  induction routine generalizing state with
  | done result => exact hrest result state ⟨rfl, rfl⟩
  | look next ih => exact ih state h hrest
  | put left routine ih =>
    intro found hothers
    exact ih (h found hothers) fun value middle hvalue => hrest value middle ⟨found, hothers, hvalue⟩
  | stuck => exact h.elim

/-- A turn of its own in front of a routine. -/
theorem ends_atomic_bind {act : σ → α × σ} {rest : α → Routine σ β} {state : σ}
    (hrest : ∀ middle, others (act state).2 middle → (rest (act state).1).Ends others middle) :
    (atomic act >>= rest).Ends others state := by
  refine Ends.bind (ends_atomic act state) fun value middle hvalue => ?_
  obtain ⟨rfl, hothers⟩ := comes_atomic_iff.mp hvalue
  exact hrest middle hothers

/-- If other threads may also do nothing, a routine that comes to its end comes to something. -/
theorem Ends.exists_comes {routine : Routine σ α} {state : σ} (hidle : ∀ state, others state state)
    (h : routine.Ends others state) : ∃ value later, routine.Comes others state value later := by
  induction routine generalizing state with
  | done result => exact ⟨result, state, rfl, rfl⟩
  | look next ih => exact ih state h
  | put left rest ih =>
    obtain ⟨value, later, hvalue⟩ := ih (h left (hidle left))
    exact ⟨value, later, left, hidle left, hvalue⟩
  | stuck => exact h.elim

/-- A routine comes to its end, and to one value only, whatever other threads do. -/
structure Settles (others : σ → σ → Prop) (routine : Routine σ α) (value : α) (state : σ) : Prop where
  ends : routine.Ends others state
  comes : ∀ found later, routine.Comes others state found later → found = value

/-- Without others, a routine that settles comes to the value alone. -/
theorem Settles.alone_eq {routine : Routine σ α} {value : α} {state : σ} (h : routine.Settles (· = ·) value state) :
    ∃ later, routine.alone state = some (value, later) := by
  obtain ⟨found, later, hfound⟩ := h.ends.exists_comes fun _ => rfl
  obtain rfl := h.comes found later hfound
  exact ⟨later, comes_eq_iff.mp hfound⟩

end EventBus.Routine
