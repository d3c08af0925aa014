import EventBus.Routine

/-!
# What routines promise

Rely and guarantee for routines: given what other threads do between the turns of a routine, what the
routine does in its turns.

* `Meets`: the turns of a routine are within `guar` and its values satisfy `post`, as long as other threads
  stay within `rely`. One law for each way in which routines are made.
* `Makes`: a turn that a routine may make at some point. `meets_within` lifts the turns of a routine on a
  part of the state to the whole, and `Meets.within` what it promises there.
* `Secure`, `Waits`: a routine that waits for its next turn meets a promise from now on. `Meets.turn` and
  `Meets.turn_waits` say what one turn of such a routine leads to.
-/

namespace EventBus.Routine

variable {σ τ α β : Type} {rely guar : σ → σ → Prop}

/-! ## Promises -/

/-- From this state on, the turns of a routine are within `guar`, and it comes only to values that satisfy
`post`, if other threads stay within `rely` behind each of its turns. -/
def Meets (rely guar : σ → σ → Prop) (post : α → σ → Prop) : Routine σ α → σ → Prop
  | done value, state => post value state
  | look next, state => (next state).Meets rely guar post state
  | put left rest, state => guar state left ∧ ∀ found, rely left found → rest.Meets rely guar post found
  | stuck, _ => True

/-- A routine that goes on with another one: what the first comes to is where the second begins. -/
theorem meets_bind_iff {post : β → σ → Prop} {routine : Routine σ α} {rest : α → Routine σ β} {state : σ} :
    (routine >>= rest).Meets rely guar post state
      ↔ routine.Meets rely guar (fun value found => (rest value).Meets rely guar post found) state := by
  change (routine.bind rest).Meets rely guar post state ↔ _
  induction routine generalizing state with
  | done value => exact Iff.rfl
  | look next ih => exact ih state
  | put left routine ih => exact and_congr_right fun _ => forall₂_congr fun found _ => ih
  | stuck => exact Iff.rfl

/-- One turn, behind which others may have theirs. -/
theorem meets_atomic_iff {post : α → σ → Prop} {act : σ → α × σ} {state : σ} :
    (atomic act).Meets rely guar post state
      ↔ guar state (act state).2 ∧ ∀ found, rely (act state).2 found → post (act state).1 found := Iff.rfl

/-- A turn that only looks. -/
theorem meets_ask_iff {post : α → σ → Prop} {f : σ → α} {state : σ} :
    (ask f).Meets rely guar post state
      ↔ guar state state ∧ ∀ found, rely state found → post (f state) found := meets_atomic_iff

theorem meets_change_iff {post : Unit → σ → Prop} {f : σ → σ} {state : σ} :
    (change f).Meets rely guar post state
      ↔ guar state (f state) ∧ ∀ found, rely (f state) found → post () found := meets_atomic_iff

/-- A routine that meets a promise meets every weaker one. -/
theorem Meets.mono {guar' : σ → σ → Prop} {post post' : α → σ → Prop} {routine : Routine σ α} {state : σ}
    (h : routine.Meets rely guar post state) (hguar : ∀ before after, guar before after → guar' before after)
    (hpost : ∀ value found, post value found → post' value found) :
    routine.Meets rely guar' post' state := by
  induction routine generalizing state with
  | done value => exact hpost value state h
  | look next ih => exact ih state h
  | put left rest ih => exact ⟨hguar state left h.1, fun found hrely => ih (h.2 found hrely)⟩
  | stuck => trivial

/-- Every routine meets a promise that says nothing. -/
theorem meets_true (routine : Routine σ α) (state : σ) :
    routine.Meets (fun _ _ => True) (fun _ _ => True) (fun _ _ => True) state := by
  induction routine generalizing state with
  | look next ih => exact ih state state
  | put left rest ih => exact ⟨trivial, fun found _ => ih found⟩
  | done value | stuck => trivial

/-- Where every turn, of whomever, is a step of a path, a routine comes only to what the path leads to. -/
theorem Meets.along {path : σ → σ → Prop} (hrefl : ∀ state, path state state)
    (htrans : ∀ {s t u}, path s t → path t u → path s u) (hrely : ∀ {s t}, rely s t → path s t)
    (hguar : ∀ {s t}, guar s t → path s t) {post : α → σ → Prop} {routine : Routine σ α} {state : σ}
    (h : routine.Meets rely guar post state) :
    routine.Meets rely guar (fun value found => path state found ∧ post value found) state := by
  induction routine generalizing state with
  | done value => exact ⟨hrefl state, h⟩
  | look next ih => exact ih state h
  | put left rest ih =>
    refine ⟨h.1, fun found hfound => (ih (h.2 found hfound)).mono (fun _ _ hturn => hturn) ?_⟩
    rintro value later ⟨hpath, hpost⟩
    exact ⟨htrans (hguar h.1) (htrans (hrely hfound) hpath), hpost⟩
  | stuck => trivial

/-! ## Turns -/

/-- A turn of its own in front of a routine. -/
theorem turn_atomic_bind (act : σ → α × σ) (rest : α → Routine σ β) (state : σ) :
    (atomic act >>= rest).turn state = (rest (act state).1, (act state).2) := rfl

/-- A routine may make a turn: from the state that it begins at to the one it puts. `start` is where the turn
that is in progress has begun. -/
def MakesFrom : Routine σ α → (start : σ) → σ → σ → Prop
  | done _, _, _, _ => False
  | look next, start, before, after => (next start).MakesFrom start before after
  | put left rest, start, before, after =>
    (before = start ∧ after = left) ∨ ∃ found, rest.MakesFrom found before after
  | stuck, _, _, _ => False

/-- A routine may make a turn at some point, if other threads do what it takes. -/
def Makes (routine : Routine σ α) (before after : σ) : Prop :=
  ∃ start, routine.MakesFrom start before after

/-- A routine on a part of the state makes its own turns there. `inv` is what the turns keep. -/
theorem meets_within {get : τ → σ} {set : σ → τ → τ} {rely guar : τ → τ → Prop} {inv : τ → Prop}
    {routine : Routine σ α} (hrely : ∀ whole found, inv whole → rely whole found → inv found)
    (hturn : ∀ whole part, inv whole → routine.Makes (get whole) part →
      guar whole (set part whole) ∧ inv (set part whole))
    {whole : τ} (hinv : inv whole) :
    (routine.within get set).Meets rely guar (fun _ => inv) whole := by
  -- only turns that began where this one did matter, so that a look needs no more than it sees
  have hfrom : ∀ (routine : Routine σ α) (whole : τ), inv whole →
      (∀ other part, inv other → routine.MakesFrom (get whole) (get other) part →
        guar other (set part other) ∧ inv (set part other)) →
      (routine.within get set).Meets rely guar (fun _ => inv) whole := by
    intro routine
    induction routine with
    | done value => exact fun whole hinv _ => hinv
    | look next ih => exact fun whole hinv h => ih (get whole) whole hinv h
    | put left rest ih =>
      intro whole hinv h
      obtain ⟨hguar, hkept⟩ := h whole left hinv (.inl ⟨rfl, rfl⟩)
      refine ⟨hguar, fun found hfound => ih found (hrely _ found hkept hfound) fun other part hother hmakes => ?_⟩
      exact h other part hother (.inr ⟨get found, hmakes⟩)
    | stuck => exact fun whole hinv h => trivial
  exact hfrom routine whole hinv fun other part hother hmakes => hturn other part hother ⟨get whole, hmakes⟩

/-- A routine on a part of the state keeps there what it promises. -/
theorem Meets.within {get : τ → σ} {set : σ → τ → τ} (hget : ∀ part whole, get (set part whole) = part)
    {post : α → σ → Prop} {routine : Routine σ α} {whole : τ} (h : routine.Meets rely guar post (get whole)) :
    (routine.within get set).Meets (fun s t => rely (get s) (get t)) (fun s t => guar (get s) (get t))
      (fun value found => post value (get found)) whole := by
  induction routine generalizing whole with
  | done value => exact h
  | look next ih => exact ih (get whole) h
  | put left rest ih =>
    refine ⟨?_, fun found hfound => ih (h.2 (get found) ?_)⟩
    · show guar (get whole) (get (set left whole))
      rw [hget]
      exact h.1
    · change rely (get (set left whole)) (get found) at hfound
      rwa [hget] at hfound
  | stuck => trivial

/-! ## Between two turns -/

/-- A routine that waits for its next turn makes only turns within `guar`, whatever other threads within
`rely` do from this state on. -/
def Secure (rely guar : σ → σ → Prop) (routine : Routine σ α) (state : σ) : Prop :=
  ∀ found, rely state found → routine.Meets rely guar (fun _ _ => True) found

/-- A routine that waits is secure still when others have had their turns. -/
theorem Secure.of_rely {routine : Routine σ α} {state later : σ} (h : routine.Secure rely guar state)
    (htrans : ∀ {s t u}, rely s t → rely t u → rely s u) (hrely : rely state later) :
    routine.Secure rely guar later :=
  fun found hfound => h found (htrans hrely hfound)

/-- The next turn is within `guar`, and what is left waits for the turn behind it. -/
theorem Meets.turn {routine : Routine σ α} {state : σ}
    (h : routine.Meets rely guar (fun _ _ => True) state) (hidle : ∀ state, guar state state) :
    guar state (routine.turn state).2 ∧ (routine.turn state).1.Secure rely guar (routine.turn state).2 := by
  induction routine with
  | done value => exact ⟨hidle state, fun found _ => trivial⟩
  | look next ih => exact ih state h
  | put left rest ih => exact h
  | stuck => exact ⟨hidle state, fun found _ => trivial⟩

/-- A routine that waits for its next turn meets a promise, whatever other threads within `rely` do from this
state on. -/
def Waits (rely guar : σ → σ → Prop) (post : α → σ → Prop) (routine : Routine σ α) (state : σ) : Prop :=
  ∀ found, rely state found → routine.Meets rely guar post found

variable {post : α → σ → Prop} {routine : Routine σ α} {state later : σ}

/-- A routine that waits keeps its promise when others have had their turns. -/
theorem Waits.of_rely (h : routine.Waits rely guar post state) (htrans : ∀ {s t u}, rely s t → rely t u → rely s u)
    (hrely : rely state later) : routine.Waits rely guar post later :=
  fun found hfound => h found (htrans hrely hfound)

/-- The next turn of a routine whose promise no other thread breaks. -/
theorem Meets.turn_waits (h : routine.Meets rely guar post state) (hidle : guar state state)
    (hstable : ∀ {value s t}, post value s → rely s t → post value t) :
    guar state (routine.turn state).2 ∧ (routine.turn state).1.Waits rely guar post (routine.turn state).2 := by
  induction routine with
  | done value => exact ⟨hidle, fun found hfound => hstable h hfound⟩
  | look next ih => exact ih state h
  | put left rest ih => exact h
  | stuck => exact ⟨hidle, fun found _ => trivial⟩

end EventBus.Routine
