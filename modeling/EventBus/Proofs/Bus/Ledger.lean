import EventBus.Proofs.Bus.Counts
import EventBus.Proofs.Routine.Account

/-!
# How counts compare

Two counts of a journal compare as what each dispatch adds to the one and to the other, whatever other threads add
in between.

* `Ledger`: no dispatch takes more entries of one sort than it gives of another. `dues` is what a walk may still
  take for the slots in front of it.
* `Booked`: the account of a routine on a bus: how much more it gave than it took, after each of its turns. An end of an
  invocation is entered only where the invocation has come to its end.
* `booked_dispatch`: a ledger is kept by every dispatch with all that is nested in it. The induction is on the
  nesting, then on the programs of handlers and on the chain.
* `ledger_invoked`, `ledger_finished`, `ledger_triggered`: the ledgers behind the counters.
-/

namespace EventBus.Bus

variable {c : Catalog} {σ : Type} {bus : Bus c σ}

/-! ## Balances -/

/-- What an entry adds to the difference of two counts. -/
def Entry.weight (given taken : Entry bus → Bool) (entry : Entry bus) : ℤ :=
  (if given entry then 1 else 0) - if taken entry then 1 else 0

theorem Entry.weight_nonneg {given taken : Entry bus → Bool} {entry : Entry bus} (h : taken entry = false) :
    0 ≤ entry.weight given taken := by
  unfold weight
  rw [h]
  split <;> decide

/-- How many more entries of the first sort are in the journal than of the second. -/
def Run.balance (given taken : Entry bus → Bool) (run : Run bus) : ℤ :=
  run.count given - run.count taken

/-- An entry changes the difference by its weight. -/
theorem Run.balance_of_journal {given taken : Entry bus → Bool} {entry : Entry bus} {run run' : Run bus}
    (h : run'.journal = entry :: run.journal) :
    run'.balance given taken = run.balance given taken + entry.weight given taken := by
  unfold balance Entry.weight
  rw [count_of_journal h, count_of_journal h]
  split <;> split <;> omega

/-- The difference is one of journals: nothing else about a bus matters to it. -/
theorem Run.balance_of_same {given taken : Entry bus → Bool} {run run' : Run bus} (h : run'.journal = run.journal) :
    run'.balance given taken = run.balance given taken := by
  unfold balance count
  rw [h]

/-! ## Ledgers -/

/-- How what is held in the end may differ from what was held before. -/
structure Gauge (keeps : ℤ → ℤ → Prop) : Prop where
  refl : ∀ held, keeps held held
  trans : ∀ {first second third}, keeps first second → keeps second third → keeps first third
  le : ∀ {first second}, keeps first second → first ≤ second
  add : ∀ {first second} (more : ℤ), keeps first second → keeps (more + first) (more + second)

theorem gauge_le : Gauge (· ≤ ·) where
  refl := Int.le_refl
  trans := Int.le_trans
  le := id
  add more h := Int.add_le_add_left h more

theorem gauge_eq : Gauge (· = ·) where
  refl _ := rfl
  trans := Eq.trans
  le := Int.le_of_eq
  add more h := congrArg (more + ·) h

/-- Each thing that a dispatch does is covered by what it has given so far. -/
structure Ledger (bus : Bus c σ) (given taken : Entry bus → Bool) (keeps : ℤ → ℤ → Prop)
    (dues : List bus.Slot → Event c → ℤ) : Prop where
  gauge : Gauge keeps
  aside : ∀ entry : Entry bus, entry.isAside → entry.weight given taken = 0
  raised : ∀ event, 0 ≤ Entry.weight given taken (.raised event)
  unheard : ∀ event, bus.chain event.kind = [] → keeps 0 (Entry.weight given taken (.raised event))
  entered : ∀ event, bus.chain event.kind ≠ [] →
    keeps (dues (bus.chain event.kind) event)
      (Entry.weight given taken (.raised event) + Entry.weight given taken (.triggered event))
  left : ∀ slots event, keeps 0 (dues slots event)
  skipped : ∀ slot slots event, keeps (dues slots event) (dues (slot :: slots) event)
  begun : ∀ slot slots event, 0 ≤ dues (slot :: slots) event + Entry.weight given taken (.invoked slot event)
  finished : ∀ slot slots event failure,
    keeps (dues slots event)
      (dues (slot :: slots) event + Entry.weight given taken (.invoked slot event)
        + Entry.weight given taken (.finished slot event.kind failure))

/-! ## Accounts of dispatches -/

variable {α β : Type} {given taken : Entry bus → Bool} {keeps : ℤ → ℤ → Prop}
  {dues : List bus.Slot → Event c → ℤ}

variable {env : Environment σ}

/-- A routine never holds less than it owes, and in the end it holds what `post` says. It finishes invocations only where
they have come to their end. -/
def Booked (env : Environment σ) (given taken : Entry bus → Bool) (owed : ℤ) (post : α → ℤ → Prop)
    (routine : Routine (Run bus) α) (run : Run bus) (held : ℤ) : Prop :=
  routine.Accounts (Run.balance given taken) Becomes (Turn (Concludes env)) (owed ≤ ·)
    (fun value _ held => post value held) run held

/-- A routine that is over holds what it was given. -/
theorem booked_pure {owed held : ℤ} {post : α → ℤ → Prop} {value : α} (run : Run bus) (h : post value held) :
    Booked env given taken owed post (pure value) run held := h

/-- What comes behind a routine may use that it has come to its value by its own turns, with those of others between
them. -/
theorem Booked.bind_comes {owed lower held : ℤ} {first : α → ℤ → Prop} {post : β → ℤ → Prop}
    {routine : Routine (Run bus) α} {rest : α → Routine (Run bus) β} {run : Run bus}
    (h : Booked env given taken owed first routine run held) (howed : lower ≤ owed)
    (hrest : ∀ value found held, routine.Comes Becomes run value found → Becomes run found → first value held →
      Booked env given taken lower post (rest value) found held) :
    Booked env given taken lower post (routine >>= rest) run held := by
  have hbecomes := Routine.Accounts.along (fun _ => .refl) (fun h h' => h.trans h') (fun h => h) Turn.becomes h.comes
  refine Routine.accounts_bind_iff.mpr (hbecomes.mono (fun held hheld => Int.le_trans howed hheld) ?_)
  rintro value found held ⟨hbecame, hcomes, hheld⟩
  exact hrest value found held hcomes hbecame hheld

/-- What a routine holds in the end is what the one behind it begins with, and that one owes no more. -/
theorem Booked.bind {owed lower held : ℤ} {first : α → ℤ → Prop} {post : β → ℤ → Prop}
    {routine : Routine (Run bus) α} {rest : α → Routine (Run bus) β} {run : Run bus}
    (h : Booked env given taken owed first routine run held) (howed : lower ≤ owed)
    (hrest : ∀ value found held, first value held → Booked env given taken lower post (rest value) found held) :
    Booked env given taken lower post (routine >>= rest) run held :=
  h.bind_comes howed fun value found held _ _ hheld => hrest value found held hheld

/-- A turn of its own in front of a routine. -/
theorem booked_atomic_bind {owed held : ℤ} {post : β → ℤ → Prop} {act : Run bus → α × Run bus}
    {rest : α → Routine (Run bus) β} {run : Run bus} (added : ℤ) (hturn : Turn (Concludes env) run (act run).2)
    (hadded : (act run).2.balance given taken = run.balance given taken + added) (howed : owed ≤ held + added)
    (hrest : ∀ found, Becomes (act run).2 found →
      Booked env given taken owed post (rest (act run).1) found (held + added)) :
    Booked env given taken owed post (.atomic act >>= rest) run held := by
  have hsame : (act run).2.balance given taken - run.balance given taken = added := by omega
  refine Routine.accounts_atomic_bind hturn ?_ fun found hfound => ?_
  · rw [hsame]
    exact howed
  · rw [hsame]
    exact hrest found hfound

/-- A turn that touches neither count. -/
theorem booked_quiet_bind {owed held : ℤ} {post : β → ℤ → Prop} {act : Run bus → α × Run bus}
    {rest : α → Routine (Run bus) β} {run : Run bus} (hturn : Turn (Concludes env) run (act run).2)
    (hsame : (act run).2.balance given taken = run.balance given taken) (howed : owed ≤ held)
    (hrest : ∀ found, Booked env given taken owed post (rest (act run).1) found held) :
    Booked env given taken owed post (.atomic act >>= rest) run held := by
  refine booked_atomic_bind 0 hturn (by omega) (by omega) fun found _ => ?_
  rw [add_zero]
  exact hrest found

variable (hledger : Ledger bus given taken keeps dues)

include hledger

/-- An entry that belongs to no count leaves the difference as it is. -/
theorem Ledger.balance_aside (entry : Entry bus) (haside : entry.isAside) {run run' : Run bus}
    (h : run'.journal = entry :: run.journal) : run'.balance given taken = run.balance given taken := by
  rw [Run.balance_of_journal h, hledger.aside entry haside, add_zero]

/-- The change of an activation by a command leaves the difference as it is, whether the name is known or not. -/
theorem Ledger.balance_setActivated (name : String) (on : Bool) (run : Run bus) :
    (run.setActivated name on).2.balance given taken = run.balance given taken := by
  unfold Run.setActivated
  split
  · next slot _ =>
    exact hledger.balance_aside (.activation slot on (run.isActive slot != on) .command) rfl rfl
  · rfl

/-- An announcement leaves the difference as it is, whether it is accepted or refused. -/
theorem Ledger.balance_handshake (id : SubscriberId) (name : String) (run : Run bus) :
    (run.handshake id name).2.balance given taken = run.balance given taken := by
  unfold Run.handshake
  split
  · next slot _ =>
    exact hledger.balance_aside (.activation slot true (run.isActive slot != true) .handshake) rfl rfl
  · exact hledger.balance_aside (.refused id name) rfl rfl

theorem Ledger.balance_consider (slot : bus.Slot) (event : Event c) (run : Run bus) :
    (run.consider slot event).2.balance given taken = run.balance given taken := by
  unfold Run.consider
  split
  · rfl
  · exact hledger.balance_aside (.passedOver slot event) rfl rfl

omit hledger in
/-- Raises that keep a ledger: each holds in the end what is due after the raise is in the journal. -/
def Settled (env : Environment σ) (given taken : Entry bus → Bool) (keeps : ℤ → ℤ → Prop) (raise : Raise bus) : Prop :=
  ∀ event out run owed,
    Booked env given taken owed (fun _ held => keeps owed held) (raise event out) run
      (owed + Entry.weight given taken (.raised event))

variable {raise : Raise bus}

/-- A program keeps a ledger if the raises that it makes do. -/
theorem booked_perform (hraise : Settled env given taken keeps raise) (program : Program c σ) {owed held : ℤ}
    (hheld : keeps owed held) (run : Run bus) :
    Booked env given taken owed (fun _ held => keeps owed held) (perform raise program) run held := by
  have hle := hledger.gauge.le hheld
  induction program generalizing held run with
  | finish outcome => exact booked_pure run hheld
  | setActivated name on next ih =>
    exact booked_quiet_bind (turn_setActivated name on run) (hledger.balance_setActivated name on run) hle
      fun found => ih _ hheld found hle
  | isActivated name next ih => exact booked_quiet_bind (.idle run) rfl hle fun found => ih _ hheld found hle
  | handshake id name next ih =>
    exact booked_quiet_bind (turn_handshake id name run) (hledger.balance_handshake id name run) hle
      fun found => ih _ hheld found hle
  | raise event out next ih =>
    have hraised := hledger.raised event
    refine booked_atomic_bind (Entry.weight given taken (.raised event)) (.enter rfl run)
      (Run.balance_of_journal rfl) (by omega) fun found _ => ?_
    -- what the raise holds in the end is what the rest of the program begins with
    refine (hraise event out found held).bind hle fun (status, left) found after hafter => ?_
    have hkept := hledger.gauge.trans hheld hafter
    exact ih status left hkept found (hledger.gauge.le hkept)
  | note record next ih =>
    exact booked_quiet_bind (.enter rfl run) (hledger.balance_aside (.noted record) rfl rfl) hle
      fun found => ih hheld found hle
  | look next ih => exact booked_quiet_bind (.idle run) rfl hle fun found => ih _ hheld found hle
  | change f next ih =>
    exact booked_quiet_bind (.world f run) (Run.balance_of_same rfl) hle fun found => ih hheld found hle

/-- An invocation keeps a ledger: its own entries are in no count, and the raises of its handler keep it. -/
theorem booked_invoke (hraise : Settled env given taken keeps raise) (slot : bus.Slot) (event : Event c)
    (view : Option EventOut) (run : Run bus) (held : ℤ) :
    Booked env given taken held (fun _ after => keeps held after) (invoke env raise slot event view) run held := by
  have hheld := hledger.gauge.refl held
  rw [invoke]
  split
  · next client _ =>
    refine booked_quiet_bind (.session slot _ run) (Run.balance_of_same rfl) (Int.le_refl held) fun found => ?_
    dsimp only
    split
    · exact booked_pure found hheld
    · next e _ =>
      split
      -- the loss is journalled as a change of activation, which no ledger counts
      · refine booked_quiet_bind (.activate slot false (.delivery e) found) ?_ (Int.le_refl held) fun later => ?_
        · exact hledger.balance_aside (.activation slot false (found.isActive slot != false) (.delivery e)) rfl rfl
        · exact booked_pure later hheld
      · exact booked_pure found hheld
  · split
    · next handler _ =>
      refine (booked_perform hledger hraise (handler.handle event view) hheld run).bind (Int.le_refl held) ?_
      exact fun outcome found after hafter => booked_pure found hafter
    · exact booked_pure run hheld

/-- What is due for the slots in front of a walk is due once more when the first of them was served: what was due for it
has gone into its two entries. -/
theorem Ledger.keeps_served (slot : bus.Slot) (slots : List bus.Slot) (event : Event c)
    (failure : Option DispatchError) {owed held after : ℤ} (hheld : keeps (owed + dues (slot :: slots) event) held)
    (hafter : keeps (held + Entry.weight given taken (.invoked slot event)) after) :
    keeps (owed + dues slots event) (after + Entry.weight given taken (.finished slot event.kind failure)) := by
  let invoked := Entry.weight given taken (.invoked slot event)
  let finished := Entry.weight given taken (.finished slot event.kind failure)
  -- what was due covers the entries of the invocation and of its end; what lies between them keeps by itself
  have hfinished := hledger.gauge.add owed (hledger.finished slot slots event failure)
  have hsum : owed + (dues (slot :: slots) event + invoked + finished)
      = (invoked + finished) + (owed + dues (slot :: slots) event) := by omega
  change keeps _ (owed + (dues (slot :: slots) event + invoked + finished)) at hfinished
  rw [hsum] at hfinished
  have hserved := hledger.gauge.trans hfinished (hledger.gauge.add _ hheld)
  have hsum : (invoked + finished) + held = finished + (held + invoked) := by omega
  rw [hsum] at hserved
  rw [Int.add_comm after]
  exact hledger.gauge.trans hserved (hledger.gauge.add finished hafter)

variable {depth : Nat}

/-- What was due for a slot is taken when it is served, and its end is entered where its invocation has come to its
end. -/
theorem booked_serve (hraise : Settled env given taken keeps (dispatch env depth : Raise bus)) {slot : bus.Slot}
    {event : Event c} (hserves : (bus.subscriber slot).serves event.kind) (slots : List bus.Slot) (out : EventOut)
    (run : Run bus) {owed held : ℤ} (hheld : keeps (owed + dues (slot :: slots) event) held) :
    Booked env given taken owed (fun _ after => keeps (owed + dues slots event) after)
      (serve env (dispatch env depth) slot event out) run held := by
  have hbegun := hledger.begun slot slots event
  have hle := hledger.gauge.le hheld
  unfold serve
  -- between the two entries of the slot lies its invocation, with the dispatches that are nested in it
  refine booked_atomic_bind (Entry.weight given taken (.invoked slot event)) (.begin slot event run)
    (Run.balance_of_journal rfl) (by omega) fun started hstarted => ?_
  refine (booked_invoke hledger hraise slot event _ started _).bind_comes (by omega) ?_
  intro response ended after hcomes hended hafter
  -- what the invocation has come to is how it went, so the end may be entered
  obtain ⟨deed, hinvoked, hfailure⟩ := (comes_invoke_iff hserves).mp hcomes
  have hkept := hledger.keeps_served slot slots event response.failure hheld hafter
  have hdues := hledger.gauge.le (hledger.left slots event)
  have hafter := hledger.gauge.le hkept
  refine booked_atomic_bind (Entry.weight given taken (.finished slot event.kind response.failure)) ?_
    (Run.balance_of_journal rfl) (by omega) fun found _ => booked_pure found hkept
  dsimp only
  rw [hfailure]
  exact .finish slot event.kind _ deed ended (.intro hstarted hinvoked hended)

/-- A walk that holds what is due for the slots in front of it keeps a ledger, wherever it stops. -/
theorem booked_walk (hraise : Settled env given taken keeps (dispatch env depth : Raise bus)) {event : Event c}
    {slots : List bus.Slot} (hserves : ∀ slot ∈ slots, (bus.subscriber slot).serves event.kind) (out : EventOut)
    (run : Run bus) {owed held : ℤ} (hheld : keeps (owed + dues slots event) held) :
    Booked env given taken owed (fun _ after => keeps owed after) (walk env (dispatch env depth) event slots out) run
      held := by
  -- whatever is still due may be left
  have hleft : ∀ slots {held}, keeps (owed + dues slots event) held → keeps owed held := fun slots held hkept => by
    have hdues := hledger.gauge.add owed (hledger.left slots event)
    rw [add_zero] at hdues
    exact hledger.gauge.trans hdues hkept
  induction slots generalizing out run held with
  | nil => exact booked_pure run (hleft [] hheld)
  | cons slot slots ih =>
    obtain ⟨hslot, hslots⟩ := List.forall_mem_cons.mp hserves
    rw [walk_cons]
    refine booked_quiet_bind (turn_consider slot event run) (hledger.balance_consider slot event run)
      (hledger.gauge.le (hleft _ hheld)) fun found => ?_
    split
    · refine (booked_serve hledger hraise hslot slots out found hheld).bind (Int.le_refl owed) ?_
      rintro ⟨failure, left⟩ found after hafter
      have hle := hledger.gauge.le (hleft _ hafter)
      cases failure with
      | none => exact ih hslots left found hafter
      | some error =>
        unfold goOn
        dsimp only
        -- the note of the failure is in neither count, whether the walk ends with it or not
        split
        · refine booked_quiet_bind (.enter rfl found) ?_ hle fun later => booked_pure later (hleft _ hafter)
          exact hledger.balance_aside (.aborted slot event.kind error) rfl rfl
        · refine booked_quiet_bind (.enter rfl found) ?_ hle fun later => ih hslots left later hafter
          exact hledger.balance_aside (.absorbed slot event.kind error) rfl rfl
    -- the slot was passed over, and what was due for it is left
    · exact ih hslots out found (hledger.gauge.trans (hledger.gauge.add owed (hledger.skipped slot slots event)) hheld)

variable (hnodup : ∀ slot, ((bus.subscriber slot).inbounds.map Prod.fst).Nodup)

include hnodup

/-- A dispatch takes for the slots of its chain no more than its trigger has given; with an empty chain it takes
nothing. -/
theorem settled_dispatchBy (hraise : Settled env given taken keeps (dispatch env depth : Raise bus)) :
    Settled env given taken keeps (dispatchBy env (dispatch env depth) : Raise bus) := by
  intro event out run owed
  unfold dispatchBy
  split
  · next hempty =>
    have hkept := hledger.gauge.add owed (hledger.unheard event hempty)
    rw [add_zero] at hkept
    exact booked_pure run hkept
  · next hchain =>
    -- the raise and the trigger together cover what is due for the whole chain
    let triggered := Entry.weight given taken (.triggered event)
    have hkept : keeps (owed + dues (bus.chain event.kind) event)
        (owed + Entry.weight given taken (.raised event) + triggered) := by
      rw [Int.add_assoc]
      exact hledger.gauge.add owed (hledger.entered event hchain)
    have hdues := hledger.gauge.le (hledger.left (bus.chain event.kind) event)
    have hle := hledger.gauge.le hkept
    have hserves : ∀ slot ∈ bus.chain event.kind, (bus.subscriber slot).serves event.kind :=
      fun slot hslot => serves_of_mem_chain hnodup hslot
    refine booked_atomic_bind triggered (.trigger event run) (Run.balance_of_journal rfl) (by omega) fun found _ => ?_
    exact booked_walk hledger hraise hserves out found hkept

/-- However deep raises nest, a dispatch keeps a ledger. -/
theorem settled_dispatch (env : Environment σ) (depth : Nat) :
    Settled env given taken keeps (dispatch env depth : Raise bus) := by
  induction depth with
  | zero => exact fun event out run owed => trivial
  | succ depth ih => exact settled_dispatchBy hledger hnodup ih

omit hnodup

/-! ## The ledgers of the counters -/

omit hledger

/-- Where nothing is counted, every turn is in order. -/
theorem ledger_nothing (bus : Bus c σ) : Ledger bus (fun _ => false) (fun _ => false) (· = ·) fun _ _ => 0 where
  gauge := gauge_eq
  aside _ _ := rfl
  raised _ := Int.le_refl 0
  unheard _ _ := rfl
  entered _ _ := rfl
  left _ _ := rfl
  skipped _ _ _ := rfl
  begun _ _ _ := Int.le_refl 0
  finished _ _ _ _ := rfl

/-- A slot is invoked for a kind at most once for each trigger of the kind, as it is in the chain at most once. -/
theorem ledger_invoked (hnodup : ∀ kind, (bus.chain kind).Nodup) (slot : bus.Slot) (kind : c.Kind) :
    Ledger bus (Entry.isTriggered kind) (Entry.isInvoked slot kind) (· ≤ ·)
      fun slots event => if event.kind = kind then slots.count slot else 0 where
  gauge := gauge_le
  aside entry haside := by
    cases entry with
    | raised | triggered | invoked | finished => cases haside
    | _ => rfl
  raised event := Int.le_refl 0
  unheard event hempty := Int.le_refl 0
  entered event hchain := by
    -- one trigger pays for one invocation, and the slot is in the chain once
    have hcount := List.nodup_iff_count_le_one.mp (hnodup event.kind) slot
    unfold Entry.weight Entry.isTriggered Entry.isInvoked
    by_cases hkind : event.kind = kind
    · simp [hkind] at hcount ⊢
      omega
    · simp [hkind]
  left slots event := by
    split <;> omega
  skipped other slots event := by
    rw [List.count_cons]
    split <;> omega
  begun other slots event := by
    unfold Entry.weight Entry.isTriggered Entry.isInvoked
    by_cases hkind : event.kind = kind <;> by_cases hslot : other = slot <;> simp [hkind, hslot]
  finished other slots event failure := by
    unfold Entry.weight Entry.isTriggered Entry.isInvoked
    by_cases hkind : event.kind = kind <;> by_cases hslot : other = slot <;> simp [hkind, hslot]

/-- Each invocation ends once. -/
theorem ledger_finished (slot : bus.Slot) (kind : c.Kind) :
    Ledger bus (Entry.isInvoked slot kind) (Entry.isFinished slot kind) (· = ·) fun _ _ => 0 where
  gauge := gauge_eq
  aside entry haside := by
    cases entry with
    | raised | triggered | invoked | finished => cases haside
    | _ => rfl
  raised event := Int.le_refl 0
  unheard event hempty := rfl
  entered event hchain := rfl
  left slots event := rfl
  skipped other slots event := rfl
  begun other slots event := by
    have hweight : 0 ≤ Entry.weight (Entry.isInvoked slot kind) (Entry.isFinished slot kind) (.invoked other event) :=
      Entry.weight_nonneg rfl
    omega
  finished other slots event failure := by
    unfold Entry.weight Entry.isInvoked Entry.isFinished
    -- the invocation and its end weigh the same with opposite signs
    by_cases hkind : event.kind = kind <;> by_cases hslot : other = slot <;> simp [hkind, hslot]

/-- Raises of a kind that somebody receives. -/
def Entry.isHeard (kind : c.Kind) (entry : Entry bus) : Bool :=
  entry.isRaised kind && !(bus.chain kind).isEmpty

/-- Each raise of a kind that somebody receives is one trigger of the kind. -/
theorem ledger_triggered (bus : Bus c σ) (kind : c.Kind) :
    Ledger bus (Entry.isHeard kind) (Entry.isTriggered kind) (· = ·) fun _ _ => 0 where
  gauge := gauge_eq
  aside entry haside := by
    cases entry with
    | raised | triggered | invoked | finished => cases haside
    | _ => rfl
  raised event := Entry.weight_nonneg rfl
  unheard event hempty := by
    unfold Entry.weight Entry.isHeard Entry.isRaised Entry.isTriggered
    by_cases hkind : event.kind = kind
    · subst hkind
      simp [hempty]
    · simp [hkind]
  entered event hchain := by
    unfold Entry.weight Entry.isHeard Entry.isRaised Entry.isTriggered
    by_cases hkind : event.kind = kind
    · subst hkind
      -- an event with somebody to hear it is triggered once for being raised
      simp [hchain]
    · simp [hkind]
  left slots event := rfl
  skipped other slots event := rfl
  begun other slots event := Int.le_refl 0
  finished other slots event failure := rfl

end EventBus.Bus
