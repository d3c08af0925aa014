import EventBus.Proofs.Access.Gate

/-!
# What passes a gate

As long as the gate of a bus is not deactivated, whatever any threads do on the bus, other subscribers are invoked
for its kinds only with events that are allowed.

* `Run.Holds`: the gate was deactivated at some time, or it is active and all invocations so far are cleared.
* `Follows`: the law of all threads. It keeps `Run.Holds`, and that the gate was deactivated.
* `abides_perform`, `abides_walk`, `abides_dispatchBy`: each part of a dispatch keeps the law. Behind the gate a walk
  knows that its event is allowed, or that the gate was deactivated, and no other thread can undo either.
* `abides_dispatch`: every dispatch keeps the law, by induction on the nesting of raises.
-/

namespace EventBus.Bus

variable {c : Catalog} {σ α β : Type} {bus : Bus c σ}

/-! ## The law -/

/-- A slot was deactivated at some time. -/
def Run.WasDeactivated (slot : bus.Slot) (run : Run bus) : Prop :=
  ∃ changed cause, .activation slot false changed cause ∈ run.journal

/-- This is the deactivation of a slot. -/
def Entry.isDeactivation (slot : bus.Slot) : Entry bus → Bool
  | .activation other on _ _ => other = slot && !on
  | _ => false

/-- Whether a subscriber was ever deactivated is in the journal. -/
theorem Run.wasDeactivated_iff {slot : bus.Slot} {run : Run bus} :
    run.WasDeactivated slot ↔ run.journal.any (Entry.isDeactivation slot) := by
  rw [List.any_eq_true]
  constructor
  · rintro ⟨changed, cause, hmem⟩
    exact ⟨_, hmem, by simp [Entry.isDeactivation]⟩
  · rintro ⟨entry, hmem, hentry⟩
    cases entry with
    | activation other on changed cause =>
      rw [Entry.isDeactivation, Bool.and_eq_true, decide_eq_true_eq, Bool.not_eq_true'] at hentry
      obtain ⟨rfl, rfl⟩ := hentry
      exact ⟨changed, cause, hmem⟩
    | _ => cases hentry

instance (slot : bus.Slot) (run : Run bus) : Decidable (run.WasDeactivated slot) :=
  decidable_of_iff _ Run.wasDeactivated_iff.symm

/-- If this is an invocation, then of the gate itself, or with an event that is allowed, or of another kind. -/
def Entry.IsCleared (gate : bus.Slot) (acl : AccessControl c) (kinds : c.Kind → Prop) : Entry bus → Prop
  | .invoked slot event => slot = gate ∨ (kinds event.kind → acl.verify event.origin event.kind = .allowed)
  | _ => True

/-- Unless the gate was deactivated at some time, it is active, and all invocations so far are cleared. -/
def Run.Holds (gate : bus.Slot) (acl : AccessControl c) (kinds : c.Kind → Prop) (run : Run bus) : Prop :=
  run.WasDeactivated gate ∨ (run.isActive gate = true ∧ ∀ entry ∈ run.journal, entry.IsCleared gate acl kinds)

/-- What threads do on a bus with a gate. -/
structure Follows (gate : bus.Slot) (acl : AccessControl c) (kinds : c.Kind → Prop) (before after : Run bus) :
    Prop where
  deactivated : before.WasDeactivated gate → after.WasDeactivated gate
  holds : before.Holds gate acl kinds → after.Holds gate acl kinds

variable {gate slot : bus.Slot} {acl : AccessControl c} {kinds : c.Kind → Prop} {env : Environment σ}
  {raise : Raise bus} {event : Event c} {run before after : Run bus}

theorem Follows.refl (run : Run bus) : Follows gate acl kinds run run := ⟨id, id⟩

theorem Follows.trans {middle : Run bus} (h : Follows gate acl kinds before middle)
    (h' : Follows gate acl kinds middle after) : Follows gate acl kinds before after :=
  ⟨h'.deactivated ∘ h.deactivated, h'.holds ∘ h.holds⟩

/-- What is noted is cleared, and an active gate stays active unless its deactivation is noted. -/
theorem follows_of_entries {entries : List (Entry bus)} (hjournal : after.journal = entries ++ before.journal)
    (hentries : before.WasDeactivated gate ∨ ∀ entry ∈ entries, entry.IsCleared gate acl kinds)
    (hactive : after.WasDeactivated gate ∨ (before.isActive gate = true → after.isActive gate = true)) :
    Follows gate acl kinds before after := by
  -- entries are only added, so a deactivation once journalled stays
  have hkept : before.WasDeactivated gate → after.WasDeactivated gate := by
    rintro ⟨changed, cause, hmem⟩
    exact ⟨changed, cause, hjournal ▸ List.mem_append_right entries hmem⟩
  refine ⟨hkept, ?_⟩
  rintro (hdown | ⟨hup, hcleared⟩)
  · exact .inl (hkept hdown)
  · rcases hentries with hdown | hentries
    · exact .inl (hkept hdown)
    · rcases hactive with hdown | hactive
      · exact .inl hdown
      · refine .inr ⟨hactive hup, ?_⟩
        rw [hjournal]
        exact List.forall_mem_append.mpr ⟨hentries, hcleared⟩

/-- Where nothing is noted and no activation changes, the law is kept. -/
theorem follows_of_isActive (hjournal : after.journal = before.journal)
    (hactive : after.isActive gate = before.isActive gate) : Follows gate acl kinds before after := by
  have hnothing : after.journal = [] ++ before.journal := hjournal
  exact follows_of_entries hnothing (.inr fun _ hmem => absurd hmem List.not_mem_nil)
    (.inr fun hup => hactive.trans hup)

theorem follows_enter {entry : Entry bus} (hentry : entry.IsCleared gate acl kinds) (run : Run bus) :
    Follows gate acl kinds run (run.enter entry) := by
  have hnoted : (run.enter entry).journal = [entry] ++ run.journal := rfl
  exact follows_of_entries hnoted (.inr (List.forall_mem_singleton.mpr hentry)) (.inr id)

theorem follows_trigger (event : Event c) (run : Run bus) : Follows gate acl kinds run (run.trigger event) := by
  have hnoted : (run.trigger event).journal = [.triggered event] ++ run.journal := rfl
  exact follows_of_entries hnoted (.inr (List.forall_mem_singleton.mpr trivial)) (.inr id)

/-- An invocation is on the law if it is cleared, or if the gate was deactivated before. -/
theorem follows_begin
    (hcleared : run.WasDeactivated gate ∨ (Entry.invoked slot event).IsCleared gate acl kinds) :
    Follows gate acl kinds run (run.begin slot event) := by
  have hnoted : (run.begin slot event).journal = [.invoked slot event] ++ run.journal := rfl
  refine follows_of_entries hnoted (hcleared.imp id List.forall_mem_singleton.mpr) (.inr fun hup => ?_)
  rw [Run.isActive_begin, hup]

theorem follows_finish (slot : bus.Slot) (kind : c.Kind) (elapsed : Duration) (failure : Option DispatchError)
    (run : Run bus) : Follows gate acl kinds run (run.finish slot kind elapsed failure) := by
  have hnoted : (run.finish slot kind elapsed failure).journal = [.finished slot kind failure] ++ run.journal := rfl
  refine follows_of_entries hnoted (.inr (List.forall_mem_singleton.mpr trivial)) (.inr fun hup => ?_)
  rw [Run.isActive_finish, hup]

/-- A gate that is deactivated is noted to be. -/
theorem follows_activate (slot : bus.Slot) (on : Bool) (cause : Cause) (run : Run bus) :
    Follows gate acl kinds run (run.activate slot on cause) := by
  have hnoted : (run.activate slot on cause).journal
      = [.activation slot on (run.isActive slot != on) cause] ++ run.journal := rfl
  refine follows_of_entries hnoted (.inr (List.forall_mem_singleton.mpr trivial)) ?_
  by_cases hsame : gate = slot
  · subst hsame
    cases on with
    | false =>
      refine .inl ⟨run.isActive gate != false, cause, ?_⟩
      rw [hnoted]
      exact List.mem_cons_self
    | true => exact .inr fun _ => Run.isActive_activate_self gate true cause run
  · refine .inr fun hup => ?_
    rw [Run.isActive_activate_of_ne _ _ _ hsame, hup]

/-- A command is on the law: should it deactivate the gate, that is in the journal from then on. -/
theorem follows_setActivated (name : String) (on : Bool) (run : Run bus) :
    Follows gate acl kinds run (run.setActivated name on).2 := by
  rw [Run.setActivated]
  split
  · exact follows_activate _ on .command run
  · exact .refl run

theorem follows_handshake (id : SubscriberId) (name : String) (run : Run bus) :
    Follows gate acl kinds run (run.handshake id name).2 := by
  rw [Run.handshake]
  split
  · exact follows_activate _ true .handshake run
  · exact follows_enter (by exact trivial) run

theorem follows_consider (slot : bus.Slot) (event : Event c) (run : Run bus) :
    Follows gate acl kinds run (run.consider slot event).2 := by
  rw [Run.consider]
  split
  · exact .refl run
  · exact follows_enter (by exact trivial) run

theorem follows_inSession (slot : bus.Slot) (act : Session σ → α × Session σ) (run : Run bus) :
    Follows gate acl kinds run (run.inSession slot act).2 :=
  follows_of_isActive rfl (Run.isActive_inSession slot gate act run)

/-! ## Threads -/

variable (gate acl kinds) in
/-- From this state on a routine follows the law, if the others do. -/
abbrev Abides (post : α → Run bus → Prop) (routine : Routine (Run bus) α) (run : Run bus) : Prop :=
  routine.Meets (Follows gate acl kinds) (Follows gate acl kinds) post run

/-- A lawful turn in front of a routine: what holds is handed on to it. -/
theorem abides_atomic_bind {act : Run bus → α × Run bus} {rest : α → Routine (Run bus) β}
    {post : β → Run bus → Prop} (hholds : run.Holds gate acl kinds) (hact : Follows gate acl kinds run (act run).2)
    (hrest : ∀ found, Follows gate acl kinds (act run).2 found → found.Holds gate acl kinds →
      Abides gate acl kinds post (rest (act run).1) found) :
    Abides gate acl kinds post (.atomic act >>= rest) run := by
  refine Routine.meets_bind_iff.mpr (Routine.meets_atomic_iff.mpr ⟨hact, fun found hfound => ?_⟩)
  exact hrest found hfound (hfound.holds (hact.holds hholds))

/-- Whatever is raised abides by the law. -/
def RaiseAbides (gate : bus.Slot) (acl : AccessControl c) (kinds : c.Kind → Prop) (raise : Raise bus) : Prop :=
  ∀ event out run, run.Holds gate acl kinds →
    Abides gate acl kinds (fun _ found => found.Holds gate acl kinds) (raise event out) run

/-- A program abides if its raises do: nothing else that it can do invokes a subscriber. -/
theorem abides_perform (hraise : RaiseAbides gate acl kinds raise) (program : Program c σ)
    (hholds : run.Holds gate acl kinds) :
    Abides gate acl kinds (fun _ found => found.Holds gate acl kinds) (perform raise program) run := by
  induction program generalizing run with
  | finish outcome => exact hholds
  | setActivated name on next ih =>
    exact abides_atomic_bind hholds (follows_setActivated name on run) fun found _ hfound => ih _ hfound
  | isActivated name next ih =>
    exact abides_atomic_bind hholds (.refl run) fun found _ hfound => ih _ hfound
  | handshake id name next ih =>
    exact abides_atomic_bind hholds (follows_handshake id name run) fun found _ hfound => ih _ hfound
  | raise event out next ih =>
    -- a raise is the one place where other events run: what they do is the hypothesis on raise
    refine abides_atomic_bind hholds (follows_enter (by exact trivial) run) fun noted _ hnoted => ?_
    rw [Abides, Routine.meets_bind_iff]
    exact (hraise event out noted hnoted).mono (fun _ _ hlaw => hlaw) fun answer found hfound => ih _ _ hfound
  | note record next ih =>
    exact abides_atomic_bind hholds (follows_enter (by exact trivial) run) fun found _ hfound => ih hfound
  | look next ih =>
    exact abides_atomic_bind hholds (.refl run) fun found _ hfound => ih _ hfound
  | change f next ih =>
    exact abides_atomic_bind hholds (follows_of_isActive rfl rfl) fun found _ hfound => ih hfound

/-- An invocation keeps the law if raises do. -/
theorem abides_invoke (hraise : RaiseAbides gate acl kinds raise) (view : Option EventOut)
    (hholds : run.Holds gate acl kinds) :
    Abides gate acl kinds (fun _ found => found.Holds gate acl kinds) (invoke env raise slot event view) run := by
  rw [invoke]
  split
  · next client _ =>
    -- a remote delivery may end by setting the subscriber itself inactive, with the cause in the journal
    refine abides_atomic_bind hholds (follows_inSession slot _ run) fun found _ hfound => ?_
    dsimp only
    split
    · exact hfound
    · next e _ =>
      split
      · exact abides_atomic_bind hfound (follows_activate slot false (.delivery e) found) fun later _ hlater => hlater
      · exact hfound
  · split
    · next handler _ =>
      rw [callHandler, Abides, Routine.meets_bind_iff]
      exact (abides_perform hraise _ hholds).mono (fun _ _ hlaw => hlaw) fun outcome found hfound => hfound
    · exact hholds

/-- A subscriber may be served if its invocation is cleared, or if the gate was deactivated. -/
theorem abides_serve (env : Environment σ) (hraise : RaiseAbides gate acl kinds raise) (out : EventOut)
    (hholds : run.Holds gate acl kinds)
    (hcleared : run.WasDeactivated gate ∨ (Entry.invoked slot event).IsCleared gate acl kinds) :
    Abides gate acl kinds (fun _ found => found.Holds gate acl kinds) (serve env raise slot event out) run := by
  refine abides_atomic_bind hholds (follows_begin hcleared) fun started _ hstarted => ?_
  rw [Abides, Routine.meets_bind_iff]
  refine (abides_invoke hraise _ hstarted).mono (fun _ _ hlaw => hlaw) fun response ended hended => ?_
  exact abides_atomic_bind hended (follows_finish slot event.kind _ _ ended) fun counted _ hcounted => hcounted

/-- An event has passed the gate: it is allowed, or of another kind, or the gate was deactivated. -/
def HasPassed (gate : bus.Slot) (acl : AccessControl c) (kinds : c.Kind → Prop) (event : Event c) (run : Run bus) :
    Prop :=
  run.WasDeactivated gate ∨ (kinds event.kind → acl.verify event.origin event.kind = .allowed)

/-- No other thread can undo that. -/
theorem HasPassed.follows (h : HasPassed gate acl kinds event before) (hlaw : Follows gate acl kinds before after) :
    HasPassed gate acl kinds event after :=
  h.imp hlaw.deactivated id

/-- Who is invoked behind the gate is invoked with an event that was let pass. -/
theorem HasPassed.isCleared (h : HasPassed gate acl kinds event run) (slot : bus.Slot) :
    run.WasDeactivated gate ∨ (Entry.invoked slot event).IsCleared gate acl kinds :=
  h.imp id .inr

/-- Behind the gate a walk abides, whatever the slots. -/
theorem abides_walk (hraise : RaiseAbides gate acl kinds raise) (slots : List bus.Slot) (out : EventOut)
    (hholds : run.Holds gate acl kinds) (hpassed : HasPassed gate acl kinds event run) :
    Abides gate acl kinds (fun _ found => found.Holds gate acl kinds) (walk env raise event slots out) run := by
  induction slots generalizing out run with
  | nil => exact hholds
  | cons slot rest ih =>
    rw [walk_cons]
    refine abides_atomic_bind hholds (follows_consider slot event run) fun found hfound hfoundHolds => ?_
    have hfoundPassed := hpassed.follows ((follows_consider slot event run).trans hfound)
    split
    · -- behind the subscriber the event has still passed, whoever had turns in between
      have hserve := (abides_serve env hraise out hfoundHolds (hfoundPassed.isCleared slot)).along
        Follows.refl Follows.trans id id
      rw [Abides, Routine.meets_bind_iff]
      refine hserve.mono (fun _ _ hlaw => hlaw) ?_
      rintro ⟨failure, left⟩ served ⟨hlaw, hserved⟩
      have hservedPassed := hfoundPassed.follows hlaw
      cases failure with
      | none => exact ih left hserved hservedPassed
      | some error =>
        rw [goOn]
        split
        · exact abides_atomic_bind hserved (follows_enter (by exact trivial) served) fun later _ hlater => hlater
        · refine abides_atomic_bind hserved (follows_enter (by exact trivial) served) fun later hlater hholds => ?_
          exact ih left hholds (hservedPassed.follows ((follows_enter (by exact trivial) served).trans hlater))
    · exact ih out hfoundHolds hfoundPassed

/-! ## Dispatches -/

/-- A dispatch abides if the raises of handlers do: for a kind of the gate, either the guard is active and decides, or
it was deactivated. -/
theorem abides_dispatchBy (hgated : Gated bus gate acl kinds) (hraise : RaiseAbides gate acl kinds raise) :
    RaiseAbides gate acl kinds (dispatchBy env raise) := by
  intro event out run hholds
  -- only the chains of gated kinds begin with the gate; in the others nothing has to be cleared
  by_cases hkind : kinds event.kind
  · obtain ⟨rest, hchain⟩ := hgated.heads event.kind hkind
    rw [dispatchBy, hchain]
    refine abides_atomic_bind hholds (follows_trigger event run) fun entered _ hentered => ?_
    rw [walk_cons]
    refine abides_atomic_bind hentered (follows_consider gate event entered) fun found hfound hfoundHolds => ?_
    cases hactive : entered.isActive gate with
    | true =>
      rw [Run.consider_of_isActive hactive, if_pos rfl]
      by_cases hallowed : acl.verify event.origin event.kind = .allowed
      · rw [serve_gate_of_allowed env raise hgated hkind hallowed]
        simp only [bind_assoc, pure_bind, goOn]
        refine abides_atomic_bind hfoundHolds (follows_begin (.inr (.inl rfl))) fun started _ hstarted => ?_
        refine abides_atomic_bind hstarted (follows_finish gate event.kind _ _ started) fun passed _ hholds => ?_
        exact abides_walk hraise rest out hholds (.inr fun _ => hallowed)
      · obtain ⟨record, error, -, hserve⟩ := serve_gate_of_refused env raise hgated hkind hallowed out
        rw [hserve]
        simp only [bind_assoc, pure_bind, goOn, if_pos (hgated.stops event.kind hkind)]
        refine abides_atomic_bind hfoundHolds (follows_begin (.inr (.inl rfl))) fun started _ hstarted => ?_
        refine abides_atomic_bind hstarted (follows_enter (by exact trivial) started) fun noted _ hnoted => ?_
        refine abides_atomic_bind hnoted (follows_finish gate event.kind _ _ noted) fun counted _ hcounted => ?_
        exact abides_atomic_bind hcounted (follows_enter (by exact trivial) counted) fun stopped _ hstopped => hstopped
    | false =>
      -- a gate that is not active was deactivated, which lets everything pass
      have hdown : entered.WasDeactivated gate := by
        rcases hentered with hdown | ⟨hup, -⟩
        · exact hdown
        · rw [hactive] at hup
          cases hup
      rw [Run.consider_of_not_isActive hactive]
      have hlaw := (follows_consider gate event entered).trans hfound
      exact abides_walk hraise rest out hfoundHolds (.inl (hlaw.deactivated hdown))
  · rw [dispatchBy]
    split
    · exact hholds
    · refine abides_atomic_bind hholds (follows_trigger event run) fun entered _ hentered => ?_
      exact abides_walk hraise _ out hentered (.inr fun hgate => absurd hgate hkind)

/-- By induction on how deep raises may be nested. -/
theorem abides_dispatch (hgated : Gated bus gate acl kinds) (depth : Nat) :
    RaiseAbides gate acl kinds (dispatch env depth) := by
  induction depth with
  | zero => exact fun event out run _ => trivial
  | succ depth ih => exact abides_dispatchBy hgated ih

end EventBus.Bus
