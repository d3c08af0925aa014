import EventBus.Proofs.Bus.Cells
import EventBus.Proofs.Bus.Walk
import Mathlib.Logic.Relation

/-!
# What the counters count

* `Entry.isInvoked`, `Entry.isFailed` and the like: sorts of entries of the journal.
* `Turn`: all that one turn of a program does to a bus, or of a dispatch that it makes. `Becomes`: any number of them.
* `Concludes`: an invocation has come to its end at a state, told from its first entry on.
* `Tied`: each counter is the number of entries of its sort, modulo `2 ^ 64`. `Tied.turn`: every turn keeps that.
* `Candid`: every end in the journal was entered where an invocation had come to its end, and tells how this very one
  went. `Candid.turn`: every turn keeps that, too.
-/

namespace EventBus.Bus

variable {c : Catalog} {σ : Type} {bus : Bus c σ}

/-! ## Sorts of entries -/

namespace Entry

/-- Somebody raised an event of the kind. -/
def isRaised (kind : c.Kind) : Entry bus → Bool
  | raised event => event.kind = kind
  | _ => false

/-- An event of the kind entered its chain. -/
def isTriggered (kind : c.Kind) : Entry bus → Bool
  | triggered event => event.kind = kind
  | _ => false

/-- The subscriber at the slot was invoked for the kind. -/
def isInvoked (slot : bus.Slot) (kind : c.Kind) : Entry bus → Bool
  | invoked other event => other = slot && event.kind = kind
  | _ => false

/-- Such an invocation has ended. -/
def isFinished (slot : bus.Slot) (kind : c.Kind) : Entry bus → Bool
  | finished other k _ => other = slot && k = kind
  | _ => false

/-- It has ended with a failure. -/
def isFailed (slot : bus.Slot) (kind : c.Kind) : Entry bus → Bool
  | finished other k failure => other = slot && k = kind && failure.isSome
  | _ => false

/-- Entries that belong to no count. -/
def isAside : Entry bus → Bool
  | raised _ | triggered _ | invoked .. | finished .. => false
  | _ => true

/-- Entries that no counter goes with. -/
def isNote : Entry bus → Bool
  | triggered _ | invoked .. | finished .. => false
  | _ => true

end Entry

/-! ## Turns -/

/-- What a turn of a program does to a bus, or of a dispatch that it makes. An invocation is finished only where it
`ends`, and as it went. -/
inductive Turn (ends : bus.Slot → c.Kind → Deed → Run bus → Prop) : Run bus → Run bus → Prop where
  | idle (run : Run bus) : Turn ends run run
  | trigger (event : Event c) (run : Run bus) : Turn ends run (run.trigger event)
  | begin (slot : bus.Slot) (event : Event c) (run : Run bus) : Turn ends run (run.begin slot event)
  | finish (slot : bus.Slot) (kind : c.Kind) (elapsed : Duration) (deed : Deed) (run : Run bus)
    (hends : ends slot kind deed run) :
    Turn ends run (run.finish slot kind elapsed (deed.failure (bus.subscriber slot).name kind))
  | enter {entry : Entry bus} (hnote : entry.isNote) (run : Run bus) : Turn ends run (run.enter entry)
  | activate (slot : bus.Slot) (on : Bool) (cause : Cause) (run : Run bus) : Turn ends run (run.activate slot on cause)
  | session {α : Type} (slot : bus.Slot) (act : Session σ → α × Session σ) (run : Run bus) :
    Turn ends run (run.inSession slot act).2
  | world (f : σ → σ) (run : Run bus) : Turn ends run (run.modifyWorld f)

variable {ends : bus.Slot → c.Kind → Deed → Run bus → Prop}

/-- Whatever is said less of the ends of invocations, the turns are the same. -/
theorem Turn.mono {ends' : bus.Slot → c.Kind → Deed → Run bus → Prop} {run run' : Run bus} (h : Turn ends run run')
    (hends : ∀ {slot kind deed run}, ends slot kind deed run → ends' slot kind deed run) : Turn ends' run run' := by
  cases h with
  | idle => exact .idle run
  | trigger event => exact .trigger event run
  | begin slot event => exact .begin slot event run
  | finish slot kind elapsed deed _ hended => exact .finish slot kind elapsed deed run (hends hended)
  | enter hnote => exact .enter hnote run
  | activate slot on cause => exact .activate slot on cause run
  | session slot act => exact .session slot act run
  | world f => exact .world f run

/-- A turn enters at most one thing in the journal, and takes nothing from it. -/
theorem Turn.journal {run run' : Run bus} (h : Turn ends run run') : run.journal <:+ run'.journal := by
  cases h with
  | idle | session | world => exact List.suffix_refl _
  | trigger | begin | finish | enter | activate => exact List.suffix_cons _ _

/-- What threads make of a bus by any number of turns, wherever these finish invocations. -/
def Becomes : Run bus → Run bus → Prop :=
  Relation.ReflTransGen (Turn fun _ _ _ _ => True)

theorem Turn.becomes {run run' : Run bus} (h : Turn ends run run') : Becomes run run' :=
  .single (h.mono fun _ => trivial)

/-- Nothing is ever taken from the journal. -/
theorem Becomes.journal {run later : Run bus} (h : Becomes run later) : run.journal <:+ later.journal := by
  induction h with
  | refl => exact List.suffix_refl _
  | tail _ hturn ih => exact ih.trans hturn.journal

/-- At this state an invocation of a slot for a kind has come to its end, and went like this: it was entered in the
journal, and from there on the handler ran, or the event was sent, to the very end that the deed tells. Other threads made
any number of turns in between. -/
inductive Concludes (env : Environment σ) (slot : bus.Slot) : c.Kind → Deed → Run bus → Prop where
  | intro {depth : Nat} {event : Event c} {out : EventOut} {back : Option EventOut} {deed : Deed}
    {begun started ended : Run bus} (hstarted : Becomes (begun.begin slot event) started)
    (hinvoked : Invoked env (dispatch env depth) Becomes event slot
      (viewOf ((bus.subscriber slot).perm event.kind) out) started deed back ended)
    (hended : Becomes started ended) : Concludes env slot event.kind deed ended

/-- An invocation that has come to its end is in the journal. -/
theorem Concludes.exists_invoked {env : Environment σ} {slot : bus.Slot} {kind : c.Kind} {deed : Deed}
    {ended : Run bus} (h : Concludes env slot kind deed ended) :
    ∃ event, event.kind = kind ∧ .invoked slot event ∈ ended.journal := by
  cases h with
  | @intro _ event _ _ _ begun started _ hstarted _ hended =>
    have hjournal : (begun.begin slot event).journal <:+ ended.journal := hstarted.journal.trans hended.journal
    exact ⟨event, rfl, hjournal.subset List.mem_cons_self⟩

/-- A command is a change of an activation, or nothing if the name is not known. -/
theorem turn_setActivated (name : String) (on : Bool) (run : Run bus) : Turn ends run (run.setActivated name on).2 := by
  unfold Run.setActivated
  split
  · next slot _ => exact .activate slot on .command run
  · exact .idle run

/-- An announcement is a change of an activation, or the note that it was refused. -/
theorem turn_handshake (id : SubscriberId) (name : String) (run : Run bus) : Turn ends run (run.handshake id name).2 := by
  unfold Run.handshake
  split
  · next slot _ => exact .activate slot true .handshake run
  · exact .enter rfl run

/-- The look at an activation is nothing, or the note that the slot is passed over. -/
theorem turn_consider (slot : bus.Slot) (event : Event c) (run : Run bus) : Turn ends run (run.consider slot event).2 := by
  unfold Run.consider
  split
  · exact .idle run
  · exact .enter rfl run

/-! ## Counters -/

/-- The counters of a bus, those of latencies aside. -/
inductive Count (bus : Bus c σ) where
  | triggers (kind : c.Kind)
  | invocations (slot : bus.Slot) (kind : c.Kind)
  | failures (slot : bus.Slot) (kind : c.Kind)

/-- What a counter counts. -/
def Count.sort : Count bus → Entry bus → Bool
  | triggers kind => Entry.isTriggered kind
  | invocations slot kind => Entry.isInvoked slot kind
  | failures slot kind => Entry.isFailed slot kind

/-- What a counter shows. -/
def Run.reading (run : Run bus) : Count bus → UInt64
  | .triggers kind => run.triggers.get kind
  | .invocations slot kind => ((run.cell slot).counters.get kind).invocations
  | .failures slot kind => ((run.cell slot).counters.get kind).failures

/-- How many entries of a sort are in the journal. -/
def Run.count (sort : Entry bus → Bool) (run : Run bus) : Nat :=
  run.journal.countP sort

theorem Run.count_of_journal {sort : Entry bus → Bool} {entry : Entry bus} {run run' : Run bus}
    (h : run'.journal = entry :: run.journal) : run'.count sort = run.count sort + if sort entry then 1 else 0 := by
  unfold Run.count
  rw [h, List.countP_cons]

theorem Count.sort_of_isNote (what : Count bus) (entry : Entry bus) (hnote : entry.isNote) :
    what.sort entry = false := by
  cases entry with
  | triggered | invoked | finished => cases hnote
  | _ => cases what <;> rfl

theorem Run.count_of_isNote (what : Count bus) (entry : Entry bus) (hnote : entry.isNote) {run run' : Run bus}
    (h : run'.journal = entry :: run.journal) : run'.count what.sort = run.count what.sort := by
  rw [count_of_journal h, what.sort_of_isNote entry hnote]
  rfl

/-- The counters are what is in the journal, as far as their bits reach. -/
def Tied (run : Run bus) : Prop :=
  ∀ what, run.reading what = UInt64.ofNat (run.count what.sort)

/-- At the start all counters of a slot are zero. -/
theorem counters_start (slot : bus.Slot) (kind : c.Kind) (world : σ) :
    ((bus.start world).cell slot).counters.get kind = {} := by
  have hcell : (bus.start world).cell slot = ⟨(bus.subscriber slot).initiallyActivated, .zero c, none⟩ := by
    unfold start Run.cell Indexed.get
    rw [Fin.getElem_fin, Vector.getElem_ofFn]
  rw [hcell]
  exact Indexed.get_replicate _ kind

/-- With nothing in the journal, all counters are zero. -/
theorem tied_start (bus : Bus c σ) (world : σ) : Tied (bus.start world) := by
  intro what
  cases what with
  | triggers kind => exact Indexed.get_replicate 0 kind
  | invocations slot kind =>
    have hcell : ((bus.start world).cell slot).counters.get kind = {} := counters_start slot kind world
    exact congrArg Counter.invocations hcell
  | failures slot kind =>
    have hcell : ((bus.start world).cell slot).counters.get kind = {} := counters_start slot kind world
    exact congrArg Counter.failures hcell

/-- A turn that enters one entry keeps the counters tied if it counts that entry. -/
theorem Tied.of_entry {run run' : Run bus} (h : Tied run) {entry : Entry bus}
    (hjournal : run'.journal = entry :: run.journal)
    (hreading : ∀ what, run'.reading what = if what.sort entry then run.reading what + 1 else run.reading what) :
    Tied run' := by
  intro what
  -- modulo the word size, adding one on both sides
  rw [hreading, Run.count_of_journal hjournal, h what]
  split
  · rw [UInt64.ofNat_add]
    rfl
  · rfl

/-- What touches neither the journal nor a counter keeps them tied. -/
theorem Tied.of_same {run run' : Run bus} (h : Tied run) (hjournal : run'.journal = run.journal)
    (hreading : ∀ what, run'.reading what = run.reading what) : Tied run' := by
  intro what
  have hcount : run'.count what.sort = run.count what.sort := by
    unfold Run.count
    rw [hjournal]
  rw [hreading, hcount, h what]

/-- What changes no counters of a cell changes no reading. -/
theorem reading_modifyCell {f : Cell c → Cell c} (hf : ∀ cell, (f cell).counters = cell.counters) (slot : bus.Slot)
    (run : Run bus) (what : Count bus) : (run.modifyCell slot f).reading what = run.reading what := by
  have hcounters := fun other => Run.field_modifyCell Cell.counters hf slot other run
  cases what with
  | triggers kind => rfl
  | invocations other kind => exact congrArg (fun counters => (counters.get kind).invocations) (hcounters other)
  | failures other kind => exact congrArg (fun counters => (counters.get kind).failures) (hcounters other)

/-- A trigger moves the counter of its kind by one and no other counter. -/
theorem reading_trigger (event : Event c) (run : Run bus) (what : Count bus) :
    (run.trigger event).reading what
      = if what.sort (.triggered event) then run.reading what + 1 else run.reading what := by
  cases what with
  | triggers kind =>
    show Indexed.get (Indexed.modify event.kind (· + 1) run.triggers.counts) kind = _
    by_cases hsame : kind = event.kind
    · subst hsame
      have hsort : (Count.triggers event.kind : Count bus).sort (.triggered event) = true := decide_eq_true rfl
      rw [Indexed.get_modify_self, hsort]
      rfl
    · have hsort : (Count.triggers kind : Count bus).sort (.triggered event) = false :=
        decide_eq_false (Ne.symm hsame)
      rw [Indexed.get_modify_of_ne hsame, hsort]
      rfl
  | invocations | failures => rfl

/-- A field of the counters of a kind at a slot, after the counters of one kind at one slot have changed. -/
theorem counter_modifyCell {α : Type} (field : Counter → α) (slot other : bus.Slot) (kind kind' : c.Kind)
    (f : Counter → Counter) (run : Run bus) :
    field ((((run.modifyCell slot fun cell =>
        { cell with counters := cell.counters.modify kind f }).cell other).counters).get kind')
      = if slot = other ∧ kind = kind' then field (f (((run.cell other).counters).get kind'))
        else field (((run.cell other).counters).get kind') := by
  -- first the slot, then the kind: in both cases the others are left alone
  by_cases hslot : other = slot
  · subst hslot
    rw [Run.cell_modifyCell_self]
    by_cases hkind : kind' = kind
    · subst hkind
      rw [if_pos ⟨rfl, rfl⟩]
      exact congrArg field (Counters.get_modify_self ..)
    · rw [if_neg fun h => hkind h.2.symm]
      exact congrArg field (Counters.get_modify_of_ne f _ hkind)
  · rw [Run.cell_modifyCell_of_ne _ run hslot, if_neg fun h => hslot h.1.symm]

/-- The beginning of an invocation moves the invocations of its slot and kind by one and no other counter. -/
theorem reading_begin (slot : bus.Slot) (event : Event c) (run : Run bus) (what : Count bus) :
    (run.begin slot event).reading what
      = if what.sort (.invoked slot event) then run.reading what + 1 else run.reading what := by
  have hcounter := fun (field : Counter → UInt64) other kind => counter_modifyCell field slot other event.kind kind
    (fun cell => { cell with invocations := cell.invocations + 1 }) run
  cases what with
  | triggers kind => rfl
  | invocations other kind =>
    have hsort : (Count.invocations other kind).sort (.invoked slot event) = decide (slot = other ∧ event.kind = kind) :=
      (Bool.decide_and ..).symm
    rw [hsort]
    simp only [decide_eq_true_eq]
    exact hcounter Counter.invocations other kind
  -- the same counter is written, but its failures stay as they are
  | failures other kind => exact (hcounter Counter.failures other kind).trans (ite_self _)

/-- The end of an invocation moves the failures of its slot and kind by one if it has failed, and no other counter. -/
theorem reading_finish (slot : bus.Slot) (kind : c.Kind) (elapsed : Duration) (failure : Option DispatchError)
    (run : Run bus) (what : Count bus) :
    (run.finish slot kind elapsed failure).reading what
      = if what.sort (.finished slot kind failure) then run.reading what + 1 else run.reading what := by
  have hcounter := fun (field : Counter → UInt64) other kind' => counter_modifyCell field slot other kind kind'
    (fun cell => { cell with
      latency := cell.latency + Counters.saturated elapsed
      failures := if failure.isSome then cell.failures + 1 else cell.failures }) run
  cases what with
  | triggers kind' => rfl
  -- the same counter is written, but its invocations stay as they are
  | invocations other kind' => exact (hcounter Counter.invocations other kind').trans (ite_self _)
  | failures other kind' =>
    have hsort : (Count.failures other kind').sort (.finished slot kind failure)
        = (decide (slot = other ∧ kind = kind') && failure.isSome) :=
      congrArg (· && failure.isSome) (Bool.decide_and ..).symm
    rw [hsort]
    simp only [Bool.and_eq_true, decide_eq_true_eq]
    refine (hcounter Counter.failures other kind').trans ?_
    exact (ite_and ..).symm

/-- Each turn enters an entry together with the counter that counts it, or touches neither. -/
theorem Tied.turn {run run' : Run bus} (hturn : Turn ends run run') (h : Tied run) : Tied run' := by
  cases hturn with
  | idle => exact h
  | trigger event => exact h.of_entry rfl (reading_trigger event run)
  | begin slot event => exact h.of_entry rfl (reading_begin slot event run)
  | finish slot kind elapsed deed => exact h.of_entry rfl (reading_finish slot kind elapsed _ run)
  | @enter entry hnote =>
    refine h.of_entry rfl fun what => ?_
    rw [what.sort_of_isNote entry hnote]
    rfl
  -- an activation is entered in the journal, but no count is of that sort
  | activate slot on cause =>
    refine h.of_entry rfl fun what => ?_
    rw [Count.sort_of_isNote what (.activation slot on (run.isActive slot != on) cause) rfl]
    exact reading_modifyCell (by intro cell; rfl) slot run what
  | session slot act => exact h.of_same rfl (reading_modifyCell (by intro cell; rfl) slot run)
  | world f => exact h.of_same rfl fun what => rfl

/-! ## Failures -/

/-- Every end in the journal was entered where an invocation of the same slot for the same kind had come to its end, and
its failure is how this one went. -/
def Candid (env : Environment σ) (run : Run bus) : Prop :=
  ∀ slot kind failure later earlier, run.journal = later ++ .finished slot kind failure :: earlier →
    ∃ deed ended, Concludes env slot kind deed ended ∧ ended.journal = earlier
      ∧ failure = deed.failure (bus.subscriber slot).name kind

variable {env : Environment σ}

theorem candid_start (bus : Bus c σ) (world : σ) : Candid env (bus.start world) :=
  fun _ _ _ _ _ hjournal => absurd hjournal.symm (List.append_ne_nil_of_right_ne_nil _ (List.cons_ne_nil _ _))

/-- One more entry changes nothing about those behind it, so only an end has to be accounted for. -/
theorem Candid.of_entry {run run' : Run bus} (h : Candid env run) {entry : Entry bus}
    (hjournal : run'.journal = entry :: run.journal)
    (hentry : ∀ slot kind failure, entry = .finished slot kind failure →
      ∃ deed, Concludes env slot kind deed run ∧ failure = deed.failure (bus.subscriber slot).name kind) :
    Candid env run' := by
  intro slot kind failure later earlier hall
  rw [hjournal] at hall
  -- the new entry is the end in question, or that end is in the old journal
  cases later with
  | nil =>
    obtain ⟨hnew, rfl⟩ := List.cons.inj hall
    obtain ⟨deed, hconcludes, hfailure⟩ := hentry slot kind failure hnew
    exact ⟨deed, run, hconcludes, rfl, hfailure⟩
  | cons first later => exact h slot kind failure later earlier (List.cons.inj hall).2

/-- An invocation is finished only where it has come to its end, so each turn accounts for the end that it enters. -/
theorem Candid.turn {run run' : Run bus} (hturn : Turn (Concludes env) run run') (h : Candid env run) :
    Candid env run' := by
  cases hturn with
  | idle | session | world => exact h
  | trigger | begin | activate => exact h.of_entry rfl nofun
  | @enter entry hnote =>
    refine h.of_entry rfl fun slot kind failure hfinished => ?_
    subst hfinished
    cases hnote
  | finish slot kind elapsed deed _ hends =>
    refine h.of_entry rfl fun other kind' failure hnew => ?_
    cases hnew
    exact ⟨deed, hends, rfl⟩

end EventBus.Bus
