import EventBus.Bus.Dispatch

/-!
# What belongs to a slot

Counting changes no connection and no activation, and what is done with a connection changes nothing else.

* `field_modifyCell`: a field that a change keeps is the same at all slots. From it come the lemmas on connections
  and activations under each operation of a run.
* `Undisturbed`: the connection and the activation of a slot are as they were. `Untouched`: so is everything else
  but the counters of that slot.
* `Recorded`: nothing but counting and noting has happened.
* `inSession_eq`: what is done with the connection of a slot.
-/

namespace EventBus.Bus

variable {c : Catalog} {σ : Type} {bus : Bus c σ}

namespace Run

variable {α : Type}

/-- A field that a change keeps is the same at every slot, the changed one included. -/
theorem field_modifyCell {f : Cell c → Cell c} (field : Cell c → α) (hkept : ∀ cell, field (f cell) = field cell)
    (slot other : bus.Slot) (run : Run bus) : field ((run.modifyCell slot f).cell other) = field (run.cell other) := by
  by_cases hsame : other = slot
  · rw [hsame, cell_modifyCell_self, hkept]
  · rw [cell_modifyCell_of_ne f run hsame]

/-- To begin an invocation leaves the connections of all slots alone. -/
@[simp]
theorem link_begin (slot other : bus.Slot) (event : Event c) (run : Run bus) :
    ((run.begin slot event).cell other).link = (run.cell other).link :=
  field_modifyCell Cell.link (by intro cell; rfl) slot other run

@[simp]
theorem isActive_begin (slot other : bus.Slot) (event : Event c) (run : Run bus) :
    (run.begin slot event).isActive other = run.isActive other :=
  field_modifyCell Cell.activated (by intro cell; rfl) slot other run

@[simp]
theorem link_finish (slot other : bus.Slot) (kind : c.Kind) (elapsed : Duration) (failure : Option DispatchError)
    (run : Run bus) : ((run.finish slot kind elapsed failure).cell other).link = (run.cell other).link :=
  field_modifyCell Cell.link (by intro cell; rfl) slot other run

@[simp]
theorem isActive_finish (slot other : bus.Slot) (kind : c.Kind) (elapsed : Duration) (failure : Option DispatchError)
    (run : Run bus) : (run.finish slot kind elapsed failure).isActive other = run.isActive other :=
  field_modifyCell Cell.activated (by intro cell; rfl) slot other run

/-- Activations and connections are independent of each other. -/
@[simp]
theorem link_activate (slot other : bus.Slot) (on : Bool) (cause : Cause) (run : Run bus) :
    ((run.activate slot on cause).cell other).link = (run.cell other).link :=
  field_modifyCell Cell.link (by intro cell; rfl) slot other run

theorem consider_of_isActive {slot : bus.Slot} {event : Event c} {run : Run bus} (h : run.isActive slot = true) :
    run.consider slot event = (true, run) := if_pos h

theorem consider_of_not_isActive {slot : bus.Slot} {event : Event c} {run : Run bus}
    (h : run.isActive slot = false) : run.consider slot event = (false, run.enter (.passedOver slot event)) :=
  if_neg (Bool.eq_false_iff.mp h)

/-- What is done with the connection of a slot gives the answer and the connection that is left, and changes the
surroundings. -/
theorem inSession_eq {slot : bus.Slot} {act : Session σ → α × Session σ} {answer : α} {run sent : Run bus}
    (h : run.inSession slot act = (answer, sent)) :
    act ⟨(run.cell slot).link, run.world⟩ = (answer, ⟨(sent.cell slot).link, sent.world⟩) := by
  rw [inSession] at h
  generalize act ⟨(run.cell slot).link, run.world⟩ = done at h
  obtain ⟨given, session⟩ := done
  cases h
  show (answer, session) = (answer, ⟨((run.modifyCell slot _).cell slot).link, session.world⟩)
  rw [cell_modifyCell_self]

/-- What is done with a connection changes no activation. -/
@[simp]
theorem isActive_inSession (slot other : bus.Slot) (act : Session σ → α × Session σ) (run : Run bus) :
    (run.inSession slot act).2.isActive other = run.isActive other :=
  field_modifyCell Cell.activated (by intro cell; rfl) slot other run

theorem cell_inSession_of_ne {slot other : bus.Slot} (hother : other ≠ slot) (act : Session σ → α × Session σ)
    (run : Run bus) : (run.inSession slot act).2.cell other = run.cell other :=
  cell_modifyCell_of_ne _ run hother

end Run

/-! ## Frames -/

/-- The connection and the activation of a slot are as they were. -/
structure Undisturbed (slot : bus.Slot) (before after : Run bus) : Prop where
  link : (after.cell slot).link = (before.cell slot).link
  active : after.isActive slot = before.isActive slot

theorem Undisturbed.trans {slot : bus.Slot} {before middle after : Run bus} (h : Undisturbed slot before middle)
    (h' : Undisturbed slot middle after) : Undisturbed slot before after :=
  ⟨h'.link.trans h.link, h'.active.trans h.active⟩

/-- An invocation that begins disturbs no slot. -/
theorem undisturbed_begin (slot other : bus.Slot) (event : Event c) (run : Run bus) :
    Undisturbed other run (run.begin slot event) :=
  ⟨Run.link_begin slot other event run, Run.isActive_begin slot other event run⟩

theorem undisturbed_finish (slot other : bus.Slot) (kind : c.Kind) (elapsed : Duration)
    (failure : Option DispatchError) (run : Run bus) :
    Undisturbed other run (run.finish slot kind elapsed failure) :=
  ⟨Run.link_finish slot other kind elapsed failure run, Run.isActive_finish slot other kind elapsed failure run⟩

/-- Nothing differs but the counters of a slot, the trigger counts and the journal. -/
structure Untouched (slot : bus.Slot) (before after : Run bus) : Prop where
  own : Undisturbed slot before after
  cells : ∀ other, other ≠ slot → after.cell other = before.cell other
  world : after.world = before.world

/-- Without a change of any slot or of the surroundings, nothing is touched. -/
theorem untouched_of_cells {slot : bus.Slot} {before after : Run bus} (hcells : after.cells = before.cells)
    (hworld : after.world = before.world) : Untouched slot before after := by
  have hcell : ∀ other, after.cell other = before.cell other := fun other => by rw [Run.cell, hcells]; rfl
  exact ⟨⟨congrArg Cell.link (hcell slot), congrArg Cell.activated (hcell slot)⟩, fun other _ => hcell other, hworld⟩

/-- The beginning of an invocation touches the counters of its slot only. -/
theorem untouched_begin (slot : bus.Slot) (event : Event c) (run : Run bus) :
    Untouched slot run (run.begin slot event) :=
  ⟨undisturbed_begin slot slot event run, fun _ hother => Run.cell_modifyCell_of_ne _ run hother, rfl⟩

theorem untouched_finish (slot : bus.Slot) (kind : c.Kind) (elapsed : Duration) (failure : Option DispatchError)
    (run : Run bus) : Untouched slot run (run.finish slot kind elapsed failure) :=
  ⟨undisturbed_finish slot slot kind elapsed failure run, fun _ hother => Run.cell_modifyCell_of_ne _ run hother, rfl⟩

/-- Between the two states nothing but counting and noting has happened. -/
structure Recorded (run kept : Run bus) : Prop where
  undisturbed : ∀ slot, Undisturbed slot run kept
  world : kept.world = run.world

theorem recorded_enter (entry : Entry bus) (run : Run bus) : Recorded run (run.enter entry) :=
  ⟨fun _ => ⟨rfl, rfl⟩, rfl⟩

theorem recorded_trigger (event : Event c) (run : Run bus) : Recorded run (run.trigger event) :=
  ⟨fun _ => ⟨rfl, rfl⟩, rfl⟩

theorem recorded_begin (slot : bus.Slot) (event : Event c) (run : Run bus) : Recorded run (run.begin slot event) :=
  ⟨fun other => undisturbed_begin slot other event run, rfl⟩

theorem recorded_finish (slot : bus.Slot) (kind : c.Kind) (elapsed : Duration) (failure : Option DispatchError)
    (run : Run bus) : Recorded run (run.finish slot kind elapsed failure) :=
  ⟨fun other => undisturbed_finish slot other kind elapsed failure run, rfl⟩

theorem recorded_consider (slot : bus.Slot) (event : Event c) (run : Run bus) :
    Recorded run (run.consider slot event).2 := by
  unfold Run.consider
  split
  · exact ⟨fun _ => ⟨rfl, rfl⟩, rfl⟩
  · exact recorded_enter (.passedOver slot event) run

/-- A view that is handed back as it was leaves the out-structure as it was. -/
theorem outAfter_viewOf (perm : Perm) (out : EventOut) : outAfter perm out (viewOf perm out) = out := by
  rw [outAfter, viewOf]
  split <;> rfl

end EventBus.Bus
