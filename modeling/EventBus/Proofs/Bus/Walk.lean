import EventBus.Bus.Dispatch
import EventBus.Proofs.Bus.Chain
import EventBus.Proofs.Routine.Interference

/-!
# What a dispatch does

A dispatch is described by its *visits*, one for each slot whose turn came, and the description says what a
dispatch may come to and that it comes to nothing else. Handlers may do whatever they like in between,
raises on the same bus included, and other threads may make turns behind each turn of the dispatch.

* `Deed`: how the invocation of a subscriber went. Only its status can stop a chain.
* `Visit.Happens`: what becomes of a slot whose turn has come. It is invoked exactly if it is activated then.
* `Walked`: the visits that carry an event through slots, and the verdict.
* `comes_walk_iff`: a walk comes exactly to what visits give.
-/

namespace EventBus.Bus

variable {c : Catalog} {σ : Type} {bus : Bus c σ}

/-! ## How an invocation went -/

/-- How the invocation of a subscriber went. -/
inductive Deed where
  | handled (ending : Ending)
  /-- It was reached through the transport. -/
  | answered (status : Status)
  | lost (error : TransportError)

namespace Deed

/-- The status with which the invocation ended. A delivery that was lost has one of its own. -/
def status : Deed → Status
  | handled ending => ending.status
  | answered status => status
  | lost _ => .transport

/-- The invocation has failed. -/
def fails (deed : Deed) : Bool :=
  deed.status.isFailure

/-- What is reported of the invocation if it has failed. -/
def failure (name : String) (kind : c.Kind) : Deed → Option DispatchError
  | handled ending => failureOfEnding name kind ending
  | answered status => failureOf name kind status
  | lost e => some (.transportFailure name (Catalog.name kind) e)

/-- Nothing is reported exactly if nothing has failed. -/
theorem failure_eq_none_iff {deed : Deed} {name : String} {kind : c.Kind} :
    deed.failure name kind = none ↔ deed.fails = false := by
  -- each of the three deeds has a status, and only a handler may panic
  cases deed with
  | handled ending =>
    cases ending with
    | returned status => simp [failure, failureOfEnding, failureOf, fails, Deed.status, Ending.status]
    | panicked info => simp [failure, failureOfEnding, fails, Deed.status, Ending.status, Status.isOk, Status.panicked]
  | answered status => simp [failure, failureOf, fails, Deed.status]
  | lost e => simp [failure, fails, Deed.status, Status.isOk, Status.transport]

theorem fails_of_failure {deed : Deed} {name : String} {kind : c.Kind} {error : DispatchError}
    (h : deed.failure name kind = some error) : deed.fails = true := by
  cases hfails : deed.fails with
  | true => rfl
  | false =>
    rw [failure_eq_none_iff.mpr hfails] at h
    cases h

theorem isSome_failure (deed : Deed) (name : String) (kind : c.Kind) :
    (deed.failure name kind).isSome = deed.fails := by
  cases hfailure : deed.failure name kind with
  | none => exact (failure_eq_none_iff.mp hfailure).symm
  | some error => exact (fails_of_failure hfailure).symm

/-- The status of a failure is that of the invocation. -/
theorem status_of_failure {deed : Deed} {name : String} {kind : c.Kind} {error : DispatchError}
    (h : deed.failure name kind = some error) : error.status = deed.status := by
  -- a status of its own becomes a failure only when it is not OK, and then keeps its value
  have hreturned : ∀ {status}, failureOf name kind status = some error → error.status = status := by
    intro status hfailure
    rw [failureOf] at hfailure
    split at hfailure
    · cases hfailure
    · cases hfailure
      rfl
  cases deed with
  | handled ending =>
    cases ending with
    | returned status => exact hreturned h
    | panicked info =>
      cases h
      rfl
  | answered status => exact hreturned h
  | lost e =>
    cases h
    rfl

end Deed

variable (env : Environment σ) (raise : Raise bus) (others : Run bus → Run bus → Prop) (event : Event c)

/-- What the invocation of a subscriber with a view of the out-structure may come to: from which state, how it
went, which view is handed back, and at which state. -/
inductive Invoked (slot : bus.Slot) (view : Option EventOut) :
    Run bus → Deed → Option EventOut → Run bus → Prop where
  /-- Its handler does what it likes, and hands back what it likes. -/
  | handled {handler : Handler c σ} {before after : Run bus} {outcome : Outcome}
      (hhandler : (bus.subscriber slot).handler? event.kind = some handler)
      (hcall : (perform raise (handler.handle event view)).Comes others before outcome after) :
    Invoked slot view before (.handled outcome.ending) outcome.view after
  /-- The other end of the transport answers. -/
  | answered {client : Client} {before sent after : Run bus} {status : Status} {back : Option EventOut}
      (htarget : (bus.subscriber slot).target = .external client)
      (hsent : before.inSession slot
          (transmit env client ((bus.subscriber slot).perm event.kind) (.ofEvent event) view)
        = ((.ok status, back), sent))
      (hothers : others sent after) :
    Invoked slot view before (.answered status) back after
  /-- The transport fails, which deactivates the subscriber unless the frame was refused for its size. -/
  | lost {client : Client} {before sent after : Run bus} {e : TransportError} {back : Option EventOut}
      (htarget : (bus.subscriber slot).target = .external client)
      (hsent : before.inSession slot
          (transmit env client ((bus.subscriber slot).perm event.kind) (.ofEvent event) view)
        = ((.error e, back), sent))
      (hothers : if e.isFrameTooLarge then others sent after
        else ∃ found, others sent found ∧ others (found.activate slot false (.delivery e)) after) :
    Invoked slot view before (.lost e) back after

variable {env raise others event}

/-- A call comes to what the program of the handler comes to, with a report of how it ended. -/
theorem comes_callHandler_iff {name : String} {handler : Handler c σ} {view : Option EventOut}
    {before after : Run bus} {response : Response} :
    (callHandler raise name handler event view).Comes others before response after
      ↔ ∃ outcome, (perform raise (handler.handle event view)).Comes others before outcome after
        ∧ response = ⟨failureOfEnding name event.kind outcome.ending, outcome.view⟩ := by
  rw [callHandler, Routine.comes_bind_iff]
  constructor
  · rintro ⟨outcome, middle, hcall, rfl, rfl⟩
    exact ⟨outcome, hcall, rfl⟩
  · rintro ⟨outcome, hcall, rfl⟩
    exact ⟨outcome, after, hcall, rfl, rfl⟩

/-- A delivery is one turn with the connection, and one more if it was lost and the frame was not too large: then the
subscriber is deactivated. -/
theorem comes_deliver_iff {slot : bus.Slot} {client : Client} {view : Option EventOut} {before after : Run bus}
    {response : Response} :
    (deliver env slot client event view).Comes others before response after
      ↔ match before.inSession slot
          (transmit env client ((bus.subscriber slot).perm event.kind) (.ofEvent event) view) with
        | ((.ok status, back), sent) =>
          others sent after ∧ response = ⟨failureOf (bus.subscriber slot).name event.kind status, back⟩
        | ((.error e, back), sent) =>
          (if e.isFrameTooLarge then others sent after
            else ∃ found, others sent found ∧ others (found.activate slot false (.delivery e)) after)
          ∧ response = ⟨some (.transportFailure (bus.subscriber slot).name (Catalog.name event.kind) e), back⟩ := by
  rw [deliver, Routine.comes_atomic_bind_iff]
  generalize before.inSession slot _ = answer
  obtain ⟨⟨result, back⟩, sent⟩ := answer
  cases result with
  | ok status =>
    dsimp only
    simp only [Routine.comes_pure_iff, ← and_assoc, exists_eq_right']
  | error e =>
    dsimp only
    cases e.isFrameTooLarge with
    | true => simp only [Bool.not_true, Bool.false_eq_true, if_false, if_true, Routine.comes_pure_iff,
        ← and_assoc, exists_eq_right']
    -- the one case with a second turn: the loss is recorded before the response is given
    | false =>
      simp only [Bool.not_false, Bool.false_eq_true, if_false, if_true, Routine.comes_change_bind_iff,
        Routine.comes_pure_iff, ← and_assoc, exists_eq_right', exists_and_right]

/-- A subscriber that runs here is run by calling its handler. -/
theorem invoke_of_internal {slot : bus.Slot} {fallback : Option (Handler c σ)} {byKind : List (c.Kind × Handler c σ)}
    (htarget : (bus.subscriber slot).target = .internal fallback byKind) (view : Option EventOut) :
    invoke env raise slot event view =
      match (bus.subscriber slot).handler? event.kind with
      | some handler => callHandler raise (bus.subscriber slot).name handler event view
      | none => pure ⟨none, view⟩ := by
  rw [invoke]
  split
  · next client hother =>
    rw [htarget] at hother
    cases hother
  · rfl

/-- Where there is a handler, to invoke is to call it. -/
theorem invoke_of_handler {slot : bus.Slot} {handler : Handler c σ}
    (h : (bus.subscriber slot).handler? event.kind = some handler) (view : Option EventOut) :
    invoke env raise slot event view = callHandler raise (bus.subscriber slot).name handler event view := by
  cases htarget : (bus.subscriber slot).target with
  | external client =>
    rw [Subscriber.handler?, htarget] at h
    cases h
  | internal fallback byKind => rw [invoke_of_internal htarget, h]

/-- At an external subscriber the deed is an answer or a loss. -/
theorem comes_invoke_external_iff {slot : bus.Slot} {client : Client}
    (htarget : (bus.subscriber slot).target = .external client) {view : Option EventOut} {before after : Run bus}
    {response : Response} :
    (invoke env raise slot event view).Comes others before response after
      ↔ ∃ deed, Invoked env raise others event slot view before deed response.view after
        ∧ response.failure = deed.failure (bus.subscriber slot).name event.kind := by
  -- an external subscriber has no handler that could be called
  have hinvoke : invoke env raise slot event view = deliver env slot client event view := by
    rw [invoke]
    split
    · next found hfound =>
      cases htarget.symm.trans hfound
      rfl
    · next hfound => cases htarget.symm.trans hfound
  rw [hinvoke, comes_deliver_iff]
  constructor
  · intro h
    split at h
    · next status back sent hsent =>
      obtain ⟨hothers, rfl⟩ := h
      exact ⟨.answered status, .answered htarget hsent hothers, rfl⟩
    · next e back sent hsent =>
      obtain ⟨hothers, rfl⟩ := h
      exact ⟨.lost e, .lost htarget hsent hothers, rfl⟩
  · rintro ⟨deed, hinvoked, hfailure⟩
    cases response with
    | mk failure back =>
      cases hinvoked with
      | handled hother =>
        -- who listens elsewhere has no handler here
        rw [Subscriber.handler?, htarget] at hother
        cases hother
      | answered hother hsent hothers =>
        cases htarget.symm.trans hother
        rw [hsent]
        exact ⟨hothers, congrArg (Response.mk · _) hfailure⟩
      | lost hother hsent hothers =>
        cases htarget.symm.trans hother
        rw [hsent]
        exact ⟨hothers, congrArg (Response.mk · _) hfailure⟩

/-- At an internal one the deed is how its handler ended. -/
theorem comes_invoke_handler_iff {slot : bus.Slot} {handler : Handler c σ}
    (hhandler : (bus.subscriber slot).handler? event.kind = some handler) {view : Option EventOut}
    {before after : Run bus} {response : Response} :
    (invoke env raise slot event view).Comes others before response after
      ↔ ∃ deed, Invoked env raise others event slot view before deed response.view after
        ∧ response.failure = deed.failure (bus.subscriber slot).name event.kind := by
  rw [invoke_of_handler hhandler, comes_callHandler_iff]
  constructor
  · rintro ⟨outcome, hcall, rfl⟩
    exact ⟨.handled outcome.ending, .handled hhandler hcall, rfl⟩
  · rintro ⟨deed, hinvoked, hfailure⟩
    cases response with
    | mk failure back =>
      cases hinvoked with
      | handled hother hcall =>
        cases hhandler.symm.trans hother
        exact ⟨_, hcall, congrArg (Response.mk · _) hfailure⟩
      -- a subscriber with a handler has no client to deliver through
      | answered hother | lost hother =>
        rw [Subscriber.handler?, hother] at hhandler
        cases hhandler

/-- An invocation comes exactly to what `Invoked` says, with the failure that this stands for. -/
theorem comes_invoke_iff {slot : bus.Slot} (hserves : (bus.subscriber slot).serves event.kind)
    {view : Option EventOut} {before after : Run bus} {response : Response} :
    (invoke env raise slot event view).Comes others before response after
      ↔ ∃ deed, Invoked env raise others event slot view before deed response.view after
        ∧ response.failure = deed.failure (bus.subscriber slot).name event.kind := by
  cases htarget : (bus.subscriber slot).target with
  | external client => exact comes_invoke_external_iff htarget
  | internal fallback byKind =>
    rw [Subscriber.serves, htarget] at hserves
    obtain ⟨handler, hhandler⟩ := Option.isSome_iff_exists.mp hserves
    exact comes_invoke_handler_iff hhandler

/-! ## Visits -/

/-- What becomes of a slot whose turn has come. -/
structure Visit (bus : Bus c σ) where
  slot : bus.Slot
  before : Run bus
  found : EventOut
  /-- How the subscriber was invoked; `none` if it was passed over. -/
  deed : Option Deed
  left : EventOut
  after : Run bus

namespace Visit

/-- The status of the invocation; success if there was none. -/
def status (visit : Visit bus) : Status :=
  (visit.deed.map Deed.status).getD .ok

/-- The subscriber was invoked. -/
def isInvoked (visit : Visit bus) : Bool :=
  visit.deed.isSome

/-- Whether the subscriber was invoked and failed while the kind is gated and it holds EXECUTE for it. -/
def isFinal (kind : c.Kind) (visit : Visit bus) : Bool :=
  visit.deed.any Deed.fails && (Catalog.isGated kind && ((bus.subscriber visit.slot).perm kind).execute)

variable (env raise others event)

/-- What a visit is: a subscriber that is not activated when its turn comes is passed over, any other one is
counted, invoked with its view of the out-structure, and counted again. -/
inductive Happens : Visit bus → Prop where
  | passedOver {slot : bus.Slot} {before after : Run bus} {out : EventOut}
      (hinactive : before.isActive slot = false)
      (hothers : others (before.enter (.passedOver slot event)) after) :
    Happens ⟨slot, before, out, none, out, after⟩
  | invoked {slot : bus.Slot} {before begun started ended counted after : Run bus} {out : EventOut} {deed : Deed}
      {back : Option EventOut}
      (hactive : before.isActive slot = true)
      (hbegun : others before begun)
      (hstarted : others (begun.begin slot event) started)
      (hinvoked : Invoked env raise others event slot (viewOf ((bus.subscriber slot).perm event.kind) out) started
        deed back ended)
      (hcounted : others (ended.finish slot event.kind
        ⟨(env.now ended.world).nanoseconds - (env.now begun.world).nanoseconds⟩
        (deed.failure (bus.subscriber slot).name event.kind)) counted)
      (hnoted : match deed.failure (bus.subscriber slot).name event.kind with
        | none => after = counted
        | some error =>
          others (counted.enter (if Catalog.isGated event.kind && ((bus.subscriber slot).perm event.kind).execute
            then .aborted slot event.kind error else .absorbed slot event.kind error)) after) :
    Happens ⟨slot, before, out, some deed, outAfter ((bus.subscriber slot).perm event.kind) out back, after⟩

end Visit

/-- Visits one after the other: each finds the bus and the out-structure as the one in front left them. -/
def Handed (before : Run bus) (out : EventOut) : List (Visit bus) → EventOut → Run bus → Prop
  | [], left, after => left = out ∧ after = before
  | visit :: rest, left, after =>
    visit.before = before ∧ visit.found = out ∧ Handed visit.after visit.left rest left after

variable (env raise others event) in
/-- The visits that carry an event through slots, from a state of the bus and an out-structure to others, with
a status. -/
structure Walked (slots : List bus.Slot) (before : Run bus) (out : EventOut) (visits : List (Visit bus))
    (status : Status) (left : EventOut) (after : Run bus) : Prop where
  /-- Slots have their turns in order, none is left out. -/
  inOrder : visits.map Visit.slot <+: slots
  /-- Each visit is what becomes of a slot. -/
  happens : ∀ visit ∈ visits, visit.Happens env raise others event
  /-- Each goes on where the one in front ended. -/
  handed : Handed before out visits left after
  /-- Either the last visit is the first final one, and the status is its; or no visit is final and each slot
  had its turn, and the status is success. -/
  verdict :
    (∃ front last, visits = front ++ [last] ∧ (∀ visit ∈ front, visit.isFinal event.kind = false)
        ∧ last.isFinal event.kind ∧ status = last.status)
      ∨ (visits.map Visit.slot = slots ∧ (∀ visit ∈ visits, visit.isFinal event.kind = false) ∧ status = .ok)

/-- Without slots there are no visits; the verdict is a success and the out-structure is as it was. -/
theorem walked_nil_iff {before after : Run bus} {out left : EventOut} {visits : List (Visit bus)}
    {status : Status} :
    Walked env raise others event [] before out visits status left after
      ↔ visits = [] ∧ status = .ok ∧ left = out ∧ after = before := by
  constructor
  · intro h
    have hnone : visits = [] := List.map_eq_nil_iff.mp (List.prefix_nil.mp h.inOrder)
    subst hnone
    -- a final visit would be one
    rcases h.verdict with ⟨front, last, hlast, -⟩ | ⟨-, -, hstatus⟩
    · simp at hlast
    · exact ⟨rfl, hstatus, h.handed⟩
  · rintro ⟨rfl, rfl, rfl, rfl⟩
    have hnone : ∀ visit : Visit bus, visit ∉ [] := fun _ => List.not_mem_nil
    exact ⟨List.prefix_refl _, fun visit hvisit => absurd hvisit (hnone visit), ⟨rfl, rfl⟩,
      .inr ⟨rfl, fun visit hvisit => absurd hvisit (hnone visit), rfl⟩⟩

/-- The first slot has the first visit. If that is final, it is the only one. -/
theorem walked_cons_iff {slot : bus.Slot} {slots : List bus.Slot} {before after : Run bus} {out left : EventOut}
    {visits : List (Visit bus)} {status : Status} :
    Walked env raise others event (slot :: slots) before out visits status left after
      ↔ ∃ visit rest, visits = visit :: rest ∧ visit.slot = slot ∧ visit.before = before ∧ visit.found = out
        ∧ visit.Happens env raise others event
        ∧ if visit.isFinal event.kind then
            rest = [] ∧ status = visit.status ∧ left = visit.left ∧ after = visit.after
          else Walked env raise others event slots visit.after visit.left rest status left after := by
  constructor
  · intro h
    cases visits with
    | nil =>
      rcases h.verdict with ⟨front, last, hlast, -⟩ | ⟨hall, -⟩
      · simp at hlast
      · simp at hall
    | cons visit rest =>
      obtain ⟨hslot, horder⟩ := List.cons_prefix_cons.mp h.inOrder
      obtain ⟨hbefore, hfound, hhanded⟩ := h.handed
      refine ⟨visit, rest, rfl, hslot, hbefore, hfound, h.happens visit List.mem_cons_self, ?_⟩
      -- the verdict on all visits is that on the later ones, unless the first visit is the last one
      rcases h.verdict with ⟨front, last, hlast, hfront, hfinal, hstatus⟩ | ⟨hall, hnone, hstatus⟩
      · cases front with
        | nil =>
          obtain ⟨rfl, rfl⟩ := List.cons.inj hlast
          rw [if_pos hfinal]
          exact ⟨rfl, hstatus, hhanded⟩
        | cons first front =>
          obtain ⟨rfl, rfl⟩ := List.cons.inj hlast
          rw [if_neg (by simp [hfront visit List.mem_cons_self])]
          exact ⟨horder, fun v hv => h.happens v (List.mem_cons_of_mem _ hv), hhanded,
            .inl ⟨front, last, rfl, fun v hv => hfront v (List.mem_cons_of_mem _ hv), hfinal, hstatus⟩⟩
      · rw [if_neg (by simp [hnone visit List.mem_cons_self])]
        exact ⟨horder, fun v hv => h.happens v (List.mem_cons_of_mem _ hv), hhanded,
          .inr ⟨(List.cons.inj hall).2, fun v hv => hnone v (List.mem_cons_of_mem _ hv), hstatus⟩⟩
  · rintro ⟨visit, rest, rfl, rfl, rfl, rfl, hhappens, h⟩
    split at h
    · next hfinal =>
      obtain ⟨rfl, rfl, rfl, rfl⟩ := h
      exact ⟨by simp, by simpa using hhappens, ⟨rfl, rfl, rfl, rfl⟩,
        .inl ⟨[], visit, rfl, fun _ hfront => absurd hfront List.not_mem_nil, hfinal, rfl⟩⟩
    · next hgoes =>
      have hvisit : visit.isFinal event.kind = false := Bool.eq_false_of_not_eq_true hgoes
      refine ⟨List.cons_prefix_cons.mpr ⟨rfl, h.inOrder⟩, List.forall_mem_cons.mpr ⟨hhappens, h.happens⟩,
        ⟨rfl, rfl, h.handed⟩, ?_⟩
      rcases h.verdict with ⟨front, last, rfl, hfront, hfinal, hstatus⟩ | ⟨hall, hnone, hstatus⟩
      · exact .inl ⟨visit :: front, last, rfl, List.forall_mem_cons.mpr ⟨hvisit, hfront⟩, hfinal, hstatus⟩
      · exact .inr ⟨congrArg _ hall, List.forall_mem_cons.mpr ⟨hvisit, hnone⟩, hstatus⟩

/-! ## What a walk comes to -/

/-- An invocation with what is counted around it. -/
theorem comes_serve_iff {slot : bus.Slot} (hserves : (bus.subscriber slot).serves event.kind) {out left : EventOut}
    {begun counted : Run bus} {failure : Option DispatchError} :
    (serve env raise slot event out).Comes others begun (failure, left) counted
      ↔ ∃ started deed back ended,
        others (begun.begin slot event) started
          ∧ Invoked env raise others event slot (viewOf ((bus.subscriber slot).perm event.kind) out) started deed
            back ended
          ∧ others (ended.finish slot event.kind
            ⟨(env.now ended.world).nanoseconds - (env.now begun.world).nanoseconds⟩ failure) counted
          ∧ failure = deed.failure (bus.subscriber slot).name event.kind
          ∧ left = outAfter ((bus.subscriber slot).perm event.kind) out back := by
  rw [serve, Routine.comes_atomic_bind_iff]
  constructor
  · rintro ⟨started, hstarted, h⟩
    obtain ⟨response, ended, hinvoke, h⟩ := Routine.comes_bind_iff.mp h
    obtain ⟨_, hcounted, hvalue, rfl⟩ := Routine.comes_change_bind_iff.mp h
    obtain ⟨rfl, rfl⟩ := Prod.mk.inj hvalue
    obtain ⟨deed, hinvoked, hfailure⟩ := (comes_invoke_iff hserves).mp hinvoke
    exact ⟨started, deed, response.view, ended, hstarted, hinvoked, hcounted, hfailure, rfl⟩
  · rintro ⟨started, deed, back, ended, hstarted, hinvoked, hcounted, hfailure, rfl⟩
    refine ⟨started, hstarted, Routine.comes_bind_iff.mpr ⟨⟨failure, back⟩, ended, ?_, ?_⟩⟩
    · exact (comes_invoke_iff hserves).mpr ⟨deed, hinvoked, hfailure⟩
    · exact Routine.comes_change_bind_iff.mpr ⟨counted, hcounted, rfl, rfl⟩

variable (env raise event) in
/-- How a walk goes on behind a slot that was served. -/
def goOn (slot : bus.Slot) (slots : List bus.Slot) :
    Option DispatchError × EventOut → Routine (Run bus) (Status × EventOut)
  | (none, out) => walk env raise event slots out
  | (some error, out) =>
    if bus.stops slot event.kind then do
      .change (Run.enter (.aborted slot event.kind error))
      return (error.status, out)
    else do
      .change (Run.enter (.absorbed slot event.kind error))
      walk env raise event slots out

/-- The chain goes on behind a slot that is passed over, and behind one that is served as it went. -/
theorem walk_cons (slot : bus.Slot) (slots : List bus.Slot) (out : EventOut) :
    walk env raise event (slot :: slots) out = (do
      if ← .atomic (Run.consider slot event) then
        serve env raise slot event out >>= goOn env raise event slot slots
      else walk env raise event slots out) := by
  rw [walk]
  refine congrArg _ (funext fun active => ?_)
  cases active with
  | false => rfl
  | true =>
    refine congrArg (serve env raise slot event out >>= ·) (funext fun (failure, left) => ?_)
    cases failure with
    | none => rfl
    | some error => rfl

/-- A failure stops a chain where the kind is gated and the subscriber holds EXECUTE for it, and nowhere else. -/
theorem stops_eq (slot : bus.Slot) (kind : c.Kind) :
    bus.stops slot kind = (Catalog.isGated kind && ((bus.subscriber slot).perm kind).execute) := rfl

/-- Behind a slot that was served, its failure is noted, and the walk goes on unless the failure is final. -/
theorem comes_goOn_iff {slot : bus.Slot} {slots : List bus.Slot} {deed : Deed} {out left : EventOut}
    {counted after : Run bus} {status : Status} :
    (goOn env raise event slot slots (deed.failure (bus.subscriber slot).name event.kind, out)).Comes others
        counted (status, left) after
      ↔ ∃ visited,
        (match deed.failure (bus.subscriber slot).name event.kind with
          | none => visited = counted
          | some error =>
            others (counted.enter (if Catalog.isGated event.kind && ((bus.subscriber slot).perm event.kind).execute
              then .aborted slot event.kind error else .absorbed slot event.kind error)) visited)
        ∧ if deed.fails && (Catalog.isGated event.kind && ((bus.subscriber slot).perm event.kind).execute) then
            status = deed.status ∧ left = out ∧ after = visited
          else (walk env raise event slots out).Comes others visited (status, left) after := by
  rw [← stops_eq]
  cases hfailure : deed.failure (bus.subscriber slot).name event.kind with
  | none =>
    simp only [goOn, Deed.failure_eq_none_iff.mp hfailure, Bool.false_and, Bool.false_eq_true, if_false,
      exists_eq_left]
  | some error =>
    -- a failure is always entered; only the kind and the permissions decide whether the walk ends with it
    rw [goOn, Deed.fails_of_failure hfailure, Bool.true_and]
    cases bus.stops slot event.kind with
    | true =>
      simp only [if_true, Routine.comes_change_bind_iff, Routine.comes_pure_iff, Prod.mk.injEq, and_assoc,
        Deed.status_of_failure hfailure]
    | false => simp only [Bool.false_eq_true, if_false, Routine.comes_change_bind_iff]

/-- A walk takes one visit after the other, as long as they are not final. -/
theorem comes_walk_cons_iff {slot : bus.Slot} (hserves : (bus.subscriber slot).serves event.kind)
    {slots : List bus.Slot} {before after : Run bus} {out left : EventOut} {status : Status} :
    (walk env raise event (slot :: slots) out).Comes others before (status, left) after
      ↔ ∃ visit : Visit bus, visit.slot = slot ∧ visit.before = before ∧ visit.found = out
        ∧ visit.Happens env raise others event
        ∧ if visit.isFinal event.kind then
            status = visit.status ∧ left = visit.left ∧ after = visit.after
          else (walk env raise event slots visit.left).Comes others visit.after (status, left) after := by
  rw [walk_cons, Routine.comes_atomic_bind_iff]
  constructor
  · rintro ⟨begun, hbegun, h⟩
    rw [Run.consider] at hbegun h
    -- the activation decides: the slot is passed over, or invoked
    cases hactive : before.isActive slot with
    | false =>
      rw [hactive] at hbegun h
      exact ⟨⟨slot, before, out, none, out, begun⟩, rfl, rfl, rfl, .passedOver hactive hbegun, h⟩
    | true =>
      rw [hactive] at hbegun h
      obtain ⟨⟨failure, back⟩, counted, hserve, hgoes⟩ := Routine.comes_bind_iff.mp h
      obtain ⟨started, deed, view, ended, hstarted, hinvoked, hcounted, rfl, rfl⟩ :=
        (comes_serve_iff hserves).mp hserve
      obtain ⟨visited, hnoted, hrest⟩ := comes_goOn_iff.mp hgoes
      exact ⟨⟨slot, before, out, some deed, _, visited⟩, rfl, rfl, rfl,
        .invoked hactive hbegun hstarted hinvoked hcounted hnoted, hrest⟩
  · rintro ⟨visit, rfl, rfl, rfl, hhappens, h⟩
    cases hhappens with
    | passedOver hinactive hothers =>
      rw [Run.consider, hinactive]
      exact ⟨_, hothers, h⟩
    | @invoked slot before begun started ended counted visited out deed back hactive hbegun hstarted hinvoked
        hcounted hnoted =>
      rw [Run.consider, hactive]
      have hserve := (comes_serve_iff hserves).mpr
        ⟨started, deed, back, ended, hstarted, hinvoked, hcounted, rfl, rfl⟩
      have hgoes := comes_goOn_iff.mpr ⟨visited, hnoted, h⟩
      exact ⟨begun, hbegun, Routine.comes_bind_iff.mpr ⟨(_, _), counted, hserve, hgoes⟩⟩

/-- A walk comes exactly to what visits give. -/
theorem comes_walk_iff {slots : List bus.Slot} (hserves : ∀ slot ∈ slots, (bus.subscriber slot).serves event.kind)
    {before after : Run bus} {out left : EventOut} {status : Status} :
    (walk env raise event slots out).Comes others before (status, left) after
      ↔ ∃ visits, Walked env raise others event slots before out visits status left after := by
  -- the later slots begin with what the first visit leaves, hence for every state and out-structure
  induction slots generalizing before out with
  | nil =>
    simp only [walked_nil_iff, exists_eq_left]
    rw [walk, Routine.comes_pure_iff, Prod.mk.injEq, and_assoc]
  | cons slot slots ih =>
    obtain ⟨hslot, hslots⟩ := List.forall_mem_cons.mp hserves
    rw [comes_walk_cons_iff hslot]
    constructor
    · rintro ⟨visit, rfl, rfl, rfl, hhappens, h⟩
      split at h
      · next hfinal =>
        refine ⟨[visit], walked_cons_iff.mpr ⟨visit, [], rfl, rfl, rfl, rfl, hhappens, ?_⟩⟩
        rw [if_pos hfinal]
        exact ⟨rfl, h⟩
      · next hgoes =>
        obtain ⟨rest, hrest⟩ := (ih hslots).mp h
        refine ⟨visit :: rest, walked_cons_iff.mpr ⟨visit, rest, rfl, rfl, rfl, rfl, hhappens, ?_⟩⟩
        rwa [if_neg hgoes]
    · rintro ⟨visits, hwalked⟩
      obtain ⟨visit, rest, rfl, hslot, hbefore, hfound, hhappens, h⟩ := walked_cons_iff.mp hwalked
      refine ⟨visit, hslot, hbefore, hfound, hhappens, ?_⟩
      split at h
      · next hfinal => rw [if_pos hfinal]; exact h.2
      · next hgoes => rw [if_neg hgoes]; exact (ih hslots).mpr ⟨rest, h⟩

end EventBus.Bus
