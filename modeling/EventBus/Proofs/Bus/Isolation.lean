import EventBus.Proofs.Bus.Delivery

/-!
# Who writes the out-structure

Only subscribers that hold WRITE for a kind have a say in what a dispatch of it leaves in the out-structure.

* `Alike`: two subscribers, of one bus or of two, behave alike: they fail with the same status and do the same to
  the bus, and if they hold WRITE, they also hand back the same out-structure. What both do to a bus is the same
  as far as a relation between states tells, which the reader chooses.
* `comes_walk_alike`: chains of subscribers that behave alike come to the same status and out-structure.
* `WriteIsolated`, `dispatch_writeIsolated`: that, and what becomes of the out-structure at one subscriber: without
  WRITE it is left as it is, and so it is by a delivery that fails in the transport.
-/

namespace EventBus.Bus

variable {c : Catalog} {σ σ' : Type} {bus : Bus c σ} {bus' : Bus c σ'}

/-! ## Behaving alike -/

/-- The status of the failure, if the invocation failed. -/
def Response.status? (response : Response) : Option Status :=
  response.failure.map DispatchError.status

/-- States of two buses go together. Counting and noting part none of them, and whatever the other threads of the
first bus do, those of the second can do as well. -/
structure Together (others : Run bus → Run bus → Prop) (others' : Run bus' → Run bus' → Prop)
    (same : Run bus → Run bus' → Prop) : Prop where
  recorded : ∀ {run run' kept kept'}, same run run' → Recorded run kept → Recorded run' kept' → same kept kept'
  others : ∀ {run run' kept}, same run run' → others run kept → ∃ kept', others' run' kept' ∧ same kept kept'

variable (env : Environment σ) (env' : Environment σ') (raise : Raise bus) (raise' : Raise bus')
  (others : Run bus → Run bus → Prop) (others' : Run bus' → Run bus' → Prop) (same : Run bus → Run bus' → Prop)
  (event : Event c)

/-- Two subscribers behave alike when an event is delivered to them. -/
structure Alike (slot : bus.Slot) (slot' : bus'.Slot) : Prop where
  perm : (bus'.subscriber slot').perm event.kind = (bus.subscriber slot).perm event.kind
  active : ∀ run run', same run run' → run'.isActive slot' = run.isActive slot
  /-- To each response of the first there is one of the second with the same status and the same effects, and with
  the same out-structure if they hold WRITE. -/
  responds : ∀ out run run', same run run' → ∀ response after,
    (invoke env raise slot event (viewOf ((bus.subscriber slot).perm event.kind) out)).Comes others run response
      after →
    ∃ response' after',
      (invoke env' raise' slot' event (viewOf ((bus.subscriber slot).perm event.kind) out)).Comes others' run'
        response' after'
      ∧ response'.status? = response.status? ∧ same after after'
      ∧ (((bus.subscriber slot).perm event.kind).write = true → response'.view = response.view)

variable {env env' raise raise' others others' same event}

/-- Two subscribers that behave alike are served alike, since only one that holds WRITE has its out-structure taken. -/
theorem comes_serve_alike (htogether : Together others others' same) {slot : bus.Slot} {slot' : bus'.Slot}
    (halike : Alike env env' raise raise' others others' same event slot slot') {out left : EventOut} {run after : Run bus}
    {run' : Run bus'} {failure : Option DispatchError} (hsame : same run run')
    (h : (serve env raise slot event out).Comes others run (failure, left) after) :
    ∃ failure' after', (serve env' raise' slot' event out).Comes others' run' (failure', left) after'
      ∧ failure'.map DispatchError.status = failure.map DispatchError.status ∧ same after after' := by
  rw [serve, Routine.comes_atomic_bind_iff] at h
  obtain ⟨started, hstarted, h⟩ := h
  obtain ⟨response, ended, hinvoke, h⟩ := Routine.comes_bind_iff.mp h
  obtain ⟨counted, hcounted, hvalue, rfl⟩ := Routine.comes_change_bind_iff.mp h
  obtain ⟨rfl, rfl⟩ := Prod.mk.inj hvalue
  -- each turn of the first is followed by the same turn of the second
  have hbegun := htogether.recorded hsame (recorded_begin slot event run) (recorded_begin slot' event run')
  obtain ⟨started', hstarted', hsame⟩ := htogether.others hbegun hstarted
  obtain ⟨response', ended', hinvoke', hstatus, hsame, hview⟩ := halike.responds out _ _ hsame response ended hinvoke
  have hfinished : ∀ elapsed elapsed', same (ended.finish slot event.kind elapsed response.failure)
      (ended'.finish slot' event.kind elapsed' response'.failure) := fun elapsed elapsed' =>
    htogether.recorded hsame (recorded_finish slot event.kind elapsed response.failure ended)
      (recorded_finish slot' event.kind elapsed' response'.failure ended')
  obtain ⟨counted', hcounted', hsame⟩ := htogether.others
    (hfinished _ ⟨(env'.now ended'.world).nanoseconds - (env'.now run'.world).nanoseconds⟩) hcounted
  refine ⟨response'.failure, counted', ?_, hstatus, hsame⟩
  rw [serve, Routine.comes_atomic_bind_iff, halike.perm]
  refine ⟨started', hstarted', Routine.comes_bind_iff.mpr ⟨response', ended', hinvoke', ?_⟩⟩
  refine Routine.comes_change_bind_iff.mpr ⟨counted', hcounted', Prod.ext rfl ?_, rfl⟩
  unfold outAfter
  split
  · next hwrite => rw [hview hwrite]
  · rfl

/-- Two subscribers that behave alike hold the same permissions, so they stop a chain alike. -/
theorem stops_alike {slot : bus.Slot} {slot' : bus'.Slot}
    (halike : Alike env env' raise raise' others others' same event slot slot') :
    bus'.stops slot' event.kind = bus.stops slot event.kind := by
  unfold stops
  rw [halike.perm]

/-- Behind subscribers that failed alike, two walks go on alike. -/
theorem comes_goOn_alike (htogether : Together others others' same) {slot : bus.Slot} {slot' : bus'.Slot}
    (halike : Alike env env' raise raise' others others' same event slot slot') {slots : List bus.Slot}
    {slots' : List bus'.Slot} {out left : EventOut} {run after : Run bus} {run' : Run bus'}
    {failure failure' : Option DispatchError} {status : Status}
    (hrest : ∀ {run run'}, same run run' → (walk env raise event slots out).Comes others run (status, left) after →
      ∃ after', (walk env' raise' event slots' out).Comes others' run' (status, left) after' ∧ same after after')
    (hstatus : failure'.map DispatchError.status = failure.map DispatchError.status) (hsame : same run run')
    (h : (goOn env raise event slot slots (failure, out)).Comes others run (status, left) after) :
    ∃ after', (goOn env' raise' event slot' slots' (failure', out)).Comes others' run' (status, left) after'
      ∧ same after after' := by
  cases failure with
  | none =>
    obtain rfl := Option.map_eq_none_iff.mp hstatus
    exact hrest hsame h
  | some error =>
    -- the reports may differ in their texts, the status does not
    obtain ⟨error', rfl, herror⟩ := Option.map_eq_some_iff.mp hstatus
    unfold goOn at h ⊢
    dsimp only at h ⊢
    rw [stops_alike halike]
    split at h
    · next hstops =>
      obtain ⟨noted, hnoted, hvalue, rfl⟩ := Routine.comes_change_bind_iff.mp h
      have hentered := htogether.recorded hsame (recorded_enter (.aborted slot event.kind error) run)
        (recorded_enter (.aborted slot' event.kind error') run')
      obtain ⟨noted', hnoted', hsame⟩ := htogether.others hentered hnoted
      rw [if_pos hstops]
      refine ⟨noted', Routine.comes_change_bind_iff.mpr ⟨noted', hnoted', ?_, rfl⟩, hsame⟩
      rw [hvalue, herror]
    · next hgoes =>
      obtain ⟨noted, hnoted, h⟩ := Routine.comes_change_bind_iff.mp h
      have hentered := htogether.recorded hsame (recorded_enter (.absorbed slot event.kind error) run)
        (recorded_enter (.absorbed slot' event.kind error') run')
      obtain ⟨noted', hnoted', hsame⟩ := htogether.others hentered hnoted
      obtain ⟨after', hafter', hsame⟩ := hrest hsame h
      rw [if_neg hgoes]
      exact ⟨after', Routine.comes_change_bind_iff.mpr ⟨noted', hnoted', hafter'⟩, hsame⟩

/-- Chains of subscribers that behave alike come to the same. -/
theorem comes_walk_alike (htogether : Together others others' same) {slots : List bus.Slot} {slots' : List bus'.Slot}
    (halike : List.Forall₂ (Alike env env' raise raise' others others' same event) slots slots') {out left : EventOut}
    {run after : Run bus} {run' : Run bus'} {status : Status} (hsame : same run run')
    (h : (walk env raise event slots out).Comes others run (status, left) after) :
    ∃ after', (walk env' raise' event slots' out).Comes others' run' (status, left) after' ∧ same after after' := by
  -- the rest of a chain begins with whatever states and out-structure the first subscribers leave
  induction halike generalizing out run run' with
  | nil =>
    obtain ⟨hvalue, rfl⟩ := Routine.comes_pure_iff.mp h
    exact ⟨run', Routine.comes_pure_iff.mpr ⟨hvalue, rfl⟩, hsame⟩
  | @cons slot slot' slots slots' hslot hslots ih =>
    simp only [walk_cons, Routine.comes_atomic_bind_iff] at h ⊢
    obtain ⟨begun, hbegun, h⟩ := h
    -- both are passed over, or both are invoked
    have hactive := hslot.active run run' hsame
    cases hcase : run.isActive slot with
    | false =>
      rw [hcase] at hactive
      rw [Run.consider_of_not_isActive hcase] at hbegun h
      rw [Run.consider_of_not_isActive hactive]
      have hpassed := htogether.recorded hsame (recorded_enter (.passedOver slot event) run)
        (recorded_enter (.passedOver slot' event) run')
      obtain ⟨begun', hbegun', hsame⟩ := htogether.others hpassed hbegun
      obtain ⟨after', hafter', hsame⟩ := ih hsame h
      exact ⟨after', ⟨begun', hbegun', hafter'⟩, hsame⟩
    | true =>
      rw [hcase] at hactive
      rw [Run.consider_of_isActive hcase] at hbegun h
      rw [Run.consider_of_isActive hactive]
      obtain ⟨begun', hbegun', hsame⟩ := htogether.others hsame hbegun
      obtain ⟨⟨failure, middle⟩, counted, hserve, hgoes⟩ := Routine.comes_bind_iff.mp h
      obtain ⟨failure', counted', hserve', hstatus, hsame⟩ := comes_serve_alike htogether hslot hsame hserve
      obtain ⟨after', hgoes', hsame⟩ :=
        comes_goOn_alike htogether hslot (fun hsame hrest => ih hsame hrest) hstatus hsame hgoes
      exact ⟨after', ⟨begun', hbegun', Routine.comes_bind_iff.mpr ⟨_, counted', hserve', hgoes'⟩⟩, hsame⟩

/-- Dispatches along two chains that behave alike. -/
theorem comes_dispatchBy_alike (htogether : Together others others' same)
    (halike : List.Forall₂ (Alike env env' raise raise' others others' same event) (bus.chain event.kind)
      (bus'.chain event.kind)) {out left : EventOut} {run after : Run bus} {run' : Run bus'} {status : Status}
    (hsame : same run run') (h : (dispatchBy env raise event out).Comes others run (status, left) after) :
    ∃ after', (dispatchBy env' raise' event out).Comes others' run' (status, left) after' ∧ same after after' := by
  unfold dispatchBy at h ⊢
  cases hchain : bus.chain event.kind with
  | nil =>
    rw [hchain] at h halike
    -- chains that correspond are empty together
    rw [List.forall₂_nil_left_iff.mp halike]
    obtain ⟨hvalue, rfl⟩ := Routine.comes_pure_iff.mp h
    exact ⟨run', Routine.comes_pure_iff.mpr ⟨hvalue, rfl⟩, hsame⟩
  | cons slot slots =>
    rw [hchain] at h halike
    obtain ⟨slot', slots', hslot, hslots, hchain'⟩ := List.forall₂_cons_left_iff.mp halike
    rw [hchain'] at halike ⊢
    obtain ⟨triggered, htriggered, h⟩ := Routine.comes_change_bind_iff.mp h
    have hcounted := htogether.recorded hsame (recorded_trigger event run) (recorded_trigger event run')
    obtain ⟨triggered', htriggered', hsame⟩ := htogether.others hcounted htriggered
    obtain ⟨after', hafter', hsame⟩ := comes_walk_alike htogether halike hsame h
    exact ⟨after', Routine.comes_change_bind_iff.mpr ⟨triggered', htriggered', hafter'⟩, hsame⟩

/-! ## One subscriber -/

/-- What comes of serving a slot, as far as the out-structure goes. -/
theorem comes_serve_left {slot : bus.Slot} {out left : EventOut} {run after : Run bus} {failure : Option DispatchError}
    (h : (serve env raise slot event out).Comes others run (failure, left) after) :
    ∃ started view ended,
      (invoke env raise slot event (viewOf ((bus.subscriber slot).perm event.kind) out)).Comes others started
        ⟨failure, view⟩ ended
      ∧ left = outAfter ((bus.subscriber slot).perm event.kind) out view := by
  rw [serve, Routine.comes_atomic_bind_iff] at h
  obtain ⟨started, -, h⟩ := h
  obtain ⟨response, ended, hinvoke, h⟩ := Routine.comes_bind_iff.mp h
  obtain ⟨counted, -, hvalue, -⟩ := Routine.comes_change_bind_iff.mp h
  obtain ⟨rfl, rfl⟩ := Prod.mk.inj hvalue
  exact ⟨started, response.view, ended, hinvoke, rfl⟩

/-- The end of a handler is no failure of the transport. -/
theorem failureOfEnding_ne_transportFailure (name : String) (kind : c.Kind) (ending : Ending) (name' kind' : String)
    (e : TransportError) : failureOfEnding name kind ending ≠ some (.transportFailure name' kind' e) := by
  cases ending with
  | panicked info => simp [failureOfEnding]
  | returned status =>
    unfold failureOfEnding failureOf
    split <;> simp

/-- An invocation that fails in the transport hands back the view that it was given. -/
theorem comes_invoke_lost {slot : bus.Slot} {view back : Option EventOut} {run after : Run bus} {name kind : String}
    {e : TransportError}
    (h : (invoke env raise slot event view).Comes others run ⟨some (.transportFailure name kind e), back⟩ after) :
    back = view := by
  rw [invoke] at h
  split at h
  · next client htarget =>
    rw [comes_deliver_iff] at h
    split at h
    · next status returned sent hsent =>
      have hfailure := congrArg Response.failure h.2
      unfold failureOf at hfailure
      split at hfailure <;> cases hfailure
    · next e' returned sent hsent =>
      obtain ⟨-, hback, -⟩ := transmit_fails (Run.inSession_eq hsent)
      exact (congrArg Response.view h.2).trans hback
  · split at h
    · obtain ⟨outcome, -, hresponse⟩ := comes_callHandler_iff.mp h
      exact absurd (congrArg Response.failure hresponse).symm (failureOfEnding_ne_transportFailure _ _ _ _ _ _)
    · cases congrArg Response.failure (Routine.comes_pure_iff.mp h).1

/-! ## Isolation -/

/-- The out-structure is written by subscribers that hold WRITE, and by nobody else. -/
structure WriteIsolated (env : Environment σ) (depth : Nat) (event : Event c) (others : Run bus → Run bus → Prop) :
    Prop where
  /-- Subscribers that behave alike leave the same out-structure, whatever those without WRITE would write. -/
  alike : ∀ {σ' : Type} {bus' : Bus c σ'} (env' : Environment σ') (depth' : Nat) (others' : Run bus' → Run bus' → Prop)
    (same : Run bus → Run bus' → Prop), Together others others' same →
    List.Forall₂ (Alike env env' (dispatch env depth) (dispatch env' depth') others others' same event)
      (bus.chain event.kind) (bus'.chain event.kind) →
    ∀ out run run', same run run' → ∀ status left after,
      (dispatch env (depth + 1) event out).Comes others run (status, left) after →
      ∃ after', (dispatch env' (depth' + 1) event out).Comes others' run' (status, left) after' ∧ same after after'
  /-- A subscriber without WRITE leaves it as it is, be it a handler or the other end of the transport. -/
  unwritten : ∀ slot, ((bus.subscriber slot).perm event.kind).write = false → ∀ out run failure left after,
    (serve env (dispatch env depth) slot event out).Comes others run (failure, left) after → left = out
  /-- A client that was given none hands none back, whatever it is answered. -/
  unasked : ∀ (client : Client) envelope session, (client.request env envelope none session).2.1 = none
  /-- A delivery that fails in the transport leaves it as it is, even with WRITE. -/
  lost : ∀ slot out run name kind e left after,
    (serve env (dispatch env depth) slot event out).Comes others run (some (.transportFailure name kind e), left) after →
      left = out

/-- Two dispatches in step, and what one subscriber leaves of the out-structure. -/
theorem dispatch_writeIsolated (bus : Bus c σ) (env : Environment σ) (depth : Nat) (event : Event c)
    (others : Run bus → Run bus → Prop) : WriteIsolated env depth event others := by
  constructor
  case alike =>
    intro σ' bus' env' depth' others' same htogether halike out run run' hsame status left after h
    exact comes_dispatchBy_alike htogether halike hsame h
  case unwritten =>
    intro slot hwrite out run failure left after h
    obtain ⟨started, view, ended, -, rfl⟩ := comes_serve_left h
    unfold outAfter
    rw [hwrite]
    rfl
  -- no view is sent, so none of the answers can bring one back
  case unasked =>
    intro client envelope session
    unfold Client.request
    generalize client.call env (.request envelope none) session = answer
    obtain ⟨result, left⟩ := answer
    match result with
    | .error e => rfl
    | .ok frame =>
      cases frame with
      | reply status returned => rfl
      | _ => rfl
  case lost =>
    intro slot out run name kind e left after h
    obtain ⟨started, view, ended, hinvoke, rfl⟩ := comes_serve_left h
    rw [comes_invoke_lost hinvoke]
    exact outAfter_viewOf _ out

/-! ## A peer that answers with an out-structure that nobody asked for -/

/-- Surroundings in which everything that is sent is answered with a failure and an out-structure. -/
def unaskedOuts : Environment Unit where
  connect _ world := (.ok 1, world)
  write _ _ world := (.ok (), world)
  receive _ _ world := (⟨[.piece (Frame.reply ⟨1⟩ (some ⟨9, [9]⟩)).encode], .fails .wouldBlock⟩, world)
  close _ world := world
  now _ := .zero

/-- A bus whose first subscriber holds WRITE. The second one may only stop the chain; it is a handler, or listens
elsewhere. -/
def writerStopperBus (remote : Bool) : Bus .component Unit where
  config := {}
  subscribers :=
    #[⟨"writer", "", .general, true, [(briefEvent.kind, ⟨true, true, false⟩)], [],
        .internal (some ⟨"writer", fun _ _ => .done .ok (some ⟨7, [7]⟩)⟩) []⟩,
      ⟨"stopper", "", .general, true, [(briefEvent.kind, ⟨true, false, true⟩)], [],
        if remote then .external (.ofConfig {} (.local "stopper"))
        else .internal (some ⟨"stopper", fun _ _ => .done ⟨1⟩ (some ⟨9, [9]⟩)⟩) []⟩]

/-- Both subscribers are in the chain, wherever the second one runs. -/
theorem chain_writerStopperBus (remote : Bool) :
    (writerStopperBus remote).chain briefEvent.kind = (writerStopperBus remote).slots := by
  cases remote <;> rfl

/-- Both buses have the same subscribers activated, and nothing is left unread on a connection of the second. -/
def PlacementsAgree (run : Run (writerStopperBus false)) (run' : Run (writerStopperBus true)) : Prop :=
  ∀ slot : Fin 2, run'.isActive slot = run.isActive slot
    ∧ ((run'.cell slot).link = none ∨ ∃ handle, (run'.cell slot).link = some ⟨handle, []⟩)

/-- Counting on both buses keeps them in agreement. -/
theorem together_placements : Together (· = ·) (· = ·) PlacementsAgree where
  recorded {run run' kept kept'} hagree hkept hkept' slot := by
    have hbefore := hagree slot
    have hslot := hkept.undisturbed slot
    have hslot' := hkept'.undisturbed slot
    rw [hslot.active, hslot'.active, hslot'.link]
    exact hbefore
  others {run run' kept} hagree hkept := ⟨run', rfl, hkept ▸ hagree⟩

/-- What a call of a handler comes to that ends at once. -/
theorem comes_invoke_done {bus : Bus .component Unit} {raise : Raise bus} {slot : bus.Slot} {name : String}
    {outcome : Outcome}
    (hhandler : (bus.subscriber slot).handler? briefEvent.kind = some ⟨name, fun _ _ => .finish outcome⟩)
    {view : Option EventOut} {run after : Run bus} {response : Response} :
    (invoke unaskedOuts raise slot briefEvent view).Comes (· = ·) run response after
      ↔ response = ⟨failureOfEnding (bus.subscriber slot).name briefEvent.kind outcome.ending, outcome.view⟩
        ∧ after = run := by
  rw [invoke_of_handler hhandler, comes_callHandler_iff]
  constructor
  · rintro ⟨outcome', ⟨rfl, rfl⟩, hresponse⟩
    exact ⟨hresponse, rfl⟩
  · rintro ⟨hresponse, rfl⟩
    exact ⟨outcome, ⟨rfl, rfl⟩, hresponse⟩

variable {raise : Raise (writerStopperBus false)} {raise' : Raise (writerStopperBus true)}

/-- The writer is internal on both buses, and behaves alike. -/
theorem writers_alike :
    Alike unaskedOuts unaskedOuts raise raise' (· = ·) (· = ·) PlacementsAgree briefEvent
      (⟨0, by decide⟩ : (writerStopperBus false).Slot) (⟨0, by decide⟩ : (writerStopperBus true).Slot) where
  perm := rfl
  active run run' hagree := (hagree 0).1
  responds out run run' hagree response after h := by
    obtain ⟨rfl, rfl⟩ := (comes_invoke_done rfl).mp h
    exact ⟨_, run', (comes_invoke_done rfl).mpr ⟨rfl, rfl⟩, rfl, hagree, fun _ => rfl⟩

/-- The call to a stopper that listens elsewhere leaves a connection on which nothing is unread. -/
theorem inSession_unaskedOuts {run' : Run (writerStopperBus true)}
    (hlink : (run'.cell ⟨1, by decide⟩).link = none ∨ ∃ handle, (run'.cell ⟨1, by decide⟩).link = some ⟨handle, []⟩) :
    ∃ handle, run'.inSession ⟨1, by decide⟩ (transmit unaskedOuts (.ofConfig {} (.local "stopper")) ⟨true, false, true⟩
        (.ofEvent briefEvent) none)
      = ((.ok ⟨1⟩, none), run'.modifyCell ⟨1, by decide⟩ fun cell => { cell with link := some ⟨handle, []⟩ }) := by
  unfold Run.inSession
  rcases hlink with hnone | ⟨handle, hsome⟩
  · rw [hnone]
    exact ⟨1, rfl⟩
  · rw [hsome]
    exact ⟨handle, rfl⟩

/-- A stopper that listens elsewhere is answered for with the status that the other one returns. -/
theorem stoppers_alike :
    Alike unaskedOuts unaskedOuts raise raise' (· = ·) (· = ·) PlacementsAgree briefEvent
      (⟨1, by decide⟩ : (writerStopperBus false).Slot) (⟨1, by decide⟩ : (writerStopperBus true).Slot) where
  perm := rfl
  active run run' hagree := (hagree 1).1
  responds out run run' hagree response after h := by
    obtain ⟨rfl, rfl⟩ := (comes_invoke_done rfl).mp h
    -- the host hands an out-structure back that nobody has asked for; it is not taken
    obtain ⟨handle, hsent⟩ := inSession_unaskedOuts (hagree 1).2
    have htarget : ((writerStopperBus true).subscriber ⟨1, by decide⟩).target
        = .external (.ofConfig {} (.local "stopper")) := rfl
    have hanswered : Invoked unaskedOuts raise' (· = ·) briefEvent ⟨1, by decide⟩ none run' (.answered ⟨1⟩) none
        (run'.modifyCell ⟨1, by decide⟩ fun cell => { cell with link := some ⟨handle, []⟩ }) :=
      .answered htarget hsent rfl
    refine ⟨⟨failureOf "stopper" briefEvent.kind ⟨1⟩, none⟩, _, (comes_invoke_iff rfl).mpr ⟨_, hanswered, rfl⟩, rfl,
      fun slot => ?_, nofun⟩
    by_cases hstopper : slot = ⟨1, by decide⟩
    · subst hstopper
      refine ⟨?_, .inr ⟨handle, congrArg Cell.link (Run.cell_modifyCell_self ..)⟩⟩
      exact (congrArg Cell.activated (Run.cell_modifyCell_self ..)).trans (hagree 1).1
    · have hcell := Run.cell_modifyCell_of_ne (fun cell => { cell with link := some ⟨handle, []⟩ }) run' hstopper
      exact ⟨(congrArg Cell.activated hcell).trans (hagree slot).1,
        (hagree slot).2.imp (congrArg Cell.link hcell).trans fun ⟨other, hother⟩ =>
          ⟨other, (congrArg Cell.link hcell).trans hother⟩⟩

/-- The first subscriber writes and the second one stops the chain; what that one hands back, or answers with, is
lost. -/
theorem writerStopperBus_writeIsolated :
    ∃ after', (dispatch unaskedOuts 1 briefEvent ⟨0, []⟩).Comes (· = ·) ((writerStopperBus true).start ())
      (⟨1⟩, ⟨7, [7]⟩) after' := by
  have halone : ((dispatch unaskedOuts 1 briefEvent ⟨0, []⟩).alone ((writerStopperBus false).start ())).map Prod.fst
      = some (⟨1⟩, ⟨7, [7]⟩) := by
    decide +kernel
  obtain ⟨⟨answer, after⟩, hafter, rfl⟩ := Option.map_eq_some_iff.mp halone
  have halike : List.Forall₂ (Alike unaskedOuts unaskedOuts (dispatch unaskedOuts 0) (dispatch unaskedOuts 0) (· = ·)
      (· = ·) PlacementsAgree briefEvent) ((writerStopperBus false).chain briefEvent.kind)
      ((writerStopperBus true).chain briefEvent.kind) := by
    rw [chain_writerStopperBus, chain_writerStopperBus]
    exact .cons writers_alike (.cons stoppers_alike .nil)
  have hstart : PlacementsAgree ((writerStopperBus false).start ()) ((writerStopperBus true).start ()) := fun
    | 0 => ⟨rfl, .inl rfl⟩
    | 1 => ⟨rfl, .inl rfl⟩
  -- the run that is computed has both subscribers here; its twin with a remote stopper is had from the theorem
  have hisolated := dispatch_writeIsolated (writerStopperBus false) unaskedOuts 0 briefEvent (· = ·)
  obtain ⟨after', hafter', -⟩ := hisolated.alike unaskedOuts 0 (· = ·) PlacementsAgree together_placements halike _ _ _
    hstart _ _ after (Routine.comes_eq_iff.mpr hafter)
  exact ⟨after', hafter'⟩

end EventBus.Bus
