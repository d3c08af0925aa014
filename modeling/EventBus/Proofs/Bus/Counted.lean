import EventBus.Proofs.Bus.Dispatch
import EventBus.Proofs.Bus.Independent
import EventBus.Proofs.Bus.Ledger
import EventBus.Proofs.Bus.Loading

/-!
# The counters over whole runs

* `Driven`: what becomes of a bus when threads begin programs at any time and make their turns in any order.
* `Driven.kept`: what every turn keeps holds in all these states, and every ledger is in order.
* `Counted`, `build_counted`: the counters of a built bus: how they compare at every point, what they are where no
  dispatch is in progress, and that independent threads leave the same counters in every interleaving.
-/

namespace EventBus.Bus

variable {c : Catalog} {σ : Type} {bus : Bus c σ}

/-! ## Runs of many threads -/

/-- What becomes of a bus on which threads begin programs, with the dispatches that these make, and make turns. -/
inductive Driven (env : Environment σ) (initial : Run bus) : Pool (Run bus) Outcome → Prop where
  | start : Driven env initial ⟨initial, []⟩
  | begins {pool : Pool (Run bus) Outcome} (depth : Nat) (program : Program c σ) (h : Driven env initial pool) :
    Driven env initial { pool with threads := pool.threads ++ [perform (dispatch env depth) program] }
  | turns {pool pool' : Pool (Run bus) Outcome} (thread : Nat) (h : Driven env initial pool)
    (hstep : pool.step? thread = some pool') : Driven env initial pool'

variable {env : Environment σ} {initial : Run bus} {pool pool' : Pool (Run bus) Outcome}
  {given taken : Entry bus → Bool} {keeps : ℤ → ℤ → Prop} {dues : List bus.Slot → Event c → ℤ}

/-- Whatever one thread does in its turns is among what the others expect of it. -/
theorem fair_turn (env : Environment σ) :
    Pool.Fair (fun _ => @Becomes c σ bus) fun _ => @Turn c σ bus (Concludes env) where
  idle _ := .idle
  within _ hturn := hturn.becomes
  refl _ _ := .refl
  trans h h' := h.trans h'

section Kept

variable (hnodup : ∀ slot, ((bus.subscriber slot).inbounds.map Prod.fst).Nodup)

include hnodup

/-- A ledger is in order in every state that a bus comes to, and so is whatever each turn keeps. -/
theorem Driven.kept (hledger : Ledger bus given taken keeps dues) (inv : Run bus → Prop)
    (hturn : ∀ {run run'}, Turn (Concludes env) run run' → inv run → inv run') (hinitial : inv initial)
    (h : Driven env initial pool) :
    inv pool.state ∧ ∃ held, pool.Books (Run.balance given taken) (fun _ => Becomes) (fun _ => Turn (Concludes env)) (0 ≤ ·)
      (fun _ _ held => keeps 0 held) (initial.balance given taken) held := by
  induction h with
  | start => exact ⟨hinitial, fun _ => 0, Pool.books_of_solvent nofun⟩
  -- a thread begins with nothing on its account
  | begins depth program _ ih =>
    obtain ⟨hinv, held, hbooks⟩ := ih
    refine ⟨hinv, hbooks.begin ⟨Int.le_refl 0, fun found _ => ?_⟩⟩
    exact booked_perform hledger (settled_dispatch hledger hnodup env depth) program (hledger.gauge.refl 0) found
  | turns thread _ hstep ih =>
    obtain ⟨hinv, held, hbooks⟩ := ih
    obtain ⟨hmade, hbooks⟩ := hbooks.step (fair_turn env) hstep
    exact ⟨hturn hmade hinv, hbooks⟩

/-- The counters are what is in the journal, in every state that a bus comes to. -/
theorem Driven.tied (h : Driven env initial pool) (hinitial : Tied initial) : Tied pool.state :=
  (h.kept hnodup (ledger_nothing bus) Tied Tied.turn hinitial).1

/-- In a driven bus, each invocation that has ended goes with the deed that it came to. -/
theorem Driven.candid (h : Driven env initial pool) (hinitial : Candid env initial) : Candid env pool.state :=
  (h.kept hnodup (ledger_nothing bus) (Candid env) Candid.turn hinitial).1

end Kept

/-- A schedule of turns is one of the ways in which a bus is driven. -/
theorem Driven.run (h : Driven env initial pool) {schedule : List Nat} (hrun : pool.run? schedule = some pool') :
    Driven env initial pool' := by
  induction schedule generalizing pool with
  | nil =>
    cases hrun
    exact h
  | cons thread rest ih =>
    obtain ⟨next, hstep, hrest⟩ := Option.bind_eq_some_iff.mp hrun
    exact ih (h.turns thread hstep) hrest

/-- Threads that begin one after the other drive a bus. -/
theorem driven_threads (env : Environment σ) (depth : Nat) (programs : List (Program c σ)) (run : Run bus) :
    Driven env run (threads env depth programs run) := by
  induction programs using List.reverseRecOn with
  | nil => exact .start
  | append_singleton programs program ih =>
    have h := ih.begins depth program
    unfold threads at h ⊢
    rw [List.map_append]
    exact h

/-! ## Counts of the journal -/

variable {world : σ}

section Compared

variable (hnodup : ∀ slot, ((bus.subscriber slot).inbounds.map Prod.fst).Nodup)

include hnodup

/-- No more is taken than was given. -/
theorem Driven.count_le (h : Driven env (bus.start world) pool) (hledger : Ledger bus given taken keeps dues) :
    pool.state.count taken ≤ pool.state.count given := by
  obtain ⟨-, held, hbooks⟩ := h.kept hnodup hledger (fun _ => True) (fun _ _ => trivial) trivial
  have hle : 0 ≤ pool.state.balance given taken := hbooks.le_amount
  unfold Run.balance at hle
  omega

/-- Where all threads have come to their end, a ledger that is even comes out even. -/
theorem Driven.count_eq (h : Driven env (bus.start world) pool) (hledger : Ledger bus given taken (· = ·) dues)
    (hover : pool.values?.isSome) : pool.state.count taken = pool.state.count given := by
  obtain ⟨-, held, hbooks⟩ := h.kept hnodup hledger (fun _ => True) (fun _ _ => trivial) trivial
  -- where nothing may be left over, each thread holds nothing in the end
  have heven : pool.Books (Run.balance given taken) (fun _ => Becomes) (fun _ => Turn (Concludes env)) (0 ≤ ·)
      (fun _ _ held => held = 0) 0 held :=
    ⟨fun thread routine hroutine => ?_, hbooks.balance⟩
  · have hsum := Pool.Books.amount_of_values (fun _ => 0) (fair_turn env) heven hover
    rw [Finset.sum_const_zero, add_zero] at hsum
    unfold Run.balance at hsum
    omega
  · obtain ⟨hheld, hwaits⟩ := hbooks.solvent thread routine hroutine
    exact ⟨hheld, fun found hfound => (hwaits found hfound).mono (fun _ hallowed => hallowed) fun _ _ _ => Eq.symm⟩

end Compared

theorem count_failed_le (run : Run bus) (slot : bus.Slot) (kind : c.Kind) :
    run.count (Entry.isFailed slot kind) ≤ run.count (Entry.isFinished slot kind) := by
  refine List.countP_mono_left fun entry _ hfailed => ?_
  cases entry with
  | finished other kind' failure => exact (Bool.and_eq_true_iff.mp hfailed).1
  | _ => cases hfailed

/-- A failure that is counted is told by an entry of the journal. -/
theorem exists_failed_of_count {run : Run bus} {slot : bus.Slot} {kind : c.Kind}
    (h : 0 < run.count (Entry.isFailed slot kind)) :
    ∃ failure later earlier, run.journal = later ++ .finished slot kind failure :: earlier
      ∧ Entry.isFailed slot kind (.finished slot kind failure) := by
  obtain ⟨entry, hentry, hfailed⟩ := List.countP_pos_iff.mp h
  obtain ⟨later, earlier, hjournal⟩ := List.append_of_mem hentry
  cases entry with
  | finished other kind' failure =>
    obtain ⟨hwhere, -⟩ := Bool.and_eq_true_iff.mp hfailed
    obtain ⟨hslot, hkind⟩ := Bool.and_eq_true_iff.mp hwhere
    obtain rfl := of_decide_eq_true hslot
    obtain rfl := of_decide_eq_true hkind
    exact ⟨failure, later, earlier, hjournal, hfailed⟩
  | _ => cases hfailed

/-- Raises of a kind that nobody receives are not heard, and all others are. -/
theorem count_heard (run : Run bus) (kind : c.Kind) :
    run.count (Entry.isHeard kind) = if bus.chain kind = [] then 0 else run.count (Entry.isRaised kind) := by
  unfold Run.count Entry.isHeard
  cases hchain : bus.chain kind with
  | nil => simp
  | cons slot slots => simp

/-! ## Counters -/

/-- No kind was triggered `2 ^ 64` times. Then no other counter has come so far either. -/
def Unwrapped (run : Run bus) : Prop :=
  ∀ kind, run.count (Entry.isTriggered kind) < UInt64.size

/-- A counter that has not wrapped around shows the number of entries itself. -/
theorem Tied.toNat_reading {run : Run bus} (h : Tied run) (what : Count bus)
    (hlt : run.count what.sort < UInt64.size) : (run.reading what).toNat = run.count what.sort := by
  rw [h what]
  exact UInt64.toNat_ofNat_of_lt' hlt

/-- Threads that begin at a state of a bus leave the same counters in every interleaving in which they come to their
end. -/
def Confluent (env : Environment σ) (depth : Nat) (programs : List (Program c σ)) (run : Run bus) : Prop :=
  ∀ schedule schedule' ended ended',
    (threads env depth programs run).run? schedule = some ended → ended.values?.isSome →
    (threads env depth programs run).run? schedule' = some ended' → ended'.values?.isSome →
    ∀ what, ended.state.reading what = ended'.state.reading what

/-- Counts that are the same in every interleaving are shown by the counters as the same, whether these wrap around or
not. -/
theorem Independent.confluent {depth : Nat} {programs : List (Program c σ)} {run : Run bus}
    {rely guar : Nat → Run bus → Run bus → Prop} (h : Independent env depth programs run rely guar)
    (hnodup : ∀ slot, ((bus.subscriber slot).inbounds.map Prod.fst).Nodup) (htied : Tied run) :
    Confluent env depth programs run := by
  intro schedule schedule' ended ended' hrun hover hrun' hover' what
  obtain ⟨total, htotal⟩ := h.exists_count what
  have hended := ((driven_threads env depth programs run).run hrun).tied hnodup htied
  have hended' := ((driven_threads env depth programs run).run hrun').tied hnodup htied
  have hcount : ended.state.count what.sort = ended'.state.count what.sort := by
    have htotal₁ := htotal schedule ended hrun hover
    have htotal₂ := htotal schedule' ended' hrun' hover'
    omega
  rw [hended what, hended' what, hcount]

/-- What the counters of a bus say, whatever threads do on it. -/
structure Counted (bus : Bus c σ) (env : Environment σ) (world : σ) : Prop where
  /-- At every point, no more invocations failed than there were, and there were no more than triggers. -/
  ordered : ∀ {pool}, Driven env (bus.start world) pool → Unwrapped pool.state → ∀ slot kind,
    pool.state.reading (.failures slot kind) ≤ pool.state.reading (.invocations slot kind)
      ∧ pool.state.reading (.invocations slot kind) ≤ pool.state.reading (.triggers kind)
  /-- Where no dispatch is in progress, the counters are the numbers of what has happened. -/
  settled : ∀ {pool}, Driven env (bus.start world) pool → Unwrapped pool.state → pool.values?.isSome → ∀ kind,
    (pool.state.reading (.triggers kind)).toNat
        = (if bus.chain kind = [] then 0 else pool.state.count (Entry.isRaised kind))
      ∧ ∀ slot,
        (pool.state.reading (.invocations slot kind)).toNat = pool.state.count (Entry.isInvoked slot kind)
        ∧ pool.state.count (Entry.isInvoked slot kind) = pool.state.count (Entry.isFinished slot kind)
        ∧ (pool.state.reading (.failures slot kind)).toNat = pool.state.count (Entry.isFailed slot kind)
  /-- Each end is entered where an invocation of the slot has come to its end that is in the journal before, and counts
  as failed exactly if this one returned a failure, panicked, or was lost in the transport. -/
  candid : ∀ {pool}, Driven env (bus.start world) pool → ∀ slot kind failure later earlier,
    pool.state.journal = later ++ .finished slot kind failure :: earlier →
      ∃ (event : Event c) (deed : Deed) (ended : Run bus), event.kind = kind ∧ .invoked slot event ∈ earlier
        ∧ Concludes env slot kind deed ended ∧ ended.journal = earlier
        ∧ failure = deed.failure (bus.subscriber slot).name kind
        ∧ Entry.isFailed slot kind (.finished slot kind failure) = deed.fails
  /-- Independent threads leave the same counters in every interleaving. -/
  independent : ∀ {pool}, Driven env (bus.start world) pool → ∀ depth (programs : List (Program c σ)) rely guar,
    Independent env depth programs pool.state rely guar → Confluent env depth programs pool.state
  /-- So do threads none of which changes what another one may see. -/
  apart : ∀ {pool}, Driven env (bus.start world) pool → ∀ depth (programs : List (Program c σ))
    (prints : Nat → bus.Footprint), (∀ thread other, other ≠ thread → (prints thread).Spares (prints other)) →
    (∀ thread program, programs[thread]? = some program → (prints thread).Closed ∧ program.Within (prints thread)) →
    Confluent env depth programs pool.state

section Built

variable (hnodup : ∀ slot, ((bus.subscriber slot).inbounds.map Prod.fst).Nodup)

include hnodup

/-- On a bus whose chains call no slot twice, no more failures are noted than invocations, and no more invocations than
triggers. -/
theorem Driven.counts_ordered (h : Driven env (bus.start world) pool) (slot : bus.Slot) (kind : c.Kind) :
    pool.state.count (Entry.isFailed slot kind) ≤ pool.state.count (Entry.isInvoked slot kind)
      ∧ pool.state.count (Entry.isInvoked slot kind) ≤ pool.state.count (Entry.isTriggered kind) := by
  have hchains : ∀ kind, (bus.chain kind).Nodup := fun kind => (chain_pairwise hnodup kind).imp Fin.ne_of_lt
  exact ⟨Nat.le_trans (count_failed_le _ slot kind) (h.count_le hnodup (ledger_finished slot kind)),
    h.count_le hnodup (ledger_invoked hchains slot kind)⟩

/-- While the triggers of a kind have not wrapped around, no counter for it has, and each shows what was noted. -/
theorem Driven.toNat_readings (h : Driven env (bus.start world) pool) (hunwrapped : Unwrapped pool.state)
    (slot : bus.Slot) (kind : c.Kind) :
    (pool.state.reading (.failures slot kind)).toNat = pool.state.count (Entry.isFailed slot kind)
      ∧ (pool.state.reading (.invocations slot kind)).toNat = pool.state.count (Entry.isInvoked slot kind)
      ∧ (pool.state.reading (.triggers kind)).toNat = pool.state.count (Entry.isTriggered kind) := by
  have htied := h.tied hnodup (tied_start bus world)
  obtain ⟨hfailed, hinvoked⟩ := h.counts_ordered hnodup slot kind
  have htriggered := hunwrapped kind
  have hlt := Nat.lt_of_le_of_lt hinvoked htriggered
  exact ⟨htied.toNat_reading (.failures slot kind) (Nat.lt_of_le_of_lt hfailed hlt),
    htied.toNat_reading (.invocations slot kind) hlt, htied.toNat_reading (.triggers kind) htriggered⟩

end Built

/-- **Counters.** What `Counted` says holds of every bus that was built. -/
theorem build_counted {plan : Plan c σ} {bus : Bus c σ} (hbuilt : plan.build = .ok bus) (env : Environment σ)
    (world : σ) : Counted bus env world := by
  have hnodup := Plan.build_inbounds_nodup hbuilt
  refine
    { ordered := fun h hunwrapped slot kind => ?_
      settled := fun h hunwrapped hover kind => ⟨?_, fun slot => ?_⟩
      candid := fun h slot kind failure later earlier hjournal => ?_
      independent := fun h depth programs rely guar hindependent =>
        hindependent.confluent hnodup (h.tied hnodup (tied_start bus world))
      apart := fun h depth programs prints hspares hwithin =>
        (independent_of_spares env depth (hspares _ _) hwithin _).confluent hnodup
          (h.tied hnodup (tied_start bus world)) }
  · obtain ⟨hfailures, hinvocations, htriggers⟩ := h.toNat_readings hnodup hunwrapped slot kind
    obtain ⟨hfailed, hinvoked⟩ := h.counts_ordered hnodup slot kind
    rw [UInt64.le_iff_toNat_le, UInt64.le_iff_toNat_le, hfailures, hinvocations, htriggers]
    exact ⟨hfailed, hinvoked⟩
  -- triggers are the raises that are heard, as nobody is in the middle of one
  · have htied := h.tied hnodup (tied_start bus world)
    rw [htied.toNat_reading (.triggers kind) (hunwrapped kind), ← count_heard]
    exact h.count_eq hnodup (ledger_triggered bus kind) hover
  · obtain ⟨hfailures, hinvocations, -⟩ := h.toNat_readings hnodup hunwrapped slot kind
    exact ⟨hinvocations, (h.count_eq hnodup (ledger_finished slot kind) hover).symm, hfailures⟩
  · obtain ⟨deed, ended, hconcludes, rfl, rfl⟩ :=
      h.candid hnodup (candid_start bus world) slot kind failure later earlier hjournal
    obtain ⟨event, hkind, hinvoked⟩ := hconcludes.exists_invoked
    refine ⟨event, deed, ended, hkind, hinvoked, hconcludes, rfl, rfl, ?_⟩
    have hfailed := deed.isSome_failure (bus.subscriber slot).name kind
    simp [Entry.isFailed, hfailed]

/-! ## Two threads -/

/-- What threads may do that change nothing, and raise only what is served here. -/
def onlooker (bus : Bus c σ) : bus.Footprint where
  raises kind := ∀ slot ∈ bus.chain kind, (bus.subscriber slot).site = .internal
  sees _ := True
  changes _ := False
  Part := Unit
  view _ := ()
  stirs _ := False

theorem onlooker_spares (bus : Bus c σ) : (onlooker bus).Spares (onlooker bus) where
  slots _ hchanges := hchanges.elim
  world _ hstirs := hstirs.elim

/-- All that their raises lead to is within that footprint, if the handlers keep to it. -/
theorem closed_onlooker {plan : Plan c σ} {bus : Bus c σ} (hbuilt : plan.build = .ok bus)
    (hhandlers : ∀ r ∈ plan.registrations, ∀ event view, (r.handler.handle event view).Within (onlooker bus)) :
    (onlooker bus).Closed where
  sees _ _ _ _ := trivial
  internal kind hraises slot hslot client hexternal := by
    have hsite := hraises slot hslot
    rw [Subscriber.site, hexternal] at hsite
    cases hsite
  handlers event _ slot _ handler hhandler view := by
    obtain ⟨r, hr, rfl⟩ := Plan.exists_registration hbuilt hhandler
    exact hhandlers r hr event view
  world _ hstirs := hstirs.elim

/-- Raises an event, and ends with what its chain came to. -/
def raiseOnce (event : Event c) : Program c σ :=
  .raise event event.freshOut fun status out => .done status (some out)

/-- The counters for a kind: the triggers, and the invocations and failures of each slot. -/
def Run.readings (run : Run bus) (kind : c.Kind) : UInt64 × List (UInt64 × UInt64) :=
  (run.reading (.triggers kind),
    bus.slots.map fun slot => (run.reading (.invocations slot kind), run.reading (.failures slot kind)))

/-- Two threads, each of which raises an event of a kind on the bus with the relay. -/
def relayThreads (kind : Catalog.component.Kind) : Pool (Run relayBus) Outcome :=
  threads (Trial.deserted .component) 2 (.replicate 2 (raiseOnce ⟨.ofName "relay", kind, [1]⟩))
    (relayBus.start { net := () })

/-- Whatever their schedule is, the bus is driven. -/
theorem driven_relayThreads {kind : Catalog.component.Kind} {schedule : List Nat} {ended : Pool (Run relayBus) Outcome}
    (h : (relayThreads kind).run? schedule = some ended) :
    Driven (Trial.deserted .component) (relayBus.start { net := () }) ended :=
  (driven_threads _ 2 _ _).run h

/-- Where they tell of a host that appears, both keep to what is served here, so neither sees what the other one
changes. -/
theorem within_relayThreads {thread : Nat} {program : Program .component (Trial.World .component Unit)}
    (h : (List.replicate 2 (raiseOnce ⟨.ofName "relay", ⟨27, by decide⟩, [1]⟩))[thread]? = some program) :
    (onlooker relayBus).Closed ∧ program.Within (onlooker relayBus) := by
  have hrequest : ∀ slot ∈ relayBus.chain ⟨18, by decide⟩, (relayBus.subscriber slot).site = .internal := by
    decide +kernel
  have hwithin : ∀ r ∈ relayPlan.registrations, ∀ event view,
      (r.handler.handle event view).Within (onlooker relayBus) := by
    unfold relayPlan
    simpa [Program.Within, Program.done, onlooker] using fun _ : Event .component => hrequest
  obtain rfl := List.eq_of_mem_replicate (List.mem_of_getElem? h)
  have hraised : ∀ slot ∈ relayBus.chain ⟨27, by decide⟩, (relayBus.subscriber slot).site = .internal := by
    decide +kernel
  exact ⟨closed_onlooker build_relayPlan hwithin, hraised, fun _ _ => trivial⟩

/-- The slot of the subscriber elsewhere. -/
def mirrorSlot : relayBus.Slot := ⟨3, by decide +kernel⟩

/-- The kind that it receives. -/
def hostDeleted : Catalog.component.Kind := ⟨28, by decide⟩

/-- However the turns of two threads interleave that tell of a host that appears, each raise is counted, and so is the
raise of the relay in it: its subscribers fail by a panic, and by what they return. Of two hosts that disappear the
subscriber elsewhere is sent the first one only: that delivery is lost, it counts as one failed invocation, and the
entry of its end is that of this very invocation. -/
theorem relayPlan_counted :
    relayPlan.build = .ok relayBus
      ∧ (∀ schedule ended, (relayThreads ⟨27, by decide⟩).run? schedule = some ended → ended.values?.isSome →
        ended.state.readings ⟨27, by decide⟩ = (2, [(2, 0), (0, 0), (2, 2), (0, 0)])
          ∧ ended.state.readings ⟨18, by decide⟩ = (2, [(0, 0), (2, 2), (0, 0), (0, 0)]))
      ∧ ∃ ended, (relayThreads hostDeleted).run? (.replicate 8 0 ++ .replicate 3 1) = some ended
        ∧ ended.values?.isSome ∧ ended.state.readings hostDeleted = (2, [(0, 0), (0, 0), (0, 0), (1, 1)])
        ∧ (relayBus.subscriber mirrorSlot).site = .external
        ∧ ∃ deed state, Concludes (Trial.deserted .component) mirrorSlot hostDeleted deed state ∧ deed.fails
          ∧ .finished mirrorSlot hostDeleted (deed.failure "mirror" hostDeleted) :: state.journal
            <:+ ended.state.journal := by
  have hcounted := build_counted build_relayPlan (Trial.deserted .component) { net := () }
  refine ⟨build_relayPlan, fun schedule ended hrun hover => ?_, ?_⟩
  · -- one interleaving, turn by turn
    have hturns : ((relayThreads ⟨27, by decide⟩).run? ((List.range 30).map (· % 2))).map (fun ended =>
        (ended.values?.isSome, ended.state.readings ⟨27, by decide⟩, ended.state.readings ⟨18, by decide⟩))
        = some (true, (2, [(2, 0), (0, 0), (2, 2), (0, 0)]), (2, [(0, 0), (2, 2), (0, 0), (0, 0)])) := by
      decide +kernel
    obtain ⟨other, hother, hreadings⟩ := Option.map_eq_some_iff.mp hturns
    obtain ⟨hover', hrelayed, hjudged⟩ := Prod.mk.inj hreadings |>.imp_right Prod.mk.inj
    have hsame := hcounted.apart .start 2 _ (fun _ => onlooker relayBus) (fun _ _ _ => onlooker_spares relayBus)
      (fun _ _ => within_relayThreads) _ _ _ _ hrun hover hother hover'
    have hreadings : ∀ kind, ended.state.readings kind = other.state.readings kind := fun kind => by
      unfold Run.readings
      simp only [hsame]
    exact ⟨(hreadings _).trans hrelayed, (hreadings _).trans hjudged⟩
  · have hturns : ((relayThreads hostDeleted).run? (.replicate 8 0 ++ .replicate 3 1)).map (fun ended =>
        (ended.values?.isSome, ended.state.readings hostDeleted,
          (ended.state.reading (.failures mirrorSlot hostDeleted)).toNat, ended.state.journal.length))
        = some (true, (2, [(0, 0), (0, 0), (0, 0), (1, 1)]), 1, 9) := by
      decide +kernel
    obtain ⟨ended, hrun, hreadings⟩ := Option.map_eq_some_iff.mp hturns
    obtain ⟨hover, hreadings⟩ := Prod.mk.inj hreadings
    obtain ⟨hreadings, hlost⟩ := Prod.mk.inj hreadings
    obtain ⟨hlost, hlength⟩ := Prod.mk.inj hlost
    have hdriven := driven_relayThreads hrun
    -- there are fewer entries than it takes for a counter to wrap around
    have hunwrapped : Unwrapped ended.state := fun kind =>
      Nat.lt_of_le_of_lt List.countP_le_length (by rw [hlength]; decide)
    -- the failure that is counted is in the journal, and so is the invocation that it tells of
    obtain ⟨-, hslots⟩ := hcounted.settled hdriven hunwrapped hover hostDeleted
    obtain ⟨-, -, hfailures⟩ := hslots mirrorSlot
    have hcount : ended.state.count (Entry.isFailed mirrorSlot hostDeleted) = 1 := hfailures.symm.trans hlost
    obtain ⟨failure, later, earlier, hjournal, hfailed⟩ :=
      exists_failed_of_count (Nat.lt_of_lt_of_eq Nat.one_pos hcount.symm)
    obtain ⟨event, deed, state, -, -, hconcludes, rfl, rfl, hfails⟩ :=
      hcounted.candid hdriven mirrorSlot _ failure later earlier hjournal
    refine ⟨ended, hrun, hover, hreadings, by decide +kernel, deed, state, hconcludes, hfails ▸ hfailed, later, ?_⟩
    exact hjournal.symm

end EventBus.Bus
