import EventBus.Catalog.Component
import EventBus.Proofs.Bus.Connections
import EventBus.Proofs.Client.Switchboard
import Mathlib.Data.List.Forall2

/-!
# Where subscribers run

A dispatch comes to the same wherever the subscribers of its chain run, if their handlers depend on what they are
given only, the connections to hosts work and no frame is too large.

* A `Member` is a subscriber of a chain without the place where it runs. `course` is what an event comes to in a
  chain of members, and `turns` says who has a turn in it and with which out-structure.
* `Stands`: a slot holds a member, which runs here or on a host.
* `Visit.Happens.of_stands`: a visit of a slot does what the member of the slot does.
* `Staged.settles`: a dispatch comes to the course of its members.
-/

namespace EventBus

variable {c : Catalog} {σ τ : Type}

/-! ## Chains without places -/

/-- A subscriber of a chain without the place where it runs. -/
structure Member (c : Catalog) where
  perm : Perm
  active : Bool
  behaviour : Behaviour c

namespace Member

variable (member : Member c) (event : Event c) (out : EventOut)

/-- What the handler comes to, with its view of the out-structure. -/
def outcome : Outcome :=
  member.behaviour event (Bus.viewOf member.perm out)

/-- The out-structure behind the member. -/
def leaves : EventOut :=
  if member.active then Bus.outAfter member.perm out (member.outcome event out).view else out

/-- Whether the member stops the chain. -/
def stops : Bool :=
  member.active && ((member.outcome event out).ending.status.isFailure
    && (Catalog.isGated event.kind && member.perm.execute))

end Member

/-- What an event comes to in a chain: the status, and the out-structure behind it. -/
def course (event : Event c) : List (Member c) → EventOut → Status × EventOut
  | [], out => (.ok, out)
  | member :: rest, out =>
    if member.stops event out then ((member.outcome event out).ending.status, member.leaves event out)
    else course event rest (member.leaves event out)

/-- The members whose turn comes, each with the out-structure that it finds. -/
def turns (event : Event c) : List (Member c) → EventOut → List (Member c × EventOut)
  | [], _ => []
  | member :: rest, out =>
    (member, out) :: if member.stops event out then [] else turns event rest (member.leaves event out)

/-! ## Programs without a bus -/

namespace Program

variable {kept : σ → σ → Prop} {outcome : Outcome} {program : Program c σ}

/-- A program that comes to an outcome on its own raises nothing. -/
theorem ComesTo.raisesOnly (h : program.ComesTo kept outcome) (allowed : Event c → Prop) :
    program.RaisesOnly allowed := by
  induction program with
  | finish result => trivial
  | note record next ih => exact ih h
  | look next ih => exact fun world => ih world (h world)
  | change f next ih => exact ih h.2
  | setActivated | isActivated | handshake | raise => exact h.elim

/-- A program that comes to an outcome on its own ends with that one. -/
theorem ComesTo.finishesOnly (h : program.ComesTo kept outcome) : program.FinishesOnly (· = outcome) := by
  induction program with
  | finish result => exact h
  | note record next ih => exact ih h
  | look next ih => exact fun world => ih world (h world)
  | change f next ih => exact ih h.2
  | setActivated | isActivated | handshake | raise => exact h.elim

end Program

namespace Bus

variable {bus : Bus c σ} {env : Environment σ} {outposts : Endpoint → Option (Outpost c τ)}
  {net : Network env outposts} {others : Run bus → Run bus → Prop} {event : Event c} {slots : List bus.Slot}
  {slot : bus.Slot} {member : Member c} {before after run : Run bus} {raise : Raise bus} {out : EventOut}

variable (net) in
/-- What may be done to the world without touching connections. -/
def KeepsLines (before after : σ) : Prop :=
  net.line? after = net.line? before

/-- The turns of such a program leave the bus connected and the activations as they were. -/
theorem sound_perform {outcome : Outcome} {program : Program c σ} (h : program.ComesTo (KeepsLines net) outcome)
    (hothers : ∀ before after, others before after → Sound net slots before after) {result : Outcome}
    (hcomes : (perform raise program).Comes others before result after) : Sound net slots before after := by
  -- on the program; it can note, look and change its surroundings, and that keeps the connections
  induction program generalizing before with
  | finish value =>
    obtain ⟨rfl, rfl⟩ := hcomes
    exact .refl _
  | note record next ih =>
    obtain ⟨found, hfound, hrest⟩ := Routine.comes_atomic_bind_iff.mp hcomes
    exact (sound_enter _ before).trans ((hothers _ _ hfound).trans (ih h hrest))
  | look next ih =>
    obtain ⟨found, hfound, hrest⟩ := Routine.comes_atomic_bind_iff.mp hcomes
    exact (hothers _ _ hfound).trans (ih _ (h _) hrest)
  | change f next ih =>
    obtain ⟨found, hfound, hrest⟩ := Routine.comes_atomic_bind_iff.mp hcomes
    exact (sound_modifyWorld h.1 before).trans ((hothers _ _ hfound).trans (ih h.2 hrest))
  | setActivated | isActivated | handshake | raise => exact h.elim

/-! ## Members at slots -/

variable (net) in
/-- A slot runs a handler of some behaviour for a kind, here or on a host. -/
inductive RunsAt (kind : c.Kind) (slot : bus.Slot) (behaviour : Behaviour c) : Prop where
  | here {handler : Handler c σ} (hhandler : (bus.subscriber slot).handler? kind = some handler)
      (hshows : handler.Shows (KeepsLines net) behaviour)
  | there {client : Client} {outpost : Outpost c τ} (hfaces : Faces outposts slot client outpost)
      (hbehaviour : outpost.behaviour = behaviour)

variable (net) in
/-- A slot holds a member of a chain, wherever that runs. -/
structure Stands (kind : c.Kind) (active : bus.Slot → Bool) (slot : bus.Slot) (member : Member c) : Prop where
  perm : (bus.subscriber slot).perm kind = member.perm
  active : active slot = member.active
  runs : RunsAt net kind slot member.behaviour

/-- If the turn of a member is taken at a slot on a host, its frames are not too large. -/
def FitsAt (outposts : Endpoint → Option (Outpost c τ)) (event : Event c) (slot : bus.Slot) (member : Member c)
    (out : EventOut) : Prop :=
  member.active → ∀ {client outpost}, Faces outposts slot client outpost →
    Network.Fits client outpost (carrier member.perm (.ofEvent event) (viewOf member.perm out))

/-- A slot where a subscriber runs answers for the kind. -/
theorem serves_of_runsAt {kind : c.Kind} {behaviour : Behaviour c} (h : RunsAt net kind slot behaviour) :
    (bus.subscriber slot).serves kind := by
  rw [Subscriber.serves]
  cases h with
  | here hhandler =>
    split
    · rw [hhandler]
      rfl
    · rfl
  | there hfaces => rw [hfaces.target]

theorem callsEnd_of_runsAt {behaviour : Behaviour c} (h : RunsAt net event.kind slot behaviour) :
    CallsEnd raise others event slot := by
  intro handler hhandler view run
  cases h with
  | here hsome hshows =>
    cases hsome.symm.trans hhandler
    exact ends_perform ((hshows event view).raisesOnly fun _ => False) (fun _ hnone => hnone.elim) run
  | there hfaces =>
    rw [Subscriber.handler?, hfaces.target] at hhandler
    cases hhandler

/-- A delivery over connections that work: a request gives what the handler comes to, and a push is a success. -/
theorem continues_transmit {client : Client} {outpost : Outpost c τ} {perm : Perm} {session : Session σ}
    (hlistens : outposts client.endpoint = some outpost) (hready : net.Ready outpost client.endpoint session)
    (hfits : Network.Fits client outpost (carrier perm (.ofEvent event) (viewOf perm out))) :
    ∃ status back left, transmit env client perm (.ofEvent event) (viewOf perm out) session = ((.ok status, back), left)
      ∧ net.Continues outpost client.endpoint session left
      ∧ (perm.execute → status = (outpost.behaviour event (viewOf perm out)).ending.status)
      ∧ outAfter perm out back = outAfter perm out (outpost.behaviour event (viewOf perm out)).view := by
  rw [carrier] at hfits
  rw [transmit]
  -- an answer is awaited or not, which decides between a request and a push
  split
  · next hanswered =>
    rw [if_pos hanswered] at hfits
    obtain ⟨left, hrequest, hcontinues⟩ := Network.continues_request hlistens hready hfits
    refine ⟨_, _, left, by rw [hrequest], hcontinues, fun _ => rfl, ?_⟩
    rw [outAfter, outAfter, viewOf]
    cases perm.write <;> rfl
  · next hunanswered =>
    rw [if_neg hunanswered] at hfits
    obtain ⟨left, hpush, hcontinues⟩ := Network.continues_push hlistens hready hfits
    have hnone : perm.write = false ∧ perm.execute = false := by simpa using hunanswered
    refine ⟨.ok, viewOf perm out, left, by rw [hpush]; rfl, hcontinues, fun hexecute => ?_, ?_⟩
    · rw [hnone.2] at hexecute
      cases hexecute
    · rw [outAfter, outAfter, hnone.1]
      rfl

/-! ## Visits of members -/

/-- The invocation of a member that is active comes to what its handler comes to, as far as the chain can tell. -/
theorem Invoked.of_stands {active : bus.Slot → Bool} (hstands : Stands net event.kind active slot member)
    (hothers : ∀ before after, others before after → Sound net slots before after) (hconnected : Connected net before)
    (hactive : member.active) (hfits : FitsAt outposts event slot member out) {deed : Deed} {back : Option EventOut}
    (h : Invoked env raise others event slot (viewOf member.perm out) before deed back after) :
    Sound net slots before after
      ∧ (member.perm.execute → deed.status = (member.outcome event out).ending.status)
      ∧ outAfter member.perm out back = outAfter member.perm out (member.outcome event out).view := by
  cases hstands.runs with
  | here hhandler hshows =>
    cases h with
    | handled hsome hcall =>
      -- the handler is called directly, and hands its view back even if it panics
      cases hhandler.symm.trans hsome
      have hcomes := hshows event (viewOf member.perm out)
      obtain rfl := finishesOnly_of_comes hcomes.finishesOnly hcall
      exact ⟨sound_perform hcomes hothers hcall, fun _ => rfl, rfl⟩
    | answered htarget | lost htarget =>
      rw [Subscriber.handler?, htarget] at hhandler
      cases hhandler
  | @there client outpost hfaces hbehaviour =>
    obtain ⟨status, returned, left, htransmit, hcontinues, hstatus, hview⟩ :=
      continues_transmit hfaces.listens (hconnected.ready hfaces) (hfits hactive hfaces)
    rw [hbehaviour] at hstatus hview
    cases h with
    | handled hsome =>
      rw [Subscriber.handler?, hfaces.target] at hsome
      cases hsome
    | answered htarget hsent hlater =>
      -- the delivery is the one that works, so its answer is known
      cases htarget.symm.trans hfaces.target
      rw [hstands.perm] at hsent
      have hanswer := Run.inSession_eq hsent
      cases htransmit.symm.trans hanswer
      exact ⟨(sound_inSession hfaces hconnected hsent hcontinues).trans (hothers _ _ hlater), hstatus, hview⟩
    | lost htarget hsent =>
      cases htarget.symm.trans hfaces.target
      rw [hstands.perm] at hsent
      have hanswer := Run.inSession_eq hsent
      cases htransmit.symm.trans hanswer

/-- A visit of a slot does what the member of the slot does. -/
theorem Visit.Happens.of_stands {visit : Visit bus} {active : bus.Slot → Bool}
    (hstands : Stands net event.kind active visit.slot member)
    (hothers : ∀ before after, others before after → Sound net slots before after)
    (hconnected : Connected net visit.before) (hactive : visit.before.isActive visit.slot = active visit.slot)
    (hfits : FitsAt outposts event visit.slot member visit.found) (h : visit.Happens env raise others event) :
    Sound net slots visit.before visit.after
      ∧ visit.isFinal event.kind = member.stops event visit.found
      ∧ (visit.isFinal event.kind → visit.status = (member.outcome event visit.found).ending.status)
      ∧ visit.left = member.leaves event visit.found := by
  rw [hstands.active] at hactive
  cases h with
  | passedOver hinactive hlater =>
    have hidle : member.active = false := hactive.symm.trans hinactive
    refine ⟨(sound_enter _ _).trans (hothers _ _ hlater), ?_, (nomatch ·), ?_⟩
    · rw [Member.stops, hidle]
      rfl
    · rw [Member.leaves, hidle]
      rfl
  | @invoked slot before begun started ended counted after out deed back htrue hbegun hstarted hinvoked hcounted
      hnoted =>
    have hbusy : member.active = true := hactive.symm.trans htrue
    have hstart : Sound net slots before started :=
      (hothers _ _ hbegun).trans ((sound_begin slot event begun).trans (hothers _ _ hstarted))
    rw [hstands.perm] at hinvoked
    obtain ⟨hsound, hstatus, hview⟩ :=
      hinvoked.of_stands hstands hothers (hstart.connected hconnected) hbusy hfits
    have hcount : Sound net slots ended counted := (sound_finish slot event.kind _ _ ended).trans (hothers _ _ hcounted)
    have hnote : Sound net slots counted after := by
      split at hnoted
      · rw [hnoted]
        exact .refl _
      · exact (sound_enter _ counted).trans (hothers _ _ hnoted)
    refine ⟨hstart.trans (hsound.trans (hcount.trans hnote)), ?_, fun hfinal => ?_, ?_⟩
    · show (deed.fails && (Catalog.isGated event.kind && ((bus.subscriber slot).perm event.kind).execute)) = _
      rw [Member.stops, hbusy, hstands.perm, Bool.true_and, Deed.fails]
      -- without EXECUTE neither side stops, with it the statuses are the same
      cases hexecute : member.perm.execute with
      | false => simp
      | true => rw [hstatus hexecute]
    · obtain ⟨-, hexecute⟩ := Bool.and_eq_true_iff.mp (Bool.and_eq_true_iff.mp hfinal).2
      rw [hstands.perm] at hexecute
      exact hstatus hexecute
    · rw [Member.leaves, hbusy, if_pos rfl, ← hview]
      show outAfter ((bus.subscriber slot).perm event.kind) out back = _
      rw [hstands.perm]

/-! ## Walks and dispatches -/

/-- The handlers of a chain of members return. -/
theorem callsEnd_of_chain {active : bus.Slot → Bool} {chain : List bus.Slot} {members : List (Member c)}
    (h : List.Forall₂ (Stands net event.kind active) chain members) :
    ∀ slot ∈ chain, CallsEnd raise others event slot := by
  induction h with
  | nil => exact List.forall_mem_nil _
  | cons hstands _ ih => exact List.forall_mem_cons.mpr ⟨callsEnd_of_runsAt hstands.runs, ih⟩

/-- No frame of the turns that an event takes in a chain is too large. -/
def FitsAll (outposts : Endpoint → Option (Outpost c τ)) (event : Event c) (chain : List bus.Slot)
    (members : List (Member c)) (out : EventOut) : Prop :=
  ∀ turn ∈ chain.zip (turns event members out), FitsAt outposts event turn.1 turn.2.1 turn.2.2

/-- A walk comes to the course of its members. -/
theorem comes_course {active : bus.Slot → Bool} {chain : List bus.Slot} {members : List (Member c)}
    (hchain : List.Forall₂ (Stands net event.kind active) chain members) (hslots : ∀ slot ∈ chain, slot ∈ slots)
    (hothers : ∀ before after, others before after → Sound net slots before after)
    (hfits : FitsAll outposts event chain members out) (hconnected : Connected net before)
    (hactive : ∀ slot ∈ slots, before.isActive slot = active slot) {result : Status × EventOut}
    (h : (walk env raise event chain out).Comes others before result after) :
    result = course event members out ∧ Sound net slots before after := by
  -- each visit leaves the bus connected and the activations as they were, so the next one finds what it needs
  induction hchain generalizing before out with
  | nil =>
    obtain ⟨rfl, rfl⟩ := h
    exact ⟨rfl, .refl _⟩
  | @cons slot member chain members hstands hrest ih =>
    obtain ⟨hslot, hlaterSlots⟩ := List.forall_mem_cons.mp hslots
    obtain ⟨status, left⟩ := result
    -- the visit does what the member says, so it is final exactly if the member stops the chain
    obtain ⟨visit, rfl, rfl, rfl, hhappens, hgoes⟩ := (comes_walk_cons_iff (serves_of_runsAt hstands.runs)).mp h
    rw [FitsAll, turns, List.zip_cons_cons] at hfits
    obtain ⟨hfirst, hlater⟩ := List.forall_mem_cons.mp hfits
    obtain ⟨hsound, hfinal, hstatus, hleft⟩ :=
      hhappens.of_stands hstands hothers hconnected (hactive _ hslot) hfirst
    rw [course, ← hfinal]
    split at hgoes
    · next hstops =>
      obtain ⟨rfl, rfl, rfl⟩ := hgoes
      rw [if_pos hstops, hstatus hstops, hleft]
      exact ⟨rfl, hsound⟩
    · next hgoesOn =>
      rw [if_neg hgoesOn, ← hleft]
      rw [← hfinal, if_neg hgoesOn, ← hleft] at hlater
      obtain ⟨hresult, hwalk⟩ := ih hlaterSlots hlater (hsound.connected hconnected)
        (fun other hother => (hsound.active other hother).trans (hactive other hother)) hgoes
      exact ⟨hresult, hsound.trans hwalk⟩

variable (net others event out) in
/-- A bus on a network that works whose chain for an event holds members. -/
structure Staged (members : List (Member c)) (run : Run bus) : Prop where
  /-- The slots of the chain hold the members, in their order. -/
  chain : List.Forall₂ (Stands net event.kind run.isActive) (bus.chain event.kind) members
  connected : Connected net run
  /-- No frame that is sent is too large for one of its sides, and neither is a reply. -/
  fits : FitsAll outposts event (bus.chain event.kind) members out
  /-- Other threads disturb no connection, and activate and deactivate none of the members. -/
  others : ∀ before after, others before after → Sound net (bus.chain event.kind) before after

/-- A dispatch that returns gives the course of the members, and leaves the bus connected. -/
theorem Staged.comes_dispatch {members : List (Member c)} (h : Staged net others event out members run) {depth : Nat}
    {result : Status × EventOut} (hcomes : (dispatch env (depth + 1) event out).Comes others run result after) :
    result = course event members out ∧ Sound net (bus.chain event.kind) run after := by
  rw [dispatch, dispatchBy] at hcomes
  split at hcomes
  · next hempty =>
    obtain ⟨rfl, rfl⟩ := hcomes
    -- an empty chain has no members
    have hnone := h.chain
    rw [hempty] at hnone
    cases hnone
    exact ⟨rfl, .refl _⟩
  · obtain ⟨entered, hentered, hwalk⟩ := Routine.comes_change_bind_iff.mp hcomes
    have htrigger := (sound_trigger event run).trans (h.others _ _ hentered)
    obtain ⟨hresult, hsound⟩ := comes_course h.chain (fun _ hslot => hslot) h.others h.fits
      (htrigger.connected h.connected) htrigger.active hwalk
    exact ⟨hresult, htrigger.trans hsound⟩

/-- A dispatch ends, and whatever it comes to is the course of its members. -/
theorem Staged.settles {members : List (Member c)} (h : Staged net others event out members run) (depth : Nat) :
    (dispatch env (depth + 1) event out).Settles others (course event members out) run := by
  refine ⟨ends_dispatchBy ?_ out run, fun result later hcomes => (h.comes_dispatch hcomes).1⟩
  exact callsEnd_of_chain h.chain

/-- With nothing else going on, a dispatch gives the course of the members, and the next one finds the bus connected. -/
theorem Staged.alone_dispatch {members : List (Member c)} (h : Staged net (· = ·) event out members run) (depth : Nat) :
    ∃ later, (dispatch env (depth + 1) event out).alone run = some (course event members out, later)
      ∧ Connected net later := by
  obtain ⟨later, halone⟩ := (h.settles depth).alone_eq
  have hsound := (h.comes_dispatch (Routine.comes_eq_iff.mpr halone)).2
  exact ⟨later, halone, hsound.connected h.connected⟩

/-- **Placement.** Two buses may be on different networks, and each subscriber of a chain runs on each of them here
or on a host. If the chains hold the same members, dispatches of an event come to the same on both: the status and the
out-structure of the course of the members. -/
theorem settles_wherever {σ' τ' : Type} {bus' : Bus c σ'} {env' : Environment σ'}
    {outposts' : Endpoint → Option (Outpost c τ')} {net' : Network env' outposts'}
    {others' : Run bus' → Run bus' → Prop} {members : List (Member c)} {run' : Run bus'}
    (h : Staged net others event out members run) (h' : Staged net' others' event out members run')
    (depth depth' : Nat) :
    (dispatch env (depth + 1) event out).Settles others (course event members out) run
      ∧ (dispatch env' (depth' + 1) event out).Settles others' (course event members out) run' :=
  ⟨h.settles depth, h'.settles depth'⟩

/-! ## A chain in two places -/

end Bus

/-- A handler that shows a behaviour. -/
def Handler.showing (name : String) (behaviour : Behaviour c) : Handler c σ where
  name
  handle event view := .finish (behaviour event view)

/-- A host whose handler shows a behaviour. -/
def Outpost.showing (name : String) (behaviour : Behaviour c) : Outpost c τ where
  config := {}
  handler := .showing name behaviour
  behaviour
  shows _ _ := rfl

namespace Bus

/-- An event of a gated kind. -/
def flowEvent : Event .component :=
  ⟨.ofName "counting", ⟨12, by decide⟩, [5]⟩

/-- One that counts in the out-structure and panics behind that. -/
def counting : Behaviour .component := fun event view =>
  ⟨.panicked "full", view.map fun out => ⟨out.checksum + 1, event.payload ++ out.data⟩⟩

/-- One that only listens, and panics. -/
def listening : Behaviour .component := fun _ _ => ⟨.panicked "deaf", none⟩

/-- One that answers with the count. -/
def judging : Behaviour .component := fun _ view =>
  ⟨.returned ((view.map fun out => ⟨out.checksum.toInt32⟩).getD .ok), view.map fun out => { out with data := [] }⟩

/-- One that counts, one that listens and one that judges. -/
def flowMembers : List (Member .component) :=
  [⟨⟨true, true, false⟩, true, counting⟩, ⟨⟨true, false, false⟩, true, listening⟩,
    ⟨⟨true, true, true⟩, true, judging⟩]

/-- Where the first two of them run if not on the bus. -/
def flowHosts (endpoint : Endpoint) : Option (Outpost .component Unit) :=
  if endpoint = .local "counting" then some (.showing "counting" counting)
  else if endpoint = .local "listening" then some (.showing "listening" listening)
  else none

/-- A bus of these subscribers. The first two of them run on hosts or on the bus. -/
def flowBus (hosted : Bool) : Bus .component Switchboard :=
  let target (name : String) (behaviour : Behaviour .component) : Target .component Switchboard :=
    if hosted then .external (.ofConfig {} (.local name)) else .internal (some (.showing name behaviour)) []
  { config := {}
    subscribers :=
      #[⟨"counting", "", .general, true, [(flowEvent.kind, ⟨true, true, false⟩)], [], target "counting" counting⟩,
        ⟨"listening", "", .general, true, [(flowEvent.kind, ⟨true, false, false⟩)], [], target "listening" listening⟩,
        ⟨"judging", "", .general, true, [(flowEvent.kind, ⟨true, true, true⟩)], [],
          .internal (some (.showing "judging" judging)) []⟩] }

/-- All of them are in the chain, wherever they run. -/
theorem chain_flowBus (hosted : Bool) : (flowBus hosted).chain flowEvent.kind = (flowBus hosted).slots := by
  cases hosted <;> rfl

/-- Both buses are staged: on the first all run here, on the second the first two run on hosts. -/
theorem staged_flowBus (hosted : Bool) :
    Staged (Switchboard.network flowHosts ()) (· = ·) flowEvent ⟨0, [9]⟩ flowMembers ((flowBus hosted).start []) where
  chain := by
    rw [chain_flowBus]
    cases hosted with
    | false => exact .cons ⟨rfl, rfl, .here rfl fun _ _ => rfl⟩ (.cons ⟨rfl, rfl, .here rfl fun _ _ => rfl⟩
        (.cons ⟨rfl, rfl, .here rfl fun _ _ => rfl⟩ .nil))
    | true => exact .cons ⟨rfl, rfl, .there ⟨rfl, rfl⟩ rfl⟩ (.cons ⟨rfl, rfl, .there ⟨rfl, rfl⟩ rfl⟩
        (.cons ⟨rfl, rfl, .here rfl fun _ _ => rfl⟩ .nil))
  connected := connected_start _ _
  fits := by
    rw [chain_flowBus]
    cases hosted with
    | false =>
      refine List.forall_mem_cons.mpr ⟨?_, List.forall_mem_cons.mpr ⟨?_, List.forall_mem_singleton.mpr ?_⟩⟩
      all_goals exact fun _ _ _ hfaces => nomatch hfaces.target
    | true =>
      refine List.forall_mem_cons.mpr ⟨?_, List.forall_mem_cons.mpr ⟨?_, List.forall_mem_singleton.mpr ?_⟩⟩
      -- frames and replies of the two hosted subscribers are far below their limits
      · rintro - client outpost ⟨htarget, hlistens⟩
        cases htarget
        cases hlistens
        exact ⟨by decide, fun reply hreply => by cases hreply; decide⟩
      · rintro - client outpost ⟨htarget, hlistens⟩
        cases htarget
        cases hlistens
        exact ⟨by decide, fun reply hreply => nomatch hreply⟩
      · exact fun _ _ _ hfaces => nomatch hfaces.target
  others := by
    rintro before after rfl
    exact .refl _

/-- The count is kept although the first one panics, and the last one answers with it, in both places. -/
theorem flowBus_settles_wherever :
    Staged (Switchboard.network flowHosts ()) (· = ·) flowEvent ⟨0, [9]⟩ flowMembers ((flowBus false).start [])
      ∧ Staged (Switchboard.network flowHosts ()) (· = ·) flowEvent ⟨0, [9]⟩ flowMembers ((flowBus true).start [])
      ∧ (dispatch (Switchboard.environment flowHosts ()) 1 flowEvent ⟨0, [9]⟩).Settles (· = ·) (⟨1⟩, ⟨1, []⟩)
        ((flowBus false).start [])
      ∧ (dispatch (Switchboard.environment flowHosts ()) 1 flowEvent ⟨0, [9]⟩).Settles (· = ·) (⟨1⟩, ⟨1, []⟩)
        ((flowBus true).start []) :=
  ⟨staged_flowBus false, staged_flowBus true, settles_wherever (staged_flowBus false) (staged_flowBus true) 0 0⟩

end Bus

end EventBus
