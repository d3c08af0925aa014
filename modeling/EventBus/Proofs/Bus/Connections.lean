import EventBus.Proofs.Bus.Delivery
import EventBus.Proofs.Client.Network

/-!
# The connections of a bus

What the turns of a dispatch do to the connections of a bus on a network that works.

* `Connected`: each connection of the bus to a host is settled, and no two subscribers share one.
* `Sound`: a change that leaves a bus connected and the activation of some slots as it was. Every turn of a dispatch
  is one of these, deliveries included (`sound_inSession`), and so is any number of them.
-/

namespace EventBus.Bus

variable {c : Catalog} {σ τ : Type} {bus : Bus c σ} {env : Environment σ} {outposts : Endpoint → Option (Outpost c τ)}
  {event : Event c}

/-- The subscriber at a slot is reached at a host. -/
structure Faces (outposts : Endpoint → Option (Outpost c τ)) (slot : bus.Slot) (client : Client)
    (outpost : Outpost c τ) : Prop where
  target : (bus.subscriber slot).target = .external client
  listens : outposts client.endpoint = some outpost

/-- Each connection to a host is settled, and no two subscribers share one. -/
structure Connected (net : Network env outposts) (run : Run bus) : Prop where
  ready : ∀ {slot client outpost}, Faces outposts slot client outpost →
    net.Ready outpost client.endpoint ⟨(run.cell slot).link, run.world⟩
  apart : ∀ {slot other client client' outpost outpost'}, Faces outposts slot client outpost →
    Faces outposts other client' outpost' → other ≠ slot → ∀ link ∈ (run.cell slot).link,
      ∀ link' ∈ (run.cell other).link, link'.handle ≠ link.handle

variable {net : Network env outposts} {slots : List bus.Slot} {before middle after run : Run bus} {slot : bus.Slot}

/-- A bus that is starting is connected: nothing is open. -/
theorem connected_start (net : Network env outposts) (world : σ) : Connected net (bus.start world) := by
  have hnone : ∀ slot, ((bus.start world).cell slot).link = none := fun slot => by
    simp [start, Run.cell, Indexed.get]
  constructor
  · intro slot client outpost hfaces link hlink
    cases (hnone slot).symm.trans hlink
  · intro slot other client client' outpost outpost' hfaces hfaces' hother link hlink
    cases (hnone slot).symm.trans hlink

/-- If links and lines are as before, so are the connections. -/
theorem Connected.of_same (h : Connected net before)
    (hlinks : ∀ slot, (after.cell slot).link = (before.cell slot).link)
    (hlines : net.line? after.world = net.line? before.world) : Connected net after := by
  constructor
  · intro slot client outpost hfaces link hlink
    exact (h.ready hfaces link ((hlinks slot).symm.trans hlink)).of_line (congrFun hlines link.handle)
  · intro slot other client client' outpost outpost' hfaces hfaces' hother link hlink link' hlink'
    rw [hlinks] at hlink hlink'
    exact h.apart hfaces hfaces' hother link hlink link' hlink'

/-! ## Sound changes -/

variable (net slots) in
/-- A change leaves a connected bus connected, and does not change the activation of the slots. -/
structure Sound (before after : Run bus) : Prop where
  connected : Connected net before → Connected net after
  active : ∀ slot ∈ slots, after.isActive slot = before.isActive slot

theorem Sound.refl (run : Run bus) : Sound net slots run run :=
  ⟨id, fun _ _ => rfl⟩

theorem Sound.trans (h : Sound net slots before middle) (h' : Sound net slots middle after) :
    Sound net slots before after :=
  ⟨h'.connected ∘ h.connected, fun slot hslot => (h'.active slot hslot).trans (h.active slot hslot)⟩

/-- A change that leaves every slot and the lines of the network alone is sound. -/
theorem sound_of_undisturbed (h : ∀ slot, Undisturbed slot before after)
    (hlines : net.line? after.world = net.line? before.world) : Sound net slots before after :=
  ⟨fun hconnected => hconnected.of_same (fun slot => (h slot).link) hlines, fun slot _ => (h slot).active⟩

theorem sound_enter (entry : Entry bus) (run : Run bus) : Sound net slots run (run.enter entry) :=
  sound_of_undisturbed (fun _ => ⟨rfl, rfl⟩) rfl

theorem sound_trigger (event : Event c) (run : Run bus) : Sound net slots run (run.trigger event) :=
  sound_of_undisturbed (fun _ => ⟨rfl, rfl⟩) rfl

theorem sound_begin (slot : bus.Slot) (event : Event c) (run : Run bus) : Sound net slots run (run.begin slot event) :=
  sound_of_undisturbed (fun other => undisturbed_begin slot other event run) rfl

theorem sound_finish (slot : bus.Slot) (kind : c.Kind) (elapsed : Duration) (failure : Option DispatchError)
    (run : Run bus) : Sound net slots run (run.finish slot kind elapsed failure) :=
  sound_of_undisturbed (fun other => undisturbed_finish slot other kind elapsed failure run) rfl

/-- A change of the surroundings is sound if the lines stay as they are. -/
theorem sound_modifyWorld {f : σ → σ} (hlines : ∀ world, net.line? (f world) = net.line? world) (run : Run bus) :
    Sound net slots run (run.modifyWorld f) :=
  sound_of_undisturbed (fun _ => ⟨rfl, rfl⟩) (hlines run.world)

/-- The connection that a call on one subscriber's behalf leaves open is not that of another subscriber. -/
theorem Connected.apart_of_continues (h : Connected net run) {other : bus.Slot} {client client' : Client}
    {outpost outpost' : Outpost c τ} (hfaces : Faces outposts slot client outpost)
    (hfaces' : Faces outposts other client' outpost') (hother : other ≠ slot) {link : Link} {world : σ}
    (hcontinues : net.Continues outpost client.endpoint ⟨(run.cell slot).link, run.world⟩ ⟨some link, world⟩) :
    ∀ link' ∈ (run.cell other).link, link'.handle ≠ link.handle := by
  intro link' hlink'
  cases hcontinues with
  | kept hsettled honly hown =>
    rcases hown with ⟨old, hold, hsame⟩ | hnew
    · rw [← hsame]
      exact h.apart hfaces hfaces' hother old hold link' hlink'
    · -- it is a new one, and the other one was open
      intro hsame
      obtain ⟨answered, -, hline, -⟩ := h.ready hfaces' link' hlink'
      rw [hsame, hnew] at hline
      cases hline

/-- A delivery that works changes the connection of its subscriber only, and leaves it settled. -/
theorem sound_inSession {α : Type} {act : Session σ → α × Session σ} {answer : α} {sent : Run bus} {client : Client}
    {outpost : Outpost c τ} (hfaces : Faces outposts slot client outpost) (hconnected : Connected net run)
    (hsent : run.inSession slot act = (answer, sent))
    (hcontinues : net.Continues outpost client.endpoint ⟨(run.cell slot).link, run.world⟩
      ⟨(sent.cell slot).link, sent.world⟩) :
    Sound net slots run sent := by
  have hactive : ∀ other, sent.isActive other = run.isActive other := fun other => by
    have hother := Run.isActive_inSession slot other act run
    rwa [hsent] at hother
  have hcells : ∀ other, other ≠ slot → sent.cell other = run.cell other := fun other hother => by
    have hcell := Run.cell_inSession_of_ne hother act run
    rwa [hsent] at hcell
  -- a call that has worked leaves a connection open
  obtain ⟨link, hlink⟩ : ∃ link, (sent.cell slot).link = some link := by
    generalize (sent.cell slot).link = link?, sent.world = world at hcontinues
    cases hcontinues with
    | kept => exact ⟨_, rfl⟩
  rw [hlink] at hcontinues
  have hapart := fun {other client' outpost'} (hfaces' : Faces outposts other client' outpost') hother =>
    hconnected.apart_of_continues hfaces hfaces' hother hcontinues
  refine ⟨fun _ => ⟨?_, ?_⟩, fun other _ => hactive other⟩
  · intro other client' outpost' hfaces' link' hlink'
    cases hcontinues with
    | kept hsettled honly hown =>
      by_cases hother : other = slot
      · subst hother
        cases hlink.symm.trans hlink'
        cases hfaces'.target.symm.trans hfaces.target
        cases hfaces'.listens.symm.trans hfaces.listens
        exact hsettled
      · rw [hcells other hother] at hlink'
        exact (hconnected.ready hfaces' link' hlink').of_line (honly _ (hapart hfaces' hother link' hlink'))
  · -- of two subscribers at most one is the one that was served
    intro first second client₁ client₂ outpost₁ outpost₂ hfirst hsecond hne link₁ hlink₁ link₂ hlink₂
    by_cases hone : first = slot
    · subst hone
      cases hlink.symm.trans hlink₁
      rw [hcells second hne] at hlink₂
      exact hapart hsecond hne link₂ hlink₂
    · rw [hcells first hone] at hlink₁
      by_cases htwo : second = slot
      · subst htwo
        cases hlink.symm.trans hlink₂
        exact (hapart hfirst hone link₁ hlink₁).symm
      · rw [hcells second htwo] at hlink₂
        exact hconnected.apart hfirst hsecond hne link₁ hlink₁ link₂ hlink₂

end EventBus.Bus
