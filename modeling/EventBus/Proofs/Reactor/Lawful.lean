import EventBus.Proofs.Reactor.Telling
import EventBus.Proofs.Routine.Guarantee

/-!
# Reactors under a law

A law on the state of a service that all connections share, whoever is served: each turn keeps it, and relies on
no more than that the others keep it too.

* `Lawful`: what a service has to do. `sound` is what states are like from which the law leads on.
* `Secured`: a reactor with a sound state whose workers keep the law from now on. `Secured.step` and
  `Secured.stir`: it stays one, whatever its threads do, and whatever is done lawfully from outside.
-/

namespace EventBus.Reactor

variable {τ : Type} {service : Service τ} {sound : τ → Prop} {law : τ → τ → Prop} {r r' : Reactor τ} {move : Move}

/-- A service keeps a law. -/
structure Lawful (service : Service τ) (sound : τ → Prop) (law : τ → τ → Prop) : Prop where
  refl : ∀ state, law state state
  trans : ∀ {s t u}, law s t → law t u → law s u
  /-- The law leads from sound states to sound states. -/
  leads : ∀ {s t}, law s t → sound s → sound t
  opened : ∀ token {state}, sound state → law state (service.opened token state)
  closed : ∀ token inbox {state}, sound state → law state (service.closed token inbox state)
  received : ∀ token inbox chunk answers {state}, sound state →
    (service.received token inbox chunk answers).Meets law law (fun _ _ => True) state

/-- The state of a reactor is sound, and every worker in the middle of a chunk keeps the law. -/
structure Secured (sound : τ → Prop) (law : τ → τ → Prop) (r : Reactor τ) : Prop where
  sound : sound r.state
  secure : ∀ worker token rest, r.Serves worker token rest → rest.Secure law law r.state

theorem secured_start (config : Config) {state : τ} (hsound : sound state) :
    Secured sound law (.start config state) := by
  refine ⟨hsound, fun worker token rest hserves => ?_⟩
  have hidle := (Array.mem_replicate.mp (Array.mem_of_getElem? hserves)).2
  cases hidle

/-- What is done lawfully from outside leaves all workers on the law. -/
theorem Secured.stir (hlawful : Lawful service sound law) (h : Secured sound law r) {state : τ}
    (hlaw : law r.state state) : Secured sound law { r with state } :=
  ⟨hlawful.leads hlaw h.sound, fun worker token rest hserves =>
    (h.secure worker token rest hserves).of_rely hlawful.trans hlaw⟩

/-- Every step is lawful. -/
theorem Secured.step (hlawful : Lawful service sound law) (h : Secured sound law r)
    (hstep : r.step? service move = some r') : law r.state r'.state ∧ Secured sound law r' := by
  -- a worker that served before keeps the law behind a lawful step
  have hkeeps : ∀ worker token rest, law r.state r'.state → r.Serves worker token rest →
      rest.Secure law law r'.state :=
    fun worker token rest hlaw hserves => (h.secure worker token rest hserves).of_rely hlawful.trans hlaw
  have hdone : ∀ hlaw : law r.state r'.state,
      (∀ worker token rest, r'.Serves worker token rest → r.Serves worker token rest) →
        law r.state r'.state ∧ Secured sound law r' := fun hlaw hserving =>
    ⟨hlaw, hlawful.leads hlaw h.sound, fun worker token rest hserves =>
      hkeeps worker token rest hlaw (hserving worker token rest hserves)⟩
  cases step?_tells hstep with
  | nothing hstate hcallbacks hopen hnext hgrown hmore hserving =>
    exact hdone (hstate ▸ hlawful.refl r.state) hserving
  | opened hbacklog hstate hcallbacks hopen hnext hgrown hsockets hserving =>
    exact hdone (hstate ▸ hlawful.opened r.nextToken h.sound) hserving
  | closed token conn hconn hstate hcallbacks hopen hnext hbacklog hsockets hserving =>
    exact hdone (hstate ▸ hlawful.closed token conn.inbox h.sound) hserving
  | received token inbox chunk answers hstate hcallbacks hopen hnext hbacklog hsockets hserving =>
    have hlaw : law r.state r'.state := hstate ▸ hlawful.refl r.state
    refine ⟨hlaw, hlawful.leads hlaw h.sound, fun worker t rest hserves => ?_⟩
    rcases hserving worker t rest hserves with hbefore | ⟨-, rfl⟩
    · exact hkeeps worker t rest hlaw hbefore
    · intro found hfound
      exact hlawful.received token inbox chunk answers (hlawful.leads (hlawful.trans hlaw hfound) h.sound)
  | turned worker token routine hworker hstate hcallbacks hopen hnext hbacklog hsockets hserving =>
    have hmeets := h.secure worker token routine hworker r.state (hlawful.refl r.state)
    obtain ⟨hlaw, hsecure⟩ := hmeets.turn hlawful.refl
    rw [← hstate] at hlaw hsecure
    refine ⟨hlaw, hlawful.leads hlaw h.sound, fun other t rest hserves => ?_⟩
    rcases hserving other t rest hserves with ⟨-, hbefore⟩ | ⟨-, rfl⟩
    · exact hkeeps other t rest hlaw hbefore
    · exact hsecure

end EventBus.Reactor
