import EventBus.Host
import EventBus.Proofs.Routine.Interference
import EventBus.Proofs.Service.Chunks

/-!
# Replies to requests

What a request is answered with, by a server and by a host, whatever other threads do in the meantime.

* `Server.Replied`: the reply of a server. A refused request has one without an out-structure, and one that is carried
  through its chain the out-structure that the chain has left, whether one came along or not.
* `reply_isSome`: which replies carry an out-structure.
* `loneExt_replies`: a server whose replies are not shaped like the requests.
-/

namespace EventBus

namespace Routine

variable {σ τ α : Type}

/-- What a routine on a part of the state comes to there. Other threads do with the part what they do with the whole. -/
theorem Comes.of_within {get : τ → σ} {set : σ → τ → τ} (hget : ∀ part whole, get (set part whole) = part)
    {others : τ → τ → Prop} {routine : Routine σ α} {whole later : τ} {value : α}
    (h : (routine.within get set).Comes others whole value later) :
    routine.Comes (fun s t => ∃ before after, get before = s ∧ get after = t ∧ others before after) (get whole) value
      (get later) := by
  induction routine generalizing whole with
  | done result =>
    obtain ⟨rfl, rfl⟩ := h
    exact ⟨rfl, rfl⟩
  | look next ih => exact ih (get whole) h
  | put part rest ih =>
    obtain ⟨found, hothers, hrest⟩ := h
    exact ⟨get found, ⟨set part whole, found, hget part whole, rfl, hothers⟩, ih hrest⟩
  | stuck => exact h.elim

end Routine

variable {c : Catalog} {σ : Type}

namespace Server

variable {bus : Bus c σ}

/-- What other threads do with the bus of a server. -/
def OnRun (others : State bus → State bus → Prop) (run run' : Bus.Run bus) : Prop :=
  ∃ before after : State bus, before.run = run ∧ after.run = run' ∧ others before after

/-- The reply to a request: the status, the out-structure that it carries, and the state behind it. Whether it is refused
is decided in its first turn. -/
inductive Replied (raise : Bus.Raise bus) (token : Token) (others : State bus → State bus → Prop) (envelope : Envelope)
    (out : Option EventOut) (before : State bus) : Status → Option EventOut → State bus → Prop where
  | unauthorized {after : State bus} (hrefused : before.binding? token ≠ some envelope.origin)
      (hothers : others before after) : Replied raise token others envelope out before .unauthorized none after
  | unknown {after : State bus} (hbound : before.binding? token = some envelope.origin)
      (hcode : c.ofCode? envelope.code = none) (hothers : others before after) :
    Replied raise token others envelope out before .failure none after
  | carried {kind : c.Kind} {found after : State bus} {status : Status} {left : EventOut}
      (hbound : before.binding? token = some envelope.origin) (hkind : c.ofCode? envelope.code = some kind)
      (hothers : others before found)
      (hcarried : (raise ⟨envelope.origin, kind, envelope.payload⟩ (out.getD ⟨0, envelope.payload⟩)).Comes
        (OnRun others) found.run (status, left) after.run) :
    Replied raise token others envelope out before status (some left) after

variable {raise : Bus.Raise bus} {token : Token} {others : State bus → State bus → Prop} {envelope : Envelope}
  {out : Option EventOut} {before after : State bus}

/-- A request is answered with a reply. -/
theorem comes_request {result : Answer}
    (h : (answer raise token (.request envelope out)).Comes others before result after) :
    ∃ status left, result = .reply (.reply status left)
      ∧ Replied raise token others envelope out before status left after := by
  obtain ⟨found, hothers, hanswer⟩ := Routine.comes_atomic_bind_iff.mp h
  -- the two refusals come before anything is raised
  by_cases hbound : before.binding? token = some envelope.origin
  · have hallowed : before.mayRaise token envelope.origin = true := decide_eq_true hbound
    dsimp only at hanswer
    rw [hallowed, if_pos rfl, raiseEnvelope, Envelope.toEvent] at hanswer
    cases hkind : c.ofCode? envelope.code with
    | none =>
      rw [hkind] at hanswer
      obtain ⟨rfl, rfl⟩ := hanswer
      exact ⟨_, _, rfl, .unknown hbound hkind hothers⟩
    | some kind =>
      rw [hkind] at hanswer
      obtain ⟨answered, middle, hraised, hreply⟩ := Routine.comes_bind_iff.mp hanswer
      obtain ⟨⟨status, left⟩, _, hraised, rfl, rfl⟩ := Routine.comes_bind_iff.mp hraised
      obtain ⟨rfl, rfl⟩ := hreply
      exact ⟨_, _, rfl, .carried hbound hkind hothers (hraised.of_within fun _ _ => rfl)⟩
  · have hrefused : before.mayRaise token envelope.origin = false := decide_eq_false hbound
    dsimp only at hanswer
    rw [hrefused, if_neg Bool.false_ne_true] at hanswer
    obtain ⟨rfl, rfl⟩ := hanswer
    exact ⟨_, _, rfl, .unauthorized hbound hothers⟩

/-- A reply carries an out-structure exactly if the request was carried through its chain. -/
theorem Replied.isSome_eq {status : Status} {left : Option EventOut}
    (h : Replied raise token others envelope out before status left after) :
    left.isSome = (before.mayRaise token envelope.origin && (c.ofCode? envelope.code).isSome) := by
  rw [State.mayRaise]
  cases h with
  | unauthorized hrefused => simp [hrefused]
  | unknown hbound hcode => simp [hcode]
  | carried hbound hkind => simp [hbound, hkind]

end Server

/-- A host answers a request with a reply, and leaves it an out-structure exactly if one came along. -/
theorem Host.comes_request {τ : Type} {handler : Handler c τ} {others : τ → τ → Prop} {envelope : Envelope}
    {out : Option EventOut} {before after : τ} {result : Answer}
    (h : (answer handler (.request envelope out)).Comes others before result after) :
    ∃ status left, result = .reply (.reply status left) ∧ left.isSome = out.isSome := by
  rw [answer] at h
  cases hevent : envelope.toEvent c with
  -- the reply to an envelope that is no event gives the out-structure back as it came
  | error e =>
    rw [hevent] at h
    obtain ⟨rfl, -⟩ := h
    exact ⟨_, _, rfl, rfl⟩
  | ok event =>
    rw [hevent] at h
    obtain ⟨_, _, hrun, rfl, -⟩ := Routine.comes_bind_iff.mp h
    obtain ⟨outcome, _, -, rfl, -⟩ := Routine.comes_bind_iff.mp hrun
    exact ⟨_, _, rfl, Option.isSome_map⟩

/-- **The shape of replies.** A host replies to each request, and with an out-structure exactly if one came along. A
server also replies to each, but with an out-structure exactly if the event was carried through its chain: if the
connection is bound to its origin and its code is in the catalog. -/
theorem reply_isSome (c : Catalog) (σ : Type) :
    (∀ (handler : Handler c σ) others envelope out before result after,
        (Host.answer handler (.request envelope out)).Comes others before result after →
          ∃ status left, result = .reply (.reply status left) ∧ left.isSome = out.isSome)
      ∧ ∀ (bus : Bus c σ) (raise : Bus.Raise bus) token others envelope out before result after,
        (Server.answer raise token (.request envelope out)).Comes others before result after →
          ∃ status left, result = .reply (.reply status left)
            ∧ left.isSome = (before.mayRaise token envelope.origin && (c.ofCode? envelope.code).isSome) := by
  refine ⟨fun handler others envelope out before result after h => Host.comes_request h,
    fun bus raise token others envelope out before result after h => ?_⟩
  obtain ⟨status, left, rfl, hreplied⟩ := Server.comes_request h
  exact ⟨status, left, rfl, hreplied.isSome_eq⟩

/-! ## Replies that are shaped otherwise -/

namespace FrameService

/-- That server, with a connection that is bound to its subscriber. -/
def loneExtBound : Server.State loneExtBus :=
  Server.State.bind 1 (.ofName "ext") { run := loneExtBus.start { net := () } }

/-- A reply carries an out-structure though none came along, and two replies carry none though one did: that of a request
in another's name, and that of a request with an unknown code. -/
theorem loneExt_replies :
    (∃ after, (loneExtServer.answer 1 (.request ⟨.ofName "ext", 28, [7]⟩ none)).alone loneExtBound
        = some (.reply (.reply .ok (some ⟨0, [7]⟩)), after))
      ∧ (∃ after, (loneExtServer.answer 1 (.request ⟨.ofName "other", 28, [7]⟩ (some ⟨0, [7]⟩))).alone loneExtBound
        = some (.reply (.reply .unauthorized none), after))
      ∧ ∃ after, (loneExtServer.answer 1 (.request ⟨.ofName "ext", 0, [7]⟩ (some ⟨0, [7]⟩))).alone loneExtBound
        = some (.reply (.reply .failure none), after) :=
  ⟨⟨_, rfl⟩, ⟨_, rfl⟩, ⟨_, rfl⟩⟩

end FrameService

end EventBus
