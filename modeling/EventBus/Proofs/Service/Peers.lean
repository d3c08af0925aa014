import EventBus.Host
import EventBus.Proofs.Service.Noted
import EventBus.Server

/-!
# Peers of clients

A client talks to a bus server or to a subscriber host. Whatever these come to for a frame, it is an answer that the
sender of the frame can make sense of.
-/

namespace EventBus

/-- A reply of the kind that the sender of a frame waits for, none if it does not wait, or a refusal. -/
def Answer.Fits : Frame → Answer → Prop
  | _, .refuse _ => True
  | .push _, .silent => True
  | .request .., .reply (.reply ..) => True
  | .hello .., .reply (.helloAck _) => True
  | _, _ => False

/-- All answers of a service fit. -/
def FrameService.Proper {τ : Type} (service : FrameService τ) : Prop :=
  ∀ frame answer, service.Gives frame answer → answer.Fits frame

/-- A bus server, with any bus and any way to carry events through their chains, or a subscriber host with any
handler. -/
inductive IsPeer : {τ : Type} → FrameService τ → Prop where
  | server {c : Catalog} {σ : Type} {bus : Bus c σ} (cfg : Config) (raise : Bus.Raise bus) :
      IsPeer (Server.service cfg raise)
  | host {c : Catalog} {σ : Type} (cfg : Config) (handler : Handler c σ) : IsPeer (Host.service cfg handler)

namespace Server

variable {c : Catalog} {σ : Type} {bus : Bus c σ} {raise : Bus.Raise bus}

/-- A server answers an announcement with its verdict, a push with nothing, a request with a reply, and any other frame
by giving the connection up. -/
theorem proper_service (cfg : Config) : (service cfg raise).Proper := by
  rintro frame result ⟨token, before, after, hcomes⟩
  change (answer raise token frame).Comes (fun _ _ => True) before result after at hcomes
  cases frame with
  | hello id name =>
    rw [answer] at hcomes
    obtain ⟨status, _, -, rfl, -⟩ := Routine.comes_bind_iff.mp hcomes
    trivial
  | push envelope =>
    rw [answer] at hcomes
    obtain ⟨allowed, asked, -, hraised⟩ := Routine.comes_bind_iff.mp hcomes
    cases allowed with
    | false =>
      obtain ⟨rfl, -⟩ := hraised
      trivial
    | true =>
      obtain ⟨_, _, -, rfl, -⟩ := Routine.comes_bind_iff.mp hraised
      trivial
  | request envelope out =>
    rw [answer] at hcomes
    obtain ⟨allowed, asked, -, hraised⟩ := Routine.comes_bind_iff.mp hcomes
    cases allowed with
    | false =>
      obtain ⟨rfl, -⟩ := hraised
      trivial
    | true =>
      obtain ⟨verdict, _, -, hverdict⟩ := Routine.comes_bind_iff.mp hraised
      -- a request is replied to whether its event is known or not
      cases verdict with
      | none =>
        obtain ⟨rfl, -⟩ := hverdict
        trivial
      | some verdict =>
        obtain ⟨rfl, -⟩ := hverdict
        trivial
  | helloAck | reply =>
    obtain ⟨rfl, -⟩ := hcomes
    trivial

end Server

namespace Host

variable {c : Catalog} {σ : Type} {handler : Handler c σ}

/-- A host answers requests, is silent about pushes, and gives the connection up for any other frame. -/
theorem proper_service (cfg : Config) : (service cfg handler).Proper := by
  rintro frame result ⟨_, before, after, hcomes⟩
  change (answer handler frame).Comes (fun _ _ => True) before result after at hcomes
  cases frame with
  | push envelope =>
    rw [answer] at hcomes
    cases hevent : envelope.toEvent c with
    | ok event =>
      rw [hevent] at hcomes
      obtain ⟨_, _, -, rfl, -⟩ := Routine.comes_bind_iff.mp hcomes
      trivial
    -- an envelope that is no event of the catalog runs no handler
    | error e =>
      rw [hevent] at hcomes
      obtain ⟨rfl, -⟩ := hcomes
      trivial
  | request envelope out =>
    rw [answer] at hcomes
    cases hevent : envelope.toEvent c with
    | ok event =>
      rw [hevent] at hcomes
      obtain ⟨_, _, -, rfl, -⟩ := Routine.comes_bind_iff.mp hcomes
      trivial
    | error e =>
      rw [hevent] at hcomes
      obtain ⟨rfl, -⟩ := hcomes
      trivial
  | hello | helloAck | reply =>
    obtain ⟨rfl, -⟩ := hcomes
    trivial

end Host

/-- Servers and hosts answer each frame as its sender can make sense of. -/
theorem IsPeer.proper {τ : Type} {service : FrameService τ} (h : IsPeer service) : service.Proper := by
  cases h with
  | server cfg raise => exact Server.proper_service cfg
  | host cfg handler => exact Host.proper_service cfg

end EventBus
