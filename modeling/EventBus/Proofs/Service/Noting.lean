import EventBus.Proofs.Reactor.Reachable
import EventBus.Proofs.Service.Noted
import EventBus.Proofs.Service.Promises

/-!
# Notes on all connections

A reactor has one service for all its connections. `FrameService.notedAll` notes what is taken up and answered on each
of them, by the place of its peer among those that ever connected.

* `received_notedAll`: for one connection it is the service that makes notes on that one.
* `meets_received_notedAll`: serving a connection makes notes on this one only, behind the old ones, whatever has arrived
  there and whatever other threads do.
* `separate_notedAll`: so the connections of a reactor are served apart from each other.
-/

namespace EventBus

/-- The place of the peer with a token among all that ever connected. -/
def Token.place (token : Token) : Nat :=
  token.toNat - 1

namespace Noted

variable {τ : Type} {handle : Handle} {s t : Noted τ}

/-- Notes are made on one connection only, and behind the old ones. -/
structure Adds (handle : Handle) (s t : Noted τ) : Prop where
  others : ∀ other, other ≠ handle → Keeps other s t
  grows : s.Grows t

theorem adds_of_keeps (h : ∀ other, Keeps other s t) (handle : Handle) : Adds handle s t :=
  ⟨fun other _ => h other, .of_keeps h⟩

theorem adds_self (handle : Handle) (s : Noted τ) : Adds handle s s :=
  adds_of_keeps (fun other => .refl other s) handle

/-- To take a frame up is a note about its connection, behind the others. -/
theorem adds_begin (handle : Handle) (frame : Frame) (s : Noted τ) : Adds handle s (s.begin handle frame) := by
  refine ⟨fun other hother => keeps_begin hother frame s, fun other => ?_, fun other => List.prefix_refl _⟩
  -- behind the notes about this connection, and not among those about another
  by_cases hsame : other = handle
  · subst hsame
    rw [begun_begin]
    exact List.prefix_append _ _
  · exact (keeps_begin hsame frame s).begun ▸ List.prefix_refl _

theorem adds_finish (handle : Handle) (answer : Answer) (s : Noted τ) : Adds handle s (s.finish handle answer) := by
  refine ⟨fun other hother => keeps_finish hother answer s, fun other => List.prefix_refl _, fun other => ?_⟩
  by_cases hsame : other = handle
  · subst hsame
    rw [answered_finish]
    exact List.prefix_append _ _
  · exact (keeps_finish hsame answer s).answered ▸ List.prefix_refl _

/-- The state of the service may change from outside; the notes stay. -/
def Stirs (s t : Noted τ) : Prop :=
  ∃ state, t = s.setState state

/-- What is done to the state from outside makes no notes. -/
theorem Stirs.keeps (h : Stirs s t) (handle : Handle) : Keeps handle s t := by
  obtain ⟨state, rfl⟩ := h
  exact ⟨rfl, rfl⟩

end Noted

namespace FrameService

variable {τ : Type} {service service' : FrameService τ} {token : Token}

/-- What a service does with a chunk depends on how it answers frames on that connection, and on its limits. -/
theorem received_congr (hmax : service.maxFrame = service'.maxFrame) (hlimit : service.writeLimit = service'.writeLimit)
    (hanswer : service.answer token = service'.answer token) : service.received token = service'.received token := by
  -- two services that answer alike answer alike all frames of a chunk
  have hall : ∀ frames written answers, service.answerAll token written frames answers
      = service'.answerAll token written frames answers := by
    intro frames
    induction frames with
    | nil => exact fun _ _ => rfl
    | cons frame rest ih =>
      intro written answers
      rw [answerAll, answerAll, hanswer]
      congr 1
      funext answer
      cases answer with
      | silent => exact ih written answers
      | refuse e => rfl
      | reply reply =>
        dsimp only
        rw [hlimit]
        generalize Socket.sendBytes service'.writeLimit answers.head?.toList.flatten reply.encode = sending
        obtain ⟨bytes, e | done⟩ := sending
        · rfl
        · exact ih _ _
  funext inbox chunk answers
  unfold received
  rw [hmax]
  dsimp only
  split
  · rfl
  · rw [hall]

/-- The service that notes what it takes up and answers on each connection. -/
def notedAll (service : FrameService τ) : FrameService (Noted τ) where
  maxFrame := service.maxFrame
  writeLimit := service.writeLimit
  answer token := (service.noted token.place).answer token
  release token noted := noted.setState (service.release token noted.state)

/-- On a connection, the service that makes notes everywhere makes them for that connection. -/
theorem received_notedAll (service : FrameService τ) (token : Token) :
    service.notedAll.received token = (service.noted token.place).received token :=
  received_congr rfl rfl rfl

/-- The answer to a frame adds notes about its connection only, whatever others do meanwhile. -/
theorem meets_answer_noted (service : FrameService τ) (handle : Handle) (token : Token) (frame : Frame) (s : Noted τ) :
    ((service.noted handle).answer token frame).Meets (fun _ _ => True) (Noted.Adds handle) (fun _ _ => True) s := by
  have hwithin : ∀ whole, ((service.answer token frame).within Noted.state Noted.setState).Meets (fun _ _ => True)
      (Noted.Adds handle) (fun _ _ => True) whole := by
    intro whole
    refine Routine.meets_within (fun _ _ _ _ => trivial) (fun whole part _ _ => ⟨?_, trivial⟩) trivial
    have hkeeps : ∀ other, Noted.Keeps other whole (whole.setState part) := fun _ => ⟨rfl, rfl⟩
    exact Noted.adds_of_keeps hkeeps handle
  refine Routine.meets_bind_iff.mpr (Routine.meets_change_iff.mpr ⟨Noted.adds_begin handle frame s, fun found _ => ?_⟩)
  refine Routine.meets_bind_iff.mpr ((hwithin found).mono (fun _ _ hturn => hturn) fun answer ended _ => ?_)
  exact Routine.meets_bind_iff.mpr
    (Routine.meets_change_iff.mpr ⟨Noted.adds_finish handle answer ended, fun _ _ => trivial⟩)

/-- Whatever serving a chunk does, it adds notes about its own connection only. -/
theorem meets_received_notedAll (service : FrameService τ) (token : Token) (inbox : Inbox) (chunk : Bytes)
    (answers : WriteAnswers) (s : Noted τ) :
    (service.notedAll.received token inbox chunk answers).Meets (fun _ _ => True) (Noted.Adds token.place)
      (fun _ _ => True) s := by
  rw [received_notedAll]
  exact meets_received (fun frame found _ => meets_answer_noted service token.place token frame found) inbox chunk
    answers trivial

/-- Serving relies on nothing, and adds notes on its own connection only. -/
theorem separate_notedAll (service : FrameService τ) :
    Reactor.Separate service.notedAll.toService Noted.Stirs (fun _ _ _ => True) (fun token => Noted.Adds token.place) where
  refl _ _ := trivial
  trans _ := fun _ _ => trivial
  idle token s := Noted.adds_self token.place s
  apart _ _ := trivial
  opened _ := trivial
  closed _ := trivial
  stirred _ := trivial
  received token inbox chunk answers s := meets_received_notedAll service token inbox chunk answers s

end FrameService

end EventBus
