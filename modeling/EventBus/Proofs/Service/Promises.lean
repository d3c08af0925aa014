import EventBus.Proofs.Routine.Guarantee
import EventBus.Service

/-!
# What services promise

If the answer to every frame keeps a promise, so does serving a chunk. `inv` is what holds whenever a frame is
answered; the answer to each frame leaves it for the next one.
-/

namespace EventBus.FrameService

variable {τ : Type} {service : FrameService τ} {rely guar : τ → τ → Prop} {inv : τ → Prop} {token : Token} {state : τ}

theorem meets_answerAll
    (h : ∀ frame state, inv state → (service.answer token frame).Meets rely guar (fun _ => inv) state)
    (frames : List Frame) (written : List Bytes) (answers : WriteAnswers) (hinv : inv state) :
    (service.answerAll token written frames answers).Meets rely guar (fun _ => inv) state := by
  induction frames generalizing written answers state with
  | nil => exact hinv
  | cons frame rest ih =>
    rw [answerAll, Routine.meets_bind_iff]
    refine (h frame state hinv).mono (fun _ _ hguar => hguar) fun answer found hfound => ?_
    split
    · exact ih written answers hfound
    · exact hfound
    · split
      · exact ih _ answers.tail hfound
      · exact hfound

theorem meets_received
    (h : ∀ frame state, inv state → (service.answer token frame).Meets rely guar (fun _ => inv) state)
    (inbox : Inbox) (chunk : Bytes) (answers : WriteAnswers) (hinv : inv state) :
    (service.received token inbox chunk answers).Meets rely guar (fun _ => inv) state := by
  rw [received]
  split
  · exact hinv
  · rw [Routine.meets_bind_iff]
    exact (meets_answerAll h _ [] answers hinv).mono (fun _ _ hguar => hguar) fun _ _ hfound => hfound

end EventBus.FrameService
