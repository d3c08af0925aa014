import EventBus.Host
import EventBus.Proofs.Routine.Interference
import EventBus.Proofs.Service.Chunks
import EventBus.Proofs.Wire.RoundTrip

/-!
# What a host writes

A handler may come to the same for the same event and out-structure, whatever it sees of the world. What a host
of such a handler writes to a connection depends on the bytes only that reach it there.

* `Behaviour` is what such a handler comes to; `Handler.Shows` says that a handler is one of these.
* `replyTo` is the reply to a frame, `comes_answer` the answer of a host to a frame that delivers an event.
* `comes_receiveAll`: the replies to frames are written in their order and nothing else, however the frames are cut
  on their way and whatever other threads of the host do.
* `ends_receiveAll`: a host comes to its end with whatever arrives.
-/

namespace EventBus

variable {c : Catalog} {σ τ : Type}

/-! ## Handlers that depend on what they are given -/

/-- What a handler comes to for an event and an out-structure, if it depends on nothing else. -/
abbrev Behaviour (c : Catalog) := Event c → Option EventOut → Outcome

/-- The out-structure behind a call, if one was there. -/
def Outcome.leaves (outcome : Outcome) (view : Option EventOut) : Option EventOut :=
  view.map fun out => outcome.view.getD out

/-- A program that uses no bus and comes to one outcome, whatever it sees of the world. It changes the world only
within `kept`. -/
def Program.ComesTo (kept : σ → σ → Prop) (outcome : Outcome) : Program c σ → Prop
  | .finish result => result = outcome
  | .note _ next => next.ComesTo kept outcome
  | .look next => ∀ world, (next world).ComesTo kept outcome
  | .change f next => (∀ world, kept world (f world)) ∧ next.ComesTo kept outcome
  | .setActivated .. | .isActivated .. | .handshake .. | .raise .. => False

/-- A handler that depends on the event and the out-structure only, and uses no bus. -/
def Handler.Shows (kept : σ → σ → Prop) (behaviour : Behaviour c) (handler : Handler c σ) : Prop :=
  ∀ event view, (handler.handle event view).ComesTo kept (behaviour event view)

namespace Program

/-- Apart from a bus, a program that comes to an outcome on its own comes to that one. -/
theorem comes_runDetached {kept others : σ → σ → Prop} {outcome : Outcome} {program : Program c σ}
    (h : program.ComesTo kept outcome) {before after : σ} {result : Outcome}
    (hcomes : program.runDetached.Comes others before result after) : result = outcome := by
  induction program generalizing before with
  | finish value => exact hcomes.1.trans h
  | note record next ih => exact ih h hcomes
  | look next ih =>
    obtain ⟨found, -, hrest⟩ := Routine.comes_atomic_bind_iff.mp hcomes
    exact ih _ (h _) hrest
  | change f next ih =>
    obtain ⟨found, -, hrest⟩ := Routine.comes_change_bind_iff.mp hcomes
    exact ih h.2 hrest
  | setActivated | isActivated | handshake | raise => exact h.elim

/-- Apart from a bus every program ends: there is nothing on which a raise could be nested. -/
theorem ends_runDetached {others : σ → σ → Prop} (program : Program c σ) (state : σ) :
    program.runDetached.Ends others state := by
  induction program generalizing state with
  | finish outcome => exact Routine.ends_pure outcome state
  | note record next ih => exact ih state
  | setActivated name on next ih | isActivated name next ih => exact ih false state
  | handshake id name next ih => exact ih .failure state
  | raise event out next ih => exact ih .ok out state
  | look next ih => exact Routine.ends_atomic_bind fun found _ => ih _ found
  | change f next ih => exact Routine.ends_atomic_bind fun found _ => ih found

end Program

/-! ## Answers of a host -/

theorem Catalog.ofCode?_code (kind : c.Kind) : c.ofCode? (Catalog.code kind) = some kind := by
  have hcode : (Catalog.code kind).toNat = kind.val + 1 :=
    UInt16.toNat_ofNat_of_lt' (Nat.lt_of_le_of_lt kind.isLt c.rows_lt)
  have hkind : 0 < (Catalog.code kind).toNat ∧ (Catalog.code kind).toNat - 1 < c.rows.size := by
    rw [hcode]
    exact ⟨Nat.succ_pos _, kind.isLt⟩
  rw [Catalog.ofCode?, dif_pos hkind]
  simp only [hcode, Nat.add_sub_cancel]

/-- An event comes out of its envelope as it was put in. -/
theorem Envelope.toEvent_ofEvent (event : Event c) : (Envelope.ofEvent event).toEvent c = .ok event := by
  rw [Envelope.toEvent, Envelope.ofEvent, Catalog.ofCode?_code]

/-- Whether a frame delivers an event. -/
def Frame.isDelivery : Frame → Bool
  | .push _ | .request .. => true
  | _ => false

namespace Host

/-- The reply of a host to a frame; a push has none. -/
def replyTo (behaviour : Behaviour c) : Frame → Option Frame
  | .request envelope out =>
    match envelope.toEvent c with
    | .ok event =>
      some (.reply (behaviour event out).ending.status ((behaviour event out).leaves out))
    | .error _ => some (.reply .failure out)
  | _ => none

variable {handler : Handler c τ} {kept others : τ → τ → Prop} {behaviour : Behaviour c}

theorem comes_run (h : handler.Shows kept behaviour) {event : Event c} {view : Option EventOut} {before after : τ}
    {result : Status × Option EventOut} (hcomes : (run handler event view).Comes others before result after) :
    result = ((behaviour event view).ending.status, (behaviour event view).leaves view) := by
  obtain ⟨outcome, middle, houtcome, rfl, -⟩ := Routine.comes_bind_iff.mp hcomes
  rw [Program.comes_runDetached (h event view) houtcome]
  rfl

/-- A frame that delivers an event is answered with its reply, or not at all if it has none. -/
theorem comes_answer (h : handler.Shows kept behaviour) {frame : Frame} (hdelivery : frame.isDelivery)
    {before after : τ} {result : Answer} (hcomes : (answer handler frame).Comes others before result after) :
    result = ((replyTo behaviour frame).map Answer.reply).getD .silent := by
  cases frame with
  | hello | helloAck | reply => cases hdelivery
  | push envelope =>
    rw [answer] at hcomes
    cases hevent : envelope.toEvent c with
    | ok event =>
      rw [hevent] at hcomes
      obtain ⟨_, _, -, rfl, -⟩ := Routine.comes_bind_iff.mp hcomes
      rfl
    | error e =>
      rw [hevent] at hcomes
      exact hcomes.1
  | request envelope out =>
    rw [answer] at hcomes
    rw [replyTo]
    cases hevent : envelope.toEvent c with
    | ok event =>
      rw [hevent] at hcomes
      obtain ⟨answered, _, hrun, rfl, -⟩ := Routine.comes_bind_iff.mp hcomes
      -- the handler shows its behaviour, so the run can have answered nothing else
      rw [comes_run h hrun]
      rfl
    | error e =>
      rw [hevent] at hcomes
      exact hcomes.1

theorem ends_answer (handler : Handler c τ) (frame : Frame) (state : τ) :
    (answer handler frame).Ends others state := by
  have hrun : ∀ event view, (run handler event view).Ends others state := fun event view =>
    (Program.ends_runDetached _ state).bind fun outcome found _ => Routine.ends_pure _ found
  cases frame with
  | hello | helloAck | reply => exact Routine.ends_pure _ state
  | push envelope | request envelope =>
    rw [answer]
    split
    · exact (hrun _ _).bind fun _ found _ => Routine.ends_pure _ found
    · exact Routine.ends_pure _ state

end Host

/-! ## Everything on a connection -/

/-- Whether an attempt to write gets on: the socket takes something, or the attempt is made again. -/
def WriteAnswer.getsOn : WriteAnswer → Bool
  | .takes n => n != 0
  | .interrupted | .full false => true
  | .full true | .fails _ => false

/-- A write that gets on in each attempt writes everything. -/
theorem Socket.sendBytes_of_getsOn {limit : Duration} {answers : List WriteAnswer}
    (h : ∀ answer ∈ answers, answer.getsOn) (bytes : Bytes) : sendBytes limit answers bytes = (bytes, .ok ()) := by
  induction answers generalizing bytes with
  | nil => cases bytes <;> rfl
  | cons answer answers ih =>
    obtain ⟨hfirst, hlater⟩ := List.forall_mem_cons.mp h
    cases bytes with
    | nil => rw [sendBytes]
    | cons byte bytes =>
      cases answer with
      | takes n =>
        cases n with
        | zero => cases hfirst
        | succ n =>
          simp only [sendBytes, ih hlater, List.drop_succ_cons, List.take_succ_cons, List.cons_append,
            List.take_append_drop]
      -- an interrupted attempt is made again with the same bytes
      | interrupted => exact ih hlater _
      | full expired =>
        cases expired with
        | false => exact ih hlater _
        | true => cases hfirst
      | fails e => cases hfirst

/-- If all writes get on, the next one does. -/
theorem Socket.sendBytes_head_of_getsOn {answers : WriteAnswers}
    (h : ∀ attempts ∈ answers, ∀ answer ∈ attempts, answer.getsOn) (limit : Duration) (bytes : Bytes) :
    sendBytes limit answers.head?.toList.flatten bytes = (bytes, .ok ()) := by
  refine sendBytes_of_getsOn ?_ bytes
  cases answers with
  | nil => simp
  | cons attempts answers => simpa using h attempts List.mem_cons_self

namespace Frame

/-- Encodings one behind the other are drained to their frames. -/
theorem drain_flatMap_encode {max : Nat} {frames : List Frame}
    (h : ∀ frame ∈ frames, frame.body.length ≤ min max Bytes.maxLength) :
    drain max (frames.flatMap encode) = ⟨frames.map asSent, none, []⟩ := by
  induction frames with
  | nil => exact drain_of_incomplete rfl
  | cons frame frames ih =>
    obtain ⟨hframe, hframes⟩ := List.forall_mem_cons.mp h
    rw [List.flatMap_cons, drain_of_frame (decode_encode hframe _), ih hframes, List.map_cons]

/-- Deliveries have no names that could be cut. -/
theorem asSent_of_isDelivery {frame : Frame} (h : frame.isDelivery) : frame.asSent = frame := by
  cases frame with
  | hello => cases h
  | helloAck | push | request | reply => rfl

end Frame

namespace FrameService

variable {service : FrameService τ} {token : Token} {others : τ → τ → Prop}

/-- The replies to frames are written in their order. -/
theorem comes_answerAll {reply? : Frame → Option Frame} {frames : List Frame}
    (hanswer : ∀ frame ∈ frames, ∀ before answer after, (service.answer token frame).Comes others before answer after →
      answer = ((reply? frame).map Answer.reply).getD .silent)
    {answers : WriteAnswers} (hanswers : ∀ attempts ∈ answers, ∀ answer ∈ attempts, answer.getsOn)
    {written : List Bytes} {before after : τ} {result : List Bytes × Option TransportError}
    (hcomes : (service.answerAll token written frames answers).Comes others before result after) :
    result = (written.reverse ++ (frames.filterMap reply?).map Frame.encode, none) := by
  induction frames generalizing written answers before with
  | nil => simpa using hcomes.1
  | cons frame frames ih =>
    obtain ⟨hframe, hframes⟩ := List.forall_mem_cons.mp hanswer
    rw [answerAll] at hcomes
    obtain ⟨answer, middle, hfirst, hrest⟩ := Routine.comes_bind_iff.mp hcomes
    obtain rfl := hframe before answer middle hfirst
    -- a silent frame takes no write, so the answers of the sockets stay for the next one
    cases hreply : reply? frame with
    | none =>
      rw [hreply] at hrest
      rw [List.filterMap_cons_none hreply]
      exact ih hframes hanswers hrest
    | some reply =>
      rw [hreply, Option.map_some, Option.getD_some] at hrest
      dsimp only at hrest
      rw [Socket.sendBytes_head_of_getsOn hanswers] at hrest
      rw [List.filterMap_cons_some hreply]
      have htail : ∀ attempts ∈ answers.tail, ∀ answer ∈ attempts, answer.getsOn :=
        fun attempts hmem => hanswers attempts (List.mem_of_mem_tail hmem)
      simpa using ih hframes htail hrest

/-- A stream without a malformed frame is sound, however it is cut. -/
theorem soundChunks_of_none {max : Nat} {chunks : List Bytes} (h : (Frame.drain max chunks.flatten).failure = none) :
    soundChunks max [] chunks = chunks := by
  have hempty : (Frame.drain max []).failure = none := by rw [Frame.drain_of_incomplete rfl]
  rcases soundChunks_cases hempty chunks with ⟨hall, -⟩ | ⟨front, chunk, back, rfl, -, hchunk⟩
  · exact hall
  · -- the failure of the chunk would be one of the whole stream
    obtain ⟨e, hfailure⟩ := Option.ne_none_iff_exists'.mp hchunk
    rw [List.flatten_append, List.flatten_cons, ← List.append_assoc, ← List.nil_append front.flatten,
      Frame.drain_append_of_failure hfailure] at h
    cases h

/-- Of a stream without a malformed frame, the frames are answered one by one. -/
theorem receiveAll_of_none {chunks : List Bytes} {frames : List Frame} {rest : Bytes}
    (h : Frame.drain service.maxFrame chunks.flatten = ⟨frames, none, rest⟩) (answers : WriteAnswers) :
    service.receiveAll token .empty chunks answers = service.answerAll token [] frames answers := by
  rw [receiveAll_eq, soundChunks_of_none (by rw [h]), h, answerBefore]
  simp

/-- The answers of a host to any number of frames end. -/
theorem ends_answerAll (hanswer : ∀ frame state, (service.answer token frame).Ends others state) (frames : List Frame)
    (written : List Bytes) (answers : WriteAnswers) (state : τ) :
    (service.answerAll token written frames answers).Ends others state := by
  induction frames generalizing written answers state with
  | nil => exact Routine.ends_pure _ state
  | cons frame frames ih =>
    refine (hanswer frame state).bind fun answer found _ => ?_
    cases answer with
    | silent => exact ih written answers found
    | refuse e => exact Routine.ends_pure _ found
    | reply reply =>
      dsimp only
      split
      · exact ih _ _ found
      · exact Routine.ends_pure _ found

/-- If a service comes to its end with each frame, it does so with whatever arrives. -/
theorem ends_receiveAll (hanswer : ∀ frame state, (service.answer token frame).Ends others state) (chunks : List Bytes)
    (answers : WriteAnswers) (state : τ) : (service.receiveAll token .empty chunks answers).Ends others state := by
  rw [receiveAll_eq, answerBefore]
  exact (ends_answerAll hanswer _ [] answers state).bind fun _ found _ => Routine.ends_pure _ found

end FrameService

namespace Host

variable {handler : Handler c τ} {kept others : τ → τ → Prop} {behaviour : Behaviour c} {cfg : Config}

/-- A host writes the replies to the events that are sent to it, in their order and nothing else. -/
theorem comes_receiveAll (h : handler.Shows kept behaviour) {frames : List Frame}
    (hdeliveries : ∀ frame ∈ frames, frame.isDelivery)
    (hfits : ∀ frame ∈ frames, frame.body.length ≤ min cfg.maxFrame Bytes.maxLength) {chunks : List Bytes}
    (hchunks : chunks.flatten = frames.flatMap Frame.encode) {answers : WriteAnswers}
    (hanswers : ∀ attempts ∈ answers, ∀ answer ∈ attempts, answer.getsOn) {token : Token} {before after : τ}
    {result : List Bytes × Option TransportError}
    (hcomes : ((service cfg handler).receiveAll token .empty chunks answers).Comes others before result after) :
    result = ((frames.filterMap (replyTo behaviour)).map Frame.encode, none) := by
  -- the frames come out of the chunks as they were sent, and none of them is malformed
  have hsame : frames.map Frame.asSent = frames :=
    (List.map_congr_left fun frame hframe => Frame.asSent_of_isDelivery (hdeliveries frame hframe)).trans frames.map_id
  have hdrained : Frame.drain cfg.maxFrame chunks.flatten = ⟨frames, none, []⟩ := by
    rw [hchunks, Frame.drain_flatMap_encode hfits, hsame]
  rw [FrameService.receiveAll_of_none hdrained] at hcomes
  exact FrameService.comes_answerAll (fun frame hframe before answer after hanswer =>
    comes_answer h (hdeliveries frame hframe) hanswer) hanswers hcomes

end Host

end EventBus
