import EventBus.Environment
import EventBus.Proofs.Routine.Guarantee
import EventBus.Proofs.Routine.Interference
import EventBus.Proofs.Wire.Draining
import EventBus.Service
import Mathlib.Data.List.Forall2
import Mathlib.Logic.Function.Basic

/-!
# What a service takes up

A service that serves several connections, with a note of each frame that it takes up and of each answer that it
comes to.

* `Noted`, `FrameService.noted`: the state with the notes, and the service that makes them. Nothing that the service
  does depends on them.
* `Logged`: what was taken up on a connection is a first part of some frames, and what was noted as answers are
  answers of the service to them, in their order. `Complete`: all frames were taken up and answered.
* `meets_noted_received`: serving a chunk takes up the frames that the chunk completes, one after the other, and
  writes the replies behind those that were written before.
* `comes_noted_received`: whatever a service may come to among other threads, it may come to with notes.
-/

namespace EventBus

/-- The state of a service with what it took up and answered on each connection, oldest first. -/
structure Noted (τ : Type) where
  state : τ
  begun : Handle → List Frame := fun _ => []
  answered : Handle → List Answer := fun _ => []

namespace Noted

variable {τ : Type} {handle other : Handle} {s t u : Noted τ}

/-- The note that a frame is taken up. -/
def begin (handle : Handle) (frame : Frame) (noted : Noted τ) : Noted τ :=
  { noted with begun := Function.update noted.begun handle (noted.begun handle ++ [frame]) }

/-- The note of the answer that was come to. -/
def finish (handle : Handle) (answer : Answer) (noted : Noted τ) : Noted τ :=
  { noted with answered := Function.update noted.answered handle (noted.answered handle ++ [answer]) }

/-- Another state with the same notes. -/
def setState (state : τ) (noted : Noted τ) : Noted τ :=
  { noted with state }

/-- On a connection nothing more is noted. -/
structure Keeps (handle : Handle) (s t : Noted τ) : Prop where
  begun : t.begun handle = s.begun handle
  answered : t.answered handle = s.answered handle

theorem Keeps.refl (handle : Handle) (s : Noted τ) : Keeps handle s s := ⟨rfl, rfl⟩

theorem Keeps.trans (h : Keeps handle s t) (h' : Keeps handle t u) : Keeps handle s u :=
  ⟨h'.begun.trans h.begun, h'.answered.trans h.answered⟩

/-- A note about one connection is none about another, when a frame is taken up -/
theorem keeps_begin (hother : other ≠ handle) (frame : Frame) (s : Noted τ) : Keeps other s (s.begin handle frame) :=
  ⟨Function.update_of_ne hother _ s.begun, rfl⟩

theorem keeps_finish (hother : other ≠ handle) (answer : Answer) (s : Noted τ) :
    Keeps other s (s.finish handle answer) :=
  ⟨rfl, Function.update_of_ne hother _ s.answered⟩

@[simp]
theorem begun_begin (handle : Handle) (frame : Frame) (s : Noted τ) :
    (s.begin handle frame).begun handle = s.begun handle ++ [frame] :=
  Function.update_self ..

@[simp]
theorem answered_finish (handle : Handle) (answer : Answer) (s : Noted τ) :
    (s.finish handle answer).answered handle = s.answered handle ++ [answer] :=
  Function.update_self ..

/-- What is noted is behind the old notes. -/
structure Grows (s t : Noted τ) : Prop where
  begun : ∀ handle, s.begun handle <+: t.begun handle
  answered : ∀ handle, s.answered handle <+: t.answered handle

theorem Grows.refl (s : Noted τ) : Grows s s := ⟨fun _ => List.prefix_refl _, fun _ => List.prefix_refl _⟩

theorem Grows.trans (h : Grows s t) (h' : Grows t u) : Grows s u :=
  ⟨fun handle => (h.begun handle).trans (h'.begun handle), fun handle => (h.answered handle).trans (h'.answered handle)⟩

/-- Where no connection has a new note nothing is taken back. -/
theorem Grows.of_keeps (h : ∀ handle, Keeps handle s t) : Grows s t :=
  ⟨fun handle => (h handle).begun ▸ List.prefix_refl _, fun handle => (h handle).answered ▸ List.prefix_refl _⟩

end Noted

/-- What an answer puts on the wire. -/
def Answer.bytes : Answer → Bytes
  | reply frame => frame.encode
  | _ => []

/-- The bytes of some answers, one after the other. -/
def Answer.allBytes (answers : List Answer) : Bytes :=
  answers.flatMap bytes

/-- A further answer is written behind the others. -/
theorem Answer.allBytes_concat (answers : List Answer) (answer : Answer) :
    allBytes (answers ++ [answer]) = allBytes answers ++ answer.bytes := by
  unfold allBytes
  rw [List.flatMap_append, List.flatMap_singleton]

theorem Answer.allBytes_prefix {answers answers' : List Answer} (h : answers <+: answers') :
    allBytes answers <+: allBytes answers' := by
  obtain ⟨later, rfl⟩ := h
  exact ⟨allBytes later, List.flatMap_append.symm⟩

/-- What a socket takes of bytes is a first part of them, and all of them if the write succeeds. -/
theorem Socket.sendBytes_prefix (limit : Duration) (answers : List WriteAnswer) (bytes : Bytes) :
    (sendBytes limit answers bytes).1 <+: bytes
      ∧ ((sendBytes limit answers bytes).2 = .ok () → (sendBytes limit answers bytes).1 = bytes) := by
  induction answers generalizing bytes with
  | nil =>
    have hall : sendBytes limit [] bytes = (bytes, .ok ()) := by cases bytes <;> rfl
    rw [hall]
    exact ⟨List.prefix_refl bytes, fun _ => rfl⟩
  | cons answer answers ih =>
    cases bytes with
    | nil =>
      rw [sendBytes]
      exact ⟨List.prefix_refl [], fun _ => rfl⟩
    | cons byte rest =>
      -- an attempt that fails has written nothing of what was left
      have hnothing : ∀ {e : TransportError}, ([] : Bytes) <+: byte :: rest
          ∧ ((.error e : Except TransportError Unit) = .ok () → [] = byte :: rest) :=
        fun {e} => ⟨List.nil_prefix, nofun⟩
      cases answer with
      | interrupted => exact ih (byte :: rest)
      | fails e => exact hnothing
      | full expired =>
        cases expired with
        | true => exact hnothing
        | false => exact ih (byte :: rest)
      | takes n =>
        cases n with
        | zero => exact hnothing
        | succ n =>
          obtain ⟨hfirst, hall⟩ := ih ((byte :: rest).drop (n + 1))
          have hparts := List.take_append_drop (n + 1) (byte :: rest)
          rw [sendBytes]
          · refine ⟨?_, fun hok => ?_⟩
            · have hfront := List.prefix_append_right_inj ((byte :: rest).take (n + 1)) |>.mpr hfirst
              rwa [hparts] at hfront
            · have hback := congrArg ((byte :: rest).take (n + 1) ++ ·) (hall hok)
              exact hback.trans hparts
          · exact nofun
          · exact nofun

/-! ## Notes -/

namespace FrameService

variable {τ : Type}

/-- The service that notes what it takes up and answers on a connection. -/
def noted (service : FrameService τ) (handle : Handle) : FrameService (Noted τ) where
  maxFrame := service.maxFrame
  writeLimit := service.writeLimit
  answer token frame := do
    .change (Noted.begin handle frame)
    let answer ← (service.answer token frame).within Noted.state Noted.setState
    .change (Noted.finish handle answer)
    return answer
  release token noted := noted.setState (service.release token noted.state)

/-- A service may come to an answer to a frame, whatever other threads do. -/
def Gives (service : FrameService τ) (frame : Frame) (answer : Answer) : Prop :=
  ∃ token before after, (service.answer token frame).Comes (fun _ _ => True) before answer after

/-- What was taken up on a connection is a first part of some frames, and was answered as noted. -/
structure Logged (service : FrameService τ) (handle : Handle) (frames : List Frame) (noted : Noted τ) : Prop where
  begun : noted.begun handle <+: frames
  gives : List.Forall₂ service.Gives ((noted.begun handle).take (noted.answered handle).length)
    (noted.answered handle)

/-- All of some frames were taken up on a connection, and were answered. -/
structure Complete (service : FrameService τ) (handle : Handle) (frames : List Frame) (noted : Noted τ) : Prop where
  begun : noted.begun handle = frames
  gives : List.Forall₂ service.Gives frames (noted.answered handle)

/-- What serving a connection does: nothing is noted elsewhere, and what is noted there is behind the old notes. -/
structure Advances (service : FrameService τ) (handle : Handle) (frames : List Frame) (s t : Noted τ) : Prop where
  others : ∀ other, other ≠ handle → Noted.Keeps other s t
  begun : s.begun handle <+: t.begun handle
  answered : s.answered handle <+: t.answered handle
  logged : service.Logged handle frames t

variable {service : FrameService τ} {handle : Handle} {frames : List Frame} {s t : Noted τ}

/-- What was taken up and answered on a connection is a matter of its own notes only. -/
theorem Logged.of_keeps (h : service.Logged handle frames s) (hkeeps : Noted.Keeps handle s t) :
    service.Logged handle frames t := by
  refine ⟨?_, ?_⟩
  · rw [hkeeps.begun]
    exact h.begun
  · rw [hkeeps.begun, hkeeps.answered]
    exact h.gives

theorem Complete.of_keeps (h : service.Complete handle frames s) (hkeeps : Noted.Keeps handle s t) :
    service.Complete handle frames t := by
  refine ⟨hkeeps.begun.trans h.begun, ?_⟩
  rw [hkeeps.answered]
  exact h.gives

/-- Once all frames are taken up and answered, they are a first part of whatever comes. -/
theorem Complete.logged (h : service.Complete handle frames s) {frames' : List Frame} (hle : frames <+: frames') :
    service.Logged handle frames' s := by
  refine ⟨h.begun ▸ hle, ?_⟩
  rw [h.begun, ← h.gives.length_eq, List.take_length]
  exact h.gives

theorem Logged.mono (h : service.Logged handle frames s) {frames' : List Frame} (hle : frames <+: frames') :
    service.Logged handle frames' s :=
  ⟨h.begun.trans hle, h.gives⟩

theorem Advances.of_logged (h : service.Logged handle frames s) : service.Advances handle frames s s where
  others other _ := .refl other s
  begun := List.prefix_refl _
  answered := List.prefix_refl _
  logged := h

/-- An advance on one connection takes no note back on any. -/
theorem Advances.grows (h : service.Advances handle frames s t) : s.Grows t := by
  refine ⟨fun other => ?_, fun other => ?_⟩
  -- on its own connection by what is appended, elsewhere because nothing is
  · by_cases hsame : other = handle
    · subst hsame
      exact h.begun
    · exact (h.others other hsame).begun ▸ List.prefix_refl _
  · by_cases hsame : other = handle
    · subst hsame
      exact h.answered
    · exact (h.others other hsame).answered ▸ List.prefix_refl _

/-! ## Answers -/

variable {token : Token}

/-- What a service does to its own state makes no notes. -/
theorem meets_within_noted {α : Type} (routine : Routine τ α) (noted : Noted τ)
    (hlogged : service.Logged handle frames noted) :
    (routine.within Noted.state Noted.setState).Meets (Noted.Keeps handle) (service.Advances handle frames)
      (fun value later => Noted.Keeps handle noted later
        ∧ ∃ after, routine.Comes (fun _ _ => True) noted.state value after) noted := by
  induction routine generalizing noted with
  | done value => exact ⟨.refl handle noted, noted.state, rfl, rfl⟩
  | look next ih => exact ih noted.state noted hlogged
  | put left rest ih =>
    refine ⟨⟨fun other _ => ⟨rfl, rfl⟩, List.prefix_refl _, List.prefix_refl _, hlogged.of_keeps ⟨rfl, rfl⟩⟩, ?_⟩
    intro found hfound
    have hkeeps : Noted.Keeps handle noted found := ⟨hfound.begun, hfound.answered⟩
    refine (ih found (hlogged.of_keeps hkeeps)).mono (fun _ _ hturn => hturn) ?_
    rintro value later ⟨hlater, after, hcomes⟩
    exact ⟨hkeeps.trans hlater, after, found.state, trivial, hcomes⟩
  | stuck => trivial

/-- Answering the frame behind those that are complete completes it as well. -/
theorem meets_noted_answer {front : List Frame} {frame : Frame} {rest : List Frame}
    (h : service.Complete handle front s) :
    ((service.noted handle).answer token frame).Meets (Noted.Keeps handle)
      (service.Advances handle (front ++ frame :: rest))
      (fun answer later => service.Complete handle (front ++ [frame]) later
        ∧ later.answered handle = s.answered handle ++ [answer]) s := by
  have hle : front ++ [frame] <+: front ++ frame :: rest := ⟨rest, by simp⟩
  -- the frame is noted, then answered, then the answer is noted
  have hbegun : ∀ t, Noted.Keeps handle (s.begin handle frame) t →
      t.begun handle = front ++ [frame] ∧ t.answered handle = s.answered handle := by
    intro t hkeeps
    rw [hkeeps.begun, hkeeps.answered, Noted.begun_begin, h.begun]
    exact ⟨rfl, rfl⟩
  have hlogged : ∀ t, Noted.Keeps handle (s.begin handle frame) t →
      service.Logged handle (front ++ frame :: rest) t := by
    intro t hkeeps
    obtain ⟨hframes, hanswers⟩ := hbegun t hkeeps
    refine ⟨hframes ▸ hle, ?_⟩
    rw [hframes, hanswers, ← h.gives.length_eq, List.take_left]
    exact h.gives
  refine Routine.meets_bind_iff.mpr (Routine.meets_change_iff.mpr ⟨?_, fun found hfound => ?_⟩)
  · refine ⟨fun other hother => Noted.keeps_begin hother frame s, ?_, List.prefix_refl _, hlogged _ (.refl _ _)⟩
    rw [Noted.begun_begin]
    exact List.prefix_append _ _
  refine Routine.meets_bind_iff.mpr ((meets_within_noted (service.answer token frame) found (hlogged found hfound)).mono
    (fun _ _ hturn => hturn) ?_)
  rintro answer ended ⟨hended, after, hcomes⟩
  have hkeeps := hfound.trans hended
  obtain ⟨hframes, hanswers⟩ := hbegun ended hkeeps
  have hcomplete : service.Complete handle (front ++ [frame]) (ended.finish handle answer) := by
    refine ⟨hframes, ?_⟩
    rw [Noted.answered_finish, hanswers]
    exact List.rel_append h.gives (.cons ⟨token, found.state, after, hcomes⟩ .nil)
  refine Routine.meets_bind_iff.mpr (Routine.meets_change_iff.mpr ⟨?_, fun later hlater => ⟨hcomplete.of_keeps hlater, ?_⟩⟩)
  · refine ⟨fun other hother => Noted.keeps_finish hother answer ended, List.prefix_refl _, ?_, hcomplete.logged hle⟩
    rw [Noted.answered_finish]
    exact List.prefix_append _ _
  · rw [hlater.answered, Noted.answered_finish, hanswers]

/-! ## Chunks -/

/-- What is left when frames have been answered: what was written is a first part of the replies, and all of them if no
failure ends the connection. `before` was written earlier. -/
structure Leaves (service : FrameService τ) (handle : Handle) (frames : List Frame) (before : Bytes)
    (written : List Bytes) (failure : Option TransportError) (noted : Noted τ) : Prop where
  logged : service.Logged handle frames noted
  written_prefix : before ++ written.flatten <+: Answer.allBytes (noted.answered handle)
  complete : failure = none → service.Complete handle frames noted
  written_eq : failure = none → before ++ written.flatten = Answer.allBytes (noted.answered handle)

/-- What serving a chunk has left stays, whatever is noted about others. -/
theorem Leaves.of_keeps {before : Bytes} {written : List Bytes} {failure : Option TransportError}
    (h : service.Leaves handle frames before written failure s) (hkeeps : Noted.Keeps handle s t) :
    service.Leaves handle frames before written failure t where
  logged := h.logged.of_keeps hkeeps
  written_prefix := hkeeps.answered ▸ h.written_prefix
  complete hnone := (h.complete hnone).of_keeps hkeeps
  written_eq hnone := hkeeps.answered ▸ h.written_eq hnone

/-- A failure behind some of the frames. -/
theorem leaves_of_failure {front rest : List Frame} {before : Bytes} {written : List Bytes}
    (h : service.Complete handle front s) (hfirst : before ++ written.flatten <+: Answer.allBytes (s.answered handle))
    (e : TransportError) : service.Leaves handle (front ++ rest) before written (some e) s where
  logged := h.logged (List.prefix_append _ _)
  written_prefix := hfirst
  complete := nofun
  written_eq := nofun

/-- The frames of a chunk are taken up and answered one after the other, until a reply cannot be written or a frame is
refused. -/
theorem meets_noted_answerAll (token : Token) {front : List Frame} (rest : List Frame) (before : Bytes)
    (written : List Bytes) (answers : WriteAnswers) (h : service.Complete handle front s)
    (hwritten : before ++ written.reverse.flatten = Answer.allBytes (s.answered handle)) :
    ((service.noted handle).answerAll token written rest answers).Meets (Noted.Keeps handle)
      (service.Advances handle (front ++ rest))
      (fun result later => service.Leaves handle (front ++ rest) before result.1 result.2 later) s := by
  -- on the frames that are left; what goes on from frame to frame is that all before are answered and written
  induction rest generalizing front written answers s with
  | nil =>
    rw [List.append_nil]
    exact ⟨h.logged (List.prefix_refl _), hwritten ▸ List.prefix_refl _, fun _ => h, fun _ => hwritten⟩
  | cons frame rest ih =>
    rw [answerAll, Routine.meets_bind_iff]
    refine (meets_noted_answer h).mono (fun _ _ hturn => hturn) ?_
    rintro answer later ⟨hcomplete, hanswered⟩
    have hassoc : front ++ frame :: rest = (front ++ [frame]) ++ rest := by simp
    have hall : Answer.allBytes (later.answered handle) = before ++ written.reverse.flatten ++ answer.bytes := by
      rw [hanswered, Answer.allBytes_concat, hwritten]
    rw [hassoc]
    cases answer with
    | silent => exact ih written answers hcomplete (by rw [hall]; exact (List.append_nil _).symm)
    | refuse e =>
      refine leaves_of_failure hcomplete ?_ e
      rw [hall]
      exact List.prefix_append _ _
    | reply reply =>
      dsimp only
      obtain ⟨hpart, hwhole⟩ := Socket.sendBytes_prefix (service.noted handle).writeLimit
        answers.head?.toList.flatten reply.encode
      generalize Socket.sendBytes (service.noted handle).writeLimit answers.head?.toList.flatten reply.encode = sending
        at hpart hwhole ⊢
      obtain ⟨bytes, e | done⟩ := sending
      · refine leaves_of_failure hcomplete ?_ e
        rw [hall, List.reverse_cons, List.flatten_concat, ← List.append_assoc]
        exact (List.prefix_append_right_inj _).mpr hpart
      · obtain rfl : bytes = reply.encode := hwhole rfl
        refine ih _ answers.tail hcomplete ?_
        rw [hall, List.reverse_cons, List.flatten_concat, ← List.append_assoc]
        rfl

/-- What serving a chunk leaves, with the bytes that have arrived by then. -/
structure Serves (service : FrameService τ) (handle : Handle) (arrived before : Bytes) (reaction : Reaction)
    (noted : Noted τ) : Prop where
  leaves : service.Leaves handle (Frame.drain service.maxFrame arrived).frames before reaction.written reaction.failure
    noted
  sound : reaction.failure = none → (Frame.drain service.maxFrame arrived).failure = none
  inbox : reaction.failure = none → reaction.inbox.bytes = (Frame.drain service.maxFrame arrived).rest

/-- What a chunk adds to an inbox is drained as what it adds to all that has arrived. -/
theorem drain_push {arrived : Bytes} (chunk : Bytes) {inbox : Inbox} {max : Nat}
    (hsound : (Frame.drain max arrived).failure = none) (hinbox : inbox.bytes = (Frame.drain max arrived).rest) :
    let drained := (inbox.push chunk).drain max
    Frame.drain max (arrived ++ chunk)
      = ⟨(Frame.drain max arrived).frames ++ drained.frames, drained.failure, drained.inbox.bytes⟩ := by
  have hpush := Inbox.drain_eq max (inbox.push chunk)
  rw [Inbox.bytes_push, hinbox] at hpush
  rw [Frame.drain_append hsound, hpush]

/-- Serving a chunk: the frames that it completes follow those that were complete before, and so do their answers. -/
theorem meets_noted_received (token : Token) {arrived : Bytes} {inbox : Inbox}
    (hsound : (Frame.drain service.maxFrame arrived).failure = none)
    (hinbox : inbox.bytes = (Frame.drain service.maxFrame arrived).rest)
    (h : service.Complete handle (Frame.drain service.maxFrame arrived).frames s) (chunk : Bytes)
    (answers : WriteAnswers) :
    ((service.noted handle).received token inbox chunk answers).Meets (Noted.Keeps handle)
      (service.Advances handle (Frame.drain service.maxFrame (arrived ++ chunk)).frames)
      (service.Serves handle (arrived ++ chunk) (Answer.allBytes (s.answered handle))) s := by
  -- draining what was left with the chunk is draining everything that has arrived
  have hdrained := drain_push chunk hsound hinbox
  generalize hlater : (inbox.push chunk).drain service.maxFrame = drained at hdrained
  have hmax : (service.noted handle).maxFrame = service.maxFrame := rfl
  unfold received
  rw [hmax, hlater, hdrained]
  dsimp only
  split
  · next e hfailure =>
    refine ⟨?_, nofun, nofun⟩
    rw [hdrained]
    exact leaves_of_failure h (by simp) e
  · next hfailure =>
    have hanswered := meets_noted_answerAll token drained.frames (Answer.allBytes (s.answered handle)) [] answers h
      (List.append_nil _)
    refine Routine.meets_bind_iff.mpr (hanswered.mono (fun _ _ hturn => hturn) ?_)
    rintro ⟨written, failure⟩ later hleaves
    refine ⟨?_, fun _ => ?_, fun _ => ?_⟩
    · rw [hdrained]
      exact hleaves
    · rw [hdrained]
      exact hfailure
    · rw [hdrained]

/-! ## What notes leave alone -/

section Erase

variable {others : τ → τ → Prop}

/-- Other threads do to the state what they may, and to the notes nothing. -/
def Unnoted (others : τ → τ → Prop) (s t : Noted τ) : Prop :=
  others s.state t.state ∧ t.begun = s.begun ∧ t.answered = s.answered

/-- A routine comes to its end in two parts, the second from wherever the first one has led. -/
theorem exists_comes_bind {σ α β : Type} {others : σ → σ → Prop} {routine : Routine σ α} {rest : α → Routine σ β}
    {first : α} {value : β} {before middle : σ} {good : σ → Prop} (h : routine.Comes others before first middle)
    (hrest : ∃ later, (rest first).Comes others middle value later ∧ good later) :
    ∃ later, (routine >>= rest).Comes others before value later ∧ good later := by
  obtain ⟨later, hlater, hgood⟩ := hrest
  exact ⟨later, Routine.comes_bind_iff.mpr ⟨first, middle, h, hlater⟩, hgood⟩

/-- What a routine may come to on the state alone, it may come to where notes are kept beside the state. -/
theorem comes_within_noted {α : Type} {routine : Routine τ α} {before after : τ} {value : α}
    (h : routine.Comes others before value after) (noted : Noted τ) (hstate : noted.state = before) :
    ∃ later, (routine.within Noted.state Noted.setState).Comes (Unnoted others) noted value later
      ∧ later.state = after := by
  -- each turn of the routine is the same turn, on the part of the state that it knows
  induction routine generalizing before noted with
  | done result =>
    obtain ⟨rfl, rfl⟩ := h
    exact ⟨noted, ⟨rfl, rfl⟩, hstate⟩
  | look next ih =>
    subst hstate
    exact ih noted.state h noted rfl
  | put left rest ih =>
    obtain ⟨found, hfound, hrest⟩ := h
    obtain ⟨later, hlater, hsame⟩ := ih hrest (noted.setState found) rfl
    exact ⟨later, ⟨noted.setState found, ⟨hfound, rfl, rfl⟩, hlater⟩, hsame⟩
  | stuck => exact h.elim

/-- Whatever a service may come to, the service with notes may come to. -/
theorem comes_noted_answer (hidle : ∀ state, others state state) {frame : Frame} {before after : τ} {answer : Answer}
    (h : (service.answer token frame).Comes others before answer after) (noted : Noted τ)
    (hstate : noted.state = before) :
    ∃ later, ((service.noted handle).answer token frame).Comes (Unnoted others) noted answer later
      ∧ later.state = after := by
  have hsame : ∀ noted : Noted τ, Unnoted others noted noted := fun noted => ⟨hidle noted.state, rfl, rfl⟩
  obtain ⟨ended, hended, rfl⟩ := comes_within_noted h (noted.begin handle frame) hstate
  refine ⟨ended.finish handle answer, ?_, rfl⟩
  refine Routine.comes_change_bind_iff.mpr ⟨noted.begin handle frame, hsame _, ?_⟩
  refine Routine.comes_bind_iff.mpr ⟨answer, ended, hended, ?_⟩
  exact Routine.comes_change_bind_iff.mpr ⟨ended.finish handle answer, hsame _, rfl, rfl⟩

/-- Answering frames may come to the same with notes as without. -/
theorem comes_noted_answerAll (hidle : ∀ state, others state state) {frames : List Frame} {written : List Bytes}
    {answers : WriteAnswers} {before after : τ} {result : List Bytes × Option TransportError}
    (h : (service.answerAll token written frames answers).Comes others before result after) (noted : Noted τ)
    (hstate : noted.state = before) :
    ∃ later, ((service.noted handle).answerAll token written frames answers).Comes (Unnoted others) noted result later
      ∧ later.state = after := by
  induction frames generalizing written answers before noted with
  | nil =>
    obtain ⟨rfl, rfl⟩ := h
    exact ⟨noted, ⟨rfl, rfl⟩, hstate⟩
  | cons frame rest ih =>
    rw [answerAll] at h
    obtain ⟨answer, middle, hanswer, hrest⟩ := Routine.comes_bind_iff.mp h
    obtain ⟨ended, hended, hsame⟩ := comes_noted_answer hidle hanswer noted hstate
    refine exists_comes_bind hended ?_
    cases answer with
    | silent => exact ih hrest ended hsame
    | refuse e =>
      obtain ⟨rfl, rfl⟩ := hrest
      exact ⟨ended, ⟨rfl, rfl⟩, hsame⟩
    | reply reply =>
      have hlimit : (service.noted handle).writeLimit = service.writeLimit := rfl
      dsimp only at hrest ⊢
      rw [hlimit]
      generalize Socket.sendBytes service.writeLimit answers.head?.toList.flatten reply.encode = sending at hrest ⊢
      obtain ⟨bytes, e | done⟩ := sending
      · obtain ⟨rfl, rfl⟩ := hrest
        exact ⟨ended, ⟨rfl, rfl⟩, hsame⟩
      -- notes are made beside the state, so the loop goes on as it does without them
      · exact ih hrest ended hsame

/-- Serving a chunk may come to the same with notes as without. -/
theorem comes_noted_received (hidle : ∀ state, others state state) {inbox : Inbox} {chunk : Bytes}
    {answers : WriteAnswers} {before after : τ} {reaction : Reaction}
    (h : (service.received token inbox chunk answers).Comes others before reaction after) (noted : Noted τ)
    (hstate : noted.state = before) :
    ∃ later, ((service.noted handle).received token inbox chunk answers).Comes (Unnoted others) noted reaction later
      ∧ later.state = after := by
  have hmax : (service.noted handle).maxFrame = service.maxFrame := rfl
  unfold received at h ⊢
  rw [hmax]
  generalize (inbox.push chunk).drain service.maxFrame = drained at h ⊢
  dsimp only at h ⊢
  cases hfailure : drained.failure with
  | some e =>
    rw [hfailure] at h
    obtain ⟨rfl, rfl⟩ := h
    exact ⟨noted, ⟨rfl, rfl⟩, hstate⟩
  | none =>
    rw [hfailure] at h
    obtain ⟨⟨written, failure⟩, middle, hanswered, rfl, rfl⟩ := Routine.comes_bind_iff.mp h
    obtain ⟨later, hlater, hsame⟩ := comes_noted_answerAll hidle hanswered noted hstate
    exact exists_comes_bind hlater ⟨later, ⟨rfl, rfl⟩, hsame⟩

end Erase

end FrameService

end EventBus
