import EventBus.Proofs.Host.Replies
import EventBus.Proofs.Reactor.Telling
import EventBus.Proofs.Server.Authority
import EventBus.Proofs.Wire.Fronts

/-!
# What a server answers

The frames of one connection, answered one after the other while nothing else goes on on the bus: each answer is that
of the state which the frames in front have left.

* `Responds`: what is answered to one frame, and what becomes of the server. One case for each sort of answer; where a
  frame is refused, nothing becomes of the server.
* `Serves`: the answers to a sequence of frames, up to the first one that is itself an answer, which ends the
  connection. `Serves.labels_eq`: which frames are answered, and by what.
* `alone_receiveAll_iff`: a server does with a stream exactly this, however it is cut into chunks.
-/

namespace EventBus

namespace Routine

variable {σ τ α : Type}

/-- Alone, a routine on a part of the state comes to what it comes to there. -/
theorem alone_within {get : τ → σ} {set : σ → τ → τ} (hget : ∀ part whole, get (set part whole) = part)
    (hset : ∀ part part' whole, set part (set part' whole) = set part whole) (routine : Routine σ α) {whole : τ}
    (hwhole : set (get whole) whole = whole) :
    (routine.within get set).alone whole
      = (routine.alone (get whole)).map fun (value, part) => (value, set part whole) := by
  induction routine generalizing whole with
  | done value =>
    show some (value, whole) = some (value, set (get whole) whole)
    rw [hwhole]
  | look next ih => exact ih (get whole) hwhole
  | put part rest ih =>
    show (rest.within get set).alone (set part whole) = _
    rw [ih (by rw [hget, hset]), hget, alone]
    simp only [hset]
  | stuck => rfl

end Routine

namespace Frame

/-- The sort of frame that a server answers this one with. -/
def answeredBy : Frame → Option String
  | hello .. => some "hello_ack"
  | request .. => some "reply"
  | push _ | helloAck _ | reply .. => none

end Frame

namespace FrameService

variable {τ : Type} (service : FrameService τ) {token : Token}

/-- While writing succeeds, frames are answered one by one. -/
theorem alone_answerAll_cons {answers : WriteAnswers}
    (hanswers : ∀ attempts ∈ answers, ∀ answer ∈ attempts, answer.getsOn) (written : List Bytes) (frame : Frame)
    (frames : List Frame) (s : τ) :
    (service.answerAll token written (frame :: frames) answers).alone s
      = ((service.answer token frame).alone s).bind fun (result, middle) =>
          match result with
          | .silent => (service.answerAll token written frames answers).alone middle
          | .refuse e => some ((written.reverse, some e), middle)
          | .reply reply => (service.answerAll token (reply.encode :: written) frames answers.tail).alone middle := by
  rw [answerAll, Routine.alone_bind]
  refine congrArg _ (funext fun answered => ?_)
  obtain ⟨result, middle⟩ := answered
  cases result with
  | silent | refuse => rfl
  | reply reply =>
    dsimp only
    -- the socket takes the whole reply, so the branch where sending fails is not taken
    rw [Socket.sendBytes_head_of_getsOn hanswers]

end FrameService

namespace Server

variable {c : Catalog} {σ : Type} {bus : Bus c σ}

/-! ## One frame -/

/-- What a server answers to a frame that is no answer itself, and its state behind it. -/
inductive Responds (raise : Bus.Raise bus) (token : Token) (s : State bus) : Frame → Option Frame → State bus → Prop where
  | greeted {id : SubscriberId} {name : String} {status : Status} {run : Bus.Run bus}
      (hverdict : s.run.handshake id name = (status, run)) :
    Responds raise token s (.hello id name) (some (.helloAck status)) (State.greet token id name status { s with run })
  | ignored {envelope : Envelope}
      (hrefused : s.binding? token ≠ some envelope.origin ∨ c.ofCode? envelope.code = none) :
    Responds raise token s (.push envelope) none s
  | pushed {envelope : Envelope} {kind : c.Kind} {answer : Status × EventOut} {run : Bus.Run bus}
      (hbound : s.binding? token = some envelope.origin) (hkind : c.ofCode? envelope.code = some kind)
      (hraised : (raise ⟨envelope.origin, kind, envelope.payload⟩ ⟨0, envelope.payload⟩).alone s.run
        = some (answer, run)) :
    Responds raise token s (.push envelope) none { s with run }
  | unauthorized {envelope : Envelope} {out : Option EventOut}
      (hrefused : s.binding? token ≠ some envelope.origin) :
    Responds raise token s (.request envelope out) (some (.reply .unauthorized none)) s
  | unknown {envelope : Envelope} {out : Option EventOut} (hbound : s.binding? token = some envelope.origin)
      (hcode : c.ofCode? envelope.code = none) :
    Responds raise token s (.request envelope out) (some (.reply .failure none)) s
  /-- The event is carried through its chain with the out-structure that came along, or with one as fresh as that of
  any raise. -/
  | requested {envelope : Envelope} {out : Option EventOut} {kind : c.Kind} {status : Status} {left : EventOut}
      {run : Bus.Run bus} (hbound : s.binding? token = some envelope.origin)
      (hkind : c.ofCode? envelope.code = some kind)
      (hraised : (raise ⟨envelope.origin, kind, envelope.payload⟩ (out.getD ⟨0, envelope.payload⟩)).alone s.run
        = some ((status, left), run)) :
    Responds raise token s (.request envelope out) (some (.reply status (some left))) { s with run }

variable {raise : Bus.Raise bus} {token : Token} {s s' : State bus}

/-- What is done on the bus changes the bus in the state of the server. -/
theorem alone_onBus {α : Type} (routine : Routine (Bus.Run bus) α) (s : State bus) :
    (onBus routine).alone s = (routine.alone s.run).map fun (value, run) => (value, { s with run }) := by
  rw [onBus, Routine.alone_within]
  · exact fun _ _ => rfl
  · exact fun _ _ _ => rfl
  · rfl

/-- Raising the event of an envelope, if its code is in the catalog. -/
theorem alone_raiseEnvelope (envelope : Envelope) (out : Option EventOut) (s : State bus) :
    (raiseEnvelope raise envelope out).alone s
      = match c.ofCode? envelope.code with
        | none => some (none, s)
        | some kind =>
          ((raise ⟨envelope.origin, kind, envelope.payload⟩ (out.getD ⟨0, envelope.payload⟩)).alone s.run).map
            fun (answer, run) => (some answer, { s with run }) := by
  rw [raiseEnvelope, Envelope.toEvent]
  cases c.ofCode? envelope.code with
  | none => rfl
  | some kind =>
    dsimp only
    rw [Routine.alone_bind, alone_onBus]
    show ((((raise ⟨envelope.origin, kind, envelope.payload⟩ (out.getD ⟨0, envelope.payload⟩)).alone s.run).map _).bind _)
      = _
    generalize (raise ⟨envelope.origin, kind, envelope.payload⟩ (out.getD ⟨0, envelope.payload⟩)).alone s.run = raised
    cases raised <;> rfl

/-- An announcement: the verdict of the bus, and the binding that it may lead to. -/
theorem alone_answer_hello (id : SubscriberId) (name : String) (s : State bus) :
    (answer raise token (.hello id name)).alone s
      = some (.reply (.helloAck (s.run.handshake id name).1),
        State.greet token id name (s.run.handshake id name).1 { s with run := (s.run.handshake id name).2 }) := rfl

/-- A push: raised in the bound name, or ignored. -/
theorem alone_answer_push (envelope : Envelope) (s : State bus) :
    (answer raise token (.push envelope)).alone s
      = if s.binding? token = some envelope.origin then
          ((raiseEnvelope raise envelope none).alone s).map fun (_, s) => (.silent, s)
        else some (.silent, s) := by
  rw [answer, Routine.alone_bind, Routine.alone_ask, Option.bind_some, State.mayRaise]
  dsimp only
  split
  · next hbound =>
    rw [if_pos (of_decide_eq_true hbound), Routine.alone_bind, Option.map_eq_bind]
    rfl
  · next hother =>
    rw [if_neg fun hbound => hother (decide_eq_true hbound)]
    rfl

/-- A request: raised in the bound name and answered, or refused. -/
theorem alone_answer_request (envelope : Envelope) (out : Option EventOut) (s : State bus) :
    (answer raise token (.request envelope out)).alone s
      = if s.binding? token = some envelope.origin then
          ((raiseEnvelope raise envelope out).alone s).map fun (answered, s) =>
            match answered with
            | some (status, left) => (.reply (.reply status (some left)), s)
            | none => (.reply (.reply .failure none), s)
        else some (.reply (.reply .unauthorized none), s) := by
  rw [answer, Routine.alone_bind, Routine.alone_ask, Option.bind_some, State.mayRaise]
  dsimp only
  split
  · next hbound =>
    rw [if_pos (of_decide_eq_true hbound), Routine.alone_bind, Option.map_eq_bind]
    refine congrArg _ (funext fun result => ?_)
    obtain ⟨answered, later⟩ := result
    cases answered <;> rfl
  · next hother =>
    rw [if_neg fun hbound => hother (decide_eq_true hbound)]
    rfl

/-- What answers an announcement is what `Responds` says. -/
theorem alone_answer_hello_iff {id : SubscriberId} {name : String} {result : Answer} :
    (answer raise token (.hello id name)).alone s = some (result, s')
      ↔ ∃ reply?, Responds raise token s (.hello id name) reply? s'
        ∧ result = (reply?.map Answer.reply).getD .silent := by
  rw [alone_answer_hello, Option.some.injEq, Prod.mk.injEq]
  constructor
  · rintro ⟨rfl, rfl⟩
    exact ⟨_, .greeted rfl, rfl⟩
  · rintro ⟨reply?, hresponds, rfl⟩
    cases hresponds with
    | greeted hverdict =>
      rw [hverdict]
      exact ⟨rfl, rfl⟩

theorem alone_answer_push_iff {envelope : Envelope} {result : Answer} :
    (answer raise token (.push envelope)).alone s = some (result, s')
      ↔ ∃ reply?, Responds raise token s (.push envelope) reply? s'
        ∧ result = (reply?.map Answer.reply).getD .silent := by
  rw [alone_answer_push, alone_raiseEnvelope]
  constructor
  · intro h
    split at h
    · next hbound =>
      cases hkind : c.ofCode? envelope.code with
      | none =>
        rw [hkind] at h
        cases h
        -- an event nobody knows is dropped without a word, as is one from a stranger
        exact ⟨none, .ignored (.inr hkind), rfl⟩
      | some kind =>
        rw [hkind] at h
        obtain ⟨⟨answered, later⟩, hanswered, hresult⟩ := Option.map_eq_some_iff.mp h
        obtain ⟨⟨raised, run⟩, hraised, hlater⟩ := Option.map_eq_some_iff.mp hanswered
        cases hresult
        cases hlater
        exact ⟨none, .pushed hbound hkind hraised, rfl⟩
    · next hother =>
      cases h
      exact ⟨none, .ignored (.inl hother), rfl⟩
  · rintro ⟨reply?, hresponds, rfl⟩
    cases hresponds with
    | ignored hrefused =>
      split
      · next hbound =>
        rw [hrefused.resolve_left (not_not_intro hbound)]
        rfl
      · rfl
    | pushed hbound hkind hraised =>
      rw [if_pos hbound, hkind]
      dsimp only [Option.getD_none]
      rw [hraised]
      rfl

/-- What answers a request is what `Responds` says. Of the three refusals each is decided in front of the next one. -/
theorem alone_answer_request_iff {envelope : Envelope} {out : Option EventOut} {result : Answer} :
    (answer raise token (.request envelope out)).alone s = some (result, s')
      ↔ ∃ reply?, Responds raise token s (.request envelope out) reply? s'
        ∧ result = (reply?.map Answer.reply).getD .silent := by
  rw [alone_answer_request, alone_raiseEnvelope]
  constructor
  · intro h
    split at h
    · next hbound =>
      cases hkind : c.ofCode? envelope.code with
      | none =>
        rw [hkind] at h
        cases h
        -- unlike a push, a request is answered whatever becomes of it
        exact ⟨_, .unknown hbound hkind, rfl⟩
      | some kind =>
        rw [hkind] at h
        obtain ⟨⟨answered, later⟩, hanswered, hresult⟩ := Option.map_eq_some_iff.mp h
        obtain ⟨⟨⟨status, left⟩, run⟩, hraised, hlater⟩ := Option.map_eq_some_iff.mp hanswered
        cases hlater
        cases hresult
        exact ⟨_, .requested hbound hkind hraised, rfl⟩
    · next hother =>
      cases h
      exact ⟨_, .unauthorized hother, rfl⟩
  · rintro ⟨reply?, hresponds, rfl⟩
    cases hresponds with
    | unauthorized hrefused => rw [if_neg hrefused]; rfl
    | unknown hbound hcode => rw [if_pos hbound, hcode]; rfl
    | requested hbound hkind hraised =>
      rw [if_pos hbound, hkind]
      dsimp only
      rw [hraised]
      rfl

/-- A frame that is an answer itself is refused. -/
theorem answer_of_isReply {frame : Frame} (hframe : frame.isReply) :
    answer raise token frame = pure (.refuse (.unexpectedFrame "hello, push or request" frame.label)) := by
  cases frame with
  | hello | push | request => cases hframe
  | helloAck | reply => rfl

/-- The answer to any other frame. -/
theorem alone_answer_iff {frame : Frame} (hframe : frame.isReply = false) {result : Answer} :
    (answer raise token frame).alone s = some (result, s')
      ↔ ∃ reply?, Responds raise token s frame reply? s' ∧ result = (reply?.map Answer.reply).getD .silent := by
  cases frame with
  | hello => exact alone_answer_hello_iff
  | push => exact alone_answer_push_iff
  | request => exact alone_answer_request_iff
  | helloAck | reply => cases hframe

/-- There is one, if all raises come to their end. -/
theorem isSome_alone_answer (hends : ∀ event out run, ((raise event out).alone run).isSome) {frame : Frame}
    (hframe : frame.isReply = false) (s : State bus) : ((answer raise token frame).alone s).isSome := by
  -- only what the bus does could fail to end
  have hraise : ∀ envelope out, ((raiseEnvelope raise envelope out).alone s).isSome := fun envelope out => by
    rw [alone_raiseEnvelope]
    split
    · rfl
    · rw [Option.isSome_map]
      exact hends _ _ _
  cases frame with
  | hello id name => rfl
  | helloAck | reply => cases hframe
  | push envelope =>
    rw [alone_answer_push]
    split
    · rw [Option.isSome_map]
      exact hraise envelope none
    · rfl
  | request envelope out =>
    rw [alone_answer_request]
    split
    · rw [Option.isSome_map]
      exact hraise envelope out
    · rfl

/-! ## A sequence of frames -/

/-- What a server answers to frames, each on the state that those in front have left, the failure that ends the
connection, if one does, and the state behind them. -/
inductive Serves (raise : Bus.Raise bus) (token : Token) :
    State bus → List Frame → List Frame → Option TransportError → State bus → Prop where
  | nil (s : State bus) : Serves raise token s [] [] none s
  | cons {s middle s' : State bus} {frame : Frame} {reply? : Option Frame} {frames replies : List Frame}
      {failure : Option TransportError} (hfirst : Responds raise token s frame reply? middle)
      (hrest : Serves raise token middle frames replies failure s') :
    Serves raise token s (frame :: frames) (reply?.toList ++ replies) failure s'
  /-- An answer ends the connection, and nothing behind it is looked at. -/
  | ended {s : State bus} {frame : Frame} {frames : List Frame} (hframe : frame.isReply) :
    Serves raise token s (frame :: frames) [] (some (.unexpectedFrame "hello, push or request" frame.label)) s

variable {frames replies : List Frame} {failure : Option TransportError}

/-- What has a response is not itself an answer. -/
theorem Responds.isReply_eq {frame : Frame} {reply? : Option Frame} (h : Responds raise token s frame reply? s') :
    frame.isReply = false := by
  cases h <;> rfl

/-- The response is of the sort that answers such a frame. -/
theorem Responds.label_eq {frame : Frame} {reply? : Option Frame} (h : Responds raise token s frame reply? s') :
    reply?.map Frame.label = frame.answeredBy := by
  cases h <;> rfl

/-- Exactly the frames in front of the first answer are answered, each with a frame of its sort or not at all. -/
theorem Serves.labels_eq (h : Serves raise token s frames replies failure s') :
    replies.map Frame.label = (frames.takeWhile fun frame => !frame.isReply).filterMap Frame.answeredBy
      ∧ failure = (frames.find? Frame.isReply).map fun frame =>
          .unexpectedFrame "hello, push or request" frame.label := by
  induction h with
  | nil => exact ⟨rfl, rfl⟩
  | @cons _ _ _ frame reply? frames replies failure hfirst _ ih =>
    obtain ⟨hlabels, hfailure⟩ := ih
    have hgoes := hfirst.isReply_eq
    have hlabel := hfirst.label_eq
    rw [List.find?_cons_of_neg (by simp [hgoes]), List.map_append, hlabels, List.takeWhile_cons, hgoes]
    refine ⟨?_, hfailure⟩
    -- a push adds no label on either side
    cases reply? with
    | none => exact (List.filterMap_cons_none hlabel.symm).symm
    | some reply => exact (List.filterMap_cons_some hlabel.symm).symm
  | ended hframe =>
    rw [List.find?_cons_of_pos hframe, List.takeWhile_cons, hframe]
    exact ⟨rfl, rfl⟩

/-- If all raises come to their end, the frames are served. -/
theorem exists_serves (hends : ∀ event out run, ((raise event out).alone run).isSome) (frames : List Frame)
    (s : State bus) : ∃ replies failure s', Serves raise token s frames replies failure s' := by
  induction frames generalizing s with
  | nil => exact ⟨[], none, s, .nil s⟩
  | cons frame frames ih =>
    by_cases hframe : frame.isReply
    · exact ⟨[], _, s, .ended hframe⟩
    · have hframe := eq_false_of_ne_true hframe
      obtain ⟨⟨result, middle⟩, hanswer⟩ := Option.isSome_iff_exists.mp (isSome_alone_answer hends hframe s)
      obtain ⟨reply?, hresponds, -⟩ := (alone_answer_iff hframe).mp hanswer
      obtain ⟨replies, failure, s', hserves⟩ := ih middle
      exact ⟨_, failure, s', .cons hresponds hserves⟩

/-- Frames are answered as `Serves` says, and what is answered is written. -/
theorem alone_answerAll_iff {cfg : Config} {answers : WriteAnswers}
    (hanswers : ∀ attempts ∈ answers, ∀ answer ∈ attempts, answer.getsOn) {written bytes : List Bytes} :
    ((service cfg raise).answerAll token written frames answers).alone s = some ((bytes, failure), s')
      ↔ ∃ replies, Serves raise token s frames replies failure s'
        ∧ bytes = written.reverse ++ replies.map Frame.encode := by
  -- on the frames that are left, with the state that the ones before have led to
  induction frames generalizing s written answers with
  | nil =>
    rw [FrameService.answerAll, Routine.alone_pure, Option.some.injEq, Prod.mk.injEq, Prod.mk.injEq]
    constructor
    · rintro ⟨⟨rfl, rfl⟩, rfl⟩
      exact ⟨[], .nil s, by simp⟩
    · rintro ⟨replies, hserves, rfl⟩
      cases hserves
      simp
  | cons frame frames ih =>
    have htail : ∀ attempts ∈ answers.tail, ∀ answer ∈ attempts, answer.getsOn :=
      fun attempts hmem => hanswers attempts (List.mem_of_mem_tail hmem)
    have hservice : (service cfg raise).answer token frame = answer raise token frame := rfl
    rw [FrameService.alone_answerAll_cons _ hanswers, hservice, Option.bind_eq_some_iff]
    by_cases hframe : frame.isReply
    · rw [answer_of_isReply hframe, Routine.alone_pure]
      constructor
      · rintro ⟨_, hfirst, hrest⟩
        cases hfirst
        cases hrest
        exact ⟨[], .ended hframe, by simp⟩
      · rintro ⟨replies, hserves, rfl⟩
        cases hserves with
        | cons hfirst => rw [hfirst.isReply_eq] at hframe; cases hframe
        | ended => exact ⟨_, rfl, by simp⟩
    · have hframe := eq_false_of_ne_true hframe
      constructor
      · rintro ⟨⟨result, middle⟩, hfirst, hrest⟩
        obtain ⟨reply?, hresponds, rfl⟩ := (alone_answer_iff hframe).mp hfirst
        -- what is written for this frame stands in front of what is written for the later ones
        cases reply? with
        | none =>
          obtain ⟨replies, hserves, rfl⟩ := (ih hanswers).mp hrest
          exact ⟨replies, .cons hresponds hserves, rfl⟩
        | some reply =>
          obtain ⟨replies, hserves, rfl⟩ := (ih htail).mp hrest
          exact ⟨reply :: replies, .cons hresponds hserves, by simp⟩
      · rintro ⟨replies, hserves, rfl⟩
        cases hserves with
        | ended hreply => rw [hframe] at hreply; cases hreply
        | @cons _ middle _ _ reply? _ replies _ hresponds hserves =>
          refine ⟨_, (alone_answer_iff hframe).mpr ⟨reply?, hresponds, rfl⟩, ?_⟩
          cases reply? with
          | none => exact (ih hanswers).mpr ⟨replies, hserves, rfl⟩
          | some reply => exact (ih htail).mpr ⟨replies, hserves, by simp⟩

end Server

/-! ## The end of a connection -/

/-- When what a chunk led to is a failure, what was written is handed out, and then the connection is closed. -/
theorem Reactor.closed_of_failure {τ : Type} {service : Service τ} {r served : Reactor τ} {worker : Nat} {token : Token}
    {reaction : Reaction} (hworker : r.workers[worker]? = some (.serving token (.done reaction)))
    (hfailure : reaction.failure.isSome) (hserve : r.step? service (.serve worker) = some served) :
    ∃ left, served.step? service (.leave worker) = some left ∧ left.connection? token = none := by
  have hserve : (r.connection? token).map (fun conn => (r.conclude token conn reaction).setWorker worker
      (if reaction.failure.isNone then .checking token else .leaving token)) = some served := by
    rw [← hserve]
    simp only [step?, workerStep?, hworker]
  obtain ⟨conn, -, rfl⟩ := Option.map_eq_some_iff.mp hserve
  have hnext : (if reaction.failure.isNone then .checking token else .leaving token : Worker τ) = .leaving token :=
    if_neg (by simp [Option.isNone_iff_eq_none, Option.isSome_iff_ne_none.mp hfailure])
  have hkept : (r.conclude token conn reaction).workers[worker]? = some (.serving token (.done reaction)) := by
    rw [(sameTold_conclude token conn reaction r).workers]
    exact hworker
  rw [hnext]
  exact ⟨_, step?_leave service (getElem?_setWorker_self hkept _), (connection?_tearDown service _ _ _).trans (if_pos rfl)⟩

namespace Server

variable {c : Catalog} {σ : Type} {bus : Bus c σ}

/-! ## A stream of frames -/

/-- What a server does with a stream on a connection while nothing else goes on on its bus. -/
structure AnswersInOrder (bus : Bus c σ) (cfg : Config) (env : Environment σ) (depth : Nat) (token : Token)
    (chunks : List Bytes) (frames : List Frame) (answers : WriteAnswers) : Prop where
  /-- It writes the answers that `Serves` says to the frames, and becomes what they make of it. -/
  served : ∀ (s : State bus) written failure s',
    ((service cfg (Bus.dispatch env depth)).receiveAll token .empty chunks answers).alone s = some ((written, failure), s')
      ↔ ∃ replies, Serves (Bus.dispatch env depth) token s frames replies failure s' ∧ written = replies.map Frame.encode
  /-- Each announcement is answered with a verdict, each request with a reply and a push with nothing, in this order and
  up to the first frame that is itself an answer. -/
  sorts : ∀ (s : State bus) replies failure s', Serves (Bus.dispatch env depth) token s frames replies failure s' →
    replies.map Frame.label = (frames.takeWhile fun frame => !frame.isReply).filterMap Frame.answeredBy
      ∧ failure = (frames.find? Frame.isReply).map fun frame =>
          .unexpectedFrame "hello, push or request" frame.label
  /-- It comes to its end if dispatches do. -/
  ends : (∀ event out (run : Bus.Run bus), ((Bus.dispatch env depth event out).alone run).isSome) → ∀ s : State bus,
    (((service cfg (Bus.dispatch env depth)).receiveAll token .empty chunks answers).alone s).isSome
  /-- A chunk that leads to a failure is the last one: the connection is closed. -/
  closes : ∀ {r served : Reactor (State bus)} {worker token reaction},
    r.workers[worker]? = some (.serving token (.done reaction)) → reaction.failure.isSome →
    r.step? (service cfg (Bus.dispatch env depth)).toService (.serve worker) = some served →
    ∃ left, served.step? (service cfg (Bus.dispatch env depth)).toService (.leave worker) = some left
      ∧ left.connection? token = none

/-- **Answers.** While writing gets on, a server answers the frames of a stream in their order, each as the frames in
front have left the bus; and any frames that fit are the frames of the stream of their encodings. -/
theorem answers_in_order (bus : Bus c σ) (cfg : Config) (env : Environment σ) (depth : Nat) (token : Token)
    {chunks : List Bytes} {frames : List Frame} {rest : Bytes}
    (hstream : Frame.drain cfg.maxFrame chunks.flatten = ⟨frames, none, rest⟩) {answers : WriteAnswers}
    (hanswers : ∀ attempts ∈ answers, ∀ answer ∈ attempts, answer.getsOn) :
    AnswersInOrder bus cfg env depth token chunks frames answers
      ∧ ∀ sent : List Frame, (∀ frame ∈ sent, frame.body.length ≤ min cfg.maxFrame Bytes.maxLength) →
        Frame.drain cfg.maxFrame (sent.flatMap Frame.encode) = ⟨sent.map Frame.asSent, none, []⟩ := by
  -- the stream has no failure, so receiving the chunks is answering their frames
  have hserved : ∀ (s : State bus) written failure s',
      ((service cfg (Bus.dispatch env depth)).receiveAll token .empty chunks answers).alone s
          = some ((written, failure), s')
        ↔ ∃ replies, Serves (Bus.dispatch env depth) token s frames replies failure s'
          ∧ written = replies.map Frame.encode := by
    intro s written failure s'
    rw [FrameService.receiveAll_of_none hstream, alone_answerAll_iff hanswers]
    simp only [List.reverse_nil, List.nil_append]
  refine ⟨⟨hserved, fun s replies failure s' h => h.labels_eq, fun hends s => ?_,
    fun hworker hfailure hserve => Reactor.closed_of_failure hworker hfailure hserve⟩,
    fun sent hfits => Frame.drain_flatMap_encode hfits⟩
  obtain ⟨replies, failure, s', hserves⟩ := exists_serves hends frames s
  exact Option.isSome_iff_exists.mpr ⟨_, (hserved s _ failure s').mpr ⟨replies, hserves, rfl⟩⟩

/-! ## All sorts of answers -/

/-- What a peer sends: a request before it announces itself, requests and a push behind that, one request
with an unknown code and one in another's name, and a frame that ends the connection. -/
def mixedFrames : List Frame :=
  [.request ⟨.ofName "ext", 28, []⟩ none, .hello (.ofName "ext") "ext", .request ⟨.ofName "ext", 28, [1]⟩ none,
    .push ⟨.ofName "ext", 28, []⟩, .request ⟨.ofName "ext", 0, []⟩ none, .request ⟨.ofName "sink", 28, []⟩ none,
    .helloAck .ok, .hello (.ofName "ext") "ext"]

/-- The stream of these frames, cut in the middle of one. -/
def mixedChunks : List Bytes :=
  [(mixedFrames.flatMap Frame.encode).take 30, (mixedFrames.flatMap Frame.encode).drop 30]

/-- Each frame that is no answer and no push is answered, the second request as an event that was carried through its
chain. -/
theorem mixedFrames_answers_in_order :
    Frame.drain 1024 mixedChunks.flatten = ⟨mixedFrames, none, []⟩
      ∧ AnswersInOrder extSinkBus { maxFrame := 1024 } (Trial.deserted .component) 1 1 mixedChunks mixedFrames
        [[.interrupted]]
      ∧ ∃ replies s', Serves (Bus.dispatch (Trial.deserted .component) 1) 1 { run := extSinkBus.start { net := () } }
          mixedFrames replies (some (.unexpectedFrame "hello, push or request" "hello_ack")) s'
        ∧ replies.map Frame.encode = List.map Frame.encode
          [.reply .unauthorized none, .helloAck .ok, .reply .ok (some ⟨0, [1]⟩), .reply .failure none,
            .reply .unauthorized none] := by
  have hfits : ∀ frame ∈ mixedFrames, frame.body.length ≤ min 1024 Bytes.maxLength := by decide +kernel
  have hstream : Frame.drain 1024 mixedChunks.flatten = ⟨mixedFrames, none, []⟩ := by
    have hsame : mixedFrames.map Frame.asSent = mixedFrames := by decide +kernel
    have hchunks : mixedChunks.flatten = mixedFrames.flatMap Frame.encode := by simp [mixedChunks]
    rw [hchunks, Frame.drain_flatMap_encode hfits, hsame]
  have hanswers : ∀ attempts ∈ [[WriteAnswer.interrupted]], ∀ answer ∈ attempts, answer.getsOn := by decide
  have hanswered :=
    (answers_in_order extSinkBus { maxFrame := 1024 } (Trial.deserted .component) 1 1 hstream hanswers).1
  -- what is computed is what is written; the replies behind it are had from the theorem
  have hresult : (((service { maxFrame := 1024 } (Bus.dispatch (Trial.deserted .component) 1)).receiveAll 1 .empty
      mixedChunks [[.interrupted]]).alone { run := extSinkBus.start { net := () } }).map Prod.fst
      = some ((List.map Frame.encode [.reply .unauthorized none, .helloAck .ok, .reply .ok (some ⟨0, [1]⟩),
        .reply .failure none, .reply .unauthorized none]),
        some (.unexpectedFrame "hello, push or request" "hello_ack")) := by
    decide +kernel
  obtain ⟨⟨result, s'⟩, halone, rfl⟩ := Option.map_eq_some_iff.mp hresult
  obtain ⟨replies, hserves, hwritten⟩ := (hanswered.served _ _ _ _).mp halone
  exact ⟨hstream, hanswered, replies, s', hserves, hwritten.symm⟩

end Server

end EventBus
