import EventBus.Proofs.Service.Noted

/-!
# Writing, attempt by attempt

What is on the wire of a connection while a chunk is served there, at every instant of it.

* `Socket.sendBytes_eq_ok_iff`: a write succeeds exactly if all bytes were written.
* `Wired`, `FrameService.receiveInTurns`: a service with what it answered on a connection and what the socket took
  there. Each attempt to write is a turn of its own, so that others go on while a write waits, and a handler that never
  comes to its end leaves what was written before.
* `meets_receiveInTurns`: at every turn first bytes of the replies are on the wire, and all of them unless a failure
  ends the connection.
* `comes_receiveInTurns`: whatever serving a chunk may come to, it may come to in these turns, with the same bytes.
* `Rests.reacts`: so what serving a chunk writes is again a first part of the replies, and all of them without a
  failure.
-/

namespace EventBus

/-- What a routine may come to among other threads is within what it promises. -/
theorem Routine.Meets.of_comes {σ α : Type} {rely guar others : σ → σ → Prop} {post : α → σ → Prop}
    {routine : Routine σ α} {state later : σ} {value : α} (h : routine.Meets rely guar post state)
    (hcomes : routine.Comes others state value later) (hothers : ∀ s t, others s t → rely s t) : post value later := by
  induction routine generalizing state with
  | done result =>
    obtain ⟨rfl, rfl⟩ := hcomes
    exact h
  | look next ih => exact ih state h hcomes
  | put left rest ih =>
    obtain ⟨found, hfound, hrest⟩ := hcomes
    exact ih (h.2 found (hothers left found hfound)) hrest
  | stuck => exact hcomes.elim

/-! ## One write -/

namespace Socket

/-- A write succeeds exactly if all bytes were written. -/
theorem sendBytes_eq_ok_iff (limit : Duration) (attempts : List WriteAnswer) (bytes : Bytes) :
    (sendBytes limit attempts bytes).2 = .ok () ↔ (sendBytes limit attempts bytes).1 = bytes := by
  refine ⟨fun hok => ?_, fun hall => ?_⟩
  · obtain ⟨-, hwhole⟩ := sendBytes_prefix limit attempts bytes
    exact hwhole hok
  -- on the attempts; each one takes bytes, waits or fails, and only the last leaves bytes behind
  induction attempts generalizing bytes with
  | nil => cases bytes <;> rfl
  | cons attempt attempts ih =>
    cases bytes with
    | nil => rfl
    | cons byte rest =>
      cases attempt with
      | interrupted => exact ih (byte :: rest) hall
      | fails e => cases hall
      | full expired =>
        cases expired with
        | true => cases hall
        | false => exact ih (byte :: rest) hall
      | takes n =>
        cases n with
        | zero => cases hall
        | succ n =>
          -- what the other attempts wrote is all that this one left
          have hparts := List.take_append_drop (n + 1) (byte :: rest)
          exact ih ((byte :: rest).drop (n + 1)) (List.append_cancel_left (hall.trans hparts.symm))

end Socket

/-- The state of a service with what it answered on a connection, and what the socket took there. -/
structure Wired (τ : Type) where
  state : τ
  answered : List Answer := []
  wire : Bytes := []

namespace Wired

variable {τ : Type} {s t u : Wired τ}

/-- Another state with the same answers and the same bytes on the wire. -/
def setState (state : τ) (wired : Wired τ) : Wired τ :=
  { wired with state }

/-- An answer more that the service has come to. -/
def answer (answer : Answer) (wired : Wired τ) : Wired τ :=
  { wired with answered := wired.answered ++ [answer] }

/-- Bytes that the socket has taken. -/
def take (bytes : Bytes) (wired : Wired τ) : Wired τ :=
  { wired with wire := wired.wire ++ bytes }

/-- Nothing is answered or taken. -/
structure Keeps (s t : Wired τ) : Prop where
  answered : t.answered = s.answered
  wire : t.wire = s.wire

theorem Keeps.refl (s : Wired τ) : Keeps s s := ⟨rfl, rfl⟩

theorem Keeps.trans (h : Keeps s t) (h' : Keeps t u) : Keeps s u :=
  ⟨h'.answered.trans h.answered, h'.wire.trans h.wire⟩

/-- Other threads do to the state what they may. -/
structure Apart (others : τ → τ → Prop) (s t : Wired τ) : Prop where
  state : others s.state t.state
  keeps : Keeps s t

end Wired

variable {τ : Type}

/-- `sendBytes` in turns: one for each attempt, in which the socket takes what it takes. -/
def Socket.sendInTurns (limit : Duration) : List WriteAnswer → Bytes → Routine (Wired τ) (Except TransportError Unit)
  | _, [] => pure (.ok ())
  | [], bytes => do
    .change (Wired.take bytes)
    return .ok ()
  | .takes 0 :: _, _ => pure (.error .connectionClosed)
  | .takes n :: attempts, bytes => do
    .change (Wired.take (bytes.take n))
    sendInTurns limit attempts (bytes.drop n)
  | .interrupted :: attempts, bytes => do
    .change id
    sendInTurns limit attempts bytes
  | .full false :: attempts, bytes => do
    .change id
    sendInTurns limit attempts bytes
  | .full true :: _, _ => pure (.error (.timeout limit))
  | .fails e :: _, _ => pure (.error (.io e))

namespace FrameService

/-- `answerAll` with these turns. -/
def answerInTurns (service : FrameService τ) (token : Token) :
    List Frame → WriteAnswers → Routine (Wired τ) (Option TransportError)
  | [], _ => pure none
  | frame :: rest, answers => do
    let answer ← (service.answer token frame).within Wired.state Wired.setState
    .change (Wired.answer answer)
    match answer with
    | .silent => answerInTurns service token rest answers
    | .refuse e => return some e
    | .reply reply =>
      match ← Socket.sendInTurns service.writeLimit answers.head?.toList.flatten reply.encode with
      | .ok () => answerInTurns service token rest answers.tail
      | .error e => return some e

/-- `received` with these turns: the inbox that is left, and the failure that ends the connection. -/
def receiveInTurns (service : FrameService τ) (token : Token) (inbox : Inbox) (chunk : Bytes) (answers : WriteAnswers) :
    Routine (Wired τ) (Inbox × Option TransportError) := do
  let drained := (inbox.push chunk).drain service.maxFrame
  match drained.failure with
  | some e => return (drained.inbox, some e)
  | none =>
    let failure ← service.answerInTurns token drained.frames answers
    return (drained.inbox, failure)

/-! ## What is on the wire -/

/-- Some answers are those to the first of some frames, and some bytes are first bytes of the replies among them. -/
structure Follows (service : FrameService τ) (frames : List Frame) (answers : List Answer) (bytes : Bytes) : Prop where
  gives : List.Forall₂ service.Gives (frames.take answers.length) answers
  bytes : bytes <+: Answer.allBytes answers

/-- Some answers are those to all of some frames, and some bytes are all replies among them. -/
structure Completes (service : FrameService τ) (frames : List Frame) (answers : List Answer) (bytes : Bytes) :
    Prop where
  gives : List.Forall₂ service.Gives frames answers
  bytes : bytes = Answer.allBytes answers

/-- What a turn leads to. -/
structure Forwards (service : FrameService τ) (frames : List Frame) (s t : Wired τ) : Prop where
  answered : s.answered <+: t.answered
  wire : s.wire <+: t.wire
  follows : service.Follows frames t.answered t.wire

variable {service : FrameService τ} {frames front rest : List Frame} {s : Wired τ}

/-- Answers to the first of some frames are answers to them when more frames come. -/
theorem gives_take_append {answers : List Answer} (h : List.Forall₂ service.Gives front answers) (rest : List Frame) :
    List.Forall₂ service.Gives ((front ++ rest).take answers.length) answers := by
  rwa [← h.length_eq, List.take_left]

/-- Where every frame is answered and all of that is on the wire, first bytes of it are. -/
theorem Completes.follows {answers : List Answer} {bytes : Bytes} (h : service.Completes front answers bytes)
    (rest : List Frame) : service.Follows (front ++ rest) answers bytes :=
  ⟨gives_take_append h.gives rest, h.bytes ▸ List.prefix_refl _⟩

/-- More frames behind those that were answered. -/
theorem Follows.mono {frames' : List Frame} {answers : List Answer} {bytes : Bytes}
    (h : service.Follows frames answers bytes) (hmore : frames <+: frames') :
    service.Follows frames' answers bytes := by
  obtain ⟨more, rfl⟩ := hmore
  have hlength := h.gives.length_eq
  rw [List.length_take] at hlength
  refine ⟨?_, h.bytes⟩
  rw [List.take_append_of_le_length (by omega)]
  exact h.gives

/-- What a service does to its own state answers nothing and writes nothing. -/
theorem meets_within_wired {α : Type} (routine : Routine τ α) (s : Wired τ)
    (hfollows : service.Follows frames s.answered s.wire) :
    (routine.within Wired.state Wired.setState).Meets Wired.Keeps (service.Forwards frames)
      (fun value later => Wired.Keeps s later ∧ ∃ after, routine.Comes (fun _ _ => True) s.state value after) s := by
  induction routine generalizing s with
  | done value => exact ⟨.refl s, s.state, rfl, rfl⟩
  | look next ih => exact ih s.state s hfollows
  | put left rest ih =>
    refine ⟨⟨List.prefix_refl _, List.prefix_refl _, hfollows⟩, fun found hfound => ?_⟩
    have hkeeps : Wired.Keeps s found := ⟨hfound.answered, hfound.wire⟩
    -- others leave the wire and the answers of this connection alone
    have hfollows' : service.Follows frames found.answered found.wire := by
      rw [hkeeps.answered, hkeeps.wire]
      exact hfollows
    refine (ih found hfollows').mono (fun _ _ hturn => hturn) ?_
    rintro value later ⟨hlater, after, hcomes⟩
    exact ⟨hkeeps.trans hlater, after, found.state, trivial, hcomes⟩
  | stuck => trivial

/-- What a write comes to: all replies are on the wire exactly if it succeeds. -/
structure Sent (answers : List Answer) (result : Except TransportError Unit) (later : Wired τ) : Prop where
  answered : later.answered = answers
  wire : later.wire <+: Answer.allBytes answers
  ok_iff : result = .ok () ↔ later.wire = Answer.allBytes answers

variable {answers : List Answer} {bytes : Bytes}

/-- An attempt in which the socket takes a first part of what is left. -/
theorem meets_attempt (first last : Bytes) {act : Wired τ → Wired τ}
    {next : Unit → Routine (Wired τ) (Except TransportError Unit)}
    (hgives : List.Forall₂ service.Gives (frames.take answers.length) answers) (hanswered : s.answered = answers)
    (hrest : s.wire ++ (first ++ last) = Answer.allBytes answers) (hact : act s = s.take first)
    (hnext : ∀ found : Wired τ, found.answered = answers → found.wire ++ last = Answer.allBytes answers →
      (next ()).Meets Wired.Keeps (service.Forwards frames) (Sent answers) found) :
    (Routine.change act >>= next).Meets Wired.Keeps (service.Forwards frames) (Sent answers) s := by
  rw [← List.append_assoc] at hrest
  refine Routine.meets_bind_iff.mpr (Routine.meets_change_iff.mpr ?_)
  rw [hact]
  -- no answer is added by the attempt, and the wire still lacks the last part of them
  refine ⟨⟨List.prefix_refl _, List.prefix_append _ _, ?_⟩, fun found hfound => ?_⟩
  · show service.Follows frames s.answered (s.wire ++ first)
    rw [hanswered]
    exact ⟨hgives, last, hrest⟩
  · refine hnext found (hfound.answered.trans hanswered) ?_
    rw [hfound.wire]
    exact hrest

/-- A write of what is left of the replies. -/
theorem meets_sendInTurns (limit : Duration) (attempts : List WriteAnswer)
    (hgives : List.Forall₂ service.Gives (frames.take answers.length) answers) (hanswered : s.answered = answers)
    (hrest : s.wire ++ bytes = Answer.allBytes answers) :
    (Socket.sendInTurns limit attempts bytes).Meets Wired.Keeps (service.Forwards frames) (Sent answers) s := by
  -- a write of nothing has nothing to do
  have hnothing : ∀ {s : Wired τ}, s.answered = answers → s.wire ++ [] = Answer.allBytes answers →
      (pure (.ok ()) : Routine (Wired τ) (Except TransportError Unit)).Meets Wired.Keeps (service.Forwards frames)
        (Sent answers) s := by
    intro s hanswered hrest
    rw [List.append_nil] at hrest
    exact ⟨hanswered, hrest ▸ List.prefix_refl _, iff_of_true rfl hrest⟩
  induction attempts generalizing bytes s with
  | nil =>
    cases bytes with
    | nil => exact hnothing hanswered hrest
    | cons byte rest =>
      exact meets_attempt (byte :: rest) [] hgives hanswered (by rwa [List.append_nil]) rfl fun found => hnothing
  | cons attempt attempts ih =>
    cases bytes with
    | nil =>
      rw [Socket.sendInTurns]
      exact hnothing hanswered hrest
    | cons byte rest =>
      -- an attempt that ends the write leaves bytes behind
      have hends : ∀ e : TransportError, Sent answers (.error e) s := by
        refine fun e => ⟨hanswered, ⟨_, hrest⟩, iff_of_false nofun fun hall => ?_⟩
        rw [← hrest] at hall
        exact List.cons_ne_nil byte rest (List.self_eq_append_right.mp hall)
      have hwaits : (Routine.change id >>= fun _ => Socket.sendInTurns limit attempts (byte :: rest)).Meets
          Wired.Keeps (service.Forwards frames) (Sent answers) s := by
        refine meets_attempt [] (byte :: rest) hgives hanswered hrest ?_ fun found hfound => ih hfound
        rw [id, Wired.take, List.append_nil]
      cases attempt with
      | interrupted => exact hwaits
      | fails e => exact hends (.io e)
      | full expired =>
        cases expired with
        | true => exact hends (.timeout limit)
        | false => exact hwaits
      | takes n =>
        cases n with
        | zero => exact hends .connectionClosed
        | succ n =>
          have hparts := List.take_append_drop (n + 1) (byte :: rest)
          exact meets_attempt _ _ hgives hanswered (by rwa [hparts]) rfl fun found hfound => ih hfound

/-- What is left when frames have been answered. -/
structure Leads (service : FrameService τ) (frames : List Frame) (failure : Option TransportError) (later : Wired τ) :
    Prop where
  follows : service.Follows frames later.answered later.wire
  completes : failure = none → service.Completes frames later.answered later.wire

/-- A failure behind the first of some frames. -/
theorem leads_of_failure {later : Wired τ} (e : TransportError)
    (hgives : List.Forall₂ service.Gives front later.answered) (hwire : later.wire <+: Answer.allBytes later.answered)
    (rest : List Frame) : service.Leads (front ++ rest) (some e) later :=
  ⟨⟨gives_take_append hgives rest, hwire⟩, nofun⟩

/-- One more frame is answered, and the answer not yet written. -/
theorem Completes.answer {frame : Frame} {answer : Answer} {ended : Wired τ}
    (h : service.Completes front s.answered s.wire) (hgives : service.Gives frame answer) (hended : Wired.Keeps s ended) :
    List.Forall₂ service.Gives (front ++ [frame]) (ended.answer answer).answered
      ∧ (ended.answer answer).wire ++ answer.bytes = Answer.allBytes (ended.answer answer).answered := by
  rw [Wired.answer]
  dsimp only
  rw [hended.answered, hended.wire, Answer.allBytes_concat, h.bytes]
  exact ⟨List.rel_append h.gives (.cons hgives .nil), rfl⟩

/-- While frames are answered, the wire has first bytes of their replies at every turn, and all of the replies after
each frame. -/
theorem meets_answerInTurns (token : Token) (rest : List Frame) (answers : WriteAnswers)
    (h : service.Completes front s.answered s.wire) :
    (service.answerInTurns token rest answers).Meets Wired.Keeps (service.Forwards (front ++ rest))
      (service.Leads (front ++ rest)) s := by
  -- on the frames that are left; the answers before them are complete, and all of them are on the wire
  induction rest generalizing front answers s with
  | nil =>
    rw [List.append_nil]
    exact ⟨List.append_nil front ▸ h.follows [], fun _ => h⟩
  | cons frame rest ih =>
    rw [answerInTurns]
    refine Routine.meets_bind_iff.mpr ((meets_within_wired (service.answer token frame) s (h.follows _)).mono
      (fun _ _ hturn => hturn) ?_)
    rintro answer ended ⟨hended, after, hcomes⟩
    -- the answer is noted before any of it is written
    obtain ⟨hgives, hbytes⟩ := h.answer ⟨token, s.state, after, hcomes⟩ hended
    have hassoc : front ++ frame :: rest = (front ++ [frame]) ++ rest := by simp
    rw [hassoc]
    refine Routine.meets_bind_iff.mpr (Routine.meets_change_iff.mpr ⟨?_, fun found hfound => ?_⟩)
    · exact ⟨List.prefix_append _ _, List.prefix_refl _, gives_take_append hgives rest, _, hbytes⟩
    · rw [← hfound.answered] at hgives hbytes
      rw [← hfound.wire] at hbytes
      cases answer with
      | silent => exact ih answers ⟨hgives, (List.append_nil _).symm.trans hbytes⟩
      | refuse e => exact leads_of_failure e hgives ⟨_, hbytes⟩ rest
      | reply reply =>
        have hsent := meets_sendInTurns service.writeLimit answers.head?.toList.flatten (gives_take_append hgives rest)
          rfl hbytes
        refine Routine.meets_bind_iff.mpr (hsent.mono (fun _ _ hturn => hturn) fun result later hlater => ?_)
        obtain ⟨hanswered, hwire, hok⟩ := hlater
        rw [← hanswered] at hgives hwire hok
        cases result with
        | error e => exact leads_of_failure e hgives hwire rest
        | ok => exact ih answers.tail ⟨hgives, hok.mp rfl⟩

/-- What serving a chunk comes to: the inbox that is left and the failure that ends the connection. -/
structure Received (service : FrameService τ) (arrived : Bytes) (result : Inbox × Option TransportError)
    (later : Wired τ) : Prop where
  leads : service.Leads (Frame.drain service.maxFrame arrived).frames result.2 later
  sound : result.2 = none → (Frame.drain service.maxFrame arrived).failure = none
  inbox : result.2 = none → result.1.bytes = (Frame.drain service.maxFrame arrived).rest

/-- A chunk on a connection on which everything that had arrived was answered. -/
theorem meets_receiveInTurns (token : Token) {arrived : Bytes} {inbox : Inbox}
    (hsound : (Frame.drain service.maxFrame arrived).failure = none)
    (hinbox : inbox.bytes = (Frame.drain service.maxFrame arrived).rest)
    (h : service.Completes (Frame.drain service.maxFrame arrived).frames s.answered s.wire) (chunk : Bytes)
    (answers : WriteAnswers) :
    (service.receiveInTurns token inbox chunk answers).Meets Wired.Keeps
      (service.Forwards (Frame.drain service.maxFrame (arrived ++ chunk)).frames)
      (service.Received (arrived ++ chunk)) s := by
  have hdrained := drain_push chunk hsound hinbox
  generalize hlater : (inbox.push chunk).drain service.maxFrame = drained at hdrained
  unfold receiveInTurns
  rw [hlater]
  dsimp only
  split
  · next e hfailure =>
    -- a chunk with a malformed frame is given up before anything of it is answered
    refine ⟨⟨?_, nofun⟩, nofun, nofun⟩
    rw [hdrained]
    exact h.follows drained.frames
  · next hfailure =>
    have hanswered := meets_answerInTurns token drained.frames answers h
    rw [hdrained]
    refine Routine.meets_bind_iff.mpr (hanswered.mono (fun _ _ hturn => hturn) fun failure later hleads => ?_)
    refine ⟨?_, fun _ => ?_, fun _ => ?_⟩
    · rw [hdrained]
      exact hleads
    · rw [hdrained]
      exact hfailure
    · rw [hdrained]

/-! ## What the turns leave alone -/

section Erase

variable {others : τ → τ → Prop} {token : Token}

/-- Others may do nothing, if they may leave the state as it is. -/
theorem Wired.apart_self (hidle : ∀ state, others state state) (s : Wired τ) : Wired.Apart others s s :=
  ⟨hidle s.state, .refl s⟩

/-- Bytes that are taken in two attempts are the bytes of both. -/
theorem Wired.take_take (first last : Bytes) (s : Wired τ) : (s.take first).take last = s.take (first ++ last) := by
  unfold Wired.take
  rw [← List.append_assoc]

/-- A write in turns comes to what the write comes to. -/
theorem comes_sendInTurns (hidle : ∀ state, others state state) (limit : Duration) (attempts : List WriteAnswer)
    (bytes : Bytes) (s : Wired τ) :
    (Socket.sendInTurns limit attempts bytes).Comes (Wired.Apart others) s (Socket.sendBytes limit attempts bytes).2
      (s.take (Socket.sendBytes limit attempts bytes).1) := by
  have hnothing : s = s.take [] := by rw [Wired.take, List.append_nil]
  induction attempts generalizing bytes s with
  | nil =>
    cases bytes with
    | nil => exact ⟨rfl, hnothing.symm⟩
    | cons byte rest => exact ⟨_, Wired.apart_self hidle _, rfl, rfl⟩
  | cons attempt attempts ih =>
    cases bytes with
    | nil =>
      rw [Socket.sendInTurns, Socket.sendBytes]
      exact ⟨rfl, hnothing.symm⟩
    | cons byte rest =>
      -- an attempt that takes nothing is a turn in which only others go on
      have hwaits : (Routine.change id >>= fun _ => Socket.sendInTurns limit attempts (byte :: rest)).Comes
          (Wired.Apart others) s (Socket.sendBytes limit attempts (byte :: rest)).2
          (s.take (Socket.sendBytes limit attempts (byte :: rest)).1) :=
        Routine.comes_change_bind_iff.mpr ⟨s, Wired.apart_self hidle s, ih (byte :: rest) s hnothing⟩
      cases attempt with
      | interrupted => exact hwaits
      | fails e => exact ⟨rfl, hnothing.symm⟩
      | full expired =>
        cases expired with
        | true => exact ⟨rfl, hnothing.symm⟩
        | false => exact hwaits
      | takes n =>
        cases n with
        | zero => exact ⟨rfl, hnothing.symm⟩
        | succ n =>
          have htaken := ih ((byte :: rest).drop (n + 1)) (s.take ((byte :: rest).take (n + 1)))
            (by rw [Wired.take_take, List.append_nil])
          rw [Wired.take_take] at htaken
          exact Routine.comes_change_bind_iff.mpr ⟨_, Wired.apart_self hidle _, htaken⟩

/-- What a routine may come to on the state alone, it may come to beside the wire. -/
theorem comes_within_wired {α : Type} {routine : Routine τ α} {before after : τ} {value : α}
    (h : routine.Comes others before value after) (s : Wired τ) (hstate : s.state = before) :
    (routine.within Wired.state Wired.setState).Comes (Wired.Apart others) s value (s.setState after) := by
  induction routine generalizing before s with
  | done result =>
    obtain ⟨rfl, rfl⟩ := h
    exact ⟨rfl, hstate ▸ rfl⟩
  | look next ih =>
    subst hstate
    exact ih s.state h s rfl
  | put left rest ih =>
    obtain ⟨found, hfound, hrest⟩ := h
    exact ⟨s.setState found, ⟨hfound, rfl, rfl⟩, ih hrest (s.setState found) rfl⟩
  | stuck => exact h.elim

/-- Answering frames may come to the same in turns as at once, with the same bytes on the wire. -/
theorem comes_answerInTurns (hidle : ∀ state, others state state) {frames : List Frame} {written result : List Bytes}
    {answers : WriteAnswers} {before after : τ} {failure : Option TransportError} {earlier : Bytes}
    (h : (service.answerAll token written frames answers).Comes others before (result, failure) after) (s : Wired τ)
    (hstate : s.state = before) (hwire : s.wire = earlier ++ written.reverse.flatten) :
    ∃ later, (service.answerInTurns token frames answers).Comes (Wired.Apart others) s failure later
      ∧ later.state = after ∧ later.wire = earlier ++ result.flatten := by
  -- on the frames that are left, with what the write of each one brings to the wire
  induction frames generalizing written answers before s with
  | nil =>
    obtain ⟨hresult, rfl⟩ := h
    cases hresult
    exact ⟨s, ⟨rfl, rfl⟩, hstate, hwire⟩
  | cons frame rest ih =>
    rw [answerAll] at h
    obtain ⟨answer, middle, hanswer, hrest⟩ := Routine.comes_bind_iff.mp h
    rw [answerInTurns]
    refine exists_comes_bind (comes_within_wired hanswer s hstate) ?_
    have hnoted : (Routine.change (Wired.answer answer)).Comes (Wired.Apart others) (s.setState middle) ()
        ((s.setState middle).answer answer) :=
      Routine.comes_atomic_iff.mpr ⟨rfl, Wired.apart_self hidle _⟩
    refine exists_comes_bind hnoted ?_
    cases answer with
    | silent => exact ih hrest _ rfl hwire
    | refuse e =>
      obtain ⟨hresult, rfl⟩ := hrest
      cases hresult
      exact ⟨_, ⟨rfl, rfl⟩, rfl, hwire⟩
    | reply reply =>
      have hsent := comes_sendInTurns hidle service.writeLimit answers.head?.toList.flatten reply.encode
        ((s.setState middle).answer (.reply reply))
      dsimp only at hrest ⊢
      refine exists_comes_bind hsent ?_
      generalize Socket.sendBytes service.writeLimit answers.head?.toList.flatten reply.encode = sending at hrest ⊢
      have hmore : s.wire ++ sending.1 = earlier ++ (sending.1 :: written).reverse.flatten := by
        rw [hwire, List.reverse_cons, List.flatten_concat, List.append_assoc]
      obtain ⟨bytes, e | ⟨⟨⟩⟩⟩ := sending
      · obtain ⟨hresult, rfl⟩ := hrest
        cases hresult
        exact ⟨_, ⟨rfl, rfl⟩, rfl, hmore⟩
      · exact ih hrest _ rfl hmore

/-- Whatever serving a chunk may come to, it may come to in turns, and then the same bytes are on the wire. -/
theorem comes_receiveInTurns (hidle : ∀ state, others state state) {inbox : Inbox} {chunk : Bytes}
    {answers : WriteAnswers} {before after : τ} {reaction : Reaction}
    (h : (service.received token inbox chunk answers).Comes others before reaction after) (s : Wired τ)
    (hstate : s.state = before) :
    ∃ later, (service.receiveInTurns token inbox chunk answers).Comes (Wired.Apart others) s
        (reaction.inbox, reaction.failure) later
      ∧ later.state = after ∧ later.wire = s.wire ++ reaction.written.flatten := by
  unfold received at h
  unfold receiveInTurns
  generalize (inbox.push chunk).drain service.maxFrame = drained at h ⊢
  dsimp only at h ⊢
  -- a chunk that cannot be read in full is answered by nothing at all
  cases hfailure : drained.failure with
  | some e =>
    rw [hfailure] at h
    obtain ⟨rfl, rfl⟩ := h
    exact ⟨s, ⟨rfl, rfl⟩, hstate, (List.append_nil _).symm⟩
  | none =>
    rw [hfailure] at h
    obtain ⟨⟨written, failure⟩, middle, hanswered, rfl, rfl⟩ := Routine.comes_bind_iff.mp h
    obtain ⟨later, hlater, hsame, hwire⟩ :=
      comes_answerInTurns hidle hanswered s hstate (List.append_nil _).symm
    exact exists_comes_bind hlater ⟨later, ⟨rfl, rfl⟩, hsame, hwire⟩

end Erase

/-! ## One chunk -/

/-- A connection on which all that has arrived was answered, and all of that was written. -/
structure Rests (service : FrameService τ) (arrived : Bytes) (inbox : Inbox) (written : Bytes) : Prop where
  sound : (Frame.drain service.maxFrame arrived).failure = none
  inbox : inbox.bytes = (Frame.drain service.maxFrame arrived).rest
  completes : ∃ answers, service.Completes (Frame.drain service.maxFrame arrived).frames answers written

/-- What serving a chunk leads to, with the bytes that have arrived by then. `earlier` was written before. -/
structure Reacts (service : FrameService τ) (arrived earlier : Bytes) (reaction : Reaction) : Prop where
  follows : ∃ answers, service.Follows (Frame.drain service.maxFrame arrived).frames answers
    (earlier ++ reaction.written.flatten)
  rests : reaction.failure = none → service.Rests arrived reaction.inbox (earlier ++ reaction.written.flatten)

/-- What a chunk may lead to among other threads, read off its turns. -/
theorem Rests.reacts {token : Token} {arrived chunk earlier : Bytes} {inbox : Inbox} {answers : WriteAnswers}
    {before after : τ} {reaction : Reaction} (h : service.Rests arrived inbox earlier)
    (hcomes : (service.received token inbox chunk answers).Comes (fun _ _ => True) before reaction after) :
    service.Reacts (arrived ++ chunk) earlier reaction := by
  obtain ⟨answered, hcompletes⟩ := h.completes
  obtain ⟨later, hlater, -, hwire⟩ := comes_receiveInTurns (fun _ => trivial) hcomes ⟨before, answered, earlier⟩ rfl
  have hreceived := (meets_receiveInTurns (s := ⟨before, answered, earlier⟩) token h.sound h.inbox hcompletes chunk
    answers).of_comes hlater fun _ _ hapart => hapart.keeps
  have hbytes : later.wire = earlier ++ reaction.written.flatten := hwire
  refine ⟨⟨later.answered, hbytes ▸ hreceived.leads.follows⟩, fun hnone => ?_⟩
  exact ⟨hreceived.sound hnone, hreceived.inbox hnone, later.answered, hbytes ▸ hreceived.leads.completes hnone⟩

end FrameService

end EventBus
