import EventBus.Proofs.Host.Replies
import EventBus.Proofs.Reactor.Glances
import EventBus.Proofs.Service.Attempts
import EventBus.Proofs.Service.Chunks
import EventBus.Proofs.Wire.Fronts

/-!
# What goes out on a connection

The bytes that a reactor writes to its peers while its service answers frames, whatever the service is, however the
sockets take part in the writes, and whatever all threads do.

* `Answer.replies`, `drain_replies`: first bytes of replies are decoded as the first ones of these, and nothing in them is
  malformed.
* `FrameService.Streams`: what holds of a connection at all times, between chunks and while one is served. `Flows.glance`
  says that every step keeps it, and `Ran.flows` is the induction along the moves.
* `Intact`: what that comes to. `Ran.outgoing_intact` says it of every connection.
-/

namespace EventBus

/-! ## Replies as a stream -/

namespace Answer

/-- The reply in an answer, if it is one. -/
def reply? : Answer → Option Frame
  | reply frame => some frame
  | silent | refuse _ => none

/-- The replies among some answers. -/
def replies (answers : List Answer) : List Frame :=
  answers.filterMap reply?

/-- What answers come to on the wire is their replies, encoded one after the other. -/
theorem allBytes_eq (answers : List Answer) : allBytes answers = (replies answers).flatMap Frame.encode := by
  induction answers with
  | nil => rfl
  | cons answer answers ih =>
    cases answer with
    | reply frame => exact congrArg (frame.encode ++ ·) ih
    | silent | refuse => exact ih

/-- First bytes of replies that fit are decoded as the first ones of these replies, and nothing in them is malformed. -/
theorem drain_replies {answers : List Answer} {bytes : Bytes} {max : Nat} (hbytes : bytes <+: allBytes answers)
    (hfits : ∀ reply ∈ replies answers, reply.body.length ≤ min max Bytes.maxLength) :
    (Frame.drain max bytes).failure = none
      ∧ (Frame.drain max bytes).frames <+: (replies answers).map Frame.asSent := by
  rw [allBytes_eq] at hbytes
  have hshort : ∀ reply ∈ replies answers, reply.body.length ≤ Bytes.maxLength := fun reply hreply =>
    Nat.le_trans (hfits reply hreply) (Nat.min_le_right ..)
  refine ⟨?_, Frame.drain_frames_prefix hshort hbytes⟩
  obtain ⟨more, hmore⟩ := hbytes
  cases hfailure : (Frame.drain max bytes).failure with
  | none => rfl
  | some e =>
    -- what is malformed stays so, whatever follows
    have hwhole := Frame.drain_append_of_failure hfailure more
    rw [hmore, Frame.drain_flatMap_encode hfits] at hwhole
    exact congrArg (·.failure) hwhole.symm

end Answer

namespace Routine

variable {σ α : Type} {others : σ → σ → Prop} {routine : Routine σ α} {state before after : σ} {value : α}

/-- What a routine may come to behind its next turn, it may come to. -/
theorem exists_comes_of_turn (h : (routine.turn state).1.Comes (fun _ _ => True) before value after) :
    ∃ before after, routine.Comes (fun _ _ => True) before value after := by
  have hmore : ∃ after, routine.Comes (fun _ _ => True) state value after := by
    induction routine with
    | done result => exact ⟨state, h.1, rfl⟩
    | look next ih => exact ih state h
    | put left rest ih => exact ⟨after, before, trivial, h⟩
    | stuck => exact h.elim
  exact ⟨state, hmore⟩

end Routine

namespace FrameService

variable {τ : Type} {service : FrameService τ} {arrived written : Bytes} {goes : Bool} {inbox : Inbox}
  {work : Option (Routine τ Reaction)}

/-! ## At all times -/

/-- What holds at all times of a connection on which some bytes have arrived and some were written: whether it goes on or
not, whatever routine serves a chunk there, if one does, and whatever is in the inbox. -/
structure Streams (service : FrameService τ) (arrived : Bytes) (goes : Bool) (work : Option (Routine τ Reaction))
    (inbox : Inbox) (written : Bytes) : Prop where
  follows : ∃ answers, service.Follows (Frame.drain service.maxFrame arrived).frames answers written
  whole : goes = true → ∃ answers, service.Follows (Frame.drain service.maxFrame arrived).frames answers written
    ∧ written = Answer.allBytes answers
  idle : goes = true → work = none → service.Rests arrived inbox written
  busy : ∀ routine ∈ work, ∀ before reaction after, routine.Comes (fun _ _ => True) before reaction after →
    service.Reacts arrived written reaction

namespace Streams

/-- Nothing has arrived. -/
theorem start (service : FrameService τ) (goes : Bool) : service.Streams [] goes none .empty [] := by
  have hdrain : Frame.drain service.maxFrame [] = ⟨[], none, []⟩ := Frame.drain_of_incomplete rfl
  have hcompletes : service.Completes [] [] [] := ⟨.nil, rfl⟩
  have hfollows : service.Follows (Frame.drain service.maxFrame []).frames [] [] := by
    rw [hdrain]
    exact hcompletes.follows []
  refine ⟨⟨[], hfollows⟩, fun _ => ⟨[], hfollows, rfl⟩, fun _ _ => ⟨?_, ?_, [], ?_⟩, nofun⟩
  · rw [hdrain]
  · rw [hdrain]
    rfl
  · rw [hdrain]
    exact hcompletes

/-- A chunk arrives, and begins to be served. -/
theorem received (h : service.Streams arrived true none inbox written) (token : Token) (chunk : Bytes)
    (answers : WriteAnswers) (goes : Bool) (inbox' : Inbox) :
    service.Streams (arrived ++ chunk) goes (some (service.received token inbox chunk answers)) inbox' written := by
  have hrests := h.idle rfl rfl
  have hmore : (Frame.drain service.maxFrame arrived).frames
      <+: (Frame.drain service.maxFrame (arrived ++ chunk)).frames := by
    rw [Frame.drain_append hrests.sound]
    exact List.prefix_append _ _
  obtain ⟨answered, hfollows, hwhole⟩ := h.whole rfl
  refine ⟨⟨answered, hfollows.mono hmore⟩, fun _ => ⟨answered, hfollows.mono hmore, hwhole⟩, nofun, ?_⟩
  rintro _ ⟨⟩ before reaction after hcomes
  exact hrests.reacts hcomes

/-- A turn is made in serving a chunk. -/
theorem turned {routine : Routine τ Reaction} (h : service.Streams arrived true (some routine) inbox written) (state : τ)
    (goes : Bool) (inbox' : Inbox) : service.Streams arrived goes (some (routine.turn state).1) inbox' written := by
  refine ⟨h.follows, fun _ => h.whole rfl, nofun, ?_⟩
  rintro _ ⟨⟩ before reaction after hcomes
  obtain ⟨before, after, hcomes⟩ := Routine.exists_comes_of_turn hcomes
  exact h.busy routine rfl before reaction after hcomes

/-- A chunk is done with. -/
theorem concluded {reaction : Reaction} (h : service.Streams arrived true (some (.done reaction)) inbox written)
    (state : τ) : service.Streams arrived reaction.failure.isNone none reaction.inbox
      (written ++ reaction.written.flatten) := by
  have hreacts := h.busy _ rfl state reaction state ⟨rfl, rfl⟩
  have hrests : reaction.failure.isNone = true →
      service.Rests arrived reaction.inbox (written ++ reaction.written.flatten) := fun hnone =>
    hreacts.rests (Option.isNone_iff_eq_none.mp hnone)
  refine ⟨hreacts.follows, fun hgoes => ?_, fun hgoes _ => hrests hgoes, nofun⟩
  obtain ⟨answered, hcompletes⟩ := (hrests hgoes).completes
  have hfollows := hcompletes.follows []
  rw [List.append_nil] at hfollows
  exact ⟨answered, hfollows, hcompletes.bytes⟩

/-- The connection is given up. -/
theorem abandoned (h : service.Streams arrived goes work inbox written) (inbox' : Inbox) :
    service.Streams arrived false none inbox' written :=
  ⟨h.follows, nofun, nofun, nofun⟩

end Streams

end FrameService

namespace Reactor

variable {τ : Type} {service : FrameService τ} {stir : τ → τ → Prop} {config : Config} {initial : τ}
  {r r' : Reactor τ} {move : Move} {moves : List Move} {place : Nat}

/-- The bytes that the service was given for a connection. -/
def delivered (r : Reactor τ) (token : Token) : Bytes :=
  (r.chunks token).flatten

/-- The complete frames among them. -/
def framesOf (service : FrameService τ) (r : Reactor τ) (token : Token) : List Frame :=
  (Frame.drain service.maxFrame (r.delivered token)).frames

/-- It holds of the connection of the peer in a place. -/
def Flows (service : FrameService τ) (r : Reactor τ) (place : Nat) : Prop :=
  service.Streams (r.delivered (Handle.token place)) (r.goesOn (Handle.token place)) (r.work? (Handle.token place))
    (r.inboxOf (Handle.token place)) (r.written place)

/-- Before anything was done nothing is written, and no frame has arrived. -/
theorem flows_start (service : FrameService τ) (config : Config) (state : τ) (place : Nat) :
    Flows service (start config state) place := by
  have hnone : (start config state).work? (Handle.token place) = none := by
    cases hwork : (start config state).work? (Handle.token place) with
    | none => rfl
    | some rest =>
      obtain ⟨worker, hserves⟩ := exists_serves_of_work? hwork
      have hidle := (Array.mem_replicate.mp (Array.mem_of_getElem? hserves)).2
      cases hidle
  rw [Flows, hnone]
  exact .start service _

/-- Every step keeps it. -/
theorem Flows.glance (h : Flows service r place) (hglance : Glance service.toService r r' place) :
    Flows service r' place := by
  unfold Flows delivered at h ⊢
  -- one case for each thing that can be seen to happen at a place, and each flow lemma is for one
  cases hglance with
  | same hview =>
    rw [hview.chunks, goesOn, hview.around, hview.left, hview.work, hview.inbox, hview.written]
    exact h
  | received chunk answers hidle hopen hchunks hwork hwritten =>
    rw [hidle, hopen] at h
    rw [hchunks, List.flatten_concat, hwork, hwritten]
    exact h.received _ chunk answers _ _
  | turned routine hwork hopen hchunks hwork' hwritten =>
    rw [hwork, hopen] at h
    rw [hchunks, hwork', hwritten]
    exact h.turned r.state _ _
  | concluded reaction hwork hopen hchunks hinbox hidle hwritten hgoes =>
    rw [hwork, hopen] at h
    rw [hchunks, hinbox, hidle, hwritten, hgoes]
    exact h.concluded r.state
  | abandoned hchunks hidle hwritten hgoes =>
    rw [hchunks, hidle, hwritten, hgoes]
    exact h.abandoned _

/-- By induction on the moves, with what a step does to one connection. -/
theorem Ran.flows (h : Ran service.toService stir config initial moves r) (hplace : place + 1 < UInt64.size)
    (hfew : r.sockets.size < UInt64.size) : Flows service r place := by
  induction h with
  | start => exact flows_start service config initial place
  | step h hstep ih =>
    have hbefore := Nat.lt_of_le_of_lt (step?_tells hstep).sockets_le hfew
    exact (ih hbefore).glance (step?_glance (h.steady hbefore) hplace hstep)
  | stir h hstir ih => exact (ih hfew).glance (.same (sameView_of_eq rfl rfl rfl rfl))

/-! ## What a peer gets -/

/-- What a reactor writes to the peer in a place. -/
structure Intact (service : FrameService τ) (stir : τ → τ → Prop) (r : Reactor τ) (place : Nat) : Prop where
  /-- They are first bytes of whole replies: those to the first of the frames that arrived, in their order. A peer that
  takes these replies decodes the first of them, and nothing that is malformed. -/
  follows : ∃ answers, service.Follows (framesOf service r (Handle.token place)) answers (r.written place)
    ∧ ∀ max, (∀ reply ∈ Answer.replies answers, reply.body.length ≤ min max Bytes.maxLength) →
      (Frame.drain max (r.written place)).failure = none
        ∧ (Frame.drain max (r.written place)).frames <+: (Answer.replies answers).map Frame.asSent
  /-- The last of them is there as a whole, unless the connection is given up. -/
  whole : ¬r.Abandoned (Handle.token place) →
    ∃ answers, service.Follows (framesOf service r (Handle.token place)) answers (r.written place)
      ∧ r.written place = Answer.allBytes answers
  /-- Later bytes come behind them. -/
  grows : ∀ later, Onward service.toService stir r later → later.sockets.size < UInt64.size →
    r.written place <+: later.written place
  /-- Once the connection is given up, none come any more, -/
  final : r.Abandoned (Handle.token place) → ∀ later, Onward service.toService stir r later →
    later.sockets.size < UInt64.size → later.Abandoned (Handle.token place) ∧ later.written place = r.written place
  /-- and it is closed, unless it is already: that is what its worker does next. -/
  closes : r.Abandoned (Handle.token place) → r.connection? (Handle.token place) = none
    ∨ ∃ worker left, r.step? service.toService (.leave worker) = some left
      ∧ left.connection? (Handle.token place) = none ∧ (left.sockets[place]?).all Socket.closed = true
  /-- While the next chunk is served, whichever it is, and however the socket takes part in the writes, each attempt to
  write puts bytes of the replies behind those before, and all that arrived is answered if no failure ends it. -/
  attempts : ¬r.Abandoned (Handle.token place) → r.work? (Handle.token place) = none →
    ∃ answers, service.Completes (framesOf service r (Handle.token place)) answers (r.written place)
      ∧ ∀ chunk writes (s : Wired τ), s.answered = answers → s.wire = r.written place →
        (service.receiveInTurns (Handle.token place) (r.inboxOf (Handle.token place)) chunk writes).Meets Wired.Keeps
          (service.Forwards (Frame.drain service.maxFrame (r.delivered (Handle.token place) ++ chunk)).frames)
          (service.Received (r.delivered (Handle.token place) ++ chunk)) s

/-- What goes out on a connection, put together: from what streams on it, and from what happens to it when it is given
up. -/
theorem Ran.intact (h : Ran service.toService stir config initial moves r) (hfew : r.sockets.size < UInt64.size)
    (hplace : place + 1 < UInt64.size) : Intact service stir r place := by
  have hsteady := h.steady hfew
  have hstreams := h.flows hplace hfew
  -- a connection that is not abandoned goes on
  have hopen : ¬r.Abandoned (Handle.token place) → r.goesOn (Handle.token place) = true := fun hstays =>
    eq_true_of_ne_false fun hgoes => hstays (hsteady.abandoned_iff.mpr hgoes)
  refine ⟨?_, fun hstays => hstreams.whole (hopen hstays), fun later honward => honward.written_grows h hplace,
    fun hgone later honward hlater => honward.abandoned h hplace hlater hgone, fun hgone => ?_, fun hstays hidle => ?_⟩
  · obtain ⟨answers, hfollows⟩ := hstreams.follows
    exact ⟨answers, hfollows, fun max => Answer.drain_replies hfollows.bytes⟩
  · obtain hnone | ⟨worker, hworker⟩ := hgone.closes
    · exact .inl hnone
    · exact .inr ⟨worker, hsteady.closed_of_leaving service.toService hplace hworker⟩
  · have hrests := hstreams.idle (hopen hstays) hidle
    obtain ⟨answered, hcompletes⟩ := hrests.completes
    refine ⟨answered, hcompletes, fun chunk writes s hanswered hwire => ?_⟩
    rw [← hanswered, ← hwire] at hcompletes
    exact FrameService.meets_receiveInTurns _ hrests.sound hrests.inbox hcompletes chunk writes

/-- **Outgoing bytes.** What a reactor writes is intact at all times. A write succeeds exactly if all of it was
written. What serving a chunk may come to, it may come to attempt by attempt, so that what is said of the attempts is
said of it. -/
theorem Ran.outgoing_intact (h : Ran service.toService stir config initial moves r)
    (hfew : r.sockets.size < UInt64.size) :
    (∀ place, place < r.sockets.size → Intact service stir r place)
      ∧ (∀ limit attempts bytes, (Socket.sendBytes limit attempts bytes).1 <+: bytes
        ∧ ((Socket.sendBytes limit attempts bytes).2 = .ok () ↔ (Socket.sendBytes limit attempts bytes).1 = bytes))
      ∧ ∀ others : τ → τ → Prop, (∀ state, others state state) →
        ∀ token inbox chunk writes before reaction after,
          (service.received token inbox chunk writes).Comes others before reaction after →
            ∀ s : Wired τ, s.state = before →
              ∃ later, (service.receiveInTurns token inbox chunk writes).Comes (Wired.Apart others) s
                  (reaction.inbox, reaction.failure) later
                ∧ later.state = after ∧ later.wire = s.wire ++ reaction.written.flatten := by
  refine ⟨fun place hpeer => h.intact hfew (Nat.lt_of_le_of_lt hpeer hfew), fun limit attempts bytes => ?_, ?_⟩
  · obtain ⟨hpart, -⟩ := Socket.sendBytes_prefix limit attempts bytes
    exact ⟨hpart, Socket.sendBytes_eq_ok_iff limit attempts bytes⟩
  · intro others hidle token inbox chunk writes before reaction after hcomes s hstate
    exact FrameService.comes_receiveInTurns hidle hcomes s hstate

/-- A subscriber greets twice at once. The socket takes all of the first answer, and three bytes of the second one. -/
def severingMoves : List Move :=
  [.dial, .look, .wait [.knock], .handle, .accept, .register true, .acceptDone, .handle,
    .sends 0 ((Frame.hello (.ofName "ext") "ext").encode ++ (Frame.hello (.ofName "ext") "ext").encode),
    .look, .wait [.ready 1], .handle, .handle, .pop 0, .check 0,
    .read 0 (.chunk 28) [[], [.takes 3, .fails ⟨.brokenPipe, .byKind⟩]],
    .serve 0, .serve 0, .serve 0, .serve 0, .serve 0]

/-- A write that breaks off three bytes into the second reply: these bytes are on the wire, and nothing comes behind
them. -/
theorem severed_intact :
    ∃ r, Ran FrameService.loneExtServer.toService (fun _ _ => False) { workers := 1 }
        { run := FrameService.loneExtBus.start { net := () } } severingMoves r
      ∧ r.sockets.size < UInt64.size
      ∧ r.written 0 = (Frame.helloAck .ok).encode ++ (Frame.helloAck .ok).encode.take 3 ∧ r.Abandoned 1
      ∧ Intact FrameService.loneExtServer (fun _ _ => False) r 0 := by
  -- the second acknowledgement is cut after three bytes, which ends the connection
  have hrun : ((Reactor.start { workers := 1 } { run := FrameService.loneExtBus.start { net := () } }).moves?
      FrameService.loneExtServer.toService severingMoves).any (fun r => r.sockets.size = 1 && r.goesOn 1 = false
        && r.written 0 = (Frame.helloAck .ok).encode ++ (Frame.helloAck .ok).encode.take 3) = true := by
    decide +kernel
  rw [Option.any_eq_true] at hrun
  obtain ⟨r, hmoves, hholds⟩ := hrun
  simp only [Bool.and_eq_true, decide_eq_true_eq] at hholds
  obtain ⟨⟨hsize, hgoes⟩, hwritten⟩ := hholds
  have hran : Ran FrameService.loneExtServer.toService (fun _ _ => False) { workers := 1 }
      { run := FrameService.loneExtBus.start { net := () } } severingMoves r :=
    Ran.start.of_moves? hmoves
  have hfew : r.sockets.size < UInt64.size := hsize ▸ by decide
  refine ⟨r, hran, hfew, hwritten, (hran.steady hfew).abandoned_iff.mpr hgoes, ?_⟩
  exact (hran.outgoing_intact hfew).1 0 (hsize ▸ Nat.zero_lt_one)

end Reactor

end EventBus
