import EventBus.Proofs.Client.Channel
import EventBus.Proofs.Service.Peers
import EventBus.Proofs.Wire.Stream

/-!
# Frames on the way to a peer

Which frames a client has sent on which connection, and which answers it has read.

* `Trunk.Orderly`: the frames that were sent on each connection, the last one maybe in part. `Orderly.begun` and
  `Orderly.answer_at`: the peer took up a first part of these frames, and answered them one by one.
* `Trunk.HasRead`, `Trunk.Ready`: a client has read all answers that it waits for on the connection that it keeps.
* `HasRead.answer_of_frame`: what the peer writes there then belongs to the next frame that is sent. If the client reads
  a frame, it is the reply to that one, and nothing is left behind it.
-/

namespace EventBus

variable {τ : Type}

/-- What stands at a position of the one list is related to what stands there in the other. -/
theorem exists_of_forall₂ {α β : Type} {R : α → β → Prop} {xs : List α} {ys : List β} (h : List.Forall₂ R xs ys)
    {i : Nat} {y : β} (hy : ys[i]? = some y) : ∃ x, xs[i]? = some x ∧ R x y := by
  induction h generalizing i with
  | nil => cases hy
  | cons hhead _ ih =>
    cases i with
    | zero =>
      obtain rfl := Option.some.inj hy
      exact ⟨_, rfl, hhead⟩
    | succ i => exact ih hy

/-! ## Frames that were sent -/

namespace Trunk

/-- On each connection these frames were sent, the last one maybe in part. -/
structure Orderly (service : FrameService τ) (trunk : Trunk τ) (frames : Handle → List Frame) : Prop where
  kept : trunk.Kept service
  fits : ∀ handle, ∀ frame ∈ frames handle, frame.body.length ≤ Bytes.maxLength
  counts : ∀ handle, (trunk.nearEnd handle).sent.length = (frames handle).length
  sent : ∀ handle, (trunk.nearEnd handle).sent.flatten <+: (frames handle).flatMap Frame.encode

variable {service : FrameService τ} {trunk after : Trunk τ} {frames : Handle → List Frame} {handle : Handle}

namespace Orderly

/-- Nothing was sent where no connection is. -/
theorem isSome_near? (h : trunk.Orderly service frames) (hframes : frames handle ≠ []) : (trunk.near? handle).isSome := by
  cases hnear : trunk.near? handle with
  | some near => rfl
  | none =>
    have hcounts := h.counts handle
    unfold nearEnd at hcounts
    rw [hnear] at hcounts
    exact absurd (List.length_eq_zero_iff.mp hcounts.symm) hframes

/-- The peer took up a first part of the frames. -/
theorem begun (h : trunk.Orderly service frames) (hopened : (trunk.near? handle).isSome) :
    trunk.peer.begun handle <+: (frames handle).map Frame.asSent := by
  obtain ⟨near, hnear⟩ := Option.isSome_iff_exists.mp hopened
  obtain ⟨channel, hchannel, rfl⟩ := exists_channel_of_near? hnear
  have hkept := h.kept handle channel hchannel
  have hsent := h.sent handle
  rw [nearEnd_eq hnear] at hsent
  exact hkept.logged.begun.trans (Frame.drain_frames_prefix (h.fits handle) (hkept.delivered.trans hsent))

/-- The answers on a connection are answers to the first frames that were taken up. -/
theorem forall₂_gives (h : trunk.Orderly service frames) (hopened : (trunk.near? handle).isSome) :
    List.Forall₂ service.Gives ((trunk.peer.begun handle).take (trunk.peer.answered handle).length)
      (trunk.peer.answered handle) := by
  obtain ⟨near, hnear⟩ := Option.isSome_iff_exists.mp hopened
  obtain ⟨channel, hchannel, -⟩ := exists_channel_of_near? hnear
  exact (h.kept handle channel hchannel).logged.gives

/-- Each answer is one to the frame that was sent in its place, and taken up there. -/
theorem answer_at (h : trunk.Orderly service frames) (hopened : (trunk.near? handle).isSome) {i : Nat} {answer : Answer}
    (hanswer : (trunk.peer.answered handle)[i]? = some answer) :
    ∃ frame, (frames handle)[i]? = some frame ∧ (trunk.peer.begun handle)[i]? = some frame.asSent
      ∧ service.Gives frame.asSent answer := by
  obtain ⟨taken, htaken, hgives⟩ := exists_of_forall₂ (h.forall₂_gives hopened) hanswer
  have hbegun := getElem?_of_front (List.take_prefix _ _) htaken
  have hsent := getElem?_of_front (h.begun hopened) hbegun
  rw [List.getElem?_map] at hsent
  obtain ⟨frame, hframe, rfl⟩ := Option.map_eq_some_iff.mp hsent
  exact ⟨frame, hframe, hbegun, hgives⟩

theorem length_answered_le (h : trunk.Orderly service frames) (hopened : (trunk.near? handle).isSome) :
    (trunk.peer.answered handle).length ≤ (frames handle).length := by
  have hlength := (h.forall₂_gives hopened).length_eq
  have hle := (h.begun hopened).length_le
  rw [List.length_take] at hlength
  rw [List.length_map] at hle
  omega

/-- What the peer does sends nothing, so the frames stay in order. -/
theorem moves (h : trunk.Orderly service frames) (hmoves : Moves service trunk after) :
    after.Orderly service frames ∧ trunk.Extends after := by
  have hextends := h.kept.extends_of_moves hmoves
  refine ⟨⟨h.kept.moves hmoves, h.fits, fun handle => ?_, fun handle => ?_⟩, hextends⟩
  · rw [hextends.nearEnd]
    exact h.counts handle
  · rw [hextends.nearEnd]
    exact h.sent handle

theorem opened (h : trunk.Orderly service frames) (hnone : trunk.channel? handle = none)
    (hbegun : trunk.peer.begun handle = []) (hanswered : trunk.peer.answered handle = []) (token : Token) :
    (trunk.put handle (.opened token)).Orderly service frames := by
  refine ⟨h.kept.put_self (.opened hbegun hanswered token), h.fits, fun other => ?_, fun other => ?_⟩
  · rw [nearEnd_opened hnone]
    exact h.counts other
  · rw [nearEnd_opened hnone]
    exact h.sent other

/-- One more frame is sent on a connection on which the others were sent as a whole. -/
theorem send (h : trunk.Orderly service frames) {near : NearEnd} (hnear : trunk.near? handle = some near)
    (hwhole : near.sent.flatten = (frames handle).flatMap Frame.encode) {frame : Frame}
    (hfits : frame.body.length ≤ Bytes.maxLength) {front : Bytes} (hfront : front <+: frame.encode) :
    (trunk.act handle (.send front)).Orderly service
      (Function.update frames handle (frames handle ++ [frame])) := by
  have hgrows : ∀ near : NearEnd, near.sent.flatten <+: (near.send front).sent.flatten := by
    intro near
    unfold NearEnd.send
    rw [List.flatten_append]
    exact List.prefix_append _ _
  refine ⟨h.kept.act handle hgrows, fun other => ?_, fun other => ?_, fun other => ?_⟩
  · by_cases hsame : other = handle
    · subst hsame
      -- the frame is the last one of its connection
      rw [Function.update_self]
      exact List.forall_mem_append.mpr ⟨h.fits other, List.forall_mem_singleton.mpr hfits⟩
    · rw [Function.update_of_ne hsame]
      exact h.fits other
  · rw [nearEnd_act hnear]
    by_cases hsame : other = handle
    · subst hsame
      have hcounts := h.counts other
      rw [nearEnd_eq hnear] at hcounts
      rw [Function.update_self, Function.update_self, NearEnd.send, List.length_append, List.length_append, hcounts]
      rfl
    · rw [Function.update_of_ne hsame, Function.update_of_ne hsame]
      exact h.counts other
  · rw [nearEnd_act hnear]
    by_cases hsame : other = handle
    · subst hsame
      rw [Function.update_self, Function.update_self, NearEnd.send, List.flatten_append, hwhole, List.flatten_singleton,
        List.flatMap_append, List.flatMap_singleton]
      exact (List.prefix_append_right_inj _).mpr hfront
    · rw [Function.update_of_ne hsame, Function.update_of_ne hsame]
      exact h.sent other

theorem fetch (h : trunk.Orderly service frames) {near : NearEnd} (hnear : trunk.near? handle = some near)
    (bytes : Bytes) : (trunk.act handle (.fetch bytes)).Orderly service frames := by
  -- fetching is not sending: all counts are of what was sent
  have hsame : ∀ other, ((trunk.act handle (.fetch bytes)).nearEnd other).sent = (trunk.nearEnd other).sent := by
    intro other
    rw [nearEnd_act hnear]
    by_cases hother : other = handle
    · subst hother
      rw [Function.update_self, nearEnd_eq hnear]
      rfl
    · rw [Function.update_of_ne hother]
  refine ⟨h.kept.act handle fun near => List.prefix_refl _, h.fits, fun other => ?_, fun other => ?_⟩
  · rw [hsame]
    exact h.counts other
  · rw [hsame]
    exact h.sent other

end Orderly

/-! ## Connections that are kept -/

/-- The client has read the answers to some of the frames, and awaits none to the others. -/
structure HasRead (trunk : Trunk τ) (handle : Handle) (frames : List Frame) (answered : Nat) : Prop where
  le_frames : answered ≤ frames.length
  le_answered : answered ≤ (trunk.peer.answered handle).length
  pushes : ∀ i frame, answered ≤ i → frames[i]? = some frame → ∃ envelope, frame = .push envelope
  read : (trunk.nearEnd handle).read = Answer.allBytes ((trunk.peer.answered handle).take answered)

/-- On the connection that a client keeps these frames were sent, and nothing is left to be read of the answers to
some first ones of them. -/
structure Ready (trunk : Trunk τ) (link : Link) (sent read : List Frame) : Prop where
  isOpen : (trunk.near? link.handle).isSome
  unread : ∀ ending, (Frame.Reader.mk link.unread ending).bytes = []
  whole : (trunk.nearEnd link.handle).sent.flatten = sent.flatMap Frame.encode
  answers : ∃ answered, trunk.HasRead link.handle read answered

variable {link : Link} {sent read earlier : List Frame} {answered : Nat}

/-- The first of a longer list are the first of its front. -/
theorem take_of_prefix {α : Type} {front whole : List α} (h : front <+: whole) {n : Nat} (hle : n ≤ front.length) :
    whole.take n = front.take n := by
  obtain ⟨rest, rfl⟩ := h
  exact List.take_append_of_le_length hle

/-- More of a list, behind a first part of it. -/
theorem append_prefix {α : Type} {read written whole more : List α} (hread : read <+: whole)
    (hwritten : written <+: whole) (hmore : more <+: written.drop read.length) : read ++ more <+: whole := by
  rcases Nat.le_total read.length written.length with hle | hge
  · obtain ⟨rest, rfl⟩ := List.prefix_of_prefix_length_le hread hwritten hle
    rw [List.drop_left] at hmore
    exact ((List.prefix_append_right_inj read).mpr hmore).trans hwritten
  · rw [List.drop_eq_nil_of_le hge] at hmore
    rw [List.prefix_nil.mp hmore, List.append_nil]
    exact hread

/-- What was read was read, however the peer goes on. -/
theorem HasRead.extends (h : trunk.HasRead handle read answered) (hextends : trunk.Extends after) :
    after.HasRead handle read answered := by
  have hanswered := hextends.grows.answered handle
  refine ⟨h.le_frames, Nat.le_trans h.le_answered hanswered.length_le, h.pushes, ?_⟩
  rw [hextends.nearEnd, h.read, take_of_prefix hanswered h.le_answered]

/-- A connection that is ready stays so, however the peer goes on. -/
theorem Ready.extends (h : trunk.Ready link sent read) (hextends : trunk.Extends after) :
    after.Ready link sent read := by
  obtain ⟨answered, hanswers⟩ := h.answers
  refine ⟨?_, h.unread, ?_, answered, hanswers.extends hextends⟩
  · rw [hextends.near]
    exact h.isOpen
  · rw [hextends.nearEnd]
    exact h.whole

/-- Nothing was sent on a connection that was just opened. -/
theorem Orderly.ready_opened (h : trunk.Orderly service frames) (hnone : trunk.channel? handle = none) (token : Token) :
    (trunk.put handle (.opened token)).Ready ⟨handle, []⟩ (frames handle) (frames handle) := by
  have hunused : trunk.nearEnd handle = {} := by
    unfold nearEnd near?
    rw [hnone]
    rfl
  -- as many frames are counted as were sent, and nothing was sent on a channel that is not open
  have hframes : frames handle = [] := by
    have hcounts := h.counts handle
    rw [hunused] at hcounts
    exact List.length_eq_zero_iff.mp hcounts.symm
  have hopened : (trunk.put handle (.opened token)).nearEnd handle = {} := by
    rw [nearEnd_opened hnone, hunused]
  rw [hframes]
  refine ⟨?_, fun _ => rfl, ?_, 0, Nat.le_refl 0, Nat.zero_le _, nofun, ?_⟩
  · rw [near?_put, Function.update_self]
    rfl
  · rw [hopened]
    rfl
  · rw [hopened]
    rfl

/-- A peer writes nothing in answer to a push. -/
theorem bytes_of_push (hproper : service.Proper) {envelope : Envelope} {answer : Answer}
    (hgives : service.Gives (.push envelope) answer) : answer.bytes = [] := by
  have hfits := hproper _ _ hgives
  cases answer with
  | silent | refuse => rfl
  | reply reply => cases reply <;> exact hfits.elim

/-- What is written behind what was read is in answer to what was sent later. -/
theorem HasRead.allBytes_eq (h : trunk.HasRead handle earlier answered) (hproper : service.Proper)
    (horderly : trunk.Orderly service frames) (hframes : earlier <+: frames handle) :
    Answer.allBytes (trunk.peer.answered handle)
      = (trunk.nearEnd handle).read ++ Answer.allBytes ((trunk.peer.answered handle).drop earlier.length) := by
  have hbetween : Answer.allBytes (((trunk.peer.answered handle).take earlier.length).drop answered) = [] := by
    unfold Answer.allBytes
    -- what was answered to pushes in between is silent
    rw [List.flatMap_eq_nil_iff]
    intro answer hmem
    obtain ⟨i, hanswer⟩ := List.mem_iff_getElem?.mp hmem
    rw [List.getElem?_drop] at hanswer
    have hlt : answered + i < earlier.length := by
      have hlength := (List.getElem?_eq_some_iff.mp hanswer).1
      rw [List.length_take] at hlength
      omega
    have hanswered := getElem?_of_front (List.take_prefix _ _) hanswer
    have hearlier := List.getElem?_eq_getElem hlt
    have hsent := getElem?_of_front hframes hearlier
    have hopened := horderly.isSome_near? (List.ne_nil_of_mem (List.mem_of_getElem? hsent))
    obtain ⟨frame, hframe, -, hgives⟩ := horderly.answer_at hopened hanswered
    obtain rfl := Option.some.inj (hframe.symm.trans hsent)
    obtain ⟨envelope, hpush⟩ := h.pushes _ _ (Nat.le_add_right answered i) hearlier
    rw [hpush] at hgives
    exact bytes_of_push hproper hgives
  have hparts : trunk.peer.answered handle
      = (trunk.peer.answered handle).take answered ++ ((trunk.peer.answered handle).take earlier.length).drop answered
        ++ (trunk.peer.answered handle).drop earlier.length := by
    have hfront := List.take_append_drop answered ((trunk.peer.answered handle).take earlier.length)
    rw [List.take_take, Nat.min_eq_left h.le_frames] at hfront
    rw [hfront, List.take_append_drop]
  calc Answer.allBytes (trunk.peer.answered handle)
      = Answer.allBytes ((trunk.peer.answered handle).take answered)
        ++ Answer.allBytes (((trunk.peer.answered handle).take earlier.length).drop answered)
        ++ Answer.allBytes ((trunk.peer.answered handle).drop earlier.length) := by
        conv_lhs => rw [hparts]
        unfold Answer.allBytes
        rw [List.flatMap_append, List.flatMap_append]
    _ = (trunk.nearEnd handle).read ++ Answer.allBytes ((trunk.peer.answered handle).drop earlier.length) := by
        rw [hbetween, List.append_nil, h.read]

/-- What a proper service answers with is a reply. -/
theorem isReply_of_gives (hproper : service.Proper) {frame reply : Frame} (hgives : service.Gives frame (.reply reply)) :
    reply.isReply := by
  have hfits := hproper _ _ hgives
  cases frame <;> cases reply <;> first | rfl | exact hfits.elim

/-- A frame that is read behind what was read already is the reply to the last frame that was sent. -/
theorem HasRead.answer_of_frame (h : trunk.HasRead handle earlier answered) (hproper : service.Proper)
    (horderly : trunk.Orderly service frames) {frame reply : Frame} (hframes : frames handle = earlier ++ [frame])
    {reader left : Frame.Reader} {max : Nat} {limit : Duration}
    (hread : (trunk.nearEnd handle).read ++ reader.bytes <+: Answer.allBytes (trunk.peer.answered handle))
    (hframe : reader.frame max limit = (.ok reply, left)) :
    (trunk.peer.answered handle)[earlier.length]? = some (.reply reply)
      ∧ (trunk.nearEnd handle).read ++ reader.bytes = Answer.allBytes (trunk.peer.answered handle)
      ∧ left.bytes = [] := by
  have hall := h.allBytes_eq hproper horderly (by rw [hframes]; exact List.prefix_append _ _)
  rw [hall] at hread ⊢
  replace hread := (List.prefix_append_right_inj _).mp hread
  -- a frame has at least its header
  have hsome : reader.bytes ≠ [] := by
    intro hnone
    have htaken := Frame.length_of_decode_frame (Frame.Reader.decode_of_frame hframe)
    rw [hnone, List.length_nil] at htaken
    omega
  have hopened : (trunk.near? handle).isSome := horderly.isSome_near? (by rw [hframes]; simp)
  have hlength := horderly.length_answered_le hopened
  rw [hframes, List.length_append, List.length_singleton] at hlength
  have hdrop : ((trunk.peer.answered handle).drop earlier.length).length
      = (trunk.peer.answered handle).length - earlier.length := List.length_drop
  cases hanswers : (trunk.peer.answered handle).drop earlier.length with
  | nil =>
    rw [hanswers] at hread
    exact absurd (List.prefix_nil.mp hread) hsome
  | cons answer more =>
    rw [hanswers, List.length_cons] at hdrop
    obtain rfl : more = [] := List.length_eq_zero_iff.mp (by omega)
    have hanswer : (trunk.peer.answered handle)[earlier.length]? = some answer := by
      have hfirst : ((trunk.peer.answered handle).drop earlier.length)[0]?
          = (trunk.peer.answered handle)[earlier.length]? := List.getElem?_drop
      rw [hanswers] at hfirst
      exact hfirst.symm
    have hsingle : Answer.allBytes [answer] = answer.bytes := List.flatMap_singleton _ _
    rw [hanswers, hsingle] at hread
    rw [hanswer, hsingle]
    obtain ⟨sent, -, -, hgives⟩ := horderly.answer_at hopened hanswer
    cases answer with
    | silent | refuse => exact absurd (List.prefix_nil.mp hread) hsome
    | reply expected =>
      obtain ⟨rfl, hbytes, hleft⟩ := Frame.eq_of_frame (isReply_of_gives hproper hgives) hread hframe
      rw [hbytes]
      exact ⟨rfl, rfl, hleft⟩

/-! ## What a client does -/

variable {near : NearEnd}

/-- A frame that is sent as a whole awaits its answer. -/
theorem Ready.send (h : trunk.Ready link sent read) (hnear : trunk.near? link.handle = some near) (frame : Frame) :
    (trunk.act link.handle (.send frame.encode)).Ready link (sent ++ [frame]) read := by
  -- sending touches neither what was read nor what the peer has answered so far
  obtain ⟨answered, hanswers⟩ := h.answers
  have hwhole := h.whole
  have hread := hanswers.read
  rw [nearEnd_eq hnear] at hwhole hread
  have hsent : (trunk.act link.handle (.send frame.encode)).nearEnd link.handle = near.send frame.encode := by
    rw [nearEnd_act hnear, Function.update_self]
  refine ⟨?_, h.unread, ?_, answered, hanswers.le_frames, ?_, hanswers.pushes, ?_⟩
  · rw [near?_act hnear, Function.update_self]
    rfl
  · rw [hsent, NearEnd.send, List.flatten_append, hwhole, List.flatten_singleton, List.flatMap_append,
      List.flatMap_singleton]
  · rw [peer_act]
    exact hanswers.le_answered
  · rw [hsent, peer_act]
    exact hread

/-- A client awaits no answer to a push. -/
theorem Ready.push {envelope : Envelope} (h : trunk.Ready link (sent ++ [.push envelope]) sent) :
    trunk.Ready link (sent ++ [.push envelope]) (sent ++ [.push envelope]) := by
  obtain ⟨answered, hanswers⟩ := h.answers
  refine ⟨h.isOpen, h.unread, h.whole, answered, ?_, hanswers.le_answered, fun i frame hle hframe => ?_, hanswers.read⟩
  · rw [List.length_append]
    exact Nat.le_add_right_of_le hanswers.le_frames
  · rw [List.getElem?_append] at hframe
    split at hframe
    · exact hanswers.pushes i frame hle hframe
    · have hmem := List.mem_of_getElem? hframe
      exact ⟨envelope, List.mem_singleton.mp hmem⟩

/-- When the answer is read, the connection is ready again, and what was read is the answer to the last frame. -/
theorem Ready.fetch (h : trunk.Ready link (frames link.handle) earlier) (hproper : service.Proper)
    (horderly : trunk.Orderly service frames) {frame reply : Frame} (hframes : frames link.handle = earlier ++ [frame])
    (hnear : trunk.near? link.handle = some near) {arrived left : Frame.Reader} {max : Nat} {limit : Duration}
    (hwritten : ∀ channel, trunk.channel? link.handle = some channel →
      arrived.bytes <+: channel.written.drop channel.near.read.length)
    (hframe : Frame.Reader.frame max limit ⟨link.unread ++ arrived.arrivals, arrived.ending⟩ = (.ok reply, left)) :
    (trunk.act link.handle (.fetch arrived.bytes)).Ready { link with unread := left.arrivals } (frames link.handle)
        (frames link.handle)
      ∧ (trunk.peer.answered link.handle)[earlier.length]? = some (.reply reply) := by
  obtain ⟨answered, hanswers⟩ := h.answers
  have hbytes : (Frame.Reader.mk (link.unread ++ arrived.arrivals) arrived.ending).bytes = arrived.bytes := by
    rw [Frame.Reader.bytes_append, h.unread]
    rfl
  obtain ⟨channel, hchannel, rfl⟩ := exists_channel_of_near? hnear
  have hread : (trunk.nearEnd link.handle).read ++ arrived.bytes <+: Answer.allBytes (trunk.peer.answered link.handle) := by
    refine append_prefix ?_ (horderly.kept _ _ hchannel).written ?_
    · rw [hanswers.read]
      exact Answer.allBytes_prefix (List.take_prefix _ _)
    · rw [nearEnd_eq hnear]
      exact hwritten channel hchannel
  rw [← hbytes] at hread
  -- with this frame the bytes read so far are exactly the answers given to all frames sent
  obtain ⟨hanswer, hall, hleft⟩ := hanswers.answer_of_frame hproper horderly hframes hread hframe
  rw [hbytes, nearEnd_eq hnear] at hall
  have hfetched : (trunk.act link.handle (.fetch arrived.bytes)).nearEnd link.handle
      = channel.near.fetch arrived.bytes := by
    rw [nearEnd_act hnear, Function.update_self]
  have hwhole := h.whole
  rw [nearEnd_eq hnear] at hwhole
  have hle := horderly.length_answered_le h.isOpen
  have hlt := (List.getElem?_eq_some_iff.mp hanswer).1
  have hlength : (frames link.handle).length = earlier.length + 1 := by
    rw [hframes, List.length_append, List.length_singleton]
  refine ⟨⟨?_, fun _ => hleft, ?_, (frames link.handle).length, Nat.le_refl _, ?_, fun i frame hge hframe => ?_, ?_⟩, hanswer⟩
  · rw [near?_act hnear, Function.update_self]
    rfl
  · rw [hfetched]
    exact hwhole
  · rw [peer_act]
    show (frames link.handle).length ≤ (trunk.peer.answered link.handle).length
    omega
  · exact absurd (List.getElem?_eq_some_iff.mp hframe).1 (Nat.not_lt_of_le hge)
  · rw [hfetched, peer_act, List.take_of_length_le hle]
    exact hall

end Trunk

end EventBus
