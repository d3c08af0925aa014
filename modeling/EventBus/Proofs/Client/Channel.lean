import EventBus.Proofs.Service.Noted
import EventBus.Proofs.Wire.Fronts
import Mathlib.Logic.Relation

/-!
# Connections to one peer

All connections that one client ever had to its peer, and what goes on there while the client does something else.

* `Channel` is a connection with all that went over it. A client that has given one up may have left frames on it.
* `Trunk.Step`: a chunk of what was sent reaches the peer, the peer makes a turn in serving one, it comes to the end
  of it, it hangs up, or its state is changed by something else. `Trunk.Moves` is any number of these.
* `Trunk.Kept`: what was taken up on a connection is a first part of what was sent there, it was answered as noted, and
  what was written there are first bytes of the replies. Every step keeps it (`Trunk.Kept.moves`).
-/

namespace EventBus

/-- What a client did on a connection. -/
structure NearEnd where
  /-- What each of its writes put there. -/
  sent : List Bytes := []
  /-- What it found there. -/
  read : Bytes := []

namespace NearEnd

/-- The client sends bytes. -/
def send (bytes : Bytes) (near : NearEnd) : NearEnd :=
  { near with sent := near.sent ++ [bytes] }

/-- The client reads bytes. -/
def fetch (bytes : Bytes) (near : NearEnd) : NearEnd :=
  { near with read := near.read ++ bytes }

end NearEnd

/-- A connection of a client to its peer. -/
@[ext]
structure Channel (τ : Type) where
  /-- The name by which the peer knows it. -/
  token : Token
  near : NearEnd := {}
  /-- What has reached the peer. -/
  delivered : Bytes := []
  inbox : Inbox := .empty
  /-- What the peer is doing with the last chunk. -/
  work : Option (Routine (Noted τ) Reaction) := none
  /-- What the peer has written. -/
  written : Bytes := []
  /-- Whether the peer goes on reading. -/
  isOpen : Bool := true

/-- All connections of a client to its peer, by the numbers under which the client knows them, and the peer. -/
structure Trunk (τ : Type) where
  channel? : Handle → Option (Channel τ)
  peer : Noted τ

variable {τ : Type}

/-- A connection that was just opened. -/
def Channel.opened (token : Token) : Channel τ := { token }

namespace Trunk

/-- What the client did on a connection, if it ever had it. -/
def near? (trunk : Trunk τ) (handle : Handle) : Option NearEnd :=
  (trunk.channel? handle).map Channel.near

/-- What the client did on a connection; nothing, if it was not opened. -/
def nearEnd (trunk : Trunk τ) (handle : Handle) : NearEnd :=
  (trunk.near? handle).getD {}

/-- Puts a connection in place of an earlier one. -/
def put (handle : Handle) (channel : Channel τ) (trunk : Trunk τ) : Trunk τ :=
  { trunk with channel? := Function.update trunk.channel? handle (some channel) }

/-- What a client does at its end of a connection. -/
def act (handle : Handle) (change : NearEnd → NearEnd) (trunk : Trunk τ) : Trunk τ :=
  match trunk.channel? handle with
  | some channel => trunk.put handle { channel with near := change channel.near }
  | none => trunk

/-- What may happen to a trunk without its client. -/
inductive Step (service : FrameService τ) (trunk : Trunk τ) : Trunk τ → Prop where
  | deliver {handle : Handle} {channel : Channel τ} (hchannel : trunk.channel? handle = some channel)
      (hopen : channel.isOpen) (hidle : channel.work = none) (chunk : Bytes) (answers : WriteAnswers)
      (hsent : channel.delivered ++ chunk <+: channel.near.sent.flatten) :
      Step service trunk (trunk.put handle { channel with
        delivered := channel.delivered ++ chunk
        work := some ((service.noted handle).received channel.token channel.inbox chunk answers) })
  | turn {handle : Handle} {channel : Channel τ} {routine : Routine (Noted τ) Reaction}
      (hchannel : trunk.channel? handle = some channel) (hwork : channel.work = some routine) :
      Step service trunk { trunk.put handle { channel with work := some (routine.turn trunk.peer).1 } with
        peer := (routine.turn trunk.peer).2 }
  | conclude {handle : Handle} {channel : Channel τ} {reaction : Reaction}
      (hchannel : trunk.channel? handle = some channel) (hwork : channel.work = some (.done reaction)) :
      Step service trunk (trunk.put handle { channel with
        inbox := reaction.inbox
        work := none
        written := channel.written ++ reaction.written.flatten
        isOpen := channel.isOpen && reaction.failure.isNone })
  /-- The peer reads no more, and may forget what it has read. -/
  | hangUp {handle : Handle} {channel : Channel τ} (hchannel : trunk.channel? handle = some channel) (inbox : Inbox) :
      Step service trunk (trunk.put handle { channel with inbox, isOpen := false })
  /-- Other clients of the peer, and the peer by itself. -/
  | stir {peer : Noted τ} (hgrows : trunk.peer.Grows peer)
      (hkeeps : ∀ handle channel, trunk.channel? handle = some channel → Noted.Keeps handle trunk.peer peer) :
      Step service trunk { trunk with peer }

/-- Any number of steps. -/
def Moves (service : FrameService τ) : Trunk τ → Trunk τ → Prop :=
  Relation.ReflTransGen (Step service)

end Trunk

/-! ## What is kept -/

/-- A peer that does nothing on a connection has done everything that there was to do. -/
structure Channel.Rests (service : FrameService τ) (handle : Handle) (channel : Channel τ) (peer : Noted τ) : Prop where
  sound : (Frame.drain service.maxFrame channel.delivered).failure = none
  inbox : channel.inbox.bytes = (Frame.drain service.maxFrame channel.delivered).rest
  complete : service.Complete handle (Frame.drain service.maxFrame channel.delivered).frames peer
  written : channel.written = Answer.allBytes (peer.answered handle)

/-- What holds of a connection at any time. Between chunks it rests on what has arrived; in the middle of one its worker
goes on within what it was promised. -/
structure Channel.Kept (service : FrameService τ) (handle : Handle) (channel : Channel τ) (peer : Noted τ) : Prop where
  delivered : channel.delivered <+: channel.near.sent.flatten
  logged : service.Logged handle (Frame.drain service.maxFrame channel.delivered).frames peer
  written : channel.written <+: Answer.allBytes (peer.answered handle)
  idle : channel.work = none → channel.isOpen → channel.Rests service handle peer
  busy : ∀ routine, channel.work = some routine →
    routine.Waits (Noted.Keeps handle)
      (service.Advances handle (Frame.drain service.maxFrame channel.delivered).frames)
      (service.Serves handle channel.delivered channel.written) peer

/-- All connections of a trunk are kept. -/
def Trunk.Kept (service : FrameService τ) (trunk : Trunk τ) : Prop :=
  ∀ handle channel, trunk.channel? handle = some channel → channel.Kept service handle trunk.peer

variable {service : FrameService τ} {handle : Handle} {channel : Channel τ} {peer peer' : Noted τ}

/-- What serving a chunk has come to is a matter of the notes about that connection. -/
theorem FrameService.Serves.of_keeps {arrived before : Bytes} {reaction : Reaction}
    (h : service.Serves handle arrived before reaction peer) (hkeeps : Noted.Keeps handle peer peer') :
    service.Serves handle arrived before reaction peer' :=
  ⟨h.leaves.of_keeps hkeeps, h.sound, h.inbox⟩

namespace Channel

theorem Rests.of_keeps (h : channel.Rests service handle peer) (hkeeps : Noted.Keeps handle peer peer') :
    channel.Rests service handle peer' where
  sound := h.sound
  inbox := h.inbox
  complete := h.complete.of_keeps hkeeps
  written := hkeeps.answered ▸ h.written

theorem Rests.act (h : channel.Rests service handle peer) (near : NearEnd) :
    { channel with near }.Rests service handle peer :=
  ⟨h.sound, h.inbox, h.complete, h.written⟩

namespace Kept

/-- Notes about other connections change nothing for this one. -/
theorem of_keeps (h : channel.Kept service handle peer) (hkeeps : Noted.Keeps handle peer peer') :
    channel.Kept service handle peer' where
  delivered := h.delivered
  logged := h.logged.of_keeps hkeeps
  written := hkeeps.answered ▸ h.written
  idle hwork hopen := (h.idle hwork hopen).of_keeps hkeeps
  busy routine hwork := (h.busy routine hwork).of_rely Noted.Keeps.trans hkeeps

/-- A new connection, about which nothing is noted. -/
theorem opened (hbegun : peer.begun handle = []) (hanswered : peer.answered handle = []) (token : Token) :
    (Channel.opened token).Kept service handle peer := by
  have hdrain : Frame.drain service.maxFrame (Channel.opened token : Channel τ).delivered = ⟨[], none, []⟩ :=
    Frame.drain_of_incomplete rfl
  -- no frame has arrived, and none was taken up
  have hcomplete : service.Complete handle [] peer := by
    refine ⟨hbegun, ?_⟩
    rw [hanswered]
    exact .nil
  have hwritten : [] = Answer.allBytes (peer.answered handle) := by
    rw [hanswered]
    rfl
  refine ⟨List.nil_prefix, hcomplete.logged List.nil_prefix, List.nil_prefix, fun _ _ => ?_, nofun⟩
  refine ⟨?_, ?_, ?_, hwritten⟩
  · rw [hdrain]
  · rw [hdrain]
    rfl
  · rw [hdrain]
    exact hcomplete

/-- A chunk arrives: from here on its frames are among those that may be taken up. -/
theorem deliver (h : channel.Kept service handle peer) (hopen : channel.isOpen) (hidle : channel.work = none)
    (chunk : Bytes) (answers : WriteAnswers) (hsent : channel.delivered ++ chunk <+: channel.near.sent.flatten) :
    { channel with
      delivered := channel.delivered ++ chunk
      work := some ((service.noted handle).received channel.token channel.inbox chunk answers) }.Kept
        service handle peer := by
  obtain ⟨hsound, hinbox, hcomplete, hwritten⟩ := h.idle hidle hopen
  -- an idle channel has seen no failure, so the chunk can only add frames
  have hmore : (Frame.drain service.maxFrame channel.delivered).frames
      <+: (Frame.drain service.maxFrame (channel.delivered ++ chunk)).frames := by
    rw [Frame.drain_append hsound]
    exact List.prefix_append _ _
  refine ⟨hsent, h.logged.mono hmore, h.written, nofun, fun routine hroutine found hfound => ?_⟩
  obtain rfl := Option.some.inj hroutine
  have hserved := FrameService.meets_noted_received channel.token hsound hinbox (hcomplete.of_keeps hfound) chunk answers
  rwa [hfound.answered, ← hwritten] at hserved

/-- A turn in serving a chunk advances on this connection only. -/
theorem turn (h : channel.Kept service handle peer) {routine : Routine (Noted τ) Reaction}
    (hwork : channel.work = some routine) :
    service.Advances handle (Frame.drain service.maxFrame channel.delivered).frames peer (routine.turn peer).2
      ∧ { channel with work := some (routine.turn peer).1 }.Kept service handle (routine.turn peer).2 := by
  have hmeets := h.busy routine hwork peer (.refl handle peer)
  obtain ⟨hadvances, hwaits⟩ := hmeets.turn_waits (.of_logged h.logged) FrameService.Serves.of_keeps
  refine ⟨hadvances, h.delivered, hadvances.logged, ?_, nofun, fun rest hrest => ?_⟩
  · exact h.written.trans (Answer.allBytes_prefix hadvances.answered)
  · obtain rfl := Option.some.inj hrest
    exact hwaits

/-- At the end of a chunk, what it has written is behind what was written before. -/
theorem conclude (h : channel.Kept service handle peer) {reaction : Reaction}
    (hwork : channel.work = some (.done reaction)) :
    { channel with
      inbox := reaction.inbox
      work := none
      written := channel.written ++ reaction.written.flatten
      isOpen := channel.isOpen && reaction.failure.isNone }.Kept service handle peer := by
  have hserves : service.Serves handle channel.delivered channel.written reaction peer :=
    h.busy _ hwork peer (.refl handle peer)
  refine ⟨h.delivered, h.logged, hserves.leaves.written_prefix, fun _ hopen => ?_, nofun⟩
  -- a channel that stays open has had no failure
  have hnone : reaction.failure = none := by
    rw [Bool.and_eq_true] at hopen
    exact Option.isNone_iff_eq_none.mp hopen.2
  exact ⟨hserves.sound hnone, hserves.inbox hnone, hserves.leaves.complete hnone, hserves.leaves.written_eq hnone⟩

end Kept

end Channel

namespace Trunk

variable {trunk after : Trunk τ}

@[simp]
theorem channel?_put (handle : Handle) (channel : Channel τ) (trunk : Trunk τ) :
    (trunk.put handle channel).channel? handle = some channel :=
  Function.update_self ..

theorem channel?_put_of_ne {other : Handle} (hother : other ≠ handle) (channel : Channel τ) (trunk : Trunk τ) :
    (trunk.put handle channel).channel? other = trunk.channel? other :=
  Function.update_of_ne hother _ _

/-- A change on one connection, and of the notes on it. -/
theorem Kept.put (h : trunk.Kept service) (hchannel : channel.Kept service handle peer)
    (hothers : ∀ other, other ≠ handle → Noted.Keeps other trunk.peer peer) :
    { trunk.put handle channel with peer }.Kept service := by
  intro other found hfound
  change (trunk.put handle channel).channel? other = some found at hfound
  by_cases hsame : other = handle
  · subst hsame
    rw [channel?_put] at hfound
    obtain rfl := Option.some.inj hfound
    exact hchannel
  · rw [channel?_put_of_ne hsame] at hfound
    exact (h other found hfound).of_keeps (hothers other hsame)

/-- The same, where nothing is noted. -/
theorem Kept.put_self (h : trunk.Kept service) (hchannel : channel.Kept service handle trunk.peer) :
    (trunk.put handle channel).Kept service :=
  h.put hchannel fun other _ => .refl other trunk.peer

/-- Every step keeps all connections: the one that it is about by its own lemma, the others because it makes no notes
about them. -/
theorem Kept.step (h : trunk.Kept service) (hstep : Step service trunk after) : after.Kept service := by
  cases hstep with
  | deliver hchannel hopen hidle chunk answers hsent =>
    exact h.put_self ((h _ _ hchannel).deliver hopen hidle chunk answers hsent)
  | turn hchannel hwork =>
    -- the only step in which the peer makes notes, and these are about the connection that it serves
    obtain ⟨hadvances, hkept⟩ := (h _ _ hchannel).turn hwork
    exact h.put hkept hadvances.others
  | conclude hchannel hwork => exact h.put_self ((h _ _ hchannel).conclude hwork)
  | hangUp hchannel inbox =>
    have hkept := h _ _ hchannel
    exact h.put_self ⟨hkept.delivered, hkept.logged, hkept.written, fun _ hopen => absurd hopen Bool.false_ne_true, hkept.busy⟩
  | stir hgrows hkeeps =>
    exact fun handle channel hchannel => (h handle channel hchannel).of_keeps (hkeeps handle channel hchannel)

/-- Any number of steps keep what holds of all connections. -/
theorem Kept.moves (h : trunk.Kept service) (hmoves : Moves service trunk after) : after.Kept service := by
  induction hmoves with
  | refl => exact h
  | tail _ hstep ih => exact ih.step hstep

/-! ## What a client sees -/

/-- Nothing changes at the near ends, and what is noted is behind the old notes. -/
structure Extends (before after : Trunk τ) : Prop where
  near : after.near? = before.near?
  grows : before.peer.Grows after.peer

theorem Extends.refl (trunk : Trunk τ) : trunk.Extends trunk := ⟨rfl, .refl trunk.peer⟩

theorem Extends.trans {later : Trunk τ} (h : trunk.Extends after) (h' : after.Extends later) : trunk.Extends later :=
  ⟨h'.near.trans h.near, h.grows.trans h'.grows⟩

/-- What goes on at the other end leaves the near end as it is. -/
theorem Extends.nearEnd (h : trunk.Extends after) (handle : Handle) : after.nearEnd handle = trunk.nearEnd handle := by
  unfold Trunk.nearEnd
  rw [h.near]

/-- The near ends after one connection has changed. -/
theorem near?_put (handle : Handle) (channel : Channel τ) (trunk : Trunk τ) :
    (trunk.put handle channel).near? = Function.update trunk.near? handle (some channel.near) := by
  funext other
  by_cases hsame : other = handle
  · subst hsame
    rw [Function.update_self, near?, channel?_put]
    rfl
  · rw [Function.update_of_ne hsame, near?, channel?_put_of_ne hsame]
    rfl

/-- Another state of a connection whose near end is as it was. -/
theorem near?_put_of_eq (hchannel : trunk.channel? handle = some channel) {changed : Channel τ}
    (hnear : changed.near = channel.near) : (trunk.put handle changed).near? = trunk.near? := by
  rw [near?_put, hnear]
  refine Function.update_eq_self_iff.mpr ?_
  rw [near?, hchannel]
  rfl

/-- A step of the peer does nothing at the near end, and only adds to the notes. -/
theorem Kept.extends (h : trunk.Kept service) (hstep : Step service trunk after) : trunk.Extends after := by
  cases hstep with
  | deliver hchannel => exact ⟨near?_put_of_eq hchannel rfl, .refl _⟩
  | @turn handle channel routine hchannel hwork =>
    obtain ⟨hadvances, -⟩ := (h _ _ hchannel).turn hwork
    exact ⟨near?_put_of_eq hchannel rfl, hadvances.grows⟩
  | conclude hchannel => exact ⟨near?_put_of_eq hchannel rfl, .refl _⟩
  | hangUp hchannel => exact ⟨near?_put_of_eq hchannel rfl, .refl _⟩
  | stir hgrows => exact ⟨rfl, hgrows⟩

/-- Any number of steps of the peer do nothing at the near ends, and only add to the notes. -/
theorem Kept.extends_of_moves (h : trunk.Kept service) (hmoves : Moves service trunk after) : trunk.Extends after := by
  induction hmoves with
  | refl => exact .refl trunk
  | tail hmoves hstep ih => exact ih.trans ((h.moves hmoves).extends hstep)

/-! ## What a client does -/

variable {near : NearEnd} {change : NearEnd → NearEnd}

theorem exists_channel_of_near? (hnear : trunk.near? handle = some near) :
    ∃ channel, trunk.channel? handle = some channel ∧ channel.near = near :=
  Option.map_eq_some_iff.mp hnear

/-- The client acts on a connection that is there. -/
theorem act_eq (hchannel : trunk.channel? handle = some channel) (change : NearEnd → NearEnd) :
    trunk.act handle change = trunk.put handle { channel with near := change channel.near } := by
  unfold act
  rw [hchannel]

theorem near?_act (hnear : trunk.near? handle = some near) (change : NearEnd → NearEnd) :
    (trunk.act handle change).near? = Function.update trunk.near? handle (some (change near)) := by
  obtain ⟨channel, hchannel, rfl⟩ := exists_channel_of_near? hnear
  rw [act_eq hchannel, near?_put]

/-- The peer does not notice before something arrives. -/
theorem peer_act (handle : Handle) (change : NearEnd → NearEnd) (trunk : Trunk τ) :
    (trunk.act handle change).peer = trunk.peer := by
  unfold act
  split <;> rfl

/-- A client may send and fetch where it likes. -/
theorem Kept.act (h : trunk.Kept service) (handle : Handle)
    (hchange : ∀ near, near.sent.flatten <+: (change near).sent.flatten) : (trunk.act handle change).Kept service := by
  unfold Trunk.act
  split
  · next channel hchannel =>
    have hkept := h handle channel hchannel
    exact h.put_self ⟨hkept.delivered.trans (hchange channel.near), hkept.logged, hkept.written,
      fun hwork hopen => (hkept.idle hwork hopen).act _, hkept.busy⟩
  · exact h

/-- The near end of a connection that is there. -/
theorem nearEnd_eq (hnear : trunk.near? handle = some near) : trunk.nearEnd handle = near := by
  unfold nearEnd
  rw [hnear]
  rfl

/-- The near ends after the client has acted on one of them. -/
theorem nearEnd_act (hnear : trunk.near? handle = some near) (change : NearEnd → NearEnd) :
    (trunk.act handle change).nearEnd = Function.update trunk.nearEnd handle (change near) := by
  funext other
  unfold nearEnd
  rw [near?_act hnear]
  by_cases hsame : other = handle
  · subst hsame
    rw [Function.update_self, Function.update_self]
    rfl
  · rw [Function.update_of_ne hsame, Function.update_of_ne hsame]

/-- A connection that is opened has not been used. -/
theorem nearEnd_opened (hnone : trunk.channel? handle = none) (token : Token) :
    (trunk.put handle (.opened token)).nearEnd = trunk.nearEnd := by
  funext other
  unfold nearEnd
  rw [near?_put]
  by_cases hsame : other = handle
  · subst hsame
    rw [Function.update_self, near?, hnone]
    rfl
  · rw [Function.update_of_ne hsame]

end Trunk

end EventBus
