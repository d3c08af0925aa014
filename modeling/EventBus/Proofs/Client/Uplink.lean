import EventBus.Client
import EventBus.Proofs.Client.Orderly

/-!
# Calls over connections that may fail

What a client may rely on is that bytes come out of a connection in the order in which they went in, and that its peer
is the service it should be. A connection may fail at any time; then a first part of what was written has gone in.

* `Uplink` states this for the operations of a client's surroundings.
* `Uplink.Settled`: the frames that were sent are in order, and the connection that is kept, if there is one, is ready.
* `Uplink.push_settled`, `Uplink.call_settled`: a call sends at most one frame, on one connection, and leaves the client
  settled. A call that is answered has the answer to the frame that it has sent.
-/

namespace EventBus

variable {σ τ : Type}

/-- Connections of a client to a peer that runs a service. -/
structure Uplink (service : FrameService τ) (env : Environment σ) where
  trunk : σ → Trunk τ
  connects : ∀ {endpoint world handle after}, env.connect endpoint world = (.ok handle, after) →
    ∃ between token, Trunk.Moves service (trunk world) between ∧ between.channel? handle = none
      ∧ between.peer.begun handle = [] ∧ between.peer.answered handle = []
      ∧ trunk after = between.put handle (.opened token)
  connects_not : ∀ {endpoint world e after}, env.connect endpoint world = (.error e, after) →
    Trunk.Moves service (trunk world) (trunk after)
  /-- A write that fails may have sent a first part of its bytes. -/
  writes : ∀ {handle bytes world result after}, ((trunk world).near? handle).isSome →
    env.write handle bytes world = (result, after) →
    ∃ between front, Trunk.Moves service (trunk world) between ∧ front <+: bytes ∧ (result = .ok () → front = bytes)
      ∧ trunk after = between.act handle (.send front)
  /-- What a client finds was written by the peer, behind what the client has found before. -/
  receives : ∀ {handle limit world reader after}, ((trunk world).near? handle).isSome →
    env.receive handle limit world = (reader, after) →
    ∃ between, Trunk.Moves service (trunk world) between
      ∧ (∀ channel, between.channel? handle = some channel →
        reader.bytes <+: channel.written.drop channel.near.read.length)
      ∧ trunk after = between.act handle (.fetch reader.bytes)
  closes : ∀ handle world, Trunk.Moves service (trunk world) (trunk (env.close handle world))

namespace Uplink

/-- A call sends its frame on one connection, or not at all. -/
inductive Posts (frame : Frame) (frames : Handle → List Frame) : (Handle → List Frame) → Prop where
  | none : Posts frame frames frames
  | one (handle : Handle) : Posts frame frames (Function.update frames handle (frames handle ++ [frame]))

variable {service : FrameService τ} {env : Environment σ} {client : Client} {session left : Session σ} {world after : σ}
  {frames : Handle → List Frame} {frame : Frame} {link : Link}

/-- What a client leaves behind between two calls. -/
structure Settled (uplink : Uplink service env) (session : Session σ) (frames : Handle → List Frame) : Prop where
  orderly : (uplink.trunk session.world).Orderly service frames
  ready : ∀ link, session.link = some link →
    (uplink.trunk session.world).Ready link (frames link.handle) (frames link.handle)

/-- What is noted at the peer. -/
abbrev peer (uplink : Uplink service env) (world : σ) : Noted τ :=
  (uplink.trunk world).peer

variable {uplink : Uplink service env}

/-! ## One operation -/

/-- The connection that is kept is ready. A new one is, because nothing was sent on it. -/
theorem acquire_settled (h : uplink.Settled session frames) {result : Except TransportError Link}
    (hacquire : client.acquire env session = (result, left)) :
    uplink.Settled left frames ∧ (uplink.peer session.world).Grows (uplink.peer left.world)
      ∧ ∀ link, result = .ok link → left.link = some link := by
  unfold Client.acquire at hacquire
  -- a connection is kept, or one is made
  split at hacquire
  · next link hlink =>
    cases hacquire
    exact ⟨h, .refl _, fun other hother => hlink.trans (congrArg some (Except.ok.inj hother))⟩
  · split at hacquire
    · next handle world hconnect =>
      cases hacquire
      obtain ⟨between, token, hmoves, hnone, hbegun, hanswered, htrunk⟩ := uplink.connects hconnect
      obtain ⟨horderly, hextends⟩ := h.orderly.moves hmoves
      refine ⟨⟨?_, fun link hlink => ?_⟩, ?_, fun link hlink => congrArg some (Except.ok.inj hlink)⟩
      · rw [htrunk]
        exact horderly.opened hnone hbegun hanswered token
      · obtain rfl := Option.some.inj hlink
        rw [htrunk]
        exact horderly.ready_opened hnone token
      · unfold peer
        rw [htrunk]
        exact hextends.grows
    · next e world hconnect =>
      cases hacquire
      obtain ⟨horderly, hextends⟩ := h.orderly.moves (uplink.connects_not hconnect)
      exact ⟨⟨horderly, nofun⟩, hextends.grows, nofun⟩

/-- With the connection closed, the frames are still in order. -/
theorem close_settled (h : (uplink.trunk world).Orderly service frames) (handle : Handle) :
    uplink.Settled ⟨none, env.close handle world⟩ frames
      ∧ (uplink.peer world).Grows (uplink.peer (env.close handle world)) := by
  obtain ⟨horderly, hextends⟩ := h.moves (uplink.closes handle world)
  exact ⟨⟨horderly, nofun⟩, hextends.grows⟩

/-- A write puts a first part of the frame on the connection, and the whole of it if it succeeds. -/
theorem send_ready (horderly : (uplink.trunk world).Orderly service frames)
    (hready : (uplink.trunk world).Ready link (frames link.handle) (frames link.handle))
    (hfits : frame.body.length ≤ Bytes.maxLength) {result : Except TransportError Unit}
    (hsend : client.send env frame.encode link world = (result, after)) :
    (uplink.trunk after).Orderly service (Function.update frames link.handle (frames link.handle ++ [frame]))
      ∧ (uplink.peer world).Grows (uplink.peer after)
      ∧ (result = .ok () → (uplink.trunk after).Ready link (frames link.handle ++ [frame]) (frames link.handle)) := by
  unfold Client.send at hsend
  generalize hwrite : env.write link.handle frame.encode world = written at hsend
  obtain ⟨answer, world'⟩ := written
  cases hsend
  -- before the write is done the peer may have made any moves of its own
  obtain ⟨between, front, hmoves, hfront, hok, htrunk⟩ := uplink.writes hready.isOpen hwrite
  obtain ⟨hbetween, hextends⟩ := horderly.moves hmoves
  replace hready := hready.extends hextends
  obtain ⟨near, hnear⟩ := Option.isSome_iff_exists.mp hready.isOpen
  have hwhole := hready.whole
  rw [Trunk.nearEnd_eq hnear] at hwhole
  refine ⟨?_, ?_, fun hsent => ?_⟩
  · rw [htrunk]
    exact hbetween.send hnear hwhole hfits hfront
  · unfold peer
    rw [htrunk, Trunk.peer_act]
    exact hextends.grows
  · have hall : front = frame.encode := by
      cases answer with
      | error e => cases hsent
      | ok done => exact hok rfl
    subst hall
    rw [htrunk]
    exact hready.send hnear frame

/-- A read that succeeds gives the answer to the last frame, and leaves the connection ready. -/
theorem receive_ready (hproper : service.Proper) (horderly : (uplink.trunk world).Orderly service frames)
    {earlier : List Frame} (hframes : frames link.handle = earlier ++ [frame])
    (hready : (uplink.trunk world).Ready link (frames link.handle) earlier) {result : Except TransportError Frame}
    {kept : Link} (hreceive : client.receive env link world = (result, kept, after)) :
    (uplink.trunk after).Orderly service frames ∧ (uplink.peer world).Grows (uplink.peer after)
      ∧ kept.handle = link.handle
      ∧ ∀ reply, result = .ok reply →
        (uplink.trunk after).Ready kept (frames link.handle) (frames link.handle)
          ∧ ((uplink.peer after).answered link.handle)[earlier.length]? = some (.reply reply) := by
  unfold Client.receive at hreceive
  generalize harrived : env.receive link.handle client.limit world = received at hreceive
  obtain ⟨arrived, world'⟩ := received
  dsimp only at hreceive
  generalize hframe : Frame.Reader.frame client.maxFrame client.reportedLimit
    ⟨link.unread ++ arrived.arrivals, arrived.ending⟩ = taken at hreceive
  obtain ⟨answer, reader⟩ := taken
  cases hreceive
  -- while the client waits the peer goes on; what is fetched is of what it had written by then
  obtain ⟨between, hmoves, hwritten, htrunk⟩ := uplink.receives hready.isOpen harrived
  obtain ⟨hbetween, hextends⟩ := horderly.moves hmoves
  replace hready := hready.extends hextends
  obtain ⟨near, hnear⟩ := Option.isSome_iff_exists.mp hready.isOpen
  refine ⟨?_, ?_, rfl, fun reply hreply => ?_⟩
  · rw [htrunk]
    exact hbetween.fetch hnear arrived.bytes
  · unfold peer
    rw [htrunk, Trunk.peer_act]
    exact hextends.grows
  · subst hreply
    unfold peer
    rw [htrunk, Trunk.peer_act]
    exact hready.fetch hproper hbetween hframes hnear hwritten hframe

/-! ## Calls -/

/-- What a call makes of the frames that were sent, and of what is noted at the peer. -/
structure Sends (uplink : Uplink service env) (frame : Frame) (before : Session σ) (frames : Handle → List Frame)
    (after : Session σ) (frames' : Handle → List Frame) : Prop where
  posts : Posts frame frames frames'
  settled : uplink.Settled after frames'
  grows : (uplink.peer before.world).Grows (uplink.peer after.world)

/-- What is taken from a connection on which a frame was sent leaves it ready, if it can be taken. `good` says what
it has to do with the answer to the frame. -/
def Takes {α : Type} (uplink : Uplink service env) (frame : Frame) (good : α → Option Answer → Prop)
    (take : Link → σ → Except TransportError α × Link × σ) : Prop :=
  ∀ ⦃frames earlier link world result kept after⦄, (uplink.trunk world).Orderly service frames →
    frames link.handle = earlier ++ [frame] → (uplink.trunk world).Ready link (frames link.handle) earlier →
    take link world = (result, kept, after) →
    (uplink.trunk after).Orderly service frames ∧ (uplink.peer world).Grows (uplink.peer after)
      ∧ kept.handle = link.handle
      ∧ ∀ value, result = .ok value →
        (uplink.trunk after).Ready kept (frames link.handle) (frames link.handle)
          ∧ good value ((uplink.peer after).answered link.handle)[earlier.length]?

/-- A frame is sent, and what is taken then decides whether the connection is kept. Whatever fails on the way
closes it. -/
theorem exchange_settled {α : Type} {good : α → Option Answer → Prop}
    {take : Link → σ → Except TransportError α × Link × σ} (htake : uplink.Takes frame good take)
    (h : uplink.Settled session frames) (hfits : frame.body.length ≤ Bytes.maxLength)
    {result : Except TransportError α} (hexchange : client.exchange env frame.encode take session = (result, left)) :
    ∃ frames', uplink.Sends frame session frames left frames'
      ∧ ∀ value, result = .ok value →
        ∃ handle, frames' = Function.update frames handle (frames handle ++ [frame])
          ∧ good value ((uplink.peer left.world).answered handle)[(frames handle).length]? := by
  unfold Client.exchange at hexchange
  generalize hacquire : client.acquire env session = acquired at hexchange
  obtain ⟨e | link, opened⟩ := acquired
  · cases hexchange
    obtain ⟨hsettled, hgrows, -⟩ := acquire_settled h hacquire
    exact ⟨frames, ⟨.none, hsettled, hgrows⟩, nofun⟩
  · obtain ⟨hsettled, hopened, hlink⟩ := acquire_settled h hacquire
    have hready := hsettled.ready link (hlink link rfl)
    dsimp only at hexchange
    generalize hsend : client.send env frame.encode link opened.world = sent at hexchange
    obtain ⟨sending, world⟩ := sent
    obtain ⟨horderly, hgrows, hsent⟩ := send_ready hsettled.orderly hready hfits hsend
    let frames' := Function.update frames link.handle (frames link.handle ++ [frame])
    have hposts : Posts frame frames frames' := .one link.handle
    have hframes : frames' link.handle = frames link.handle ++ [frame] := Function.update_self ..
    cases sending with
    | error e =>
      cases hexchange
      -- the frame counts as posted also where sending it failed: part of it may have arrived
      obtain ⟨hclosed, hlast⟩ := close_settled horderly link.handle
      exact ⟨frames', ⟨hposts, hclosed, (hopened.trans hgrows).trans hlast⟩, nofun⟩
    | ok done =>
      replace hsent := hsent rfl
      rw [← hframes] at hsent
      dsimp only at hexchange
      generalize htaken : take link world = taken at hexchange
      obtain ⟨answer, kept, found⟩ := taken
      obtain ⟨hfound, hmore, hhandle, hgood⟩ := htake horderly hframes hsent htaken
      have hall := (hopened.trans hgrows).trans hmore
      cases answer with
      | error e =>
        cases hexchange
        obtain ⟨hclosed, hlast⟩ := close_settled hfound kept.handle
        exact ⟨frames', ⟨hposts, hclosed, hall.trans hlast⟩, nofun⟩
      | ok value =>
        cases hexchange
        obtain ⟨hready, hanswer⟩ := hgood value rfl
        refine ⟨frames', ⟨hposts, ⟨hfound, fun other hother => ?_⟩, hall⟩, fun other hother => ⟨link.handle, rfl, ?_⟩⟩
        · obtain rfl := Option.some.inj hother
          rw [hhandle]
          exact hready
        · obtain rfl := Except.ok.inj hother
          exact hanswer

theorem takes_nothing {envelope : Envelope} :
    uplink.Takes (.push envelope) (fun _ _ => True) fun link world => (.ok (), link, world) := by
  intro frames earlier link world result kept after horderly hframes hready htake
  cases htake
  refine ⟨horderly, .refl _, rfl, fun _ _ => ⟨?_, trivial⟩⟩
  rw [hframes] at hready ⊢
  exact hready.push

theorem takes_reply (hproper : service.Proper) (frame : Frame) :
    uplink.Takes frame (fun reply answer => answer = some (.reply reply)) (client.receive env) :=
  fun _ _ _ _ _ _ _ horderly hframes hready hreceive => receive_ready hproper horderly hframes hready hreceive

/-- A push sends its frame at most once, and leaves the client settled. -/
theorem push_settled (h : uplink.Settled session frames) {envelope : Envelope} {result : Except TransportError Unit}
    (hpush : client.push env envelope session = (result, left)) :
    ∃ frames', uplink.Sends (.push envelope) session frames left frames' := by
  unfold Client.push at hpush
  split at hpush
  · cases hpush
    exact ⟨frames, .none, h, .refl _⟩
  · next bytes hencode =>
    obtain ⟨hfits, rfl⟩ := Frame.encodeWithin_eq_ok_iff.mp hencode
    obtain ⟨frames', hsends, -⟩ := exchange_settled takes_nothing h (by omega) hpush
    exact ⟨frames', hsends⟩

/-- A call that is answered has the answer to the frame that it has sent. -/
theorem call_settled (hproper : service.Proper) (h : uplink.Settled session frames)
    {result : Except TransportError Frame} (hcall : client.call env frame session = (result, left)) :
    ∃ frames', uplink.Sends frame session frames left frames'
      ∧ ∀ reply, result = .ok reply →
        ∃ handle, frames' = Function.update frames handle (frames handle ++ [frame])
          ∧ ((uplink.peer left.world).answered handle)[(frames handle).length]? = some (.reply reply) := by
  unfold Client.call at hcall
  split at hcall
  · cases hcall
    exact ⟨frames, ⟨.none, h, .refl _⟩, nofun⟩
  · next bytes hencode =>
    obtain ⟨hfits, rfl⟩ := Frame.encodeWithin_eq_ok_iff.mp hencode
    exact exchange_settled (takes_reply hproper frame) h (by omega) hcall

end Uplink

end EventBus
