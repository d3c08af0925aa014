import EventBus.Proofs.Client.Calls
import EventBus.Proofs.Host.Replies
import EventBus.Proofs.Wire.Stream
import Mathlib.Logic.Function.Basic

/-!
# Calls over connections that work

A network is described by what clients and hosts see of it: bytes that go in at one end of a connection come out
at the other one, in order and in any pieces.

* `Outpost` is a host whose handler depends on what it is given only. `Outpost.Writes` is what it may write to a
  connection when some bytes have reached it there.
* `Network` collects what connections that work do. It says nothing of frames, events or replies.
* `Awaits`: which frames were sent on a connection without their replies being read. A call begins and ends with
  none of these (`continues_exchange`).
* `continues_request`, `continues_push`: a delivery over a network works, and a request gives what the handler of the
  host comes to.
-/

namespace EventBus

variable {c : Catalog} {σ τ : Type}

/-! ## Hosts and the connections to them -/

/-- A host whose handler depends on the event and the out-structure only. -/
structure Outpost (c : Catalog) (τ : Type) where
  config : Config
  handler : Handler c τ
  behaviour : Behaviour c
  shows : handler.Shows (fun _ _ => True) behaviour

namespace Outpost

/-- What a host may have written to a connection when all that was sent on it has reached it. It arrived in any
chunks, other threads of the host did anything in between, and sockets took what was written in any pieces. -/
inductive Writes (outpost : Outpost c τ) : (sent written : Bytes) → Prop where
  | served {token : Token} {chunks : List Bytes} {answers : WriteAnswers} {others : τ → τ → Prop} {before after : τ}
      {pieces : List Bytes} {failure : Option TransportError}
      (hanswers : ∀ attempts ∈ answers, ∀ answer ∈ attempts, answer.getsOn)
      (hserved : ((Host.service outpost.config outpost.handler).receiveAll token .empty chunks answers).Comes others
        before (pieces, failure) after) :
    Writes outpost chunks.flatten pieces.flatten

/-- Whether a host serves a frame: it delivers an event and is not too large. -/
def Takes (outpost : Outpost c τ) (frame : Frame) : Prop :=
  frame.isDelivery ∧ frame.body.length ≤ min outpost.config.maxFrame Bytes.maxLength

/-- What a host writes when it has answered some frames. -/
def replies (outpost : Outpost c τ) (frames : List Frame) : Bytes :=
  (frames.filterMap (Host.replyTo outpost.behaviour)).flatMap Frame.encode

theorem replies_append (outpost : Outpost c τ) (front back : List Frame) :
    outpost.replies (front ++ back) = outpost.replies front ++ outpost.replies back := by
  rw [replies, List.filterMap_append, List.flatMap_append]
  rfl

/-- What a host may write when whole frames have reached it is the replies to them. -/
theorem Writes.eq_replies {outpost : Outpost c τ} {sent written : Bytes} (h : outpost.Writes sent written)
    {frames : List Frame} (htakes : ∀ frame ∈ frames, outpost.Takes frame)
    (hsent : sent = frames.flatMap Frame.encode) : written = outpost.replies frames := by
  cases h with
  | served hanswers hserved =>
    have hresult := Host.comes_receiveAll outpost.shows (fun frame hframe => (htakes frame hframe).1)
      (fun frame hframe => (htakes frame hframe).2) hsent hanswers hserved
    -- which failure ended the connection does not matter: there was none
    rw [(Prod.mk.inj hresult).1, replies, List.flatMap_def]

end Outpost

/-- A connection as a network shows it. -/
structure Line where
  endpoint : Endpoint
  /-- All that the client has written to it. -/
  sent : Bytes := []
  /-- How much of what the host has written to it the client has fetched. -/
  fetched : Nat := 0

/-- Surroundings in which connections to hosts work. -/
structure Network (env : Environment σ) (outposts : Endpoint → Option (Outpost c τ)) where
  /-- The connections that are open. -/
  line? : σ → Handle → Option Line
  /-- Where a host listens, a new connection opens, and the others stay as they are. -/
  connects {endpoint : Endpoint} {outpost : Outpost c τ} (hlistens : outposts endpoint = some outpost) (world : σ) :
    ∃ handle after, env.connect endpoint world = (.ok handle, after) ∧ line? world handle = none
      ∧ line? after = Function.update (line? world) handle (some { endpoint })
  /-- What is written to a connection is behind all that was sent on it. -/
  writes {world : σ} {handle : Handle} {line : Line} (hline : line? world handle = some line) (bytes : Bytes) :
    ∃ after, env.write handle bytes world = (.ok (), after)
      ∧ line? after = Function.update (line? world) handle (some { line with sent := line.sent ++ bytes })
  /-- A client that waits finds what the host writes and it has not fetched yet. -/
  receives {world : σ} {handle : Handle} {line : Line} {outpost : Outpost c τ}
    (hline : line? world handle = some line) (hlistens : outposts line.endpoint = some outpost)
    (limit : Option Duration) :
    ∃ reader after written, env.receive handle limit world = (reader, after) ∧ outpost.Writes line.sent written
      ∧ reader.bytes = written.drop line.fetched
      ∧ line? after = Function.update (line? world) handle (some { line with fetched := written.length })

namespace Network

variable {env : Environment σ} {outposts : Endpoint → Option (Outpost c τ)} (net : Network env outposts)
  {client : Client} {outpost : Outpost c τ} {world after : σ} {link : Link} {frame reply : Frame}

/-- The frames sent on a connection to a host, in front of the pending ones, have their replies read. -/
def Awaits (outpost : Outpost c τ) (endpoint : Endpoint) (pending : List Frame) (link : Link) (world : σ) : Prop :=
  ∃ answered, (∀ frame ∈ answered ++ pending, outpost.Takes frame)
    ∧ net.line? world link.handle
      = some ⟨endpoint, (answered ++ pending).flatMap Frame.encode, (outpost.replies answered).length⟩
    ∧ (Frame.Reader.mk link.unread .closed).bytes = []

/-- No reply is pending on the connection. -/
abbrev Settled (outpost : Outpost c τ) (endpoint : Endpoint) (link : Link) (world : σ) : Prop :=
  net.Awaits outpost endpoint [] link world

variable {net}

/-- What a connection awaits is a matter of its own line. -/
theorem Awaits.of_line {endpoint : Endpoint} {pending : List Frame} (h : net.Awaits outpost endpoint pending link world)
    (hline : net.line? after link.handle = net.line? world link.handle) :
    net.Awaits outpost endpoint pending link after := by
  obtain ⟨answered, htakes, hsame, hunread⟩ := h
  exact ⟨answered, htakes, hline.trans hsame, hunread⟩

variable (net) in
/-- Of the connections that are open, no other one has changed. -/
def OnlyAt (handle : Handle) (before after : σ) : Prop :=
  ∀ other, other ≠ handle → net.line? after other = net.line? before other

theorem OnlyAt.trans {handle : Handle} {before middle after : σ} (h : net.OnlyAt handle before middle)
    (h' : net.OnlyAt handle middle after) : net.OnlyAt handle before after :=
  fun other hother => (h' other hother).trans (h other hother)

theorem onlyAt_update {handle : Handle} {line : Line}
    (h : net.line? after = Function.update (net.line? world) handle (some line)) : net.OnlyAt handle world after := by
  intro other hother
  rw [h, Function.update_of_ne hother]

/-! ## The steps of a call -/

/-- A frame that is written to a connection becomes pending. -/
theorem awaits_send (h : net.Settled outpost client.endpoint link world) (htakes : outpost.Takes frame) :
    ∃ after, client.send env frame.encode link world = (.ok (), after)
      ∧ net.Awaits outpost client.endpoint [frame] link after ∧ net.OnlyAt link.handle world after := by
  obtain ⟨answered, hanswered, hline, hunread⟩ := h
  obtain ⟨after, hwrite, hupdated⟩ := net.writes hline frame.encode
  refine ⟨after, by rw [Client.send, hwrite]; rfl, ⟨answered, ?_, ?_, hunread⟩, onlyAt_update hupdated⟩
  · simpa [or_imp, forall_and] using ⟨by simpa using hanswered, htakes⟩
  · rw [hupdated, Function.update_self]
    simp

/-- A frame without a reply leaves nothing pending. -/
theorem Awaits.settled (h : net.Awaits outpost client.endpoint [frame] link world)
    (hsilent : Host.replyTo outpost.behaviour frame = none) : net.Settled outpost client.endpoint link world := by
  obtain ⟨answered, htakes, hline, hunread⟩ := h
  refine ⟨answered ++ [frame], by simpa using htakes, ?_, hunread⟩
  have hnothing : outpost.replies [frame] = [] := by rw [Outpost.replies, List.filterMap_cons_none hsilent]; rfl
  rw [hline, outpost.replies_append, hnothing, List.append_nil, List.append_nil]

/-- A reply that is pending and fits is read, and none is pending then. -/
theorem awaits_receive (hlistens : outposts client.endpoint = some outpost)
    (h : net.Awaits outpost client.endpoint [frame] link world)
    (hreply : Host.replyTo outpost.behaviour frame = some reply) (hfits : reply.body.length ≤ client.largest) :
    ∃ unread after, client.receive env link world = (.ok reply.asSent, ⟨link.handle, unread⟩, after)
      ∧ net.Settled outpost client.endpoint ⟨link.handle, unread⟩ after ∧ net.OnlyAt link.handle world after := by
  obtain ⟨answered, htakes, hline, hunread⟩ := h
  obtain ⟨reader, after, written, hreceive, hwrites, hbytes, hupdated⟩ := net.receives hline hlistens client.limit
  -- what has not been fetched is the reply to the pending frame
  obtain rfl := hwrites.eq_replies htakes rfl
  have hlast : outpost.replies [frame] = reply.encode := by
    rw [Outpost.replies, List.filterMap_cons_some hreply]
    simp
  rw [outpost.replies_append, List.drop_left, hlast] at hbytes
  -- nothing is in front of it, whatever pieces the last call has left
  have harrives : (Frame.Reader.mk (link.unread ++ reader.arrivals) reader.ending).bytes = reply.encode ++ [] := by
    rw [Frame.Reader.bytes_append, List.append_nil]
    exact (congrArg (· ++ reader.bytes) hunread).trans hbytes
  obtain ⟨left, hframe, hleft⟩ := Frame.Reader.frame_encode hfits harrives client.reportedLimit
  refine ⟨left.arrivals, after, ?_, ⟨answered ++ [frame], by simpa using htakes, ?_, hleft⟩, onlyAt_update hupdated⟩
  · rw [Client.receive, hreceive]
    dsimp only
    rw [hframe]
  · rw [hupdated, Function.update_self, List.append_nil]

/-! ## Calls -/

variable {session : Session σ}

variable (net) in
/-- The connection of a session with a host, if one is open, is settled. -/
def Ready (outpost : Outpost c τ) (endpoint : Endpoint) (session : Session σ) : Prop :=
  ∀ link, session.link = some link → net.Settled outpost endpoint link session.world

variable (net) in
/-- What a session with a host is when a call has worked: its connection is settled, and it is the one that was
open or a new one. -/
inductive Continues (outpost : Outpost c τ) (endpoint : Endpoint) (before : Session σ) : Session σ → Prop where
  | kept {link : Link} {after : σ} (hsettled : net.Settled outpost endpoint link after)
      (honly : net.OnlyAt link.handle before.world after)
      (hown : (∃ old, before.link = some old ∧ old.handle = link.handle) ∨ net.line? before.world link.handle = none) :
    Continues outpost endpoint before ⟨some link, after⟩

/-- A connection that is kept is used, or a new one is made on which nothing is pending. -/
theorem continues_acquire (hlistens : outposts client.endpoint = some outpost)
    (hready : net.Ready outpost client.endpoint session) :
    ∃ link world, client.acquire env session = (.ok link, ⟨some link, world⟩)
      ∧ net.Continues outpost client.endpoint session ⟨some link, world⟩ := by
  obtain ⟨link?, world⟩ := session
  cases link? with
  | some link => exact ⟨link, world, rfl, .kept (hready link rfl) (fun _ _ => rfl) (.inl ⟨link, rfl, rfl⟩)⟩
  | none =>
    -- on a new connection no frame was sent and nothing was read
    obtain ⟨handle, after, hconnect, hnew, hupdated⟩ := net.connects hlistens world
    refine ⟨⟨handle, []⟩, after, by rw [Client.acquire]; dsimp only; rw [hconnect], ?_⟩
    refine .kept ⟨[], by simp, ?_, rfl⟩ (onlyAt_update hupdated) (.inr hnew)
    rw [hupdated, Function.update_self]
    rfl

/-- A frame is exchanged for what the client asks of the connection while it awaits the reply. -/
theorem continues_exchange {α : Type} {answer : Link → σ → Except TransportError α × Link × σ} {value : α}
    (hlistens : outposts client.endpoint = some outpost) (hready : net.Ready outpost client.endpoint session)
    (htakes : outpost.Takes frame)
    (hanswer : ∀ link world, net.Awaits outpost client.endpoint [frame] link world →
      ∃ unread after, answer link world = (.ok value, ⟨link.handle, unread⟩, after)
        ∧ net.Settled outpost client.endpoint ⟨link.handle, unread⟩ after ∧ net.OnlyAt link.handle world after) :
    ∃ left, client.exchange env frame.encode answer session = (.ok value, left)
      ∧ net.Continues outpost client.endpoint session left := by
  obtain ⟨link, opened, hacquire, ⟨hsettled, honly, hown⟩⟩ := continues_acquire hlistens hready
  -- the frame is at the far end now, and nothing but its answer is outstanding
  obtain ⟨sent, hsend, hawaits, honlySent⟩ := awaits_send hsettled htakes
  obtain ⟨unread, after, hvalue, hleft, honlyAnswered⟩ := hanswer link sent hawaits
  refine ⟨⟨some ⟨link.handle, unread⟩, after⟩, ?_, .kept hleft (honly.trans (honlySent.trans honlyAnswered)) hown⟩
  rw [Client.exchange, hacquire]
  dsimp only
  rw [hsend]
  dsimp only
  rw [hvalue]

/-- A call over a network works if both its frame and the reply fit. -/
theorem continues_call (hlistens : outposts client.endpoint = some outpost)
    (hready : net.Ready outpost client.endpoint session) (htakes : outpost.Takes frame)
    (hfits : frame.body.length ≤ client.largest) (hreply : Host.replyTo outpost.behaviour frame = some reply)
    (hreplyFits : reply.body.length ≤ client.largest) :
    ∃ left, client.call env frame session = (.ok reply.asSent, left)
      ∧ net.Continues outpost client.endpoint session left := by
  rw [Client.call, Frame.encodeWithin_eq_ok_iff.mpr ⟨hfits, rfl⟩]
  exact continues_exchange hlistens hready htakes fun link world hawaits =>
    awaits_receive hlistens hawaits hreply hreplyFits

/-- The frame of a delivery is not too large for either side. Neither is its reply, if it has one; no host looks at the
size of what it replies, so only the client counts there. -/
structure Fits (client : Client) (outpost : Outpost c τ) (frame : Frame) : Prop where
  sent : frame.body.length ≤ min client.largest outpost.config.maxFrame
  replied : ∀ reply, Host.replyTo outpost.behaviour frame = some reply → reply.body.length ≤ client.largest

/-- A frame that fits the client fits the host. -/
theorem Fits.takes (h : Fits client outpost frame) (hdelivery : frame.isDelivery) : outpost.Takes frame := by
  have hfits := h.sent
  rw [Client.largest] at hfits
  exact ⟨hdelivery, by omega⟩

/-- A push over a network works if its frame fits. -/
theorem continues_push {envelope : Envelope} (hlistens : outposts client.endpoint = some outpost)
    (hready : net.Ready outpost client.endpoint session) (hfits : Fits client outpost (.push envelope)) :
    ∃ left, client.push env envelope session = (.ok (), left)
      ∧ net.Continues outpost client.endpoint session left := by
  rw [Client.push, Frame.encodeWithin_eq_ok_iff.mpr ⟨Nat.le_trans hfits.sent (Nat.min_le_left _ _), rfl⟩]
  exact continues_exchange hlistens hready (hfits.takes rfl) fun link world hawaits =>
    ⟨link.unread, world, rfl, hawaits.settled rfl, fun _ _ => rfl⟩

/-- A request gives the status and the out-structure that the handler of the host comes to. -/
theorem continues_request {event : Event c} {view : Option EventOut}
    (hlistens : outposts client.endpoint = some outpost) (hready : net.Ready outpost client.endpoint session)
    (hfits : Fits client outpost (.request (.ofEvent event) view)) :
    ∃ left, client.request env (.ofEvent event) view session
        = (.ok (outpost.behaviour event view).ending.status, (outpost.behaviour event view).leaves view, left)
      ∧ net.Continues outpost client.endpoint session left := by
  have hreply : Host.replyTo outpost.behaviour (.request (.ofEvent event) view)
      = some (.reply (outpost.behaviour event view).ending.status ((outpost.behaviour event view).leaves view)) := by
    rw [Host.replyTo, Envelope.toEvent_ofEvent]
  obtain ⟨left, hcall, hcontinues⟩ := continues_call hlistens hready (hfits.takes rfl)
    (Nat.le_trans hfits.sent (Nat.min_le_left _ _)) hreply (hfits.replied _ hreply)
  refine ⟨left, ?_, hcontinues⟩
  rw [Client.request, hcall]
  -- the reply carries an out-structure exactly if the request did, so what comes back replaces what was sent
  cases view <;> rfl

end Network

end EventBus
