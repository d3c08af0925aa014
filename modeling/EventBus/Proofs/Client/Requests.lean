import EventBus.Proofs.Bus.Dispatch
import EventBus.Proofs.Bus.Loading
import EventBus.Proofs.Client.Calls
import EventBus.Proofs.Host.Replies
import EventBus.Proofs.Server.Replies
import EventBus.Proofs.Wire.Fronts

/-!
# Requests to a server of the same configuration

A client and a server that take frames of the same size, over a connection that works: does a request that fits also
have a reply that fits?

* `Bus.Modest`: a subscriber that enlarges no out-structure. In a dispatch to such subscribers none becomes larger
  (`length_dispatch_le`).
* `Conveys`: what a connection does that works. It says nothing of replies and their sizes.
* `Client.Outgrown`: the one case in which the reply does not fit. The request came without an out-structure and the
  reply carries one, and what stands in front of its data takes two bytes more than what stood beside the payload.
* `Client.request_ok_iff`: in every other case the request gives the status that the server came to.
-/

namespace EventBus

variable {c : Catalog} {σ τ υ : Type}

/-! ## Out-structures that do not grow -/

namespace Bus

variable {bus : Bus c σ} {env : Environment σ} {raise : Raise bus} {others : Run bus → Run bus → Prop}
  {event : Event c} {before after : Run bus} {out left : EventOut}

/-- A subscriber that never enlarges the data of the out-structure. -/
def Modest (env : Environment σ) (raise : Raise bus) (others : Run bus → Run bus → Prop) (event : Event c)
    (slot : bus.Slot) : Prop :=
  let perm := (bus.subscriber slot).perm event.kind
  ∀ out before deed back after, Invoked env raise others event slot (viewOf perm out) before deed back after →
    (outAfter perm out back).data.length ≤ out.data.length

/-- A visit of a modest subscriber enlarges no out-structure. -/
theorem Visit.Happens.length_left_le {visit : Visit bus} (h : visit.Happens env raise others event)
    (hmodest : Modest env raise others event visit.slot) : visit.left.data.length ≤ visit.found.data.length := by
  cases h with
  | passedOver => exact Nat.le_refl _
  | invoked _ _ _ hinvoked => exact hmodest _ _ _ _ _ hinvoked

/-- Visits one after the other enlarge no out-structure if none of them does. -/
theorem Handed.length_left_le {visits : List (Visit bus)} (h : Handed before out visits left after)
    (hvisits : ∀ visit ∈ visits, visit.left.data.length ≤ visit.found.data.length) :
    left.data.length ≤ out.data.length := by
  -- along the visits, each of which is handed what the last one has left
  induction visits generalizing before out with
  | nil =>
    obtain ⟨rfl, -⟩ := h
    exact Nat.le_refl _
  | cons visit visits ih =>
    obtain ⟨-, rfl, hrest⟩ := h
    obtain ⟨hvisit, hvisits⟩ := List.forall_mem_cons.mp hvisits
    exact Nat.le_trans (ih hrest hvisits) hvisit

/-- A chain of modest subscribers enlarges no out-structure. -/
theorem Walked.length_left_le {slots : List bus.Slot} {visits : List (Visit bus)} {status : Status}
    (h : Walked env raise others event slots before out visits status left after)
    (hmodest : ∀ slot ∈ slots, Modest env raise others event slot) : left.data.length ≤ out.data.length :=
  h.handed.length_left_le fun visit hvisit =>
    (h.happens visit hvisit).length_left_le
      (hmodest visit.slot (h.inOrder.subset (List.mem_map_of_mem hvisit)))

/-- A dispatch to modest subscribers leaves no more data than it was given. -/
theorem length_dispatch_le {plan : Plan c σ} (hbuilt : plan.build = .ok bus) {depth : Nat} {status : Status}
    (hmodest : ∀ slot ∈ bus.chain event.kind, Modest env (dispatch env depth) others event slot)
    (h : (dispatch env (depth + 1) event out).Comes others before (status, left) after) :
    left.data.length ≤ out.data.length := by
  have hcarries := carries (Plan.build_inbounds_nodup hbuilt) env depth others event out
  by_cases hempty : bus.chain event.kind = []
  · rw [hcarries.empty hempty] at h
    cases h.1
    exact Nat.le_refl _
  · obtain ⟨entered, visits, -, hwalked⟩ := (hcarries.comes hempty before status left after).mp h
    exact hwalked.length_left_le hmodest

end Bus

/-! ## Sizes -/

namespace Frame

/-- What stands beside the payload and the out-structure of a request takes eleven bytes. -/
theorem length_body_request (envelope : Envelope) (out : Option EventOut) :
    (request envelope out).body.length = 11 + envelope.payload.length + (outBytes out).length := by
  simp only [body, List.cons_append, List.length_cons, List.length_append, length_envelopeBytes]
  omega

/-- What stands beside the out-structure of a reply takes five. -/
theorem length_body_reply (status : Status) (out : Option EventOut) :
    (reply status out).body.length = 5 + (outBytes out).length := by
  simp only [body, List.cons_append, List.length_cons, List.length_append, Bytes.length_be32]
  omega

end Frame

/-! ## A frame that arrives alone -/

/-- Chunks that are the encoding of one frame hold that frame and nothing else. -/
theorem Frame.drain_eq_of_flatten {max : Nat} {frame : Frame} (hfits : frame.body.length ≤ min max Bytes.maxLength)
    {chunks : List Bytes} (hchunks : chunks.flatten = frame.encode) :
    drain max chunks.flatten = ⟨[frame.asSent], none, []⟩ := by
  rw [hchunks, ← List.flatMap_singleton encode, drain_flatMap_encode (List.forall_mem_singleton.mpr hfits)]
  rfl

/-- A frame that arrives alone, in any chunks, has its answer, and a reply is all that is written. -/
theorem FrameService.comes_receiveAll_encode {service : FrameService τ} {token : Token} {others : τ → τ → Prop}
    {before after : τ} {frame : Frame} (hfits : frame.body.length ≤ min service.maxFrame Bytes.maxLength)
    {chunks : List Bytes} (hchunks : chunks.flatten = frame.encode) {answers : WriteAnswers}
    (hanswers : ∀ attempts ∈ answers, ∀ answer ∈ attempts, answer.getsOn)
    (hreplies : ∀ result middle, (service.answer token frame.asSent).Comes others before result middle →
      ∃ reply, result = .reply reply)
    {written : List Bytes} {failure : Option TransportError}
    (h : (service.receiveAll token .empty chunks answers).Comes others before (written, failure) after) :
    ∃ reply, (service.answer token frame.asSent).Comes others before (.reply reply) after
      ∧ written = [reply.encode] := by
  -- the chunks are one frame and nothing else, so one answer is all that is given
  rw [receiveAll_of_none (Frame.drain_eq_of_flatten hfits hchunks), answerAll] at h
  obtain ⟨result, middle, hanswer, hrest⟩ := Routine.comes_bind_iff.mp h
  obtain ⟨reply, rfl⟩ := hreplies result middle hanswer
  dsimp only at hrest
  rw [Socket.sendBytes_head_of_getsOn hanswers] at hrest
  obtain ⟨hwritten, rfl⟩ := hrest
  cases hwritten
  exact ⟨reply, hanswer, rfl⟩

/-! ## A request at the server -/

namespace Server

variable {bus : Bus c σ} {cfg : Config} {raise : Bus.Raise bus} {token : Token}
  {others : State bus → State bus → Prop} {envelope : Envelope} {out : Option EventOut} {before after : State bus}

/-- No subscriber that the event of an envelope is carried to enlarges the data of the out-structure. -/
def Modest (bus : Bus c σ) (env : Environment σ) (depth : Nat) (others : State bus → State bus → Prop)
    (envelope : Envelope) : Prop :=
  ∀ kind, c.ofCode? envelope.code = some kind → ∀ slot ∈ bus.chain kind,
    Bus.Modest env (Bus.dispatch env depth) (OnRun others) ⟨envelope.origin, kind, envelope.payload⟩ slot

/-- A request that arrives alone, in any chunks, is replied to, and the reply is all that is written. -/
theorem comes_receiveAll_request (hfits : (Frame.request envelope out).body.length ≤ min cfg.maxFrame Bytes.maxLength)
    {chunks : List Bytes} (hchunks : chunks.flatten = (Frame.request envelope out).encode) {answers : WriteAnswers}
    (hanswers : ∀ attempts ∈ answers, ∀ answer ∈ attempts, answer.getsOn) {written : List Bytes}
    {failure : Option TransportError}
    (h : ((service cfg raise).receiveAll token .empty chunks answers).Comes others before (written, failure) after) :
    ∃ status left, Replied raise token others envelope out before status left after
      ∧ written = [(Frame.reply status left).encode] := by
  have hreplies : ∀ result middle, (answer raise token (.request envelope out)).Comes others before result middle →
      ∃ reply, result = .reply reply := fun result middle hanswer => by
    obtain ⟨status, left, rfl, -⟩ := comes_request hanswer
    exact ⟨_, rfl⟩
  obtain ⟨reply, hanswer, hwritten⟩ := FrameService.comes_receiveAll_encode hfits hchunks hanswers hreplies h
  obtain ⟨status, left, hsame, hreplied⟩ := comes_request hanswer
  obtain rfl := Answer.reply.inj hsame
  exact ⟨status, left, hreplied, hwritten⟩

end Server

/-! ## A request over a connection that works -/

/-- A connection works while a client sends some bytes on it and then waits. All that the server wrote before was read;
the bytes reach the server in any chunks, whatever other threads do there in the meantime; and the client finds all that
the server writes in return. -/
structure Conveys (env : Environment υ) (client : Client) (service : FrameService τ) (token : Token)
    (others : τ → τ → Prop) (link : Link) (world : υ) (bytes : Bytes) (before after : τ) : Prop where
  settled : (Frame.Reader.mk link.unread .closed).bytes = []
  taken : (env.write link.handle bytes world).1 = .ok ()
  answered : ∃ chunks answers written failure, chunks.flatten = bytes
    ∧ (∀ attempts ∈ answers, ∀ answer ∈ attempts, WriteAnswer.getsOn answer)
    ∧ (service.receiveAll token .empty chunks answers).Comes others before (written, failure) after
    ∧ (env.receive link.handle client.limit (env.write link.handle bytes world).2).1.bytes = written.flatten

namespace Client

variable {env : Environment υ} {client : Client} {link : Link} {world : υ} {envelope : Envelope}
  {out left : Option EventOut} {bytes : Bytes} {status : Status}

/-- A client that finds a reply and nothing else takes it exactly if it fits. -/
theorem receive_of_reply {reply : Frame} (hreply : reply.isReply)
    (hsettled : (Frame.Reader.mk link.unread .closed).bytes = [])
    (hfound : (env.receive link.handle client.limit world).1.bytes = reply.encode) :
    ∃ result later after, client.receive env link world = (result, later, after)
      ∧ if reply.body.length ≤ client.largest then result = .ok reply else ∃ e, result = .error e := by
  generalize hreceive : env.receive link.handle client.limit world = arriving at hfound
  obtain ⟨arrived, after⟩ := arriving
  -- what was left unread is in front of the reply, and it is nothing
  have hbytes : (Frame.Reader.mk (link.unread ++ arrived.arrivals) arrived.ending).bytes = reply.encode ++ [] := by
    rw [Frame.Reader.bytes_append, List.append_nil]
    exact (congrArg (· ++ arrived.bytes) hsettled).trans hfound
  generalize hframe : Frame.Reader.frame client.maxFrame client.reportedLimit
    ⟨link.unread ++ arrived.arrivals, arrived.ending⟩ = reading
  obtain ⟨result, left⟩ := reading
  refine ⟨result, { link with unread := left.arrivals }, after, ?_, ?_⟩
  · rw [receive, hreceive]
    dsimp only
    rw [hframe]
  · split
    · next hfits =>
      obtain ⟨rest, hread, -⟩ := Frame.Reader.frame_encode hfits hbytes client.reportedLimit
      rw [hframe, Frame.asSent_of_isReply hreply] at hread
      exact (Prod.mk.inj hread).1
    · next hlarge =>
      cases result with
      | error e => exact ⟨e, rfl⟩
      | ok frame =>
        rw [List.append_nil] at hbytes
        exact absurd (Frame.fits_of_frame (hbytes ▸ List.prefix_refl _) hframe) hlarge

/-- A call that is written and answered gives the answer if that fits; else it fails, and the connection is given up. -/
theorem call_of_reply {frame reply : Frame} {session : Session υ} (hreply : reply.isReply)
    (hencode : frame.encodeWithin client.maxFrame = .ok bytes)
    (hacquired : client.acquire env session = (.ok link, ⟨some link, world⟩))
    (hsettled : (Frame.Reader.mk link.unread .closed).bytes = [])
    (htaken : (env.write link.handle bytes world).1 = .ok ())
    (hfound : (env.receive link.handle client.limit (env.write link.handle bytes world).2).1.bytes = reply.encode) :
    ∃ result left, client.call env frame session = (result, left)
      ∧ if reply.body.length ≤ client.largest then result = .ok reply
        else (∃ e, result = .error e) ∧ left.link = none := by
  obtain ⟨result, later, after, hreceive, hresult⟩ := receive_of_reply hreply hsettled hfound
  have hsend : client.send env bytes link world = (.ok (), (env.write link.handle bytes world).2) := by
    exact Prod.ext (congrArg (Except.mapError _) htaken) rfl
  rw [call, hencode]
  simp only [exchange, hacquired, hsend, hreceive]
  -- the reply has arrived in full either way; its length alone decides whether it is taken
  split at hresult
  · next hfits =>
    subst hresult
    exact ⟨_, _, rfl, by rw [if_pos hfits]⟩
  · next hlarge =>
    obtain ⟨e, rfl⟩ := hresult
    exact ⟨_, _, rfl, by rw [if_neg hlarge]; exact ⟨⟨e, rfl⟩, link_reset env _⟩⟩

/-- A request that is written and replied to gives the status of the reply if that fits; else it fails, and the
connection is given up. -/
theorem request_of_reply (hencode : (Frame.request envelope out).encodeWithin client.maxFrame = .ok bytes)
    (hsettled : (Frame.Reader.mk link.unread .closed).bytes = [])
    (htaken : (env.write link.handle bytes world).1 = .ok ())
    (hfound : (env.receive link.handle client.limit (env.write link.handle bytes world).2).1.bytes
      = (Frame.reply status left).encode) :
    ∃ result session, client.request env envelope out ⟨some link, world⟩ = (result, session)
      ∧ if (Frame.reply status left).body.length ≤ client.largest then result = .ok status
        else (∃ e, result = .error e) ∧ session.2.link = none := by
  have hacquired : client.acquire env ⟨some link, world⟩ = (.ok link, ⟨some link, world⟩) := rfl
  obtain ⟨result, session, hcall, hresult⟩ := call_of_reply rfl hencode hacquired hsettled htaken hfound
  rw [request, hcall]
  split at hresult
  · next hfits =>
    subst hresult
    exact ⟨_, _, rfl, by rw [if_pos hfits]⟩
  · next hlarge =>
    obtain ⟨⟨e, rfl⟩, hclosed⟩ := hresult
    exact ⟨_, _, rfl, by rw [if_neg hlarge]; exact ⟨⟨e, rfl⟩, hclosed⟩⟩

/-- A reply does not fit though its request did: it carries an out-structure, and none came along. -/
def Outgrown (client : Client) (out left : Option EventOut) : Prop :=
  out = none ∧ ∃ returned, left = some returned ∧ client.largest < 14 + returned.data.length

/-- If the data of the out-structure has not grown, the reply to a request that fits exceeds what the client takes only
if it is outgrown, and by two bytes at most. -/
theorem length_reply (hrequest : (Frame.request envelope out).body.length ≤ client.largest)
    (hleft : ∀ returned, left = some returned → returned.data.length ≤ (out.getD ⟨0, envelope.payload⟩).data.length)
    (status : Status) :
    ((Frame.reply status left).body.length ≤ client.largest ↔ ¬Outgrown client out left)
      ∧ (Frame.reply status left).body.length ≤ client.largest + 2 := by
  rw [Frame.length_body_request] at hrequest
  rw [Frame.length_body_reply]
  -- only a reply with an out-structure may be too large
  cases left with
  | none =>
    have hnone : (Frame.outBytes none).length = 1 := rfl
    rw [hnone]
    exact ⟨⟨fun _ ⟨_, _, hnone, _⟩ => (nomatch hnone), fun _ => by omega⟩, by omega⟩
  | some returned =>
    have hdata := hleft returned rfl
    rw [Frame.length_outBytes_some]
    cases out with
    | none =>
      have hnone : (Frame.outBytes none).length = 1 := rfl
      rw [hnone] at hrequest
      change returned.data.length ≤ envelope.payload.length at hdata
      refine ⟨⟨?_, fun hfits => Nat.le_of_not_lt fun hlarge => hfits ⟨rfl, returned, rfl, by omega⟩⟩, by omega⟩
      rintro hfits ⟨-, _, hsame, hlarge⟩
      obtain rfl := Option.some.inj hsame
      omega
    | some out =>
      rw [Frame.length_outBytes_some] at hrequest
      change returned.data.length ≤ out.data.length at hdata
      exact ⟨⟨fun _ ⟨hnone, _⟩ => (nomatch hnone), fun _ => by omega⟩, by omega⟩

/-- **The size of a request.** A client and a server share a configuration, and no subscriber of the chain enlarges the
data of the out-structure. Then a request that fits, over a connection that works, gives the status that the server came
to, unless its reply is outgrown. Then it fails and the connection is given up, for one byte too much or two. -/
theorem request_ok_iff {plan : Plan c σ} {bus : Bus c σ} (hbuilt : plan.build = .ok bus) {cfg : Config}
    {endpoint : Endpoint} {surroundings : Environment σ} {depth : Nat}
    {others : Server.State bus → Server.State bus → Prop} {token : Token} {before after : Server.State bus}
    (hencode : (Frame.request envelope out).encodeWithin cfg.maxFrame = .ok bytes)
    (hmodest : Server.Modest bus surroundings depth others envelope)
    (hconveys : Conveys env (.ofConfig cfg endpoint) (Server.service cfg (Bus.dispatch surroundings (depth + 1))) token
      others link world bytes before after) :
    ∃ status left session result,
      Server.Replied (Bus.dispatch surroundings (depth + 1)) token others envelope out before status left after
        ∧ (ofConfig cfg endpoint).request env envelope out ⟨some link, world⟩ = (result, session)
        ∧ (result = .ok status ↔ ¬Outgrown (.ofConfig cfg endpoint) out left)
        ∧ (Outgrown (.ofConfig cfg endpoint) out left →
          (∃ e, result = .error e) ∧ session.2.link = none
            ∧ (Frame.reply status left).body.length ≤ (ofConfig cfg endpoint).largest + 2) := by
  obtain ⟨hrequest, rfl⟩ := Frame.encodeWithin_eq_ok_iff.mp hencode
  obtain ⟨hsettled, htaken, chunks, answers, written, failure, hchunks, hanswers, hcomes, hfound⟩ := hconveys
  obtain ⟨status, left, hreplied, rfl⟩ := Server.comes_receiveAll_request hrequest hchunks hanswers hcomes
  rw [List.flatten_singleton] at hfound
  -- a modest dispatch leaves no longer an out-structure than it was given
  have hleft : ∀ returned, left = some returned →
      returned.data.length ≤ (out.getD ⟨0, envelope.payload⟩).data.length := by
    rintro returned rfl
    cases hreplied with
    | carried _ hkind _ hcarried => exact Bus.length_dispatch_le hbuilt (hmodest _ hkind) hcarried
  let client := ofConfig cfg endpoint
  obtain ⟨hfits, hslack⟩ : ((Frame.reply status left).body.length ≤ client.largest ↔ ¬Outgrown client out left)
      ∧ (Frame.reply status left).body.length ≤ client.largest + 2 := length_reply hrequest hleft status
  obtain ⟨result, session, hrequested, hresult⟩ := request_of_reply hencode hsettled htaken hfound
  refine ⟨status, left, session, result, hreplied, hrequested, ?_⟩
  by_cases houtgrown : Outgrown client out left
  · rw [if_neg fun hle => hfits.mp hle houtgrown] at hresult
    obtain ⟨⟨e, rfl⟩, hclosed⟩ := hresult
    exact ⟨⟨nofun, fun hnot => absurd houtgrown hnot⟩, fun _ => ⟨⟨e, rfl⟩, hclosed, hslack⟩⟩
  · rw [if_pos (hfits.mpr houtgrown)] at hresult
    subst hresult
    exact ⟨⟨fun _ => houtgrown, fun _ => rfl⟩, fun hyes => absurd hyes houtgrown⟩

end Client

/-! ## Two bytes that are missing -/

/-- A server at the end of a connection, and what was sent to it. -/
structure Wire (τ : Type) where
  server : τ
  sent : Bytes := []

/-- Surroundings with one connection. The server serves what was sent to it when the client waits. -/
def Wire.environment (service : FrameService τ) : Environment (Wire τ) where
  connect _ wire := (.ok 1, wire)
  write _ bytes wire := (.ok (), { wire with sent := wire.sent ++ bytes })
  receive _ _ wire :=
    match (service.receiveAll 1 .empty [wire.sent] []).alone wire.server with
    | some ((written, _), server) => (⟨[.piece written.flatten], .fails .wouldBlock⟩, { server })
    | none => (⟨[], .fails .wouldBlock⟩, wire)
  close _ wire := wire
  now _ := .zero

theorem Wire.conveys {service : FrameService τ} {client : Client} {bytes : Bytes} {before after : τ}
    {written : List Bytes} {failure : Option TransportError}
    (h : (service.receiveAll 1 .empty [bytes] []).alone before = some ((written, failure), after)) :
    Conveys (environment service) client service 1 (· = ·) ⟨1, []⟩ ⟨before, []⟩ bytes before after where
  settled := rfl
  taken := rfl
  answered := by
    refine ⟨[bytes], [], written, failure, List.flatten_singleton, nofun, Routine.comes_eq_iff.mpr h, ?_⟩
    show Frame.Reader.bytes (environment service |>.receive 1 client.limit ⟨before, bytes⟩).1 = _
    simp only [environment, h]
    exact List.append_nil _

namespace Client

/-- An external subscriber that only raises, and one that takes the first byte off the data of the out-structure. -/
def dropBytePlan : Plan .component (Trial.World .component Unit) where
  config := { maxFrame := 64 }
  records :=
    [{ name := "ext", site := .external, endpoint := some (.local "ext") },
      { name := "sink", inbounds := ["HOST_ADDED,rw"] }]
  registrations :=
    [⟨"sink", none, "sink", fun _ view => .done .ok (view.map fun out => { out with data := out.data.tail })⟩]

variable {bus : Bus .component (Trial.World .component Unit)} {kind : Catalog.component.Kind} {length : Nat}

/-- The external subscriber has something to say. -/
def envelopeOfLength (kind : Catalog.component.Kind) (length : Nat) : Envelope :=
  .ofEvent ⟨.ofName "ext", kind, .replicate length 7⟩

/-- A client that takes frames of at most 64 bytes. -/
def smallFrameClient : Client :=
  .ofConfig { maxFrame := 64 } (.local "bus")

/-- A server with the same limit. -/
def dropByteServer (bus : Bus .component (Trial.World .component Unit)) : FrameService (Server.State bus) :=
  Server.service { maxFrame := 64 } (Bus.dispatch (Trial.deserted .component) 1)

/-- That server, with a connection that is bound to the external subscriber. -/
def dropByteBound (bus : Bus .component (Trial.World .component Unit)) : Server.State bus :=
  .bind 1 (.ofName "ext") { run := bus.start { net := () } }

/-- What the client is given for such an event, without an out-structure. -/
def dropByteResult (bus : Bus .component (Trial.World .component Unit)) (kind : Catalog.component.Kind) (length : Nat) :
    Except TransportError Status :=
  (smallFrameClient.request (Wire.environment (dropByteServer bus)) (envelopeOfLength kind length) none
    ⟨some ⟨1, []⟩, ⟨dropByteBound bus, []⟩⟩).1

/-- A subscriber of that plan that has a handler enlarges nothing. -/
theorem modest_dropByte (hbuilt : dropBytePlan.build = .ok bus)
    (hserved : ∀ slot ∈ bus.chain kind, ((bus.subscriber slot).handler? kind).isSome) (length : Nat) :
    Server.Modest bus (Trial.deserted .component) 0 (· = ·) (envelopeOfLength kind length) := by
  intro other hcode slot hslot out before deed back after hinvoked
  obtain rfl : kind = other := Option.some.inj ((Catalog.ofCode?_code kind).symm.trans hcode)
  have hunreached : ∀ client, (bus.subscriber slot).target ≠ .external client := fun client htarget => by
    have hsome := hserved slot hslot
    rw [Subscriber.handler?, htarget] at hsome
    cases hsome
  -- the only handler of the plan takes a byte away, or leaves the view alone if it may not write
  cases hinvoked with
  | handled hhandler hcall =>
    obtain ⟨r, hr, rfl⟩ := Plan.exists_registration hbuilt hhandler
    obtain rfl := List.mem_singleton.mp hr
    obtain ⟨rfl, -⟩ := hcall
    rw [Bus.viewOf, Bus.outAfter]
    split
    · exact Nat.le_trans (Nat.le_of_eq List.length_tail) (Nat.sub_le _ _)
    · exact Nat.le_refl _
  | answered htarget => exact absurd htarget (hunreached _)
  | lost htarget => exact absurd htarget (hunreached _)

/-- What the client is given for a request that fits, the subscribers being modest and the connection one that works. -/
structure DropsByte (bus : Bus .component (Trial.World .component Unit)) (kind : Catalog.component.Kind) (length : Nat)
    (result : Except TransportError Status) : Prop where
  built : dropBytePlan.build = .ok bus
  fits : (Frame.request (envelopeOfLength kind length) none).encodeWithin 64
    = .ok (Frame.request (envelopeOfLength kind length) none).encode
  modest : Server.Modest bus (Trial.deserted .component) 0 (· = ·) (envelopeOfLength kind length)
  conveys : ∃ after, Conveys (Wire.environment (dropByteServer bus)) smallFrameClient (dropByteServer bus) 1 (· = ·) ⟨1, []⟩
    ⟨dropByteBound bus, []⟩ (Frame.request (envelopeOfLength kind length) none).encode (dropByteBound bus) after
  result_eq : dropByteResult bus kind length = result

/-- What a request comes to on that server, read off its evaluation. -/
theorem exists_dropsByte {result : Except TransportError Status} (hlength : length ≤ 52)
    (hturns : dropBytePlan.build.toOption.any (fun bus =>
      (bus.chain kind).all (fun slot => ((bus.subscriber slot).handler? kind).isSome)
        && (((dropByteServer bus).receiveAll 1 .empty [(Frame.request (envelopeOfLength kind length) none).encode] []).alone
          (dropByteBound bus)).isSome
        && decide (dropByteResult bus kind length = result)) = true) :
    ∃ bus, DropsByte bus kind length result := by
  cases hbuilt : dropBytePlan.build with
  | error e => simp [hbuilt, Except.toOption] at hturns
  | ok bus =>
    rw [hbuilt] at hturns
    obtain ⟨hserved, hresult⟩ := Bool.and_eq_true_iff.mp hturns
    obtain ⟨hserved, hends⟩ := Bool.and_eq_true_iff.mp hserved
    obtain ⟨⟨⟨written, failure⟩, after⟩, halone⟩ := Option.isSome_iff_exists.mp hends
    refine ⟨bus, hbuilt, Frame.encodeWithin_eq_ok_iff.mpr ⟨?_, rfl⟩,
      modest_dropByte hbuilt (List.all_eq_true.mp hserved) length, ⟨after, Wire.conveys halone⟩,
      of_decide_eq_true hresult⟩
    rw [Frame.length_body_request]
    show 11 + (List.replicate length (7 : UInt8)).length + 1 ≤ 64
    rw [List.length_replicate]
    omega

/-- Data of 51 bytes without an out-structure fits, and so does the reply, as one byte is taken off. -/
theorem dropByte_request_ok :
    ∃ bus, DropsByte bus ⟨27, by decide⟩ 51 (.ok .ok)
      ∧ ∃ after status left,
        Server.Replied (Bus.dispatch (Trial.deserted .component) 1) 1 (· = ·) (envelopeOfLength ⟨27, by decide⟩ 51) none
            (dropByteBound bus) status left after
          ∧ dropByteResult bus ⟨27, by decide⟩ 51 = .ok status := by
  have hexists : ∃ bus, DropsByte bus ⟨27, by decide⟩ 51 (.ok .ok) := exists_dropsByte (by decide) (by decide +kernel)
  obtain ⟨bus, hdrops⟩ := hexists
  obtain ⟨after, hconveys⟩ := hdrops.conveys
  obtain ⟨status, left, session, result, hreplied, hrequested, hok, houtgrown⟩ :=
    request_ok_iff hdrops.built hdrops.fits hdrops.modest hconveys
  obtain rfl : dropByteResult bus ⟨27, by decide⟩ 51 = result := congrArg Prod.fst hrequested
  -- the call has not failed, so the reply was not outgrown
  refine ⟨bus, hdrops, after, status, left, hreplied, hok.mpr fun hlarge => ?_⟩
  obtain ⟨⟨e, hfailed⟩, -⟩ := houtgrown hlarge
  rw [hdrops.result_eq] at hfailed
  cases hfailed

/-- With one byte more the request still fits, but not the reply. -/
theorem dropByte_reply_too_large : ∃ bus, DropsByte bus ⟨27, by decide⟩ 52 (.error (.frameTooLarge 65 64)) :=
  exists_dropsByte (Nat.le_refl 52) (by decide +kernel)

end Client

end EventBus
