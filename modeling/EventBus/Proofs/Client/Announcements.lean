import EventBus.Proofs.Bus.Acceptance
import EventBus.Proofs.Bus.Provenance
import EventBus.Proofs.Client.Requests
import EventBus.Proofs.Server.Answers

/-!
# Announcements of external subscribers

Can every external subscriber of a built bus announce itself? Its name goes out beside its id, the server decodes it, and
the bus compares it with the name of the subscriber that has the id.

* `Frame.sentName_eq_iff`: a name arrives as it is exactly if its length field can state how long it is.
* `Server.verdict_sentName`: the verdict on what arrives. `Server.comes_hello`: the two turns of a server, and its answer.
* `Announces`: a client that announces an external subscriber over a connection that works. `Announces.hello_iff` says
  what it is told, and what the server has become then.
* `namedPlan`: a plan that is built, with an external subscriber that can never announce itself.
-/

namespace EventBus

namespace Frame

/-- A name is sent as it is exactly if its length field can state how long it is. -/
theorem sentName_eq_iff {name : String} : sentName name = name ↔ (Text.utf8 name).length ≤ 65535 := by
  refine ⟨fun hsame => ?_, sentName_of_le⟩
  have hfits := (isLongestFront_sentName name).fits
  rwa [hsame] at hfits

/-- What stands beside the name in an announcement takes seven bytes. -/
theorem length_body_hello (id : SubscriberId) (name : String) :
    (hello id name).body.length = 7 + (Text.utf8 (sentName name)).length := by
  simp only [body, List.cons_append, List.length_cons, List.length_append, Bytes.length_be32, Bytes.length_be16]
  omega

/-- What an announcement can be at most, however long the name is. -/
theorem length_body_hello_le (id : SubscriberId) (name : String) : (hello id name).body.length ≤ 65542 := by
  have hfits : (Text.utf8 (sentName name)).length ≤ 65535 := (isLongestFront_sentName name).fits
  rw [length_body_hello]
  omega

/-- An announcement is never too long for a length field of four bytes. -/
theorem hello_within {id : SubscriberId} {name : String} {max : Nat} (hfits : (hello id name).body.length ≤ max) :
    (hello id name).body.length ≤ min max Bytes.maxLength :=
  Nat.le_min.mpr ⟨hfits, Nat.le_trans (length_body_hello_le id name) (by decide)⟩

end Frame

variable {c : Catalog} {σ υ : Type}

/-! ## At the server -/

namespace Server

variable {bus : Bus c σ} {cfg : Config} {raise : Bus.Raise bus} {token : Token} {id : SubscriberId} {name : String}
  {others : State bus → State bus → Prop} {before after : State bus}

/-- What arrives of a name is that of a subscriber with its id exactly if nothing was cut off. -/
theorem verdict_sentName (hdistinct : bus.Distinct) {slot : bus.Slot} (hsite : (bus.subscriber slot).site = .external) :
    verdict bus (.ofName (bus.subscriber slot).name) (Frame.sentName (bus.subscriber slot).name)
      = if (Text.utf8 (bus.subscriber slot).name).length ≤ 65535 then .ok else .failure := by
  rw [verdict]
  split
  · next hsome =>
    obtain ⟨found, hfound⟩ := Option.isSome_iff_exists.mp hsome
    obtain ⟨-, hname, hid⟩ := hdistinct.announced?_eq_some_iff.mp hfound
    -- only one subscriber has the id, so it is its own name that has arrived
    obtain rfl : found = slot := hdistinct ((congrArg SubscriberId.ofName hname).trans hid)
    rw [if_pos (Frame.sentName_eq_iff.mp hname.symm)]
  · next hnone =>
    refine (if_neg fun hfits => hnone ?_).symm
    have hname := Frame.sentName_eq_iff.mpr hfits
    rw [hname, hdistinct.announced?_eq_some_iff.mpr ⟨hsite, rfl, rfl⟩]
    rfl

/-- An announcement is answered with the verdict on it. One turn is the handshake, and the other one notes the verdict. -/
theorem comes_hello (raise : Bus.Raise bus) {result : Answer}
    (h : (answer raise token (.hello id name)).Comes others before result after) :
    result = .reply (.helloAck (verdict bus id name))
      ∧ ∃ found, others { before with run := (before.run.handshake id name).2 } found
        ∧ others (found.greet token id name (verdict bus id name)) after := by
  have hfirst : (before.run.handshake id name).1 = verdict bus id name := handshake_fst id name before.run
  obtain ⟨found, hfound, later, hlater, rfl, rfl⟩ := h
  rw [← hfirst]
  exact ⟨rfl, found, hfound, hlater⟩

/-- A server that is told of nothing but an announcement, while nothing else goes on. -/
theorem alone_receiveAll_hello (hfits : (Frame.hello id name).body.length ≤ min cfg.maxFrame Bytes.maxLength)
    (s : State bus) :
    ((service cfg raise).receiveAll token .empty [(Frame.hello id name).encode] []).alone s
      = some (([(Frame.helloAck (verdict bus id (Frame.sentName name))).encode], none),
        State.greet token id (Frame.sentName name) (verdict bus id (Frame.sentName name))
          { s with run := (s.run.handshake id (Frame.sentName name)).2 }) := by
  have hstream : Frame.drain cfg.maxFrame [(Frame.hello id name).encode].flatten
      = ⟨[.hello id (Frame.sentName name)], none, []⟩ :=
    Frame.drain_eq_of_flatten hfits List.flatten_singleton
  have hanswer : (service cfg raise).answer token (.hello id (Frame.sentName name))
      = answer raise token (.hello id (Frame.sentName name)) := rfl
  rw [FrameService.receiveAll_of_none hstream, FrameService.alone_answerAll_cons _ (by nofun), hanswer,
    alone_answer_hello, handshake_fst]
  rfl

/-- Other threads do not deactivate a subscriber, and leave a connection bound to what it is bound to. -/
def Spares (others : State bus → State bus → Prop) (name : String) (token : Token) : Prop :=
  ∀ s t, others s t → (s.run.isActivated name = true → t.run.isActivated name = true)
    ∧ t.binding? token = s.binding? token

/-- Where nothing happens in between, the announcement is spared. -/
theorem spares_eq (name : String) (token : Token) : Spares (fun s t : State bus => s = t) name token := by
  rintro s t rfl
  exact ⟨fun hactive => hactive, rfl⟩

end Server

/-! ## At the client -/

/-- An external subscriber of a built bus is announced to a server of the bus. The announcement is within the limits of
both, and the connection works. -/
structure Announces (plan : Plan c σ) (bus : Bus c σ) (record : Record) (env : Environment υ) (client : Client)
    (cfg : Config) (raise : Bus.Raise bus) (token : Token) (others : Server.State bus → Server.State bus → Prop)
    (session : Session υ) (before after : Server.State bus) : Prop where
  built : plan.build = .ok bus
  listed : record ∈ plan.records
  external : record.site = .external
  fits : (Frame.hello (.ofName record.name) record.name).body.length ≤ min client.maxFrame cfg.maxFrame
  /-- The connection was open before, or is opened now. -/
  conveyed : ∃ link world, client.acquire env session = (.ok link, ⟨some link, world⟩)
    ∧ Conveys env client (Server.service cfg raise) token others link world
      (Frame.hello (.ofName record.name) record.name).encode before after

namespace Announces

variable {plan : Plan c σ} {bus : Bus c σ} {record : Record} {env : Environment υ} {client : Client} {cfg : Config}
  {raise : Bus.Raise bus} {token : Token} {others : Server.State bus → Server.State bus → Prop} {session : Session υ}
  {before after : Server.State bus}

/-- The announcement goes out as it is encoded. -/
theorem encodeWithin_eq (h : Announces plan bus record env client cfg raise token others session before after) :
    (Frame.hello (.ofName record.name) record.name).encodeWithin client.maxFrame
      = .ok (Frame.hello (.ofName record.name) record.name).encode := by
  have hfits := Nat.le_trans h.fits (Nat.min_le_left ..)
  exact Frame.encodeWithin_eq_ok_iff.mpr ⟨Frame.hello_within hfits, rfl⟩

/-- The client is told the verdict on what arrives of the name, and the server has made its two turns. -/
theorem result_eq (h : Announces plan bus record env client cfg raise token others session before after) :
    (client.hello env record.name session).1
        = .ok (Server.verdict bus (.ofName record.name) (Frame.sentName record.name))
      ∧ ∃ found,
        others { before with
          run := (before.run.handshake (.ofName record.name) (Frame.sentName record.name)).2 } found
        ∧ others (found.greet token (.ofName record.name) (Frame.sentName record.name)
          (Server.verdict bus (.ofName record.name) (Frame.sentName record.name))) after := by
  obtain ⟨link, world, hacquired, hsettled, htaken, chunks, answers, written, failure, hchunks, hanswers, hcomes,
    hfound⟩ := h.conveyed
  have hfits := Frame.hello_within (Nat.le_trans h.fits (Nat.min_le_right ..))
  obtain ⟨reply, hanswer, rfl⟩ := FrameService.comes_receiveAll_encode hfits hchunks hanswers
    (fun result middle hanswer => ⟨_, (Server.comes_hello raise hanswer).1⟩) hcomes
  obtain ⟨hreply, hturns⟩ := Server.comes_hello raise hanswer
  obtain rfl := Answer.reply.inj hreply
  refine ⟨?_, hturns⟩
  rw [List.flatten_singleton] at hfound
  obtain ⟨result, left, hcall, hresult⟩ := Client.call_of_reply rfl h.encodeWithin_eq hacquired hsettled htaken hfound
  -- the greeting itself was within the limit, and its answer is shorter than any greeting
  have hack : ∀ status, (Frame.helloAck status).body.length ≤ client.largest := fun status => by
    have hsize := (Frame.encodeWithin_eq_ok_iff.mp h.encodeWithin_eq).1
    rw [Frame.length_body_hello] at hsize
    have hlength : (Frame.helloAck status).body.length = 5 := rfl
    rw [hlength]
    exact Nat.le_trans (by omega) hsize
  rw [if_pos (hack _)] at hresult
  rw [Client.hello, hcall, hresult]

/-- The slot of the subscriber that is announced. -/
theorem exists_slot (h : Announces plan bus record env client cfg raise token others session before after) :
    ∃ slot, bus.slotOf? record.name = some slot ∧ (bus.subscriber slot).name = record.name
      ∧ (bus.subscriber slot).site = .external := by
  obtain ⟨index, hrecord⟩ := List.getElem?_of_mem h.listed
  obtain ⟨slot, -, hload, hslot, -⟩ := (Plan.build_indexes h.built).found index record hrecord
  exact ⟨slot, hslot, (Plan.load_eq_ok hload).1, (Plan.site_of_load hload).trans h.external⟩

/-- The verdict on what arrives is a success exactly if the name was not cut. -/
theorem verdict_eq (h : Announces plan bus record env client cfg raise token others session before after) :
    Server.verdict bus (.ofName record.name) (Frame.sentName record.name)
      = if (Text.utf8 record.name).length ≤ 65535 then .ok else .failure := by
  obtain ⟨slot, -, hname, hsite⟩ := h.exists_slot
  rw [← hname]
  exact Server.verdict_sentName (Plan.build_id_injective h.built) hsite

/-- A name that is not cut is accepted. The first turn of the server activates the subscriber, and the second one binds
the connection. -/
theorem accepted (h : Announces plan bus record env client cfg raise token others session before after)
    (hfits : (Text.utf8 record.name).length ≤ 65535) : (client.hello env record.name session).1 = .ok .ok
      ∧ (Server.Spares others record.name token →
        after.run.isActivated record.name = true ∧ after.binding? token = some (.ofName record.name)) := by
  obtain ⟨slot, hslot, hname, hsite⟩ := h.exists_slot
  have hdistinct : bus.Distinct := Plan.build_id_injective h.built
  have hverdict := h.verdict_eq.trans (if_pos hfits)
  obtain ⟨hresult, found, hfirst, hlast⟩ := h.result_eq
  rw [hverdict] at hresult hlast
  rw [Frame.sentName_eq_iff.mpr hfits,
    Bus.Run.handshake_of_announced (hdistinct.announced?_eq_some_iff.mpr ⟨hsite, hname, rfl⟩)] at hfirst
  refine ⟨hresult, fun hspares => ?_⟩
  have hactivated : found.run.isActivated record.name = true := by
    refine (hspares _ _ hfirst).1 ?_
    rw [Bus.Run.isActivated, hslot]
    exact Bus.Run.isActive_activate_self slot true .handshake before.run
  -- what others do between the handshake and the binding is spared this subscriber and this connection
  obtain ⟨hkept, hbound⟩ := hspares _ _ hlast
  rw [Bus.run_greet] at hkept
  rw [Server.State.binding?_greet, if_pos ⟨rfl, rfl⟩] at hbound
  exact ⟨hkept hactivated, hbound⟩

/-- A name that is cut is refused, and binds nothing. -/
theorem refused (h : Announces plan bus record env client cfg raise token others session before after)
    (hlong : 65535 < (Text.utf8 record.name).length) : (client.hello env record.name session).1 = .ok .failure
      ∧ (Server.Spares others record.name token → after.binding? token = before.binding? token) := by
  have hverdict := h.verdict_eq.trans (if_neg (Nat.not_le_of_lt hlong))
  obtain ⟨hresult, found, hfirst, hlast⟩ := h.result_eq
  rw [hverdict] at hresult hlast
  refine ⟨hresult, fun hspares => ?_⟩
  have hbound := (hspares _ _ hlast).2
  have hfails : ¬(token = token ∧ Status.failure.isOk = true) := fun hboth => absurd hboth.2 (by decide)
  rw [Server.State.binding?_greet, if_neg hfails] at hbound
  exact hbound.trans (hspares _ _ hfirst).2

/-- **Announcements.** An external subscriber whose name has at most 65535 bytes is answered with success. It is activated
then, and the connection is bound to its id, if no other thread undoes it. A longer name is cut on its way; it is not the
one that the bus knows, and the announcement fails. -/
theorem hello_iff (h : Announces plan bus record env client cfg raise token others session before after) :
    ((Text.utf8 record.name).length ≤ 65535 → (client.hello env record.name session).1 = .ok .ok
        ∧ (Server.Spares others record.name token →
          after.run.isActivated record.name = true ∧ after.binding? token = some (.ofName record.name)))
      ∧ (65535 < (Text.utf8 record.name).length → (client.hello env record.name session).1 = .ok .failure
        ∧ (Server.Spares others record.name token → after.binding? token = before.binding? token)) :=
  ⟨h.accepted, h.refused⟩

end Announces

/-! ## Over one connection, with nothing else going on -/

/-- In surroundings with one connection, an external subscriber announces itself. -/
theorem Wire.announces {plan : Plan c σ} {bus : Bus c σ} (hbuilt : plan.build = .ok bus) {record : Record}
    (hlisted : record ∈ plan.records) (hexternal : record.site = .external) (client : Client) (cfg : Config)
    (hfits : (Frame.hello (.ofName record.name) record.name).body.length ≤ min client.maxFrame cfg.maxFrame)
    (raise : Bus.Raise bus) (s : Server.State bus) :
    ∃ after, Announces plan bus record (Wire.environment (Server.service cfg raise)) client cfg raise 1 (· = ·)
      ⟨none, ⟨s, []⟩⟩ s after := by
  have hwithin := Frame.hello_within (Nat.le_trans hfits (Nat.min_le_right ..))
  exact ⟨_, hbuilt, hlisted, hexternal, hfits, ⟨1, []⟩, ⟨s, []⟩, rfl,
    Wire.conveys (Server.alone_receiveAll_hello hwithin s)⟩

namespace Client

/-- An external record. -/
def extRecord : Record :=
  { name := "ext", site := .external, endpoint := some (.local "ext") }

/-- The external subscriber of that plan opens a connection and announces itself. -/
theorem extRecord_hello_iff :
    ∃ (bus : Bus .component (Trial.World .component Unit)) (before after : Server.State bus),
      Announces dropBytePlan bus extRecord (Wire.environment (dropByteServer bus)) smallFrameClient { maxFrame := 64 }
          (Bus.dispatch (Trial.deserted .component) 1) 1 (· = ·) ⟨none, ⟨before, []⟩⟩ before after
        ∧ (smallFrameClient.hello (Wire.environment (dropByteServer bus)) "ext" ⟨none, ⟨before, []⟩⟩).1 = .ok .ok
        ∧ after.run.isActivated "ext" = true ∧ after.binding? 1 = some (.ofName "ext") := by
  obtain ⟨bus, hbuilt⟩ := dropBytePlan.exists_bus_of_isOk (by decide +kernel)
  have hfits : (Frame.hello (.ofName extRecord.name) extRecord.name).body.length ≤ 64 := by decide +kernel
  have hlisted : extRecord ∈ dropBytePlan.records := List.mem_cons_self
  obtain ⟨after, hannounces⟩ := Wire.announces hbuilt hlisted rfl smallFrameClient { maxFrame := 64 } hfits
    (Bus.dispatch (Trial.deserted .component) 1) { run := bus.start { net := () } }
  obtain ⟨hresult, hkept⟩ := hannounces.hello_iff.1 (by decide +kernel)
  exact ⟨bus, _, after, hannounces, hresult, hkept (Server.spares_eq "ext" 1)⟩

/-! ## A name that is too long -/

/-- An external record with a given name. -/
def namedRecord (name : String) : Record :=
  { name, site := .external, endpoint := some (.local "ext") }

/-- One external subscriber that only raises. -/
def namedPlan (name : String) : Plan .component (Trial.World .component Unit) where
  config := {}
  records := [namedRecord name]
  registrations := []

/-- A name of so many bytes. -/
def nameOfLength (length : Nat) : String :=
  String.ofList (.replicate length 'a')

theorem length_nameOfLength (length : Nat) : (Text.utf8 (nameOfLength length)).length = length := by
  rw [Text.length_utf8, nameOfLength, String.toList_ofList]
  -- each letter is one byte
  induction length with
  | zero => rfl
  | succ length ih =>
    have hletter : 'a'.utf8Size = 1 := by decide
    rw [List.replicate_succ, Text.size, ih, hletter, Nat.add_comm]

/-- A plan with one record of such a name is valid, however long the name is. -/
theorem namedPlan_isValid {length : Nat} (hlength : length ≠ 0) : (namedPlan (nameOfLength length)).IsValid := by
  have hinbounds : (namedRecord (nameOfLength length)).resolveInbounds .component = .ok [] := rfl
  have houtbounds : (namedRecord (nameOfLength length)).resolveOutbounds .component = .ok [] := rfl
  refine ⟨?_, List.nodup_singleton _, nofun, ?_, ?_, nofun, ?_⟩ <;> rintro record hmem <;>
    obtain rfl := List.mem_singleton.mp hmem
  · have hletter : 'a' ∈ (nameOfLength length).toList := by
      rw [nameOfLength, String.toList_ofList]
      exact List.mem_replicate.mpr ⟨hlength, rfl⟩
    exact fun hunnamed => absurd (hunnamed 'a' hletter) (by decide)
  · exact ⟨_, hinbounds⟩
  · exact ⟨_, houtbounds⟩
  · exact fun _ => rfl

/-- A subscriber whose name is one byte too long is part of a bus, its announcement is within the limits, and it is
refused. -/
theorem longName_hello_failure :
    ∃ (bus : Bus .component (Trial.World .component Unit)) (before after : Server.State bus),
      Announces (namedPlan (nameOfLength 65536)) bus (namedRecord (nameOfLength 65536))
          (Wire.environment (Server.service {} (Bus.dispatch (Trial.deserted .component) 1)))
          (.ofConfig {} (.local "bus")) {} (Bus.dispatch (Trial.deserted .component) 1) 1 (· = ·)
          ⟨none, ⟨before, []⟩⟩ before after
        ∧ ((Client.ofConfig {} (.local "bus")).hello
          (Wire.environment (Server.service {} (Bus.dispatch (Trial.deserted .component) 1))) (nameOfLength 65536)
          ⟨none, ⟨before, []⟩⟩).1 = .ok .failure
        ∧ after.binding? 1 = none := by
  -- the name itself is never written out
  generalize hname : nameOfLength 65536 = name
  have hlong : 65535 < (Text.utf8 name).length := by
    rw [← hname, length_nameOfLength]
    exact Nat.lt_succ_self 65535
  have hvalid : (namedPlan name).IsValid := hname ▸ namedPlan_isValid (Nat.succ_ne_zero 65535)
  obtain ⟨bus, hbuilt⟩ := (namedPlan name).build_decides.ok_iff.mpr hvalid
  have hlisted : namedRecord name ∈ (namedPlan name).records := List.mem_cons_self
  have hfits : (Frame.hello (.ofName name) name).body.length ≤ 1048576 :=
    Nat.le_trans (Frame.length_body_hello_le _ name) (by decide)
  obtain ⟨after, hannounces⟩ := Wire.announces hbuilt hlisted rfl (.ofConfig {} (.local "bus")) {} hfits
    (Bus.dispatch (Trial.deserted .component) 1) { run := bus.start { net := () } }
  obtain ⟨hresult, hbound⟩ := hannounces.refused hlong
  exact ⟨bus, _, after, hannounces, hresult, hbound (Server.spares_eq name 1)⟩

end Client

end EventBus
