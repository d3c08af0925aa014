import EventBus.Proofs.Bus.Cells
import EventBus.Proofs.Bus.Dispatch
import EventBus.Proofs.Client.Calls
import EventBus.Trial.Peer

/-!
# Deliveries that fail in the transport

What a delivery to an external subscriber leaves of its connection and of its activation.

* `transmit_fails`: a transmission fails as the call of its frame does.
* `Leaves`: the three ways in which a failed delivery leaves its subscriber. Two of them are settled: a frame that
  is refused changes nothing, and anything else takes the connection and the activation. In the third one an
  answer that states too large a length takes the connection only.
* `serve_lost`: every failed delivery is one of the three, and which ones are settled.
-/

namespace EventBus.Bus

variable {c : Catalog} {σ : Type} {bus : Bus c σ} {env : Environment σ} {raise : Raise bus}
  {others : Run bus → Run bus → Prop} {event : Event c} {slot : bus.Slot} {client : Client} {perm : Perm}
  {envelope : Envelope} {view back out : Option EventOut} {e : TransportError}

/-! ## Transmissions -/

/-- The frame in which an event is sent. -/
def carrier (perm : Perm) (envelope : Envelope) (view : Option EventOut) : Frame :=
  if perm.write || perm.execute then .request envelope view else .push envelope

/-- A transmission fails as the call of its frame does. Without an answer only that frame can be too large. -/
theorem transmit_fails {session left : Session σ}
    (h : transmit env client perm envelope view session = ((.error e, back), left)) :
    client.Fails (carrier perm envelope view) session left e ∧ back = view
      ∧ ((perm.write || perm.execute) = false → (carrier perm envelope view).body.length ≤ client.largest →
        e.isFrameTooLarge = false) := by
  rw [transmit] at h
  rw [carrier]
  split at h
  · next hanswered =>
    rw [if_pos hanswered]
    generalize hcall : client.request env envelope view session = answer at h
    obtain ⟨result, returned, found⟩ := answer
    cases h
    obtain ⟨hfails, rfl⟩ := Client.request_fails hcall
    exact ⟨hfails, rfl, fun hunanswered => absurd hanswered (Bool.not_eq_true _ ▸ hunanswered)⟩
  · next hunanswered =>
    rw [if_neg hunanswered]
    generalize hcall : client.push env envelope session = answer at h
    obtain ⟨result, found⟩ := answer
    cases result with
    | ok => cases h
    | error e' =>
      cases h
      obtain ⟨hfails, hfits⟩ := Client.push_fails hcall
      -- a push waits for no answer, so a frame within the limit can only fail for another reason
      exact ⟨hfails, rfl, fun _ => hfits⟩

/-- A frame that is too large is refused before anything is touched. -/
theorem transmit_of_large (hlarge : client.largest < (carrier perm envelope view).body.length)
    (session : Session σ) :
    transmit env client perm envelope view session
      = ((.error (.frameTooLarge (carrier perm envelope view).body.length client.largest), view), session) := by
  have hrefused := Frame.encodeWithin_eq_error_iff.mpr ⟨hlarge, rfl⟩
  rw [transmit]
  rw [carrier] at hrefused ⊢
  -- either way the frame is encoded before the link is looked at, so the session stays as it was
  split
  · next hanswered =>
    rw [if_pos hanswered] at hrefused
    rw [Client.request, Client.call, hrefused]
    rfl
  · next hunanswered =>
    rw [if_neg hunanswered] at hrefused
    rw [Client.push, hrefused]
    rfl

/-! ## What a failed delivery leaves -/

/-- Other threads leave the connection and the activation of a slot as they are. -/
def Spares (others : Run bus → Run bus → Prop) (slot : bus.Slot) : Prop :=
  ∀ before after, others before after → Undisturbed slot before after

variable (env client perm envelope view slot) in
/-- How a delivery that failed in the transport leaves its subscriber. -/
inductive Leaves (before after : Run bus) (e : TransportError) : Prop where
  /-- The frame is too large. Nothing is written, and the connection and the activation are as before. -/
  | refused (hlarge : client.largest < (carrier perm envelope view).body.length)
      (huntouched : ∀ session, transmit env client perm envelope view session = ((.error e, view), session))
      (hsame : Undisturbed slot before after)
  /-- Anything goes wrong on the connection. It is closed and the subscriber deactivated. -/
  | dropped (hfits : (carrier perm envelope view).body.length ≤ client.largest) (herror : e.isFrameTooLarge = false)
      (hlink : (after.cell slot).link = none) (hactive : after.isActive slot = false)
  /-- The answer states a length that is too large. The connection is closed, and the subscriber keeps its
  activation. -/
  | overgrown (hfits : (carrier perm envelope view).body.length ≤ client.largest)
      (hanswered : perm.write || perm.execute) {length : Nat} (hlength : client.maxFrame < length)
      (herror : e = .frameTooLarge length client.maxFrame)
      (hlink : (after.cell slot).link = none) (hactive : after.isActive slot = before.isActive slot)

theorem Leaves.of_undisturbed {before started ended after : Run bus} (hstarted : Undisturbed slot before started)
    (h : Leaves env slot client perm envelope view started ended e) (hended : Undisturbed slot ended after) :
    Leaves env slot client perm envelope view before after e := by
  cases h with
  | refused hlarge huntouched hsame =>
    exact .refused hlarge huntouched (hstarted.trans (hsame.trans hended))
  | dropped hfits herror hlink hactive =>
    exact .dropped hfits herror (hended.link.trans hlink) (hended.active.trans hactive)
  | overgrown hfits hanswered hlength herror hlink hactive =>
    exact .overgrown hfits hanswered hlength herror (hended.link.trans hlink)
      (hended.active.trans (hactive.trans hstarted.active))

variable (client perm envelope view slot) in
/-- The connection and the activation are both as before if the frame is too large, and both gone if not. -/
def IsSettled (before after : Run bus) : Prop :=
  if client.largest < (carrier perm envelope view).body.length then Undisturbed slot before after
  else (after.cell slot).link = none ∧ after.isActive slot = false

/-- What is not settled is an active subscriber whose answer was too large. -/
theorem Leaves.isSettled_iff {before after : Run bus} (h : Leaves env slot client perm envelope view before after e) :
    IsSettled slot client perm envelope view before after
      ↔ ¬((carrier perm envelope view).body.length ≤ client.largest ∧ e.isFrameTooLarge ∧ before.isActive slot) := by
  rw [IsSettled]
  cases h with
  | refused hlarge huntouched hsame =>
    rw [if_pos hlarge]
    exact iff_of_true hsame fun hfits => by omega
  | dropped hfits herror hlink hactive =>
    rw [if_neg (by omega), herror]
    exact iff_of_true ⟨hlink, hactive⟩ fun hlarge => Bool.false_ne_true hlarge.2.1
  -- the one case that is left unsettled: the reply was too large and the subscriber is still active
  | overgrown hfits hanswered hlength herror hlink hactive =>
    rw [if_neg (by omega), hactive, herror]
    simp [hfits, hlink, TransportError.isFrameTooLarge]

/-! ## Deliveries -/

/-- An invocation that the transport loses leaves the subscriber as the call of its frame does. -/
theorem Invoked.leaves (hspares : Spares others slot) {before after : Run bus}
    (htarget : (bus.subscriber slot).target = .external client)
    (h : Invoked env raise others event slot view before (.lost e) back after) :
    back = view
      ∧ Leaves env slot client ((bus.subscriber slot).perm event.kind) (.ofEvent event) view before after e := by
  cases h with
  | @lost _ _ sent _ _ _ hother hsent hothers =>
    cases htarget.symm.trans hother
    have hcall := Run.inSession_eq hsent
    have hactive := Run.isActive_inSession slot slot
      (transmit env client ((bus.subscriber slot).perm event.kind) (.ofEvent event) view) before
    rw [hsent] at hactive
    obtain ⟨hfails, rfl, hunanswered⟩ := transmit_fails hcall
    refine ⟨rfl, ?_⟩
    cases hfails with
    | refused hlarge herror hleft =>
      -- the turn of the call has changed nothing, and none follows it
      rw [herror] at hothers
      have hsent : Undisturbed slot before sent := ⟨congrArg Session.link hleft, hactive⟩
      refine .refused hlarge (fun session => ?_) (hsent.trans (hspares _ _ hothers))
      rw [transmit_of_large hlarge, herror]
    | broken hfits hgone hanswer =>
      cases hsize : e.isFrameTooLarge with
      | true =>
        rw [hsize] at hothers
        have hlater := hspares _ _ hothers
        obtain ⟨length, hlength, herror⟩ := hanswer hsize
        refine .overgrown hfits ?_ hlength herror (hlater.link.trans hgone) (hlater.active.trans hactive)
        cases hanswered : ((bus.subscriber slot).perm event.kind).write
            || ((bus.subscriber slot).perm event.kind).execute with
        | true => rfl
        | false => cases (hunanswered hanswered hfits).symm.trans hsize
      | false =>
        rw [hsize] at hothers
        obtain ⟨found, hfound, hafter⟩ := hothers
        have hlater := hspares _ _ hafter
        refine .dropped hfits hsize ?_ ?_
        · rw [hlater.link, Run.link_activate, (hspares _ _ hfound).link]
          exact hgone
        · rw [hlater.active, Run.isActive_activate_self]

/-- **Deliveries that fail in the transport.** While other threads leave the connection and the activation of a
subscriber alone, every event that is sent to it comes to an end. If the call fails, the chain sees a transport
failure and the out-structure as it was, and the subscriber is left in one of three ways. It is settled unless it
was active and its answer too large. -/
theorem serve_lost (htarget : (bus.subscriber slot).target = .external client) (hspares : Spares others slot)
    (env : Environment σ) (raise : Raise bus) (event : Event c) (out : EventOut) (before : Run bus) :
    (serve env raise slot event out).Ends others before
      ∧ ∀ failure left after, (serve env raise slot event out).Comes others before (failure, left) after →
        ∃ started, others (before.begin slot event) started
          ∧ ∀ perm view e, perm = (bus.subscriber slot).perm event.kind → view = viewOf perm out →
            (transmit env client perm (.ofEvent event) view ⟨(before.cell slot).link, started.world⟩).1.1 = .error e →
              (∃ error, failure = some error ∧ error.status = .transport) ∧ left = out
                ∧ Leaves env slot client perm (.ofEvent event) view before after e
                ∧ (IsSettled slot client perm (.ofEvent event) view before after
                  ↔ ¬((carrier perm (.ofEvent event) view).body.length ≤ client.largest ∧ e.isFrameTooLarge
                    ∧ before.isActive slot)) := by
  have hserves : (bus.subscriber slot).serves event.kind := by rw [Subscriber.serves, htarget]
  constructor
  · refine ends_serve (fun handler hhandler => ?_) out before
    rw [Subscriber.handler?, htarget] at hhandler
    cases hhandler
  · intro failure left after hcomes
    obtain ⟨started, deed, back, ended, hstarted, hinvoked, hcounted, rfl, rfl⟩ := (comes_serve_iff hserves).mp hcomes
    refine ⟨started, hstarted, ?_⟩
    rintro perm view e rfl rfl hfailed
    -- while the invocation was entered others had turns, but the link of this subscriber is as it was
    have hbegun := (undisturbed_begin slot slot event before).trans (hspares _ _ hstarted)
    rw [← hbegun.link] at hfailed
    have hinvocation := hinvoked
    cases hinvoked with
    | handled hhandler =>
      rw [Subscriber.handler?, htarget] at hhandler
      cases hhandler
    | answered hother hsent hothers =>
      cases htarget.symm.trans hother
      rw [Run.inSession_eq hsent] at hfailed
      cases hfailed
    | lost hother hsent hothers =>
      cases htarget.symm.trans hother
      rw [Run.inSession_eq hsent] at hfailed
      cases hfailed
      obtain ⟨rfl, hleaves⟩ := hinvocation.leaves hspares htarget
      have hended := (undisturbed_finish slot slot event.kind _ _ ended).trans (hspares _ _ hcounted)
      have hleft := hleaves.of_undisturbed hbegun hended
      exact ⟨⟨_, rfl, rfl⟩, outAfter_viewOf _ out, hleft, hleft.isSettled_iff⟩

/-! ## A peer that answers too much, and one that does not listen -/

/-- A bus with one external subscriber, which may write and stop a chain, and frames of up to 64 bytes. -/
def briefBus : Bus .component Trial.Peer where
  config := { maxFrame := 64 }
  subscribers :=
    #[⟨"app", "", .general, true, [(⟨19, by decide⟩, ⟨true, true, true⟩)], [],
      .external (.ofConfig { maxFrame := 64 } (.local "app"))⟩]

def briefEvent : Event .component :=
  ⟨.ofName "ctl", ⟨19, by decide⟩, [1, 2]⟩

/-- A peer that answers every frame with the header of a body of 65 bytes. -/
def oversizedPeer : Trial.Peer :=
  { listening := true, cue := some ⟨[0, 0, 0, 65], false⟩ }

/-- The frame is not too large, the delivery fails and its connection is closed; the subscriber stays active. -/
theorem oversizedPeer_unsettled :
    ((serve Trial.Peer.environment (fun _ _ => .stuck) ⟨0, by decide⟩ briefEvent ⟨0, [1, 2]⟩).alone
        (briefBus.start oversizedPeer)).map (fun ((failure, left), after) =>
          (failure, left, (after.cell ⟨0, by decide⟩).link, after.isActive ⟨0, by decide⟩))
      = some (some (.transportFailure "app" "EV_SW_GET_FD" (.frameTooLarge 65 64)), ⟨0, [1, 2]⟩, none, true)
      ∧ (carrier ⟨true, true, true⟩ (.ofEvent briefEvent) (some ⟨0, [1, 2]⟩)).body.length ≤ 64
      ∧ (briefBus.start oversizedPeer).isActive ⟨0, by decide⟩ := by
  decide +kernel

/-- Nobody listens: the connection and the activation are gone. -/
theorem serve_unheard :
    ∃ failure after,
      (serve Trial.Peer.environment (fun _ _ => .stuck) ⟨0, by decide⟩ briefEvent ⟨0, [1, 2]⟩).Comes (· = ·)
          (briefBus.start { listening := false }) (failure, ⟨0, [1, 2]⟩) after
        ∧ (∃ error, failure = some error ∧ error.status = .transport)
        ∧ IsSettled ⟨0, by decide⟩ (.ofConfig { maxFrame := 64 } (.local "app")) ⟨true, true, true⟩
          (.ofEvent briefEvent) (some ⟨0, [1, 2]⟩) (briefBus.start { listening := false }) after := by
  have htarget : (briefBus.subscriber ⟨0, by decide⟩).target
      = .external (.ofConfig { maxFrame := 64 } (.local "app")) := rfl
  have hspares : Spares (· = ·) (⟨0, by decide⟩ : briefBus.Slot) := by
    rintro before _ rfl
    exact ⟨rfl, rfl⟩
  have hlost := serve_lost htarget hspares Trial.Peer.environment (fun _ _ => .stuck) briefEvent ⟨0, [1, 2]⟩
    (briefBus.start { listening := false })
  obtain ⟨⟨failure, left⟩, after, hcomes⟩ := hlost.1.exists_comes fun _ => rfl
  obtain ⟨started, rfl, hleft⟩ := hlost.2 failure left after hcomes
  -- the dial finds no socket file, which is no complaint about a length
  have hcall := hleft ⟨true, true, true⟩ (some ⟨0, [1, 2]⟩) (.io .noSuchFile) (by decide) (by decide) (by decide)
  obtain ⟨hfailure, rfl, -, hsettled⟩ := hcall
  exact ⟨failure, after, hcomes, hfailure, hsettled.mpr (by decide)⟩

end EventBus.Bus
