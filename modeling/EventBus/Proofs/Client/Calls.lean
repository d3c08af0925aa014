import EventBus.Client
import EventBus.Proofs.Wire.Codec
import EventBus.Proofs.Wire.Failures

/-!
# Calls of a client that fail

A call fails before the connection is touched, or it closes the connection.

* `Reader.frame_error`: a frame that is read is refused for its size only by the length that its header states.
* `link_of_exchange_error`: whatever goes wrong on a connection, none is left.
* `Fails`, `call_fails`, `push_fails`, `request_fails`: the two ways in which a call fails.
-/

namespace EventBus

namespace TransportError

/-- A read or a write fails in other ways than by the size of a frame. -/
@[simp]
theorem isFrameTooLarge_ofIo (error : IoError) (limit : Duration) :
    (ofIo error limit).isFrameTooLarge = false := by
  rw [ofIo]
  split <;> rfl

end TransportError

namespace Frame

variable {e : TransportError}

/-! ## Frames that are refused for their size -/

/-- Lengths are the only thing that a size is refused for. -/
theorem checkLength_error {max length : Nat} (h : checkLength max length = .error e)
    (hlarge : e.isFrameTooLarge) : max < length ∧ e = .frameTooLarge length max := by
  rw [checkLength] at h
  split at h
  · cases h
    cases hlarge
  · split at h
    · next hmax =>
      cases h
      exact ⟨hmax, rfl⟩
    · cases h

/-- A frame that is read is too large only by the length that its header states. -/
theorem Reader.frame_error {max : Nat} {limit : Duration} {reader left : Reader}
    (h : reader.frame max limit = (.error e, left)) (hlarge : e.isFrameTooLarge) :
    ∃ length, max < length ∧ e = .frameTooLarge length max := by
  rw [Reader.frame] at h
  split at h
  · cases h
    cases (TransportError.isFrameTooLarge_ofIo _ _).symm.trans hlarge
  · next header _ _ =>
    split at h
    · next hheader =>
      cases h
      cases (failsOnly_takeUInt32 isMalformed_truncated header _ hheader).isFrameTooLarge_eq.symm.trans hlarge
    · split at h
      -- the length in the header is the only one of the five complaints that is about a size
      · next hlength =>
        cases h
        exact ⟨_, checkLength_error hlength hlarge⟩
      · split at h
        · cases h
          cases (TransportError.isFrameTooLarge_ofIo _ _).symm.trans hlarge
        · next body _ _ =>
          cases (failsOnly_ofBody body e (Prod.mk.inj h).1).isFrameTooLarge_eq.symm.trans hlarge

end Frame

namespace Client

variable {σ α : Type} {env : Environment σ} {client : Client} {session left : Session σ} {e : TransportError}

/-! ## Nothing is left of a connection that failed -/

@[simp]
theorem link_reset (env : Environment σ) (session : Session σ) : (reset env session).link = none := by
  rw [reset]
  split
  · rfl
  · next h => exact h

/-- Where no connection is made none is kept, and the failure is not one of size. -/
theorem acquire_eq_error (h : client.acquire env session = (.error e, left)) :
    left.link = none ∧ e.isFrameTooLarge = false := by
  rw [acquire] at h
  split at h
  · cases h
  · split at h
    · cases h
    · cases h
      exact ⟨rfl, rfl⟩

theorem send_eq_error {bytes : Bytes} {link : Link} {world world' : σ}
    (h : client.send env bytes link world = (.error e, world')) : e.isFrameTooLarge = false := by
  rw [send] at h
  obtain ⟨hresult, -⟩ := Prod.mk.inj h
  cases hwrite : (env.write link.handle bytes world).1 with
  | error io =>
    rw [hwrite] at hresult
    cases hresult
    exact TransportError.isFrameTooLarge_ofIo io _
  | ok =>
    rw [hwrite] at hresult
    cases hresult

/-- Whatever fails on a connection, none is left. -/
theorem link_of_exchange_error {bytes : Bytes} {answer : Link → σ → Except TransportError α × Link × σ}
    (h : client.exchange env bytes answer session = (.error e, left)) : left.link = none := by
  rw [exchange] at h
  split at h
  · next hacquire =>
    cases h
    exact (acquire_eq_error hacquire).1
  · split at h
    -- after a failure of the exchange itself the link is reset, whichever half has failed
    · cases h
      exact link_reset env _
    · split at h
      · cases h
        exact link_reset env _
      · cases h

/-- Only an answer can make an exchange fail by its size. -/
theorem isFrameTooLarge_of_exchange {bytes : Bytes} {answer : Link → σ → Except TransportError α × Link × σ}
    (h : client.exchange env bytes answer session = (.error e, left)) (hlarge : e.isFrameTooLarge) :
    ∃ link world link' world', answer link world = (.error e, link', world') := by
  rw [exchange] at h
  split at h
  · next hacquire =>
    cases h
    rw [(acquire_eq_error hacquire).2] at hlarge
    cases hlarge
  · next link acquired _ =>
    split at h
    -- a connection that is refused or breaks while sending is not a matter of sizes
    · next hsend =>
      cases h
      rw [send_eq_error hsend] at hlarge
      cases hlarge
    · next world _ =>
      split at h
      · next link' world' hanswer =>
        cases h
        exact ⟨_, _, _, _, hanswer⟩
      · cases h

/-! ## How calls fail -/

/-- The largest body that a client sends. -/
def largest (client : Client) : Nat :=
  min client.maxFrame Bytes.maxLength

/-- How a call fails that sends one frame. -/
inductive Fails (client : Client) (frame : Frame) (session left : Session σ) (e : TransportError) : Prop where
  /-- The frame is too large, and nothing is touched. -/
  | refused (hlarge : client.largest < frame.body.length)
      (herror : e = .frameTooLarge frame.body.length client.largest) (hleft : left = session)
  /-- Anything else goes wrong. A size is then that of the answer, as its header states it. -/
  | broken (hfits : frame.body.length ≤ client.largest) (hlink : left.link = none)
      (hanswer : e.isFrameTooLarge → ∃ length, client.maxFrame < length ∧ e = .frameTooLarge length client.maxFrame)

/-- A frame that is too large is refused before the connection is touched. -/
theorem Fails.of_encodeWithin {frame : Frame} (h : frame.encodeWithin client.maxFrame = .error e) :
    Fails client frame session session e := by
  obtain ⟨hlarge, rfl⟩ := Frame.encodeWithin_eq_error_iff.mp h
  exact .refused hlarge rfl rfl

/-- A call is refused like that, or it fails on the connection and closes it. -/
theorem call_fails {frame : Frame} (h : client.call env frame session = (.error e, left)) :
    Fails client frame session left e := by
  rw [call] at h
  split at h
  · next hencode =>
    cases h
    exact .of_encodeWithin hencode
  · next hencode =>
    have hfits := (Frame.encodeWithin_eq_ok_iff.mp hencode).1
    refine .broken hfits (link_of_exchange_error h) fun hlarge => ?_
    obtain ⟨link, world, link', world', hanswer⟩ := isFrameTooLarge_of_exchange h hlarge
    exact Frame.Reader.frame_error (Prod.ext (Prod.mk.inj hanswer).1 rfl) hlarge

/-- The frame of a call that is answered was not too large. -/
theorem fits_of_call_ok {frame answer : Frame} (h : client.call env frame session = (.ok answer, left)) :
    frame.body.length ≤ client.largest := by
  rw [call] at h
  split at h
  · cases h
  · next hencode => exact (Frame.encodeWithin_eq_ok_iff.mp hencode).1

/-- Without an answer nothing behind the first check can be too large. -/
theorem push_fails {envelope : Envelope} (h : client.push env envelope session = (.error e, left)) :
    Fails client (.push envelope) session left e
      ∧ ((Frame.push envelope).body.length ≤ client.largest → e.isFrameTooLarge = false) := by
  rw [push] at h
  split at h
  · next hencode =>
    cases h
    refine ⟨.of_encodeWithin hencode, fun hfits => ?_⟩
    have hlarge := (Frame.encodeWithin_eq_error_iff.mp hencode).1
    rw [largest] at hfits
    omega
  · next hencode =>
    have hfits := (Frame.encodeWithin_eq_ok_iff.mp hencode).1
    -- a push asks for no answer, so none can fail
    have hnever : ¬e.isFrameTooLarge := by
      intro hlarge
      obtain ⟨link, world, link', world', hanswer⟩ := isFrameTooLarge_of_exchange h hlarge
      cases hanswer
    exact ⟨.broken hfits (link_of_exchange_error h) fun hlarge => absurd hlarge hnever,
      fun _ => Bool.not_eq_true _ ▸ hnever⟩

/-- A request that fails leaves the out-structure to its caller. -/
theorem request_fails {envelope : Envelope} {out back : Option EventOut}
    (h : client.request env envelope out session = (.error e, back, left)) :
    Fails client (.request envelope out) session left e ∧ back = out := by
  rw [request] at h
  split at h
  · next hcall =>
    cases h
    exact ⟨call_fails hcall, rfl⟩
  · cases h
  · next hcall =>
    cases h
    exact ⟨.broken (fits_of_call_ok hcall) (link_reset env _) fun hlarge => absurd hlarge Bool.false_ne_true, rfl⟩

end Client

end EventBus
