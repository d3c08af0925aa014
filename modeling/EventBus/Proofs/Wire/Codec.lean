import EventBus.Proofs.Wire.BigEndian

/-!
# Fields and bodies

Each part of a frame, read behind its own encoding, is the part that was written.

* **Names**: `IsLongestFront` says what cutting a name to a number of bytes means, and
  `isLongestFront_sentName` that a sent name is cut this way.
* **Parts**: `takeEnvelope_envelopeBytes` and `takeOut_outBytes`, for lengths that their fields can state.
* **Bodies**: `ofBody_body`. A body of at most `Bytes.maxLength` bytes leaves no length saturated, so that
  the parts apply; the frame that comes back is the one that was sent but for the cut of a name
  (`Frame.asSent`).
-/

namespace EventBus

/-! ## Names -/

namespace Text

/-- How many bytes characters are encoded to. -/
def size : List Char → Nat
  | [] => 0
  | c :: cs => c.utf8Size + size cs

/-- A text is encoded to as many bytes as its characters are. -/
theorem length_utf8 (s : String) : (utf8 s).length = size s.toList := by
  -- character by character
  have hencode : ∀ cs : List Char, cs.utf8Encode.size = size cs := by
    intro cs
    induction cs with
    | nil => rfl
    | cons c cs ih =>
      rw [List.utf8Encode_cons, ByteArray.size_append, ih, List.utf8Encode_singleton,
        List.size_toByteArray, String.length_utf8EncodeChar]
      rfl
  rw [← hencode s.toList, String.utf8Encode_toList]
  rfl

/-- A front of a text is what it begins with, up to the end of some character. `front` is the longest one
of `whole` that takes at most `limit` bytes. -/
structure IsLongestFront (limit : Nat) (whole front : String) : Prop where
  front_of : front.toList <+: whole.toList
  /-- It takes at most `limit` bytes. -/
  fits : (utf8 front).length ≤ limit
  longest : ∀ other : String, other.toList <+: whole.toList → (utf8 other).length ≤ limit →
    other.toList <+: front.toList

/-- Cutting to a number of bytes keeps a first part of the characters. -/
theorem takeBytes_prefix (limit : Nat) (cs : List Char) : takeBytes limit cs <+: cs := by
  induction cs generalizing limit with
  | nil => exact List.nil_prefix
  | cons c cs ih =>
    rw [takeBytes]
    split
    · exact List.cons_prefix_cons.mpr ⟨rfl, ih _⟩
    · exact List.nil_prefix

theorem size_takeBytes_le (limit : Nat) (cs : List Char) : size (takeBytes limit cs) ≤ limit := by
  induction cs generalizing limit with
  | nil => exact Nat.zero_le _
  | cons c cs ih =>
    rw [takeBytes]
    split
    · next hfits =>
      have hrest := ih (limit - c.utf8Size)
      simp only [size] at hrest ⊢
      omega
    · exact Nat.zero_le _

/-- A front that fits is a front of what is taken: it cannot go past the first character that does not
fit. -/
theorem prefix_takeBytes {limit : Nat} {front cs : List Char} (hfront : front <+: cs)
    (hsize : size front ≤ limit) : front <+: takeBytes limit cs := by
  induction cs generalizing limit front with
  | nil => exact hfront
  | cons c cs ih =>
    cases front with
    | nil => exact List.nil_prefix
    | cons d front =>
      obtain ⟨rfl, htail⟩ := List.cons_prefix_cons.mp hfront
      simp only [size] at hsize
      rw [takeBytes, if_pos (by omega)]
      exact List.cons_prefix_cons.mpr ⟨rfl, ih htail (by omega)⟩

/-- A text that fits is its own longest front. -/
theorem IsLongestFront.refl {limit : Nat} {s : String} (h : (utf8 s).length ≤ limit) :
    IsLongestFront limit s s :=
  ⟨List.prefix_refl _, h, fun _ hother _ => hother⟩

/-- What cutting keeps fits, and no longer first part of the name would. -/
theorem isLongestFront_takeBytes (limit : Nat) (s : String) :
    IsLongestFront limit s (String.ofList (takeBytes limit s.toList)) := by
  refine ⟨?_, ?_, fun other hother hfits => ?_⟩
  · rw [String.toList_ofList]
    exact takeBytes_prefix limit s.toList
  · rw [length_utf8, String.toList_ofList]
    exact size_takeBytes_le limit s.toList
  · rw [String.toList_ofList]
    exact prefix_takeBytes hother (length_utf8 other ▸ hfits)

end Text

namespace Frame

/-- A name that is not too long is sent as it is. -/
theorem sentName_of_le {name : String} (h : (Text.utf8 name).length ≤ maxName) : sentName name = name :=
  if_pos h

/-- A name is sent up to the longest front that its length field can state. -/
theorem isLongestFront_sentName (name : String) : Text.IsLongestFront maxName name (sentName name) := by
  unfold sentName
  split
  · next h => exact .refl h
  · exact Text.isLongestFront_takeBytes maxName name

/-- The frame that a receiver can see: the name of an announcement as it is sent. -/
def asSent : Frame → Frame
  | hello id name => hello id (sentName name)
  | frame => frame

/-! ## Parts -/

@[simp]
theorem takeStatus_be32 (status : Status) (rest : Bytes) :
    takeStatus (Bytes.be32 status.code.toUInt32 ++ rest) = .ok (status, rest) := by
  rw [takeStatus, takeUInt32_be32]
  show Except.ok (Status.mk status.code.toUInt32.toInt32, rest) = _
  rw [Int32.toInt32_toUInt32]

/-- Reading an envelope gives the one that was written, and what is behind it. -/
theorem takeEnvelope_envelopeBytes {envelope : Envelope} (h : envelope.payload.length ≤ Bytes.maxLength)
    (rest : Bytes) : takeEnvelope (envelopeBytes envelope ++ rest) = .ok (envelope, rest) := by
  obtain ⟨field, hfield, hlength⟩ := takeUInt32_lengthField h (envelope.payload ++ rest)
  simp only [takeEnvelope, envelopeBytes, List.append_assoc, takeUInt32_be32, takeUInt16_be16, hfield,
    hlength, takeBytes_append, bind, Except.bind, pure, Except.pure]

/-- Reading an out-structure, if there is one, gives the one that was written, and what is behind it. -/
theorem takeOut_outBytes {out : Option EventOut} (h : ∀ o ∈ out, o.data.length ≤ Bytes.maxLength)
    (rest : Bytes) : takeOut (outBytes out ++ rest) = .ok (out, rest) := by
  cases out with
  | none => rfl
  | some out =>
    obtain ⟨field, hfield, hlength⟩ := takeUInt32_lengthField (h out rfl) (out.data ++ rest)
    simp only [takeOut, outBytes, List.cons_append, List.append_assoc, takeUInt32_be32, hfield, hlength,
      takeBytes_append, bind, Except.bind, pure, Except.pure]

/-- Reading the fields of an announcement gives the id and the name as it was sent. -/
theorem takeHello_append (id : SubscriberId) (name rest : Bytes) (s : String) (hname : name = Text.utf8 s)
    (h : name.length ≤ maxName) :
    takeHello (Bytes.be32 id.raw ++ Bytes.be16 (UInt16.ofNat name.length) ++ name ++ rest)
      = .ok (.hello id s, rest) := by
  have hlength : (UInt16.ofNat name.length).toNat = name.length := by
    have hmax : maxName = 65535 := rfl
    exact UInt16.toNat_ofNat_of_lt' (by show name.length < 65536; omega)
  simp only [takeHello, List.append_assoc, takeUInt32_be32, takeUInt16_be16, hlength, takeBytes_append,
    bind, Except.bind, Text.ofUtf8?_eq_some_iff.mpr hname, pure, Except.pure]

/-! ## Bodies -/

/-- What stands beside the payload of an envelope takes ten bytes. -/
theorem length_envelopeBytes (envelope : Envelope) :
    (envelopeBytes envelope).length = 10 + envelope.payload.length := by
  simp only [envelopeBytes, List.length_append, Bytes.length_be32, Bytes.length_be16,
    Bytes.length_lengthField]

/-- What stands beside the data of an out-structure takes nine. -/
theorem length_outBytes_some (out : EventOut) : (outBytes (some out)).length = 9 + out.data.length := by
  simp only [outBytes, List.cons_append, List.length_cons, List.length_append, Bytes.length_be32,
    Bytes.length_lengthField]
  omega

/-- Data of an out-structure is no longer than its bytes. -/
theorem length_data_le {out : Option EventOut} {o : EventOut} (h : o ∈ out) :
    o.data.length ≤ (outBytes out).length := by
  rw [Option.mem_def.mp h, length_outBytes_some]
  omega

theorem body_ne_nil (frame : Frame) : frame.body ≠ [] := by
  cases frame <;> exact List.cons_ne_nil _ _

/-- The body of a frame reads as the frame that was sent. -/
theorem ofBody_body {frame : Frame} (h : frame.body.length ≤ Bytes.maxLength) :
    ofBody frame.body = .ok frame.asSent := by
  -- each body is a tag and fields with nothing behind them
  have hwhole : ∀ {tag : UInt8} {fields : Bytes} {frame : Frame},
      takeFields tag (fields ++ []) = .ok (frame, []) → ofBody (tag :: fields) = .ok frame := by
    intro tag fields frame hfields
    rw [List.append_nil] at hfields
    simp only [ofBody, hfields, bind, Except.bind, List.isEmpty_nil, if_true]
  have hout : ∀ {out : Option EventOut}, (outBytes out).length ≤ Bytes.maxLength →
      takeOut (outBytes out ++ []) = .ok (out, []) := by
    intro out hlength
    exact takeOut_outBytes (fun o ho => Nat.le_trans (length_data_le ho) hlength) []
  -- one case for each sort of frame, with the parts that it consists of
  cases frame with
  | hello id name => exact hwhole (takeHello_append id _ [] _ rfl (isLongestFront_sentName name).fits)
  | helloAck status =>
    apply hwhole
    rw [takeFields, takeStatus_be32]
    rfl
  | push envelope =>
    simp only [body, List.length_cons, length_envelopeBytes] at h
    apply hwhole
    rw [takeFields, takeEnvelope_envelopeBytes (by omega)]
    rfl
  | request envelope out =>
    simp only [body, List.cons_append, List.length_cons, List.length_append, length_envelopeBytes] at h
    refine @hwhole 4 (envelopeBytes envelope ++ outBytes out) _ ?_
    rw [List.append_assoc, takeFields, takeEnvelope_envelopeBytes (by omega)]
    show (takeOut (outBytes out ++ []) >>= fun parsed => pure (request envelope parsed.1, parsed.2)) = _
    rw [hout (by omega)]
    rfl
  | reply status out =>
    simp only [body, List.cons_append, List.length_cons, List.length_append, Bytes.length_be32] at h
    refine @hwhole 5 (Bytes.be32 status.code.toUInt32 ++ outBytes out) _ ?_
    rw [List.append_assoc, takeFields, takeStatus_be32]
    show (takeOut (outBytes out ++ []) >>= fun parsed => pure (reply status parsed.1, parsed.2)) = _
    rw [hout (by omega)]
    rfl

end Frame

end EventBus
