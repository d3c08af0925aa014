import EventBus.Proofs.Wire.Canonical

/-!
# No body begins with another one

Where one body ends and the next bytes begin can be seen from the body alone.

* `lengthField_append_inj`: a length field that is not at its largest value states one length only. At its largest value
  it stands for all the lengths beyond it, too.
* `block_inj`, `envelopeBytes_inj`, `outBytes_inj`: each part with a length field is told from what is behind it.
* `body_inj`, `encode_inj`: a body that its length field can state is not the beginning of another body, of whatever
  length, and so it is with the frame.
-/

namespace EventBus

namespace Bytes

variable {front front' rest rest' : Bytes}

/-- A number is told from what is behind it. -/
theorem be16_append_inj {n m : UInt16} (h : be16 n ++ rest = be16 m ++ rest') : n = m ∧ rest = rest' := by
  have hread := congrArg Frame.takeUInt16 h
  rwa [Frame.takeUInt16_be16, Frame.takeUInt16_be16, Except.ok.injEq, Prod.mk.injEq] at hread

/-- A number of four bytes is told from what is behind it. -/
theorem be32_append_inj {n m : UInt32} (h : be32 n ++ rest = be32 m ++ rest') : n = m ∧ rest = rest' := by
  have hread := congrArg Frame.takeUInt32 h
  rwa [Frame.takeUInt32_be32, Frame.takeUInt32_be32, Except.ok.injEq, Prod.mk.injEq] at hread

/-- A length beyond its field is stated as the largest one. -/
theorem takeUInt32_lengthField_min (n : Nat) (rest : Bytes) :
    ∃ field, Frame.takeUInt32 (lengthField n ++ rest) = .ok (field, rest) ∧ field.toNat = min n maxLength := by
  obtain ⟨field, hfield, hlength⟩ := Frame.takeUInt32_lengthField (Nat.min_le_right n maxLength) rest
  refine ⟨field, ?_, hlength⟩
  rw [lengthField, Nat.min_eq_left (Nat.min_le_right n maxLength)] at hfield
  exact hfield

/-- Below its largest value, a length field states one length only. -/
theorem lengthField_append_inj {n m : Nat} (hn : n < maxLength)
    (h : lengthField n ++ rest = lengthField m ++ rest') : n = m ∧ rest = rest' := by
  obtain ⟨field, hfield, hstates⟩ := takeUInt32_lengthField_min n rest
  obtain ⟨field', hfield', hstates'⟩ := takeUInt32_lengthField_min m rest'
  rw [h, hfield', Except.ok.injEq, Prod.mk.injEq] at hfield
  obtain ⟨rfl, rfl⟩ := hfield
  exact ⟨by omega, rfl⟩

/-- Bytes behind a field that states how many they are end where the field says. -/
theorem block_inj (hfront : front.length < maxLength)
    (h : lengthField front.length ++ (front ++ rest) = lengthField front'.length ++ (front' ++ rest')) :
    front = front' ∧ rest = rest' := by
  obtain ⟨hlength, hbehind⟩ := lengthField_append_inj hfront h
  exact List.append_inj hbehind hlength

end Bytes

namespace Frame

variable {rest rest' : Bytes}

/-- An envelope is told from what is behind it, unless its length is saturated. -/
theorem envelopeBytes_inj {envelope envelope' : Envelope} (hpayload : envelope.payload.length < Bytes.maxLength)
    (h : envelopeBytes envelope ++ rest = envelopeBytes envelope' ++ rest') :
    envelope = envelope' ∧ rest = rest' := by
  simp only [envelopeBytes, List.append_assoc] at h
  obtain ⟨horigin, h⟩ := Bytes.be32_append_inj h
  obtain ⟨hcode, h⟩ := Bytes.be16_append_inj h
  obtain ⟨hdata, hrest⟩ := Bytes.block_inj hpayload h
  obtain ⟨⟨origin⟩, code, payload⟩ := envelope
  obtain ⟨⟨origin'⟩, code', payload'⟩ := envelope'
  obtain rfl := horigin
  obtain rfl := hcode
  obtain rfl := hdata
  exact ⟨rfl, hrest⟩

/-- An out-structure is told from what is behind it, unless its length is saturated. -/
theorem outBytes_inj {out out' : Option EventOut} (hdata : ∀ o ∈ out, o.data.length < Bytes.maxLength)
    (h : outBytes out ++ rest = outBytes out' ++ rest') : out = out' ∧ rest = rest' := by
  cases out with
  | none =>
    cases out' with
    | none => exact ⟨rfl, (List.cons.inj h).2⟩
    -- the marks differ
    | some out' => exact absurd (List.cons.inj h).1 (by decide)
  | some out =>
    cases out' with
    | none => exact absurd (List.cons.inj h).1 (by decide)
    | some out' =>
      simp only [outBytes, List.cons_append, List.append_assoc, List.cons.injEq, true_and] at h
      obtain ⟨hchecksum, h⟩ := Bytes.be32_append_inj h
      obtain ⟨hsame, hrest⟩ := Bytes.block_inj (hdata out rfl) h
      obtain ⟨checksum, data⟩ := out
      obtain ⟨checksum', data'⟩ := out'
      obtain rfl := hchecksum
      obtain rfl := hsame
      exact ⟨rfl, hrest⟩

/-- A name as it is sent does not saturate its length field. -/
theorem length_sentName_lt (name : String) : (Text.utf8 (sentName name)).length < UInt16.size :=
  Nat.lt_succ_of_le (isLongestFront_sentName name).fits

/-- Data is shorter than what its out-structure is shorter than. -/
theorem length_data_lt {out : Option EventOut} {n : Nat} (h : (outBytes out).length < n) :
    ∀ o ∈ out, o.data.length < n :=
  fun _ ho => Nat.lt_of_le_of_lt (length_data_le ho) h

/-- Bodies of two kinds differ in their first byte. -/
theorem tag_eq_of_append {tag tag' : UInt8} {fields fields' : Bytes}
    (h : (tag :: fields) ++ rest = (tag' :: fields') ++ rest') : tag = tag' :=
  (List.cons.inj h).1

/-- A body that its length field can state is not the beginning of another body. -/
theorem body_inj {frame other : Frame} (hfits : frame.body.length ≤ Bytes.maxLength)
    (h : frame.body ++ rest = other.body ++ rest') : frame.body = other.body ∧ rest = rest' := by
  cases frame with
  | hello id name =>
    cases other with
    | hello id' name' =>
      simp only [body, List.cons_append, List.append_assoc, List.cons.injEq, true_and] at h ⊢
      obtain ⟨hid, h⟩ := Bytes.be32_append_inj h
      obtain ⟨hlength, h⟩ := Bytes.be16_append_inj h
      -- a name that is sent is no longer than its length field can state
      have hstated := congrArg UInt16.toNat hlength
      rw [UInt16.toNat_ofNat_of_lt' (length_sentName_lt name), UInt16.toNat_ofNat_of_lt' (length_sentName_lt name')]
        at hstated
      obtain ⟨hname, hrest⟩ := List.append_inj h hstated
      exact ⟨by rw [hid, hname], hrest⟩
    | helloAck | push | request | reply => exact absurd (tag_eq_of_append h) (by decide)
  | helloAck status =>
    cases other with
    | helloAck status' =>
      obtain ⟨hcode, hrest⟩ := Bytes.be32_append_inj (List.cons.inj h).2
      exact ⟨by rw [body, body, hcode], hrest⟩
    | hello | push | request | reply => exact absurd (tag_eq_of_append h) (by decide)
  | push envelope =>
    cases other with
    | push envelope' =>
      simp only [body, List.length_cons, length_envelopeBytes] at hfits
      obtain ⟨rfl, hrest⟩ := envelopeBytes_inj (by omega) (List.cons.inj h).2
      exact ⟨rfl, hrest⟩
    | hello | helloAck | request | reply => exact absurd (tag_eq_of_append h) (by decide)
  | request envelope out =>
    cases other with
    | request envelope' out' =>
      simp only [body, List.cons_append, List.length_cons, List.length_append, length_envelopeBytes] at hfits
      simp only [body, List.cons_append, List.append_assoc, List.cons.injEq, true_and] at h
      obtain ⟨rfl, hbehind⟩ := envelopeBytes_inj (by omega) h
      obtain ⟨rfl, hrest⟩ := outBytes_inj (length_data_lt (by omega)) hbehind
      exact ⟨rfl, hrest⟩
    | hello | helloAck | push | reply => exact absurd (tag_eq_of_append h) (by decide)
  | reply status out =>
    cases other with
    | reply status' out' =>
      simp only [body, List.cons_append, List.length_cons, List.length_append, Bytes.length_be32] at hfits
      simp only [body, List.cons_append, List.append_assoc, List.cons.injEq, true_and] at h ⊢
      obtain ⟨hstatus, h⟩ := Bytes.be32_append_inj h
      obtain ⟨rfl, hrest⟩ := outBytes_inj (length_data_lt (by omega)) h
      exact ⟨by rw [hstatus], hrest⟩
    | hello | helloAck | push | request => exact absurd (tag_eq_of_append h) (by decide)

/-- A frame that its length field can state is not the beginning of other bytes that were sent. -/
theorem encode_inj {frame other : Frame} (hfits : frame.body.length ≤ Bytes.maxLength)
    (h : frame.encode ++ rest = other.encode ++ rest') : frame.body = other.body ∧ rest = rest' := by
  simp only [encode, List.append_assoc] at h
  refine body_inj hfits (List.append_inj h ?_).2
  rw [Bytes.length_lengthField, Bytes.length_lengthField]

end Frame

end EventBus
