import EventBus.Error.Config
import EventBus.Json.Writer
import EventBus.Record

/-!
# Records as JSON

A list of records is a JSON array. A record is an object, or an array of its fields in their order
with trailing ones left out. Keys that no field has are skipped; no key may come twice; only the name
is required. Reading stops at the first fault in the order of the text.

Writing gives an object with the fields in their order; optional fields that are absent are left out.
-/

namespace EventBus.Record

open Json (Token Fault Reading)

/-! ## Writing -/

def members (record : Record) : List (String × List Token) :=
  [("name", [Json.textToken record.name]), ("args", [Json.textToken record.args]),
    ("type", [Json.textToken record.scheduling.label]), ("site", [Json.textToken record.site.label])]
    ++ (record.perm.map fun letters => ("perm", [Json.textToken letters])).toList
    ++ [("inbounds", Json.arrayTokens (record.inbounds.map fun entry => [Json.textToken entry])),
      ("outbounds", Json.arrayTokens (record.outbounds.map fun entry => [Json.textToken entry]))]
    ++ (record.endpoint.map fun endpoint => ("endpoint", [Json.textToken endpoint.text])).toList
    ++ (record.activated.map fun on => ("activated", [Token.bool on])).toList

def toTokens (record : Record) : List Token :=
  Json.objectTokens record.members

def toJson (record : Record) : String :=
  Json.render record.toTokens

def listToJson (records : List Record) : String :=
  Json.render (Json.arrayTokens (records.map toTokens))

/-! ## Reading -/

/-- An endpoint, given as a text. -/
def readEndpoint (ts : List Token) : Reading Endpoint :=
  match Json.text.read ts with
  | .error e => .error e
  | .ok (text, rest) =>
    match Endpoint.parse text with
    | .ok endpoint => .ok (endpoint, rest)
    | .error (raw, reason) => .error (.mismatch (ConfigError.invalidEndpoint raw reason).message)

def endpointReader : Json.Reader Endpoint where
  read := readEndpoint
  length_lt h := by
    unfold readEndpoint at h
    split at h
    · simp at h
    · next hread =>
      split at h
      · simp only [Except.ok.injEq, Prod.mk.injEq] at h
        exact h.2 ▸ Json.text.length_lt hread
      · simp at h

/-- The fields of a record in their order. -/
inductive Field where
  | name
  | args
  | scheduling
  | site
  | perm
  | inbounds
  | outbounds
  | endpoint
  | activated
  deriving DecidableEq, Repr

/-- All fields with their keys, in their order. -/
def Field.all : List (String × Field) :=
  [("name", .name), ("args", .args), ("type", .scheduling), ("site", .site), ("perm", .perm),
    ("inbounds", .inbounds), ("outbounds", .outbounds), ("endpoint", .endpoint), ("activated", .activated)]

/-- A record while it is read: the fields that were found, and the values of the others. -/
structure Draft where
  found : List Field
  record : Record

def Draft.blank : Draft := ⟨[], { name := "" }⟩

def Field.reader (field : Field) (record : Record) : Json.Reader Record :=
  match field with
  | .name => Json.text.map fun v => { record with name := v }
  | .args => Json.text.map fun v => { record with args := v }
  | .scheduling => (Json.variant Scheduling.variants).map fun v => { record with scheduling := v }
  | .site => (Json.variant Site.variants).map fun v => { record with site := v }
  | .perm => (Json.optional Json.text).map fun v => { record with perm := v }
  | .inbounds => (Json.array Json.text).map fun v => { record with inbounds := v }
  | .outbounds => (Json.array Json.text).map fun v => { record with outbounds := v }
  | .endpoint => (Json.optional endpointReader).map fun v => { record with endpoint := v }
  | .activated => (Json.optional Json.bool).map fun v => { record with activated := v }

/-- The value of one member, behind its key. A key that comes twice is refused before its colon. -/
def readMember (draft : Draft) (key : List Char) (ts : List Token) : Reading Draft :=
  match Field.all.lookup (String.ofList key) with
  | none =>
    match ts with
    | .colon :: value =>
      match Json.skipValue value with
      | .ok rest => .ok (draft, rest)
      | .error e => .error e
    | _ => .error .malformed
  | some field =>
    if field ∈ draft.found then .error (.mismatch s!"duplicate field `{String.ofList key}`")
    else
      match ts with
      | .colon :: value =>
        match (field.reader draft.record).read value with
        | .ok (record, rest) => .ok (⟨field :: draft.found, record⟩, rest)
        | .error e => .error e
      | _ => .error .malformed

theorem length_lt_of_readMember {draft next : Draft} {key : List Char} {ts rest : List Token}
    (h : readMember draft key ts = .ok (next, rest)) : rest.length < ts.length := by
  unfold readMember at h
  split at h
  · split at h
    · split at h
      · next hskip =>
        simp only [Except.ok.injEq, Prod.mk.injEq] at h
        -- a key nobody knows: its value is skipped
        have := Json.length_le_of_skip hskip
        rw [← h.2, List.length_cons]
        omega
      · simp at h
    · simp at h
  · split at h
    · simp at h
    · split at h
      · split at h
        · next hread =>
          simp only [Except.ok.injEq, Prod.mk.injEq] at h
          have := Json.Reader.length_lt _ hread
          rw [← h.2, List.length_cons]
          omega
        · simp at h
      · simp at h

def Draft.finish (draft : Draft) : Except Fault Record :=
  if .name ∈ draft.found then .ok draft.record else .error (.mismatch "missing field `name`")

def readMembers (draft : Draft) (ts : List Token) : Reading Record :=
  match ts with
  | .string (some key) :: value =>
    match _h : readMember draft key value with
    | .error e => .error e
    | .ok (draft, .closeObject :: rest) => draft.finish.map (·, rest)
    | .ok (draft, .comma :: next) => readMembers draft next
    | .ok _ => .error .malformed
  | _ => .error .malformed
  termination_by ts.length
  decreasing_by
    have := length_lt_of_readMember _h
    simp only [List.length_cons] at *
    omega

theorem eq_of_finish {draft : Draft} {record : Record} {ts rest : List Token}
    (h : draft.finish.map (·, ts) = .ok (record, rest)) : rest = ts := by
  unfold Draft.finish at h
  split at h <;> simp_all [Except.map]

theorem length_lt_of_readMembers {draft : Draft} {record : Record} {ts rest : List Token}
    (h : readMembers draft ts = .ok (record, rest)) : rest.length < ts.length := by
  fun_induction readMembers draft ts with
  | case1 => simp at h
  | case2 draft key value next rest' hmember =>
    have := length_lt_of_readMember hmember
    rw [eq_of_finish h]
    simp only [List.length_cons] at *
    omega
  | case3 draft key value draft' next hmember ih =>
    have := length_lt_of_readMember hmember
    have := ih h
    simp only [List.length_cons] at *
    omega
  | case4 | case5 => simp at h

/-- The wording of a record's length when not even the name is there. -/
def tooShort : String := "invalid length 0, expected struct SubscriberRecord with 9 elements"

/-- The fields of an array from the given ones on, behind another element or the opening bracket. -/
def readFields (following : Except Fault Json.Following) (record : Record) : List Field → Reading Record
  | [] =>
    match following with
    | .ok (.done rest) => .ok (record, rest)
    | .ok (.element _) => .error .malformed
    | .error e => .error e
  | field :: fields =>
    match following with
    | .error e => .error e
    | .ok (.done rest) => if field = .name then .error (.mismatch tooShort) else .ok (record, rest)
    | .ok (.element ts) =>
      match (field.reader record).read ts with
      | .error e => .error e
      | .ok (record, rest) => readFields (Json.nextElement rest) record fields

theorem length_le_of_readFields {following : Except Fault Json.Following} {record found : Record}
    {fields : List Field} {rest : List Token} {n : Nat}
    (hfollowing : ∀ next, following = .ok next → next.tokens.length ≤ n)
    (h : readFields following record fields = .ok (found, rest)) : rest.length ≤ n := by
  fun_induction readFields following record fields with
  | case1 | case6 =>
    simp only [Except.ok.injEq, Prod.mk.injEq] at h
    exact h.2 ▸ hfollowing _ rfl
  | case2 | case3 | case4 | case5 | case7 => simp at h
  | case8 record field fields ts next behind hread ih =>
    refine ih (fun following hnext => ?_) h
    have := Json.Reader.length_lt _ hread
    have := Json.length_lt_of_nextElement hnext
    have hts := hfollowing _ rfl
    simp only [Json.Following.tokens] at hts
    omega

def read (ts : List Token) : Reading Record :=
  match ts with
  | .openObject :: .closeObject :: rest => Draft.blank.finish.map (·, rest)
  | .openObject :: rest => readMembers .blank rest
  | .openArray :: rest =>
    readFields (.ok (Json.firstElement rest)) Draft.blank.record (Field.all.map (·.2))
  | ts => .error (Json.unexpected "struct SubscriberRecord" ts)

def reader : Json.Reader Record where
  read := read
  length_lt h := by
    unfold read at h
    split at h
    · rw [eq_of_finish h]
      simp only [List.length_cons]
      omega
    · have := length_lt_of_readMembers h
      rw [List.length_cons]
      omega
    · next ts =>
      have hfirst := Json.length_firstElement_le ts
      have := length_le_of_readFields (n := ts.length) (by rintro next ⟨⟩; exact hfirst) h
      rw [List.length_cons]
      omega
    · simp at h

def listOfJson (source : String) : Except ConfigError (List Record) :=
  (Json.ofText (Json.array reader) source).mapError .parse

/-- The records in the content of a file, which has to be UTF-8. -/
def listOfFile (content : Bytes) : Except ConfigError (List Record) :=
  match Text.ofUtf8? content with
  | some source => listOfJson source
  | none => .error (.io { kind := .invalidData })

end EventBus.Record
