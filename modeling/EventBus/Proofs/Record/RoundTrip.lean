import EventBus.Bus.Build
import EventBus.Proofs.Endpoint.NormalForm
import EventBus.Proofs.Json.Values
import EventBus.Record.Json

/-!
# Records that were written

The text of a list of records reads as the same list.

* `Field.tokens?`, `Field.copy`: what is written of one field, and what reading it puts into a draft. Fields that are
  absent are not written.
* `readMembers_written`: the induction along the members of an object. What is read is copied field by field.
* `copyAll_present`: the fields that are written make up the record; the others are as they were in the blank one.
* `listOfJson_listToJson`: the list, in its own text or in any text with the same tokens.
-/

namespace EventBus.Record

open Json

/-! ## Fields -/

namespace Field

/-- What is written of a field, if anything is. -/
def tokens? (record : Record) : Field → Option (List Token)
  | name => some [textToken record.name]
  | args => some [textToken record.args]
  | scheduling => some [textToken record.scheduling.label]
  | site => some [textToken record.site.label]
  | perm => record.perm.map fun letters => [textToken letters]
  | inbounds => some (arrayTokens (record.inbounds.map fun entry => [textToken entry]))
  | outbounds => some (arrayTokens (record.outbounds.map fun entry => [textToken entry]))
  | endpoint => record.endpoint.map fun endpoint => [textToken endpoint.text]
  | activated => record.activated.map fun on => [.bool on]

/-- The other record with this field of the record. -/
def copy (record : Record) (field : Field) (other : Record) : Record :=
  match field with
  | name => { other with name := record.name }
  | args => { other with args := record.args }
  | scheduling => { other with scheduling := record.scheduling }
  | site => { other with site := record.site }
  | perm => { other with perm := record.perm }
  | inbounds => { other with inbounds := record.inbounds }
  | outbounds => { other with outbounds := record.outbounds }
  | endpoint => { other with endpoint := record.endpoint }
  | activated => { other with activated := record.activated }

theorem lookup_all : ∀ entry ∈ all, all.lookup entry.1 = some entry.2 := by
  decide

theorem nodup_all : (all.map (·.2)).Nodup := by
  decide

end Field

variable {record : Record}

/-- The text of an endpoint is read as that endpoint. -/
theorem reads_endpoint {endpoint : Endpoint} (h : endpoint.Denotable) :
    endpointReader.Reads [textToken endpoint.text] endpoint := by
  intro rest
  have hreader : endpointReader.read = readEndpoint := rfl
  rw [hreader, readEndpoint, reads_text endpoint.text rest]
  dsimp only
  rw [Endpoint.parse_text h]

theorem reads_entries (entries : List String) :
    (array text).Reads (arrayTokens (entries.map fun entry => [textToken entry])) entries :=
  reads_array fun entry _ => ⟨reads_text entry, by simp [textToken]⟩

/-- A field that was written is read as it was. -/
theorem Field.reads_tokens {field : Field} {ts : List Token} (hts : field.tokens? record = some ts)
    (hendpoint : ∀ endpoint ∈ record.endpoint, endpoint.Denotable) (draft : Record) :
    (field.reader draft).Reads ts (field.copy record draft) := by
  cases field with
  | name =>
    cases hts
    exact reads_map (fun v => { draft with name := v }) (reads_text record.name)
  | args =>
    cases hts
    exact reads_map (fun v => { draft with args := v }) (reads_text record.args)
  | scheduling =>
    cases hts
    have hlookup : Scheduling.variants.lookup record.scheduling.label = some record.scheduling := by
      cases record.scheduling <;> rfl
    exact reads_map (fun v => { draft with scheduling := v }) (reads_variant hlookup)
  | site =>
    cases hts
    have hlookup : Site.variants.lookup record.site.label = some record.site := by
      cases record.site <;> rfl
    exact reads_map (fun v => { draft with site := v }) (reads_variant hlookup)
  -- the fields from here on may be absent, and are written only where they are there
  | perm =>
    obtain ⟨letters, hperm, rfl⟩ := Option.map_eq_some_iff.mp hts
    have hread : (optional text).Reads [textToken letters] (some letters) :=
      reads_optional (reads_text letters) (by simp [textToken])
    rw [reader, copy, hperm]
    exact reads_map (fun v => { draft with perm := v }) hread
  | inbounds =>
    cases hts
    exact reads_map (fun v => { draft with inbounds := v }) (reads_entries record.inbounds)
  | outbounds =>
    cases hts
    exact reads_map (fun v => { draft with outbounds := v }) (reads_entries record.outbounds)
  | endpoint =>
    obtain ⟨endpoint, hsome, rfl⟩ := Option.map_eq_some_iff.mp hts
    have hread : (optional endpointReader).Reads [textToken endpoint.text] (some endpoint) :=
      reads_optional (reads_endpoint (hendpoint endpoint hsome)) (by simp [textToken])
    rw [reader, copy, hsome]
    exact (reads_map (fun v => { draft with endpoint := v }) hread :)
  | activated =>
    obtain ⟨on, hsome, rfl⟩ := Option.map_eq_some_iff.mp hts
    have hread : (optional bool).Reads [.bool on] (some on) := reads_optional (reads_bool on) (by simp)
    rw [reader, copy, hsome]
    exact reads_map (fun v => { draft with activated := v }) hread

/-- Nothing that is written of a field is a number. -/
theorem Field.delimited_tokens {field : Field} {ts : List Token} (hts : field.tokens? record = some ts) :
    ∀ t ∈ ts, t.Delimited := by
  have htext (s : String) : ∀ t ∈ [textToken s], t.Delimited := List.forall_mem_singleton.mpr trivial
  have hentries (entries : List String) :
      ∀ t ∈ arrayTokens (entries.map fun entry => [textToken entry]), t.Delimited :=
    delimited_arrayTokens (List.forall_mem_map.mpr fun entry _ => htext entry)
  -- four sorts of values: a text, a list of texts, a text that may be absent, a truth value
  cases field with
  | name | args | scheduling | site =>
    cases hts
    exact htext _
  | inbounds | outbounds =>
    cases hts
    exact hentries _
  | perm | endpoint =>
    obtain ⟨_, -, rfl⟩ := Option.map_eq_some_iff.mp hts
    exact htext _
  | activated =>
    obtain ⟨_, -, rfl⟩ := Option.map_eq_some_iff.mp hts
    exact List.forall_mem_singleton.mpr trivial

/-! ## Members -/

/-- The fields that are written, with their keys. -/
def present (record : Record) : List (String × Field) :=
  Field.all.filter fun entry => (entry.2.tokens? record).isSome

/-- The member of a field that is written. -/
def member (record : Record) (entry : String × Field) : String × List Token :=
  (entry.1, (entry.2.tokens? record).getD [])

/-- The members of an object are the fields that are present. -/
theorem members_eq (record : Record) : record.members = record.present.map record.member := by
  obtain ⟨_, _, _, _, perm, _, _, endpoint, activated⟩ := record
  cases perm <;> cases endpoint <;> cases activated <;> rfl

/-- A draft after a field was read. -/
def Draft.take (record : Record) (draft : Draft) (entry : String × Field) : Draft :=
  ⟨entry.2 :: draft.found, entry.2.copy record draft.record⟩

/-- A member that was written puts the value of its field into the draft. -/
theorem readMember_written {entry : String × Field} {draft : Draft} {ts : List Token} (hentry : entry ∈ Field.all)
    (hnew : entry.2 ∉ draft.found) (hts : entry.2.tokens? record = some ts)
    (hendpoint : ∀ endpoint ∈ record.endpoint, endpoint.Denotable) (rest : List Token) :
    readMember draft entry.1.toList (.colon :: (ts ++ rest)) = .ok (draft.take record entry, rest) := by
  unfold readMember
  rw [String.ofList_toList, Field.lookup_all entry hentry]
  dsimp only
  rw [if_neg hnew, Field.reads_tokens hts hendpoint draft.record rest]
  rfl

/-- The last member is followed by the end of the object. -/
theorem readMembers_last {draft next : Draft} {key : List Char} {value rest : List Token}
    (h : readMember draft key value = .ok (next, .closeObject :: rest)) :
    readMembers draft (.string (some key) :: value) = next.finish.map (·, rest) := by
  rw [readMembers]
  split <;> simp_all

theorem readMembers_next {draft next : Draft} {key : List Char} {value rest : List Token}
    (h : readMember draft key value = .ok (next, .comma :: rest)) :
    readMembers draft (.string (some key) :: value) = readMembers next rest := by
  rw [readMembers]
  split <;> simp_all

/-- The tokens of a member. -/
def memberTokens (record : Record) (entry : String × Field) : List Token :=
  .string (some entry.1.toList) :: .colon :: (record.member entry).2

/-- The members of an object are read one after the other, each into the draft of those in front of it. -/
theorem readMembers_written {entry : String × Field} {entries : List (String × Field)} {draft : Draft}
    (hentries : ∀ e ∈ entry :: entries, e ∈ record.present) (hnodup : ((entry :: entries).map (·.2)).Nodup)
    (hnew : ∀ e ∈ entry :: entries, e.2 ∉ draft.found)
    (hendpoint : ∀ endpoint ∈ record.endpoint, endpoint.Denotable) (rest : List Token) :
    readMembers draft
        ((((entry :: entries).map record.memberTokens).intersperse [.comma]).flatten ++ .closeObject :: rest)
      = ((entry :: entries).foldl (Draft.take record) draft).finish.map (·, rest) := by
  induction entries generalizing entry draft with
  | nil =>
    obtain ⟨hall, hsome⟩ := List.mem_filter.mp (hentries entry List.mem_cons_self)
    obtain ⟨ts, hts⟩ := Option.isSome_iff_exists.mp hsome
    have hmember := readMember_written hall (hnew entry List.mem_cons_self) hts hendpoint (.closeObject :: rest)
    have htokens : (([entry].map record.memberTokens).intersperse [.comma]).flatten ++ .closeObject :: rest
        = .string (some entry.1.toList) :: .colon :: (ts ++ .closeObject :: rest) := by
      simp [memberTokens, member, hts]
    rw [htokens, readMembers_last hmember]
    rfl
  | cons second entries ih =>
    obtain ⟨hfirst, hmore⟩ := List.forall_mem_cons.mp hentries
    obtain ⟨hall, hsome⟩ := List.mem_filter.mp hfirst
    obtain ⟨ts, hts⟩ := Option.isSome_iff_exists.mp hsome
    obtain ⟨hfresh, hnodup⟩ := List.nodup_cons.mp hnodup
    have hmember := readMember_written hall (hnew entry List.mem_cons_self) hts hendpoint
      (.comma :: ((((second :: entries).map record.memberTokens).intersperse [.comma]).flatten ++ .closeObject :: rest))
    have htokens : (((entry :: second :: entries).map record.memberTokens).intersperse [.comma]).flatten
          ++ .closeObject :: rest
        = .string (some entry.1.toList) :: .colon :: (ts ++ .comma
          :: ((((second :: entries).map record.memberTokens).intersperse [.comma]).flatten
            ++ .closeObject :: rest)) := by
      simp [memberTokens, member, hts]
    -- fields are written once each, so the one just taken is none of those to come
    have hnext : ∀ e ∈ second :: entries, e.2 ∉ (draft.take record entry).found := by
      intro e he hfound
      rcases List.mem_cons.mp hfound with heq | hold
      · exact hfresh (List.mem_map.mpr ⟨e, he, heq⟩)
      · exact hnew e (List.mem_cons_of_mem _ he) hold
    rw [htokens, readMembers_next hmember, ih hmore hnodup hnext]
    rfl

/-! ## Records -/

/-- The name is always written. -/
theorem exists_present_eq_cons (record : Record) : ∃ entries, record.present = ("name", .name) :: entries :=
  ⟨_, rfl⟩

/-- What is written makes up the record. -/
theorem finish_present (record : Record) :
    (record.present.foldl (Draft.take record) Draft.blank).finish = .ok record := by
  obtain ⟨_, _, _, _, perm, _, _, endpoint, activated⟩ := record
  cases perm <;> cases endpoint <;> cases activated <;> rfl

/-- The tokens of a record are those of its members, between braces. -/
theorem toTokens_eq (record : Record) :
    record.toTokens = .openObject :: ((record.present.map record.memberTokens).intersperse [.comma]).flatten
      ++ [.closeObject] := by
  rw [toTokens, objectTokens, members_eq, List.map_map]
  rfl

/-- The tokens of a record are read as that record, whatever stands behind them. -/
theorem reads_toTokens (hendpoint : ∀ endpoint ∈ record.endpoint, endpoint.Denotable) :
    reader.Reads record.toTokens record := by
  intro rest
  obtain ⟨entries, hentries⟩ := record.exists_present_eq_cons
  have hpresent : ∀ e ∈ ("name", Field.name) :: entries, e ∈ record.present := fun e he => hentries ▸ he
  -- the keys that are written differ, so that no field is found twice
  have hnodup : ((("name", Field.name) :: entries).map (·.2)).Nodup :=
    hentries ▸ Field.nodup_all.sublist (List.filter_sublist.map _)
  have hnew : ∀ e ∈ ("name", Field.name) :: entries, e.2 ∉ Draft.blank.found := fun _ _ => List.not_mem_nil
  have hmembers := readMembers_written hpresent hnodup hnew hendpoint rest
  rw [← hentries, finish_present] at hmembers
  calc read (record.toTokens ++ rest)
      = read (.openObject
          :: (((record.present.map record.memberTokens).intersperse [.comma]).flatten ++ .closeObject :: rest)) := by
        rw [toTokens_eq]
        simp
    _ = readMembers .blank
          (((record.present.map record.memberTokens).intersperse [.comma]).flatten ++ .closeObject :: rest) := by
        -- the object does not end at once: its first token is the key of the name
        rw [hentries]
        cases entries <;> rfl
    _ = .ok (record, rest) := hmembers

theorem delimited_toTokens (record : Record) : ∀ t ∈ record.toTokens, t.Delimited := by
  refine delimited_objectTokens (members_eq record ▸ List.forall_mem_map.mpr fun entry hentry => ?_)
  obtain ⟨ts, hts⟩ := Option.isSome_iff_exists.mp (List.mem_filter.mp hentry).2
  rw [member, hts]
  exact Field.delimited_tokens hts

/-! ## Lists of records -/

/-- **Round trip.** Records with any texts in them, and with endpoints that were read from texts if they have any, are
read from the text that is written of them, and from any other text that differs from it in white space between the
tokens. A bus that is built from them after that is the bus that would have been built from them before: with the same initial
activations, permissions and resolved inbounds and outbounds, or with the same failure. -/
theorem listOfJson_listToJson {records : List Record}
    (hendpoints : ∀ record ∈ records, ∀ endpoint ∈ record.endpoint, ∃ t, Endpoint.parse t = .ok endpoint) :
    listOfJson (listToJson records) = .ok records
      ∧ (∀ source : String, Spells (arrayTokens (records.map toTokens)) source.toList → listOfJson source = .ok records)
      ∧ ∀ {c : Catalog} {σ : Type} (plan : Plan c σ), plan.records = records →
        ((listOfJson (listToJson records)).bind fun reloaded => Plan.build { plan with records := reloaded })
          = plan.build := by
  have hreads : (array reader).Reads (arrayTokens (records.map toTokens)) records := by
    refine reads_array fun record hrecord => ⟨reads_toTokens fun endpoint hendpoint => ?_, nofun⟩
    obtain ⟨t, ht⟩ := hendpoints record hrecord endpoint hendpoint
    exact Endpoint.denotable_of_parse ht
  have hdelimited : ∀ t ∈ arrayTokens (records.map toTokens), t.Delimited :=
    delimited_arrayTokens (List.forall_mem_map.mpr fun record _ => delimited_toTokens record)
  -- any spelling of the tokens will do; the text that is written is one of them
  have hsource (source : String) (hspells : Spells (arrayTokens (records.map toTokens)) source.toList) :
      listOfJson source = .ok records := by
    rw [listOfJson, ofText_eq_ok hreads hdelimited hspells]
    rfl
  have htext : listOfJson (listToJson records) = .ok records := hsource _ (spells_render _)
  refine ⟨htext, hsource, fun plan hplan => ?_⟩
  rw [htext, ← hplan]
  rfl

/-- A record with all its fields, whose texts need escapes, and one with nothing but a blank name. -/
def mixed : List Record :=
  [{ name := "café \"x\"", args := "a\\b/\u0001\n😀", scheduling := .autonomous, site := .external,
      perm := some "rw", inbounds := ["EV_HOST_ADDED,r", ""], outbounds := ["NONE"],
      endpoint := some (.local "/run/\t\"bus\""), activated := some false },
    { name := " " }]

/-- The text of the records, and what it reads as. -/
theorem listOfJson_mixed :
    (∀ record ∈ mixed, ∀ endpoint ∈ record.endpoint, ∃ t, Endpoint.parse t = .ok endpoint)
      ∧ listOfJson (listToJson mixed) = .ok mixed := by
  have hendpoints : ∀ record ∈ mixed, ∀ endpoint ∈ record.endpoint, ∃ t, Endpoint.parse t = .ok endpoint := by
    rintro _ (_ | ⟨_, _ | ⟨_, ⟨⟩⟩⟩) endpoint hendpoint
    · exact ⟨" unix:///run/\t\"bus\" ", by rw [← Option.some.inj hendpoint]; decide +kernel⟩
    · cases hendpoint
  exact ⟨hendpoints, (listOfJson_listToJson hendpoints).1⟩

end EventBus.Record
