import EventBus.Access

/-!
# Who may raise what

An origin may raise a kind if it is the id of a record that lists the kind.

* `Record.IsListed`: an entry names the kind, and no terminator stands in front of it.
* `Record.MayRaise`, `Record.IsKnown`: the same for an origin and all records.
* `AccessControl.verify_eq_allowed_iff`, `AccessControl.verify_eq_unknownSubscriber_iff`: access control that is
  made of records decides just that.
-/

namespace EventBus

namespace Record

variable {c : Catalog}

/-! ## Outbound entries -/

/-- The name in an outbound entry. -/
def outboundName (raw : String) : String :=
  String.ofList (Text.trim raw.toList)

/-- An entry names a kind, and neither it nor an entry in front of it is the terminator. -/
def IsListed (c : Catalog) (entries : List String) (kind : c.Kind) : Prop :=
  ∃ front raw back, entries = front ++ raw :: back
    ∧ (∀ entry ∈ front ++ [raw], c.isTerminator (outboundName entry) = false)
    ∧ c.ofName? (outboundName raw) = some kind

theorem not_isListed_nil (kind : c.Kind) : ¬IsListed c [] kind := by
  rintro ⟨front, raw, back, hentries, -, -⟩
  cases front <;> cases hentries

/-- Nothing behind a terminator is listed. -/
theorem not_isListed_of_terminator {raw : String} (hends : c.isTerminator (outboundName raw) = true)
    (rest : List String) (kind : c.Kind) : ¬IsListed c (raw :: rest) kind := by
  rintro ⟨front, named, back, hentries, hfront, -⟩
  have hfirst : raw ∈ front ++ [named] := by
    cases front with
    | nil =>
      cases hentries
      exact List.mem_cons_self
    | cons first front =>
      cases hentries
      exact List.mem_cons_self
  rw [hfront raw hfirst] at hends
  cases hends

/-- A kind is listed by the first entry or behind it, unless that ends the list. -/
theorem isListed_cons_iff {raw : String} (hgoes : c.isTerminator (outboundName raw) = false)
    {rest : List String} {kind : c.Kind} :
    IsListed c (raw :: rest) kind ↔ c.ofName? (outboundName raw) = some kind ∨ IsListed c rest kind := by
  constructor
  · rintro ⟨front, named, back, hentries, hfront, hname⟩
    cases front with
    | nil =>
      cases hentries
      exact .inl hname
    | cons first front =>
      cases hentries
      exact .inr ⟨front, named, back, rfl, fun entry hentry => hfront entry (List.mem_cons_of_mem _ hentry), hname⟩
  · rintro (hname | ⟨front, named, back, rfl, hfront, hname⟩)
    · exact ⟨[], raw, rest, rfl, by simpa using hgoes, hname⟩
    · exact ⟨raw :: front, named, back, rfl, List.forall_mem_cons.mpr ⟨hgoes, hfront⟩, hname⟩

theorem ofName?_of_resolveOutbound {subscriber raw name : String} {kind : c.Kind}
    (h : resolveOutbound c subscriber raw name = .ok kind) : c.ofName? name = some kind := by
  rw [resolveOutbound] at h
  split at h
  · cases h
  · split at h
    · next hname =>
      cases h
      exact hname
    · cases h

/-- Resolving entries adds the kinds that they list. -/
theorem mem_resolveOutboundEntries_iff {subscriber : String} {entries : List String} {kinds allowed : List c.Kind}
    (h : resolveOutboundEntries c subscriber kinds entries = .ok allowed) (kind : c.Kind) :
    kind ∈ allowed ↔ kind ∈ kinds ∨ IsListed c entries kind := by
  -- along the entries, up to the one that ends the list
  induction entries generalizing kinds with
  | nil =>
    cases h
    simp only [not_isListed_nil, or_false]
  | cons raw rest ih =>
    rw [resolveOutboundEntries] at h
    split at h
    · next hends =>
      cases h
      simp only [not_isListed_of_terminator hends, or_false]
    · next hgoes =>
      split at h
      · next named hnamed =>
        have hname : c.ofName? (outboundName raw) = some named := ofName?_of_resolveOutbound hnamed
        have hadded : kind ∈ (if named ∈ kinds then kinds else kinds ++ [named]) ↔ kind ∈ kinds ∨ named = kind := by
          split
          · next hmem => exact ⟨.inl, fun hor => hor.elim id fun hsame => hsame ▸ hmem⟩
          · rw [List.mem_append, List.mem_singleton, eq_comm]
        rw [ih h, hadded, isListed_cons_iff (eq_false_of_ne_true hgoes), hname, Option.some.injEq, or_assoc]
      · cases h

/-! ## Origins -/

/-- A record lists a kind among its outbounds. -/
def Lists (c : Catalog) (record : Record) (kind : c.Kind) : Prop :=
  IsListed c record.outbounds kind

/-- The kinds that a record may raise are those that it lists. -/
theorem mem_resolveOutbounds_iff {record : Record} {allowed : List c.Kind}
    (h : record.resolveOutbounds c = .ok allowed) (kind : c.Kind) : kind ∈ allowed ↔ record.Lists c kind := by
  rw [mem_resolveOutboundEntries_iff h]
  simp only [List.not_mem_nil, false_or, Lists]

/-- An origin is the id of a record. -/
def IsKnown (records : List Record) (origin : SubscriberId) : Prop :=
  ∃ record ∈ records, .ofName record.name = origin

/-- An origin is the id of a record that lists a kind. -/
def MayRaise (c : Catalog) (records : List Record) (origin : SubscriberId) (kind : c.Kind) : Prop :=
  ∃ record ∈ records, .ofName record.name = origin ∧ record.Lists c kind

end Record

namespace AccessControl

variable {c : Catalog} {σ : Type} {records : List Record} {acl : AccessControl c}

/-- A record gets an entry if its outbounds resolve and no record in front of it has its id. -/
theorem extend_cons_eq_ok {record : Record} {rest : List Record} {entries all : List (SubscriberId × AccessEntry c)}
    (h : extend entries (record :: rest) = .ok all) :
    ∃ allowed, record.resolveOutbounds c = .ok allowed ∧ entries.lookup (.ofName record.name) = none
      ∧ extend (entries ++ [(.ofName record.name, ⟨record.name, allowed⟩)]) rest = .ok all := by
  rw [extend] at h
  cases hallowed : record.resolveOutbounds c with
  | error e =>
    rw [hallowed] at h
    cases h
  | ok allowed =>
    rw [hallowed] at h
    change (if (entries.lookup (.ofName record.name)).isSome then _ else _) = _ at h
    split at h
    · cases h
    · next hfresh =>
      refine ⟨allowed, rfl, ?_, h⟩
      simpa only [Bool.not_eq_true, Option.isSome_eq_false_iff, Option.isNone_iff_eq_none] using hfresh

/-- One more entry is found only by its own id. -/
theorem lookup_concat {entries : List (SubscriberId × AccessEntry c)} {id key : SubscriberId}
    {entry found : AccessEntry c} (h : (entries ++ [(key, entry)]).lookup id = some found) :
    entries.lookup id = some found ∨ key = id := by
  rw [List.lookup_append] at h
  cases hold : entries.lookup id with
  | some old =>
    rw [hold] at h
    exact .inl h
  | none =>
    rw [hold, Option.none_or, List.lookup_cons] at h
    split at h
    · next hsame => exact .inr (beq_iff_eq.mp hsame).symm
    · cases h

/-- Entries that are there stay, each record gets the entry of its outbounds, and no id another one. -/
theorem lookup_of_extend {entries all : List (SubscriberId × AccessEntry c)}
    (h : extend entries records = .ok all) :
    (∀ id entry, entries.lookup id = some entry → all.lookup id = some entry)
      ∧ (∀ record ∈ records, ∃ allowed, record.resolveOutbounds c = .ok allowed
        ∧ all.lookup (.ofName record.name) = some ⟨record.name, allowed⟩)
      ∧ ∀ id entry, all.lookup id = some entry → entries.lookup id = some entry ∨ Record.IsKnown records id := by
  induction records generalizing entries with
  | nil =>
    cases h
    exact ⟨fun _ _ hentry => hentry, fun _ hmem => absurd hmem List.not_mem_nil, fun _ _ => .inl⟩
  | cons record rest ih =>
    -- the induction is on the records that are left, with the entries so far as a parameter
    obtain ⟨allowed, hallowed, hfresh, hextended⟩ := extend_cons_eq_ok h
    obtain ⟨hkept, hrest, hknown⟩ := ih hextended
    refine ⟨fun id entry hentry => hkept id entry ?_, ?_, fun id entry hentry => ?_⟩
    · rw [List.lookup_append, hentry]
      rfl
    · rw [List.forall_mem_cons]
      refine ⟨⟨allowed, hallowed, hkept _ _ ?_⟩, hrest⟩
      rw [List.lookup_append, hfresh]
      simp
    · rcases hknown id entry hentry with hbefore | ⟨other, hmem, hid⟩
      · exact (lookup_concat hbefore).imp_right fun hid => ⟨record, List.mem_cons_self, hid⟩
      · exact .inr ⟨other, List.mem_cons_of_mem _ hmem, hid⟩

/-- Access control of records has one entry for each id of a record. -/
theorem entry?_of_ofRecords (h : ofRecords c records = .ok acl) :
    (∀ record ∈ records, ∃ allowed, record.resolveOutbounds c = .ok allowed
      ∧ acl.entry? (.ofName record.name) = some ⟨record.name, allowed⟩)
      ∧ ∀ id entry, acl.entry? id = some entry → Record.IsKnown records id := by
  rw [ofRecords] at h
  cases hextend : extend [] records with
  | error e =>
    rw [hextend] at h
    cases h
  | ok all =>
    rw [hextend] at h
    cases h
    obtain ⟨-, hrecords, hknown⟩ := lookup_of_extend hextend
    exact ⟨hrecords, fun id entry hentry => (hknown id entry hentry).resolve_left (by nofun)⟩

/-- An origin is unknown exactly if it is the id of no record. -/
theorem verify_eq_unknownSubscriber_iff (h : ofRecords c records = .ok acl) {id : SubscriberId} {kind : c.Kind} :
    acl.verify id kind = .unknownSubscriber ↔ ¬Record.IsKnown records id := by
  obtain ⟨hrecords, hknown⟩ := entry?_of_ofRecords h
  rw [verify]
  cases hentry : acl.entry? id with
  | none =>
    refine iff_of_true rfl ?_
    rintro ⟨record, hmem, rfl⟩
    obtain ⟨allowed, -, hsome⟩ := hrecords record hmem
    cases hentry.symm.trans hsome
  | some entry =>
    refine iff_of_false ?_ (not_not_intro (hknown id entry hentry))
    show (if kind ∈ entry.allowed then Verdict.allowed else .unauthorized) ≠ _
    split <;> nofun

/-- A raise is allowed exactly if a record with the id of the origin lists the kind. -/
theorem verify_eq_allowed_iff (h : ofRecords c records = .ok acl) {id : SubscriberId} {kind : c.Kind} :
    acl.verify id kind = .allowed ↔ Record.MayRaise c records id kind := by
  obtain ⟨hrecords, hknown⟩ := entry?_of_ofRecords h
  -- all records with this id have the one entry that is there for it
  have hiff : ∀ record ∈ records, .ofName record.name = id → ∀ entry, acl.entry? id = some entry →
      (kind ∈ entry.allowed ↔ record.Lists c kind) := by
    rintro record hmem rfl entry hentry
    obtain ⟨allowed, hallowed, hsome⟩ := hrecords record hmem
    cases hentry.symm.trans hsome
    exact Record.mem_resolveOutbounds_iff hallowed kind
  rw [verify]
  cases hentry : acl.entry? id with
  | none =>
    refine iff_of_false (by nofun) ?_
    rintro ⟨record, hmem, rfl, -⟩
    obtain ⟨allowed, -, hsome⟩ := hrecords record hmem
    cases hentry.symm.trans hsome
  | some entry =>
    show (if kind ∈ entry.allowed then Verdict.allowed else .unauthorized) = _ ↔ _
    constructor
    · intro hallowed
      split at hallowed
      · next hkind =>
        obtain ⟨record, hmem, hid⟩ := hknown id entry hentry
        exact ⟨record, hmem, hid, (hiff record hmem hid entry hentry).mp hkind⟩
      · cases hallowed
    · rintro ⟨record, hmem, hid, hlists⟩
      rw [if_pos ((hiff record hmem hid entry hentry).mpr hlists)]

/-- What a known origin may not raise is unauthorized. -/
theorem verify_eq_unauthorized (h : ofRecords c records = .ok acl) {id : SubscriberId} {kind : c.Kind}
    (hknown : Record.IsKnown records id) (hmay : ¬Record.MayRaise c records id kind) :
    acl.verify id kind = .unauthorized := by
  cases hverdict : acl.verify id kind with
  | allowed => exact absurd ((verify_eq_allowed_iff h).mp hverdict) hmay
  | unauthorized => rfl
  | unknownSubscriber => exact absurd hknown ((verify_eq_unknownSubscriber_iff h).mp hverdict)

/-- Nothing is noted exactly of what is allowed. -/
theorem refusal?_eq_none_iff {id : SubscriberId} {kind : c.Kind} :
    acl.refusal? id kind = none ↔ acl.verify id kind = .allowed := by
  rw [refusal?, verify]
  cases acl.entry? id with
  | none => exact iff_of_false (by nofun) (by nofun)
  | some entry =>
    by_cases hkind : kind ∈ entry.allowed
    · simp only [if_pos hkind]
    · simp only [if_neg hkind, reduceCtorEq]

/-- The guard lets an event pass that is allowed. -/
theorem handle_guard_of_allowed {event : Event c} (h : acl.verify event.origin event.kind = .allowed)
    (view : Option EventOut) : (acl.guard : Handler c σ).handle event view = .done .ok view := by
  rw [guard]
  dsimp only
  rw [refusal?_eq_none_iff.mpr h, h]
  rfl

/-- The guard notes an event that is not allowed, and answers it with the verdict. -/
theorem handle_guard_of_refused {event : Event c} (h : acl.verify event.origin event.kind ≠ .allowed) :
    ∃ record, ∀ view, (acl.guard : Handler c σ).handle event view
      = .note record (.done (acl.verify event.origin event.kind).status view) := by
  obtain ⟨record, hrecord⟩ := Option.ne_none_iff_exists'.mp (mt refusal?_eq_none_iff.mp h)
  refine ⟨record, fun view => ?_⟩
  rw [guard]
  dsimp only
  rw [hrecord]

theorem isOk_verdict_iff {verdict : Verdict} : verdict.status.isOk = true ↔ verdict = .allowed := by
  cases verdict <;> decide

end AccessControl

end EventBus
