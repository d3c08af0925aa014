import EventBus.Bus.Dispatch
import EventBus.Catalog.Component
import EventBus.Proofs.Bus.Chain
import EventBus.Proofs.Bus.Walk
import EventBus.Trial.World

/-!
# What a plan is built to

The chains of a built bus and the handlers in them, said in terms of the records and the registrations that it
was built from.

* `latest?` is the latest registration under a name, for one kind or for all kinds. `handler?_of_load`: a
  loaded subscriber runs the latest one for the kind, else the latest one for all kinds.
* `serves_of_load`: what answers for a kind is a host elsewhere or a registration.
* `Compiled` collects chains, permissions and handlers of all slots. `build_compiles` proves it of every bus
  that is built.
-/

namespace EventBus.Subscriber

variable {c : Catalog} {σ : Type} {sub : Subscriber c σ} {kind : c.Kind} {perm : Perm}

/-! ## Permissions -/

/-- A subscriber that receives each kind once holds exactly what it was granted. -/
theorem perm_of_mem (hnodup : (sub.inbounds.map Prod.fst).Nodup) (h : (kind, perm) ∈ sub.inbounds) :
    sub.perm kind = perm := by
  obtain ⟨front, back, hgrants⟩ := List.append_of_mem h
  have hfirst : ∀ grant ∈ front, (kind != grant.1) = true := by
    intro grant hmem
    rw [hgrants, List.map_append, List.map_cons] at hnodup
    have hapart := (List.nodup_append.mp hnodup).2.2 grant.1 (List.mem_map_of_mem hmem) kind List.mem_cons_self
    exact bne_iff_ne.mpr (Ne.symm hapart)
  have hlookup : sub.inbounds.lookup kind = some perm := List.lookup_eq_some_iff.mpr ⟨front, back, hgrants, hfirst⟩
  rw [Subscriber.perm, hlookup, Option.getD_some]

end EventBus.Subscriber

namespace EventBus.Plan

variable {c : Catalog} {σ : Type} {plan : Plan c σ} {bus : Bus c σ} {record : Record} {sub : Subscriber c σ}

/-! ## Registrations -/

/-- The latest handler registered under a name: for a kind, or with `none` for all kinds. -/
def latest? (plan : Plan c σ) (name : String) (kind : Option c.Kind) : Option (Handler c σ) :=
  ((plan.registrations.filter fun r => r.subscriber = name ∧ r.kind = kind).getLast?).map (·.handler)

/-- The handler that a subscriber of a name runs for a kind: the latest one for the kind, else the latest one for
all kinds. -/
def registered? (plan : Plan c σ) (name : String) (kind : c.Kind) : Option (Handler c σ) :=
  plan.latest? name (some kind) <|> plan.latest? name none

/-- The handler for all kinds is the latest that was registered as such. -/
theorem fallback?_eq (plan : Plan c σ) (name : String) : plan.fallback? name = plan.latest? name none := by
  rw [fallback?, latest?, List.getLast?_filter]
  congr 2
  funext r
  cases r.kind with
  | none => simp [Bool.beq_eq_decide_eq]
  | some kind => simp

/-- The handler for one kind is the latest that was registered for it. -/
theorem lookup_handlersOf (plan : Plan c σ) (name : String) (kind : c.Kind) :
    (plan.handlersOf name).reverse.lookup kind = plan.latest? name (some kind) := by
  rw [handlersOf, latest?, List.getLast?_filter, ← List.filterMap_reverse]
  -- both look for the first registration from the end
  induction plan.registrations.reverse with
  | nil => rfl
  | cons r rest ih =>
    rw [List.filterMap_cons, List.find?_cons]
    -- a registration of another subscriber is skipped by both
    by_cases hname : r.subscriber = name
    · cases hkind : r.kind with
      | none => simpa [hname] using ih
      | some other =>
        by_cases hsame : other = kind
        · simp [hname, hsame]
        · have hne : (kind == other) = false := beq_false_of_ne (Ne.symm hsame)
          simpa [hname, hsame, List.lookup_cons, hne] using ih
    · simpa [hname] using ih

/-- There is a latest registration if there is one at all. -/
theorem latest?_isSome_iff {name : String} {kind : Option c.Kind} :
    (plan.latest? name kind).isSome ↔ ∃ r ∈ plan.registrations, r.subscriber = name ∧ r.kind = kind := by
  rw [latest?, List.getLast?_filter, Option.isSome_map, List.find?_isSome]
  simp only [List.mem_reverse, decide_eq_true_eq]

/-- A kind has a handler if one is registered for it or for all kinds. -/
theorem registered?_isSome_iff {name : String} {kind : c.Kind} :
    (plan.registered? name kind).isSome
      ↔ ∃ r ∈ plan.registrations, r.subscriber = name ∧ (r.kind = some kind ∨ r.kind = none) := by
  have hor : (plan.registered? name kind).isSome
      ↔ (plan.latest? name (some kind)).isSome ∨ (plan.latest? name none).isSome := by
    rw [registered?]
    cases plan.latest? name (some kind) <;> simp
  rw [hor, latest?_isSome_iff, latest?_isSome_iff]
  constructor
  · rintro (⟨r, hr, hname, hkind⟩ | ⟨r, hr, hname, hkind⟩)
    · exact ⟨r, hr, hname, .inl hkind⟩
    · exact ⟨r, hr, hname, .inr hkind⟩
  · rintro ⟨r, hr, hname, hkind | hkind⟩
    · exact .inl ⟨r, hr, hname, hkind⟩
    · exact .inr ⟨r, hr, hname, hkind⟩

/-! ## Loaded records -/

/-- A record says where its subscriber runs: here with the handlers of its name, or at its endpoint. -/
theorem target_of_load (h : plan.load record = .ok sub) :
    (record.site = .internal
        ∧ sub.target = .internal (plan.fallback? record.name) (plan.handlersOf record.name).reverse)
      ∨ record.site = .external
        ∧ ∃ endpoint, record.endpoint = some endpoint ∧ sub.target = .external (.ofConfig plan.config endpoint) := by
  -- the site alone decides which half can hold; the other branch of the target is an error
  have htarget := (load_eq_ok h).2.2.2.1
  rw [target] at htarget
  cases hsite : record.site with
  | internal =>
    rw [hsite] at htarget
    dsimp only at htarget
    split at htarget
    · cases htarget
    · exact .inl ⟨rfl, (Except.ok.inj htarget).symm⟩
  | external =>
    rw [hsite] at htarget
    dsimp only at htarget
    split at htarget
    · next endpoint hendpoint => exact .inr ⟨rfl, endpoint, hendpoint, (Except.ok.inj htarget).symm⟩
    · cases htarget

/-- An internal subscriber runs the handler that is registered. -/
theorem handler?_of_load (h : plan.load record = .ok sub) (hsite : record.site = .internal) (kind : c.Kind) :
    sub.handler? kind = plan.registered? record.name kind := by
  rcases target_of_load h with ⟨-, htarget⟩ | ⟨hexternal, -⟩
  · simp only [Subscriber.handler?, htarget, lookup_handlersOf, fallback?_eq, registered?]
  · rw [hsite] at hexternal
    cases hexternal

/-- What answers for a kind is the other end of the transport, or a registration. -/
theorem serves_of_load (h : plan.load record = .ok sub) (kind : c.Kind) :
    sub.serves kind ↔ record.site = .external
      ∨ ∃ r ∈ plan.registrations, r.subscriber = record.name ∧ (r.kind = some kind ∨ r.kind = none) := by
  rcases target_of_load h with ⟨hsite, htarget⟩ | ⟨hsite, endpoint, -, htarget⟩
  · have hserves : sub.serves kind = (sub.handler? kind).isSome := by rw [Subscriber.serves, htarget]
    rw [hserves, handler?_of_load h hsite, registered?_isSome_iff, hsite]
    simp
  · simp [Subscriber.serves, htarget, hsite]

/-- The subscriber at a slot is the record at this position, loaded. -/
theorem load_of_getElem? (hbuilt : plan.build = .ok bus) {slot : bus.Slot}
    (hrecord : plan.records[slot.val]? = some record) : plan.load record = .ok (bus.subscriber slot) := by
  obtain ⟨hslot, rfl⟩ := List.getElem?_eq_some_iff.mp hrecord
  exact (build_loads hbuilt).get hslot slot.isLt

/-- A built bus has as many subscribers as the plan has records. -/
theorem build_size (hbuilt : plan.build = .ok bus) : bus.subscribers.size = plan.records.length :=
  (build_loads hbuilt).length_eq.symm

/-- Every slot has a record. -/
theorem exists_record (hbuilt : plan.build = .ok bus) (slot : bus.Slot) :
    ∃ record, plan.records[slot.val]? = some record := by
  have hslot : slot.val < plan.records.length := build_size hbuilt ▸ slot.isLt
  exact ⟨plan.records[slot.val], List.getElem?_eq_getElem hslot⟩

/-- Every handler of a bus was registered. -/
theorem exists_registration (hbuilt : plan.build = .ok bus) {slot : bus.Slot} {kind : c.Kind} {handler : Handler c σ}
    (h : (bus.subscriber slot).handler? kind = some handler) : ∃ r ∈ plan.registrations, r.handler = handler := by
  -- a handler is the latest of its registrations, under the kind or under none
  have hmem : ∀ {name} {kind : Option c.Kind}, plan.latest? name kind = some handler →
      ∃ r ∈ plan.registrations, r.handler = handler := fun hlatest => by
    obtain ⟨r, hr, rfl⟩ := Option.map_eq_some_iff.mp hlatest
    exact ⟨r, (List.mem_filter.mp (List.mem_of_getLast? hr)).1, rfl⟩
  obtain ⟨record, hrecord⟩ := exists_record hbuilt slot
  have hload := load_of_getElem? hbuilt hrecord
  rcases target_of_load hload with ⟨hsite, -⟩ | ⟨-, endpoint, -, htarget⟩
  · rw [handler?_of_load hload hsite, registered?, Option.orElse_eq_some] at h
    rcases h with hkind | ⟨-, hall⟩
    · exact hmem hkind
    · exact hmem hall
  · rw [Subscriber.handler?, htarget] at h
    cases h

/-! ## Chains, permissions and handlers -/

/-- A record is in the chain of a kind: it receives the kind, and it is external or has a handler for it. -/
def Enlists (plan : Plan c σ) (record : Record) (kind : c.Kind) : Prop :=
  (∃ grants, record.resolveInbounds c = .ok grants ∧ kind ∈ grants.map Prod.fst)
    ∧ (record.site = .external
      ∨ ∃ r ∈ plan.registrations, r.subscriber = record.name ∧ (r.kind = some kind ∨ r.kind = none))

/-- A loaded subscriber listens to a kind exactly if its record enlists for it. -/
theorem listensTo_of_load (h : plan.load record = .ok sub) (kind : c.Kind) :
    sub.listensTo kind ↔ plan.Enlists record kind := by
  rw [Subscriber.listensTo, Bool.and_eq_true, decide_eq_true_eq, serves_of_load h, Enlists]
  have hinbounds := (load_eq_ok h).2.1
  constructor
  · rintro ⟨hmem, hanswers⟩
    exact ⟨⟨sub.inbounds, hinbounds, hmem⟩, hanswers⟩
  · rintro ⟨⟨grants, hgrants, hmem⟩, hanswers⟩
    cases hinbounds.symm.trans hgrants
    exact ⟨hmem, hanswers⟩

/-- What a bus has of the plan that it was built from. -/
structure Compiled (plan : Plan c σ) (bus : Bus c σ) : Prop where
  /-- Slots are the positions of the records. -/
  size : bus.subscribers.size = plan.records.length
  name : ∀ (slot : bus.Slot) record, plan.records[slot.val]? = some record → (bus.subscriber slot).name = record.name
  /-- A chain has its slots in the order of the records, each once. -/
  sorted : ∀ kind, (bus.chain kind).Pairwise (· < ·)
  /-- They are exactly those of the records that receive the kind and are external or have a handler for it. -/
  enlisted : ∀ kind (slot : bus.Slot),
    slot ∈ bus.chain kind ↔ ∃ record, plan.records[slot.val]? = some record ∧ plan.Enlists record kind
  /-- The permission of each is what its record resolves to, and not empty. -/
  held : ∀ kind, ∀ slot ∈ bus.chain kind, ∀ record, plan.records[slot.val]? = some record →
    ∃ grants, record.resolveInbounds c = .ok grants ∧ (kind, (bus.subscriber slot).perm kind) ∈ grants
      ∧ ((bus.subscriber slot).perm kind).isEmpty = false
  /-- An internal subscriber is run by calling the latest handler registered under its name for the kind, else
  the latest one for all kinds. -/
  runs : ∀ (slot : bus.Slot) record, plan.records[slot.val]? = some record → record.site = .internal →
    ∀ (env : Environment σ) (raise : Bus.Raise bus) event view,
      Bus.invoke env raise slot event view =
        match plan.latest? record.name (some event.kind) <|> plan.latest? record.name none with
        | some handler => Bus.callHandler raise record.name handler event view
        | none => pure ⟨none, view⟩

/-- **What a plan is built to.** Every bus that is built has its chains, permissions and handlers as `Compiled`
says. -/
theorem build_compiles (hbuilt : plan.build = .ok bus) : Compiled plan bus where
  size := build_size hbuilt
  name slot record hrecord := (load_eq_ok (load_of_getElem? hbuilt hrecord)).1
  sorted kind := Bus.chain_pairwise (build_inbounds_nodup hbuilt) kind
  enlisted kind slot := by
    rw [Bus.chain_eq_filter (build_inbounds_nodup hbuilt), List.mem_filter]
    constructor
    · rintro ⟨-, hlistens⟩
      obtain ⟨record, hrecord⟩ := exists_record hbuilt slot
      exact ⟨record, hrecord, (listensTo_of_load (load_of_getElem? hbuilt hrecord) kind).mp hlistens⟩
    · rintro ⟨record, hrecord, henlists⟩
      have hslot : slot ∈ bus.slots := List.mem_finRange slot
      exact ⟨hslot, (listensTo_of_load (load_of_getElem? hbuilt hrecord) kind).mpr henlists⟩
  held kind slot hslot record hrecord := by
    have hinbounds := (load_eq_ok (load_of_getElem? hbuilt hrecord)).2.1
    rw [Bus.chain_eq_filter (build_inbounds_nodup hbuilt), List.mem_filter, Subscriber.listensTo,
      Bool.and_eq_true, decide_eq_true_eq] at hslot
    -- the permissions are those of the one grant for the kind
    obtain ⟨⟨other, perm⟩, hmem, rfl⟩ := List.mem_map.mp hslot.2.1
    have hperm := Subscriber.perm_of_mem (build_inbounds_nodup hbuilt slot) hmem
    refine ⟨(bus.subscriber slot).inbounds, hinbounds, hperm ▸ hmem, ?_⟩
    rw [hperm]
    exact Record.resolveInbounds_held hinbounds _ hmem
  runs slot record hrecord hsite env raise event view := by
    have hload := load_of_getElem? hbuilt hrecord
    have hhandler := handler?_of_load hload hsite event.kind
    rcases target_of_load hload with ⟨-, htarget⟩ | ⟨hexternal, -⟩
    · rw [Bus.invoke_of_internal htarget, hhandler, (load_eq_ok hload).1]
      rfl
    · rw [hsite] at hexternal
      cases hexternal

/-! ## A plan with all kinds of records -/

/-- A group and a terminator, an external record with a repeated kind, a record without a handler, and one with
handlers of both sorts, some registered twice and in between those of others. -/
def switchPlan : Plan .component (Trial.World .component Unit) where
  config := {}
  records :=
    [{ name := "cac", inbounds := ["ALL_DOWNSTREAM,x", "NONE", "SW_GET_FD"] },
      { name := "l2", site := .external, endpoint := some (.local "l2"), perm := some "w",
        inbounds := ["DP_SEND_PACKET,r", "EV_ALL_DOWNSTREAM"] },
      { name := "idle", inbounds := ["DP_SEND_PACKET"] },
      { name := "log", inbounds := ["LOG_INFO", "DP_SEND_PACKET,rw"] }]
  registrations :=
    [⟨"log", some ⟨11, by decide⟩, "early", fun _ view => .done .failure view⟩,
      ⟨"cac", none, "cac", fun _ view => .done .ok view⟩,
      ⟨"log", some ⟨11, by decide⟩, "late", fun _ view => .done .ok view⟩,
      ⟨"log", none, "any", fun _ view => .done .failure view⟩]

/-- A plan of a switch: the chain of a kind in the order of the records, its permissions, and the later of
two handlers. -/
theorem switchPlan_compiles :
    ∃ bus, switchPlan.build = .ok bus ∧ Compiled switchPlan bus
      ∧ (bus.chain ⟨11, by decide⟩).map (fun slot => (bus.subscriber slot).name) = ["cac", "l2", "log"]
      ∧ (bus.chain ⟨11, by decide⟩).map (fun slot => ((bus.subscriber slot).perm ⟨11, by decide⟩).letters)
        = ["--x", "rw-", "rw-"]
      ∧ (switchPlan.latest? "log" (some ⟨11, by decide⟩)).map (·.name) = some "late" := by
  have hchain : switchPlan.build.toOption.any (fun bus =>
      (bus.chain ⟨11, by decide⟩).map (fun slot => (bus.subscriber slot).name) = ["cac", "l2", "log"]
        && (bus.chain ⟨11, by decide⟩).map (fun slot => ((bus.subscriber slot).perm ⟨11, by decide⟩).letters)
          = ["--x", "rw-", "rw-"]) = true := by
    decide +kernel
  cases hbuilt : switchPlan.build with
  | error e => simp [hbuilt, Except.toOption] at hchain
  | ok bus =>
    rw [hbuilt] at hchain
    obtain ⟨hnames, hperms⟩ := Bool.and_eq_true_iff.mp hchain
    exact ⟨bus, rfl, build_compiles hbuilt, of_decide_eq_true hnames, of_decide_eq_true hperms, by decide⟩

end EventBus.Plan
