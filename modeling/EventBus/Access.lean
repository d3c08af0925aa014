import EventBus.Error.Dispatch
import EventBus.Handler
import EventBus.Record.Entries

/-!
# Outbound access control

`AccessControl` knows, for each configured subscriber, its name and the kinds it may raise. The
`guard` is the same knowledge as a handler: first in a chain and with EXECUTE, its refusal stops the
chain, and the bus needs no rule of its own for it.
-/

namespace EventBus

/-- The outcome of an outbound check. -/
inductive Verdict where
  | allowed
  /-- The caller is known but may not raise the kind. -/
  | unauthorized
  /-- The caller is no configured subscriber. -/
  | unknownSubscriber
  deriving DecidableEq, Repr

def Verdict.status : Verdict → Status
  | allowed => .ok
  | unauthorized => .unauthorized
  | unknownSubscriber => .unknownSubscriber

/-- What is known about one subscriber. -/
structure AccessEntry (c : Catalog) where
  name : String
  allowed : List c.Kind

/-- The outbound lists of all subscribers. -/
structure AccessControl (c : Catalog) where
  /-- The entries by id, in the order of the records. -/
  entries : List (SubscriberId × AccessEntry c)

namespace AccessControl

variable {c : Catalog} {σ : Type}

/-- Adds the entries of records to those that are there, one record after the other: outbound entries
have to resolve, and no id may come twice. -/
def extend (entries : List (SubscriberId × AccessEntry c)) :
    List Record → Except ConfigError (List (SubscriberId × AccessEntry c))
  | [] => .ok entries
  | record :: rest => do
    let allowed ← record.resolveOutbounds c
    let id := SubscriberId.ofName record.name
    if (entries.lookup id).isSome then .error (.duplicateSubscriber record.name)
    else extend (entries ++ [(id, ⟨record.name, allowed⟩)]) rest

def ofRecords (c : Catalog) (records : List Record) : Except ConfigError (AccessControl c) :=
  (extend [] records).map (⟨·⟩)

def entry? (acl : AccessControl c) (id : SubscriberId) : Option (AccessEntry c) :=
  acl.entries.lookup id

def nameOf? (acl : AccessControl c) (id : SubscriberId) : Option String :=
  (acl.entry? id).map (·.name)

def size (acl : AccessControl c) : Nat :=
  acl.entries.length

def verify (acl : AccessControl c) (id : SubscriberId) (kind : c.Kind) : Verdict :=
  match acl.entry? id with
  | none => .unknownSubscriber
  | some entry => if kind ∈ entry.allowed then .allowed else .unauthorized

def refusal? (acl : AccessControl c) (id : SubscriberId) (kind : c.Kind) : Option LogRecord :=
  let record (level : LogLevel) (error : DispatchError) (caller : String) : LogRecord :=
    { level
      message := error.message
      fields :=
        [("label", .text error.label), ("caller", .text caller), ("event", .text (Catalog.name kind))] }
  match acl.entry? id with
  | none => some (record .error (.unknownSubscriber id (Catalog.name kind)) id.text)
  | some entry =>
    if kind ∈ entry.allowed then none
    else some (record .warn (.unauthorized entry.name (Catalog.name kind)) entry.name)

/-- Refuses events whose origin may not raise them. -/
def guard (acl : AccessControl c) : Handler c σ where
  name := "access_guard"
  handle event view :=
    let answer : Program c σ := .done (acl.verify event.origin event.kind).status view
    match acl.refusal? event.origin event.kind with
    | some record => .note record answer
    | none => answer

end AccessControl

end EventBus
