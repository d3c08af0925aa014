import EventBus.Error.Config
import EventBus.Event
import EventBus.Perm
import EventBus.Record

/-!
# Resolving entries

What a record's entries stand for in a catalog.

* **Inbound entries** name a kind or a group tag, with letters behind the first comma or without.
  Each kind is listed once, where an entry first reaches it, with the union of the permissions of all
  entries that reach it. An entry without letters takes the record's, else READ.
* **Outbound entries** name kinds only; group tags are refused.
* The entry `NONE` ends a list, whatever follows it.

The first offending entry decides the error, and its letters are looked at before its name. Letters of
the record that are no permission come before all entries, even when no entry needs them.
-/

namespace EventBus.Record

variable {c : Catalog}

/-- An entry in its two parts: the name, and the letters behind the first comma. -/
structure Entry where
  /-- The name without white space around it. -/
  name : String
  /-- The letters, if a comma is there. -/
  letters : Option String
  deriving DecidableEq, Repr

def Entry.ofText (raw : String) : Entry :=
  match Text.splitOnce ',' raw.toList with
  | some (name, letters) => ⟨String.ofList (Text.trim name), some (String.ofList letters)⟩
  | none => ⟨String.ofList (Text.trim raw.toList), none⟩

/-- A kind with the permission that is held for it. -/
abbrev Grant (c : Catalog) := c.Kind × Perm

/-- Adds a permission for a kind: to the grant that is there, or as a new one at the end. -/
def addGrant (kind : c.Kind) (perm : Perm) : List (Grant c) → List (Grant c)
  | [] => [(kind, perm)]
  | (k, held) :: rest =>
    if k = kind then (k, held.union perm) :: rest else (k, held) :: addGrant kind perm rest

def addGrants (kinds : List c.Kind) (perm : Perm) (grants : List (Grant c)) : List (Grant c) :=
  kinds.foldl (fun grants kind => addGrant kind perm grants) grants

/-- The kinds that an inbound name stands for: those of a tag, or the one it names. -/
def kindsOf? (c : Catalog) (name : String) : Option (List c.Kind) :=
  c.ofTag? name <|> (c.ofName? name).map ([·])

def defaultPerm (record : Record) : Except ConfigError Perm :=
  match record.perm with
  | none => .ok .readOnly
  | some letters =>
    match Perm.parseHeld? letters with
    | some perm => .ok perm
    | none => .error (.invalidPermission record.name letters)

/-- What one inbound entry grants, given in its parts: the kinds and the permission. -/
def resolveEntry (c : Catalog) (subscriber raw : String) (fallback : Perm) (entry : Entry) :
    Except ConfigError (List c.Kind × Perm) := do
  let perm ←
    match entry.letters with
    | none => .ok fallback
    | some letters =>
      match Perm.parseHeld? letters with
      | some perm => .ok perm
      | none => .error (.invalidPermission subscriber raw)
  match kindsOf? c entry.name with
  | some kinds => .ok (kinds, perm)
  | none => .error (.unknownEvent subscriber raw)

/-- The grants of inbound entries on top of those already made. -/
def resolveEntries (c : Catalog) (subscriber : String) (fallback : Perm) (grants : List (Grant c)) :
    List String → Except ConfigError (List (Grant c))
  | [] => .ok grants
  | raw :: rest =>
    let entry := Entry.ofText raw
    -- letters behind a terminator are not even looked at
    if c.isTerminator entry.name then .ok grants
    else
      match resolveEntry c subscriber raw fallback entry with
      | .ok (kinds, perm) => resolveEntries c subscriber fallback (addGrants kinds perm grants) rest
      | .error e => .error e

/-- The kinds that a record receives and the permissions it holds for them. -/
def resolveInbounds (c : Catalog) (record : Record) : Except ConfigError (List (Grant c)) := do
  -- bad letters of the record count even when every entry has letters of its own
  let fallback ← record.defaultPerm
  resolveEntries c record.name fallback [] record.inbounds

/-- The kind that one outbound entry names, given without white space around it. -/
def resolveOutbound (c : Catalog) (subscriber raw name : String) : Except ConfigError c.Kind :=
  if (c.ofTag? name).isSome then .error (.groupNotAllowed subscriber raw)
  else
    match c.ofName? name with
    | some kind => .ok kind
    | none => .error (.unknownEvent subscriber raw)

/-- The kinds of outbound entries on top of those already listed. -/
def resolveOutboundEntries (c : Catalog) (subscriber : String) (kinds : List c.Kind) :
    List String → Except ConfigError (List c.Kind)
  | [] => .ok kinds
  | raw :: rest =>
    let name := String.ofList (Text.trim raw.toList)
    if c.isTerminator name then .ok kinds
    else
      match resolveOutbound c subscriber raw name with
      | .ok kind =>
        resolveOutboundEntries c subscriber (if kind ∈ kinds then kinds else kinds ++ [kind]) rest
      | .error e => .error e

/-- The kinds that a record may raise, each once, in the order of the entries. -/
def resolveOutbounds (c : Catalog) (record : Record) : Except ConfigError (List c.Kind) :=
  resolveOutboundEntries c record.name [] record.outbounds

end EventBus.Record
