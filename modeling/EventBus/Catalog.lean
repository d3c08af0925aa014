import EventBus.Text.Cut

/-!
# Event catalogs

A `Catalog` is a fixed table of event kinds. Each row states the symbolic name of a kind, the group
it belongs to and whether it is gated; nothing is inferred from numeric ranges.

* **Codes.** A kind's code on the wire is its row number plus one; code zero means no kind.
* **Names.** Every name carries the catalog's prefix (`EV_`, `AV_`). A look-up takes a name with or
  without it, and strips it at most once.
* **Tags.** A group tag such as `ALL_UPSTREAM` stands for every kind of the groups it covers, in row
  order.

The laws that make names unambiguous are fields of the structure: names are pairwise different, no
bare name begins with the prefix again, and no bare name is a tag or the terminator `NONE`.
-/

namespace EventBus

/-- The stream a kind belongs to. -/
inductive Group where
  | fromDatapath
  | toDatapath
  | request
  | internal
  | log
  deriving DecidableEq, Repr

namespace Group

def label : Group → String
  | fromDatapath => "upstream"
  | toDatapath => "downstream"
  | request => "request"
  | internal => "internal"
  | log => "log"

/-- The tags and the groups that each of them covers. -/
def tags : List (String × List Group) :=
  [("ALL_UPSTREAM", [fromDatapath]), ("ALL_DOWNSTREAM", [toDatapath]), ("WRITE_INTSTREAM", [request]),
    ("ALL_INTSTREAM", [internal])]

/-- The groups that a tag covers; `none` for a text that is no tag. -/
def ofTag? (tag : String) : Option (List Group) :=
  tags.lookup tag

end Group

/-- Whether a failing subscriber can stop the chain of a kind. -/
inductive EventClass where
  /-- A request: a failure under EXECUTE stops the chain. -/
  | gated
  /-- A broadcast: the chain always runs to its end. -/
  | notify
  deriving DecidableEq, Repr

def EventClass.label : EventClass → String
  | gated => "gated"
  | notify => "notify"

/-- One row of a catalog. -/
structure CatalogRow where
  /-- The kind's name without the catalog's prefix. -/
  bareName : String
  group : Group
  eventClass : EventClass
  deriving Repr

def terminator : String := "NONE"

/-- A fixed table of event kinds. -/
structure Catalog where
  namePrefix : String
  label : String
  /-- The rows, in the order of their codes. -/
  rows : Array CatalogRow
  rows_lt : rows.size < UInt16.size := by decide
  names_nodup : (rows.toList.map (·.bareName)).Nodup := by decide
  names_bare : ∀ row ∈ rows.toList, Text.afterPrefix? namePrefix.toList row.bareName.toList = none := by
    decide
  names_ne_tag : ∀ row ∈ rows.toList, Group.ofTag? row.bareName = none := by decide
  names_ne_terminator : ∀ row ∈ rows.toList, row.bareName ≠ terminator := by decide

namespace Catalog

abbrev Kind (c : Catalog) := Fin c.rows.size

variable {c : Catalog}

instance (c : Catalog) : LawfulBEq c.Kind := inferInstance

def kinds (c : Catalog) : List c.Kind :=
  List.finRange c.rows.size

def row (kind : c.Kind) : CatalogRow :=
  c.rows[kind]

def name (kind : c.Kind) : String :=
  c.namePrefix ++ (row kind).bareName

def group (kind : c.Kind) : Group :=
  (row kind).group

def eventClass (kind : c.Kind) : EventClass :=
  (row kind).eventClass

/-- Whether a failure under EXECUTE stops the chain of a kind. -/
def isGated (kind : c.Kind) : Bool :=
  eventClass kind = .gated

/-- The code of a kind on the wire, counted from one. -/
def code (kind : c.Kind) : UInt16 :=
  UInt16.ofNat (kind.val + 1)

/-- The kind of a code; zero and codes past the last row have none. -/
def ofCode? (c : Catalog) (code : UInt16) : Option c.Kind :=
  if h : 0 < code.toNat ∧ code.toNat - 1 < c.rows.size then some ⟨code.toNat - 1, h.2⟩ else none

/-- A name without the catalog's prefix, which is taken off at most once. -/
def bare (c : Catalog) (name : String) : String :=
  String.ofList (Text.dropPrefix c.namePrefix.toList name.toList)

/-- The kind of a name, given with or without the prefix. -/
def ofName? (c : Catalog) (name : String) : Option c.Kind :=
  let bare := c.bare name
  c.kinds.find? fun kind => (row kind).bareName == bare

/-- The kinds that a group tag stands for, given with or without the prefix. -/
def ofTag? (c : Catalog) (tag : String) : Option (List c.Kind) :=
  (Group.ofTag? (c.bare tag)).map fun groups => c.kinds.filter fun kind => groups.contains (group kind)

/-- Whether a name ends a list, given with or without the prefix. -/
def isTerminator (c : Catalog) (name : String) : Bool :=
  c.bare name == terminator

end Catalog

end EventBus
