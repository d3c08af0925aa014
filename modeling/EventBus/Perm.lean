import EventBus.Text.Blank

/-!
# Permissions

What a subscriber may do with one kind of event. READ receives it, WRITE also receives the shared
out-structure, EXECUTE lets a failure stop the chain of a gated kind.

Permissions are configured as letters in any order and case: `r`, `w`, `x`, and `e` for `x`.
-/

namespace EventBus

/-- The permissions that a subscriber holds for one kind of event. -/
structure Perm where
  read : Bool
  /-- Receives the shared out-structure too. -/
  write : Bool
  /-- A failure stops the chain of a gated kind. -/
  execute : Bool
  deriving DecidableEq, Repr

namespace Perm

def empty : Perm := ⟨false, false, false⟩

/-- READ alone, which is what an entry without letters asks for. -/
def readOnly : Perm := ⟨true, false, false⟩

instance : Inhabited Perm := ⟨readOnly⟩

/-- The permissions that at least one of the two holds. -/
def union (p q : Perm) : Perm :=
  ⟨p.read || q.read, p.write || q.write, p.execute || q.execute⟩

def isEmpty (p : Perm) : Bool :=
  !p.read && !p.write && !p.execute

/-- The three bits, READ highest. -/
def bits (p : Perm) : Nat :=
  (if p.read then 4 else 0) + (if p.write then 2 else 0) + (if p.execute then 1 else 0)

/-- The permissions of three bits, READ highest; higher bits are ignored. -/
def ofBits (n : Nat) : Perm :=
  ⟨n.testBit 2, n.testBit 1, n.testBit 0⟩

def ofLetter? (c : Char) : Option Perm :=
  match c.toLower with
  | 'r' => some ⟨true, false, false⟩
  | 'w' => some ⟨false, true, false⟩
  | 'x' | 'e' => some ⟨false, false, true⟩
  | _ => none

/-- The union of the permissions of all letters, without blanks at both ends; `none` if one of them
is no letter of a permission. -/
def parse? (letters : String) : Option Perm :=
  (Text.trim letters.toList).foldlM (fun held c => (ofLetter? c).map held.union) empty

/-- Parses letters that name at least one permission. -/
def parseHeld? (letters : String) : Option Perm :=
  (parse? letters).filter fun p => !p.isEmpty

/-- The three letters, with `-` for a permission that is not held. -/
def letters (p : Perm) : String :=
  String.ofList [if p.read then 'r' else '-', if p.write then 'w' else '-', if p.execute then 'x' else '-']

/-- Letters that name at least one permission hold something. -/
theorem isEmpty_of_parseHeld? {letters : String} {p : Perm} (h : parseHeld? letters = some p) :
    p.isEmpty = false := by
  have hheld := (Option.filter_eq_some_iff.mp h).2
  simpa using hheld

@[simp]
theorem isEmpty_union (p q : Perm) : (p.union q).isEmpty = (p.isEmpty && q.isEmpty) := by
  rcases p with ⟨_ | _, _ | _, _ | _⟩ <;> rcases q with ⟨_ | _, _ | _, _ | _⟩ <;> rfl

theorem ofBits_bits (p : Perm) : ofBits p.bits = p := by
  rcases p with ⟨_ | _, _ | _, _ | _⟩ <;> rfl

end Perm

end EventBus
