/-!
# Entries by position

Something for each of a fixed number of positions: a counter for each kind, a chain for each kind, a cell for
each slot. A position is always valid, so reading and changing never fail.
-/

namespace EventBus

/-- Something for each of `n` positions. -/
abbrev Indexed (α : Type) (n : Nat) := Vector α n

namespace Indexed

variable {α : Type} {n : Nat}

def get (entries : Indexed α n) (i : Fin n) : α :=
  entries[i]

def modify (i : Fin n) (f : α → α) (entries : Indexed α n) : Indexed α n :=
  entries.set i (f entries[i])

@[simp]
theorem get_replicate (a : α) (i : Fin n) : get (Vector.replicate n a) i = a := by
  simp [get]

@[simp]
theorem get_modify_self (i : Fin n) (f : α → α) (entries : Indexed α n) :
    get (modify i f entries) i = f (get entries i) := by
  simp [modify, get]

theorem get_modify_of_ne {i j : Fin n} (h : j ≠ i) (f : α → α) (entries : Indexed α n) :
    get (modify i f entries) j = get entries j := by
  have hval : i.val ≠ j.val := fun e => h (Fin.ext e.symm)
  simp [modify, get, hval]

end Indexed

end EventBus
