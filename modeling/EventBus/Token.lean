/-!
# Tokens

A reactor knows its connections by tokens. Whatever is kept for each connection is a list of entries with a
token each, and the first entry of a token counts.
-/

namespace EventBus

/-- A number by which a reactor knows a connection; the first connection has number one. -/
abbrev Token := UInt64

/-- Something for each of some tokens, in the order in which it was entered. -/
abbrev ByToken (α : Type) := List (Token × α)

namespace ByToken

variable {α : Type}

def get? (token : Token) (entries : ByToken α) : Option α :=
  entries.lookup token

def erase (token : Token) (entries : ByToken α) : ByToken α :=
  entries.filter fun (t, _) => t != token

def modify (token : Token) (f : α → α) (entries : ByToken α) : ByToken α :=
  entries.map fun (t, a) => if t = token then (t, f a) else (t, a)

@[simp]
theorem get?_nil (token : Token) : get? token ([] : ByToken α) = none := rfl

theorem get?_cons (token t : Token) (a : α) (entries : ByToken α) :
    get? token ((t, a) :: entries) = if t = token then some a else get? token entries := by
  by_cases h : t = token
  · simp [get?, h]
  · have : (token == t) = false := by simpa using Ne.symm h
    simp [get?, List.lookup_cons, this, h]

theorem erase_cons (token t : Token) (a : α) (entries : ByToken α) :
    erase token ((t, a) :: entries) =
      if t = token then erase token entries else (t, a) :: erase token entries := by
  by_cases h : t = token <;> simp [erase, h]

theorem modify_cons (token t : Token) (f : α → α) (a : α) (entries : ByToken α) :
    modify token f ((t, a) :: entries) = (t, if t = token then f a else a) :: modify token f entries := by
  by_cases h : t = token <;> simp [modify, h]

@[simp]
theorem get?_erase_self (token : Token) (entries : ByToken α) : get? token (erase token entries) = none := by
  induction entries with
  | nil => rfl
  | cons entry entries ih =>
    obtain ⟨t, a⟩ := entry
    rw [erase_cons]
    split
    · exact ih
    · next h => rw [get?_cons, if_neg h, ih]

theorem get?_erase_of_ne {token other : Token} (h : other ≠ token) (entries : ByToken α) :
    get? other (erase token entries) = get? other entries := by
  induction entries with
  | nil => rfl
  | cons entry entries ih =>
    obtain ⟨t, a⟩ := entry
    rw [erase_cons, get?_cons]
    split
    · next ht => rw [ih, if_neg fun e => h (e.symm.trans ht)]
    · rw [get?_cons, ih]

@[simp]
theorem get?_modify_self (token : Token) (f : α → α) (entries : ByToken α) :
    get? token (modify token f entries) = (get? token entries).map f := by
  induction entries with
  | nil => rfl
  | cons entry entries ih =>
    obtain ⟨t, a⟩ := entry
    rw [modify_cons, get?_cons, get?_cons, ih]
    split <;> rfl

theorem get?_modify_of_ne {token other : Token} (h : other ≠ token) (f : α → α) (entries : ByToken α) :
    get? other (modify token f entries) = get? other entries := by
  induction entries with
  | nil => rfl
  | cons entry entries ih =>
    obtain ⟨t, a⟩ := entry
    rw [modify_cons, get?_cons, get?_cons, ih]
    split
    · next ht => rw [if_neg fun e => h (ht.symm.trans e)]
    · rfl

end ByToken

end EventBus
