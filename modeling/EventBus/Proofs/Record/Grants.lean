import EventBus.Record.Entries
import Mathlib.Data.List.Induction
import Mathlib.Data.List.Nodup

/-!
# Merging grants

What a list of grants comes to when they are added one after the other.

* `map_fst_addGrant`, `mem_addGrant`: one more grant leaves every kind where it is, or adds a kind at the end, and
  changes the permission of no other kind.
* `Merges`: each kind that is asked for is listed once, where it was first asked for, with the union of all permissions
  that were asked for it. `Merges.unique`: no other list is of this form.
* `merges_addAll`: grants that are added one after the other are merged, by induction from the back (`Merges.add`).
-/

namespace EventBus

/-! ## Unions of permissions -/

namespace Perm

/-- What is in a union is in one of its parts. -/
structure IsUnion (parts : Perm → Prop) (union : Perm) : Prop where
  read : union.read ↔ ∃ part, parts part ∧ part.read
  write : union.write ↔ ∃ part, parts part ∧ part.write
  execute : union.execute ↔ ∃ part, parts part ∧ part.execute

variable {parts others : Perm → Prop} {p q : Perm}

/-- A union is that of its parts, however these are described. -/
theorem IsUnion.congr (h : IsUnion parts p) (hsame : ∀ part, parts part ↔ others part) : IsUnion others p := by
  obtain rfl : parts = others := funext fun part => propext (hsame part)
  exact h

theorem isUnion_one (p : Perm) : IsUnion (· = p) p := by
  constructor
  all_goals simp only [exists_eq_left]

/-- A union with one more permission in it. -/
theorem IsUnion.add (h : IsUnion parts p) (q : Perm) : IsUnion (fun part => parts part ∨ part = q) (p.union q) := by
  constructor
  all_goals
    simp only [union, Bool.or_eq_true, h.read, h.write, h.execute, or_and_right, exists_or, exists_eq_left]

theorem IsUnion.unique (hp : IsUnion parts p) (hq : IsUnion parts q) : p = q := by
  obtain ⟨read, write, execute⟩ := p
  obtain ⟨read', write', execute'⟩ := q
  rw [mk.injEq]
  exact ⟨Bool.eq_iff_iff.mpr (hp.read.trans hq.read.symm), Bool.eq_iff_iff.mpr (hp.write.trans hq.write.symm),
    Bool.eq_iff_iff.mpr (hp.execute.trans hq.execute.symm)⟩

/-- A union of permissions that hold something holds something, if there is one of them. -/
theorem IsUnion.held (h : IsUnion parts p) (hpart : parts q) (hheld : q.isEmpty = false) : p.isEmpty = false := by
  have hread : q.read = true → p.read = true := fun hq => h.read.mpr ⟨q, hpart, hq⟩
  have hwrite : q.write = true → p.write = true := fun hq => h.write.mpr ⟨q, hpart, hq⟩
  have hexecute : q.execute = true → p.execute = true := fun hq => h.execute.mpr ⟨q, hpart, hq⟩
  simp only [isEmpty, Bool.and_eq_false_iff, Bool.not_eq_false'] at hheld ⊢
  exact hheld.imp (Or.imp hread hwrite) hexecute

end Perm

namespace Record

variable {c : Catalog}

/-! ## One more grant -/

/-- A grant for a kind that is there already changes no kind; for another one it adds the kind at the
end. -/
theorem map_fst_addGrant (kind : c.Kind) (perm : Perm) (grants : List (Grant c)) :
    (addGrant kind perm grants).map Prod.fst
      = if kind ∈ grants.map Prod.fst then grants.map Prod.fst else grants.map Prod.fst ++ [kind] := by
  induction grants with
  | nil => rfl
  | cons grant rest ih =>
    obtain ⟨held, heldPerm⟩ := grant
    rw [addGrant]
    by_cases hsame : held = kind
    · simp [hsame]
    · rw [if_neg hsame, List.map_cons, ih, List.map_cons]
      by_cases hmem : kind ∈ rest.map Prod.fst
      · rw [if_pos hmem, if_pos (List.mem_cons_of_mem _ hmem)]
      · rw [if_neg hmem, if_neg (by simpa [Ne.symm hsame] using hmem)]
        rfl

/-- A grant is one of another kind, or the new one, or the one that was there with what was added. -/
theorem mem_addGrant {kind : c.Kind} {perm : Perm} {grants : List (Grant c)} {grant : Grant c}
    (hnodup : (grants.map Prod.fst).Nodup) (h : grant ∈ addGrant kind perm grants) :
    grant ∈ grants ∧ grant.1 ≠ kind ∨ grant = (kind, perm) ∧ kind ∉ grants.map Prod.fst
      ∨ ∃ held, (kind, held) ∈ grants ∧ grant = (kind, held.union perm) := by
  induction grants with
  | nil => exact .inr (.inl ⟨List.mem_singleton.mp h, List.not_mem_nil⟩)
  | cons first rest ih =>
    obtain ⟨other, held⟩ := first
    rw [List.map_cons, List.nodup_cons] at hnodup
    rw [addGrant] at h
    by_cases hsame : other = kind
    · subst hsame
      rw [if_pos rfl, List.mem_cons] at h
      rcases h with rfl | hrest
      · exact .inr (.inr ⟨held, List.mem_cons_self, rfl⟩)
      · -- the kind comes up once only
        have hkind : grant.1 ∈ rest.map Prod.fst := List.mem_map_of_mem hrest
        exact .inl ⟨List.mem_cons_of_mem _ hrest, fun heq => hnodup.1 (heq ▸ hkind)⟩
    · rw [if_neg hsame, List.mem_cons] at h
      rcases h with rfl | hrest
      · exact .inl ⟨List.mem_cons_self, hsame⟩
      · rcases ih hnodup.2 hrest with ⟨hmem, hne⟩ | ⟨rfl, hnew⟩ | ⟨before, hmem, rfl⟩
        · exact .inl ⟨List.mem_cons_of_mem _ hmem, hne⟩
        · exact .inr (.inl ⟨rfl, by simpa [Ne.symm hsame] using hnew⟩)
        · exact .inr (.inr ⟨before, List.mem_cons_of_mem _ hmem, rfl⟩)

/-! ## All grants -/

/-- The kinds that are asked for, each once and where it was first asked for, with the union of what was asked for
it. -/
structure Merges (asked grants : List (Grant c)) : Prop where
  nodup : (grants.map Prod.fst).Nodup
  mem_iff : ∀ kind, kind ∈ grants.map Prod.fst ↔ kind ∈ asked.map Prod.fst
  ordered : (grants.map Prod.fst).Pairwise fun kind other =>
    (asked.map Prod.fst).idxOf kind < (asked.map Prod.fst).idxOf other
  union : ∀ grant ∈ grants, Perm.IsUnion (fun perm => (grant.1, perm) ∈ asked) grant.2

namespace Merges

variable {asked grants others : List (Grant c)}

theorem nil : Merges ([] : List (Grant c)) [] :=
  ⟨List.nodup_nil, fun _ => Iff.rfl, .nil, by nofun⟩

/-- A kind that was asked for stays where it was first asked for. -/
theorem idxOf_append (h : Merges asked grants) {kind : c.Kind} (hkind : kind ∈ grants.map Prod.fst)
    (more : List c.Kind) : (asked.map Prod.fst ++ more).idxOf kind = (asked.map Prod.fst).idxOf kind :=
  List.idxOf_append_of_mem ((h.mem_iff kind).mp hkind)

/-- One more grant is merged: its kind is new and comes last, or it is there and its permission is united. -/
theorem add (h : Merges asked grants) (kind : c.Kind) (perm : Perm) :
    Merges (asked ++ [(kind, perm)]) (addGrant kind perm grants) := by
  have hordered : (grants.map Prod.fst).Pairwise fun first second =>
      (asked.map Prod.fst ++ [kind]).idxOf first < (asked.map Prod.fst ++ [kind]).idxOf second :=
    h.ordered.imp_of_mem fun hfirst hsecond hlt => by
      rwa [h.idxOf_append hfirst, h.idxOf_append hsecond]
  refine ⟨?_, fun other => ?_, ?_, fun grant hgrant => ?_⟩
  · rw [map_fst_addGrant]
    split
    · exact h.nodup
    · next hnew => exact List.concat_eq_append ▸ h.nodup.concat hnew
  · rw [map_fst_addGrant, List.map_append, List.mem_append, ← h.mem_iff]
    split
    · next hold => exact ⟨.inl, fun hmem => hmem.elim id fun hlast => List.mem_singleton.mp hlast ▸ hold⟩
    · exact List.mem_append
  · rw [map_fst_addGrant, List.map_append]
    split
    · exact hordered
    · next hnew =>
      -- a kind that is new is asked for behind all others
      refine List.pairwise_append.mpr ⟨hordered, List.pairwise_singleton _ _, fun other hother last hlast => ?_⟩
      obtain rfl := List.mem_singleton.mp hlast
      have hbefore := List.idxOf_lt_length_iff.mpr ((h.mem_iff other).mp hother)
      have hbehind : (asked.map Prod.fst ++ [last]).idxOf last = (asked.map Prod.fst).length + [last].idxOf last :=
        List.idxOf_append_of_notMem (mt (h.mem_iff last).mpr hnew)
      rw [h.idxOf_append hother]
      exact Nat.lt_of_lt_of_le hbefore (hbehind ▸ Nat.le_add_right _ _)
  · rcases mem_addGrant h.nodup hgrant with ⟨hold, hne⟩ | ⟨rfl, hnew⟩ | ⟨held, hold, rfl⟩
    · refine (h.union grant hold).congr fun part => ?_
      simp [hne]
    · refine (Perm.isUnion_one perm).congr fun part => ?_
      have hnone : (kind, part) ∉ asked := fun hmem => hnew ((h.mem_iff kind).mpr (List.mem_map_of_mem hmem))
      simp [hnone]
    · refine ((h.union _ hold).add perm).congr fun part => ?_
      simp

/-- What grants are merged to is determined by them. -/
theorem unique (h : Merges asked grants) (h' : Merges asked others) : grants = others := by
  have hmem : ∀ {grants others : List (Grant c)}, Merges asked grants → Merges asked others →
      ∀ grant ∈ grants, grant ∈ others := by
    rintro grants others h h' ⟨kind, perm⟩ hgrant
    have hkind := (h'.mem_iff kind).mpr ((h.mem_iff kind).mp (List.mem_map_of_mem hgrant))
    obtain ⟨⟨same, perm'⟩, hother, hsame⟩ := List.mem_map.mp hkind
    obtain rfl : same = kind := hsame
    obtain rfl : perm = perm' := (h.union _ hgrant).unique (h'.union _ hother)
    exact hother
  have hperm : grants.Perm others :=
    (List.perm_ext_iff_of_nodup h.nodup.of_map h'.nodup.of_map).mpr fun grant => ⟨hmem h h' grant, hmem h' h grant⟩
  have hordered : ∀ {grants : List (Grant c)}, Merges asked grants → grants.Pairwise fun first second =>
      (asked.map Prod.fst).idxOf first.1 < (asked.map Prod.fst).idxOf second.1 :=
    fun h => by simpa only [List.pairwise_map] using h.ordered
  exact hperm.eq_of_pairwise (fun _ _ _ _ hlt hgt => absurd hlt (Nat.lt_asymm hgt)) (hordered h) (hordered h')

end Merges

/-- Grants added one after the other. -/
def addAll (grants asked : List (Grant c)) : List (Grant c) :=
  asked.foldl (fun grants ask => addGrant ask.1 ask.2 grants) grants

theorem addAll_append (grants front back : List (Grant c)) :
    addAll grants (front ++ back) = addAll (addAll grants front) back :=
  List.foldl_append

/-- Grants for several kinds with one permission are added one after the other. -/
theorem addGrants_eq (kinds : List c.Kind) (perm : Perm) (grants : List (Grant c)) :
    addGrants kinds perm grants = addAll grants (kinds.map (·, perm)) := by
  rw [addAll, List.foldl_map, addGrants]

/-- By induction from the back, as each grant is added to what those in front come to. -/
theorem merges_addAll (asked : List (Grant c)) : Merges asked (addAll [] asked) := by
  induction asked using List.reverseRecOn with
  | nil => exact .nil
  | append_singleton front last ih =>
    rw [addAll_append]
    exact ih.add last.1 last.2

end Record

end EventBus
