import EventBus.Catalog.Application
import EventBus.Catalog.Component
import EventBus.Proofs.Record.Entries

/-!
# Names that entries use

A name in an entry ends the list, or stands for the kinds of a group tag, or for one kind. Three look-ups tell which, and
each takes the prefix of the catalog off by itself.

* `Catalog.Means`: what a name means to one of the look-ups.
* `Catalog.Unambiguous`: each look-up knows a word with the prefix or without it, and nothing else, and no two of them
  know the same name.
* `unambiguous_of_plain`: that needs no more than that the terminator and the tags do not begin with the prefix
  themselves; the names of kinds never do. `standard_unambiguous`: both catalogs are like that.
-/

namespace EventBus.Catalog

variable {c : Catalog} {name word : String}

/-! ## Words and their prefix -/

/-- A word that does not begin with the prefix of the catalog. -/
def Plain (c : Catalog) (word : String) : Prop :=
  ¬c.namePrefix.toList <+: word.toList

theorem not_plain_prefixed (c : Catalog) (name : String) : ¬c.Plain (c.namePrefix ++ name) := by
  rw [Plain, not_not, String.toList_append]
  exact List.prefix_append _ _

/-- Where the prefix does not come off, the name is plain. -/
theorem plain_of_afterPrefix? (h : Text.afterPrefix? c.namePrefix.toList word.toList = none) : c.Plain word := by
  rintro ⟨rest, hrest⟩
  rw [Text.afterPrefix?_eq_some_iff.mpr hrest.symm] at h
  cases h

theorem plain_bareName (kind : c.Kind) : c.Plain (row kind).bareName :=
  plain_of_afterPrefix? (c.names_bare _ (Array.getElem_mem_toList kind.isLt))

/-- The prefix is taken off a name that has it, whatever is left. -/
theorem bare_prefixed (c : Catalog) (name : String) : c.bare (c.namePrefix ++ name) = name :=
  isBare_iff.mp (.inl rfl)

/-- No prefix comes off a plain name. -/
theorem bare_of_plain (h : c.Plain name) : c.bare name = name :=
  isBare_iff.mp (.inr ⟨h, rfl⟩)

/-- A word that does not begin with the prefix has two spellings. -/
theorem bare_eq_iff_of_plain (h : c.Plain word) : c.bare name = word ↔ name = word ∨ name = c.namePrefix ++ word := by
  constructor
  · intro hbare
    obtain hprefixed | ⟨-, hsame⟩ := isBare_iff.mpr hbare
    · exact .inr hprefixed
    · exact .inl hsame
  · rintro (rfl | rfl)
    · exact bare_of_plain h
    · exact bare_prefixed c word

/-! ## Meanings -/

/-- What a name in an entry may mean. -/
inductive Meaning (c : Catalog) where
  | theEnd
  | tag (kinds : List c.Kind)
  | kind (kind : c.Kind)

/-- A look-up gives a name a meaning. -/
inductive Means (c : Catalog) (name : String) : Meaning c → Prop where
  | theEnd (h : c.isTerminator name = true) : Means c name .theEnd
  | tag {kinds : List c.Kind} (h : c.ofTag? name = some kinds) : Means c name (.tag kinds)
  | kind {kind : c.Kind} (h : c.ofName? name = some kind) : Means c name (.kind kind)

/-- The word without the prefix to which a look-up gives a meaning. -/
inductive Word (c : Catalog) : Meaning c → String → Prop where
  | theEnd : Word c .theEnd terminator
  | tag {tag : String} {groups : List Group} (htag : (tag, groups) ∈ Group.tags) :
    Word c (.tag (c.kinds.filter fun kind => group kind ∈ groups)) tag
  | kind (kind : c.Kind) : Word c (.kind kind) (row kind).bareName

variable {meaning meaning' : Meaning c}

/-- All look-ups depend on the name without its prefix only. -/
theorem means_iff : c.Means name meaning ↔ c.Word meaning (c.bare name) := by
  constructor
  · rintro (h | h | h)
    · rw [isBare_iff.mp (isTerminator_iff.mp h)]
      exact .theEnd
    · obtain ⟨tag, groups, hbare, htag, rfl⟩ := ofTag?_eq_some_iff.mp h
      rw [isBare_iff.mp hbare]
      exact .tag htag
    · rw [isBare_iff.mp (ofName?_eq_some_iff.mp h)]
      exact .kind _
  · intro h
    generalize hbare : c.bare name = word at h
    cases h with
    | theEnd => exact .theEnd (isTerminator_iff.mpr (isBare_iff.mpr hbare))
    | tag htag => exact .tag (ofTag?_eq_some_iff.mpr ⟨_, _, isBare_iff.mpr hbare, htag, rfl⟩)
    | kind kind => exact .kind (ofName?_eq_some_iff.mpr (isBare_iff.mpr hbare))

/-- A word has one meaning. -/
theorem Word.eq (h : c.Word meaning word) (h' : c.Word meaning' word) : meaning = meaning' := by
  -- the name of a kind is neither the terminator nor a tag, and the terminator is no tag
  have hkind : ∀ kind : c.Kind, row kind ∈ c.rows.toList := fun kind => Array.getElem_mem_toList kind.isLt
  have htagged : ∀ kind : c.Kind, ∀ groups, ((row kind).bareName, groups) ∉ Group.tags := by
    intro kind groups htag
    have hnone := c.names_ne_tag _ (hkind kind)
    rw [Group.ofTag?_eq_some_iff.mpr htag] at hnone
    cases hnone
  have hend : ∀ groups, (terminator, groups) ∉ Group.tags := by
    intro groups htag
    exact absurd (Group.ofTag?_eq_some_iff.mpr htag) (by rw [show Group.ofTag? terminator = none by decide]; nofun)
  cases h with
  | theEnd =>
    generalize hword : terminator = other at h'
    cases h' with
    | theEnd => rfl
    | tag htag => exact absurd (hword ▸ htag) (hend _)
    | kind kind => exact absurd hword.symm (c.names_ne_terminator _ (hkind kind))
  | @tag _ groups htag =>
    cases h' with
    | theEnd => exact absurd htag (hend _)
    | @tag _ groups' htag' =>
      have hgroups := (Group.ofTag?_eq_some_iff.mpr htag).symm.trans (Group.ofTag?_eq_some_iff.mpr htag')
      cases hgroups
      rfl
    | kind kind => exact absurd htag (htagged kind _)
  | kind kind =>
    generalize hword : (row kind).bareName = other at h'
    cases h' with
    | theEnd => exact absurd hword (c.names_ne_terminator _ (hkind kind))
    | tag htag => exact absurd (hword ▸ htag) (htagged kind _)
    | kind other => exact congrArg Meaning.kind (bareName_inj hword)

/-! ## Names without ambiguity -/

/-- The names that a catalog's entries may use are unambiguous. -/
structure Unambiguous (c : Catalog) : Prop where
  /-- A name ends the list, or is a tag, or is a kind, and of these only one. -/
  means_one : ∀ {name meaning meaning'}, c.Means name meaning → c.Means name meaning' → meaning = meaning'
  isTerminator_iff : ∀ name, c.isTerminator name = true ↔ name = "NONE" ∨ name = c.namePrefix ++ "NONE"
  isSome_ofTag?_iff : ∀ name, (c.ofTag? name).isSome ↔
    ∃ tag ∈ ["ALL_UPSTREAM", "ALL_DOWNSTREAM", "WRITE_INTSTREAM", "ALL_INTSTREAM"],
      name = tag ∨ name = c.namePrefix ++ tag
  ofName?_eq_some_iff : ∀ name kind, c.ofName? name = some kind ↔
    name = Catalog.name kind ∨ name = (row kind).bareName
  /-- To a name without the prefix the prefix may be added. -/
  prefixed : ∀ name, ¬c.namePrefix.toList <+: name.toList →
    c.isTerminator (c.namePrefix ++ name) = c.isTerminator name
      ∧ c.ofTag? (c.namePrefix ++ name) = c.ofTag? name ∧ c.ofName? (c.namePrefix ++ name) = c.ofName? name
  /-- It may not be added twice. -/
  doubled : ∀ name meaning, ¬c.Means (c.namePrefix ++ (c.namePrefix ++ name)) meaning

/-- If neither the terminator nor a tag begins with the prefix, all names are unambiguous. -/
theorem unambiguous_of_plain (hend : c.Plain terminator) (htags : ∀ row ∈ Group.tags, c.Plain row.1) :
    c.Unambiguous := by
  -- whatever a look-up knows is plain, so that it is known with the prefix or without it
  have hplain : ∀ {meaning word}, c.Word meaning word → c.Plain word := by
    rintro meaning word (_ | htag | kind)
    · exact hend
    · exact htags _ htag
    · exact plain_bareName kind
  constructor
  case means_one => exact fun h h' => (means_iff.mp h).eq (means_iff.mp h')
  case isTerminator_iff =>
    intro name
    rw [Catalog.isTerminator_iff, isBare_iff]
    exact bare_eq_iff_of_plain hend
  case isSome_ofTag?_iff =>
    intro name
    have hbare : (c.ofTag? name).isSome ↔ c.bare name ∈ Group.tags.map Prod.fst := by
      rw [Option.isSome_iff_exists, List.mem_map]
      constructor
      · rintro ⟨kinds, hkinds⟩
        obtain ⟨tag, groups, hbare, htag, -⟩ := ofTag?_eq_some_iff.mp hkinds
        exact ⟨_, htag, (isBare_iff.mp hbare).symm⟩
      · rintro ⟨⟨tag, groups⟩, htag, hbare⟩
        exact ⟨_, ofTag?_eq_some_iff.mpr ⟨tag, groups, isBare_iff.mpr hbare.symm, htag, rfl⟩⟩
    rw [hbare]
    constructor
    · intro hmem
      obtain ⟨row, htag, hrow⟩ := List.mem_map.mp hmem
      exact ⟨row.1, List.mem_map_of_mem htag, (bare_eq_iff_of_plain (htags row htag)).mp hrow.symm⟩
    · rintro ⟨tag, hmem, hspelled⟩
      obtain ⟨row, htag, rfl⟩ := List.mem_map.mp (show tag ∈ Group.tags.map Prod.fst from hmem)
      rwa [(bare_eq_iff_of_plain (htags row htag)).mpr hspelled]
  case ofName?_eq_some_iff =>
    intro name kind
    rw [Catalog.ofName?_eq_some_iff, isBare_iff, bare_eq_iff_of_plain (plain_bareName kind)]
    exact Or.comm
  case prefixed =>
    intro name hname
    have hsame : c.bare (c.namePrefix ++ name) = c.bare name := by rw [bare_prefixed, bare_of_plain hname]
    exact ⟨by rw [isTerminator, hsame, isTerminator], by rw [ofTag?, hsame, ofTag?], by rw [ofName?, hsame, ofName?]⟩
  case doubled =>
    intro name meaning h
    have hword := means_iff.mp h
    rw [bare_prefixed] at hword
    exact not_plain_prefixed c name (hplain hword)

/-- **Names.** In both catalogs a name ends the list, or is a group tag, or names a kind, and never two of these; each
of the three look-ups knows its words with the prefix or without it, and none of them takes it off twice. -/
theorem standard_unambiguous : component.Unambiguous ∧ application.Unambiguous := by
  have hplain : ∀ c ∈ [component, application], ∀ word ∈ terminator :: Group.tags.map Prod.fst,
      Text.afterPrefix? c.namePrefix.toList word.toList = none := by decide
  have hunambiguous : ∀ c ∈ [component, application], c.Unambiguous := fun c hc =>
    unambiguous_of_plain (plain_of_afterPrefix? (hplain c hc _ List.mem_cons_self)) fun row hrow =>
      plain_of_afterPrefix? (hplain c hc _ (List.mem_cons_of_mem _ (List.mem_map_of_mem hrow)))
  exact ⟨hunambiguous _ List.mem_cons_self, hunambiguous _ (List.mem_cons_of_mem _ List.mem_cons_self)⟩

/-- The prefix of the other catalog is no prefix. -/
example : component.ofName? "AV_HOST_ADDED" = none ∧ application.isTerminator "EV_NONE" = false := by decide

end EventBus.Catalog
