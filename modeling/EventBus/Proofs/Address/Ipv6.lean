import EventBus.Address.Ipv6
import EventBus.Proofs.Address.Numbers

/-!
# IPv6 addresses, written and read

Every IPv6 address reads back from its text, in whichever of the three forms this is written.

* `Halts`: where a text stands that goes on no group and no run of groups.
* `readRun_joinGroups`: groups that are joined by colons are read as a run, up to such a text. Of the two readings that
  a group in front of a dot has, none is possible here.
* `longestZeros_spec`: what is left out where the text has `::` are zeros.
* `read?_chars`: the address, from one lemma for each form.
-/

namespace EventBus.Address

variable {cs rest : List Char}

theorem isDigit_ten_le {ch : Char} (h : isDigit 16 ch = false) : isDigit 10 ch = false := by
  unfold isDigit digit? at h ⊢
  rw [← Bool.not_eq_true, Option.isSome_iff_exists, not_exists] at h ⊢
  intro d hd
  rw [Option.filter_eq_some_iff] at hd
  refine h d ?_
  rw [Option.filter_eq_some_iff]
  exact ⟨hd.1, decide_eq_true (Nat.lt_trans (of_decide_eq_true hd.2) (by decide))⟩

/-- What stops a hexadecimal number stops a decimal one. -/
theorem Stops.ten (h : Stops 16 rest) : Stops 10 rest :=
  fun ch hch => isDigit_ten_le (h ch hch)

namespace Ipv6

/-! ## Groups -/

/-- The digits of a group are read as the group. -/
theorem group?_toDigits (g : UInt16) (hrest : Stops 16 rest) :
    group? (Nat.toDigits 16 g.toNat ++ rest) = some (g, rest) := by
  have hlt := g.toNat_lt
  unfold group?
  rw [number?_toDigits (by decide) (by decide) (by rintro _ ⟨⟩; omega) hlt hrest]
  exact congrArg (fun g => some (g, rest)) UInt16.ofNat_toNat

theorem group?_of_stops (h : Stops 16 rest) : group? rest = none := by
  unfold group?
  rw [number?_of_stops h]
  rfl

/-- A group does not read as the first octet of an IPv4 address if no dot stands behind it. -/
theorem read?_group (g : UInt16) (hrest : Stops 16 rest) (hdot : rest.head? ≠ some '.') :
    Ipv4.read? (Nat.toDigits 16 g.toNat ++ rest) = none := by
  refine Ipv4.read?_of_no_dot fun hhead => ?_
  rw [List.dropWhile_append] at hhead
  split at hhead
  · rw [dropWhile_of_stops hrest.ten] at hhead
    exact hdot hhead
  · next hsome =>
    -- what is left of the digits begins with one
    obtain ⟨first, more, hleft⟩ := List.exists_cons_of_ne_nil fun hnil => hsome (List.isEmpty_iff.mpr hnil)
    rw [hleft] at hhead
    cases hhead
    have hmem : '.' ∈ Nat.toDigits 16 g.toNat :=
      (List.dropWhile_sublist _).subset (hleft ▸ List.mem_cons_self)
    have hdigit := isDigit_of_mem_toDigits (by decide) (by decide) hmem
    exact absurd hdigit (by decide)

/-! ## Runs of groups -/

/-- A text that goes on neither a group nor a run of groups. -/
structure Halts (rest : List Char) : Prop where
  stops : Stops 16 rest
  undotted : rest.head? ≠ some '.'
  /-- Behind a colon there is no group. -/
  behind : ∀ start, rest = ':' :: start → Stops 16 start

/-- Two colons go on no run of groups. -/
theorem halts_colons (rest : List Char) : Halts (':' :: ':' :: rest) where
  stops := stops_cons rfl _
  undotted := by simp
  behind := by
    rintro _ ⟨⟩
    exact stops_cons rfl rest

theorem halts_cons {ch : Char} (hdigit : isDigit 16 ch = false) (hdot : ch ≠ '.') (hcolon : ch ≠ ':')
    (rest : List Char) : Halts (ch :: rest) where
  stops := stops_cons hdigit rest
  undotted := by simpa using hdot
  behind := by
    rintro start ⟨⟩
    exact absurd rfl hcolon

/-- No group is read off a text that halts. -/
theorem readRun_of_halts (first : Bool) (limit : Nat) (h : Halts rest) :
    readRun first limit rest = ⟨[], false, rest⟩ := by
  -- wherever the next group would start, no hexadecimal digit stands there
  have hstart : ∀ start, afterSeparator? first rest = some start → Stops 16 start := by
    intro start hsome
    unfold afterSeparator? at hsome
    split at hsome
    · cases hsome
      exact h.stops
    · split at hsome
      · cases hsome
        exact h.behind _ rfl
      · cases hsome
  cases limit with
  | zero => rfl
  | succ limit =>
    unfold readRun
    split
    · rfl
    · next start hsome =>
      have hnone : (if 0 < limit then Ipv4.read? start else none) = none := by
        rw [Ipv4.read?_of_stops (hstart start hsome).ten]
        exact ite_self none
      rw [hnone, group?_of_stops (hstart start hsome)]

/-- A group is read, and then the run goes on behind it. -/
theorem readRun_group {first : Bool} {limit : Nat} (g : UInt16) (hrest : Stops 16 rest) (hdot : rest.head? ≠ some '.')
    (hcs : afterSeparator? first cs = some (Nat.toDigits 16 g.toNat ++ rest)) :
    readRun first (limit + 1) cs
      = { readRun false limit rest with groups := g :: (readRun false limit rest).groups } := by
  -- the reading with a dot is not possible here
  have hnone : (if 0 < limit then Ipv4.read? (Nat.toDigits 16 g.toNat ++ rest) else none) = none := by
    rw [read?_group g hrest hdot]
    exact ite_self none
  rw [readRun, hcs]
  dsimp only
  rw [hnone, group?_toDigits g hrest]

/-- A group behind another one. -/
def following (g : UInt16) : List Char :=
  ':' :: Nat.toDigits 16 g.toNat

/-- The first group, and the others with a colon in front of each. -/
theorem joinGroups_cons (g : UInt16) (gs : List UInt16) :
    joinGroups (g :: gs) = Nat.toDigits 16 g.toNat ++ gs.flatMap following := by
  induction gs generalizing g with
  | nil => exact (List.append_nil _).symm
  | cons next gs ih =>
    rw [joinGroups, ih, List.flatMap_cons, following, List.cons_append]
    exact nofun

/-- A group ends where the next one follows. -/
theorem stops_following {gs : List UInt16} (h : Stops 16 rest) : Stops 16 (gs.flatMap following ++ rest) := by
  cases gs with
  | nil => exact h
  | cons g gs => exact stops_cons rfl _

theorem undotted_following {gs : List UInt16} (h : rest.head? ≠ some '.') :
    (gs.flatMap following ++ rest).head? ≠ some '.' := by
  cases gs with
  | nil => exact h
  | cons g gs => simp [following]

/-- By induction along the groups that follow. -/
theorem readRun_following {gs : List UInt16} {limit : Nat} (hroom : gs.length ≤ limit) (h : Halts rest) :
    readRun false limit (gs.flatMap following ++ rest) = ⟨gs, false, rest⟩ := by
  induction gs generalizing limit with
  | nil => exact readRun_of_halts false limit h
  | cons g gs ih =>
    obtain ⟨limit, rfl⟩ := Nat.exists_eq_succ_of_ne_zero (Nat.ne_zero_of_lt hroom)
    have hmore := ih (Nat.le_of_succ_le_succ hroom)
    have hcs : (g :: gs).flatMap following ++ rest
        = ':' :: (Nat.toDigits 16 g.toNat ++ (gs.flatMap following ++ rest)) := by
      rw [List.flatMap_cons, List.append_assoc, following, List.cons_append]
    rw [hcs, readRun_group g (stops_following h.stops) (undotted_following h.undotted) rfl, hmore]

/-- Groups that are joined by colons are read as a run, if there are not too many. -/
theorem readRun_joinGroups {gs : List UInt16} {limit : Nat} (hroom : gs.length ≤ limit) (h : Halts rest) :
    readRun true limit (joinGroups gs ++ rest) = ⟨gs, false, rest⟩ := by
  cases gs with
  | nil => exact readRun_of_halts true limit h
  | cons g gs =>
    obtain ⟨limit, rfl⟩ := Nat.exists_eq_succ_of_ne_zero (Nat.ne_zero_of_lt hroom)
    rw [joinGroups_cons, List.append_assoc,
      readRun_group g (stops_following h.stops) (undotted_following h.undotted) rfl,
      readRun_following (Nat.le_of_succ_le_succ hroom) h]

/-! ## Zeros -/

/-- The zeros in front are zeros, and no more than there are groups. -/
theorem zerosAtFront_spec (gs : List UInt16) :
    List.replicate (zerosAtFront gs) 0 ++ gs.drop (zerosAtFront gs) = gs ∧ zerosAtFront gs ≤ gs.length := by
  induction gs with
  | nil => exact ⟨rfl, Nat.le_refl _⟩
  | cons g gs ih =>
    unfold zerosAtFront at ih ⊢
    by_cases hzero : g = 0
    · subst hzero
      rw [List.takeWhile_cons_of_pos rfl, List.length_cons, List.replicate_succ, List.drop_succ_cons, List.cons_append,
        ih.1]
      exact ⟨rfl, Nat.succ_le_succ ih.2⟩
    · rw [List.takeWhile_cons_of_neg (by simpa using hzero)]
      exact ⟨rfl, Nat.zero_le _⟩

/-- The run that is found lies in the groups and consists of zeros. -/
theorem longestZeros_spec (gs : List UInt16) :
    gs.take (longestZeros gs).1 ++ List.replicate (longestZeros gs).2 0
        ++ gs.drop ((longestZeros gs).1 + (longestZeros gs).2) = gs
      ∧ (longestZeros gs).1 + (longestZeros gs).2 ≤ gs.length := by
  induction gs with
  | nil => exact ⟨rfl, Nat.le_refl _⟩
  | cons g gs ih =>
    rw [longestZeros]
    dsimp only
    split
    -- either the zeros at the front win, or the best run lies behind the head and moves by one
    · have hfront := zerosAtFront_spec (g :: gs)
      rw [Nat.zero_add]
      exact hfront
    · have hbehind : (longestZeros gs).1 + 1 + (longestZeros gs).2 = (longestZeros gs).1 + (longestZeros gs).2 + 1 :=
        Nat.succ_add ..
      dsimp only
      rw [hbehind, List.take_succ_cons, List.drop_succ_cons, List.length_cons, List.cons_append, List.cons_append, ih.1]
      exact ⟨rfl, Nat.succ_le_succ ih.2⟩

/-! ## Mapped addresses -/

/-- Two bytes make up the word that they are the halves of. -/
theorem halves_eq (x : UInt16) : (x >>> 8).toUInt8.toUInt16 <<< 8 ||| x.toUInt8.toUInt16 = x := by
  have hlt := x.toNat_lt
  rw [← UInt16.toNat_inj]
  simp only [UInt16.toNat_or, UInt16.toNat_shiftLeft, UInt8.toNat_toUInt16, UInt16.toNat_toUInt8,
    UInt16.toNat_shiftRight]
  have hlow : x.toNat % 2 ^ 8 < 2 ^ 8 := Nat.mod_lt _ (by decide)
  have height : UInt16.toNat 8 % 16 = 8 := rfl
  rw [height, Nat.shiftRight_eq_div_pow, Nat.shiftLeft_eq]
  have hhigh : x.toNat / 2 ^ 8 % 2 ^ 8 = x.toNat / 2 ^ 8 := Nat.mod_eq_of_lt (by omega)
  have hfits : x.toNat / 2 ^ 8 * 2 ^ 8 % 2 ^ 16 = x.toNat / 2 ^ 8 * 2 ^ 8 := Nat.mod_eq_of_lt (by omega)
  rw [hhigh, hfits, ← Nat.shiftLeft_eq, ← Nat.shiftLeft_add_eq_or_of_lt hlow, Nat.shiftLeft_eq]
  exact Nat.div_add_mod' _ _

/-- An address that is written in mixed form has the groups of a mapped one. -/
theorem groups_of_mappedIpv4? {groups : List UInt16} {v4 : Ipv4} (h : mappedIpv4? groups = some v4) :
    groups = [0, 0, 0, 0, 0, 0xFFFF] ++ ofIpv4 v4 := by
  unfold mappedIpv4? at h
  split at h
  · next x y =>
    cases h
    rw [ofIpv4, halves_eq, halves_eq]
    rfl
  · cases h

/-! ## Addresses -/

/-- The groups of an address are those of an address. -/
theorem ofGroups?_groups (ip : Ipv6) : ofGroups? ip.groups = some ip :=
  dif_pos ip.length_eq

/-- Groups around `::`, with zeros for those that are left out. -/
theorem read?_of_colons {ip : Ipv6} {front back : List UInt16} {endsInIpv4 : Bool} {behind : List Char}
    (hfront : readRun true 8 cs = ⟨front, false, ':' :: ':' :: behind⟩)
    (hback : readRun true (7 - front.length) behind = ⟨back, endsInIpv4, rest⟩) (hshort : front.length < 8)
    (hgroups : front ++ List.replicate (8 - front.length - back.length) 0 ++ back = ip.groups) :
    read? cs = some (ip, rest) := by
  unfold read?
  simp only [hfront, hback, hgroups, ofGroups?_groups, Nat.ne_of_lt hshort, if_false, Bool.false_eq_true,
    Option.map_some]

/-- An IPv4-mapped address. -/
theorem read?_mapped {ip : Ipv6} {v4 : Ipv4} (h : mappedIpv4? ip.groups = some v4) (hrest : Stops 10 rest) :
    read? ("::ffff:".toList ++ v4.chars ++ rest) = some (ip, rest) := by
  have hlast : readRun false 6 (':' :: (v4.chars ++ rest)) = ⟨ofIpv4 v4, true, rest⟩ := by
    rw [readRun, show afterSeparator? false (':' :: (v4.chars ++ rest)) = some (v4.chars ++ rest) from rfl]
    dsimp only
    rw [if_pos (by decide), Ipv4.read?_chars v4 hrest]
  have hback : readRun true 7 ("ffff".toList ++ ':' :: (v4.chars ++ rest)) = ⟨0xFFFF :: ofIpv4 v4, true, rest⟩ := by
    rw [readRun_group 0xFFFF (stops_cons rfl _) (by simp) rfl, hlast]
  refine read?_of_colons (readRun_of_halts true 8 (halts_colons _)) hback (by decide) ?_
  rw [groups_of_mappedIpv4? h]
  rfl

/-- An address whose zeros are left out. -/
theorem read?_compressed (ip : Ipv6) {start length : Nat} (hzeros : longestZeros ip.groups = (start, length))
    (hmany : 1 < length) (hrest : Halts rest) :
    read? (joinGroups (ip.groups.take start) ++ ':' :: ':' :: joinGroups (ip.groups.drop (start + length)) ++ rest)
      = some (ip, rest) := by
  obtain ⟨hsame, hroom⟩ := longestZeros_spec ip.groups
  rw [hzeros, ip.length_eq] at hroom
  rw [hzeros] at hsame
  dsimp only at hroom hsame
  have hfrontLength : (ip.groups.take start).length = start := by
    rw [List.length_take, ip.length_eq]
    omega
  -- behind the double colon as many groups may follow as are not yet read
  have hbackLength : (ip.groups.drop (start + length)).length = 8 - (start + length) := by
    rw [List.length_drop, ip.length_eq]
  have hback : readRun true (7 - (ip.groups.take start).length)
      (joinGroups (ip.groups.drop (start + length)) ++ rest) = ⟨ip.groups.drop (start + length), false, rest⟩ :=
    readRun_joinGroups (by omega) hrest
  rw [List.append_assoc, List.cons_append, List.cons_append]
  refine read?_of_colons (readRun_joinGroups (by omega) (halts_colons _)) hback (by omega) ?_
  have hleft : 8 - (ip.groups.take start).length - (ip.groups.drop (start + length)).length = length := by omega
  rw [hleft]
  exact hsame

/-- An address that is written without an omission is read back. -/
theorem read?_plain (ip : Ipv6) (hrest : Halts rest) : read? (joinGroups ip.groups ++ rest) = some (ip, rest) := by
  unfold read?
  simp only [readRun_joinGroups (Nat.le_of_eq ip.length_eq) hrest, ip.length_eq, if_true, ofGroups?_groups,
    Option.map_some]

/-- Every IPv6 address reads back from its text. -/
theorem read?_chars (ip : Ipv6) (hrest : Halts rest) : read? (ip.chars ++ rest) = some (ip, rest) := by
  unfold chars
  split
  · next v4 hmapped => exact read?_mapped hmapped hrest.stops.ten
  · generalize hzeros : longestZeros ip.groups = zeros
    obtain ⟨start, length⟩ := zeros
    dsimp only
    split
    · next hmany => exact read?_compressed ip hzeros hmany hrest
    · exact read?_plain ip hrest

end Ipv6

end EventBus.Address
