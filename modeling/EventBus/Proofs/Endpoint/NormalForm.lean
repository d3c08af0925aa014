import EventBus.Endpoint
import EventBus.Proofs.Address.Ipv6
import EventBus.Proofs.Record.Entries

/-!
# The normal form of an endpoint

An endpoint may be spelled in many ways, and is written in one.

* `SocketAddress.parse?_chars`: every numeric address with a port reads back from its text, every IPv6 address with every
  scope among them.
* `Endpoint.Denotable`: the endpoints that texts denote. All addresses are among them; a path is there unless it is empty
  or ends in a blank, which trimming takes for what surrounds the text.
* `Endpoint.text_normal`: the text of an endpoint that was read denotes it again, and no other endpoint that is read has
  this text.
-/

namespace EventBus

namespace SocketAddress

open Address

theorem portAfterColon?_toDigits (port : UInt16) : portAfterColon? (':' :: Nat.toDigits 10 port.toNat) = some port :=
  port?_toDigits port

/-- An IPv4 address with a port reads back from its text. -/
theorem parse?_v4 (ip : Ipv4) (port : UInt16) : parse? (v4 ip port).chars = some (.v4 ip port) := by
  have hread : Ipv4.read? (v4 ip port).chars = some (ip, ':' :: Nat.toDigits 10 port.toNat) :=
    Ipv4.read?_chars ip (stops_cons rfl _)
  have hv4 : ofV4? (v4 ip port).chars = some (.v4 ip port) := by
    unfold ofV4?
    rw [hread]
    simp only [Option.bind_eq_bind, Option.bind_some, portAfterColon?_toDigits, Option.pure_def]
  unfold parse?
  rw [hv4]
  rfl

/-- A scope is written if it is not zero. -/
def scopeChars (scope : UInt32) : List Char :=
  if scope = 0 then [] else '%' :: Nat.toDigits 10 scope.toNat

/-- A scope reads back from its text, which is empty for the scope zero. -/
theorem scope?_scopeChars (scope : UInt32) (rest : List Char) :
    scope? (scopeChars scope ++ ']' :: rest) = some (scope, ']' :: rest) := by
  have hstops : Stops 10 (']' :: rest) := stops_cons rfl rest
  unfold scopeChars
  split
  · next hzero =>
    subst hzero
    rfl
  · have hnumber : number? 10 none true UInt32.size (Nat.toDigits 10 scope.toNat ++ ']' :: rest)
        = some (scope.toNat, ']' :: rest) := number?_decimal nofun scope.toNat_lt hstops
    rw [List.cons_append, scope?, hnumber]
    exact congrArg (fun scope => some (scope, ']' :: rest)) UInt32.ofNat_toNat

/-- An IPv6 address ends where its scope begins, or at the bracket. -/
theorem halts_scopeChars (scope : UInt32) (rest : List Char) : Ipv6.Halts (scopeChars scope ++ ']' :: rest) := by
  unfold scopeChars
  split
  · exact Ipv6.halts_cons rfl (by decide) (by decide) rest
  · exact Ipv6.halts_cons rfl (by decide) (by decide) _

/-- An IPv6 address with a scope and a port reads back from its text. -/
theorem parse?_v6 (ip : Ipv6) (scope : UInt32) (port : UInt16) :
    parse? (v6 ip scope port).chars = some (.v6 ip scope port) := by
  have hchars : (v6 ip scope port).chars
      = '[' :: (ip.chars ++ (scopeChars scope ++ ']' :: ':' :: Nat.toDigits 10 port.toNat)) := by
    rw [← List.append_assoc]
    rfl
  have hread := Ipv6.read?_chars ip (halts_scopeChars scope (':' :: Nat.toDigits 10 port.toNat))
  -- an address in brackets is not one of the other sort
  have hv4 : ofV4? (v6 ip scope port).chars = none := by
    rw [hchars, ofV4?, Ipv4.read?_of_stops (stops_cons rfl _)]
    rfl
  have hv6 : ofV6? (v6 ip scope port).chars = some (.v6 ip scope port) := by
    rw [hchars, ofV6?, hread]
    simp only [Option.bind_eq_bind, Option.bind_some, scope?_scopeChars, portAfterColon?_toDigits, Option.pure_def]
  unfold parse?
  rw [hv4, hv6]
  rfl

/-- Every address with a port reads back from its text. -/
theorem parse?_chars (address : SocketAddress) : parse? address.chars = some address := by
  cases address with
  | v4 ip port => exact parse?_v4 ip port
  | v6 ip scope port => exact parse?_v6 ip scope port

/-- Every numeric address with a port reads back from its text. -/
theorem parse_chars (address : SocketAddress) : parse address.chars = .ok address := by
  unfold parse
  rw [parse?_chars]

/-- The text of an address ends in the digits of the port. -/
theorem exists_chars_eq (address : SocketAddress) : ∃ front port, address.chars = front ++ Nat.toDigits 10 port := by
  cases address with
  | v4 ip port => exact ⟨ip.chars ++ [':'], port.toNat, by simp [chars]⟩
  | v6 ip scope port =>
    exact ⟨'[' :: ip.chars ++ scopeChars scope ++ [']', ':'], port.toNat, by simp [chars, scopeChars]⟩

end SocketAddress

namespace Text

theorem isBlank_of_isDigit {ch : Char} (h : ch.isDigit = true) : isBlank ch = false := by
  have hrange : 48 ≤ ch.toNat ∧ ch.toNat ≤ 57 := by
    rw [Char.isDigit, Bool.and_eq_true, decide_eq_true_eq, decide_eq_true_eq] at h
    exact h
  unfold isBlank
  simp only [Bool.or_eq_false_iff, Bool.and_eq_false_iff, decide_eq_false_iff_not, beq_eq_false_iff_ne]
  omega

end Text

namespace Endpoint

variable {t t' : String} {e e' : Endpoint}

/-- Some text denotes the endpoint. -/
def Denotable : Endpoint → Prop
  | tcp _ => True
  | .local path => ∃ ch, path.toList.getLast? = some ch ∧ Text.isBlank ch = false

/-- What a text denotes depends on what is left of it when it is trimmed. -/
theorem parse_congr (h : Text.trim t.toList = Text.trim t'.toList) : parse t = parse t' := by
  unfold parse
  rw [h]

/-- The text of an endpoint is its scheme, and then the address or the path. -/
theorem toList_text (e : Endpoint) : e.text.toList
    = match e with
      | tcp address => "tcp://".toList ++ address.chars
      | .local path => "ipc://".toList ++ path.toList := by
  cases e with
  | tcp address => exact String.toList_append.trans (congrArg ("tcp://".toList ++ ·) String.toList_ofList)
  | «local» path => exact String.toList_append

/-- The last character of the text. -/
theorem getLast?_text (h : e.Denotable) : ∃ ch, e.text.toList.getLast? = some ch ∧ Text.isBlank ch = false := by
  rw [toList_text]
  cases e with
  | tcp address =>
    obtain ⟨front, port, hchars⟩ := address.exists_chars_eq
    obtain ⟨ch, hlast⟩ := Option.ne_none_iff_exists'.mp
      (mt List.getLast?_eq_none_iff.mp (Nat.toDigits_ne_nil (n := port) (b := 10)))
    -- the text of an address ends in the digits of its port
    refine ⟨ch, ?_, Text.isBlank_of_isDigit ?_⟩
    · dsimp only
      rw [hchars, List.getLast?_append, List.getLast?_append, hlast]
      rfl
    · exact Nat.isDigit_of_mem_toDigits (by decide) (by decide) (List.mem_of_getLast? hlast)
  | «local» path =>
    obtain ⟨ch, hlast, hblank⟩ := h
    refine ⟨ch, ?_, hblank⟩
    dsimp only
    rw [List.getLast?_append, hlast]
    rfl

/-- There is nothing to trim: the scheme is in front, and the last character is no blank. -/
theorem trim_text (h : e.Denotable) : Text.trim e.text.toList = e.text.toList := by
  obtain ⟨last, hlast, hblank⟩ := getLast?_text h
  refine Text.trims_iff.mp ⟨⟨[], [], by simp, nofun, nofun⟩, fun ch hch => ?_, fun ch hch => ?_⟩
  · -- the first character is that of the scheme
    rw [toList_text] at hch
    cases e with
    | tcp address =>
      cases hch
      rfl
    | «local» path =>
      cases hch
      rfl
  · rw [hlast] at hch
    cases hch
    exact hblank

/-- The text of an endpoint that texts denote is one of them. -/
theorem parse_text (h : e.Denotable) : parse e.text = .ok e := by
  unfold parse
  rw [trim_text h, toList_text]
  cases e with
  | tcp address =>
    have hscheme : Text.afterPrefix? "tcp://".toList ("tcp://".toList ++ address.chars) = some address.chars :=
      Text.afterPrefix?_eq_some_iff.mpr rfl
    dsimp only
    rw [hscheme]
    dsimp only
    rw [SocketAddress.parse_chars]
  | «local» path =>
    have htcp : Text.afterPrefix? "tcp://".toList ("ipc://".toList ++ path.toList) = none := rfl
    have hscheme : Text.afterPrefix? "ipc://".toList ("ipc://".toList ++ path.toList) = some path.toList :=
      Text.afterPrefix?_eq_some_iff.mpr rfl
    obtain ⟨last, hlast, -⟩ := h
    dsimp only
    rw [htcp, hscheme]
    -- a path that is denotable has a last character, so it is not the empty one that is refused
    cases hpath : path.toList with
    | nil =>
      rw [hpath] at hlast
      cases hlast
    | cons first more =>
      show Except.ok (Endpoint.local (String.ofList (first :: more))) = _
      rw [← hpath, String.ofList_toList]

/-- What a text denotes. -/
theorem denotable_of_parse (h : parse t = .ok e) : e.Denotable := by
  have htrims := Text.trims_trim t.toList
  generalize hraw : Text.trim t.toList = raw at htrims
  unfold parse at h
  rw [hraw] at h
  dsimp only at h
  split at h
  · split at h
    · cases h
      trivial
    · cases h
  · split at h
    · cases h
    · cases h
    · next path hsome hpath =>
      cases h
      -- the path ends where the trimmed text does
      obtain ⟨scheme, hscheme⟩ : ∃ scheme, raw = scheme ++ path := by
        rcases Option.or_eq_some_iff.mp (Option.orElse_eq_or.symm.trans hpath) with hipc | ⟨-, hunix⟩
        · exact ⟨_, Text.afterPrefix?_eq_some_iff.mp hipc⟩
        · exact ⟨_, Text.afterPrefix?_eq_some_iff.mp hunix⟩
      obtain ⟨last, hlast⟩ := Option.ne_none_iff_exists'.mp (mt List.getLast?_eq_none_iff.mp hsome)
      refine ⟨last, by rw [String.toList_ofList, hlast], htrims.last last ?_⟩
      rw [hscheme, List.getLast?_append, hlast]
      rfl

/-- Blanks around a text do not count. -/
theorem parse_surrounded {front back : String} (hfront : ∀ ch ∈ front.toList, Text.isBlank ch)
    (hback : ∀ ch ∈ back.toList, Text.isBlank ch) : parse (front ++ t ++ back) = parse t := by
  refine parse_congr (Text.trims_iff.mp ?_)
  obtain ⟨⟨before, behind, ht, hbefore, hbehind⟩, hfirst, hlast⟩ := Text.trims_trim t.toList
  refine ⟨⟨front.toList ++ before, behind ++ back.toList, ?_, fun ch hch => ?_, fun ch hch => ?_⟩, hfirst, hlast⟩
  · have hparts : (front ++ t ++ back).toList
        = front.toList ++ (before ++ Text.trim t.toList ++ behind) ++ back.toList := by
      rw [← ht, String.toList_append, String.toList_append]
    simpa only [List.append_assoc] using hparts
  · exact (List.mem_append.mp hch).elim (hfront ch) (hbefore ch)
  · exact (List.mem_append.mp hch).elim (hbehind ch) (hback ch)

/-- **Normal form.** Exactly the endpoints that are denotable are denoted by texts, all addresses among them; whatever
text an endpoint was read from, with any blanks around it, its own text denotes it again, and of the endpoints that are
read no other one has that text. -/
theorem text_normal :
    (∀ e : Endpoint, (∃ t, parse t = .ok e) ↔ e.Denotable)
      ∧ (∀ (t : String) (e : Endpoint), parse t = .ok e → parse e.text = .ok e)
      ∧ (∀ (t t' : String) (e e' : Endpoint), parse t = .ok e → parse t' = .ok e' → (e.text = e'.text ↔ e = e'))
      ∧ (∀ address, parse (tcp address).text = .ok (tcp address))
      ∧ ∀ front t back : String, (∀ ch ∈ front.toList, Text.isBlank ch) → (∀ ch ∈ back.toList, Text.isBlank ch) →
        parse (front ++ t ++ back) = parse t := by
  refine ⟨fun e => ⟨?_, fun h => ⟨e.text, parse_text h⟩⟩, fun t e h => parse_text (denotable_of_parse h), ?_,
    fun address => parse_text trivial, fun front t back hfront hback => parse_surrounded hfront hback⟩
  · rintro ⟨t, h⟩
    exact denotable_of_parse h
  · intro t t' e e' h h'
    refine ⟨fun hsame => ?_, congrArg text⟩
    -- both are what the text denotes
    have hread := parse_text (denotable_of_parse h)
    rw [hsame, parse_text (denotable_of_parse h')] at hread
    exact (Except.ok.inj hread).symm

/-- Zeros are left out where most of them stand together, and the first time of two. -/
example : (SocketAddress.parse? "[1:0:0:2:0000:0:3:4%07]:080".toList).map SocketAddress.chars
    = some "[1::2:0:0:3:4%7]:80".toList := by decide

end Endpoint

end EventBus
