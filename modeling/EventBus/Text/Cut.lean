/-!
# Cutting texts

Pieces of a text: what follows a given beginning, the two sides of the first separator, the part in
front of a byte limit. All of them work on the characters, so no cut falls inside one.
-/

namespace EventBus.Text

/-- What follows `front` in a text that begins with it. -/
def afterPrefix? : List Char → List Char → Option (List Char)
  | [], cs => some cs
  | _ :: _, [] => none
  | p :: front, c :: cs => if p = c then afterPrefix? front cs else none

theorem afterPrefix?_eq_some_iff {front cs rest : List Char} :
    afterPrefix? front cs = some rest ↔ cs = front ++ rest := by
  induction front generalizing cs with
  | nil => simp [afterPrefix?]
  | cons p front ih =>
    cases cs with
    | nil => simp [afterPrefix?]
    | cons c cs =>
      by_cases h : p = c
      · simp [afterPrefix?, h, ih]
      · simp [afterPrefix?, h, Ne.symm h]

/-- The text without `front`, or the text itself when it does not begin with it. Only one copy of
`front` goes. -/
def dropPrefix (front cs : List Char) : List Char :=
  (afterPrefix? front cs).getD cs

/-- Both sides of the first `separator`; `none` without one. -/
def splitOnce (separator : Char) (cs : List Char) : Option (List Char × List Char) :=
  match cs.dropWhile (· != separator) with
  | [] => none
  | _ :: back => some (cs.takeWhile (· != separator), back)

/-- Both sides of the last `separator`; `none` without one. -/
def splitOnceLast (separator : Char) (cs : List Char) : Option (List Char × List Char) :=
  (splitOnce separator cs.reverse).map fun (back, front) => (front.reverse, back.reverse)

/-- The longest run of whole characters at the front that takes at most `limit` bytes of UTF-8. -/
def takeBytes : Nat → List Char → List Char
  -- a character that does not fit ends the run, even if a later one would fit
  | _, [] => []
  | limit, c :: cs => if c.utf8Size ≤ limit then c :: takeBytes (limit - c.utf8Size) cs else []

example : splitOnce ',' "EV_X,rw,x".toList = some ("EV_X".toList, "rw,x".toList) := by decide
example : splitOnceLast ':' "::1:80".toList = some ("::1".toList, "80".toList) := by decide
example : takeBytes 3 "aé漢".toList = "aé".toList := by decide

end EventBus.Text
