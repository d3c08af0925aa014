/-!
# Blank characters

The characters that trimming removes: those with the Unicode property `White_Space`. Both ends of a
configured entry are trimmed, and log messages lose their blank end.
-/

namespace EventBus.Text

/-- Whether a character has the Unicode property `White_Space`. -/
def isBlank (c : Char) : Bool :=
  let n := c.toNat
  (0x09 ≤ n && n ≤ 0x0D) || n == 0x20 || n == 0x85 || n == 0xA0 || n == 0x1680 ||
    (0x2000 ≤ n && n ≤ 0x200A) || n == 0x2028 || n == 0x2029 || n == 0x202F || n == 0x205F ||
    n == 0x3000

/-- The characters without the blank ones at the front. -/
def trimStart (cs : List Char) : List Char :=
  cs.dropWhile isBlank

/-- The characters without the blank ones at the end. -/
def trimEnd (cs : List Char) : List Char :=
  (cs.reverse.dropWhile isBlank).reverse

/-- The characters without the blank ones at both ends. -/
def trim (cs : List Char) : List Char :=
  trimEnd (trimStart cs)

example : trim " \u00a0EV_X\u3000\n".toList = "EV_X".toList := by decide
example : trim "   ".toList = [] := by decide

end EventBus.Text
