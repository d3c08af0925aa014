import EventBus.Json.Token

/-!
# Writing JSON tokens

Tokens are written one behind the other without white space. Strings escape quotes, backslashes and
controls, and nothing else; controls without a short escape are written by their code.
-/

namespace EventBus.Json

def hexChar (n : Nat) : Char :=
  Nat.digitChar n

def escapedChar (c : Char) : List Char :=
  match c with
  | '"' => ['\\', '"']
  | '\\' => ['\\', '\\']
  | '\x08' => ['\\', 'b']
  | '\x0c' => ['\\', 'f']
  | '\n' => ['\\', 'n']
  | '\r' => ['\\', 'r']
  | '\t' => ['\\', 't']
  | c =>
    if c.toNat < 0x20 then ['\\', 'u', '0', '0', hexChar (c.toNat / 16), hexChar (c.toNat % 16)]
    else [c]

def quote (cs : List Char) : List Char :=
  '"' :: cs.flatMap escapedChar ++ ['"']

def Number.chars : Number → List Char
  | .integer n => (toString n).toList
  | .floating negative digits exponent =>
    (if negative then ['-'] else []) ++ Nat.toDigits 10 digits ++ 'e' :: (toString exponent).toList

/-- A token as it is written. A token that is no text is written as one that does not read. -/
def Token.chars : Token → List Char
  | openArray => ['[']
  | closeArray => [']']
  | openObject => ['\x7b']
  | closeObject => ['\x7d']
  | comma => [',']
  | colon => [':']
  | null => "null".toList
  | bool true => "true".toList
  | bool false => "false".toList
  | number n => n.chars
  | string (some cs) => quote cs
  | string none => ['"']
  | malformed => ['"']

def render (ts : List Token) : String :=
  String.ofList (ts.flatMap Token.chars)

/-- The tokens of an array with the given elements. -/
def arrayTokens (elements : List (List Token)) : List Token :=
  .openArray :: (elements.intersperse [.comma]).flatten ++ [.closeArray]

/-- The tokens of an object with the given members. -/
def objectTokens (members : List (String × List Token)) : List Token :=
  .openObject
    :: ((members.map fun (key, value) => Token.string (some key.toList) :: .colon :: value).intersperse
        [.comma]).flatten
    ++ [.closeObject]

def textToken (s : String) : Token :=
  .string (some s.toList)

end EventBus.Json
