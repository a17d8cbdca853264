import RequestContract.Json.Basic
import RequestContract.Double.Layout

/-!
# Writing JSON

The compact text of a value: no blanks, members in their order, and of the characters in a string
only the quote, the backslash and the controls below the space escaped.
-/

namespace RequestContract.Json

/-- A hexadecimal digit, in lower case. -/
def hexDigit (n : Nat) : Char := Nat.digitChar (n % 16)

/-- A character as it stands in a string. -/
def escapeChar (c : Char) : List Char :=
  if c = '"' then ['\\', '"']
  else if c = '\\' then ['\\', '\\']
  else if c = '\x08' then ['\\', 'b']
  else if c = '\t' then ['\\', 't']
  else if c = '\n' then ['\\', 'n']
  else if c = '\x0c' then ['\\', 'f']
  else if c = '\r' then ['\\', 'r']
  else if c < ' ' then ['\\', 'u', '0', '0', hexDigit (c.toNat / 16), hexDigit c.toNat]
  else [c]

/-- The characters of a string between quotes. -/
def quoteChars (s : List Char) : List Char := '"' :: s.flatMap escapeChar ++ ['"']

/-- A string between quotes. -/
def quote (s : String) : String := String.ofList (quoteChars s.toList)

/-- The text of a number. -/
def Number.render : Number → List Char
  | .integer i => (toString i).toList
  | .real x => (x.text .json).toList

/-- Texts with a comma between each two. -/
def separate : List (List Char) → List Char
  | [] => []
  | [t] => t
  | t :: ts => t ++ ',' :: separate ts

mutual

/-- The characters of the compact text of a value. -/
def renderChars : Json → List Char
  | .null => ['n', 'u', 'l', 'l']
  | .bool true => ['t', 'r', 'u', 'e']
  | .bool false => ['f', 'a', 'l', 's', 'e']
  | .number n => n.render
  | .string s => quoteChars s.toList
  | .array items => '[' :: separate (renderItems items) ++ [']']
  | .object ms => '{' :: separate (renderMembers ms) ++ ['}']

/-- The texts of the items. -/
def renderItems : List Json → List (List Char)
  | [] => []
  | v :: vs => renderChars v :: renderItems vs

/-- The texts of the members. -/
def renderMembers : List (String × Json) → List (List Char)
  | [] => []
  | (k, v) :: ms => (quoteChars k.toList ++ ':' :: renderChars v) :: renderMembers ms

end

/-- The compact text of a value. -/
def render (v : Json) : String := String.ofList (renderChars v)

end RequestContract.Json
