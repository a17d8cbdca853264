import RequestContract.Text.Invisible

/-!
# Texts quoted in diagnostics

A diagnostic shows a text between quotes, with escapes for the quote, the backslash, the usual
controls, and every character that would not show by itself.
-/

namespace RequestContract.Text

/-- A number in hexadecimal digits, in lower case. -/
def hexText (n : Nat) : List Char := Nat.toDigits 16 n

/-- A character as a diagnostic shows it. -/
def showChar (c : Char) : List Char :=
  if c = '\x00' then ['\\', '0']
  else if c = '\t' then ['\\', 't']
  else if c = '\r' then ['\\', 'r']
  else if c = '\n' then ['\\', 'n']
  else if c = '\\' then ['\\', '\\']
  else if c = '"' then ['\\', '"']
  else if isInvisible c then ['\\', 'u', '{'] ++ hexText c.toNat ++ ['}']
  else [c]

/-- A text between quotes. -/
def showText (text : String) : String :=
  String.ofList ('"' :: text.toList.flatMap showChar ++ ['"'])

end RequestContract.Text
