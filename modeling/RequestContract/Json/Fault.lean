/-!
# Faults of a JSON text

What can be wrong with a text at the place where reading meets it. A value that is only passed over
is checked more loosely, so the same fault can have two wordings.
-/

namespace RequestContract.Json

/-- A fault of a text. -/
inductive Fault where
  /-- The text ends where a value should stand. -/
  | endInValue
  /-- The text ends within a list. -/
  | endInArray
  /-- The text ends within an object. -/
  | endInObject
  /-- The text ends after a comma between members. -/
  | endAfterComma
  /-- The text ends within a string. -/
  | endInString
  /-- The text ends within a number. -/
  | endInNumber
  /-- Something else stands where a value should. -/
  | expectedValue
  /-- A word that is not `true`, `false` or `null`. -/
  | unknownWord
  | expectedColon
  | expectedCommaOrBracket
  | expectedCommaOrBrace
  /-- A key that is not a string. -/
  | keyNotString
  /-- A comma before the closing bracket of a list. -/
  | commaBeforeBracket
  /-- A comma before the closing brace of an object. -/
  | commaBeforeBrace
  /-- More text after the end. -/
  | trailingCharacters
  | invalidNumber
  | numberOutOfRange
  /-- A backslash before a letter that starts no escape. -/
  | unknownEscape
  /-- A digit of an escape that is not hexadecimal. -/
  | badHexDigit
  /-- The first half of a surrogate pair without a second escape. -/
  | unpairedEscape
  /-- Half of a surrogate pair in the wrong place. -/
  | loneSurrogate
  /-- A control character in a string. -/
  | controlCharacter
deriving DecidableEq

namespace Fault

/-- The wording of a fault met in reading. -/
def message : Fault → String
  | endInValue | endInNumber | endAfterComma => "EOF while parsing a value"
  | endInArray => "EOF while parsing a list"
  | endInObject => "EOF while parsing an object"
  | endInString => "EOF while parsing a string"
  | expectedValue => "expected value"
  | unknownWord => "expected ident"
  | expectedColon => "expected `:`"
  | expectedCommaOrBracket => "expected `,` or `]`"
  | expectedCommaOrBrace => "expected `,` or `\x7d`"
  | keyNotString => "key must be a string"
  | commaBeforeBracket | commaBeforeBrace => "trailing comma"
  | trailingCharacters => "trailing characters"
  | invalidNumber => "invalid number"
  | numberOutOfRange => "number out of range"
  | unknownEscape | badHexDigit => "invalid escape"
  | unpairedEscape => "unexpected end of hex escape"
  | loneSurrogate => "lone leading surrogate in hex escape"
  | controlCharacter => "control character (\\u0000-\\u001F) found while parsing a string"

/-- The wording of a fault met in passing over a value that nobody asks for. -/
def skippedMessage : Fault → String
  | endInNumber => "invalid number"
  | endAfterComma => "EOF while parsing an object"
  | commaBeforeBracket => "expected value"
  | commaBeforeBrace => "key must be a string"
  | f => f.message

end Fault

end RequestContract.Json
