import RequestContract.Text.Blank
import RequestContract.Text.Letter
import RequestContract.Text.Numeral

/-!
# Absolute URLs

An absolute URL is a scheme (`http`, `https` or `ftp`), `://`, perhaps credentials before an `@`, a
host, perhaps a port and perhaps a tail that starts with `/`, `?` or `#`. The host is an address of
four numbers, a name of several labels, or `localhost`. Letters of the scheme and of `localhost`
count in either case.

No character of a host can start a port or a tail, so the host is the longest run of host
characters. Credentials may hold any character that is not blank, an `@` too, so each `@` is tried
as their end.
-/

namespace RequestContract.Url

/-! ### Parts -/

/-- Whether a character is a small ASCII letter up to case. The long s is an `s` in this sense. -/
def sameLetter (small c : Char) : Bool :=
  c == small || c == small.toUpper || (small == 's' && c == 'ſ')

/-- The text after a word, read up to case. -/
def afterWord : List Char → List Char → Option (List Char)
  | [], cs => some cs
  | _ :: _, [] => none
  | w :: ws, c :: cs => if sameLetter w c then afterWord ws cs else none

/-- The text after a scheme and `://`. -/
def afterScheme (cs : List Char) : Option (List Char) :=
  ["https://", "http://", "ftp://"].findSome? fun w => afterWord w.toList cs

/-- The texts after an `@` that has at least one character and no blank in front of it. `started`
says that there is such a character already. -/
def afterCredentials (started : Bool) : List Char → List (List Char)
  | [] => []
  | c :: cs =>
    if Text.isBlank c then []
    else if started && c == '@' then cs :: afterCredentials true cs
    else afterCredentials true cs

/-- A letter or a numeral. -/
def isAlphanumeric (c : Char) : Bool := Text.isLetter c || Text.isNumeral c

/-- A character that a host may hold. -/
def isHostChar (c : Char) : Bool := isAlphanumeric c || c == '-' || c == '.'

/-- The pieces of a text between points. -/
def splitPoints : List Char → List (List Char)
  | [] => [[]]
  | c :: cs =>
    if c = '.' then [] :: splitPoints cs
    else match splitPoints cs with
      | [] => [[c]]
      | p :: ps => (c :: p) :: ps

/-- A number of an address: at most 255 and without a zero in front. A digit that is not compared
may be one of any script. -/
def isOctet : List Char → Bool
  | [a] => Text.isDecimalDigit a
  | [a, b] => '1' ≤ a && a ≤ '9' && Text.isDecimalDigit b
  | [a, b, c] =>
    (a == '2' && b == '5' && '0' ≤ c && c ≤ '5')
      || (a == '2' && '0' ≤ b && b ≤ '4' && Text.isDecimalDigit c)
      || (a == '1' && Text.isDecimalDigit b && Text.isDecimalDigit c)
  | _ => false

/-- Four numbers between points. -/
def isAddress (host : List Char) : Bool :=
  let parts := splitPoints host
  parts.length == 4 && parts.all isOctet

/-- Letters and numerals, with hyphens only between them. -/
def isLabel (cs : List Char) : Bool :=
  match cs.head?, cs.getLast? with
  | some first, some last =>
    isAlphanumeric first && isAlphanumeric last && cs.all fun c => isAlphanumeric c || c == '-'
  | _, _ => false

/-- At least two letters. -/
def isTopLabel (cs : List Char) : Bool := 2 ≤ cs.length && cs.all Text.isLetter

/-- Labels between points, at least two of them. -/
def isHostName (host : List Char) : Bool :=
  let labels := splitPoints host
  2 ≤ labels.length && labels.dropLast.all isLabel && (labels.getLast?.map isTopLabel).getD false

/-- An address, a name or `localhost`. -/
def isHost (host : List Char) : Bool :=
  isAddress host || isHostName host || afterWord "localhost".toList host == some []

/-- Nothing, or a tail. -/
def isTail : List Char → Bool
  | [] => true
  | c :: cs => (c == '/' || c == '?' || c == '#') && cs.all fun c => !Text.isBlank c

/-- Perhaps a port of two to five digits, then perhaps a tail. -/
def isPortAndTail : List Char → Bool
  | ':' :: cs =>
    let port := cs.takeWhile Text.isDecimalDigit
    2 ≤ port.length && port.length ≤ 5 && isTail (cs.dropWhile Text.isDecimalDigit)
  | cs => isTail cs

/-- A host and what may follow it. -/
def isHostAndRest (cs : List Char) : Bool :=
  isHost (cs.takeWhile isHostChar) && isPortAndTail (cs.dropWhile isHostChar)

/-! ### The whole -/

/-- Whether the characters are those of an absolute URL. -/
def isUrlChars (cs : List Char) : Bool :=
  match afterScheme cs with
  | none => false
  | some rest => (rest :: afterCredentials false rest).any isHostAndRest

/-- Whether a text is an absolute URL. -/
def isUrl (text : String) : Bool := isUrlChars text.toList

end RequestContract.Url
