import RequestContract.Json.Basic
import RequestContract.Json.Fault

/-!
# Literals and their values

A literal is well formed or not by its characters alone; whether a well-formed one has a value is a
second question. A string may name half of a surrogate pair, a number may be too large.

The value of a number literal with a point or an exponent is not always the nearest double: its
digits are taken as one integer below `2 ^ 64`, further digits counting only for their place, and
that integer is then multiplied or divided by a power of ten, rounding at each step.
-/

namespace RequestContract.Json

/-! ### Numbers -/

/-- A well-formed number. -/
structure NumberLiteral where
  /-- Whether a minus sign stands in front. -/
  negative : Bool
  /-- The digits in front of the point. -/
  whole : List Nat
  /-- The digits after the point, if there is one. -/
  fraction : Option (List Nat)
  /-- The exponent, if there is one. -/
  exponent : Option Int

/-- Appends digits to an integer as long as it stays below `2 ^ 64`, and gives the integer and the
digits left over. -/
def gatherDigits (n : Nat) : List Nat → Nat × List Nat
  | [] => (n, [])
  | d :: ds => if n * 10 + d < UInt64.size then gatherDigits (n * 10 + d) ds else (n, d :: ds)

/-- The double nearest to a power of ten. -/
def powerOfTen (k : Nat) : Double := Double.ofNat (Nat.pow 10 k)

/-- Divides by `10 ^ k`, at most 308 places at a time, rounding each time. -/
def shrink (x : Double) (k : Nat) : Double :=
  if k ≤ 308 then x / powerOfTen k
  else if x.isZero then x
  else shrink (x / powerOfTen 308) (k - 308)
termination_by k

/-- The double read for `n * 10 ^ e`, if it is finite. -/
def doubleOfDecimal (n : Nat) (e : Int) : Option Double :=
  let x := Double.ofNat n
  match e with
  | .negSucc k => some (shrink x (k + 1))
  | .ofNat k =>
    if k ≤ 308 then
      let y := x * powerOfTen k
      if y.isFinite then some y else none
    else if x.isZero then some x
    else none

namespace NumberLiteral

/-- The value of a number literal. A negative integer below `-2 ^ 63`, `-0`, and an integer from
`2 ^ 64` up are doubles. -/
def value (l : NumberLiteral) : Except Fault Number :=
  let (n, left) := gatherDigits 0 l.whole
  if l.fraction.isNone && l.exponent.isNone && left.isEmpty then
    if !l.negative then .ok (.integer n)
    else if 0 < n && n ≤ 9223372036854775808 then .ok (.integer (-n))
    else .ok (.real (-Double.ofNat n))
  else
    let places := l.fraction.getD []
    let (m, unread) := gatherDigits n places
    let e := (left.length : Int) - (places.length - unread.length : Nat) + l.exponent.getD 0
    match doubleOfDecimal m e with
    | some x => .ok (.real (if l.negative then -x else x))
    | none => .error .numberOutOfRange

end NumberLiteral

/-! ### Strings -/

/-- A piece of a string literal. -/
inductive Piece where
  /-- A character, written plainly or with a short escape. -/
  | char (c : Char)
  /-- A number of sixteen bits, written as an escape with four hexadecimal digits. -/
  | unit (u : Nat)
deriving DecidableEq

/-- A string literal up to its closing quote, or up to the fault that cuts it short. -/
structure StringLiteral where
  /-- The pieces in order. -/
  pieces : List Piece
  /-- What stands in place of a closing quote. -/
  fault : Option Fault
deriving DecidableEq

/-- The first half of a surrogate pair. -/
def isHighSurrogate (u : Nat) : Bool := 0xD800 ≤ u && u ≤ 0xDBFF

/-- The second half of a surrogate pair. -/
def isLowSurrogate (u : Nat) : Bool := 0xDC00 ≤ u && u ≤ 0xDFFF

/-- The character that a surrogate pair stands for. -/
def pairedChar (high low : Nat) : Char :=
  Char.ofNat ((high - 0xD800) * 0x400 + (low - 0xDC00) + 0x10000)

/-- What is wrong when a string ends after the first half of a pair. -/
def faultAfterHigh : Option Fault → Fault
  | some .endInString => .endInString
  | some .badHexDigit => .badHexDigit
  | _ => .unpairedEscape

/-- The characters of the pieces, ending in `fault`. -/
def decodePieces (fault : Option Fault) : List Piece → Except Fault (List Char)
  | [] =>
    match fault with
    | none => .ok []
    | some f => .error f
  | .char c :: ps => (c :: ·) <$> decodePieces fault ps
  | .unit u :: ps =>
    if isLowSurrogate u then .error .loneSurrogate
    else if isHighSurrogate u then
      match ps with
      | .unit w :: qs =>
        if isLowSurrogate w then (pairedChar u w :: ·) <$> decodePieces fault qs
        else .error .loneSurrogate
      | .char _ :: _ => .error .unpairedEscape
      | [] => .error (faultAfterHigh fault)
    else (Char.ofNat u :: ·) <$> decodePieces fault ps

/-- The value of a string literal. -/
def StringLiteral.value (l : StringLiteral) : Except Fault String :=
  String.ofList <$> decodePieces l.fault l.pieces

@[simp] theorem decodePieces_nil : decodePieces none [] = .ok [] := rfl

@[simp] theorem decodePieces_char (fault : Option Fault) (c : Char) (ps : List Piece) :
    decodePieces fault (.char c :: ps) = (c :: ·) <$> decodePieces fault ps := rfl

end RequestContract.Json
