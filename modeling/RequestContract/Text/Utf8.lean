/-!
# Reading UTF-8

Bytes are read one at a time. A first byte says how many bytes follow it and which the next one may
be; a byte that does not belong there ends the sequence and starts a new one. Each sequence that is
broken off counts as one fault. The strict reading refuses faults, the lenient one puts U+FFFD in
their place.
-/

namespace RequestContract.Text

/-- A character that is not complete. -/
structure Utf8State where
  /-- How many bytes are missing after the next one. -/
  more : Nat
  /-- The least that the next byte may be. -/
  low : UInt8
  /-- The greatest that the next byte may be. -/
  high : UInt8
  /-- The bits read so far. -/
  bits : Nat

/-- The state after a first byte that others must follow. -/
def Utf8State.ofFirst? (b : UInt8) : Option Utf8State :=
  if 0xC2 ≤ b && b ≤ 0xDF then some ⟨0, 0x80, 0xBF, b.toNat - 0xC0⟩
  else if b == 0xE0 then some ⟨1, 0xA0, 0xBF, 0⟩
  else if b == 0xED then some ⟨1, 0x80, 0x9F, 0xD⟩
  else if 0xE1 ≤ b && b ≤ 0xEF then some ⟨1, 0x80, 0xBF, b.toNat - 0xE0⟩
  else if b == 0xF0 then some ⟨2, 0x90, 0xBF, 0⟩
  else if 0xF1 ≤ b && b ≤ 0xF3 then some ⟨2, 0x80, 0xBF, b.toNat - 0xF0⟩
  else if b == 0xF4 then some ⟨2, 0x80, 0x8F, 4⟩
  else none

mutual

/-- The characters of bytes that start anew, `none` for each fault. -/
def utf8Chars : List UInt8 → List (Option Char)
  | [] => []
  | b :: bs =>
    if b < 0x80 then some (Char.ofNat b.toNat) :: utf8Chars bs
    else match Utf8State.ofFirst? b with
      | some s => utf8CharsFrom s bs
      | none => none :: utf8Chars bs

/-- The characters of bytes that go on from a state, `none` for each fault. -/
def utf8CharsFrom (s : Utf8State) : List UInt8 → List (Option Char)
  | [] => [none]
  | b :: bs =>
    if s.low ≤ b && b ≤ s.high then
      let bits := s.bits * 0x40 + (b.toNat - 0x80)
      match s.more with
      | 0 => some (Char.ofNat bits) :: utf8Chars bs
      | n + 1 => utf8CharsFrom ⟨n, 0x80, 0xBF, bits⟩ bs
    else if b < 0x80 then none :: some (Char.ofNat b.toNat) :: utf8Chars bs
    else match Utf8State.ofFirst? b with
      | some t => none :: utf8CharsFrom t bs
      | none => none :: none :: utf8Chars bs

end

/-- The text of bytes, if there is no fault in them. -/
def ofUtf8? (bytes : List UInt8) : Option String :=
  ((utf8Chars bytes).mapM id).map String.ofList

/-- The text of bytes, with U+FFFD for each fault. -/
def ofUtf8Lossy (bytes : List UInt8) : String :=
  String.ofList ((utf8Chars bytes).map fun c => c.getD '\uFFFD')

/-- The bytes of a text. -/
def toUtf8 (text : String) : List UInt8 := text.toUTF8.toList

end RequestContract.Text
