import RequestContract.Json.Draft

/-!
# Cutting a text into a draft

The text is read once from left to right, and each piece leaves a rest that is shorter than what it
was cut from, so the cutting ends. A fault ends it at once: what encloses the fault is closed with
the same fault.
-/

namespace RequestContract.Json

/-! ### Characters -/

/-- The blanks that may stand between the signs of a text. -/
def isSpace (c : Char) : Bool := c == ' ' || c == '\t' || c == '\n' || c == '\r'

/-- The text after its leading blanks. -/
def skipSpace (cs : List Char) : List Char := cs.dropWhile isSpace

/-- The value of a decimal digit. -/
def digitValue (c : Char) : Nat := c.toNat - '0'.toNat

/-- The value of a hexadecimal digit of either case. -/
def hexValue? (c : Char) : Option Nat :=
  if '0' ≤ c && c ≤ '9' then some (c.toNat - '0'.toNat)
  else if 'a' ≤ c && c ≤ 'f' then some (c.toNat - 'a'.toNat + 10)
  else if 'A' ≤ c && c ≤ 'F' then some (c.toNat - 'A'.toNat + 10)
  else none

/-- The number with four hexadecimal digits. -/
def hexUnit? (a b c d : Char) : Option Nat := do
  let a ← hexValue? a
  let b ← hexValue? b
  let c ← hexValue? c
  let d ← hexValue? d
  return ((a * 16 + b) * 16 + c) * 16 + d

/-- The character that a letter after a backslash stands for. -/
def shortEscape? : Char → Option Char
  | '"' => some '"'
  | '\\' => some '\\'
  | '/' => some '/'
  | 'b' => some '\x08'
  | 'f' => some '\x0c'
  | 'n' => some '\n'
  | 'r' => some '\r'
  | 't' => some '\t'
  | _ => none

theorem length_skipSpace_le (cs : List Char) : (skipSpace cs).length ≤ cs.length :=
  (List.dropWhile_sublist isSpace).length_le

/-! ### Words -/

/-- The text after a word that it must start with. -/
def cutWord : List Char → List Char → Except Fault (List Char)
  | [], cs => .ok cs
  | _ :: _, [] => .error .endInValue
  | w :: ws, c :: cs => if c = w then cutWord ws cs else .error .unknownWord

theorem length_le_of_cutWord {ws cs r : List Char} (h : cutWord ws cs = .ok r) :
    r.length ≤ cs.length := by
  induction ws generalizing cs with
  | nil => cases h; exact Nat.le_refl _
  | cons w ws ih =>
    cases cs with
    | nil => simp [cutWord] at h
    | cons c cs =>
      simp only [cutWord] at h
      split at h
      · exact Nat.le_succ_of_le (ih h)
      · cases h

/-! ### Numbers -/

/-- The leading digits of a text, and the text after them. -/
def cutDigits (cs : List Char) : List Nat × List Char :=
  ((cs.takeWhile Char.isDigit).map digitValue, cs.dropWhile Char.isDigit)

/-- What is wrong where a digit is missing. -/
def digitFault : List Char → Fault
  | [] => .endInNumber
  | _ :: _ => .invalidNumber

/-- The digits in front of the point: a single zero, or digits that do not start with one. -/
def cutWhole (cs : List Char) : Except Fault (List Nat × List Char) :=
  match cs with
  | '0' :: r =>
    match r with
    | c :: _ => if c.isDigit then .error .invalidNumber else .ok ([0], r)
    | [] => .ok ([0], r)
  | c :: _ => if c.isDigit then .ok (cutDigits cs) else .error .invalidNumber
  | [] => .error .endInNumber

/-- The digits after a point, if there is one. -/
def cutFraction (cs : List Char) : Except Fault (Option (List Nat) × List Char) :=
  match cs with
  | '.' :: r =>
    match cutDigits r with
    | ([], rest) => .error (digitFault rest)
    | (ds, rest) => .ok (some ds, rest)
  | _ => .ok (none, cs)

/-- The digits of an exponent. -/
def cutExponentDigits (negative : Bool) (cs : List Char) :
    Except Fault (Option Int × List Char) :=
  match cutDigits cs with
  | ([], rest) => .error (digitFault rest)
  | (ds, rest) =>
    let n : Nat := ds.foldl (fun n d => n * 10 + d) 0
    .ok (some (if negative then -(n : Int) else n), rest)

/-- An exponent, if there is one. -/
def cutExponent (cs : List Char) : Except Fault (Option Int × List Char) :=
  match cs with
  | c :: r =>
    if c = 'e' ∨ c = 'E' then
      match r with
      | '+' :: s => cutExponentDigits false s
      | '-' :: s => cutExponentDigits true s
      | _ => cutExponentDigits false r
    else .ok (none, cs)
  | [] => .ok (none, cs)

/-- A number after its sign. -/
def cutNumber (negative : Bool) (cs : List Char) : Except Fault (NumberLiteral × List Char) := do
  let (whole, r) ← cutWhole cs
  let (fraction, r) ← cutFraction r
  let (exponent, r) ← cutExponent r
  return (⟨negative, whole, fraction, exponent⟩, r)

theorem length_cutDigits_le (cs : List Char) : (cutDigits cs).2.length ≤ cs.length :=
  (List.dropWhile_sublist Char.isDigit).length_le

theorem length_lt_of_cutWhole {cs r : List Char} {ds : List Nat}
    (h : cutWhole cs = .ok (ds, r)) : r.length < cs.length := by
  unfold cutWhole at h
  split at h
  · split at h
    · split at h
      · cases h
      · cases h; simp
    · cases h; simp
  · rename_i c _ _
    split at h
    · rename_i hc
      simp only [cutDigits, hc, List.dropWhile_cons_of_pos, Except.ok.injEq, Prod.mk.injEq] at h
      rw [← h.2]
      exact Nat.lt_succ_of_le (List.dropWhile_sublist Char.isDigit).length_le
    · cases h
  · cases h

theorem length_le_of_cutFraction {cs r : List Char} {ds : Option (List Nat)}
    (h : cutFraction cs = .ok (ds, r)) : r.length ≤ cs.length := by
  unfold cutFraction at h
  split at h
  · rename_i s
    have hs := length_cutDigits_le s
    split at h
    · cases h
    · rename_i rest heq
      cases h
      rw [heq] at hs
      exact Nat.le_succ_of_le hs
  · cases h; exact Nat.le_refl _

theorem length_le_of_cutExponentDigits {negative : Bool} {cs r : List Char} {e : Option Int}
    (h : cutExponentDigits negative cs = .ok (e, r)) : r.length ≤ cs.length := by
  have hs := length_cutDigits_le cs
  unfold cutExponentDigits at h
  split at h
  · cases h
  · rename_i heq
    cases h
    rwa [heq] at hs

theorem length_le_of_cutExponent {cs r : List Char} {e : Option Int}
    (h : cutExponent cs = .ok (e, r)) : r.length ≤ cs.length := by
  unfold cutExponent at h
  split at h
  · split at h
    · split at h <;> have := length_le_of_cutExponentDigits h <;> simp only [List.length_cons] at * <;>
        omega
    · cases h; exact Nat.le_refl _
  · cases h; exact Nat.le_refl _

theorem length_lt_of_cutNumber {negative : Bool} {cs r : List Char} {l : NumberLiteral}
    (h : cutNumber negative cs = .ok (l, r)) : r.length < cs.length := by
  unfold cutNumber at h
  rcases h₁ : cutWhole cs with f | ⟨whole, r₁⟩
  · simp [h₁, bind, Except.bind] at h
  rcases h₂ : cutFraction r₁ with f | ⟨fraction, r₂⟩
  · simp [h₁, h₂, bind, Except.bind] at h
  rcases h₃ : cutExponent r₂ with f | ⟨exponent, r₃⟩
  · simp [h₁, h₂, h₃, bind, Except.bind] at h
  simp only [h₁, h₂, h₃, bind, Except.bind, pure, Except.pure, Except.ok.injEq,
    Prod.mk.injEq] at h
  have l₁ := length_lt_of_cutWhole h₁
  have l₂ := length_le_of_cutFraction h₂
  have l₃ := length_le_of_cutExponent h₃
  rw [← h.2]
  omega

/-! ### Strings -/

/-- A piece in front of a string literal. -/
def StringLiteral.push (p : Piece) (l : StringLiteral) : StringLiteral :=
  { l with pieces := p :: l.pieces }

/-- A string literal after its opening quote, and the text after it. The four digits of an escape
are looked for only if at least four bytes are left. -/
def cutString : List Char → StringLiteral × List Char
  | [] => (⟨[], some .endInString⟩, [])
  | '"' :: cs => (⟨[], none⟩, cs)
  | ['\\'] => (⟨[], some .endInString⟩, [])
  | '\\' :: 'u' :: a :: b :: c :: d :: cs =>
    match hexUnit? a b c d with
    | some u => ((cutString cs).1.push (.unit u), (cutString cs).2)
    | none => (⟨[], some .badHexDigit⟩, [])
  | '\\' :: 'u' :: cs =>
    (⟨[], some (if (String.ofList cs).utf8ByteSize < 4 then .endInString else .badHexDigit)⟩, [])
  | '\\' :: e :: cs =>
    match shortEscape? e with
    | some c => ((cutString cs).1.push (.char c), (cutString cs).2)
    | none => (⟨[], some .unknownEscape⟩, [])
  | c :: cs =>
    if c < ' ' then (⟨[], some .controlCharacter⟩, [])
    else ((cutString cs).1.push (.char c), (cutString cs).2)

theorem length_cutString_le (cs : List Char) : (cutString cs).2.length ≤ cs.length := by
  fun_induction cutString cs <;> simp_all <;> omega

/-! ### Values -/

/-- What is left of a text, or the fault that has ended the reading. -/
abbrev Rest (cs : List Char) : Type := Except Fault { r : List Char // r.length < cs.length }

/-- The rest of a shorter text is a rest of the longer one. -/
def Rest.widen {cs ds : List Char} (h : cs.length ≤ ds.length) : Rest cs → Rest ds
  | .ok ⟨r, hr⟩ => .ok ⟨r, Nat.lt_of_lt_of_le hr h⟩
  | .error f => .error f

/-- A leaf of a draft that is a word, read after its first letter. -/
def cutLeaf (leaf : Draft) (word : List Char) (c : Char) (cs : List Char) :
    Draft × Rest (c :: cs) :=
  match h : cutWord word cs with
  | .ok r => (leaf, .ok ⟨r, Nat.lt_succ_of_le (length_le_of_cutWord h)⟩)
  | .error f => (.fault f, .error f)

/-- A leaf of a draft that is a number. -/
def cutNumberLeaf (negative : Bool) (cs : List Char) : Draft × Rest cs :=
  match h : cutNumber negative cs with
  | .ok (l, r) => (.number l, .ok ⟨r, length_lt_of_cutNumber h⟩)
  | .error f => (.fault f, .error f)

/-- The rest after a string literal. -/
def stringRest (c : Char) (cs : List Char) : Rest (c :: cs) :=
  match (cutString cs).1.fault with
  | none => .ok ⟨(cutString cs).2, Nat.lt_succ_of_le (length_cutString_le cs)⟩
  | some f => .error f

mutual

/-- A value in front of a text, and the text after it. -/
def cutValue (cs : List Char) : Draft × Rest cs :=
  match h : skipSpace cs with
  | [] => (.fault .endInValue, .error .endInValue)
  | c :: r =>
    have hlen : (c :: r).length ≤ cs.length := h ▸ length_skipSpace_le cs
    have hr : r.length < cs.length := Nat.lt_of_lt_of_le (Nat.lt_succ_self _) hlen
    if c = 'n' then (cutLeaf .null ['u', 'l', 'l'] c r).map id (Rest.widen hlen)
    else if c = 't' then (cutLeaf (.bool true) ['r', 'u', 'e'] c r).map id (Rest.widen hlen)
    else if c = 'f' then (cutLeaf (.bool false) ['a', 'l', 's', 'e'] c r).map id (Rest.widen hlen)
    else if c = '-' then (cutNumberLeaf true r).map id (Rest.widen (Nat.le_of_lt hr))
    else if c.isDigit then (cutNumberLeaf false (c :: r)).map id (Rest.widen hlen)
    else if c = '"' then (.string (cutString r).1, (stringRest c r).widen hlen)
    else if c = '[' then
      let (items, ending, rest) := cutItems true r
      (.array items ending, rest.widen (Nat.le_of_lt hr))
    else if c = '{' then
      let (members, ending, rest) := cutMembers true r
      (.object members ending, rest.widen (Nat.le_of_lt hr))
    else (.fault .expectedValue, .error .expectedValue)
termination_by 3 * cs.length

/-- The items of a list up to its closing bracket. `start` says that no item has come yet, so that
no comma may stand in front of the next one. -/
def cutItems (start : Bool) (cs : List Char) : List Draft × Option Fault × Rest cs :=
  match h : skipSpace cs with
  | [] => ([], some .endInArray, .error .endInArray)
  | c :: r =>
    have hlen : (c :: r).length ≤ cs.length := h ▸ length_skipSpace_le cs
    have hr : r.length < cs.length := Nat.lt_of_lt_of_le (Nat.lt_succ_self _) hlen
    if c = ']' then ([], none, .ok ⟨r, hr⟩)
    else if start then
      let (items, ending, rest) := cutItem (c :: r)
      (items, ending, rest.widen hlen)
    else if c = ',' then
      match skipSpace r with
      | ']' :: _ => ([], some .commaBeforeBracket, .error .commaBeforeBracket)
      | _ =>
        let (items, ending, rest) := cutItem r
        (items, ending, rest.widen (Nat.le_of_lt hr))
    else ([], some .expectedCommaOrBracket, .error .expectedCommaOrBracket)
termination_by 3 * cs.length + 2

/-- An item and those after it. -/
def cutItem (cs : List Char) : List Draft × Option Fault × Rest cs :=
  match cutValue cs with
  | (d, .error f) => ([d], some f, .error f)
  | (d, .ok ⟨r, hr⟩) =>
    let (items, ending, rest) := cutItems false r
    (d :: items, ending, rest.widen (Nat.le_of_lt hr))
termination_by 3 * cs.length + 1

/-- The members of an object up to its closing brace. -/
def cutMembers (start : Bool) (cs : List Char) :
    List (StringLiteral × Draft) × Option Fault × Rest cs :=
  match h : skipSpace cs with
  | [] => ([], some .endInObject, .error .endInObject)
  | c :: r =>
    have hlen : (c :: r).length ≤ cs.length := h ▸ length_skipSpace_le cs
    have hr : r.length < cs.length := Nat.lt_of_lt_of_le (Nat.lt_succ_self _) hlen
    if c = '}' then ([], none, .ok ⟨r, hr⟩)
    else if start then
      let (members, ending, rest) := cutMember c r
      (members, ending, rest.widen hlen)
    else if c = ',' then
      match h' : skipSpace r with
      | [] => ([], some .endAfterComma, .error .endAfterComma)
      | d :: s =>
        have hs : (d :: s).length ≤ r.length := h' ▸ length_skipSpace_le r
        have _hs : s.length < cs.length := Nat.lt_trans (Nat.lt_of_lt_of_le (Nat.lt_succ_self _) hs) hr
        if d = '}' then ([], some .commaBeforeBrace, .error .commaBeforeBrace)
        else
          let (members, ending, rest) := cutMember d s
          (members, ending, rest.widen (Nat.le_trans hs (Nat.le_of_lt hr)))
    else ([], some .expectedCommaOrBrace, .error .expectedCommaOrBrace)
termination_by 3 * cs.length + 2

/-- A member, of which the first character is `c`, and those after it. -/
def cutMember (c : Char) (cs : List Char) :
    List (StringLiteral × Draft) × Option Fault × Rest (c :: cs) :=
  if c = '"' then
    let key := (cutString cs).1
    match key.fault with
    | some f => ([(key, .fault f)], some f, .error f)
    | none =>
      match h : skipSpace (cutString cs).2 with
      | [] => ([(key, .fault .endInObject)], some .endInObject, .error .endInObject)
      | d :: r =>
        have hr : r.length < cs.length := by
          have h₁ := length_cutString_le cs
          have h₂ := length_skipSpace_le (cutString cs).2
          rw [h] at h₂
          simp only [List.length_cons] at h₂
          omega
        if d = ':' then
          match cutValue r with
          | (v, .error f) => ([(key, v)], some f, .error f)
          | (v, .ok ⟨s, hs⟩) =>
            let (members, ending, rest) := cutMembers false s
            ((key, v) :: members, ending, rest.widen (by simp only [List.length_cons]; omega))
        else ([(key, .fault .expectedColon)], some .expectedColon, .error .expectedColon)
  else ([], some .keyNotString, .error .keyNotString)
termination_by 3 * cs.length + 1
decreasing_by all_goals omega

end

/-- A whole text as a document. -/
def Document.ofText (text : String) : Document :=
  match cutValue text.toList with
  | (d, .error f) => ⟨d, some f⟩
  | (d, .ok ⟨r, _⟩) => ⟨d, if (skipSpace r).isEmpty then none else some .trailingCharacters⟩

/-- The value that a text writes, or its first fault. -/
def ofText (text : String) : Except Fault Json := (Document.ofText text).read

end RequestContract.Json
