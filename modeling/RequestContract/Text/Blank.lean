import RequestContract.Text.Interval

/-!
# Blanks

The characters with the property `White_Space`, and trimming of a text at both ends. Trimming
leaves a text that neither starts nor ends with a blank, and changes no other text.
-/

namespace RequestContract.Text

/-- The intervals of code points that are blank, in increasing order. -/
def blankIntervals : List (Nat × Nat) :=
  [(0x9, 0xD), (0x20, 0x20), (0x85, 0x85), (0xA0, 0xA0), (0x1680, 0x1680), (0x2000, 0x200A),
   (0x2028, 0x2029), (0x202F, 0x202F), (0x205F, 0x205F), (0x3000, 0x3000)]

/-- A blank of some script. -/
def isBlank (c : Char) : Bool := inIntervals blankIntervals c

/-- The text without the blanks at its end. -/
def trimEnd (cs : List Char) : List Char := (cs.reverse.dropWhile isBlank).reverse

/-- The text without the blanks at either end. -/
def trim (cs : List Char) : List Char := trimEnd (cs.dropWhile isBlank)

theorem length_trimEnd_le (cs : List Char) : (trimEnd cs).length ≤ cs.length := by
  simpa [trimEnd] using (List.dropWhile_sublist isBlank (l := cs.reverse)).length_le

theorem length_trim_le (cs : List Char) : (trim cs).length ≤ cs.length :=
  Nat.le_trans (length_trimEnd_le _) (List.dropWhile_sublist isBlank).length_le

@[simp] theorem trim_nil : trim [] = [] := rfl

end RequestContract.Text
