/-!
# Numbered lines
-/

namespace RequestContract.Text

/-- The texts on lines of their own, numbered from `n` on. -/
def numberedLines (n : Nat) : List String → String
  | [] => ""
  | t :: ts => "  " ++ toString n ++ ". " ++ t ++ "\n" ++ numberedLines (n + 1) ts

@[simp] theorem numberedLines_nil (n : Nat) : numberedLines n [] = "" := rfl

@[simp] theorem numberedLines_cons (n : Nat) (t : String) (ts : List String) :
    numberedLines n (t :: ts)
      = "  " ++ toString n ++ ". " ++ t ++ "\n" ++ numberedLines (n + 1) ts := rfl

end RequestContract.Text
