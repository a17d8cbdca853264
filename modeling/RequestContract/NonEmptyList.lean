/-!
# Lists with at least one element

What a failure carries: one problem at least, and all of them in order.
-/

namespace RequestContract

variable {α : Type}

/-- A list that is not empty. -/
structure NonEmptyList (α : Type) where
  /-- The first element. -/
  first : α
  /-- The elements after the first. -/
  rest : List α
deriving BEq, DecidableEq

namespace NonEmptyList

/-- All the elements in order. -/
def toList (l : NonEmptyList α) : List α := l.first :: l.rest

/-- The list with one element. -/
def single (a : α) : NonEmptyList α := ⟨a, []⟩

/-- The list with the given elements, if there are any. -/
def ofList? : List α → Option (NonEmptyList α)
  | [] => none
  | a :: as => some ⟨a, as⟩

/-- The number of elements. -/
def size (l : NonEmptyList α) : Nat := l.toList.length

/-- The elements of the first list, then those of the second. -/
def append (l m : NonEmptyList α) : NonEmptyList α := ⟨l.first, l.rest ++ m.toList⟩

instance : Append (NonEmptyList α) := ⟨append⟩

@[simp] theorem toList_single (a : α) : (single a).toList = [a] := rfl

@[simp] theorem toList_append (l m : NonEmptyList α) :
    (l ++ m).toList = l.toList ++ m.toList := rfl

theorem ofList?_eq_some_iff {as : List α} {l : NonEmptyList α} :
    ofList? as = some l ↔ as = l.toList := by
  cases as <;> cases l <;> simp [ofList?, toList]

@[simp] theorem ofList?_eq_none_iff {as : List α} : ofList? as = none ↔ as = [] := by
  cases as <;> simp [ofList?]

@[simp] theorem ofList?_toList (l : NonEmptyList α) : ofList? l.toList = some l := rfl

end NonEmptyList

end RequestContract
