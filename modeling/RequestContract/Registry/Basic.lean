import RequestContract.Validator

/-!
# Registries

A registry keeps validators under names. The first registration of a name stands: a later one fails
and changes nothing. Handles onto one registry see the same validators; each has its own options for
the schemas registered through it.
-/

namespace RequestContract

/-- A registration or a look-up that fails. -/
inductive RegistryProblem where
  /-- The name is taken. -/
  | duplicateName (name : String)
  /-- Nothing is registered under the name. -/
  | notFound (name : String)
deriving DecidableEq

/-- The wording of a problem. -/
def RegistryProblem.message : RegistryProblem → String
  | duplicateName n => "schema '" ++ n ++ "' already registered"
  | notFound n => "schema '" ++ n ++ "' not found"

/-- Validators under names. -/
structure Registry where
  /-- The validators, in the order of registration. -/
  validators : OrderedMap Validator

namespace Registry

/-- The registry without validators. -/
def empty : Registry := ⟨OrderedMap.empty⟩

instance : Inhabited Registry := ⟨empty⟩

/-- The validator of a name. -/
def get? (r : Registry) (name : String) : Option Validator := r.validators.get? name

/-- Whether a name is taken. -/
def contains (r : Registry) (name : String) : Bool := r.validators.contains name

/-- The number of names. -/
def size (r : Registry) : Nat := r.validators.size

/-- Whether no name is taken. -/
def isEmpty (r : Registry) : Bool := r.validators.isEmpty

/-- The names in increasing order. -/
def names (r : Registry) : List String := r.validators.keys.mergeSort fun a b => a ≤ b

/-- Registers a validator under a name, unless the name is taken, and gives the registry after
that. -/
def register (r : Registry) (name : String) (v : Validator) :
    Except RegistryProblem Unit × Registry :=
  if r.contains name then (.error (.duplicateName name), r)
  else (.ok (), ⟨r.validators.insert name v⟩)

/-- Checks a request with the validator of a name. -/
def validate (r : Registry) (name : String) (request : Request) : Except RegistryProblem Report :=
  match r.get? name with
  | some v => .ok (v.validate request)
  | none => .error (.notFound name)

theorem get?_register_self {r s : Registry} {name : String} {v : Validator}
    (h : r.register name v = (.ok (), s)) : s.get? name = some v := by
  unfold register at h
  split at h
  · cases h
  · cases h
    simp [get?]

theorem get?_register_of_ne {name other : String} (hne : other ≠ name) (r : Registry)
    (v : Validator) : (r.register name v).2.get? other = r.get? other := by
  unfold register
  split
  · rfl
  · exact OrderedMap.get?_insert_of_ne hne r.validators v

/-- A registration that fails leaves the registry as it is. -/
theorem register_of_error {r s : Registry} {name : String} {v : Validator} {p : RegistryProblem}
    (h : r.register name v = (.error p, s)) : s = r := by
  unfold register at h
  split at h
  · cases h
    rfl
  · cases h

end Registry

end RequestContract
