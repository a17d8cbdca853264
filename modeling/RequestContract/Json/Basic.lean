import RequestContract.OrderedMap
import RequestContract.Double.Rounding

/-!
# JSON values

A value of JSON, with the members of an object in the order of their keys' first coming. A number
is an integer or a double, as it was written; the two never mix, so `2` and `2.0` are different
values that compare alike.

A list of members may hold a key twice; `Json.DistinctKeys` says that no object of a value does.
Reading a text never gives an object with a repeated key.
-/

namespace RequestContract

/-- A number of JSON. -/
inductive Json.Number where
  /-- A number written without point and exponent. -/
  | integer (i : Int)
  /-- A number written with a point or an exponent, or too large for an integer. -/
  | real (x : Double)

/-- The double nearest to a number. -/
def Json.Number.toDouble : Json.Number → Double
  | .integer i => Double.ofInt i
  | .real x => x

/-- A value of JSON. -/
inductive Json where
  | null
  | bool (b : Bool)
  | number (n : Json.Number)
  | string (s : String)
  | array (items : List Json)
  | object (members : List (String × Json))
deriving Inhabited

namespace Json

/-- The members of an object. -/
def members? : Json → Option (List (String × Json))
  | .object ms => some ms
  | _ => none

/-- The member of an object under a key. -/
def member? (v : Json) (k : String) : Option Json :=
  match v with
  | .object ms => ms.lookup k
  | _ => none

@[simp] theorem members?_object (ms : List (String × Json)) : (object ms).members? = some ms := rfl

@[simp] theorem member?_object (ms : List (String × Json)) (k : String) :
    (object ms).member? k = ms.lookup k := rfl

mutual

/-- No object of the value holds a key twice. -/
def DistinctKeys : Json → Prop
  | .array items => DistinctKeysItems items
  | .object ms => (ms.map Prod.fst).Nodup ∧ DistinctKeysMembers ms
  | _ => True

/-- No object of the items holds a key twice. -/
def DistinctKeysItems : List Json → Prop
  | [] => True
  | v :: vs => DistinctKeys v ∧ DistinctKeysItems vs

/-- No object of the members' values holds a key twice. -/
def DistinctKeysMembers : List (String × Json) → Prop
  | [] => True
  | (_, v) :: ms => DistinctKeys v ∧ DistinctKeysMembers ms

end

end Json

end RequestContract
