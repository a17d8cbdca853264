import RequestContract.Json.Literal

/-!
# Drafts

A draft is a JSON text cut into a tree, however deep, and whether or not the text is right. Each
fault keeps its place: a leaf that cannot be made out is a `fault`, and a list or an object says how
it ends. Whoever walks a draft in the order of the text meets the faults in the order in which the
text has them, and may turn away before meeting one.
-/

namespace RequestContract.Json

/-- A JSON text as a tree, faults included. -/
inductive Draft where
  | null
  | bool (b : Bool)
  | number (l : NumberLiteral)
  | string (l : StringLiteral)
  /-- The items and, unless a bracket closes the list, the fault at its end. -/
  | array (items : List Draft) (ending : Option Fault)
  /-- The members and, unless a brace closes the object, the fault at its end. -/
  | object (members : List (StringLiteral × Draft)) (ending : Option Fault)
  | fault (f : Fault)

/-- A text as a draft and the fault after it. -/
structure Document where
  /-- The value of the text. -/
  draft : Draft
  /-- What is wrong after the value: more text, or what has stopped the reading. -/
  ending : Option Fault

/-- Success unless there is a fault. -/
def endOk : Option Fault → Except Fault Unit
  | none => .ok ()
  | some f => .error f

@[simp] theorem endOk_none : endOk none = .ok () := rfl

@[simp] theorem endOk_some (f : Fault) : endOk (some f) = .error f := rfl

namespace Draft

/-! ### Reading a value -/

mutual

/-- The value of a draft, or its first fault. -/
def read : Draft → Except Fault Json
  | .null => .ok .null
  | .bool b => .ok (.bool b)
  | .number l => .number <$> l.value
  | .string l => .string <$> l.value
  | .array items ending => .array <$> readItems ending items
  | .object ms ending => .object <$> readMembers ending [] ms
  | .fault f => .error f

/-- The values of the items. -/
def readItems (ending : Option Fault) : List Draft → Except Fault (List Json)
  | [] => (fun _ => []) <$> endOk ending
  | d :: ds => do
    let v ← read d
    let vs ← readItems ending ds
    return v :: vs

/-- The members, put one after the other into those read so far: of the values under one key the
last counts. -/
def readMembers (ending : Option Fault) (soFar : List (String × Json)) :
    List (StringLiteral × Draft) → Except Fault (List (String × Json))
  | [] => (fun _ => soFar) <$> endOk ending
  | (l, d) :: ds => do
    let k ← l.value
    let v ← read d
    readMembers ending (putEntry k v soFar) ds

end

/-! ### Passing over a value -/

mutual

/-- The first fault that passing over a draft meets. The values of literals are not asked for. -/
def skipFault : Draft → Option Fault
  | .string l => l.fault
  | .array items ending => skipFaultItems ending items
  | .object ms ending => skipFaultMembers ending ms
  | .fault f => some f
  | _ => none

/-- The first fault among items. -/
def skipFaultItems (ending : Option Fault) : List Draft → Option Fault
  | [] => ending
  | d :: ds => (skipFault d).or (skipFaultItems ending ds)

/-- The first fault among members. -/
def skipFaultMembers (ending : Option Fault) : List (StringLiteral × Draft) → Option Fault
  | [] => ending
  | (l, d) :: ds => l.fault.or ((skipFault d).or (skipFaultMembers ending ds))

end

end Draft

/-- The value of a document, or its first fault. -/
def Document.read (doc : Document) : Except Fault Json := do
  let v ← doc.draft.read
  endOk doc.ending
  return v

end RequestContract.Json
