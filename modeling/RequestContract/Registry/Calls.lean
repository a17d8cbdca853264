import RequestContract.Registry.Shared

/-!
# Calls on a shared registry

What is asked of a registry through one of its handles, and what is answered. Each call takes effect
as a whole, so whatever is done with a registry, through however many handles, is a run: a list of
calls, one after the other.
-/

namespace RequestContract

namespace SharedRegistry

/-- What is asked of a registry. -/
inductive Operation where
  /-- To register a validator. -/
  | register (name : String) (v : Validator)
  /-- To register a schema with the options of the handle. -/
  | registerSchema (name : String) (schema : Schema)
  /-- For another handle. -/
  | clone
  /-- That the handle has other options from now on. -/
  | withOptions (o : Options)
  | get (name : String)
  | contains (name : String)
  | names
  | size
  | validate (name : String) (request : Request)

/-- The name that is to be registered. -/
def Operation.newName? : Operation → Option String
  | register n _ => some n
  | registerSchema n _ => some n
  | _ => none

/-- An operation that is asked for through a handle. -/
structure Call where
  /-- The number of the handle. -/
  handle : Nat
  /-- What is asked. -/
  operation : Operation

/-- What a registry answers. -/
inductive Answer where
  | registered
  | failed (problem : RegistryProblem)
  /-- The number of a new handle. -/
  | handle (number : Nat)
  /-- The handle has the options that it was given. -/
  | optionsSet
  /-- The validator of a name, if the name is taken. -/
  | validator (v : Option Validator)
  /-- Whether a name is taken. -/
  | contained (b : Bool)
  | names (ns : List String)
  | size (n : Nat)
  | report (r : Report)

/-- A call and its answer. -/
structure Event where
  /-- The call. -/
  call : Call
  /-- What was answered. -/
  answer : Answer

/-- Gives other options to a handle. -/
def withOptions (s : SharedRegistry) (handle : Nat) (o : Options) : SharedRegistry :=
  { s with handles := s.handles.set handle o }

/-- A clone with options of its own is a clone that is given options. -/
theorem clone_some (s : SharedRegistry) (handle : Nat) (o : Options) :
    s.clone handle (some o) = (s.clone handle none).withOptions s.handles.length o := by
  simp [clone, withOptions]

/-- The answer to a registration. -/
def Answer.ofRegistration : Except RegistryProblem Unit → Answer
  | .ok () => registered
  | .error p => failed p

/-- One call: the answer, and the registry after it. -/
def step (s : SharedRegistry) (c : Call) : Answer × SharedRegistry :=
  match c.operation with
  | .register n v =>
    let (result, s') := s.register n v
    (.ofRegistration result, s')
  | .registerSchema n schema =>
    let (result, s') := s.registerSchema c.handle n schema
    (.ofRegistration result, s')
  | .clone => (.handle s.handles.length, s.clone c.handle none)
  | .withOptions o => (.optionsSet, s.withOptions c.handle o)
  | .get n => (.validator (s.registry.get? n), s)
  | .contains n => (.contained (s.registry.contains n), s)
  | .names => (.names s.registry.names, s)
  | .size => (.size s.registry.size, s)
  | .validate n request =>
    match s.registry.validate n request with
    | .ok r => (.report r, s)
    | .error p => (.failed p, s)

/-- Calls one after the other: what was called and answered, and the registry after them. -/
def run (s : SharedRegistry) : List Call → List Event × SharedRegistry
  | [] => ([], s)
  | c :: cs =>
    let (a, s') := s.step c
    let (es, s'') := s'.run cs
    (⟨c, a⟩ :: es, s'')

end SharedRegistry

end RequestContract
