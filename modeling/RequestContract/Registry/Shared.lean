import RequestContract.Registry.Basic

/-!
# Shared registries

Several handles onto one registry. Cloning a handle adds a handle onto the same registry, with the
options of the old handle or with new ones. A handle is known by its number; the first has number 0.
-/

namespace RequestContract

/-- A registry and the options of the handles onto it. -/
structure SharedRegistry where
  /-- The registry that all handles see. -/
  registry : Registry
  /-- The options of the handles. -/
  handles : List Options
deriving Inhabited

namespace SharedRegistry

/-- An empty registry with one handle. -/
def start (o : Options) : SharedRegistry := ⟨Registry.empty, [o]⟩

/-- The options of a handle; those of no handle are the standard ones. -/
def options (s : SharedRegistry) (handle : Nat) : Options := s.handles[handle]?.getD Options.standard

/-- Registers a validator. -/
def register (s : SharedRegistry) (name : String) (v : Validator) :
    Except RegistryProblem Unit × SharedRegistry :=
  let (result, r) := s.registry.register name v
  (result, { s with registry := r })

/-- Registers a schema with the options of a handle. -/
def registerSchema (s : SharedRegistry) (handle : Nat) (name : String) (schema : Schema) :
    Except RegistryProblem Unit × SharedRegistry :=
  s.register name ⟨schema, s.options handle⟩

/-- Adds a clone of a handle, with options of its own if any are given. -/
def clone (s : SharedRegistry) (handle : Nat) (o : Option Options) : SharedRegistry :=
  { s with handles := s.handles ++ [o.getD (s.options handle)] }

end SharedRegistry

end RequestContract
