import RequestContract.Report

/-!
# Contexts of a check

A check walks through a request with a context: the path of the value at hand and the findings made
so far. Going further in and coming back leaves the path as it was. A branch starts from the same
path without findings and can be joined back.
-/

namespace RequestContract

/-- The place of a check and what it has found. -/
structure Context where
  /-- The path of the value at hand. -/
  path : Path
  /-- The findings so far, in order. -/
  findings : List Finding

namespace Context

/-- The context in front of a request. -/
def start : Context := ⟨Path.root, []⟩

instance : Inhabited Context := ⟨start⟩

/-- Adds a finding at a location. -/
def reportAt (ctx : Context) (location : Location) (v : Violation) : Context :=
  { ctx with findings := ctx.findings ++ [⟨location, v⟩] }

/-- Adds a finding at the value at hand. -/
def report (ctx : Context) (v : Violation) : Context := ctx.reportAt (.within ctx.path) v

/-- The text of the positions at the end of the path. -/
def indexSuffix (ctx : Context) : String := ctx.path.indexSuffix.render

/-- Runs `act` one step further in, then goes back. -/
def descend {α : Type} (ctx : Context) (c : Path.Component) (act : Context → α × Context) :
    α × Context :=
  let (a, inner) := act { ctx with path := ctx.path.push c }
  (a, { inner with path := inner.path.truncate ctx.path.length })

/-- Runs a check one step further in, then goes back. -/
def within (ctx : Context) (c : Path.Component) (act : Context → Context) : Context :=
  (ctx.descend c fun inner => ((), act inner)).2

/-- A context at the same place without findings. -/
def branch (ctx : Context) : Context := ⟨ctx.path, []⟩

/-- Adds the findings of a branch. -/
def join (ctx : Context) (branch : Context) : Context :=
  { ctx with findings := ctx.findings ++ branch.findings }

/-- What the check has found. -/
def toReport (ctx : Context) : Report := ⟨ctx.findings⟩

/-! ### Laws -/

@[simp] theorem path_report (ctx : Context) (v : Violation) : (ctx.report v).path = ctx.path := rfl

@[simp] theorem findings_report (ctx : Context) (v : Violation) :
    (ctx.report v).findings = ctx.findings ++ [⟨.within ctx.path, v⟩] := rfl

@[simp] theorem path_join (ctx branch : Context) : (ctx.join branch).path = ctx.path := rfl

@[simp] theorem findings_join (ctx branch : Context) :
    (ctx.join branch).findings = ctx.findings ++ branch.findings := rfl

end Context

end RequestContract
