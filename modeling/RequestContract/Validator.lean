import RequestContract.Check.Content
import RequestContract.Options
import RequestContract.Request

/-!
# Validators

A validator is a schema with options. It checks the declared categories of a request one after the
other: a category that is missing is reported as such, a category that is there goes through the
structural check and, if the options ask for it, through the content check.
-/

namespace RequestContract

/-- A schema with options. -/
structure Validator where
  /-- The schema. -/
  schema : Schema
  /-- The options. -/
  options : Options
deriving Inhabited

namespace Validator

/-- Checks the members of a category. -/
def checkPart (v : Validator) (r : RecordType) (ms : List (String × Json)) : Check := fun ctx =>
  let checked := v.schema.checkObject v.options.nestedCoverage .strict r ms ctx
  if v.options.sanitize then checked.join (v.schema.sanitizeObject r ms checked.branch) else checked

/-- Checks a category of a request. -/
def checkCategory (v : Validator) (request : Request) (c : Category) (r : RecordType) : Check :=
  Check.inside (.property c.name) fun ctx =>
    match request.category c with
    | some ms => v.checkPart r ms ctx
    | none => ctx.reportAt .request (.rootMissing c)

/-- Checks a request. -/
def validate (v : Validator) (request : Request) : Report :=
  (Check.inOrder (v.schema.roots.map fun e => v.checkCategory request e.1 e.2)
    Context.start).toReport

/-- Checks requests one after the other. -/
def validateAll (v : Validator) (requests : List Request) : List Report := requests.map v.validate

end Validator

end RequestContract
