import RequestContract.Finding

/-!
# Reports and outcomes

A report is what checking a request gives: the findings, in the order in which they were made. The
request is valid if there are none. Seen as an outcome, a report combines with further ones: a
combination succeeds if both do, and else fails with the findings of both in order.
-/

namespace RequestContract

/-- The result of checking a request. -/
structure Report where
  /-- The findings in order. -/
  findings : List Finding

namespace Report

/-- The report without findings. -/
def valid : Report := ⟨[]⟩

/-- Whether there is no finding. -/
def isValid (r : Report) : Bool := r.findings.isEmpty

/-- The report as JSON. -/
def toJson (r : Report) : Json :=
  .object [("isValid", .bool r.isValid), ("errors", .array (r.findings.map Finding.toJson))]

@[simp] theorem isValid_iff {r : Report} : r.isValid = true ↔ r.findings = [] := by
  simp [isValid]

end Report

/-- Success, or failure with findings. -/
inductive Outcome where
  | success
  | failure (findings : Findings)

namespace Outcome

/-- The outcome that a report stands for. -/
def ofReport (r : Report) : Outcome :=
  match NonEmptyList.ofList? r.findings with
  | some fs => failure fs
  | none => success

/-- Whether the outcome is a success. -/
def isSuccess : Outcome → Bool
  | success => true
  | failure _ => false

/-- Both outcomes: the findings of the first come first. -/
def and : Outcome → Outcome → Outcome
  | success, o => o
  | failure fs, success => failure fs
  | failure fs, failure gs => failure (fs ++ gs)

/-- All findings of an outcome. -/
def findings : Outcome → List Finding
  | success => []
  | failure fs => fs.toList

@[simp] theorem success_and (o : Outcome) : success.and o = o := rfl

@[simp] theorem and_success (o : Outcome) : o.and success = o := by cases o <;> rfl

@[simp] theorem findings_and (o p : Outcome) : (o.and p).findings = o.findings ++ p.findings := by
  cases o <;> cases p <;> simp [findings, and]

@[simp] theorem findings_ofReport (r : Report) : (ofReport r).findings = r.findings := by
  obtain ⟨fs⟩ := r
  cases fs <;> rfl

end Outcome

end RequestContract
