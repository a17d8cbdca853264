import Mathlib.Data.List.Induction
import Mathlib.Tactic.Lemma
import RequestContract.Report

/-!
# Combining reports

Reports are combined by way of their outcomes, one after the other, or some of them first and the
results later. `ofReports_take` says what comes of it at each point: a success if all reports so far
are valid, else a failure with all their findings in order, however they were grouped.

An outcome is known by its findings (`Outcome.findings_injective`), and combining outcomes appends
their findings, so all of this is about lists.
-/

namespace RequestContract

namespace Outcome

/-- The outcomes of reports combined one after the other, from that of a report without findings. -/
def ofReports (rs : List Report) : Outcome :=
  rs.foldl (fun o r => o.and (ofReport r)) (ofReport .valid)

/-- A way to combine reports, each part before the next: from a report without findings, with one
report, or with what has been combined before. -/
inductive Grouping where
  | start
  | report (r : Report)
  | both (first second : Grouping)

/-- The reports of a grouping in order. -/
def Grouping.reports : Grouping → List Report
  | start => []
  | report r => [r]
  | both g h => g.reports ++ h.reports

/-- What comes of combining reports in this way. -/
def Grouping.outcome : Grouping → Outcome
  | start => ofReport .valid
  | report r => ofReport r
  | both g h => g.outcome.and h.outcome

variable {o p : Outcome} {rs : List Report}

/-! ### Findings -/

lemma findings_injective (h : o.findings = p.findings) : o = p := by
  cases o with
  | success =>
    cases p with
    | success => rfl
    | failure gs => cases h
  | failure fs =>
    cases p with
    | success => cases h
    | failure gs =>
      have hs := NonEmptyList.ofList?_toList gs
      rw [findings, findings] at h
      rw [← h, NonEmptyList.ofList?_toList, Option.some.injEq] at hs
      rw [hs]

lemma findings_inj : o.findings = p.findings ↔ o = p :=
  ⟨findings_injective, congrArg findings⟩

/-- One more report. -/
lemma ofReports_concat (rs : List Report) (r : Report) :
    ofReports (rs ++ [r]) = (ofReports rs).and (ofReport r) := by
  rw [ofReports, List.foldl_append]
  rfl

lemma findings_ofReports (rs : List Report) :
    (ofReports rs).findings = rs.flatMap Report.findings := by
  induction rs using List.reverseRecOn with
  | nil => rfl
  | append_singleton rs r ih =>
    rw [ofReports_concat, findings_and, findings_ofReport, ih, List.flatMap_append,
      List.flatMap_singleton]

lemma Grouping.findings_outcome (g : Grouping) :
    g.outcome.findings = g.reports.flatMap Report.findings := by
  induction g with
  | start => rfl
  | report r => rw [outcome, findings_ofReport, reports, List.flatMap_singleton]
  | both g h ihg ihh => rw [outcome, findings_and, ihg, ihh, reports, List.flatMap_append]

lemma all_isValid_iff : rs.all Report.isValid = true ↔ rs.flatMap Report.findings = [] := by
  simp only [List.all_eq_true, Report.isValid_iff, List.flatMap_eq_nil_iff]

/-! ### What comes of it -/

/-- After any number of reports, the outcome is a success if all of them are valid, and else a
failure with the findings of all of them, in order. However reports are grouped, the same comes of
it as of taking them one after the other. -/
theorem ofReports_take (rs : List Report) (k : Nat) :
    (ofReports (rs.take k) = success ↔ (rs.take k).all Report.isValid = true) ∧
    (∀ fs, ofReports (rs.take k) = failure fs ↔
      fs.toList = (rs.take k).flatMap Report.findings) ∧
    ∀ g : Grouping, g.outcome = ofReports g.reports := by
  have hfindings := findings_ofReports (rs.take k)
  refine ⟨?_, fun fs => ?_, fun g => findings_injective ?_⟩
  · rw [← findings_inj, hfindings, all_isValid_iff]
    rfl
  · rw [← findings_inj, hfindings]
    exact eq_comm
  · rw [g.findings_outcome, findings_ofReports]

end Outcome

end RequestContract
