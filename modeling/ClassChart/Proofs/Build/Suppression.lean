import ClassChart.Proofs.Build.Run
import ClassChart.Proofs.Chart.Mentions

/-! Suppressing the dependencies. A build that suppresses them comes to the same boxes and notes as
one that does not, and its links are those of the other one less the dependencies, in their order. -/
namespace ClassChart.Build

def Report.withoutDependencies (r : Report) : Report :=
  { r with chart := { r.chart with links := r.chart.links.filter (·.kind ≠ .dependency) } }

theorem progress_suppressing (s : Settings) (units : List SourceUnit) (suppress : Bool) :
    progress { s with ignoreDependencies := suppress } units = progress s units := rfl

theorem report_suppressing {s : Settings} {before : List Diagnostic} {units : List SourceUnit}
    {r : Report} (h : report { s with ignoreDependencies := false } before units = .ok r) :
    report { s with ignoreDependencies := true } before units = .ok r.withoutDependencies := by
  rw [report_eq, progress_suppressing] at h ⊢
  obtain rfl := Except.ok.inj h
  have hlinks := Chart.filter_relations_dependency (progress s units).chart false
  simp only [Report.withoutDependencies, hlinks]

/-- To suppress dependencies is to filter them out: of the links of any chart, and of the report of
any build, which stays as it is otherwise. -/
theorem suppression_filters_dependencies :
    (∀ chart : Chart,
      chart.relations true = (chart.relations false).filter (·.kind ≠ .dependency)) ∧
    ∀ (s : Settings) (units : List SourceUnit), ∃ r,
      ((Session.new { s with ignoreDependencies := false }).buildUnits units).2 = .ok r ∧
      ((Session.new { s with ignoreDependencies := true }).buildUnits units).2 =
        .ok r.withoutDependencies := by
  refine ⟨fun chart => (chart.filter_relations_dependency false).symm, fun s units => ?_⟩
  have hreport := report_eq { s with ignoreDependencies := false } [] units
  exact ⟨_, buildUnits_new hreport, buildUnits_new (report_suppressing hreport)⟩

end ClassChart.Build
