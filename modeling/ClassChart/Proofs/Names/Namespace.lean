import ClassChart.Names.Namespace
import ClassChart.Proofs.Text.Pieces

/-! Namespaces compared by their segments. An empty text has one segment, which is empty, and so have
dots at an end or side by side: a head of that form asks for empty segments. -/
namespace ClassChart.Names
open Text

variable {scope head : String} {heads : List String}

theorem isUnder_iff : isUnder scope head = true ↔ segments head <+: segments scope := by
  rw [isUnder, Bool.or_eq_true, beq_iff_eq, List.isPrefixOf_iff_prefix, segments_prefix_iff]

theorem isUnderAny_iff :
    isUnderAny scope heads = true ↔ ∃ head ∈ heads, segments head <+: segments scope := by
  simp only [isUnderAny, List.any_eq_true, isUnder_iff]

/-- A namespace lies under one of some heads exactly if its segments start with those of the head. With
more heads it still does, and so does every namespace inside it. -/
theorem under_by_segments (scope : String) (heads : List String) :
    (isUnderAny scope heads = true ↔ ∃ head ∈ heads, segments head <+: segments scope) ∧
      (∀ more, heads ⊆ more → isUnderAny scope heads = true → isUnderAny scope more = true) ∧
      ∀ inner, isUnderAny scope heads = true → isUnderAny (scope ++ "." ++ inner) heads = true := by
  refine ⟨isUnderAny_iff, fun more hmore hunder => ?_, fun inner hunder => ?_⟩
  · obtain ⟨head, hhead, hsegments⟩ := isUnderAny_iff.mp hunder
    exact isUnderAny_iff.mpr ⟨head, hmore hhead, hsegments⟩
  · obtain ⟨head, hhead, hsegments⟩ := isUnderAny_iff.mp hunder
    rw [isUnderAny_iff, segments_append_dot]
    exact ⟨head, hhead, hsegments.trans (List.prefix_append _ _)⟩

/-- A head with a dot at its start lies over a namespace that starts with one, and so over all that is
inside. -/
theorem under_by_segments_of_dotted :
    ([".Core"] ⊆ ["System", ".Core"] ∧ isUnderAny ".Core." [".Core"] = true) ∧
      isUnderAny ".Core." ["System", ".Core"] = true ∧
      isUnderAny ".Core..Text" [".Core"] = true := by
  have hmore : [".Core"] ⊆ ["System", ".Core"] := by decide
  have hunder : isUnderAny ".Core." [".Core"] = true := by decide
  obtain ⟨_, hmono, hinner⟩ := under_by_segments ".Core." [".Core"]
  exact ⟨⟨hmore, hunder⟩, hmono _ hmore hunder, hinner "Text" hunder⟩

example : isUnderAny "System.IO" ["System"] = true ∧ isUnderAny "Systemic" ["System"] = false := by
  decide

end ClassChart.Names
