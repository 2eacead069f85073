import ClassChart.Proofs.List.FirstSeen
import ClassChart.Signature.References
import Mathlib.Data.List.Induction

/-! What is left of the names in a type text. Which of them are added depends on those that were added
before, but it comes to the surviving occurrences with each name at the first of them. -/
namespace ClassChart.Signature
variable {rules : NameRules} {occurrence : String × String}

/-- The occurrence is not left out, wherever it stands. -/
def survives (rules : NameRules) (occurrence : String × String) : Bool :=
  !Names.isPrimitive occurrence.1 &&
    !(rules.excludeSystem && isSystem rules occurrence.1 occurrence.2)

theorem addName_of_survives (h : survives rules occurrence = true) (names : List String) :
    addName rules names occurrence =
      names ++ if occurrence.1 ∈ names then [] else [occurrence.1] := by
  rw [survives, Bool.and_eq_true, Bool.not_eq_true', Bool.not_eq_true'] at h
  rw [addName, h.1, h.2]
  by_cases hmem : occurrence.1 ∈ names <;> simp [hmem]

theorem addName_of_dropped (h : survives rules occurrence = false) (names : List String) :
    addName rules names occurrence = names := by
  rw [survives, Bool.and_eq_false_iff, Bool.not_eq_false', Bool.not_eq_false'] at h
  rw [addName]
  obtain hprimitive | hsystem := h
  · rw [hprimitive, Bool.or_true, if_pos rfl]
  · rw [hsystem, if_pos rfl, ite_self]

theorem foldl_addName (rules : NameRules) (occurrences : List (String × String)) :
    occurrences.foldl (addName rules) [] =
      ((occurrences.filter (survives rules)).map (·.1)).eraseDups := by
  induction occurrences using List.reverseRecOn with
  | nil => rfl
  | append_singleton earlier occurrence ih =>
    rw [List.foldl_append, List.foldl_cons, List.foldl_nil, ih, List.filter_append, List.map_append]
    cases h : survives rules occurrence with
    | true =>
      rw [addName_of_survives h, List.filter_singleton, h, cond_true, List.map_singleton,
        eraseDups_concat]
      simp only [List.mem_eraseDups]
    | false =>
      rw [addName_of_dropped h, List.filter_singleton, h, cond_false, List.map_nil, List.append_nil]

theorem referencesIn_eq (rules : NameRules) (e : TypeExpr) :
    referencesIn rules e =
      ⟨e.container?, ((e.occurrences.filter (survives rules)).map (·.1)).eraseDups⟩ := by
  rw [referencesIn, foldl_addName]

end ClassChart.Signature
