import ClassChart.Proofs.Build.Run
import ClassChart.Proofs.Chart.Contents

/-! Two runs side by side. Where the groups of two runs come pairwise to related outlines, or neither
comes to one, the boxes of the runs are related pairwise too. Whether a group comes to an outline
depends on the kind of its first declaration and on the faults of its members. -/
namespace ClassChart.Build
variable {rules rules' : MergeRules} {gs gs' : List Group} {p p' : Progress}
  {R : Outline → Outline → Prop}

theorem outline?_described (rules : MergeRules) (q : String) (first : Declaration)
    (rest : List Declaration) :
    outline? rules (q, first :: rest) = (TypeKind.ofText? first.kind).bind fun kind =>
      if faultOf? rules.floor kind (kept (first :: rest)) = none then
        some (described rules kind first (rest.filter (joins first)))
      else none := by
  unfold outline? kept
  cases hkind : TypeKind.ofText? first.kind with
  | none =>
    rw [merge_unknownKind hkind]
    rfl
  | some kind =>
    cases hfault : faultOf? rules.floor kind (first :: rest.filter (joins first)) with
    | none =>
      rw [merge_described hkind hfault]
      simp [Except.toOption, hfault]
    | some e =>
      rw [merge_fault hkind hfault]
      simp [Except.toOption, hfault]

theorem outline?_rel (q q' : String) (first : Declaration) {rest rest' : List Declaration}
    (hfault : ∀ kind, faultOf? rules.floor kind (kept (first :: rest)) = none ↔
      faultOf? rules'.floor kind (kept (first :: rest')) = none)
    (hR : ∀ kind, R (described rules kind first (rest.filter (joins first)))
      (described rules' kind first (rest'.filter (joins first)))) :
    Option.Rel R (outline? rules (q, first :: rest)) (outline? rules' (q', first :: rest')) := by
  rw [outline?_described, outline?_described]
  cases TypeKind.ofText? first.kind with
  | none => exact .none
  | some kind =>
    simp only [Option.bind_some, hfault]
    split
    · exact .some (hR kind)
    · exact .none

section
variable (hR : ∀ o o', R o o' → o.name = o'.name)
  (hgs : List.Forall₂ (fun g g' => Option.Rel R (outline? rules g) (outline? rules' g')) gs gs')
include hR hgs

theorem forall₂_outlines :
    List.Forall₂ R (firstBy Outline.name [] (gs.filterMap (outline? rules)))
      (firstBy Outline.name [] (gs'.filterMap (outline? rules'))) :=
  forall₂_firstBy hR [] (List.rel_filterMap (fun _ _ hg => hg) hgs)

theorem holder?_rel (name : String) :
    Option.Rel R (holder? rules gs name) (holder? rules' gs' name) := by
  refine find?_of_forall₂ (List.rel_filterMap (fun _ _ hg => hg) hgs) fun o o' ho => ?_
  rw [hR o o' ho]

theorem Reached.forall₂_boxes (h : Reached rules gs p) (h' : Reached rules' gs' p') :
    List.Forall₂ (fun b b' => R b.outline b'.outline) p.chart.boxes p'.chart.boxes := by
  have houtlines := forall₂_outlines hR hgs
  rwa [← h.outlines, ← h'.outlines, List.forall₂_map_left_iff, List.forall₂_map_right_iff]
    at houtlines

end

theorem forall₂_turns (hR : ∀ o o', R o o' → o.name = o'.name) (earlier gs : List Group)
    (h : ∀ g ∈ earlier ++ gs, Option.Rel R (outline? rules g) (outline? rules' g)) :
    List.Forall₂ (fun t t' => t.2 = t'.2 ∧ Option.Rel R t.1 t'.1) (turns rules earlier gs)
      (turns rules' earlier gs) := by
  induction gs generalizing earlier with
  | nil => exact .nil
  | cons g rest ih =>
    have hearlier : List.Forall₂ (fun g g' => Option.Rel R (outline? rules g) (outline? rules' g'))
        earlier earlier :=
      List.forall₂_same.mpr fun g hg => h g (List.mem_append_left _ hg)
    refine .cons ⟨rfl, holder?_rel hR hearlier (nameOf g)⟩ (ih _ ?_)
    rwa [List.append_assoc]

end ClassChart.Build
