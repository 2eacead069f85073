import ClassChart.Proofs.Chart.Relations

/-! Links by the names of their ends. Which links a chart has under which names depends only on the
names of its boxes and on the names that its outlines mention. So a chart whose outlines mention less
has fewer links, and one whose outlines mention the same supertypes has the same links to them. -/
namespace ClassChart

/-- The names that an outline mentions, by the kind of link that they call for. -/
def Outline.mentions (o : Outline) : LinkKind → List String
  | .inheritance => (o.base.filter (· ≠ "")).toList
  | .implementation => o.interfaces
  | .dependency => o.members.flatMap (·.references)

def linkKinds (suppress : Bool) : List LinkKind :=
  [.inheritance, .implementation] ++ if suppress then [] else [.dependency]

namespace Chart
variable {chart chart' : Chart} {b : Box} {suppress : Bool}

theorem linksOf_eq (chart : Chart) (suppress : Bool) (b : Box) :
    chart.linksOf suppress b =
      (linkKinds suppress).flatMap fun kind => chart.linksTo b kind (b.outline.mentions kind) := by
  cases suppress with
  | true => simp [linksOf, linkKinds, Outline.mentions]
  | false => simp [linksOf, linkKinds, Outline.mentions]

def called (chart : Chart) (b : Box) (names : List String) : List String :=
  names.eraseDups.filter fun name => chart.contains name && decide (name ≠ b.name)

theorem other?_name (chart : Chart) (b : Box) (name : String) :
    (chart.other? b name).map Box.name =
      if chart.contains name && decide (name ≠ b.name) then some name else none := by
  unfold other? contains
  cases hbox : chart.box? name with
  | none => rfl
  | some target =>
    obtain rfl : target.name = name := (box?_eq_some hbox).2
    by_cases hself : target.name = b.name
    · simp [Option.filter, hself]
    · simp [Option.filter, hself]

theorem linksTo_keys (chart : Chart) (b : Box) (kind : LinkKind) (names : List String) :
    (chart.linksTo b kind names).map Link.key =
      (chart.called b names).map fun name => (b.name, name, kind) := by
  have hnames : ∀ ns : List String, (ns.filterMap (chart.other? b)).map Box.name =
      ns.filter fun name => chart.contains name && decide (name ≠ b.name) := by
    intro ns
    rw [List.map_filterMap]
    induction ns with
    | nil => rfl
    | cons name rest ih =>
      rw [List.filterMap_cons, List.filter_cons, other?_name, ih]
      cases chart.contains name && decide (name ≠ b.name) <;> rfl
  rw [called, ← hnames, linksTo, List.map_map, List.map_map]
  rfl

theorem relations_keys (hd : chart.Distinct) (suppress : Bool) :
    (chart.relations suppress).map Link.key = chart.boxes.flatMap fun b =>
      (linkKinds suppress).flatMap fun kind =>
        (chart.called b (b.outline.mentions kind)).map fun name => (b.name, name, kind) := by
  rw [relations_eq hd, List.map_flatMap]
  refine List.flatMap_congr fun b _ => ?_
  rw [linksOf_eq, List.map_flatMap]
  exact List.flatMap_congr fun kind _ => linksTo_keys ..

theorem mem_relations_keys (hd : chart.Distinct) {source target : String} {kind : LinkKind} :
    (source, target, kind) ∈ (chart.relations suppress).map Link.key ↔
      kind ∈ linkKinds suppress ∧ chart.contains target = true ∧ target ≠ source ∧
        ∃ b ∈ chart.boxes, b.name = source ∧ target ∈ b.outline.mentions kind := by
  rw [relations_keys hd]
  simp only [List.mem_flatMap, List.mem_map, called, List.mem_filter, List.mem_eraseDups,
    Bool.and_eq_true, decide_eq_true_eq, Prod.mk.injEq]
  constructor
  · rintro ⟨b, hb, kind, hkind, name, ⟨hmention, hcontains, hne⟩, rfl, rfl, rfl⟩
    exact ⟨hkind, hcontains, hne, b, hb, rfl, hmention⟩
  · rintro ⟨hkind, hcontains, hne, b, hb, rfl, hmention⟩
    exact ⟨b, hb, kind, hkind, target, ⟨hmention, hcontains, hne⟩, rfl, rfl, rfl⟩

theorem filter_candidates (chart : Chart) (suppress : Bool) (b : Box) :
    (chart.candidates suppress b).filter (·.kind ≠ .dependency) = chart.candidates true b := by
  have hkept {kind : LinkKind} (hkind : kind ≠ .dependency) (names : List String) :
      (names.filterMap (chart.linkTo b kind)).filter (·.kind ≠ .dependency) =
        names.filterMap (chart.linkTo b kind) := by
    refine List.filter_eq_self.mpr fun l hl => ?_
    rw [kind_of_mem hl]
    exact decide_eq_true hkind
  have hleft : (chart.dependencies b [] b.outline.referenceNames).filter
      (·.kind ≠ .dependency) = [] := by
    refine List.filter_eq_nil_iff.mpr fun l hl => ?_
    simp [kind_of_mem (mem_of_mem_dependencies hl)]
  rw [candidates, candidates, List.filter_append, List.filter_append, hkept (by decide),
    hkept (by decide)]
  cases suppress with
  | true => rfl
  | false => exact congrArg (_ ++ ·) hleft

/-- To suppress the dependencies is to leave them out. The kind of a link is part of its key, so a
dependency never stands in for a link of another kind. -/
theorem filter_relations_dependency (chart : Chart) (suppress : Bool) :
    (chart.relations suppress).filter (·.kind ≠ .dependency) = chart.relations true := by
  have hcommute (ls : List Link) :
      (firstBy Link.key [] ls).filter (fun l => l.key.2.2 ≠ .dependency) =
        firstBy Link.key [] (ls.filter fun l => l.key.2.2 ≠ .dependency) :=
    filter_firstBy (fun key : String × String × LinkKind => key.2.2 ≠ .dependency) [] ls
  rw [relations, relations, firstOfKey_eq, firstOfKey_eq]
  calc (firstBy Link.key [] (chart.boxes.flatMap (chart.candidates suppress))).filter
        (·.kind ≠ .dependency)
      = firstBy Link.key [] ((chart.boxes.flatMap (chart.candidates suppress)).filter
          (·.kind ≠ .dependency)) := hcommute _
    _ = firstBy Link.key [] (chart.boxes.flatMap (chart.candidates true)) := by
        rw [List.filter_flatMap]
        exact congrArg _ (List.flatMap_congr fun b _ => filter_candidates chart suppress b)

/- Two charts with boxes of the same names, in the same order. -/
section
variable {R : Outline → Outline → Prop}
  (h : List.Forall₂ (fun b b' => R b.outline b'.outline) chart.boxes chart'.boxes)
  (hR : ∀ o o', R o o' → o.name = o'.name)
include h hR

theorem contains_eq : chart.contains = chart'.contains := by
  have hnames : chart.boxes.map Box.name = chart'.boxes.map Box.name :=
    forall₂_map_eq_iff.mp (h.imp fun _ _ hb => hR _ _ hb)
  funext name
  rw [Bool.eq_iff_iff, contains_iff, contains_iff, hnames]

theorem relations_keys_subset (hd : chart.Distinct) (hd' : chart'.Distinct) (kind : LinkKind)
    (hmentions : ∀ o o', R o o' → o.mentions kind ⊆ o'.mentions kind) (suppress : Bool) :
    ∀ l ∈ chart.relations suppress, l.kind = kind →
      l.key ∈ (chart'.relations suppress).map Link.key := by
  rintro l hl rfl
  have hkey : l.key ∈ (chart.relations suppress).map Link.key := List.mem_map_of_mem hl
  obtain ⟨hkind, hcontains, hne, b, hb, hname, hmention⟩ := (mem_relations_keys hd).mp hkey
  obtain ⟨b', hb', hrelated⟩ := exists_of_forall₂ h hb
  refine (mem_relations_keys hd').mpr ⟨hkind, ?_, hne, b', hb', ?_, ?_⟩
  · rwa [← contains_eq h hR]
  · exact (hR _ _ hrelated).symm.trans hname
  · exact hmentions _ _ hrelated hmention

theorem supertype_keys_eq (hd : chart.Distinct) (hd' : chart'.Distinct)
    (hmentions : ∀ o o', R o o' → ∀ kind ∈ linkKinds true, o.mentions kind = o'.mentions kind)
    (suppress : Bool) :
    ((chart.relations suppress).filter (·.kind ≠ .dependency)).map Link.key =
      ((chart'.relations suppress).filter (·.kind ≠ .dependency)).map Link.key := by
  have hcontains := contains_eq h hR
  rw [filter_relations_dependency, filter_relations_dependency, relations_keys hd,
    relations_keys hd']
  refine flatMap_eq_of_forall₂ h fun b b' hb => List.flatMap_congr fun kind hkind => ?_
  have hname : b.name = b'.name := hR _ _ hb
  rw [called, called, hcontains, hname, hmentions _ _ hb kind hkind]

end

end Chart
end ClassChart
