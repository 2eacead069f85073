import ClassChart.Proofs.Build.Fates
import ClassChart.Proofs.Chart.Draft
import ClassChart.Proofs.Signature.References

/-! A built chart is well formed, whatever the declarations say. Each box is sound by itself because
its merge was; names are those of different groups; and links are those that the boxes call for. -/
namespace ClassChart

/- Primitive names count in any letter case, so it is the lower one that is no primitive. -/
structure Member.WellFormed (floor : Visibility) (m : Member) : Prop where
  visible : floor.rank ≤ m.visibility.rank
  references : m.references.Nodup
  no_primitive : ∀ name ∈ m.references, Text.lower name ∉ Names.primitives

structure Outline.WellFormed (floor : Visibility) (o : Outline) : Prop where
  enum : o.kind = .enum → o.base = none ∧ o.interfaces = [] ∧ o.members = []
  values : o.kind ≠ .enum → o.values = []
  interfaces : o.interfaces.Nodup
  members : ∀ m ∈ o.members, m.WellFormed floor

/-- What the charts of a build are like, under its settings. -/
structure Chart.WellFormed (s : Settings) (chart : Chart) : Prop where
  names : (chart.boxes.map Box.name).Nodup
  qualifiedNames : (chart.boxes.map (·.outline.qualifiedName)).Nodup
  outlines : ∀ b ∈ chart.boxes, b.outline.WellFormed s.floor
  ends : ∀ l ∈ chart.links, l.source ∈ chart.boxes ∧ l.target ∈ chart.boxes ∧
    l.source.name ≠ l.target.name
  keys : (chart.links.map Link.key).Nodup
  enum_links : ∀ l ∈ chart.links, l.source.outline.kind ≠ .enum
  one_base : ∀ name, ((chart.linksFrom name).filter (·.kind = .inheritance)).length ≤ 1
  suppressed : s.ignoreDependencies = true → ∀ l ∈ chart.links, l.kind ≠ .dependency

theorem Member.Shows.wellFormed {rules : NameRules} {floor : Visibility} {m : Member}
    (h : m.Shows rules) (hvisible : floor.reaches m.visibility = true) : m.WellFormed floor := by
  rcases h.cases with hnone | ⟨found, hread, hnames⟩
  · exact ⟨of_decide_eq_true hvisible, by simp [hnone], by simp [hnone]⟩
  · refine ⟨of_decide_eq_true hvisible, hnames ▸ Signature.references_nodup hread,
      fun name hname hmem => ?_⟩
    have hprimitive : Names.isPrimitive name = true := List.contains_iff_mem.mpr hmem
    rw [Signature.references_no_primitive hread name (hnames ▸ hname)] at hprimitive
    exact Bool.false_ne_true hprimitive

theorem Outline.Sound.wellFormed {rules : MergeRules} {o : Outline} (h : o.Sound rules) :
    o.WellFormed rules.floor :=
  ⟨h.enum, h.values, h.interfaces, fun m hm => (h.shows m hm).wellFormed (h.visible m hm)⟩

namespace Chart
variable {chart : Chart} {s : Settings}

theorem wellFormed_relations (hd : chart.Distinct)
    (hqualified : (chart.boxes.map (·.outline.qualifiedName)).Nodup)
    (houtlines : ∀ b ∈ chart.boxes, b.outline.WellFormed s.floor) :
    WellFormed s { chart with links := chart.relations s.ignoreDependencies } := by
  have hof : ∀ l ∈ chart.relations s.ignoreDependencies, l.source ∈ chart.boxes ∧
      l ∈ chart.linksOf s.ignoreDependencies l.source := by
    intro l hl
    rw [relations_eq hd] at hl
    obtain ⟨b, hb, hlink⟩ := List.mem_flatMap.mp hl
    obtain rfl := source_of_mem_linksOf hlink
    exact ⟨hb, hlink⟩
  constructor
  · exact hd
  · exact hqualified
  · exact houtlines
  · intro l hl
    obtain ⟨hsource, htarget, hne⟩ := relations_ends hl
    exact ⟨hsource, htarget, fun hname => hne (hd.eq_of_name hsource htarget hname)⟩
  · exact relations_nodup chart s.ignoreDependencies
  · intro l hl henum
    obtain ⟨hsource, hlink⟩ := hof l hl
    obtain ⟨hbase, hinterfaces, hmembers⟩ := (houtlines _ hsource).enum henum
    rw [linksOf_bare hbase hinterfaces hmembers] at hlink
    exact List.not_mem_nil hlink
  · intro name
    rw [linksFrom_relations hd]
    cases chart.box? name with
    | none => simp
    | some b => simpa using linksOf_inheritance chart s.ignoreDependencies b
  · intro hignore l hl
    have hlink := (hof l hl).2
    rw [hignore] at hlink
    exact linksOf_suppressed hlink

end Chart

namespace Build

theorem Reached.sound {rules : MergeRules} {gs : List Group} {p : Progress}
    (h : Reached rules gs p) : ∀ b ∈ p.chart.boxes, b.outline.Sound rules := by
  intro b hb
  obtain ⟨g, _, ho⟩ := h.merged b hb
  exact merge_outcome_sound (outline?_eq_some.mp ho)

theorem Reached.qualifiedNames {rules : MergeRules} {ds : List Declaration} {p : Progress}
    (h : Reached rules (groups ds) p) : (p.chart.boxes.map (·.outline.qualifiedName)).Nodup := by
  have hnames : (fated rules (groups ds) .built).map (·.1) =
      p.chart.boxes.map (·.outline.qualifiedName) := by
    have hmem := (List.forall₂_and_left _ _).mpr
      ⟨fun g hg => (fated_sublist (groups ds) .built).mem hg, h.boxes_built⟩
    exact forall₂_map_eq_iff.mp (hmem.imp fun g b ⟨hg, ho⟩ => (outline?_qualifiedName hg ho).symm)
  rw [← hnames]
  exact (groups_nodup ds).sublist ((fated_sublist _ _).map _)

/-- Every build gives a well-formed chart. -/
theorem build_wellFormed (s : Settings) (units : List SourceUnit) :
    ∃ r, ((Session.new s).buildUnits units).2 = .ok r ∧ r.chart.WellFormed s := by
  obtain ⟨r, p, hbuild, hp, hchart, _⟩ := buildUnits_reached s units
  refine ⟨r, hbuild, ?_⟩
  rw [hchart]
  exact Chart.wellFormed_relations hp.distinct hp.qualifiedNames
    fun b hb => (hp.sound b hb).wellFormed

end Build
end ClassChart
