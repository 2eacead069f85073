import ClassChart.Proofs.Build.Run
import Mathlib.Data.List.Flatten

/-! Building with a list of type names. All declarations are still indexed, and what happens under one
simple name does not depend on the groups of other names. So the list takes outlines, links and notes
away, and what it leaves is as it would be without the list. -/
namespace ClassChart.Build
variable {s : Settings} {units : List SourceUnit} {names : List String}

theorem accepts_typeNames (hopen : s.typeNames = []) (hnames : names ≠ []) (d : Declaration) :
    accepts { s with typeNames := names } d = (decide (d.name ∈ names) && accepts s d) := by
  have hempty : names.isEmpty = false := by simpa using hnames
  simp [accepts, hopen, hempty]

theorem groupsOf_typeNames (hopen : s.typeNames = []) (hnames : names ≠ [])
    (hdot : Dotless (declarationsOf units)) :
    groupsOf { s with typeNames := names } units =
      (groupsOf s units).filter fun g => decide (nameOf g ∈ names) := by
  have haccepted : Dotless ((declarationsOf units).filter (accepts s)) :=
    fun d hd => hdot d (List.mem_filter.mp hd).1
  have hboth : (declarationsOf units).filter (accepts { s with typeNames := names }) =
      ((declarationsOf units).filter (accepts s)).filter fun d => decide (d.name ∈ names) := by
    rw [List.filter_filter]
    exact List.filter_congr fun d _ => accepts_typeNames hopen hnames d
  rw [groupsOf, groupsOf, hboth, groups_filter haccepted fun name => decide (name ∈ names)]

/- Two runs under the same rules, the second over the groups of some names. -/
section
variable {rules : MergeRules} {gs : List Group} {p p' : Progress} {q : String → Bool}
  (h : Reached rules gs p) (h' : Reached rules (gs.filter fun g => q (nameOf g)) p')
include h h'

theorem Reached.outlines_induced : p'.chart.boxes.map Box.outline =
    (p.chart.boxes.map Box.outline).filter fun o => q o.name := by
  rw [h'.outlines, h.outlines, filter_firstBy q, outlines_filter q]

theorem Reached.notes_sublist : p'.notes.Sublist p.notes := by
  have hturns : (turns rules [] gs).filter (fun t => q (nameOf t.2)) =
      turns rules [] (gs.filter fun g => q (nameOf g)) := turns_filter q [] gs
  rw [h'.notes, h.notes, ← hturns]
  exact List.filter_sublist.flatMap _

end

/-- `part` reports on the types of `whole` that have the given names: their outlines, the links
among them, and some of the notes, all in the same order. -/
structure Report.Induced (names : List String) (whole part : Report) : Prop where
  outlines : part.chart.boxes.map Box.outline =
    (whole.chart.boxes.map Box.outline).filter (·.name ∈ names)
  links : part.chart.links.map Link.shown =
    (whole.chart.links.filter fun l => l.source.name ∈ names ∧ l.target.name ∈ names).map Link.shown
  diagnostics : part.diagnostics.Sublist whole.diagnostics

/-- A list of type names cuts the build without one down to the types of these names. -/
theorem typeNames_induce_part (s : Settings) (units : List SourceUnit) (names : List String)
    (hopen : s.typeNames = []) (hnames : names ≠ []) (hdot : Dotless (declarationsOf units)) :
    ∃ whole part, ((Session.new s).buildUnits units).2 = .ok whole ∧
      ((Session.new { s with typeNames := names }).buildUnits units).2 = .ok part ∧
      Report.Induced names whole part := by
  obtain ⟨p, hp, hreport⟩ := report_reached s [] units
  obtain ⟨p', hp', hreport'⟩ := report_reached { s with typeNames := names } [] units
  rw [groupsOf_typeNames hopen hnames hdot] at hp'
  -- the rules hold the index of all declarations, and no list of names
  have hp' : Reached (rulesOf s units)
      ((groupsOf s units).filter fun g => decide (nameOf g ∈ names)) p' := hp'
  have houtlines := hp.outlines_induced (q := fun name => decide (name ∈ names)) hp'
  refine ⟨_, _, buildUnits_new hreport, buildUnits_new hreport', ?_⟩
  constructor
  · exact houtlines
  · have hlinks := Chart.relations_shown_filter (p := fun name => decide (name ∈ names))
      hp.distinct hp'.distinct houtlines s.ignoreDependencies
    simpa only [Bool.decide_and] using hlinks
  · exact (hp.notes_sublist (q := fun name => decide (name ∈ names)) hp').append_left _

/-- Of a class, its base and a second declaration of the base, the class alone. -/
theorem typeNames_induce_part_of_derived :
    let base : Declaration := ⟨"A", "class", "a.cs", "", [], [], [], [], [], 1⟩
    let derived : Declaration := ⟨"B", "class", "b.cs", "", [], [], [⟨"A", "A", ""⟩], [], [], 1⟩
    let units : List SourceUnit := [⟨"a.cs", [base, base], []⟩, ⟨"b.cs", [derived], []⟩]
    Settings.default.typeNames = [] ∧ ["B"] ≠ [] ∧ Dotless (declarationsOf units) ∧
      ∃ whole part, ((Session.new .default).buildUnits units).2 = .ok whole ∧
        ((Session.new { Settings.default with typeNames := ["B"] }).buildUnits units).2 = .ok part ∧
        Report.Induced ["B"] whole part := by
  intro base derived units
  have hdotless : Dotless (declarationsOf units) := by
    unfold Dotless
    decide
  exact ⟨rfl, by decide, hdotless,
    typeNames_induce_part .default units ["B"] rfl (by decide) hdotless⟩

end ClassChart.Build
