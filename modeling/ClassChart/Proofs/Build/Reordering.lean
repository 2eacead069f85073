import ClassChart.Proofs.Build.Run

/-! Building from the same declarations in another order. Everything that prefers the first of
several declarations chooses among declarations of one simple name: the index, the groups, the
holders of names, the base types. So a build comes to the same as long as the order within each
simple name is kept. -/
namespace ClassChart

namespace Build
variable {s : Settings} {units units' : List SourceUnit}

theorem rulesOf_agree (h : Reordered (declarationsOf units) (declarationsOf units'))
    (hdot : Dotless (declarationsOf units)) : (rulesOf s units).Agree (rulesOf s units') := by
  have hrules : (rulesOf s units).references.Agree (rulesOf s units').references := by
    refine ⟨rfl, rfl, fun name qualifier => ?_⟩
    have hlookup := congrFun (congrFun (h.lookup?_eq hdot) name) qualifier
    unfold rulesOf mergeRules
    cases s.useSymbols with
    | true => simpa using hlookup
    | false => rfl
  exact ⟨hrules, hrules, rfl⟩

theorem groupsOf_filter (h : Reordered (declarationsOf units) (declarationsOf units'))
    (hdot : Dotless (declarationsOf units)) (name : String) :
    (groupsOf s units).filter (nameOf · = name) = (groupsOf s units').filter (nameOf · = name) := by
  have haccepted : ∀ ds : List Declaration, Dotless ds →
      (groups (ds.filter (accepts s))).filter (nameOf · = name) =
        groups ((ds.filter (·.name = name)).filter (accepts s)) := by
    intro ds hds
    have hmem : Dotless (ds.filter (accepts s)) := fun d hd => hds d (List.mem_filter.mp hd).1
    rw [groups_filter hmem (· = name), List.filter_comm]
  rw [groupsOf, groupsOf, haccepted _ hdot, haccepted _ (h.dotless hdot), h.same_order]

variable {rules rules' : MergeRules} {gs gs' : List Group} {p p' : Progress}

theorem outline?_eq (h : rules.Agree rules') : outline? rules = outline? rules' := by
  funext g
  simp only [outline?, h.merge_eq]

theorem notesOf_eq (h : rules.Agree rules') : notesOf rules = notesOf rules' := by
  funext turn
  simp only [notesOf, mergeNotes, h.merge_eq]

theorem turns_eq (h : rules.Agree rules') (earlier gs : List Group) :
    turns rules earlier gs = turns rules' earlier gs := by
  induction gs generalizing earlier with
  | nil => rfl
  | cons g rest ih => simp only [turns, holder?, outline?_eq h, ih]

/- Two runs under rules that agree, over groups that are the same under each name. -/
section
variable (h : Reached rules gs p) (h' : Reached rules' gs' p') (hrules : rules.Agree rules')
  (hgs : ∀ name, gs.filter (nameOf · = name) = gs'.filter (nameOf · = name))
include h h' hrules hgs

theorem Reached.box?_outline_eq (name : String) :
    (p.chart.box? name).map Box.outline = (p'.chart.box? name).map Box.outline := by
  have hwithin : ∀ (rules : MergeRules) (gs : List Group),
      holder? rules gs name = holder? rules (gs.filter (nameOf · = name)) name :=
    fun rules gs => (holder?_filter (p := (· = name)) (decide_eq_true rfl) gs).symm
  rw [h.holder, h'.holder, hwithin rules, hwithin rules', hgs, holder?, holder?, outline?_eq hrules]

theorem Reached.outlines_perm :
    (p.chart.boxes.map Box.outline).Perm (p'.chart.boxes.map Box.outline) := by
  rw [h.outlines, h'.outlines, outline?_eq hrules]
  refine perm_of_filter_eq Outline.name fun name => ?_
  rw [filter_firstBy (· = name), filter_firstBy (· = name), outlines_filter (· = name),
    outlines_filter (· = name), hgs]

theorem Reached.notes_perm : p.notes.Perm p'.notes := by
  have hturns : (turns rules [] gs).Perm (turns rules [] gs') := by
    refine perm_of_filter_eq (fun turn => nameOf turn.2) fun name => ?_
    rw [turns_filter (· = name), turns_filter (· = name), hgs]
  rw [h.notes, h'.notes, ← turns_eq hrules, ← notesOf_eq hrules]
  exact hturns.flatMap_right _

theorem Reached.linksFrom_eq (suppress : Bool) (name : String) :
    (Chart.linksFrom { p.chart with links := p.chart.relations suppress } name).map Link.shown =
      (Chart.linksFrom { p'.chart with links := p'.chart.relations suppress } name).map
        Link.shown := by
  have hboxes := h.box?_outline_eq h' hrules hgs
  have hbox := hboxes name
  rw [Chart.linksFrom_relations h.distinct, Chart.linksFrom_relations h'.distinct]
  cases hb : p.chart.box? name with
  | none =>
    have hb' : p'.chart.box? name = none := by simpa [hb] using hbox.symm
    simp [hb']
  | some b =>
    obtain ⟨b', hb', houtline⟩ : ∃ b', p'.chart.box? name = some b' ∧ b'.outline = b.outline := by
      simpa [hb] using hbox.symm
    simp [hb', Chart.linksOf_shown hboxes houtline.symm suppress]

end

/-- Reports with the same outlines and the same notes of merging and of signatures, each in some
order, and with the same links from the box of each name, in the same order. -/
structure Report.Alike (r r' : Report) : Prop where
  outlines : (r.chart.boxes.map Box.outline).Perm (r'.chart.boxes.map Box.outline)
  links : ∀ name, (r.chart.linksFrom name).map Link.shown = (r'.chart.linksFrom name).map Link.shown
  notes : (r.diagnostics.filter (·.stage ≠ .parse)).Perm (r'.diagnostics.filter (·.stage ≠ .parse))

/-- Two builds of the same declarations, those of each simple name in the same order, come to the
same outlines, the same links from each box, and the same notes of merging and of signatures. -/
theorem build_order_independent (s : Settings) (units units' : List SourceUnit)
    (h : Reordered (declarationsOf units) (declarationsOf units'))
    (hdot : Dotless (declarationsOf units)) :
    ∃ r r', ((Session.new s).buildUnits units).2 = .ok r ∧
      ((Session.new s).buildUnits units').2 = .ok r' ∧ r.Alike r' := by
  obtain ⟨p, hp, hreport⟩ := report_reached s [] units
  obtain ⟨p', hp', hreport'⟩ := report_reached s [] units'
  have hrules : (rulesOf s units).Agree (rulesOf s units') := rulesOf_agree h hdot
  have hgroups := groupsOf_filter (s := s) h hdot
  refine ⟨_, _, buildUnits_new hreport, buildUnits_new hreport', ?_⟩
  constructor
  · exact hp.outlines_perm hp' hrules hgroups
  · exact hp.linksFrom_eq hp' hrules hgroups s.ignoreDependencies
  · simp only [List.nil_append, List.filter_append, faultNotes_filter]
    exact (hp.notes_perm hp' hrules hgroups).filter _

def ofClass (file name : String) (bases : List BaseRef) : SourceUnit :=
  ⟨file, [⟨name, "class", file, "", [], ["partial"], bases, [], [], 1⟩], []⟩

/-- A class in two parts, and a class derived from it that moves to the front. -/
theorem build_order_independent_of_derived :
    let a := ofClass "a.cs" "A" []
    let b := ofClass "b.cs" "B" [⟨"A", "A", ""⟩]
    let c := ofClass "c.cs" "A" []
    Reordered (declarationsOf [a, b, c]) (declarationsOf [b, a, c]) ∧
      Dotless (declarationsOf [a, b, c]) ∧
      ∃ r r', ((Session.new .default).buildUnits [a, b, c]).2 = .ok r ∧
        ((Session.new .default).buildUnits [b, a, c]).2 = .ok r' ∧ r.Alike r' := by
  intro a b c
  have hreordered : Reordered (declarationsOf [a, b, c]) (declarationsOf [b, a, c]) := by
    refine ⟨List.Perm.swap _ _ _, fun name => ?_⟩
    by_cases hA : "A" = name
    · subst hA
      rfl
    · by_cases hB : "B" = name
      · subst hB
        rfl
      · simp [a, b, c, declarationsOf, ofClass, SourceUnit.failed, hA, hB]
  have hdotless : Dotless (declarationsOf [a, b, c]) := by
    unfold Dotless
    decide
  exact ⟨hreordered, hdotless, build_order_independent .default _ _ hreordered hdotless⟩

end Build
end ClassChart
