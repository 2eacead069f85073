import ClassChart.Proofs.Build.Comparison
import ClassChart.Proofs.Build.Fates

/-! Building with more files. Declarations that come later join the groups there are or form groups
behind them, and whether one of the first counts does not depend on them. So each type keeps its
place, and its members come before those that are added to it. What its base lists say may change,
since there is more to resolve them by. -/
namespace ClassChart

/-- `o'` is the type `o` with further members behind those it has; what the members refer to, and
the supertypes, may differ. -/
structure Outline.Extends (o o' : Outline) : Prop where
  name : o.name = o'.name
  kind : o.kind = o'.kind
  qualifiedName : o.qualifiedName = o'.qualifiedName
  scope : o.scope = o'.scope
  values : o.values = o'.values
  members : o.members.map Member.bare <+: o'.members.map Member.bare

section
variable {rules rules' : MergeRules} (hfloor : rules.floor = rules'.floor)
include hfloor

theorem membersOf_append (kind : TypeKind) (ds es : List Declaration) :
    (membersOf rules kind ds).map Member.bare <+:
      (membersOf rules' kind (ds ++ es)).map Member.bare := by
  have happend : membersOf rules' kind (ds ++ es) =
      membersOf rules' kind ds ++ membersOf rules' kind es := by
    rw [membersOf, List.flatMap_append, List.filterMap_append]
    rfl
  rw [happend, List.map_append, membersOf_bare hfloor kind ds]
  exact List.prefix_append _ _

theorem described_append (kind : TypeKind) (first : Declaration) (rest more : List Declaration) :
    (described rules kind first rest).Extends (described rules' kind first (rest ++ more)) := by
  unfold described
  split
  · exact ⟨rfl, rfl, rfl, rfl, rfl, List.prefix_refl _⟩
  · exact ⟨rfl, rfl, rfl, rfl, rfl, membersOf_append hfloor kind (first :: rest) more⟩

end

namespace Build
variable {rules rules' : MergeRules} {gs gs' grown : List Group} {p p' : Progress}

def joined (es : List Declaration) (g : Group) : Group :=
  (g.1, g.2 ++ es.filter (·.qualifiedName == g.1))

theorem groups_append (ds es : List Declaration) :
    (groups ds).map (joined es) <+: groups (ds ++ es) := by
  have hjoined : (fun q => joined es (q, ds.filter (·.qualifiedName == q))) =
      fun q => (q, (ds ++ es).filter (·.qualifiedName == q)) := by
    funext q
    rw [joined, List.filter_append]
  rw [groups_eq, groups_eq, List.map_map, List.map_append, List.eraseDups_append, List.map_append]
  exact hjoined ▸ List.prefix_append _ _

theorem declarationsOf_append (xs ys : List SourceUnit) :
    declarationsOf (xs ++ ys) = declarationsOf xs ++ declarationsOf ys := by
  rw [declarationsOf, List.filter_append, List.flatMap_append]
  rfl

theorem groupsOf_append (s : Settings) (xs ys : List SourceUnit) :
    (groupsOf s xs).map (joined ((declarationsOf ys).filter (accepts s))) <+:
      groupsOf s (xs ++ ys) := by
  rw [groupsOf, groupsOf, declarationsOf_append, List.filter_append]
  exact groups_append _ _

/-- The declarations of a group that counted still do, so its outline is extended. -/
theorem outline?_joined (hfloor : rules.floor = rules'.floor) {es : List Declaration} {g : Group}
    (hne : g.2 ≠ []) (hforms : ∀ d ∈ (joined es g).2, d.KnownForms) :
    Option.Rel Outline.Extends (outline? rules g) (outline? rules' (joined es g)) := by
  obtain ⟨q, ds⟩ := g
  cases ds with
  | nil => exact absurd rfl hne
  | cons first rest =>
    let more := es.filter (·.qualifiedName == q)
    have hjoined : joined es (q, first :: rest) = (q, first :: (rest ++ more)) := rfl
    rw [hjoined] at hforms ⊢
    have hall : ∀ d ∈ kept (first :: (rest ++ more)), d.KnownForms :=
      fun d hd => hforms d (mem_of_mem_kept hd)
    have hbefore : ∀ d ∈ kept (first :: rest), d.KnownForms :=
      fun d hd => hforms d (List.mem_append_left more (mem_of_mem_kept hd))
    refine outline?_rel q q first (fun kind => ?_) fun kind => ?_
    · rw [faultOf?_eq_none hbefore, faultOf?_eq_none hall]
    · rw [List.filter_append]
      exact described_append hfloor kind ..

section
variable (hgrown : List.Forall₂ (fun g g' => Option.Rel Outline.Extends (outline? rules g)
    (outline? rules' g')) gs grown)
  (hbehind : grown <+: gs')
include hgrown hbehind

theorem Reached.prefix_names (h : Reached rules gs p) (h' : Reached rules' gs' p') :
    p.chart.boxes.map Box.name <+: p'.chart.boxes.map Box.name := by
  have hextended := forall₂_outlines (fun _ _ ho => Outline.Extends.name ho) hgrown
  have hnames := forall₂_map_eq_iff.mp (hextended.imp fun _ _ ho => ho.name)
  obtain ⟨later, rfl⟩ := hbehind
  rw [h.names, h'.names, hnames, List.filterMap_append]
  exact (prefix_firstBy_append _ _ _).map Outline.name

theorem Reached.extended (h : Reached rules gs p) (h' : Reached rules' gs' p') :
    ∀ b ∈ p.chart.boxes, ∃ b', p'.chart.box? b.name = some b' ∧
      b.outline.Extends b'.outline := by
  intro b hb
  have hheld := h.holder b.name
  have hrel := holder?_rel (fun _ _ ho => Outline.Extends.name ho) hgrown b.name
  rw [← hheld, h.distinct.box?_of_mem hb, Option.map_some] at hrel
  generalize hlater : holder? rules' grown b.name = holder at hrel
  cases hrel with
  | @some _ o' hextends =>
    obtain ⟨later, rfl⟩ := hbehind
    have hholder := h'.holder b.name
    rw [holder?_append, hlater, Option.some_or] at hholder
    obtain ⟨b', hbox, rfl⟩ := Option.map_eq_some_iff.mp hholder
    exact ⟨b', hbox, hextends⟩

end

/-- `r'` has the boxes of `r`, extended, and further boxes behind them. -/
structure Report.Extends (r r' : Report) : Prop where
  names : r.chart.boxes.map Box.name <+: r'.chart.boxes.map Box.name
  boxes : ∀ b ∈ r.chart.boxes, ∃ b', r'.chart.box? b.name = some b' ∧
    b.outline.Extends b'.outline

/-- More files take nothing away and move nothing. A member of an unknown form could: a type with
one in any of its declarations that count is not built. -/
theorem more_files_extend (s : Settings) (xs ys : List SourceUnit)
    (hforms : ∀ d ∈ declarationsOf (xs ++ ys), d.KnownForms) :
    ∃ r r', ((Session.new s).buildUnits xs).2 = .ok r ∧
      ((Session.new s).buildUnits (xs ++ ys)).2 = .ok r' ∧ r.Extends r' := by
  obtain ⟨r, p, hbuild, hp, hchart, _⟩ := buildUnits_reached s xs
  obtain ⟨r', p', hbuild', hp', hchart', _⟩ := buildUnits_reached s (xs ++ ys)
  have hbehind := groupsOf_append s xs ys
  have hgrown : List.Forall₂ (fun g g' => Option.Rel Outline.Extends
        (outline? (rulesOf s xs) g) (outline? (rulesOf s (xs ++ ys)) g'))
      (groupsOf s xs) ((groupsOf s xs).map (joined ((declarationsOf ys).filter (accepts s)))) := by
    rw [List.forall₂_map_right_iff]
    refine List.forall₂_same.mpr fun g hg => ?_
    have hfloor : (rulesOf s xs).floor = (rulesOf s (xs ++ ys)).floor := rfl
    refine outline?_joined hfloor (group_ne_nil hg) fun d hd => hforms d ?_
    exact (mem_of_mem_groupsOf (hbehind.mem (List.mem_map_of_mem hg)) hd).1
  refine ⟨r, r', hbuild, hbuild', ?_, ?_⟩
  · rw [hchart, hchart']
    exact hp.prefix_names hgrown hbehind hp'
  · rw [hchart, hchart']
    exact hp.extended hgrown hbehind hp'

/-- A partial class that goes on in a second file, after a type of its own. -/
theorem more_files_extend_order :
    let order : Declaration := ⟨"Order", "class", "a.cs", "Shop", [], ["partial"], [],
      [⟨"Total", "property", ["public"], "decimal", 2⟩], [], 1⟩
    let line : Declaration := ⟨"Line", "struct", "b.cs", "Shop", [], [], [], [], [], 1⟩
    let lines : Declaration := ⟨"Order", "class", "b.cs", "Shop", [], ["partial"], [],
      [⟨"Lines", "method", ["public"], "List<Line>", 4⟩], [], 3⟩
    let xs : List SourceUnit := [⟨"a.cs", [order], []⟩]
    let ys : List SourceUnit := [⟨"b.cs", [line, lines], []⟩]
    (∀ d ∈ declarationsOf (xs ++ ys), d.KnownForms) ∧
      ∃ r r', ((Session.new .default).buildUnits xs).2 = .ok r ∧
        ((Session.new .default).buildUnits (xs ++ ys)).2 = .ok r' ∧ r.Extends r' := by
  intro order line lines xs ys
  have hforms : ∀ d ∈ declarationsOf (xs ++ ys), d.KnownForms := by
    have hdeclarations : declarationsOf (xs ++ ys) = [order, line, lines] := by decide
    have horder : order.KnownForms := List.forall_mem_singleton.mpr ⟨.property, rfl⟩
    have hline : line.KnownForms := fun _ h => absurd h List.not_mem_nil
    have hlines : lines.KnownForms := List.forall_mem_singleton.mpr ⟨.method, rfl⟩
    rw [hdeclarations]
    simp only [List.forall_mem_cons]
    exact ⟨horder, hline, hlines, by simp⟩
  exact ⟨hforms, more_files_extend .default xs ys hforms⟩

end Build
end ClassChart
