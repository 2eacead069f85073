import ClassChart.Build.Session
import ClassChart.Proofs.Build.Groups
import ClassChart.Proofs.Chart.Merge
import ClassChart.Proofs.Chart.Shown
import Mathlib.Data.List.Find

/-! What a build comes to, group by group. Whether a group gets a box depends only on itself and on
the groups of its simple name before it: the first of them that can be merged holds the name. -/
namespace ClassChart.Build
variable {rules : MergeRules} {gs : List Group} {p : Progress}

/-- The outline of a group, if its declarations can be merged. -/
def outline? (rules : MergeRules) (g : Group) : Option Outline :=
  (merge rules (kept g.2)).outcome.toOption

/-- The outline that holds a name after the given groups. -/
def holder? (rules : MergeRules) (earlier : List Group) (name : String) : Option Outline :=
  (earlier.filterMap (outline? rules)).find? (·.name == name)

/-- Each group with the holder of its name when its turn comes. -/
def turns (rules : MergeRules) (earlier : List Group) : List Group → List (Option Outline × Group)
  | [] => []
  | g :: rest => (holder? rules earlier (nameOf g), g) :: turns rules (earlier ++ [g]) rest

def mergeNotes (rules : MergeRules) (q : String) (first : Declaration) (ds : List Declaration) :
    List Diagnostic :=
  (merge rules ds).notes ++
    match (merge rules ds).outcome with
    | .ok _ => []
    | .error e => [failureNote q first e.message]

def notesOf (rules : MergeRules) (turn : Option Outline × Group) : List Diagnostic :=
  (dropped turn.2.2).map (duplicateNote turn.2.1) ++
    match turn.2.2, turn.1 with
    | [], _ => []
    | first :: _, some holder => [takenNote turn.2.1 first holder]
    | first :: rest, none => mergeNotes rules turn.2.1 first (kept (first :: rest))

/-- The progress that a build makes with the given groups. -/
structure Reached (rules : MergeRules) (gs : List Group) (p : Progress) : Prop where
  outlines : p.chart.boxes.map Box.outline =
    firstBy Outline.name [] (gs.filterMap (outline? rules))
  notes : p.notes = (turns rules [] gs).flatMap (notesOf rules)

theorem outline?_eq_some {g : Group} {o : Outline} :
    outline? rules g = some o ↔ (merge rules (kept g.2)).outcome = .ok o := by
  unfold outline?
  cases (merge rules (kept g.2)).outcome <;> simp [Except.toOption]

theorem outline?_name {g : Group} {o : Outline} (h : outline? rules g = some o) :
    o.name = nameOf g := by
  obtain ⟨q, ds⟩ := g
  have hmerge := outline?_eq_some.mp h
  cases ds with
  | nil => simp [kept, merge] at hmerge
  | cons first rest => exact (merge_head hmerge).1

theorem turns_append (earlier gs hs : List Group) :
    turns rules earlier (gs ++ hs) = turns rules earlier gs ++ turns rules (earlier ++ gs) hs := by
  induction gs generalizing earlier with
  | nil => simp [turns]
  | cons g rest ih => simp [turns, ih]

theorem holder?_filter {p : String → Bool} {name : String} (hp : p name = true)
    (earlier : List Group) :
    holder? rules (earlier.filter fun g => p (nameOf g)) name = holder? rules earlier name := by
  unfold holder?
  rw [List.find?_filterMap, List.find?_filterMap, List.find?_filter]
  congr 1
  refine List.find?_congr fun g _ => ?_
  cases ho : outline? rules g with
  | none => simp
  | some o =>
    have hname := outline?_name ho
    by_cases heq : o.name = name
    · have hg : p (nameOf g) = true := by rw [← hname, heq, hp]
      simp [hg, heq]
    · simp [heq]

/-- What happens under some names is what would happen if there were no others. -/
theorem turns_filter (p : String → Bool) (earlier gs : List Group) :
    (turns rules earlier gs).filter (fun t => p (nameOf t.2)) =
      turns rules (earlier.filter fun g => p (nameOf g)) (gs.filter fun g => p (nameOf g)) := by
  induction gs generalizing earlier with
  | nil => rfl
  | cons g rest ih =>
    cases hg : p (nameOf g) with
    | true => simp [turns, hg, ih, holder?_filter hg]
    | false => simp [turns, hg, ih]

theorem outlines_filter (p : String → Bool) (gs : List Group) :
    (gs.filterMap (outline? rules)).filter (fun o => p o.name) =
      (gs.filter fun g => p (nameOf g)).filterMap (outline? rules) := by
  induction gs with
  | nil => rfl
  | cons g rest ih =>
    cases ho : outline? rules g with
    | none => cases hg : p (nameOf g) <;> simp [ho, hg, ih]
    | some o =>
      have hname := outline?_name ho
      cases hg : p (nameOf g) <;> simp [ho, hname, hg, ih]

theorem Reached.names (h : Reached rules gs p) : p.chart.boxes.map Box.name =
    (firstBy Outline.name [] (gs.filterMap (outline? rules))).map Outline.name := by
  rw [← h.outlines, List.map_map]
  rfl

theorem Reached.distinct (h : Reached rules gs p) : p.chart.Distinct := by
  rw [Chart.Distinct, h.names]
  exact firstBy_nodup _ _

theorem Reached.merged (h : Reached rules gs p) :
    ∀ b ∈ p.chart.boxes, ∃ g ∈ gs, outline? rules g = some b.outline := by
  intro b hb
  have houtline : b.outline ∈ firstBy Outline.name [] (gs.filterMap (outline? rules)) :=
    h.outlines ▸ List.mem_map_of_mem hb
  exact List.mem_filterMap.mp ((firstBy_sublist _ _).mem houtline)

theorem Reached.holder (h : Reached rules gs p) (name : String) :
    (p.chart.box? name).map Box.outline = holder? rules gs name := by
  rw [Chart.box?_outline, h.outlines]
  exact find?_firstBy (· == name) [] _ (by simp)

theorem reached_nil : Reached rules [] ⟨.empty, []⟩ := ⟨rfl, rfl⟩

theorem outlines_concat (gs : List Group) (g : Group) :
    firstBy Outline.name [] ((gs ++ [g]).filterMap (outline? rules)) =
      firstBy Outline.name [] (gs.filterMap (outline? rules)) ++
        match outline? rules g with
        | none => []
        | some o => if (holder? rules gs o.name).isSome then [] else [o] := by
  rw [List.filterMap_append]
  cases hg : outline? rules g with
  | none => simp [hg]
  | some o =>
    have htaken : (holder? rules gs o.name).isSome = true ↔
        o.name ∈ (gs.filterMap (outline? rules)).map Outline.name := by
      rw [holder?, List.find?_isSome, List.mem_map]
      simp only [beq_iff_eq]
    have hlast : [g].filterMap (outline? rules) = [o] := by simp [hg]
    rw [hlast, firstBy_concat]
    simp only [htaken, List.not_mem_nil, false_or]

section
variable {q : String} {first : Declaration} {rest : List Declaration}

theorem takeGroup_taken {holder : Box} (hbox : p.chart.box? first.name = some holder) :
    takeGroup rules p (q, first :: rest) =
      ⟨p.chart, p.notes ++ (dropped (first :: rest)).map (duplicateNote q) ++
        [takenNote q first holder.outline]⟩ := by
  simp only [takeGroup, kept, hbox]

theorem takeGroup_failed {e : MergeError} (hbox : p.chart.box? first.name = none)
    (hmerge : (merge rules (kept (first :: rest))).outcome = .error e) :
    takeGroup rules p (q, first :: rest) =
      ⟨p.chart, p.notes ++ (dropped (first :: rest)).map (duplicateNote q) ++
        ((merge rules (kept (first :: rest))).notes ++ [failureNote q first e.message])⟩ := by
  simp only [kept] at hmerge
  simp only [takeGroup, kept, hbox, place, hmerge]

/- A box is never refused, since its name was found free. -/
theorem takeGroup_built {o : Outline} (hbox : p.chart.box? first.name = none)
    (hmerge : (merge rules (kept (first :: rest))).outcome = .ok o) :
    takeGroup rules p (q, first :: rest) =
      ⟨{ p.chart with boxes := p.chart.boxes ++ [⟨p.chart.size, o⟩] },
        p.notes ++ (dropped (first :: rest)).map (duplicateNote q) ++
          (merge rules (kept (first :: rest))).notes⟩ := by
  have hname : Box.name ⟨p.chart.size, o⟩ = first.name := (merge_head hmerge).1
  have hadd : p.chart.add ⟨p.chart.size, o⟩ =
      .ok { p.chart with boxes := p.chart.boxes ++ [⟨p.chart.size, o⟩] } := by
    refine Chart.add_eq_ok_iff.mpr ⟨?_, rfl⟩
    rw [hname, Chart.contains, hbox]
    rfl
  simp only [kept] at hmerge
  simp only [takeGroup, kept, hbox, place, hmerge, hadd]

theorem Reached.step (h : Reached rules gs p) (q : String) (first : Declaration)
    (rest : List Declaration) :
    Reached rules (gs ++ [(q, first :: rest)]) (takeGroup rules p (q, first :: rest)) := by
  have hturn : turns rules [] (gs ++ [(q, first :: rest)]) =
      turns rules [] gs ++ [(holder? rules gs first.name, (q, first :: rest))] := by
    rw [turns_append]
    rfl
  have hholder := h.holder first.name
  cases hbox : p.chart.box? first.name with
  | some holder =>
    have hsome : holder? rules gs first.name = some holder.outline := by
      rw [← hholder, hbox]
      rfl
    rw [takeGroup_taken hbox]
    constructor
    · rw [outlines_concat, h.outlines]
      cases hg : outline? rules (q, first :: rest) with
      | none => simp
      | some o =>
        have hname : o.name = first.name := outline?_name hg
        simp [hname, hsome]
    · rw [hturn, hsome]
      simp [h.notes, notesOf]
  | none =>
    have hnone : holder? rules gs first.name = none := by
      rw [← hholder, hbox]
      rfl
    cases hmerge : (merge rules (kept (first :: rest))).outcome with
    | error e =>
      rw [takeGroup_failed hbox hmerge]
      constructor
      · rw [outlines_concat, h.outlines]
        simp [outline?, hmerge, Except.toOption]
      · rw [hturn, hnone]
        simp [h.notes, notesOf, mergeNotes, hmerge]
    | ok o =>
      have hname : o.name = first.name := (merge_head hmerge).1
      rw [takeGroup_built hbox hmerge]
      constructor
      · rw [outlines_concat, List.map_append, h.outlines]
        simp [outline?, hmerge, Except.toOption, hname, hnone]
      · rw [hturn, hnone]
        simp [h.notes, notesOf, mergeNotes, hmerge]

end

theorem reached_foldl (gs : List Group) (hgs : ∀ g ∈ gs, ∃ first rest, g.2 = first :: rest) :
    Reached rules gs (gs.foldl (takeGroup rules) ⟨.empty, []⟩) := by
  induction gs using List.reverseRecOn with
  | nil => exact reached_nil
  | append_singleton gs g ih =>
    obtain ⟨q, ds⟩ := g
    obtain ⟨first, rest, rfl⟩ := hgs (q, ds) (List.mem_append_right _ List.mem_cons_self)
    have hbefore := ih fun g hg => hgs g (List.mem_append_left _ hg)
    rw [List.foldl_append]
    exact hbefore.step q first rest

def groupsOf (s : Settings) (units : List SourceUnit) : List Group :=
  groups ((declarationsOf units).filter (accepts s))

theorem mem_of_mem_groupsOf {s : Settings} {units : List SourceUnit} {g : Group}
    (hg : g ∈ groupsOf s units) {d : Declaration} (hd : d ∈ g.2) :
    d ∈ declarationsOf units ∧ d.qualifiedName = g.1 := by
  obtain ⟨hmem, hq⟩ := mem_of_mem_group hg hd
  exact ⟨(List.mem_filter.mp hmem).1, hq⟩

def rulesOf (s : Settings) (units : List SourceUnit) : MergeRules :=
  mergeRules s (.ofDeclarations (declarationsOf units))

def progress (s : Settings) (units : List SourceUnit) : Progress :=
  (groupsOf s units).foldl (takeGroup (rulesOf s units)) ⟨.empty, []⟩

theorem progress_reached (s : Settings) (units : List SourceUnit) :
    Reached (rulesOf s units) (groupsOf s units) (progress s units) :=
  reached_foldl _ fun _ hg => group_eq_cons hg

theorem progress_congr (s : Settings) {units units' : List SourceUnit}
    (h : declarationsOf units = declarationsOf units') : progress s units = progress s units' := by
  simp only [progress, groupsOf, rulesOf, h]

/-- A build always reports: the links that its boxes call for are never refused. -/
theorem report_eq (s : Settings) (before : List Diagnostic) (units : List SourceUnit) :
    report s before units = .ok
      ⟨{ (progress s units).chart with
          links := (progress s units).chart.relations s.ignoreDependencies },
        before ++ faultNotes units ++ (progress s units).notes, (units.filter (!·.failed)).length,
        before.countP isError + (units.filter (·.failed)).length,
        (declarationsOf units).length⟩ := by
  have hlinks :=
    Chart.setLinks_relations (progress_reached s units).distinct s.ignoreDependencies
  change Except.map _ (Chart.setLinks _ (Chart.relations _ _)) = _
  exact congrArg (Except.map _) hlinks

theorem report_reached (s : Settings) (before : List Diagnostic) (units : List SourceUnit) :
    ∃ p, Reached (rulesOf s units) (groupsOf s units) p ∧
      report s before units = .ok
        ⟨{ p.chart with links := p.chart.relations s.ignoreDependencies },
          before ++ faultNotes units ++ p.notes, (units.filter (!·.failed)).length,
          before.countP isError + (units.filter (·.failed)).length,
          (declarationsOf units).length⟩ :=
  ⟨progress s units, progress_reached s units, report_eq s before units⟩

theorem faultNotes_filter (units : List SourceUnit) :
    (faultNotes units).filter (·.stage ≠ .parse) = [] := by
  refine List.filter_eq_nil_iff.mpr fun d hd => ?_
  obtain ⟨u, _, hmem⟩ := List.mem_flatMap.mp hd
  obtain ⟨fault, _, rfl⟩ := List.mem_map.mp hmem
  simp [ReadFault.diagnostic]

theorem build_new {readings : List Reading} {r : Report}
    (h : report s (readings.filterMap refusal?) (readings.filterMap (·.toOption)) = .ok r) :
    (Session.new s).build readings = (⟨s, r.diagnostics, true⟩, .ok r) := by
  simp [Session.build, Session.new, h]

theorem refusals_ok (units : List SourceUnit) :
    (units.map Except.ok : List Reading).filterMap refusal? = [] := by
  simp [refusal?]

theorem units_ok (units : List SourceUnit) :
    (units.map Except.ok : List Reading).filterMap (·.toOption) = units := by
  simp [Except.toOption]

theorem buildUnits_new {r : Report} (h : report s [] units = .ok r) :
    ((Session.new s).buildUnits units).2 = .ok r := by
  have hreport : report s ((units.map Except.ok : List Reading).filterMap refusal?)
      ((units.map Except.ok : List Reading).filterMap (·.toOption)) = .ok r := by
    rw [refusals_ok, units_ok, h]
  rw [Session.buildUnits, build_new hreport]

theorem buildUnits_reached (s : Settings) (units : List SourceUnit) :
    ∃ r p, ((Session.new s).buildUnits units).2 = .ok r ∧
      Reached (rulesOf s units) (groupsOf s units) p ∧
      r.chart = { p.chart with links := p.chart.relations s.ignoreDependencies } ∧
      r.diagnostics = faultNotes units ++ p.notes := by
  obtain ⟨p, hp, hreport⟩ := report_reached s [] units
  exact ⟨_, p, buildUnits_new hreport, hp, rfl, by rw [List.nil_append]⟩

end ClassChart.Build
