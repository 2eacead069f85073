import ClassChart.Build.Groups
import ClassChart.Chart.Merge
import ClassChart.Chart.Relations
import ClassChart.Settings.Basic

/-! A build: from what the files gave to the chart, with a report of everything that was left out.
Every name is resolved against all declarations of files that did not fail; the filters only choose
which of them get a box. -/
namespace ClassChart.Build

structure Report where
  chart : Chart
  diagnostics : List Diagnostic
  filesRead : Nat
  filesFailed : Nat
  declarationsSeen : Nat

def accepts (s : Settings) (d : Declaration) : Bool :=
  (s.typeNames.isEmpty || s.typeNames.contains d.name) &&
    (s.namespaces.isEmpty || s.namespaces.contains d.scope)

def mergeRules (s : Settings) (index : Index) : MergeRules :=
  let rules : NameRules :=
    ⟨if s.useSymbols then some index else none, s.excludeSystem, s.systemNamespaces⟩
  ⟨rules, rules, s.floor⟩

structure Progress where
  chart : Chart
  notes : List Diagnostic

def takenNote (qualifiedName : String) (first : Declaration) (holder : Outline) :
    Diagnostic :=
  ⟨.warning, .merge, first.file, first.line,
    "Type " ++ qualifiedName ++ " skipped: name " ++ first.name ++ " already used by " ++
      holder.qualifiedName⟩

def failureNote (qualifiedName : String) (first : Declaration) (cause : String) : Diagnostic :=
  ⟨.error, .merge, first.file, first.line, "Failed to build type " ++ qualifiedName ++ ": " ++ cause⟩

/- A new box for a group whose name is free, or a note of why there is none. -/
def place (chart : Chart) (qualifiedName : String) (first : Declaration) (merged : Merged) :
    Chart × List Diagnostic :=
  match merged.outcome with
  | .error e => (chart, merged.notes ++ [failureNote qualifiedName first e.message])
  | .ok outline =>
    match chart.add ⟨chart.size, outline⟩ with
    | .ok chart => (chart, merged.notes)
    | .error e => (chart, merged.notes ++ [failureNote qualifiedName first e.message])

/- A simple name belongs to the first group that got a box for it. -/
def takeGroup (rules : MergeRules) (p : Progress) (group : Group) : Progress :=
  let duplicates := (dropped group.2).map (duplicateNote group.1)
  match kept group.2 with
  | [] => p
  | first :: rest =>
    match p.chart.box? first.name with
    | some holder => ⟨p.chart, p.notes ++ duplicates ++ [takenNote group.1 first holder.outline]⟩
    | none =>
      let (chart, notes) := place p.chart group.1 first (merge rules (first :: rest))
      ⟨chart, p.notes ++ duplicates ++ notes⟩

def declarationsOf (units : List SourceUnit) : List Declaration :=
  (units.filter (!·.failed)).flatMap (·.declarations)

def faultNotes (units : List SourceUnit) : List Diagnostic :=
  units.flatMap fun u => u.faults.map (·.diagnostic)

def isError (d : Diagnostic) : Bool := d.severity = .error

/-- Builds the chart of the given units, after the problems in `before` were met. -/
def report (s : Settings) (before : List Diagnostic) (units : List SourceUnit) :
    Except ChartError Report :=
  let ds := declarationsOf units
  let rules := mergeRules s (.ofDeclarations ds)
  let p := (groups (ds.filter (accepts s))).foldl (takeGroup rules) ⟨.empty, []⟩
  (p.chart.setLinks (p.chart.relations s.ignoreDependencies)).map fun chart =>
    ⟨chart, before ++ faultNotes units ++ p.notes, (units.filter (!·.failed)).length,
      before.countP isError + (units.filter (·.failed)).length, ds.length⟩

end ClassChart.Build
