import ClassChart.Chart.Basic

/-! The links that a chart's boxes call for. A name that no box has belongs to a library and calls
for none, and no box is linked to itself. Links are grouped by source in the order of the boxes:
inheritance first, then implementation, then dependency, each in the order in which the names are
first met. -/
namespace ClassChart

def Chart.linkTo (chart : Chart) (source : Box) (kind : LinkKind) (name : String) : Option Link :=
  match chart.box? name with
  | some target => if target = source then none else some ⟨source, target, kind⟩
  | none => none

def Outline.baseNames (o : Outline) : List String :=
  match o.base with
  | some name => if name = "" then [] else [name]
  | none => []

def Outline.referenceNames (o : Outline) : List String := o.members.flatMap (·.references)

/- A name that has called for its link calls for none again; `seen` holds those that have. -/
def Chart.dependencies (chart : Chart) (source : Box) (seen : List String) : List String → List Link
  | [] => []
  | name :: rest =>
    if name ∈ seen then chart.dependencies source seen rest
    else match chart.linkTo source .dependency name with
      | none => chart.dependencies source seen rest
      | some l => l :: chart.dependencies source (name :: seen) rest

/-- The links that a box calls for; an implementation is as often among them as its interface is
named. -/
def Chart.candidates (chart : Chart) (suppress : Bool) (b : Box) : List Link :=
  b.outline.baseNames.filterMap (chart.linkTo b .inheritance) ++
    b.outline.interfaces.filterMap (chart.linkTo b .implementation) ++
    if suppress then [] else chart.dependencies b [] b.outline.referenceNames

/- Of links with one key the first stays; `seen` holds the keys met before. -/
def firstOfKey (seen : List (String × String × LinkKind)) : List Link → List Link
  | [] => []
  | l :: rest =>
    if l.key ∈ seen then firstOfKey seen rest else l :: firstOfKey (l.key :: seen) rest

/-- The links of a chart; `suppress` leaves the dependencies out. -/
def Chart.relations (chart : Chart) (suppress : Bool) : List Link :=
  firstOfKey [] (chart.boxes.flatMap (chart.candidates suppress))

end ClassChart
