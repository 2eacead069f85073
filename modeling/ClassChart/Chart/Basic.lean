import ClassChart.Chart.Outline

/-! The chart: boxes in the order in which they were added, at most one for a name, and links between
them. A link ends at a box of the chart itself, not merely at one that looks like it, so a box
carries a serial number beside its outline. -/
namespace ClassChart

structure Box where
  serial : Nat
  outline : Outline
  deriving DecidableEq, Repr

def Box.name (b : Box) : String := b.outline.name

inductive LinkKind where
  | inheritance | implementation | dependency
  deriving DecidableEq, Repr

def LinkKind.text : LinkKind → String
  | inheritance => "inheritance"
  | implementation => "implementation"
  | dependency => "dependency"

def LinkKind.ofText? (text : String) : Option LinkKind :=
  [inheritance, implementation, dependency].find? (·.text == text)

structure Link where
  source : Box
  target : Box
  kind : LinkKind
  deriving DecidableEq, Repr

def Link.key (l : Link) : String × String × LinkKind := (l.source.name, l.target.name, l.kind)

def Link.ends (l : Link) : List Box := [l.source, l.target]

inductive ChartError where
  | duplicate (name : String)
  | foreignEnd (name : String)
  deriving DecidableEq, Repr

def ChartError.message : ChartError → String
  | duplicate name => "Duplicate type node: " ++ name
  | foreignEnd name => "Relation endpoint is not a node of this graph: " ++ name

structure Chart where
  boxes : List Box
  links : List Link
  deriving DecidableEq, Repr

namespace Chart

def empty : Chart := ⟨[], []⟩

def box? (chart : Chart) (name : String) : Option Box := chart.boxes.find? (·.name == name)

def contains (chart : Chart) (name : String) : Bool := (chart.box? name).isSome

def size (chart : Chart) : Nat := chart.boxes.length

def isEmpty (chart : Chart) : Bool := chart.boxes.isEmpty

def add (chart : Chart) (b : Box) : Except ChartError Chart :=
  if chart.contains b.name then .error (.duplicate b.name)
  else .ok { chart with boxes := chart.boxes ++ [b] }

/- The chart has a box of that name, and it is this one. -/
def owns (chart : Chart) (b : Box) : Bool := chart.box? b.name == some b

/-- Replaces all links, or none if one of the new ones ends outside of the chart. -/
def setLinks (chart : Chart) (links : List Link) : Except ChartError Chart :=
  match (links.flatMap Link.ends).find? (!chart.owns ·) with
  | some b => .error (.foreignEnd b.name)
  | none => .ok { chart with links := links }

end Chart
end ClassChart
