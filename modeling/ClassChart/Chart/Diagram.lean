import ClassChart.Chart.Basic

/-! The chart as the text of a Mermaid class diagram: a block for each box, then a line for each
link. -/
namespace ClassChart.Diagram

/-- Type text as the diagram shows it: tildes for angles, and `void` where there is none. -/
def typeText (text : String) : String :=
  if text = "" then "void" else text.map fun c => if c = '<' ∨ c = '>' then '~' else c

def marker : Visibility → String
  | .pub => "+"
  | .prot => "#"
  | .intern => "~"
  | .priv => "-"

def stereotype : TypeKind → List String
  | .class => []
  | .interface => ["<<interface>>"]
  | .struct => ["<<struct>>"]
  | .record => ["<<record>>"]
  | .recordStruct => ["<<record struct>>"]
  | .enum => ["<<enumeration>>"]

def indent (text : String) : String := "  " ++ text

def propertyText (m : Member) : String := marker m.visibility ++ typeText m.typeText ++ " " ++ m.name

def methodText (m : Member) : String := marker m.visibility ++ m.name ++ "() " ++ typeText m.typeText

/- An enum shows its values; any other type its properties and then its methods. -/
def content (o : Outline) : List String :=
  if o.kind = .enum then o.values
  else o.properties.map propertyText ++ o.methods.map methodText

def block (o : Outline) : List String :=
  ("class " ++ o.name ++ " \x7b") :: (stereotype o.kind ++ content o).map indent ++ ["\x7d"]

def blockText (o : Outline) : String := "\n".intercalate (block o)

/-- The target stands on the left. -/
def linkText (l : Link) : String :=
  match l.kind with
  | .inheritance => l.target.name ++ " <|-- " ++ l.source.name
  | .implementation => l.target.name ++ " <|.. " ++ l.source.name ++ " : implements"
  | .dependency => l.target.name ++ " <-- " ++ l.source.name

def body (chart : Chart) : String :=
  "\n".intercalate (["classDiagram", ""] ++ chart.boxes.map (blockText ·.outline) ++ [""] ++
    chart.links.map linkText) ++ "\n"

/- Three grave accents. -/
def fence : String := String.ofList (List.replicate 3 (Char.ofNat 0x60))

def render (fenced : Bool) (chart : Chart) : String :=
  if fenced then fence ++ "mermaid\n" ++ body chart ++ fence ++ "\n" else body chart

end ClassChart.Diagram
