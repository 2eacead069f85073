import ClassChart.Declaration.Basic
import ClassChart.Diagnostic

/-! Declarations grouped by qualified name, and which of a group count. If all are partial, all do;
otherwise the first one does, and with it the other partial ones if it is partial itself. -/
namespace ClassChart.Build

abbrev Group := String × List Declaration

/- A declaration goes to the end of the group of its name, or starts one behind the others. -/
def addToGroups (gs : List Group) (d : Declaration) : List Group :=
  if gs.any (·.1 == d.qualifiedName) then
    gs.map fun g => if g.1 == d.qualifiedName then (g.1, g.2 ++ [d]) else g
  else gs ++ [(d.qualifiedName, [d])]

def groups (ds : List Declaration) : List Group := ds.foldl addToGroups []

def joins (first d : Declaration) : Bool := d.isPartial && first.isPartial

def kept : List Declaration → List Declaration
  | [] => []
  | first :: rest => first :: rest.filter (joins first)

def dropped : List Declaration → List Declaration
  | [] => []
  | first :: rest => rest.filter (!joins first ·)

def duplicateNote (qualifiedName : String) (d : Declaration) : Diagnostic :=
  ⟨.warning, .merge, d.file, d.line,
    "Duplicate declaration of " ++ qualifiedName ++ " ignored (not partial)"⟩

end ClassChart.Build
