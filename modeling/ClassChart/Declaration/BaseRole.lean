import ClassChart.Declaration.Index
import ClassChart.Names.Namespace
import ClassChart.Text.Capital

/-! Whether an entry of a base list is the base type or an interface. A declared type says so by its
kind; of any other the name decides, since names of interfaces are an `I` before a capital. -/
namespace ClassChart

inductive BaseRole where
  | base | interface
  deriving DecidableEq, Repr

def BaseRole.text : BaseRole → String
  | base => "base_type"
  | interface => "interface"

def looksLikeInterface (name : String) : Bool :=
  match name.toList with
  | 'I' :: c :: _ => Text.isCapital c
  | _ => false

def BaseRole.ofName (name : String) : BaseRole :=
  if looksLikeInterface name then .interface else .base

def BaseRole.ofSymbol (s : Symbol) : BaseRole :=
  if s.kind = "interface" then .interface else .base

/-- The role of an entry, or none for one that resolves into a system namespace and is left out. -/
def NameRules.role? (rules : NameRules) (entry : BaseRef) : Option BaseRole :=
  match rules.index.bind (·.lookup? entry.name entry.qualifier) with
  | none => some (.ofName entry.name)
  | some s =>
    if rules.excludeSystem && Names.isUnderAny s.scope rules.systemNamespaces then none
    else some (.ofSymbol s)

end ClassChart
