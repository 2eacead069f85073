import ClassChart.Declaration.Index
import ClassChart.Names.Namespace
import ClassChart.Names.Primitive
import ClassChart.Signature.Reader

/-! The types that a member's type text refers to. Generic types hold others and are not counted
themselves; the outermost one is the container. -/
namespace ClassChart.Signature

structure References where
  container : Option String
  names : List String
  deriving DecidableEq, Repr

def References.none : References := ⟨Option.none, []⟩

def TypeExpr.container? : TypeExpr → Option String
  | generic _ _ name _ => some name
  | nullable e | pointer e | array e => e.container?
  | plain .. | tuple _ => Option.none

mutual
/-- Names without an argument list with their qualifiers, in the order of their last segments. -/
def TypeExpr.occurrences : TypeExpr → List (String × String)
  | plain qualifier outer name => occurrencesAll outer ++ [(name, qualifier)]
  | generic _ outer _ args => occurrencesAll outer ++ occurrencesAll args
  | nullable e | pointer e | array e => e.occurrences
  | tuple es => occurrencesAll es

def TypeExpr.occurrencesAll : List TypeExpr → List (String × String)
  | [] => []
  | e :: rest => e.occurrences ++ TypeExpr.occurrencesAll rest
end

/-- A name is judged by the namespace written before it, else by that of its declaration, else by
its own text. -/
def isSystem (rules : NameRules) (name qualifier : String) : Bool :=
  if qualifier ≠ "" then Names.isUnderAny qualifier rules.systemNamespaces
  else match rules.index.bind (·.lookup? name "") with
    | some s => Names.isUnderAny s.scope rules.systemNamespaces
    | .none => Names.startsWithAny name rules.systemNamespaces

/- A name is skipped if it is there already, or primitive, or if its occurrence is left out. -/
def addName (rules : NameRules) (names : List String) (occurrence : String × String) : List String :=
  if names.contains occurrence.1 || Names.isPrimitive occurrence.1 then names
  else if rules.excludeSystem && isSystem rules occurrence.1 occurrence.2 then names
  else names ++ [occurrence.1]

def referencesIn (rules : NameRules) (e : TypeExpr) : References :=
  ⟨e.container?, e.occurrences.foldl (addName rules) []⟩

def references (rules : NameRules) (text : String) : Except SyntaxError References :=
  if Text.allBlank text then .ok .none else (read text).map (referencesIn rules)

def referencesOf? (rules : NameRules) : Option String → Except SyntaxError References
  | .none => .ok .none
  | some text => references rules text

end ClassChart.Signature
