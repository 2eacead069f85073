import ClassChart.Signature.Token
import ClassChart.Text.Pieces
import ClassChart.Text.Quoted

/-! Type expressions as they are written in a declaration: names with a qualifier and argument
lists, the wrappers `?`, `*` and `[]`, and tuples. -/
namespace ClassChart.Signature

/-- A `plain` name ends in a segment without an argument list, a `generic` one in a segment with a list,
which is empty when it names no argument. `outer` holds the arguments of the earlier segments. -/
inductive TypeExpr where
  | plain (qualifier : String) (outer : List TypeExpr) (name : String)
  | generic (qualifier : String) (outer : List TypeExpr) (name : String) (args : List TypeExpr)
  | nullable (element : TypeExpr)
  | pointer (element : TypeExpr)
  | array (element : TypeExpr)
  | tuple (elements : List TypeExpr)
  deriving Inhabited, Repr

abbrev Segment := String × Option (List TypeExpr)

/- The alias `global` only says where the lookup starts. -/
def qualifierOf (names : List String) : String := Text.dotted (names.filter (· ≠ "global"))

/-- The expression that segments joined by dots stand for: the last one is the name, the others
qualify it. -/
def ofSegments (earlier : List Segment) (last : Segment) : TypeExpr :=
  let qualifier := qualifierOf (earlier.map (·.1))
  let outer := earlier.flatMap (·.2.getD [])
  match last with
  | (name, none) => .plain qualifier outer name
  | (name, some args) => .generic qualifier outer name args

inductive Fault where
  | unexpected (found : Token)
  | ended
  | expected (wanted found : Token)
  | notName (found : Token)
  deriving DecidableEq, Repr

def Fault.message : Fault → String
  | unexpected found => "unexpected " ++ Text.quoted found.text
  | ended => "unexpected end of type"
  | expected wanted found =>
    "expected " ++ Text.quoted wanted.text ++ ", got " ++ Text.quoted found.text
  | notName found => "expected a type name, got " ++ Text.quoted found.text

inductive SyntaxError where
  | empty
  | malformed (text : String) (fault : Fault)
  deriving DecidableEq, Repr

def SyntaxError.message : SyntaxError → String
  | empty => "Cannot parse empty type"
  | malformed text fault => "Cannot parse type " ++ Text.quoted text ++ ": " ++ fault.message

end ClassChart.Signature
