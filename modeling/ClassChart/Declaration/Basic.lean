import ClassChart.Text.Pieces

/-! Declarations as they stand in source. One type may be declared in several places; what joins
them is the qualified name. Kinds and forms are kept as they are written, since a caller may hand
over words that name neither. -/
namespace ClassChart

structure BaseRef where
  text : String
  name : String
  qualifier : String
  deriving DecidableEq, Repr

structure MemberDecl where
  name : String
  form : String
  modifiers : List String
  typeText : String
  line : Nat
  deriving DecidableEq, Repr

/-- One declaration of a type, in namespace `scope` and inside the types `outer`. -/
structure Declaration where
  name : String
  kind : String
  file : String
  scope : String
  outer : List String
  modifiers : List String
  bases : List BaseRef
  members : List MemberDecl
  values : List String
  line : Nat
  deriving DecidableEq, Repr

namespace Declaration

def path (d : Declaration) : List String :=
  (if d.scope = "" then [] else [d.scope]) ++ d.outer ++ [d.name]

def qualifiedName (d : Declaration) : String := Text.dotted d.path

def isPartial (d : Declaration) : Bool := d.modifiers.contains "partial"

end Declaration

inductive Severity where
  | warning
  | error
  | other (name : String)
  deriving DecidableEq, Repr

def Severity.text : Severity → String
  | warning => "warning"
  | error => "error"
  | other name => name

def Severity.ofText (text : String) : Severity :=
  if text = "warning" then .warning else if text = "error" then .error else .other text

structure ReadFault where
  file : String
  line : Nat
  message : String
  severity : Severity
  deriving DecidableEq, Repr

structure SourceUnit where
  file : String
  declarations : List Declaration
  faults : List ReadFault
  deriving DecidableEq, Repr

/-- A file with a fault of error severity counts as failed, and none of its declarations are used. -/
def SourceUnit.failed (u : SourceUnit) : Bool := u.faults.any (·.severity = .error)

end ClassChart
