import ClassChart.Declaration.Visibility
import ClassChart.Text.Blank
import ClassChart.Text.Capital
import ClassChart.Value

/-! The closed vocabularies of a declaration: what kind of type it declares, what form a member has,
and how visible a member is. -/
namespace ClassChart

inductive TypeKind where
  | «class» | interface | struct | record | recordStruct | enum
  deriving DecidableEq, Repr

def TypeKind.all : List TypeKind := [.class, .interface, .struct, .record, .recordStruct, .enum]

def TypeKind.text : TypeKind → String
  | «class» => "class"
  | interface => "interface"
  | struct => "struct"
  | record => "record"
  | recordStruct => "record struct"
  | enum => "enum"

def TypeKind.ofText? (text : String) : Option TypeKind := all.find? (·.text == text)

inductive MemberForm where
  | property | method
  deriving DecidableEq, Repr

def MemberForm.text : MemberForm → String
  | property => "property"
  | method => "method"

def MemberForm.ofText? (text : String) : Option MemberForm :=
  [property, method].find? (·.text == text)

namespace Visibility

def ofName? (name : String) : Option Visibility :=
  let name := Text.upper (String.ofList (Text.trim name.toList))
  all.find? fun v => Text.upper v.text == name

/-- A level stands for itself, any other value for the level that its text names. -/
def ofValue? : Value → Option Visibility
  | .level v => some v
  | value => ofName? value.text

def unknownMessage (value : Value) : String :=
  "Unknown visibility: " ++ value.quoted ++ ". Expected one of: " ++ ", ".intercalate (all.map text)

/-- The level that modifiers give. Of several access words the first of this list counts; a member
without one is visible to all in an interface and to its own type elsewhere. -/
def ofModifiers (modifiers : List String) (owner : TypeKind) : Visibility :=
  if "public" ∈ modifiers then pub
  else if "protected" ∈ modifiers then prot
  else if "internal" ∈ modifiers then intern
  else if "private" ∈ modifiers then priv
  else if owner = .interface then pub
  else priv

end Visibility
end ClassChart
