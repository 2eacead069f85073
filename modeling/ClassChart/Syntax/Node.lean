import ClassChart.Declaration.Kind
import ClassChart.Text.Utf8

/-! Syntax trees of source files. A node covers a range of octets of its source; ranges may be
anything, and a slice takes what the source has of one. Node kinds that no declaration needs are kept
by name. -/
namespace ClassChart.Syntax

inductive NodeKind where
  | namespaceBlock
  | namespaceLine
  | declarationList
  | declaration (kind : TypeKind)
  | enumMemberList
  | enumMember
  | property
  | method
  | parameterList
  | parameter
  | baseList
  | primaryBase
  | argumentList
  | modifier
  | identifier
  | structWord
  | comment
  | error
  | other (name : String)
  deriving DecidableEq, Repr

def NodeKind.names : List (String × NodeKind) := [
  ("namespace_declaration", .namespaceBlock),
  ("file_scoped_namespace_declaration", .namespaceLine),
  ("declaration_list", .declarationList),
  ("class_declaration", .declaration .class),
  ("interface_declaration", .declaration .interface),
  ("struct_declaration", .declaration .struct),
  ("record_declaration", .declaration .record),
  ("record_struct_declaration", .declaration .recordStruct),
  ("enum_declaration", .declaration .enum),
  ("enum_member_declaration_list", .enumMemberList),
  ("enum_member_declaration", .enumMember),
  ("property_declaration", .property),
  ("method_declaration", .method),
  ("parameter_list", .parameterList),
  ("parameter", .parameter),
  ("base_list", .baseList),
  ("primary_constructor_base_type", .primaryBase),
  ("argument_list", .argumentList),
  ("modifier", .modifier),
  ("identifier", .identifier),
  ("struct", .structWord),
  ("comment", .comment),
  ("ERROR", .error)]

def NodeKind.ofName (name : String) : NodeKind := (names.lookup name).getD (.other name)

inductive Role where
  | name | body | type | returns
  | other (name : String)
  deriving DecidableEq, Repr

def Role.ofName (name : String) : Role :=
  ([("name", Role.name), ("body", .body), ("type", .type), ("returns", .returns)].lookup name).getD
    (.other name)

/-- `missing` marks a node that the reader supplied, `flagged` one that it marked as holding an error
for a reason of its own. -/
structure Label where
  kind : NodeKind
  start : Nat
  stop : Nat
  role : Option Role
  named : Bool
  missing : Bool
  flagged : Bool
  deriving DecidableEq, Repr

inductive Node where
  | mk (label : Label) (children : List Node)
  deriving Repr

instance : Inhabited Node := ⟨.mk ⟨.comment, 0, 0, none, false, false, false⟩ []⟩

namespace Node

def label : Node → Label
  | mk label _ => label

def children : Node → List Node
  | mk _ children => children

def kind (n : Node) : NodeKind := n.label.kind

def isFault (n : Node) : Bool := n.kind = .error || n.label.missing

mutual
def hasError : Node → Bool
  | mk label children =>
    label.flagged || decide (label.kind = .error) || label.missing || anyError children

def anyError : List Node → Bool
  | [] => false
  | n :: rest => hasError n || anyError rest
end

def withRole? (nodes : List Node) (role : Role) : Option Node :=
  nodes.find? (·.label.role = some role)

def ofKind? (nodes : List Node) (kind : NodeKind) : Option Node := nodes.find? (·.kind = kind)

end Node

abbrev Source := List UInt8

def Source.slice (source : Source) (n : Node) : String :=
  Text.decode ((source.drop n.label.start).take (n.label.stop - n.label.start))

def Source.line (source : Source) (n : Node) : Nat := (source.take n.label.start).count 10 + 1

end ClassChart.Syntax
