import ClassChart.Names.Split
import ClassChart.Syntax.Fault
import ClassChart.Text.Blank

/-! The declarations of a syntax tree, in the order in which they start. Namespaces are entered,
and so are the bodies of types. A namespace that takes in the rest of its file reaches the nodes after
it as well as those inside it. -/
namespace ClassChart.Syntax

/-- Where a node stands: the namespace, and the types around it from the outside in. -/
structure Place where
  scope : String
  outer : List String

def Place.enterNamespace (place : Place) (name : String) : Place :=
  { place with scope := if place.scope = "" then name else place.scope ++ "." ++ name }

def Place.enterType (place : Place) (name : String) : Place :=
  { place with outer := place.outer ++ [name] }

variable (source : Source) (file : String)

def roleText? (n : Node) (role : Role) : Option String :=
  (Node.withRole? n.children role).map source.slice

def roleText (n : Node) (role : Role) : String := (roleText? source n role).getD ""

def trimmed (text : String) : String := String.ofList (Text.trim text.toList)

def modifiers (n : Node) : List String :=
  (n.children.filter (·.kind = .modifier)).map fun m => trimmed (source.slice m)

/- The node that names the type of a base-list entry. A base with constructor arguments holds it. -/
def baseType? (entry : Node) : Option Node :=
  match entry.kind with
  | .primaryBase =>
    (Node.withRole? entry.children .type).or (entry.children.find? (·.label.named))
  | .argumentList | .comment => none
  | _ => some entry

def baseRef? (entry : Node) : Option BaseRef :=
  match baseType? entry with
  | none => none
  | some n =>
    let text := trimmed (source.slice n)
    let (qualifier, name) := Names.splitReference text
    if text = "" ∨ name = "" then none else some ⟨text, name, qualifier⟩

def bases (n : Node) : List BaseRef :=
  match Node.ofKind? n.children .baseList with
  | none => []
  | some list => (list.children.filter (·.label.named)).filterMap (baseRef? source)

def property? (n : Node) : Option MemberDecl :=
  let name := roleText source n .name
  if name = "" then none
  else some ⟨name, "property", modifiers source n, roleText source n .type, source.line n⟩

/- Older grammars give the return type the role of a type. -/
def method? (n : Node) : Option MemberDecl :=
  let name := roleText source n .name
  let returns := roleText source n .returns
  if name = "" then none
  else some ⟨name, "method", modifiers source n,
    if returns = "" then roleText source n .type else returns, source.line n⟩

/-- The parameters of a record are public properties of it. -/
def recordProperty? (n : Node) : Option MemberDecl :=
  let name := roleText source n .name
  if n.kind ≠ .parameter ∨ name = "" then none
  else some ⟨name, "property", ["public"], roleText source n .type, source.line n⟩

def member? (n : Node) : Option MemberDecl :=
  match n.kind with
  | .property => property? source n
  | .method => method? source n
  | _ => none

/- The body is the child of that role or else the first child of the given kind. -/
def isBody (siblings : List Node) (kind : NodeKind) (n : Node) : Bool :=
  if (Node.withRole? siblings .body).isSome then n.label.role = some .body else n.kind = kind

def body? (n : Node) (kind : NodeKind) : Option Node := n.children.find? (isBody n.children kind)

def bodyOf (n : Node) (kind : NodeKind) : List Node := ((body? n kind).map (·.children)).getD []

/- Newer grammars have one kind of node for both kinds of record. -/
def declaredKind (n : Node) (kind : TypeKind) : TypeKind :=
  if kind = .record ∧ (Node.ofKind? n.children .structWord).isSome then .recordStruct else kind

def recordProperties (n : Node) (kind : TypeKind) : List MemberDecl :=
  if kind = .record ∨ kind = .recordStruct then
    match Node.ofKind? n.children .parameterList with
    | some parameters => parameters.children.filterMap (recordProperty? source)
    | none => []
  else []

def typeDeclaration (place : Place) (n : Node) (kind : TypeKind) : Declaration :=
  let kind := declaredKind n kind
  { name := roleText source n .name, kind := kind.text, file, scope := place.scope,
    outer := place.outer, modifiers := modifiers source n, bases := bases source n,
    members := recordProperties source n kind ++
      (bodyOf n .declarationList).filterMap (member? source),
    values := [], line := source.line n }

def enumValue? (n : Node) : Option String :=
  if n.kind = .enumMember then
    ((Node.withRole? n.children .name).or (Node.ofKind? n.children .identifier)).map source.slice
  else none

def enumDeclaration (place : Place) (n : Node) : Declaration :=
  { name := roleText source n .name, kind := TypeKind.enum.text, file, scope := place.scope,
    outer := place.outer, modifiers := modifiers source n, bases := [], members := [],
    values := (bodyOf n .enumMemberList).filterMap (enumValue? source), line := source.line n }

def declared (place : Place) (kind : TypeKind) (n : Node) : List Declaration :=
  if roleText source n .name = "" then []
  else if kind = .enum then [enumDeclaration source file place n]
  else [typeDeclaration source file place n kind]

inductive Level where
  | scope | body
  deriving DecidableEq, Repr

def placeAfter (level : Level) (place : Place) (n : Node) : Place :=
  if level = .scope ∧ n.kind = .namespaceLine then place.enterNamespace (roleText source n .name)
  else place

/- Whether a child of a declaration is the body to look for further ones in. An enum has none, and what
has no name is passed over with all it holds. -/
def isInner (kind : TypeKind) (parent child : Node) : Bool :=
  roleText source parent .name ≠ "" && kind ≠ .enum && isBody parent.children .declarationList child

mutual
/-- Declarations among some nodes. Namespaces only count where no type is around them. -/
def inside (level : Level) (place : Place) : List Node → List Declaration
  | [] => []
  | n :: rest => startingAt level place n ++ inside level (placeAfter source level place n) rest

def startingAt (level : Level) (place : Place) : Node → List Declaration
  | .mk label children =>
    let n := Node.mk label children
    let name := roleText source n .name
    match label.kind, level with
    | .declaration kind, _ =>
      declared source file place kind n ++
        inFirst (isInner source kind n) (place.enterType name) children
    | .namespaceBlock, .scope | .namespaceLine, .scope =>
      inside .scope (place.enterNamespace name) children
    | .declarationList, .scope => inside .scope place children
    | _, _ => []

def inFirst (isInner : Node → Bool) (place : Place) : List Node → List Declaration
  | [] => []
  | n :: rest => if isInner n then inBody place n else inFirst isInner place rest

def inBody (place : Place) : Node → List Declaration
  | .mk _ children => inside .body place children
end

/-- The declarations of a source file and its faults, if these are the nodes that its reader marked as
holding an error. -/
def markedUnit (marked : Node → Bool) (root : Node) : SourceUnit :=
  ⟨file, inside source file .scope ⟨"", []⟩ root.children, faults marked source file root⟩

def sourceUnit (root : Node) : SourceUnit := markedUnit source file Node.hasError root

end ClassChart.Syntax
