import ClassChart.Chart.Outline
import ClassChart.Declaration.BaseRole
import ClassChart.Diagnostic
import ClassChart.Signature.References

/-! Putting the declarations of one type together. The first declaration gives the name and the kind;
base lists and members follow declaration by declaration. The first base type is kept, and another
one is reported if it stands in another declaration. Declarations are told apart by their places, also
where they are equal: no declaration is given twice. -/
namespace ClassChart

structure MergeRules where
  references : NameRules
  bases : NameRules
  floor : Visibility

inductive MergeError where
  | nothing
  | unknownKind (text : String)
  | unknownForm (text : String)
  deriving DecidableEq, Repr

def MergeError.message : MergeError → String
  | nothing => "project() needs at least one fragment"
  | unknownKind text => Text.quoted text
  | unknownForm text => Text.quoted text ++ " is not a valid MemberForm"

/-- What a declaration contributes, with its place among the declarations of its type. -/
inductive Contribution where
  | base (place : Nat) (source : Declaration) (entry : BaseRef)
  | member (source : Declaration) (decl : MemberDecl)

def Declaration.contributions (place : Nat) (d : Declaration) : List Contribution :=
  d.bases.map (.base place d) ++ d.members.map (.member d)

def contributionsFrom (place : Nat) : List Declaration → List Contribution
  | [] => []
  | d :: rest => d.contributions place ++ contributionsFrom (place + 1) rest

/-- A type under way. The base type comes with the place of the declaration that named it. -/
structure Draft where
  base : Option (String × Nat)
  interfaces : List String
  members : List Member
  notes : List Diagnostic

namespace Draft

def empty : Draft := ⟨none, [], [], []⟩

def note (draft : Draft) (d : Diagnostic) : Draft := { draft with notes := draft.notes ++ [d] }

def addInterface (draft : Draft) (name : String) : Draft :=
  if name ∈ draft.interfaces then draft
  else { draft with interfaces := draft.interfaces ++ [name] }

def otherBaseNote (type kept : String) (source : Declaration) (entry : BaseRef) : Diagnostic :=
  ⟨.warning, .merge, source.file, source.line,
    "Partial declaration of " ++ type ++ " names base type " ++ entry.name ++ "; keeping " ++ kept⟩

def addBase (draft : Draft) (type : String) (place : Nat) (source : Declaration) (entry : BaseRef) :
    Draft :=
  match draft.base with
  | none => { draft with base := some (entry.name, place) }
  | some (kept, origin) =>
    if entry.name ≠ kept ∧ place ≠ origin then draft.note (otherBaseNote type kept source entry)
    else draft

def signatureNote (source : Declaration) (decl : MemberDecl) (e : Signature.SyntaxError) :
    Diagnostic :=
  ⟨.warning, .signature, source.file, decl.line, e.message⟩

/- A member whose type text cannot be read is kept without references, and noted before its form is
looked at. -/
def addMember (draft : Draft) (rules : MergeRules) (visibility : Visibility)
    (source : Declaration) (decl : MemberDecl) : Draft × Option MergeError :=
  let (draft, found) := match Signature.references rules.references decl.typeText with
    | .ok found => (draft, found)
    | .error e => (draft.note (signatureNote source decl e), .none)
  match MemberForm.ofText? decl.form with
  | none => (draft, some (.unknownForm decl.form))
  | some form =>
    let m : Member := ⟨decl.name, visibility, form, decl.typeText, found.container, found.names⟩
    ({ draft with members := draft.members ++ [m] }, none)

def take (rules : MergeRules) (type : String) (kind : TypeKind) (draft : Draft) :
    Contribution → Draft × Option MergeError
  | .base place source entry =>
    match rules.bases.role? entry with
    | none => (draft, none)
    | some .interface => (draft.addInterface entry.name, none)
    | some .base => (draft.addBase type place source entry, none)
  | .member source decl =>
    let visibility := Visibility.ofModifiers decl.modifiers kind
    if rules.floor.reaches visibility then draft.addMember rules visibility source decl
    else (draft, none)

def takeAll (rules : MergeRules) (type : String) (kind : TypeKind) (draft : Draft) :
    List Contribution → Draft × Option MergeError
  | [] => (draft, none)
  | c :: rest =>
    match draft.take rules type kind c with
    | (draft, some e) => (draft, some e)
    | (draft, none) => draft.takeAll rules type kind rest

end Draft

/-- The outline, or why there is none, and what was noted on the way to either. -/
structure Merged where
  notes : List Diagnostic
  outcome : Except MergeError Outline

/-- One type from all its declarations. An enum has the values of the first and nothing else. -/
def merge (rules : MergeRules) : List Declaration → Merged
  | [] => ⟨[], .error .nothing⟩
  | first :: rest =>
    match TypeKind.ofText? first.kind with
    | none => ⟨[], .error (.unknownKind first.kind)⟩
    | some kind =>
      let outline : Outline :=
        ⟨first.name, kind, first.qualifiedName, first.scope, none, [], [], []⟩
      if kind = .enum then ⟨[], .ok { outline with values := first.values }⟩
      else
        let contributions := contributionsFrom 0 (first :: rest)
        match Draft.empty.takeAll rules first.qualifiedName kind contributions with
        | (draft, some e) => ⟨draft.notes, .error e⟩
        | (draft, none) => ⟨draft.notes, .ok { outline with
            base := draft.base.map (·.1), interfaces := draft.interfaces, members := draft.members }⟩

end ClassChart
