import ClassChart.Declaration.Basic

/-! The index of declared names. It stands in for the resolution of names by a compiler: a name that
it holds belongs to a type of these sources, any other to a library or a type parameter. The first
declaration of a name counts. -/
namespace ClassChart

structure Symbol where
  name : String
  kind : String
  scope : String
  qualifiedName : String
  deriving DecidableEq, Repr

def Declaration.symbol (d : Declaration) : Symbol := ⟨d.name, d.kind, d.scope, d.qualifiedName⟩

/-- Symbols by simple and by qualified name, in the order of first declaration. -/
structure Index where
  byName : List (String × Symbol)
  byQualified : List (String × Symbol)

namespace Index

def empty : Index := ⟨[], []⟩

def keepFirst (key : String) (s : Symbol) (entries : List (String × Symbol)) :
    List (String × Symbol) :=
  if entries.any (·.1 == key) then entries else entries ++ [(key, s)]

def add (index : Index) (d : Declaration) : Index :=
  ⟨keepFirst d.name d.symbol index.byName, keepFirst d.qualifiedName d.symbol index.byQualified⟩

def ofDeclarations (ds : List Declaration) : Index := ds.foldl add empty

def size (index : Index) : Nat := index.byQualified.length

/-- A name with a qualifier means the type of that qualified name, or else the first one whose
qualified name ends in it after a dot; one without means the first type of that simple name. A
qualifier that fits no declaration names something outside of these sources. -/
def lookup? (index : Index) (name : String) (qualifier : String) : Option Symbol :=
  if qualifier = "" then index.byName.lookup name
  else
    let full := qualifier ++ "." ++ name
    match index.byQualified.lookup full with
    | some s => some s
    | none =>
      (index.byQualified.find? fun entry => ('.' :: full.toList).isSuffixOf entry.1.toList).map (·.2)

end Index

/-- How names are judged: with the index at hand, if there is one, and with names of the system
namespaces left out, if they are to be. -/
structure NameRules where
  index : Option Index
  excludeSystem : Bool
  systemNamespaces : List String

end ClassChart
