import ClassChart.Text.Pieces

/-! Membership of a namespace in a list of namespace prefixes, by whole segments: `System.IO` lies
under `System`, and `Systemic` does not. -/
namespace ClassChart.Names

def isUnder (scope head : String) : Bool :=
  scope == head || (head.toList ++ ['.']).isPrefixOf scope.toList

def isUnderAny (scope : String) (heads : List String) : Bool := heads.any (isUnder scope)

def startsWithAny (name : String) (heads : List String) : Bool :=
  heads.any fun head => head.toList.isPrefixOf name.toList

def systemDefaults : List String := ["System", "Microsoft"]

end ClassChart.Names
