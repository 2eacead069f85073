import ClassChart.Declaration.Kind

/-! One logical type, after all its declarations have been put together. -/
namespace ClassChart

structure Member where
  name : String
  visibility : Visibility
  form : MemberForm
  typeText : String
  container : Option String
  references : List String
  deriving DecidableEq, Repr

structure Outline where
  name : String
  kind : TypeKind
  qualifiedName : String
  scope : String
  base : Option String
  interfaces : List String
  members : List Member
  values : List String
  deriving DecidableEq, Repr

namespace Outline

def properties (o : Outline) : List Member := o.members.filter (·.form = .property)
def methods (o : Outline) : List Member := o.members.filter (·.form = .method)

end Outline
end ClassChart
