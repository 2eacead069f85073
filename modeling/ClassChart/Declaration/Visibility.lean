/-! How visible a member is. -/
namespace ClassChart

inductive Visibility where
  | priv | prot | intern | pub
  deriving DecidableEq, Repr

namespace Visibility

def all : List Visibility := [priv, prot, intern, pub]

def rank : Visibility → Nat
  | priv => 0
  | prot => 1
  | intern => 2
  | pub => 3

def reaches (floor v : Visibility) : Bool := floor.rank ≤ v.rank

def text : Visibility → String
  | priv => "private"
  | prot => "protected"
  | intern => "internal"
  | pub => "public"

end Visibility
end ClassChart
