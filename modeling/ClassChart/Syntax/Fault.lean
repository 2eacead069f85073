import ClassChart.Declaration.Basic
import ClassChart.Syntax.Node

/-! The first fault of a tree: the error node or the supplied node that comes first in depth-first
order. The search keeps a stack of the nodes still to be looked at and leaves out every subtree that
is not marked as one that holds an error. Which nodes are marked is the reader's affair. -/
namespace ClassChart.Syntax

mutual
def Node.size : Node → Nat
  | .mk _ children => sizes children + 1

def Node.sizes : List Node → Nat
  | [] => 0
  | n :: rest => n.size + Node.sizes rest
end

theorem Node.size_eq (n : Node) : n.size = Node.sizes n.children + 1 := by
  cases n; rfl

theorem Node.sizes_append (a b : List Node) : sizes (a ++ b) = sizes a + sizes b := by
  induction a with
  | nil => simp [sizes]
  | cons n rest ih => simp [sizes, ih]; omega

variable (marked : Node → Bool)

def firstFault? : List Node → Option Node
  | [] => none
  | n :: rest =>
    if n.isFault then some n
    else if marked n then firstFault? (n.children ++ rest)
    else firstFault? rest
termination_by stack => Node.sizes stack
decreasing_by
  · rw [Node.sizes_append, Node.sizes, Node.size_eq n]; omega
  · rw [Node.sizes, Node.size_eq n]; omega

def faultLine (source : Source) (root : Node) : Nat :=
  source.line ((firstFault? marked [root]).getD root)

/-- A tree that holds an error gives one warning, with the line of the first fault. -/
def faults (source : Source) (file : String) (root : Node) : List ReadFault :=
  if marked root then
    let line := faultLine marked source root
    [⟨file, line, "Syntax error near line " ++ toString line ++
      "; declarations after it may be incomplete", .warning⟩]
  else []

end ClassChart.Syntax
