import ClassChart.Proofs.Syntax.Walk

/-! The search for the first fault against the plain one, which goes through all nodes of a tree in
pre-order. Where no fault is left unmarked, the subtrees that the search leaves out hold none, so what
is on its stack always has the same first fault as all that is still to come. -/
namespace ClassChart.Syntax

mutual
/-- All nodes of a tree: a node, then all that its children hold, child by child. -/
def Node.preorder : Node → List Node
  | .mk label children => .mk label children :: preorderAll children

def Node.preorderAll : List Node → List Node
  | [] => []
  | n :: rest => n.preorder ++ Node.preorderAll rest
end

namespace Node

theorem preorder_eq (n : Node) : n.preorder = n :: preorderAll n.children := by
  cases n
  rfl

theorem preorderAll_eq (nodes : List Node) : preorderAll nodes = nodes.flatMap preorder := by
  induction nodes with
  | nil => rfl
  | cons n rest ih => rw [preorderAll, ih, List.flatMap_cons]

theorem mem_preorder_self (n : Node) : n ∈ n.preorder := by
  rw [preorder_eq]
  exact List.mem_cons_self

theorem mem_preorder_of_child {n c m : Node} (hc : c ∈ n.children) (hm : m ∈ c.preorder) :
    m ∈ n.preorder := by
  rw [preorder_eq, preorderAll_eq]
  exact List.mem_cons_of_mem _ (List.mem_flatMap.mpr ⟨c, hc, hm⟩)

end Node

/-- No fault is left unmarked: each node of a tree that is a fault or holds one, however deep, is marked.
Others may be marked as well, each by itself, for labels tell them apart. -/
def Marks (marked : Node → Bool) (root : Node) : Prop :=
  ∀ n ∈ root.preorder, ∀ m ∈ n.preorder, m.isFault = true → marked n = true

section
variable {marked : Node → Bool} {root n : Node}

theorem Marks.child (h : Marks marked n) {c : Node} (hc : c ∈ n.children) : Marks marked c :=
  fun m hm => h m (Node.mem_preorder_of_child hc hm)

theorem Marks.no_fault (h : Marks marked n) (hn : marked n = false) :
    ∀ m ∈ n.preorder, m.isFault = false := by
  intro m hm
  by_contra hfault
  have hmarked := h n n.mem_preorder_self m hm (Bool.not_eq_false _ ▸ hfault)
  exact Bool.false_ne_true (hn.symm.trans hmarked)

theorem firstFault?_eq_find? {stack : List Node} (h : ∀ n ∈ stack, Marks marked n) :
    firstFault? marked stack = (Node.preorderAll stack).find? (·.isFault) := by
  induction stack using firstFault?.induct marked with
  | case1 => rw [firstFault?]; rfl
  | case2 n rest hfault =>
    rw [firstFault?, if_pos hfault, Node.preorderAll, Node.preorder_eq, List.cons_append,
      List.find?_cons_of_pos hfault]
  | case3 n rest hfault hmarked ih =>
    obtain ⟨hn, hrest⟩ := List.forall_mem_cons.mp h
    have hstack : ∀ m ∈ n.children ++ rest, Marks marked m := by
      intro m hm
      obtain hm | hm := List.mem_append.mp hm
      · exact hn.child hm
      · exact hrest m hm
    -- the children take the place of their parent at the top of the stack, as in pre-order
    have horder : Node.preorderAll (n :: rest) = n :: Node.preorderAll (n.children ++ rest) := by
      rw [Node.preorderAll, Node.preorder_eq, Node.preorderAll_eq, Node.preorderAll_eq,
        Node.preorderAll_eq, List.flatMap_append, List.cons_append]
    rw [firstFault?, if_neg hfault, if_pos hmarked, ih hstack, horder,
      List.find?_cons_of_neg hfault]
  | case4 n rest hfault hmarked ih =>
    obtain ⟨hn, hrest⟩ := List.forall_mem_cons.mp h
    have hnone : n.preorder.find? (·.isFault) = none := by
      rw [List.find?_eq_none]
      intro m hm hm'
      exact Bool.false_ne_true ((hn.no_fault (Bool.eq_false_iff.mpr hmarked) m hm).symm.trans hm')
    rw [firstFault?, if_neg hfault, if_neg hmarked, ih hrest, Node.preorderAll, List.find?_append,
      hnone, Option.none_or]

end

theorem Node.anyError_eq (nodes : List Node) : anyError nodes = nodes.any hasError := by
  induction nodes with
  | nil => rfl
  | cons n rest ih => rw [anyError, ih, List.any_cons]

theorem Node.hasError_of_fault {n m : Node} (hm : m ∈ n.preorder) (hfault : m.isFault = true) :
    n.hasError = true := by
  induction n using Node.induction with
  | h n ih =>
    obtain ⟨label, children⟩ := n
    rw [preorder_eq, preorderAll_eq, List.mem_cons, List.mem_flatMap] at hm
    rw [hasError, anyError_eq]
    obtain rfl | ⟨c, hc, hm⟩ := hm
    · have hown : (decide (label.kind = .error) || label.missing) = true := hfault
      rw [Bool.or_assoc label.flagged, hown, Bool.or_true, Bool.true_or]
    · have hbelow : children.any hasError = true := List.any_eq_true.mpr ⟨c, hc, ih c hc hm⟩
      rw [hbelow, Bool.or_true]

/-- A node that is said to hold an error where its label or a node below it says so is no worse marked
than it must be. -/
theorem hasError_marks (root : Node) : Marks Node.hasError root :=
  fun _ _ _ hm hfault => Node.hasError_of_fault hm hfault

/-- The search finds the first fault in pre-order, however many more nodes than it must be are marked.
Its line is the one that is reported, or the line of the root if there is no fault; and there is one
warning, which names that line, exactly if the root is marked. -/
theorem first_fault_reported (marked : Node → Bool) (source : Source) (file : String) (root : Node)
    (h : Marks marked root) :
    firstFault? marked [root] = root.preorder.find? (·.isFault) ∧
    faultLine marked source root =
      source.line ((root.preorder.find? (·.isFault)).getD root) ∧
    (markedUnit source file marked root).faults =
      if marked root then
        [⟨file, faultLine marked source root,
          "Syntax error near line " ++ toString (faultLine marked source root) ++
            "; declarations after it may be incomplete", .warning⟩]
      else [] := by
  have hfirst : firstFault? marked [root] = root.preorder.find? (·.isFault) := by
    rw [firstFault?_eq_find? (by simpa using h), Node.preorderAll, Node.preorderAll,
      List.append_nil]
  refine ⟨hfirst, ?_, rfl⟩
  rw [faultLine, hfirst]

/-- Before a bracket that was supplied stands a list that is marked and holds no fault; an error follows
on a later line. -/
theorem first_fault_reported_of_bracket :
    let source := Text.encode "class A\n\x7b List<int x;\n)\n"
    let node (kind : NodeKind) (start stop : Nat) (missing flagged : Bool) (children : List Node) :
        Node := .mk ⟨kind, start, stop, none, false, missing, flagged⟩ children
    let root := node (.other "compilation_unit") 0 24 false false [
      node (.declaration .class) 0 22 false false [
        node .identifier 6 7 false false [],
        node (.other "type_argument_list") 14 18 false true [node .identifier 15 18 false false []],
        node (.other ">") 18 18 true false []],
      node .error 22 23 false false []]
    Marks Node.hasError root ∧ (sourceUnit source "a.cs" root).faults =
      [⟨"a.cs", 2, "Syntax error near line 2; declarations after it may be incomplete",
        .warning⟩] := by
  intro source node root
  obtain ⟨_, hline, hfaults⟩ :=
    first_fault_reported Node.hasError source "a.cs" root (hasError_marks root)
  have htwo : faultLine Node.hasError source root = 2 := by
    rw [hline]
    decide +kernel
  refine ⟨hasError_marks root, hfaults.trans ?_⟩
  rw [htwo]
  decide +kernel

end ClassChart.Syntax
