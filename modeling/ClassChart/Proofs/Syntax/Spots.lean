import ClassChart.Syntax.Declarations

/-! Where declarations stand in a syntax tree. A spot is the way down to a node, with the names of the
namespaces and types that it passes. Which spots hold a declaration is said by a relation that follows
one such way, and knows nothing of what comes after it. -/
namespace ClassChart.Syntax

/-- The way from a node down to one below it: which child is taken at each step. -/
abbrev Address := List Nat

/-- Addresses in pre-order. What a node holds comes after it and before its later siblings. -/
def Address.Before : Address → Address → Prop := List.Lex (· < ·)

def Node.at? (n : Node) : Address → Option Node
  | [] => some n
  | i :: rest => n.children[i]?.bind (·.at? rest)

/-- A node with its address, the names of the namespaces that reach it and those of the types around
it, both from the outside in. -/
structure Spot where
  address : Address
  namespaces : List String
  types : List String
  node : Node

/-- The namespace that nested names make; empty names in front leave no trace. -/
def scopeOf (names : List String) : String := Text.dotted (names.dropWhile (· = ""))

variable (source : Source)

/-- The namespaces that some siblings declare for all that comes after them. They do so only where
namespaces may stand. -/
def reaching (level : Level) (siblings : List Node) : List String :=
  if level = .scope then
    (siblings.filter (·.kind = .namespaceLine)).map (roleText source · .name)
  else []

namespace Spot

def behind (level : Level) (before : List Node) (s : Spot) : Spot :=
  { s with
    address := before.length :: s.address
    namespaces := reaching source level before ++ s.namespaces }

def inNamespace (name : String) (s : Spot) : Spot := { s with namespaces := name :: s.namespaces }

/-- A spot in the body of a type, the body being the child of that index. -/
def inType (name : String) (body : Nat) (s : Spot) : Spot :=
  { s with address := body :: s.address, types := name :: s.types }

structure Declares (file : String) (s : Spot) (d : Declaration) : Prop where
  name : d.name = roleText source s.node .name
  scope : d.scope = scopeOf s.namespaces
  outer : d.outer = s.types
  whole : ∃ kind, s.node.kind = .declaration kind ∧
    declared source file ⟨scopeOf s.namespaces, s.types⟩ kind s.node = [d]

end Spot

def bodyIndex? (n : Node) : Option Nat := n.children.findIdx? (isBody n.children .declarationList)

/-- The spots of the declarations that a node is or holds. A namespace and a declaration list hold
what stands among their children. A type other than an enum holds what stands directly in its body. -/
inductive Holds : Level → Node → Spot → Prop
  | itself {level : Level} {n : Node} {kind : TypeKind} (hkind : n.kind = .declaration kind)
      (hname : roleText source n .name ≠ "") : Holds level n ⟨[], [], [], n⟩
  | scope {n c : Node} {before after : List Node} {s : Spot}
      (hkind : n.kind = .namespaceBlock ∨ n.kind = .namespaceLine)
      (hchildren : n.children = before ++ c :: after) (hc : Holds .scope c s) :
      Holds .scope n ((s.behind source .scope before).inNamespace (roleText source n .name))
  | list {n c : Node} {before after : List Node} {s : Spot} (hkind : n.kind = .declarationList)
      (hchildren : n.children = before ++ c :: after) (hc : Holds .scope c s) :
      Holds .scope n (s.behind source .scope before)
  | body {level : Level} {n b c : Node} {kind : TypeKind} {i : Nat} {before after : List Node}
      {s : Spot} (hkind : n.kind = .declaration kind) (hname : roleText source n .name ≠ "")
      (henum : kind ≠ .enum) (hindex : bodyIndex? n = some i) (hbody : n.children[i]? = some b)
      (hchildren : b.children = before ++ c :: after) (hc : Holds .body c s) :
      Holds level n ((s.behind source .body before).inType (roleText source n .name) i)

def Among (level : Level) (siblings : List Node) (s : Spot) : Prop :=
  ∃ before n after inner, siblings = before ++ n :: after ∧ Holds source level n inner ∧
    s = inner.behind source level before

theorem exists_split_of_getElem? {α : Type} {l : List α} {i : Nat} {x : α} (h : l[i]? = some x) :
    ∃ before after, l = before ++ x :: after ∧ before.length = i := by
  obtain ⟨hi, rfl⟩ := List.getElem?_eq_some_iff.mp h
  refine ⟨l.take i, l.drop (i + 1), ?_, List.length_take_of_le (Nat.le_of_lt hi)⟩
  rw [List.getElem_cons_drop, List.take_append_drop]

variable {source : Source} {level : Level} {n : Node} {s : Spot}

theorem at?_child {before after : List Node} {c : Node} {a : Address}
    (hchildren : n.children = before ++ c :: after) : n.at? (before.length :: a) = c.at? a := by
  simp [Node.at?, hchildren]

theorem Holds.at? (h : Holds source level n s) : n.at? s.address = some s.node := by
  induction h with
  | itself => rfl
  | scope _ hchildren _ ih => exact (at?_child hchildren).trans ih
  | list _ hchildren _ ih => exact (at?_child hchildren).trans ih
  | @body _ n b c _ i before _ s _ _ _ _ hbody hchildren _ ih =>
    have hstep : n.at? (i :: before.length :: s.address) = b.at? (before.length :: s.address) := by
      simp [Node.at?, hbody]
    exact hstep.trans ((at?_child hchildren).trans ih)

theorem Among.at? (h : Among source level n.children s) : n.at? s.address = some s.node := by
  obtain ⟨before, c, after, s, hchildren, hc, rfl⟩ := h
  exact (at?_child hchildren).trans hc.at?

end ClassChart.Syntax
