import ClassChart.Proofs.List.ByKey
import ClassChart.Proofs.Syntax.Walk

/-! The declarations of a tree in pre-order, each with the namespaces and types around it, and their
independence of what follows. Two trees may differ in everything after a declaration, at its own level
and at those further out, as long as what encloses it keeps its name: they give the same one. -/
namespace ClassChart.Syntax
variable (source : Source)

/-- Nodes with one head: of the same kind, in the same role, and with the same name. How far they extend
is left open. Of a declaration that may have its body elsewhere, also whether a child is marked as the
body. -/
structure SameHead (n n' : Node) : Prop where
  kind : n.kind = n'.kind
  role : n.label.role = n'.label.role
  name : roleText source n .name = roleText source n' .name
  body : ∀ kind, n.kind = .declaration kind →
    (Node.withRole? n.children .body).isSome = (Node.withRole? n'.children .body).isSome

/-- Siblings that are the same up to the end of the node at an address. What encloses that node has the
same head, and all that follows may differ. -/
inductive SameUpTo : Address → List Node → List Node → Prop
  | here (before : List Node) (n : Node) (after after' : List Node) :
      SameUpTo [before.length] (before ++ n :: after) (before ++ n :: after')
  | inside {a : Address} {n n' : Node} (before after after' : List Node)
      (hhead : SameHead source n n') (hinside : SameUpTo a n.children n'.children) :
      SameUpTo (before.length :: a) (before ++ n :: after) (before ++ n' :: after')

section
variable {source : Source} {a : Address} {level : Level} {n n' : Node} {s : Spot}

theorem SameUpTo.split {before after nodes : List Node} {c : Node}
    (h : SameUpTo source (before.length :: a) (before ++ c :: after) nodes) :
    ∃ c' after', nodes = before ++ c' :: after' ∧
      (a = [] ∧ c' = c ∨ SameHead source c c' ∧ SameUpTo source a c.children c'.children) := by
  generalize haddress : before.length :: a = address at h
  generalize hnodes : before ++ c :: after = siblings at h
  cases h with
  | here before' m after₁ after₂ =>
    obtain ⟨hlength, rfl⟩ := List.cons.inj haddress
    obtain ⟨rfl, hrest⟩ := List.append_inj hnodes hlength
    obtain ⟨rfl, rfl⟩ := List.cons.inj hrest
    exact ⟨c, after₂, rfl, .inl ⟨rfl, rfl⟩⟩
  | @inside a' m m' before' after₁ after₂ hhead hinside =>
    obtain ⟨hlength, rfl⟩ := List.cons.inj haddress
    obtain ⟨rfl, hrest⟩ := List.append_inj hnodes hlength
    obtain ⟨rfl, rfl⟩ := List.cons.inj hrest
    exact ⟨m', after₂, rfl, .inr ⟨hhead, hinside⟩⟩

theorem not_sameUpTo_nil {nodes nodes' : List Node} : ¬ SameUpTo source [] nodes nodes' := nofun

theorem findIdx?_split {α : Type} {p : α → Bool} {before after : List α} {x : α} :
    (before ++ x :: after).findIdx? p = some before.length ↔
      (∀ y ∈ before, p y = false) ∧ p x = true := by
  induction before with
  | nil => by_cases hx : p x = true <;> simp [List.findIdx?_cons, hx]
  | cons y rest ih =>
    rw [List.cons_append, List.findIdx?_cons]
    by_cases hy : p y = true
    · simp [hy]
    · simpa [hy] using ih

theorem SameHead.bodyIndex? {kind : TypeKind} {ahead behind behind' : List Node} {b b' : Node}
    (hhead : SameHead source n n') (hkind : n.kind = .declaration kind)
    (hchildren : n.children = ahead ++ b :: behind)
    (hchildren' : n'.children = ahead ++ b' :: behind') (hbodies : SameHead source b b')
    (hindex : Syntax.bodyIndex? n = some ahead.length) :
    Syntax.bodyIndex? n' = some ahead.length := by
  have hisBody : isBody n'.children .declarationList = isBody n.children .declarationList := by
    funext m
    simp only [isBody, hhead.body kind hkind]
  unfold Syntax.bodyIndex? at hindex ⊢
  rw [hchildren, findIdx?_split, ← hchildren] at hindex
  rw [hchildren', findIdx?_split, ← hchildren', hisBody]
  refine ⟨hindex.1, ?_⟩
  have hsame : isBody n.children .declarationList b' = isBody n.children .declarationList b := by
    unfold isBody
    rw [hbodies.kind, hbodies.role]
  exact hsame.trans hindex.2

theorem Holds.of_sameUpTo (h : Holds source level n s)
    (hsame : s.address = [] ∧ n' = n ∨
      SameHead source n n' ∧ SameUpTo source s.address n.children n'.children) :
    Holds source level n' s := by
  induction h generalizing n' with
  | itself hkind hname =>
    obtain ⟨_, rfl⟩ | ⟨_, hnil⟩ := hsame
    · exact .itself hkind hname
    · exact absurd hnil not_sameUpTo_nil
  | scope hkind hchildren hc ih =>
    obtain ⟨hnil, _⟩ | ⟨hhead, hinside⟩ := hsame
    · exact absurd hnil (List.cons_ne_nil _ _)
    · rw [hchildren] at hinside
      obtain ⟨c', after', hchildren', hsame⟩ := hinside.split
      rw [hhead.name]
      rw [hhead.kind] at hkind
      exact .scope hkind hchildren' (ih hsame)
  | list hkind hchildren hc ih =>
    obtain ⟨hnil, _⟩ | ⟨hhead, hinside⟩ := hsame
    · exact absurd hnil (List.cons_ne_nil _ _)
    · rw [hchildren] at hinside
      obtain ⟨c', after', hchildren', hsame⟩ := hinside.split
      rw [hhead.kind] at hkind
      exact .list hkind hchildren' (ih hsame)
  | @body _ n b c kind i before after s hkind hname henum hindex hbody hchildren hc ih =>
    obtain ⟨hnil, _⟩ | ⟨hhead, hinside⟩ := hsame
    · exact absurd hnil (List.cons_ne_nil _ _)
    obtain ⟨ahead, behind, hsplit, rfl⟩ := exists_split_of_getElem? hbody
    have hinside : SameUpTo source (ahead.length :: before.length :: s.address)
        (ahead ++ b :: behind) n'.children := hsplit ▸ hinside
    obtain ⟨b', behind', hsplit', ⟨hnil, _⟩ | ⟨hbodies, hinside⟩⟩ := hinside.split
    · exact absurd hnil (List.cons_ne_nil _ _)
    have hindex' := hhead.bodyIndex? hkind hsplit hsplit' hbodies hindex
    have hbody' : n'.children[ahead.length]? = some b' := by simp [hsplit']
    rw [hchildren] at hinside
    obtain ⟨c', after', hchildren', hsame⟩ := hinside.split
    rw [hhead.kind] at hkind
    rw [hhead.name] at hname ⊢
    exact .body hkind hname henum hindex' hbody' hchildren' (ih hsame)

theorem Among.of_sameUpTo {nodes nodes' : List Node} (h : Among source level nodes s)
    (hsame : SameUpTo source s.address nodes nodes') : Among source level nodes' s := by
  obtain ⟨before, n, after, s, rfl, hn, rfl⟩ := h
  have hsame : SameUpTo source (before.length :: s.address) (before ++ n :: after) nodes' := hsame
  obtain ⟨n', after', rfl, hnode⟩ := hsame.split
  exact ⟨before, n', after', s, rfl, hn.of_sameUpTo hnode, rfl⟩

theorem Spot.Declares.unique {file : String} {d d' : Declaration} (h : s.Declares source file d)
    (h' : s.Declares source file d') : d = d' := by
  obtain ⟨kind, hkind, hd⟩ := h.whole
  obtain ⟨kind', hkind', hd'⟩ := h'.whole
  obtain rfl := NodeKind.declaration.inj (hkind.symm.trans hkind')
  exact List.singleton_inj.mp (hd.symm.trans hd')

end

/-- What a tree declares is what stands at the spots that lead to declarations, each once and in
pre-order. What follows a declaration does not change it. -/
theorem declarations_in_preorder (source : Source) (file : String) (root : Node) :
    ∃ spots : List Spot,
      (spots.map (·.address)).Pairwise Address.Before ∧
      (∀ s, s ∈ spots ↔ Among source .scope root.children s) ∧
      List.Forall₂ (Spot.Declares source file) spots (sourceUnit source file root).declarations ∧
      ∀ s ∈ spots, root.at? s.address = some s.node ∧
        ∀ root' d, SameUpTo source s.address root.children root'.children →
          s.Declares source file d → d ∈ (sourceUnit source file root').declarations := by
  obtain ⟨spots, hspots⟩ := declarations_enumerated source file root
  refine ⟨spots, hspots.ordered, hspots.mem_iff, hspots.declares, fun s hs => ?_⟩
  have hamong := (hspots.mem_iff s).mp hs
  refine ⟨hamong.at?, fun root' d hsame hd => ?_⟩
  obtain ⟨spots', hspots'⟩ := declarations_enumerated source file root'
  have hs' : s ∈ spots' := (hspots'.mem_iff s).mpr (hamong.of_sameUpTo hsame)
  obtain ⟨d', hd'mem, hd'⟩ := exists_of_forall₂ hspots'.declares hs'
  exact hd.unique hd' ▸ hd'mem

/-- A class after a namespace line. The same class is there with another such line behind it. -/
theorem declarations_in_preorder_of_later_line :
    let source := Text.encode "namespace A; class B { } namespace C;"
    let node (kind : NodeKind) (start stop : Nat) (role : Option Role) (children : List Node) :
        Node := .mk ⟨kind, start, stop, role, true, false, false⟩ children
    let line (start : Nat) := node .namespaceLine start (start + 12) none
      [node .identifier (start + 10) (start + 11) (some .name) []]
    let body := node .declarationList 21 24 (some .body) []
    let type := node (.declaration .class) 13 24 none [node .identifier 19 20 (some .name) [], body]
    let root (stop : Nat) (after : List Node) :=
      node (.other "compilation_unit") 0 stop none ([line 0] ++ type :: after)
    ∃ (s : Spot) (d : Declaration), s.Declares source "a.cs" d ∧ d.qualifiedName = "A.B" ∧
      SameUpTo source s.address (root 24 []).children (root 37 [line 25]).children ∧
      d ∈ (sourceUnit source "a.cs" (root 37 [line 25])).declarations := by
  intro source node line body type root
  obtain ⟨spots, _, hmem, hdeclares, hindependent⟩ :=
    declarations_in_preorder source "a.cs" (root 24 [])
  let s : Spot := Spot.behind source .scope [line 0] ⟨[], [], [], type⟩
  have hs : s ∈ spots :=
    (hmem s).mpr ⟨_, _, _, _, rfl, .itself rfl (by decide +kernel), rfl⟩
  obtain ⟨d, _, hd⟩ := exists_of_forall₂ hdeclares hs
  have hsame : SameUpTo source s.address (root 24 []).children (root 37 [line 25]).children :=
    .here [line 0] type [] [line 25]
  have hqualified : d.qualifiedName = "A.B" := by
    rw [Declaration.qualifiedName, Declaration.path, hd.scope, hd.outer, hd.name]
    decide +kernel
  exact ⟨s, d, hd, hqualified, hsame, (hindependent s hs).2 _ d hsame hd⟩

end ClassChart.Syntax
