import ClassChart.Proofs.Syntax.Walk

/-! Which declarations of a tree are found. Whether one is depends on what it is wrapped in. The walk
goes into namespaces and declaration lists as long as no type is around, and from a type only into its
body. Whatever stands in another wrapper, such as a conditional section or an error node, is lost. -/
namespace ClassChart.Syntax

/-- Whether the walk gets from the children of a node to an address below it. -/
def isOpen : Level → Node → Address → Bool
  | _, _, [] => false
  | _, _, [_] => true
  | level, n, i :: j :: rest =>
    match n.children[i]? with
    | none => false
    | some c =>
      match c.kind, level with
      | .declaration kind, _ =>
        match c.children[j]? with
        | none => false
        | some b => kind ≠ .enum && bodyIndex? c = some j && isOpen .body b rest
      | .namespaceBlock, .scope | .namespaceLine, .scope | .declarationList, .scope =>
        isOpen .scope c (j :: rest)
      | _, _ => false

def OuterNamed (source : Source) (n : Node) (a : Address) : Prop :=
  ∀ k < a.length, ∀ m kind, n.at? (a.take k) = some m → m.kind = .declaration kind →
    roleText source m .name ≠ ""

section
variable {source : Source} {n c : Node} {i : Nat} {a : Address}

theorem at?_cons (hc : n.children[i]? = some c) : n.at? (i :: a) = c.at? a := by
  simp [Node.at?, hc]

theorem OuterNamed.child (h : OuterNamed source n (i :: a)) (hc : n.children[i]? = some c) :
    OuterNamed source c a :=
  fun k hk m kind hm => h (k + 1) (Nat.succ_lt_succ hk) m kind ((at?_cons hc).trans hm)

theorem among_address_nil {level : Level} :
    ¬ ∃ s, Among source level n.children s ∧ s.address = [] := by
  rintro ⟨_, ⟨before, c, after, t, _, _, rfl⟩, hnil⟩
  exact absurd hnil (List.cons_ne_nil _ _)

theorem among_address_cons {level : Level} (hc : n.children[i]? = some c) :
    (∃ s, Among source level n.children s ∧ s.address = i :: a) ↔
      ∃ t, Holds source level c t ∧ t.address = a := by
  constructor
  · rintro ⟨_, ⟨before, m, after, t, hchildren, ht, rfl⟩, haddress⟩
    obtain ⟨rfl, rfl⟩ := List.cons.inj haddress
    have hm : n.children[before.length]? = some m := by simp [hchildren]
    obtain rfl : m = c := Option.some.inj (hm.symm.trans hc)
    exact ⟨t, ht, rfl⟩
  · rintro ⟨t, ht, rfl⟩
    obtain ⟨before, after, hchildren, rfl⟩ := exists_split_of_getElem? hc
    exact ⟨_, ⟨before, c, after, t, hchildren, ht, rfl⟩, rfl⟩

theorem holds_address_scope (hkind : n.kind = .namespaceBlock ∨ n.kind = .namespaceLine ∨
      n.kind = .declarationList) :
    (∃ t, Holds source .scope n t ∧ t.address = a) ↔
      ∃ s, Among source .scope n.children s ∧ s.address = a := by
  by_cases hlist : n.kind = .declarationList
  · simp only [holds_list hlist]
  · have hscope : n.kind = .namespaceBlock ∨ n.kind = .namespaceLine :=
      hkind.imp_right fun h => h.resolve_right hlist
    simp only [holds_scope hscope]
    constructor
    · rintro ⟨_, ⟨s, hs, rfl⟩, rfl⟩
      exact ⟨s, hs, rfl⟩
    · rintro ⟨s, hs, rfl⟩
      exact ⟨_, ⟨s, hs, rfl⟩, rfl⟩

theorem holds_address_body {level : Level} {kind : TypeKind} {b : Node} {j : Nat}
    (hkind : n.kind = .declaration kind) (hname : roleText source n .name ≠ "")
    (hb : n.children[j]? = some b) :
    (∃ t, Holds source level n t ∧ t.address = j :: a) ↔
      kind ≠ .enum ∧ bodyIndex? n = some j ∧
        ∃ s, Among source .body b.children s ∧ s.address = a := by
  simp only [holds_declaration hkind hname, InBody]
  constructor
  · rintro ⟨_, rfl | ⟨henum, i, b', hindex, hb', s, hs, rfl⟩, haddress⟩
    · exact absurd haddress.symm (List.cons_ne_nil _ _)
    · obtain ⟨rfl, rfl⟩ := List.cons.inj haddress
      obtain rfl : b' = b := Option.some.inj (hb'.symm.trans hb)
      exact ⟨henum, hindex, s, hs, rfl⟩
  · rintro ⟨henum, hindex, s, hs, rfl⟩
    exact ⟨_, .inr ⟨henum, j, b, hindex, hb, s, hs, rfl⟩, rfl⟩

/-- The walk finds a declaration that has a name, and named types around it, where it gets to. -/
theorem isOpen_iff {level : Level} {m : Node} {kind : TypeKind} (hat : n.at? a = some m)
    (hkind : m.kind = .declaration kind) (hname : roleText source m .name ≠ "")
    (houter : OuterNamed source n a) :
    isOpen level n a = true ↔ ∃ s, Among source level n.children s ∧ s.address = a := by
  fun_induction isOpen level n a with
  | case1 level n => simp only [Bool.false_eq_true, among_address_nil]
  | case2 level n i =>
    obtain ⟨c, hc, hcm⟩ := Option.bind_eq_some_iff.mp hat
    obtain rfl : c = m := Option.some.inj hcm
    rw [among_address_cons hc]
    exact iff_of_true rfl ⟨_, .itself hkind hname, rfl⟩
  | case3 level n i j rest hnone => simp [Node.at?, hnone] at hat
  | case4 level n i j rest c hc kind' hdeclaration hnone =>
    simp [Node.at?, hc, hnone] at hat
  | case5 level n i j rest c hc kind' hdeclaration b hb ih =>
    have hnamed : roleText source c .name ≠ "" :=
      houter 1 (by simp) c kind' (at?_cons hc) hdeclaration
    rw [at?_cons hc, at?_cons hb] at hat
    rw [among_address_cons hc, holds_address_body hdeclaration hnamed hb,
      ← ih hat ((houter.child hc).child hb)]
    simp [and_assoc]
  | case6 n i j rest c hc hblock ih =>
    rw [among_address_cons hc, holds_address_scope (.inl hblock)]
    exact ih (at?_cons hc ▸ hat) (houter.child hc)
  | case7 n i j rest c hc hline ih =>
    rw [among_address_cons hc, holds_address_scope (.inr (.inl hline))]
    exact ih (at?_cons hc ▸ hat) (houter.child hc)
  | case8 n i j rest c hc hlist ih =>
    rw [among_address_cons hc, holds_address_scope (.inr (.inr hlist))]
    exact ih (at?_cons hc ▸ hat) (houter.child hc)
  | case9 level n i j rest c hc hdeclaration hblock hline hlist =>
    rw [among_address_cons hc]
    refine iff_of_false Bool.false_ne_true ?_
    rintro ⟨t, ht, _⟩
    exact holds_other hdeclaration (fun hlevel => ⟨fun h => hblock h hlevel,
      fun h => hline h hlevel, fun h => hlist h hlevel⟩) ht

end

theorem Address.Before.ne {a b : Address} (h : a.Before b) : a ≠ b := by
  rintro rfl
  exact List.lex_irrefl Nat.lt_irrefl a h

/-- A declaration that has a name, with named types around it, gives one declaration if the walk gets
to it, and none otherwise. -/
theorem declaration_found_where_open (source : Source) (file : String) (root : Node) :
    ∃ spots : List Spot,
      List.Forall₂ (Spot.Declares source file) spots (sourceUnit source file root).declarations ∧
      (∀ s ∈ spots, root.at? s.address = some s.node) ∧
      ∀ a n kind, root.at? a = some n → n.kind = .declaration kind →
        roleText source n .name ≠ "" → OuterNamed source root a →
        (spots.map (·.address)).count a = if isOpen .scope root a then 1 else 0 := by
  obtain ⟨spots, hspots⟩ := declarations_enumerated source file root
  refine ⟨spots, hspots.declares, fun s hs => ((hspots.mem_iff s).mp hs).at?, ?_⟩
  intro a n kind hat hkind hname houter
  have hnodup : (spots.map (·.address)).Nodup :=
    hspots.ordered.imp Address.Before.ne
  have hmem : a ∈ spots.map (·.address) ↔ isOpen .scope root a = true := by
    rw [isOpen_iff hat hkind hname houter, List.mem_map]
    simp only [hspots.mem_iff]
  rw [hnodup.count]
  simp only [hmem]

def conditionalText : Source := Text.encode "#if DEBUG\nclass A { }\n#endif\nclass B { }"

def conditionalTree : Node :=
  let node (kind : NodeKind) (start stop : Nat) (role : Option Role) (children : List Node) : Node :=
    .mk ⟨kind, start, stop, role, true, false, false⟩ children
  let word (text : String) (start stop : Nat) : Node :=
    .mk ⟨.other text, start, stop, none, false, false, false⟩ []
  let classAt (start : Nat) : Node :=
    node (.declaration .class) start (start + 11) none [word "class" start (start + 5),
      node .identifier (start + 6) (start + 7) (some .name) [],
      node .declarationList (start + 8) (start + 11) (some .body) []]
  node (.other "compilation_unit") 0 40 none [
    node (.other "preproc_if") 0 28 none [word "#if" 0 3,
      node .identifier 4 9 (some (.other "condition")) [], classAt 10, word "#endif" 22 28],
    classAt 29]

theorem outerNamed_conditional {a : Address} (ha : a = [1] ∨ a = [0, 2]) :
    OuterNamed conditionalText conditionalTree a := by
  intro k hk m kind hm hkind
  obtain rfl | rfl := ha
  · obtain rfl : k = 0 := by simpa using hk
    obtain rfl := Option.some.inj hm
    cases hkind
  · obtain rfl | rfl : k = 0 ∨ k = 1 := by
      simp only [List.length_cons, List.length_nil] at hk
      omega
    · obtain rfl := Option.some.inj hm
      cases hkind
    · obtain rfl := Option.some.inj hm
      cases hkind

/-- The class after the conditional section is found, and stands at one spot. -/
theorem declaration_found_where_open_of_conditional :
    ∃ n, conditionalTree.at? [1] = some n ∧ n.kind = .declaration .class ∧
      roleText conditionalText n .name ≠ "" ∧ OuterNamed conditionalText conditionalTree [1] ∧
      ∃ spots : List Spot, List.Forall₂ (Spot.Declares conditionalText "a.cs") spots
          (sourceUnit conditionalText "a.cs" conditionalTree).declarations ∧
        (spots.map (·.address)).count [1] = 1 := by
  have houter := outerNamed_conditional (.inl rfl)
  obtain ⟨spots, hdeclares, _, hcount⟩ :=
    declaration_found_where_open conditionalText "a.cs" conditionalTree
  refine ⟨_, rfl, rfl, by decide +kernel, houter, spots, hdeclares, ?_⟩
  exact hcount [1] _ .class rfl rfl (by decide +kernel) houter

/-- The class in the conditional section has a name and no type around it, and is lost. -/
theorem conditional_declaration_lost :
    ∃ n, conditionalTree.at? [0, 2] = some n ∧ n.kind = .declaration .class ∧
      roleText conditionalText n .name = "A" ∧
      OuterNamed conditionalText conditionalTree [0, 2] ∧
      (sourceUnit conditionalText "a.cs" conditionalTree).declarations.map (·.name) = ["B"] :=
  ⟨_, rfl, rfl, by decide +kernel, outerNamed_conditional (.inr rfl), by decide +kernel⟩

end ClassChart.Syntax
