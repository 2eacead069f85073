import ClassChart.Proofs.Syntax.Spots
import Mathlib.Data.List.Forall2

/-! The declarations of a tree are those of its spots, in pre-order. The walk is followed node by
node: from what it answers for the children of a node comes what it answers for the node, and the
names that it has gathered on the way stand in front of those that the spots tell. -/
namespace ClassChart.Syntax

theorem Node.induction {motive : Node → Prop}
    (h : ∀ n, (∀ c ∈ n.children, motive c) → motive n) (n : Node) : motive n :=
  h n fun c _ => Node.induction h c
termination_by sizeOf n
decreasing_by
  next hc =>
  cases n with
  | mk label children =>
    have hlt : sizeOf c < sizeOf children := List.sizeOf_lt_of_mem hc
    simp only [mk.sizeOf_spec]
    omega

section
variable {names : List String}

theorem scopeOf_singleton (name : String) : scopeOf [name] = name := by
  by_cases h : name = "" <;> simp [scopeOf, Text.dotted, h]

theorem scopeOf_eq_empty_iff : scopeOf names = "" ↔ names.dropWhile (· = "") = [] := by
  constructor
  · intro h
    cases hkept : names.dropWhile (· = "") with
    | nil => rfl
    | cons name rest =>
      have hname : ¬ name = "" := by
        have hhead := List.head?_dropWhile_not (fun name : String => decide (name = "")) names
        simpa [hkept] using hhead
      rw [scopeOf, hkept, Text.dotted] at h
      cases rest with
      | nil => exact absurd (by simpa using h) hname
      | cons next rest => simp [String.intercalate_cons_cons, hname] at h
  · intro h
    rw [scopeOf, h]
    rfl

theorem scopeOf_concat (name : String) :
    scopeOf (names ++ [name]) =
      if scopeOf names = "" then name else scopeOf names ++ "." ++ name := by
  rw [if_congr scopeOf_eq_empty_iff rfl rfl]
  have hconcat : (names ++ [name]).dropWhile (· = "") =
      if names.dropWhile (· = "") = [] then [name].dropWhile (· = "")
      else names.dropWhile (· = "") ++ [name] := by
    rw [List.dropWhile_append]
    simp only [List.isEmpty_iff]
  unfold scopeOf
  rw [hconcat]
  split
  · exact scopeOf_singleton name
  · next hne =>
    rw [Text.dotted, String.intercalate_append_of_ne_nil hne (List.cons_ne_nil _ _),
      String.intercalate_singleton, Text.dotted]

end

def placeOf (names outer : List String) : Place := ⟨scopeOf names, outer⟩

theorem enterNamespace_placeOf (names outer : List String) (name : String) :
    (placeOf names outer).enterNamespace name = placeOf (names ++ [name]) outer := by
  have hplace : placeOf (names ++ [name]) outer = ⟨_, outer⟩ :=
    congrArg (Place.mk · outer) (scopeOf_concat name)
  exact hplace.symm

theorem enterType_placeOf (names outer : List String) (name : String) :
    (placeOf names outer).enterType name = placeOf names (outer ++ [name]) := rfl

theorem placeAfter_placeOf (source : Source) (level : Level) (names outer : List String) (n : Node) :
    placeAfter source level (placeOf names outer) n =
      placeOf (names ++ reaching source level [n]) outer := by
  unfold placeAfter reaching
  by_cases hlevel : level = .scope
  · by_cases hkind : n.kind = .namespaceLine
    · simp [hlevel, hkind, enterNamespace_placeOf]
    · simp [hlevel, hkind]
  · simp [hlevel]

variable (source : Source) (file : String)

/-- A list of declarations that is exactly what stands at the spots that `P` tells, in pre-order.
The names of the namespaces and types passed before stand in front of those of a spot. -/
structure Enumerates (P : Spot → Prop) (names outer : List String) (spots : List Spot)
    (ds : List Declaration) : Prop where
  ordered : (spots.map (·.address)).Pairwise Address.Before
  mem_iff : ∀ s, s ∈ spots ↔ P s
  declares : List.Forall₂ (fun s d =>
    { s with namespaces := names ++ s.namespaces, types := outer ++ s.types : Spot }.Declares
      source file d) spots ds

namespace Enumerates
variable {source : Source} {file : String} {P Q : Spot → Prop} {names outer : List String}
  {spots spots' : List Spot} {ds ds' : List Declaration}

theorem nil (h : ∀ s, ¬ P s) : Enumerates source file P names outer [] [] :=
  ⟨List.Pairwise.nil, fun s => ⟨fun hs => absurd hs List.not_mem_nil, fun hs => absurd hs (h s)⟩,
    .nil⟩

theorem congr (h : Enumerates source file P names outer spots ds) (hPQ : ∀ s, P s ↔ Q s) :
    Enumerates source file Q names outer spots ds :=
  ⟨h.ordered, fun s => (h.mem_iff s).trans (hPQ s), h.declares⟩

theorem append (h : Enumerates source file P names outer spots ds)
    (h' : Enumerates source file Q names outer spots' ds')
    (hbefore : ∀ s s', P s → Q s' → s.address.Before s'.address) :
    Enumerates source file (fun s => P s ∨ Q s) names outer (spots ++ spots') (ds ++ ds') := by
  refine ⟨?_, fun s => ?_, List.rel_append h.declares h'.declares⟩
  · rw [List.map_append, List.pairwise_append]
    refine ⟨h.ordered, h'.ordered, fun a ha a' ha' => ?_⟩
    obtain ⟨s, hs, rfl⟩ := List.mem_map.mp ha
    obtain ⟨s', hs', rfl⟩ := List.mem_map.mp ha'
    exact hbefore s s' ((h.mem_iff s).mp hs) ((h'.mem_iff s').mp hs')
  · rw [List.mem_append, h.mem_iff, h'.mem_iff]

/- The spots seen from further out. What stands in front of them there is less by what they have more
of their own. -/
theorem map (names outer : List String) (f : Spot → Spot) {names' outer' : List String}
    (h : Enumerates source file P names' outer' spots ds)
    (hnamespaces : ∀ s, names ++ (f s).namespaces = names' ++ s.namespaces)
    (htypes : ∀ s, outer ++ (f s).types = outer' ++ s.types) (hnode : ∀ s, (f s).node = s.node)
    (horder : ∀ s s', s.address.Before s'.address → (f s).address.Before (f s').address) :
    Enumerates source file (fun s => ∃ t, P t ∧ s = f t) names outer (spots.map f) ds := by
  refine ⟨?_, fun s => ?_, ?_⟩
  · rw [List.map_map, List.pairwise_map]
    exact (List.pairwise_map.mp h.ordered).imp fun hlt => horder _ _ hlt
  · simp only [List.mem_map, h.mem_iff, eq_comm]
  · refine List.forall₂_map_left_iff.mpr (h.declares.imp fun s d hd => ?_)
    rw [hnamespaces, htypes, hnode]
    exact ⟨hd.name, hd.scope, hd.outer, hd.whole⟩

end Enumerates

/-! What the relation says of a node of each kind. -/

section
variable {source : Source} {level : Level} {n : Node} {kind : TypeKind} {s : Spot}

theorem holds_unnamed (hkind : n.kind = .declaration kind) (hname : roleText source n .name = "") :
    ¬ Holds source level n s := by
  intro h
  cases h with
  | itself _ hnamed => exact hnamed hname
  | scope hscope => simp [hkind] at hscope
  | list hlist => simp [hkind] at hlist
  | body _ hnamed => exact hnamed hname

def InBody (source : Source) (kind : TypeKind) (n : Node) (s : Spot) : Prop :=
  kind ≠ .enum ∧ ∃ i b, bodyIndex? n = some i ∧ n.children[i]? = some b ∧
    ∃ t, Among source .body b.children t ∧ s = t.inType (roleText source n .name) i

theorem holds_declaration (hkind : n.kind = .declaration kind)
    (hname : roleText source n .name ≠ "") :
    Holds source level n s ↔ s = ⟨[], [], [], n⟩ ∨ InBody source kind n s := by
  constructor
  · intro h
    cases h with
    | itself => exact .inl rfl
    | scope hscope => simp [hkind] at hscope
    | list hlist => simp [hkind] at hlist
    | body hkind' _ henum hindex hbody hchildren hc =>
      obtain rfl := NodeKind.declaration.inj (hkind.symm.trans hkind')
      exact .inr ⟨henum, _, _, hindex, hbody, _, ⟨_, _, _, _, hchildren, hc, rfl⟩, rfl⟩
  · rintro (rfl | ⟨henum, i, b, hindex, hbody, _, ⟨_, _, _, _, hchildren, hc, rfl⟩, rfl⟩)
    · exact .itself hkind hname
    · exact .body hkind hname henum hindex hbody hchildren hc

theorem holds_scope (hkind : n.kind = .namespaceBlock ∨ n.kind = .namespaceLine) :
    Holds source .scope n s ↔ ∃ t, Among source .scope n.children t ∧
      s = t.inNamespace (roleText source n .name) := by
  constructor
  · intro h
    cases h with
    | itself hdeclaration => simp [hdeclaration] at hkind
    | scope _ hchildren hc => exact ⟨_, ⟨_, _, _, _, hchildren, hc, rfl⟩, rfl⟩
    | list hlist => simp [hlist] at hkind
    | body hdeclaration => simp [hdeclaration] at hkind
  · rintro ⟨_, ⟨_, _, _, _, hchildren, hc, rfl⟩, rfl⟩
    exact .scope hkind hchildren hc

theorem holds_list (hkind : n.kind = .declarationList) :
    Holds source .scope n s ↔ Among source .scope n.children s := by
  constructor
  · intro h
    cases h with
    | itself hdeclaration => simp [hdeclaration] at hkind
    | scope hscope => simp [hkind] at hscope
    | list _ hchildren hc => exact ⟨_, _, _, _, hchildren, hc, rfl⟩
    | body hdeclaration => simp [hdeclaration] at hkind
  · rintro ⟨_, _, _, _, hchildren, hc, rfl⟩
    exact .list hkind hchildren hc

theorem holds_other (hdeclaration : ∀ kind, n.kind ≠ .declaration kind)
    (hscope : level = .scope →
      n.kind ≠ .namespaceBlock ∧ n.kind ≠ .namespaceLine ∧ n.kind ≠ .declarationList) :
    ¬ Holds source level n s := by
  intro h
  cases h with
  | itself hkind => exact hdeclaration _ hkind
  | scope hkind => exact hkind.elim (hscope rfl).1 (hscope rfl).2.1
  | list hkind => exact (hscope rfl).2.2 hkind
  | body hkind => exact hdeclaration _ hkind

def Address.later : Address → Address
  | [] => []
  | i :: rest => (i + 1) :: rest

theorem Address.later_before {a b : Address} (h : a.Before b) : a.later.Before b.later := by
  cases h with
  | nil => exact .nil
  | cons hrest => exact .cons hrest
  | rel hlt => exact .rel (Nat.succ_lt_succ hlt)

def Spot.past (source : Source) (level : Level) (n : Node) (s : Spot) : Spot :=
  { s with
    address := s.address.later
    namespaces := reaching source level [n] ++ s.namespaces }

theorem reaching_nil (source : Source) (level : Level) : reaching source level [] = [] := by
  cases level <;> rfl

theorem reaching_cons (source : Source) (level : Level) (n : Node) (nodes : List Node) :
    reaching source level (n :: nodes) =
      reaching source level [n] ++ reaching source level nodes := by
  cases level with
  | body => rfl
  | scope => simp only [reaching, if_true, ← List.map_append, ← List.filter_append,
      List.singleton_append]

theorem behind_cons (source : Source) (level : Level) (n : Node) (before : List Node) (s : Spot) :
    s.behind source level (n :: before) = (s.behind source level before).past source level n := by
  rw [Spot.behind, reaching_cons, List.append_assoc]
  rfl

theorem not_among_nil : ¬ Among source level [] s := by
  rintro ⟨before, n, after, _, hnil, _⟩
  cases before <;> simp at hnil

theorem among_cons {rest : List Node} :
    Among source level (n :: rest) s ↔
      (∃ t, Holds source level n t ∧ s = t.behind source level []) ∨
        ∃ t, Among source level rest t ∧ s = t.past source level n := by
  constructor
  · rintro ⟨before, m, after, t, hsplit, hm, rfl⟩
    cases before with
    | nil =>
      obtain ⟨rfl, rfl⟩ := List.cons.inj hsplit
      exact .inl ⟨t, hm, rfl⟩
    | cons _ before =>
      obtain ⟨rfl, rfl⟩ := List.cons.inj hsplit
      exact .inr ⟨_, ⟨before, m, after, t, rfl, hm, rfl⟩, behind_cons ..⟩
  · rintro (⟨t, ht, rfl⟩ | ⟨_, ⟨before, m, after, t, rfl, hm, rfl⟩, rfl⟩)
    · exact ⟨[], n, rest, t, rfl, ht, rfl⟩
    · exact ⟨n :: before, m, after, t, rfl, hm, (behind_cons ..).symm⟩

end

/-! What the walk answers for a node of each kind. -/

section
variable {source : Source} {file : String} {level : Level} {place : Place} {n : Node}
  {kind : TypeKind}

theorem startingAt_declaration (hkind : n.kind = .declaration kind) :
    startingAt source file level place n = declared source file place kind n ++
      inFirst source file (isInner source kind n) (place.enterType (roleText source n .name))
        n.children := by
  cases n with
  | mk label children =>
    have hlabel : label.kind = .declaration kind := hkind
    simp only [startingAt, hlabel, Node.children]

theorem startingAt_scope (hkind : n.kind = .namespaceBlock ∨ n.kind = .namespaceLine) :
    startingAt source file .scope place n =
      inside source file .scope (place.enterNamespace (roleText source n .name)) n.children := by
  cases n with
  | mk label children =>
    have hlabel : label.kind = .namespaceBlock ∨ label.kind = .namespaceLine := hkind
    rcases hlabel with hlabel | hlabel <;> simp only [startingAt, hlabel, Node.children]

theorem startingAt_list (hkind : n.kind = .declarationList) :
    startingAt source file .scope place n = inside source file .scope place n.children := by
  cases n with
  | mk label children =>
    have hlabel : label.kind = .declarationList := hkind
    simp only [startingAt, hlabel, Node.children]

theorem startingAt_other (hdeclaration : ∀ kind, n.kind ≠ .declaration kind)
    (hscope : level = .scope →
      n.kind ≠ .namespaceBlock ∧ n.kind ≠ .namespaceLine ∧ n.kind ≠ .declarationList) :
    startingAt source file level place n = [] := by
  cases n with
  | mk label children =>
    unfold startingAt
    split
    · next kind hkind => exact absurd hkind (hdeclaration kind)
    · next hkind => exact absurd hkind (hscope rfl).1
    · next hkind => exact absurd hkind (hscope rfl).2.1
    · next hkind => exact absurd hkind (hscope rfl).2.2
    · rfl

theorem inFirst_none {p : Node → Bool} {nodes : List Node} (h : nodes.findIdx? p = none) :
    inFirst source file p place nodes = [] := by
  induction nodes with
  | nil => rfl
  | cons n rest ih =>
    rw [List.findIdx?_cons] at h
    rw [inFirst]
    split at h
    · simp at h
    · next hp =>
      rw [if_neg hp]
      exact ih (Option.map_eq_none_iff.mp h)

theorem inFirst_some {p : Node → Bool} {nodes : List Node} {i : Nat} {b : Node}
    (h : nodes.findIdx? p = some i) (hb : nodes[i]? = some b) :
    inFirst source file p place nodes = inside source file .body place b.children := by
  induction nodes generalizing i with
  | nil => simp at h
  | cons n rest ih =>
    rw [List.findIdx?_cons] at h
    rw [inFirst]
    split at h
    · next hp =>
      obtain rfl := Option.some.inj h
      obtain rfl := Option.some.inj hb
      rw [if_pos hp]
      cases n
      rfl
    · next hp =>
      obtain ⟨j, hj, rfl⟩ := Option.map_eq_some_iff.mp h
      rw [if_neg hp]
      exact ih hj hb

/-! The walk is followed node by node. -/

def Walked (source : Source) (file : String) (n : Node) : Prop :=
  ∀ level names outer, ∃ spots, Enumerates source file (Among source level n.children) names outer
    spots (inside source file level (placeOf names outer) n.children)

theorem declared_named (file : String) (hkind : n.kind = .declaration kind)
    (hname : roleText source n .name ≠ "") (s : Spot) (hnode : s.node = n) :
    ∃ d, declared source file (placeOf s.namespaces s.types) kind n = [d] ∧
      s.Declares source file d := by
  subst hnode
  by_cases henum : kind = .enum
  · have hdeclared : declared source file (placeOf s.namespaces s.types) kind s.node =
        [enumDeclaration source file (placeOf s.namespaces s.types) s.node] := by
      rw [declared, if_neg hname, if_pos henum]
    exact ⟨_, hdeclared, rfl, rfl, rfl, kind, hkind, hdeclared⟩
  · have hdeclared : declared source file (placeOf s.namespaces s.types) kind s.node =
        [typeDeclaration source file (placeOf s.namespaces s.types) s.node kind] := by
      rw [declared, if_neg hname, if_neg henum]
    exact ⟨_, hdeclared, rfl, rfl, rfl, kind, hkind, hdeclared⟩

theorem walked_body (hname : roleText source n .name ≠ "")
    (hinner : ∀ b ∈ n.children, Walked source file b) (names outer : List String) :
    ∃ spots, Enumerates source file (InBody source kind n) names outer spots
      (inFirst source file (isInner source kind n)
        (placeOf names (outer ++ [roleText source n .name])) n.children) := by
  by_cases henum : kind = .enum
  · have hfirst : n.children.findIdx? (isInner source kind n) = none := by
      simp [List.findIdx?_eq_none_iff, isInner, henum]
    rw [inFirst_none hfirst]
    exact ⟨[], .nil fun s hs => hs.1 henum⟩
  have hisInner : isInner source kind n = isBody n.children .declarationList := by
    funext b
    simp [isInner, hname, henum]
  rw [hisInner]
  cases hindex : bodyIndex? n with
  | none =>
    rw [inFirst_none hindex]
    exact ⟨[], .nil fun s => by simp [InBody, hindex]⟩
  | some i =>
    obtain ⟨hi, _⟩ := List.findIdx?_eq_some_iff_getElem.mp hindex
    have hbody : n.children[i]? = some n.children[i] := List.getElem?_eq_getElem hi
    rw [inFirst_some hindex hbody]
    obtain ⟨spots, hspots⟩ := hinner n.children[i] (List.getElem_mem hi) .body names
      (outer ++ [roleText source n .name])
    have hinside := hspots.map names outer (Spot.inType (roleText source n .name) i)
      (fun _ => rfl) (fun s => (List.append_assoc outer [_] s.types).symm) (fun _ => rfl)
      (fun _ _ hlt => .cons hlt)
    exact ⟨_, hinside.congr fun s => by simp [InBody, henum, hindex, hbody]⟩

theorem walked_declaration (hkind : n.kind = .declaration kind)
    (hinner : ∀ b ∈ n.children, Walked source file b) (level : Level) (names outer : List String) :
    ∃ spots, Enumerates source file (Holds source level n) names outer spots
      (startingAt source file level (placeOf names outer) n) := by
  rw [startingAt_declaration hkind]
  by_cases hname : roleText source n .name = ""
  · have hfirst : n.children.findIdx? (isInner source kind n) = none := by
      simp [List.findIdx?_eq_none_iff, isInner, hname]
    rw [declared, if_pos hname, inFirst_none hfirst]
    exact ⟨[], .nil fun s => holds_unnamed hkind hname⟩
  obtain ⟨d, hd, hdeclares⟩ := declared_named file hkind hname ⟨[], names, outer, n⟩ rfl
  change declared source file (placeOf names outer) kind n = [d] at hd
  have hitself : Enumerates source file (· = ⟨[], [], [], n⟩) names outer [⟨[], [], [], n⟩] [d] := by
    refine ⟨List.pairwise_singleton _ _, fun s => List.mem_singleton, .cons ?_ .nil⟩
    simpa only [List.append_nil] using hdeclares
  obtain ⟨spots, hspots⟩ := walked_body hname hinner names outer
  -- the declaration comes before what stands in its body
  have hall := hitself.append hspots (by
    rintro _ _ rfl ⟨_, _, _, _, _, t, _, rfl⟩
    exact .nil)
  rw [hd, enterType_placeOf]
  exact ⟨_, hall.congr fun s => (holds_declaration hkind hname).symm⟩

theorem walked_startingAt (h : Walked source file n)
    (hinner : ∀ b ∈ n.children, Walked source file b) (level : Level) (names outer : List String) :
    ∃ spots, Enumerates source file (Holds source level n) names outer spots
      (startingAt source file level (placeOf names outer) n) := by
  by_cases hdeclaration : ∃ kind, n.kind = .declaration kind
  · obtain ⟨kind, hkind⟩ := hdeclaration
    exact walked_declaration hkind hinner level names outer
  have hdeclaration := not_exists.mp hdeclaration
  by_cases hother : level = .scope → n.kind ≠ .namespaceBlock ∧ n.kind ≠ .namespaceLine ∧
      n.kind ≠ .declarationList
  · rw [startingAt_other hdeclaration hother]
    exact ⟨[], .nil fun s => holds_other hdeclaration hother⟩
  obtain ⟨rfl, hkind⟩ := Classical.not_imp.mp hother
  by_cases hlist : n.kind = .declarationList
  · obtain ⟨spots, hspots⟩ := h .scope names outer
    rw [startingAt_list hlist]
    exact ⟨spots, hspots.congr fun s => (holds_list hlist).symm⟩
  · have hscope : n.kind = .namespaceBlock ∨ n.kind = .namespaceLine := by
      by_contra hneither
      exact hkind ⟨fun hb => hneither (.inl hb), fun hl => hneither (.inr hl), hlist⟩
    obtain ⟨spots, hspots⟩ := h .scope (names ++ [roleText source n .name]) outer
    rw [startingAt_scope hscope, enterNamespace_placeOf]
    have houtside := hspots.map names outer (Spot.inNamespace (roleText source n .name))
      (fun s => (List.append_assoc names [_] s.namespaces).symm) (fun _ => rfl) (fun _ => rfl)
      (fun _ _ hlt => hlt)
    exact ⟨_, houtside.congr fun s => (holds_scope hscope).symm⟩

theorem walked_inside (source : Source) (file : String) {nodes : List Node}
    (h : ∀ n ∈ nodes, Walked source file n ∧ ∀ b ∈ n.children, Walked source file b)
    (level : Level) (names outer : List String) :
    ∃ spots, Enumerates source file (Among source level nodes) names outer spots
      (inside source file level (placeOf names outer) nodes) := by
  induction nodes generalizing names with
  | nil => exact ⟨[], .nil fun s => not_among_nil⟩
  | cons n rest ih =>
    obtain ⟨hn, hrest⟩ := List.forall_mem_cons.mp h
    obtain ⟨own, hown⟩ := walked_startingAt hn.1 hn.2 level names outer
    obtain ⟨others, hothers⟩ := ih hrest (names ++ reaching source level [n])
    rw [inside, placeAfter_placeOf]
    have hfirst := hown.map names outer (Spot.behind source level [])
      (fun s => by rw [Spot.behind, reaching_nil, List.nil_append]) (fun _ => rfl) (fun _ => rfl)
      (fun _ _ hlt => .cons hlt)
    have hlater := hothers.map names outer (Spot.past source level n)
      (fun s => (List.append_assoc names _ s.namespaces).symm) (fun _ => rfl) (fun _ => rfl)
      (fun _ _ hlt => Address.later_before hlt)
    have hall := hfirst.append hlater (by
      rintro _ _ ⟨t, _, rfl⟩ ⟨_, ⟨before, _, _, t', _, _, rfl⟩, rfl⟩
      exact .rel (Nat.succ_pos _))
    exact ⟨_, hall.congr fun s => among_cons.symm⟩

theorem walked (source : Source) (file : String) (n : Node) : Walked source file n := by
  have hboth : Walked source file n ∧ ∀ b ∈ n.children, Walked source file b := by
    induction n using Node.induction with
    | h n ih => exact ⟨walked_inside source file ih, fun b hb => (ih b hb).1⟩
  exact hboth.1

end

theorem declarations_enumerated (source : Source) (file : String) (root : Node) :
    ∃ spots, Enumerates source file (Among source .scope root.children) [] [] spots
      (sourceUnit source file root).declarations :=
  walked source file root .scope [] []

end ClassChart.Syntax
