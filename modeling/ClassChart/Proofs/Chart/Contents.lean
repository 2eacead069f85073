import ClassChart.Proofs.Chart.Taking
import ClassChart.Proofs.List.ByKey

/-! What a merge comes to, read off the declarations without a draft. Whether it succeeds depends on
kinds, forms and the floor alone. If it does, the base type is the first entry with that role, the
interfaces are the distinct entries with the other one, and the members are those that reach the
floor, each on its own. -/
namespace ClassChart

/-- The base type that the base lists give: the first entry with that role. -/
def baseOf (bases : NameRules) (ds : List Declaration) : Option String :=
  ((ds.flatMap (·.bases)).find? fun entry => bases.role? entry = some .base).map (·.name)

def interfacesOf (bases : NameRules) (ds : List Declaration) : List String :=
  (((ds.flatMap (·.bases)).filter fun entry => bases.role? entry = some .interface).map
    (·.name)).eraseDups

def membersOf (rules : MergeRules) (kind : TypeKind) (ds : List Declaration) : List Member :=
  (ds.flatMap (·.members)).filterMap (·.member? rules kind)

/- Why declarations of a known kind cannot be merged; the members of an enum are not looked at. -/
def faultOf? (floor : Visibility) (kind : TypeKind) (ds : List Declaration) : Option MergeError :=
  if kind = .enum then none else (ds.flatMap (·.members)).findSome? (·.fault? floor kind)

/-- The outline that the declarations of a type describe; the first of them is its head. -/
def described (rules : MergeRules) (kind : TypeKind) (first : Declaration)
    (rest : List Declaration) : Outline :=
  if kind = .enum then
    ⟨first.name, kind, first.qualifiedName, first.scope, none, [], [], first.values⟩
  else
    ⟨first.name, kind, first.qualifiedName, first.scope, baseOf rules.bases (first :: rest),
      interfacesOf rules.bases (first :: rest), membersOf rules kind (first :: rest), []⟩

def remarksOf (rules : MergeRules) (kind : TypeKind) (first : Declaration)
    (rest : List Declaration) : List Diagnostic :=
  if kind = .enum then []
  else
    let cs := contributionsFrom 0 (first :: rest)
    cs.filterMap (Contribution.note? rules first.qualifiedName kind
      (cs.findSome? (Contribution.base? rules.bases)))

section
variable {rules : MergeRules} {kind : TypeKind} {first : Declaration} {rest : List Declaration}

theorem findSome?_base (bases : NameRules) (cs : List Contribution) :
    (cs.findSome? (Contribution.base? bases)).map (·.1) =
      ((cs.filterMap Contribution.entry?).find? fun entry =>
        bases.role? entry = some .base).map (·.name) := by
  induction cs with
  | nil => rfl
  | cons c rest ih =>
    cases c with
    | member source decl => exact ih
    | base place source entry =>
      have hentries : (Contribution.base place source entry :: rest).filterMap Contribution.entry? =
          entry :: rest.filterMap Contribution.entry? := rfl
      rw [hentries, List.findSome?_cons, List.find?_cons]
      by_cases hrole : bases.role? entry = some .base
      · simp [Contribution.base?, hrole]
      · rw [Contribution.base?, if_neg hrole, decide_eq_false hrole]
        exact ih

theorem filterMap_interface (bases : NameRules) (cs : List Contribution) :
    cs.filterMap (Contribution.interface? bases) =
      ((cs.filterMap Contribution.entry?).filter fun entry =>
        bases.role? entry = some .interface).map (·.name) := by
  rw [List.filter_filterMap, List.map_filterMap]
  rfl

theorem Draft.Holds.outline {type : String} {draft : Draft}
    (h : Holds rules type kind (contributionsFrom 0 (first :: rest)) draft) (hkind : kind ≠ .enum) :
    (⟨first.name, kind, first.qualifiedName, first.scope, draft.base.map (·.1), draft.interfaces,
      draft.members, []⟩ : Outline) = described rules kind first rest := by
  have hmembers : (contributionsFrom 0 (first :: rest)).filterMap
      (Contribution.member? rules kind) = membersOf rules kind (first :: rest) := by
    rw [membersOf, ← decls_contributionsFrom 0, List.filterMap_filterMap]
    rfl
  rw [described, if_neg hkind, h.base, findSome?_base, h.interfaces, filterMap_interface,
    h.members, hmembers, entries_contributionsFrom, baseOf, interfacesOf]

theorem findSome?_fault (floor : Visibility) (kind : TypeKind) (cs : List Contribution) :
    cs.findSome? (Contribution.fault? floor kind) =
      (cs.filterMap Contribution.decl?).findSome? (·.fault? floor kind) := by
  induction cs with
  | nil => rfl
  | cons c rest ih =>
    cases c with
    | base place source entry => exact ih
    | member source decl =>
      have hdecls : (Contribution.member source decl :: rest).filterMap Contribution.decl? =
          decl :: rest.filterMap Contribution.decl? := rfl
      rw [hdecls, List.findSome?_cons, List.findSome?_cons, ih]
      rfl

theorem faultOf?_eq (rules : MergeRules) (type : String) (hkind : kind ≠ .enum)
    (ds : List Declaration) : faultOf? rules.floor kind ds =
      (Draft.empty.takeAll rules type kind (contributionsFrom 0 ds)).2 := by
  rw [faultOf?, if_neg hkind, Draft.takeAll_fault, findSome?_fault, decls_contributionsFrom]

/-- All members have a form that there is. -/
def Declaration.KnownForms (d : Declaration) : Prop :=
  ∀ decl ∈ d.members, ∃ form : MemberForm, decl.form = form.text

theorem MemberForm.ofText?_text (form : MemberForm) : ofText? form.text = some form := by
  cases form <;> decide

theorem faultOf?_eq_none {ds : List Declaration} (h : ∀ d ∈ ds, d.KnownForms) (floor : Visibility)
    (kind : TypeKind) : faultOf? floor kind ds = none := by
  unfold faultOf?
  split
  · rfl
  · refine List.findSome?_eq_none_iff.mpr fun decl hdecl => ?_
    obtain ⟨d, hd, hdecl⟩ := List.mem_flatMap.mp hdecl
    obtain ⟨form, hform⟩ := h d hd decl hdecl
    simp [MemberDecl.fault?, hform, MemberForm.ofText?_text]

theorem merge_unknownKind (hkind : TypeKind.ofText? first.kind = none) :
    merge rules (first :: rest) = ⟨[], .error (.unknownKind first.kind)⟩ := by
  simp only [merge, hkind]

theorem merge_described (hkind : TypeKind.ofText? first.kind = some kind)
    (hfault : faultOf? rules.floor kind (first :: rest) = none) :
    merge rules (first :: rest) =
      ⟨remarksOf rules kind first rest, .ok (described rules kind first rest)⟩ := by
  simp only [merge, hkind]
  by_cases henum : kind = .enum
  · simp only [if_pos henum, remarksOf, described]
  · rw [faultOf?_eq rules first.qualifiedName henum] at hfault
    rw [if_neg henum]
    split
    · next draft e htake => simp [htake] at hfault
    · next draft htake =>
      have hholds := Draft.Holds.empty.takeAll htake
      rw [List.nil_append] at hholds
      rw [hholds.outline henum, hholds.notes, hholds.base, remarksOf, if_neg henum]

theorem merge_fault {e : MergeError} (hkind : TypeKind.ofText? first.kind = some kind)
    (hfault : faultOf? rules.floor kind (first :: rest) = some e) :
    (merge rules (first :: rest)).outcome = .error e := by
  simp only [merge, hkind]
  by_cases henum : kind = .enum
  · simp [faultOf?, henum] at hfault
  · rw [faultOf?_eq rules first.qualifiedName henum] at hfault
    rw [if_neg henum]
    split
    · next draft e' htake =>
      rw [htake] at hfault
      exact congrArg Except.error (Option.some.inj hfault)
    · next draft htake => simp [htake] at hfault

theorem described_of_merge {o : Outline} (h : (merge rules (first :: rest)).outcome = .ok o) :
    o = described rules o.kind first rest ∧
      (merge rules (first :: rest)).notes = remarksOf rules o.kind first rest := by
  obtain ⟨_, _, _, hkind⟩ := merge_head h
  cases hfault : faultOf? rules.floor o.kind (first :: rest) with
  | some e => simp [merge_fault hkind hfault] at h
  | none =>
    rw [merge_described hkind hfault] at h ⊢
    exact ⟨(Except.ok.inj h).symm, rfl⟩

end

def Member.bare (m : Member) : Member := { m with references := [] }

section
variable {rules rules' : MergeRules}

theorem MemberDecl.found_container (names names' : NameRules) (decl : MemberDecl) :
    (decl.found names).container = (decl.found names').container := by
  unfold found Signature.references
  cases Text.allBlank decl.typeText with
  | true => rfl
  | false => cases Signature.read decl.typeText <;> rfl

theorem MemberDecl.found_subset {names names' : NameRules}
    (h : ∀ occurrence, Signature.survives names occurrence = true →
      Signature.survives names' occurrence = true) (decl : MemberDecl) :
    (decl.found names).names ⊆ (decl.found names').names := by
  unfold found Signature.references
  cases Text.allBlank decl.typeText with
  | true => exact List.Subset.refl _
  | false =>
    cases Signature.read decl.typeText with
    | error e => exact List.Subset.refl _
    | ok e =>
      intro name hname
      change name ∈ (Signature.referencesIn names e).names at hname
      change name ∈ (Signature.referencesIn names' e).names
      rw [Signature.referencesIn_eq] at hname ⊢
      obtain ⟨occurrence, hoccurrence, rfl⟩ := List.mem_map.mp (List.mem_eraseDups.mp hname)
      obtain ⟨hmem, hsurvives⟩ := List.mem_filter.mp hoccurrence
      refine List.mem_eraseDups.mpr (List.mem_map.mpr ⟨occurrence, ?_, rfl⟩)
      exact List.mem_filter.mpr ⟨hmem, h occurrence hsurvives⟩

/- A member under two rules with one floor, its references compared by `S`. -/
theorem MemberDecl.member?_rel {S : List String → List String → Prop}
    (hfloor : rules.floor = rules'.floor) (kind : TypeKind) (decl : MemberDecl)
    (hS : S (decl.found rules.references).names (decl.found rules'.references).names) :
    Option.Rel (fun m m' => m.bare = m'.bare ∧ S m.references m'.references)
      (decl.member? rules kind) (decl.member? rules' kind) := by
  unfold member?
  rw [hfloor]
  split
  · cases MemberForm.ofText? decl.form with
    | none => exact .none
    | some form =>
      refine .some ⟨?_, hS⟩
      simp only [Member.bare, decl.found_container rules.references rules'.references]
  · exact .none

theorem membersOf_rel {S : List String → List String → Prop} (hfloor : rules.floor = rules'.floor)
    (hS : ∀ decl : MemberDecl,
      S (decl.found rules.references).names (decl.found rules'.references).names)
    (kind : TypeKind) (ds : List Declaration) :
    List.Forall₂ (fun m m' => m.bare = m'.bare ∧ S m.references m'.references)
      (membersOf rules kind ds) (membersOf rules' kind ds) := by
  have hsame : List.Forall₂ Eq (ds.flatMap (·.members)) (ds.flatMap (·.members)) :=
    List.forall₂_same.mpr fun _ _ => rfl
  refine List.rel_filterMap (fun decl decl' heq => ?_) hsame
  subst heq
  exact decl.member?_rel hfloor kind (hS decl)

theorem membersOf_bare (hfloor : rules.floor = rules'.floor) (kind : TypeKind)
    (ds : List Declaration) :
    (membersOf rules kind ds).map Member.bare = (membersOf rules' kind ds).map Member.bare := by
  have hrel := membersOf_rel (S := fun _ _ => True) hfloor (fun _ => trivial) kind ds
  exact forall₂_map_eq_iff.mp (hrel.imp fun _ _ h => h.1)

end
end ClassChart
