import ClassChart.Proofs.Build.Comparison
import ClassChart.Proofs.Chart.Mentions

/-! Building with and without the system types. To leave them out takes references away and adds
none. Base entries are left out by the namespace that the index resolves them to, so a base type
changes only where the entry that gave it was resolved into a system namespace. -/
namespace ClassChart

/-- The entry is resolved into a system namespace. -/
def NameRules.ResolvesToSystem (rules : NameRules) (entry : BaseRef) : Prop :=
  ∃ s, rules.index.bind (·.lookup? entry.name entry.qualifier) = some s ∧
    Names.isUnderAny s.scope rules.systemNamespaces = true

/- The same names under two rules, of which the first leaves the system types out. -/
section
variable (rules : NameRules)

theorem survives_excluding (occurrence : String × String)
    (h : Signature.survives { rules with excludeSystem := true } occurrence = true) :
    Signature.survives { rules with excludeSystem := false } occurrence = true := by
  simp only [Signature.survives, Bool.and_eq_true] at h ⊢
  exact ⟨h.1, rfl⟩

theorem role?_excluding (entry : BaseRef) :
    NameRules.role? { rules with excludeSystem := true } entry =
        NameRules.role? { rules with excludeSystem := false } entry ∨
      NameRules.role? { rules with excludeSystem := true } entry = none ∧
        rules.ResolvesToSystem entry := by
  unfold NameRules.role? NameRules.ResolvesToSystem
  cases hlookup : rules.index.bind (·.lookup? entry.name entry.qualifier) with
  | none => exact .inl rfl
  | some s =>
    cases hunder : Names.isUnderAny s.scope rules.systemNamespaces with
    | true => exact .inr ⟨by simp [hunder], s, rfl, hunder⟩
    | false => exact .inl (by simp [hunder])

theorem role?_of_excluding {entry : BaseRef} {role : BaseRole}
    (h : NameRules.role? { rules with excludeSystem := true } entry = some role) :
    NameRules.role? { rules with excludeSystem := false } entry = some role := by
  cases role?_excluding rules entry with
  | inl heq => rw [← heq, h]
  | inr hnone => simp [hnone.1] at h

theorem baseOf_excluding (ds : List Declaration) :
    baseOf { rules with excludeSystem := true } ds =
        baseOf { rules with excludeSystem := false } ds ∨
      ∃ entry ∈ ds.flatMap (·.bases), rules.ResolvesToSystem entry ∧
        baseOf { rules with excludeSystem := false } ds = some entry.name := by
  have hsearch := find?_narrower
    (p := fun entry => NameRules.role? { rules with excludeSystem := true } entry = some .base)
    (q := fun entry => NameRules.role? { rules with excludeSystem := false } entry = some .base)
    (fun entry h => by simpa using role?_of_excluding rules (of_decide_eq_true h))
    (ds.flatMap (·.bases))
  cases hsearch with
  | inl heq => exact .inl (congrArg (Option.map BaseRef.name) heq)
  | inr hother =>
    obtain ⟨entry, hentry, hfound, hnot⟩ := hother
    refine .inr ⟨entry, hentry, ?_, ?_⟩
    · have hrole := List.find?_some hfound
      cases role?_excluding rules entry with
      | inl heq => exact absurd (heq.trans (of_decide_eq_true hrole)) (of_decide_eq_false hnot)
      | inr hnone => exact hnone.2
    · rw [baseOf, hfound]
      rfl

theorem interfacesOf_excluding (ds : List Declaration) :
    interfacesOf { rules with excludeSystem := true } ds ⊆
      interfacesOf { rules with excludeSystem := false } ds := by
  intro name hname
  obtain ⟨entry, hentry, rfl⟩ := List.mem_map.mp (List.mem_eraseDups.mp hname)
  obtain ⟨hmem, hrole⟩ := List.mem_filter.mp hentry
  refine List.mem_eraseDups.mpr (List.mem_map.mpr ⟨entry, List.mem_filter.mpr ⟨hmem, ?_⟩, rfl⟩)
  exact decide_eq_true (role?_of_excluding rules (of_decide_eq_true hrole))

theorem membersOf_excluding (bases bases' : NameRules) (floor : Visibility) (kind : TypeKind)
    (ds : List Declaration) :
    List.Forall₂ (fun m m' => m.bare = m'.bare ∧ m.references ⊆ m'.references)
      (membersOf ⟨{ rules with excludeSystem := true }, bases, floor⟩ kind ds)
      (membersOf ⟨{ rules with excludeSystem := false }, bases', floor⟩ kind ds) := by
  have hfewer : ∀ decl : MemberDecl, (decl.found { rules with excludeSystem := true }).names ⊆
      (decl.found { rules with excludeSystem := false }).names :=
    MemberDecl.found_subset (survives_excluding rules)
  apply membersOf_rel
  · rfl
  · exact hfewer

theorem role?_excluding_of_no_index (h : rules.index = none) :
    NameRules.role? { rules with excludeSystem := true } =
      NameRules.role? { rules with excludeSystem := false } := by
  funext entry
  simp only [NameRules.role?, h, Option.bind_none]

end

namespace Build

/-- The index, if it is used, resolves the entry into a system namespace. -/
def ResolvesToSystem (s : Settings) (units : List SourceUnit) (entry : BaseRef) : Prop :=
  s.useSymbols = true ∧ ∃ symbol,
    (Index.ofDeclarations (declarationsOf units)).lookup? entry.name entry.qualifier =
        some symbol ∧
      Names.isUnderAny symbol.scope s.systemNamespaces = true

/-- `o` is the outline without the system types, `o'` the one with them. -/
structure Pruned (s : Settings) (units : List SourceUnit) (o o' : Outline) : Prop where
  name : o.name = o'.name
  kind : o.kind = o'.kind
  qualifiedName : o.qualifiedName = o'.qualifiedName
  scope : o.scope = o'.scope
  values : o.values = o'.values
  members : List.Forall₂ (fun m m' => m.bare = m'.bare ∧ m.references ⊆ m'.references)
    o.members o'.members
  interfaces : o.interfaces ⊆ o'.interfaces
  base : o.base ≠ o'.base → ∃ d ∈ declarationsOf units, d.qualifiedName = o'.qualifiedName ∧
    ∃ entry ∈ d.bases, o'.base = some entry.name ∧ ResolvesToSystem s units entry
  by_names : s.useSymbols = false → o.base = o'.base ∧ o.interfaces = o'.interfaces

variable {s : Settings} {units : List SourceUnit}

theorem Pruned.references_subset {o o' : Outline} (h : Pruned s units o o') :
    o.mentions .dependency ⊆ o'.mentions .dependency := by
  intro name hname
  obtain ⟨m, hm, hname⟩ := List.mem_flatMap.mp hname
  obtain ⟨m', hm', hmember⟩ := exists_of_forall₂ h.members hm
  exact List.mem_flatMap.mpr ⟨m', hm', hmember.2 hname⟩

theorem Pruned.supertypes_eq {o o' : Outline} (h : Pruned s units o o')
    (hsymbols : s.useSymbols = false) :
    ∀ kind ∈ linkKinds true, o.mentions kind = o'.mentions kind := by
  obtain ⟨hbase, hinterfaces⟩ := h.by_names hsymbols
  intro kind hkind
  cases kind with
  | inheritance => simp only [Outline.mentions, hbase]
  | implementation => exact hinterfaces
  | dependency => simp [linkKinds] at hkind

theorem resolvesToSystem_of_rules {entry : BaseRef}
    (h : (rulesOf s units).bases.ResolvesToSystem entry) : ResolvesToSystem s units entry := by
  obtain ⟨symbol, hlookup, hunder⟩ := h
  simp only [rulesOf, mergeRules] at hlookup
  cases hsymbols : s.useSymbols with
  | false => simp [hsymbols] at hlookup
  | true =>
    refine ⟨hsymbols, symbol, ?_, hunder⟩
    simpa [hsymbols] using hlookup

theorem rulesOf_excludeSystem (s : Settings) (units : List SourceUnit) (excludes : Bool) :
    rulesOf { s with excludeSystem := excludes } units =
      ⟨{ (rulesOf s units).references with excludeSystem := excludes },
        { (rulesOf s units).bases with excludeSystem := excludes }, s.floor⟩ := rfl

theorem described_pruned (kind : TypeKind) {first : Declaration} {rest : List Declaration}
    (hmem : ∀ d ∈ first :: rest,
      d ∈ declarationsOf units ∧ d.qualifiedName = first.qualifiedName) :
    Pruned s units (described (rulesOf { s with excludeSystem := true } units) kind first rest)
      (described (rulesOf { s with excludeSystem := false } units) kind first rest) := by
  rw [rulesOf_excludeSystem s units true, rulesOf_excludeSystem s units false]
  by_cases henum : kind = .enum
  · simp only [described, if_pos henum]
    exact ⟨rfl, rfl, rfl, rfl, rfl, .nil, List.Subset.refl _, fun h => absurd rfl h,
      fun _ => ⟨rfl, rfl⟩⟩
  · simp only [described, if_neg henum]
    refine ⟨rfl, rfl, rfl, rfl, rfl, ?_, interfacesOf_excluding _ _, fun hne => ?_,
      fun hsymbols => ?_⟩
    · exact membersOf_excluding (rulesOf s units).references _ _ s.floor kind _
    · cases baseOf_excluding (rulesOf s units).bases (first :: rest) with
      | inl heq => exact absurd heq hne
      | inr hother =>
        obtain ⟨entry, hentry, hresolved, hbase⟩ := hother
        obtain ⟨d, hd, hentry⟩ := List.mem_flatMap.mp hentry
        obtain ⟨hdeclared, hq⟩ := hmem d hd
        exact ⟨d, hdeclared, hq, entry, hentry, hbase, resolvesToSystem_of_rules hresolved⟩
    · have hindex : (rulesOf s units).bases.index = none := by
        simp [rulesOf, mergeRules, hsymbols]
      have hroles := role?_excluding_of_no_index _ hindex
      simp only [baseOf, interfacesOf, hroles, and_self]

theorem outline?_pruned {g : Group} (hg : g ∈ groupsOf s units) :
    Option.Rel (Pruned s units)
      (outline? (rulesOf { s with excludeSystem := true } units) g)
      (outline? (rulesOf { s with excludeSystem := false } units) g) := by
  obtain ⟨first, rest, hcons⟩ := group_eq_cons hg
  have hmem : ∀ d ∈ kept g.2, d ∈ declarationsOf units ∧ d.qualifiedName = g.1 :=
    fun d hd => mem_of_mem_groupsOf hg (mem_of_mem_kept hd)
  obtain ⟨q, ds⟩ := g
  obtain rfl : ds = first :: rest := hcons
  have hfirst : first.qualifiedName = q := (hmem first List.mem_cons_self).2
  exact outline?_rel q q first (fun _ => Iff.rfl) fun kind =>
    described_pruned kind fun d hd => hfirst ▸ hmem d hd

/-- Reports without the system types (`r`) and with them (`r'`): the same boxes and members in the
same order, of which the former mention less, and so have fewer links. -/
structure Report.Pruned (s : Settings) (units : List SourceUnit) (r r' : Report) : Prop where
  boxes : List.Forall₂ (fun b b' => Build.Pruned s units b.outline b'.outline)
    r.chart.boxes r'.chart.boxes
  links : ∀ l ∈ r.chart.links, l.kind = .implementation ∨ l.kind = .dependency →
    l.key ∈ r'.chart.links.map Link.key
  by_names : s.useSymbols = false →
    (r.chart.links.filter (·.kind ≠ .dependency)).map Link.key =
      (r'.chart.links.filter (·.kind ≠ .dependency)).map Link.key

/-- To leave the system types out only removes references. -/
theorem exclusion_removes_references (s : Settings) (units : List SourceUnit) :
    ∃ r r', ((Session.new { s with excludeSystem := true }).buildUnits units).2 = .ok r ∧
      ((Session.new { s with excludeSystem := false }).buildUnits units).2 = .ok r' ∧
      Report.Pruned s units r r' := by
  obtain ⟨r, p, hbuild, hp, hchart, _⟩ := buildUnits_reached { s with excludeSystem := true } units
  obtain ⟨r', p', hbuild', hp', hchart', _⟩ :=
    buildUnits_reached { s with excludeSystem := false } units
  have hgroups : List.Forall₂ (fun g g' => Option.Rel (Pruned s units)
        (outline? (rulesOf { s with excludeSystem := true } units) g)
        (outline? (rulesOf { s with excludeSystem := false } units) g'))
      (groupsOf s units) (groupsOf s units) :=
    List.forall₂_same.mpr fun _ hg => outline?_pruned hg
  have hname : ∀ o o', Pruned s units o o' → o.name = o'.name := fun _ _ h => h.name
  have hboxes := Reached.forall₂_boxes hname hgroups hp hp'
  have himplementations := Chart.relations_keys_subset hboxes hname hp.distinct hp'.distinct
    .implementation (fun _ _ h => h.interfaces) s.ignoreDependencies
  have hdependencies := Chart.relations_keys_subset hboxes hname hp.distinct hp'.distinct
    .dependency (fun _ _ h => h.references_subset) s.ignoreDependencies
  refine ⟨r, r', hbuild, hbuild', ?_, fun l hl hkind => ?_, fun hsymbols => ?_⟩
  · rw [hchart, hchart']
    exact hboxes
  · rw [hchart] at hl
    rw [hchart']
    cases hkind with
    | inl himplementation => exact himplementations l hl himplementation
    | inr hdependency => exact hdependencies l hl hdependency
  · rw [hchart, hchart']
    exact Chart.supertype_keys_eq hboxes hname hp.distinct hp'.distinct
      (fun _ _ h => h.supertypes_eq hsymbols) s.ignoreDependencies

end Build
end ClassChart
