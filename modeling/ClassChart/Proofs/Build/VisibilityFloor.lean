import ClassChart.Proofs.Build.Comparison
import ClassChart.Proofs.Build.Fates
import ClassChart.Proofs.Chart.Mentions

/-! Raising the visibility floor. A build at a higher floor is the one at the lower floor with fewer
members: each type keeps those that reach the higher floor, and all else about it stays. So links to
supertypes stay, and a dependency or a note is never new. -/
namespace ClassChart

def Outline.atFloor (floor : Visibility) (o : Outline) : Outline :=
  { o with members := o.members.filter (floor.reaches ·.visibility) }

theorem Outline.name_of_atFloor {floor : Visibility} (o o' : Outline) (h : o = o'.atFloor floor) :
    o.name = o'.name := by
  rw [h]
  rfl

section
variable {low high : Visibility} (hfloors : low.rank ≤ high.rank)
include hfloors

theorem Visibility.reaches_of_higher {v : Visibility} (h : high.reaches v = true) :
    low.reaches v = true := by
  simp only [reaches, decide_eq_true_eq] at h ⊢
  exact hfloors.trans h

theorem MemberDecl.visible_of_higher {kind : TypeKind} {decl : MemberDecl}
    (h : decl.visible high kind = true) : decl.visible low kind = true :=
  Visibility.reaches_of_higher hfloors h

variable (rules : MergeRules)

theorem MemberDecl.member?_higher (kind : TypeKind) (decl : MemberDecl) :
    decl.member? { rules with floor := high } kind =
      (decl.member? { rules with floor := low } kind).filter (high.reaches ·.visibility) := by
  unfold member?
  cases hhigh : decl.visible high kind with
  | true =>
    have hlow := visible_of_higher hfloors hhigh
    have hreaches : high.reaches (.ofModifiers decl.modifiers kind) = true := hhigh
    cases MemberForm.ofText? decl.form with
    | none => simp [hlow]
    | some form => simp [hlow, Option.filter, hreaches]
  | false =>
    have hreaches : high.reaches (.ofModifiers decl.modifiers kind) = false := hhigh
    cases decl.visible low kind with
    | false => simp
    | true => cases MemberForm.ofText? decl.form <;> simp [Option.filter, hreaches]

theorem membersOf_higher (kind : TypeKind) (ds : List Declaration) :
    membersOf { rules with floor := high } kind ds =
      (membersOf { rules with floor := low } kind ds).filter (high.reaches ·.visibility) := by
  rw [membersOf, membersOf, List.filter_filterMap]
  exact List.filterMap_congr fun decl _ => decl.member?_higher hfloors rules kind

theorem described_higher (kind : TypeKind) (first : Declaration) (rest : List Declaration) :
    described { rules with floor := high } kind first rest =
      (described { rules with floor := low } kind first rest).atFloor high := by
  unfold described
  split
  · rfl
  · rw [membersOf_higher hfloors]
    rfl

theorem Contribution.note?_higher (type : String) (kind : TypeKind) (kept : Option (String × Nat))
    (c : Contribution) : c.note? { rules with floor := high } type kind kept = none ∨
      c.note? { rules with floor := high } type kind kept =
        c.note? { rules with floor := low } type kind kept := by
  cases c with
  | base place source entry => exact .inr rfl
  | member source decl =>
    cases hhigh : decl.visible high kind with
    | false => exact .inl (by simp only [note?, hhigh])
    | true => exact .inr (by simp only [note?, hhigh, decl.visible_of_higher hfloors hhigh])

theorem remarksOf_higher (kind : TypeKind) (first : Declaration) (rest : List Declaration) :
    (remarksOf { rules with floor := high } kind first rest).Sublist
      (remarksOf { rules with floor := low } kind first rest) := by
  unfold remarksOf
  split
  · exact .slnil
  · exact filterMap_sublist (Contribution.note?_higher hfloors rules _ kind _) _

end

theorem Outline.mentions_atFloor (floor : Visibility) (o : Outline) :
    (∀ kind ∈ linkKinds true, (o.atFloor floor).mentions kind = o.mentions kind) ∧
      (o.atFloor floor).mentions .dependency ⊆ o.mentions .dependency := by
  constructor
  · intro kind hkind
    cases kind with
    | inheritance => rfl
    | implementation => rfl
    | dependency => simp [linkKinds] at hkind
  · intro name hname
    obtain ⟨m, hm, hname⟩ := List.mem_flatMap.mp hname
    exact List.mem_flatMap.mpr ⟨m, List.mem_of_mem_filter hm, hname⟩

namespace Build

section
variable {low high : Visibility} (hfloors : low.rank ≤ high.rank) (rules : MergeRules)
include hfloors

theorem outline?_higher {g : Group} (hne : g.2 ≠ []) (hforms : ∀ d ∈ g.2, d.KnownForms) :
    Option.Rel (fun o o' => o = o'.atFloor high) (outline? { rules with floor := high } g)
      (outline? { rules with floor := low } g) := by
  obtain ⟨q, ds⟩ := g
  cases ds with
  | nil => exact absurd rfl hne
  | cons first rest =>
    have hkept : ∀ d ∈ kept (first :: rest), d.KnownForms :=
      fun d hd => hforms d (mem_of_mem_kept hd)
    refine outline?_rel q q first (fun kind => ?_) fun kind => described_higher hfloors rules kind ..
    rw [faultOf?_eq_none hkept, faultOf?_eq_none hkept]

theorem mergeNotes_higher (q : String) {first : Declaration} {rest : List Declaration}
    (hforms : ∀ d ∈ first :: rest, d.KnownForms) :
    (mergeNotes { rules with floor := high } q first (first :: rest)).Sublist
      (mergeNotes { rules with floor := low } q first (first :: rest)) := by
  unfold mergeNotes
  cases hkind : TypeKind.ofText? first.kind with
  | none => rw [merge_unknownKind hkind, merge_unknownKind hkind]
  | some kind =>
    rw [merge_described hkind (faultOf?_eq_none hforms _ kind),
      merge_described hkind (faultOf?_eq_none hforms _ kind)]
    exact (remarksOf_higher hfloors rules kind first rest).append .slnil

theorem notesOf_higher {t t' : Option Outline × Group} (hforms : ∀ d ∈ t.2.2, d.KnownForms)
    (hgroup : t.2 = t'.2) (hholder : Option.Rel (fun o o' => o = o'.atFloor high) t.1 t'.1) :
    (notesOf { rules with floor := high } t).Sublist (notesOf { rules with floor := low } t') := by
  obtain ⟨holder, q, ds⟩ := t
  obtain ⟨holder', g'⟩ := t'
  obtain rfl : (q, ds) = g' := hgroup
  refine (List.Sublist.refl _).append ?_
  cases ds with
  | nil => exact .slnil
  | cons first rest =>
    cases hholder with
    | none => exact mergeNotes_higher hfloors rules q fun d hd => hforms d (mem_of_mem_kept hd)
    | @some o o' heq =>
      -- the note names only what the floor does not touch
      obtain rfl : o = o'.atFloor high := heq
      exact List.Sublist.refl _

end

section
variable {low high : Visibility} {rules : MergeRules} {gs : List Group} {p p' : Progress}
  (hgs : ∀ g ∈ gs, Option.Rel (fun o o' => o = o'.atFloor high)
    (outline? { rules with floor := high } g) (outline? { rules with floor := low } g))
  (h : Reached { rules with floor := low } gs p) (h' : Reached { rules with floor := high } gs p')
include hgs h h'

theorem Reached.boxes_higher :
    List.Forall₂ (fun b b' => b.outline = b'.outline.atFloor high) p'.chart.boxes
      p.chart.boxes :=
  Reached.forall₂_boxes Outline.name_of_atFloor (List.forall₂_same.mpr hgs) h' h

theorem Reached.notes_higher (hfloors : low.rank ≤ high.rank)
    (hforms : ∀ g ∈ gs, ∀ d ∈ g.2, d.KnownForms) : p'.notes.Sublist p.notes := by
  have hturns := (List.forall₂_and_left _ _).mpr
    ⟨fun t ht => hforms t.2 (mem_of_turn ht),
      forall₂_turns Outline.name_of_atFloor [] gs hgs⟩
  rw [h.notes, h'.notes]
  exact flatMap_sublist_of_forall₂ hturns fun t t' ⟨hforms, hgroup, hholder⟩ =>
    notesOf_higher hfloors rules hforms hgroup hholder

end

/-- `r'` is the report `r` at a higher floor. -/
structure Report.AtFloor (floor : Visibility) (r r' : Report) : Prop where
  outlines : r'.chart.boxes.map Box.outline =
    (r.chart.boxes.map Box.outline).map (Outline.atFloor floor)
  supertypes : (r'.chart.links.filter (·.kind ≠ .dependency)).map Link.key =
    (r.chart.links.filter (·.kind ≠ .dependency)).map Link.key
  dependencies : ∀ l ∈ r'.chart.links, l.kind = .dependency →
    l.key ∈ r.chart.links.map Link.key
  diagnostics : r'.diagnostics.Sublist r.diagnostics

/-- To raise the floor is to filter the members of each type, and to do no more than that. Forms have
to be known, since an unknown one stops a type only at floors that its member reaches. -/
theorem floor_filters_members (s : Settings) (low high : Visibility) (units : List SourceUnit)
    (hfloors : low.rank ≤ high.rank) (hforms : ∀ d ∈ declarationsOf units, d.KnownForms) :
    ∃ r r', ((Session.new { s with floor := low }).buildUnits units).2 = .ok r ∧
      ((Session.new { s with floor := high }).buildUnits units).2 = .ok r' ∧
      Report.AtFloor high r r' := by
  obtain ⟨r, p, hbuild, hp, hchart, hnotes⟩ := buildUnits_reached { s with floor := low } units
  obtain ⟨r', p', hbuild', hp', hchart', hnotes'⟩ :=
    buildUnits_reached { s with floor := high } units
  have hknown : ∀ g ∈ groupsOf s units, ∀ d ∈ g.2, d.KnownForms :=
    fun g hg d hd => hforms d (mem_of_mem_groupsOf hg hd).1
  have hgroups : ∀ g ∈ groupsOf s units, Option.Rel (fun o o' => o = o'.atFloor high)
      (outline? { rulesOf s units with floor := high } g)
      (outline? { rulesOf s units with floor := low } g) :=
    fun g hg => outline?_higher hfloors _ (group_ne_nil hg) (hknown g hg)
  have hboxes := Reached.boxes_higher hgroups hp hp'
  have hsupertypes := Chart.supertype_keys_eq hboxes Outline.name_of_atFloor hp'.distinct
    hp.distinct (fun o o' h => h ▸ (o'.mentions_atFloor high).1) s.ignoreDependencies
  have hdependencies := Chart.relations_keys_subset hboxes Outline.name_of_atFloor hp'.distinct
    hp.distinct .dependency (fun o o' h => h ▸ (o'.mentions_atFloor high).2) s.ignoreDependencies
  refine ⟨r, r', hbuild, hbuild', ?_, ?_, ?_, ?_⟩
  · rw [hchart, hchart', List.map_map]
    exact forall₂_map_eq_iff.mp hboxes
  · rw [hchart, hchart']
    exact hsupertypes
  · rw [hchart, hchart']
    exact hdependencies
  · rw [hnotes, hnotes']
    exact (List.Sublist.refl _).append (Reached.notes_higher hgroups hp hp' hfloors hknown)

/-- A class with a public member and a private one, at the lowest floor and at the highest. -/
theorem floor_filters_members_of_order :
    let order : Declaration := ⟨"Order", "class", "a.cs", "Shop", [], [], [],
      [⟨"Total", "property", ["public"], "decimal", 2⟩, ⟨"Lines", "method", [], "List<Line>", 3⟩],
      [], 1⟩
    let units : List SourceUnit := [⟨"a.cs", [order], []⟩]
    Visibility.priv.rank ≤ Visibility.pub.rank ∧
      (∀ d ∈ declarationsOf units, d.KnownForms) ∧
      ∃ r r', ((Session.new { Settings.default with floor := .priv }).buildUnits units).2 = .ok r ∧
        ((Session.new { Settings.default with floor := .pub }).buildUnits units).2 = .ok r' ∧
        Report.AtFloor .pub r r' := by
  intro order units
  have hfloors : Visibility.priv.rank ≤ Visibility.pub.rank := by decide
  have hforms : ∀ d ∈ declarationsOf units, d.KnownForms := by
    have hdeclarations : declarationsOf units = [order] := by decide
    rw [hdeclarations, List.forall_mem_singleton]
    simp only [Declaration.KnownForms, order, List.forall_mem_cons]
    exact ⟨⟨.property, rfl⟩, ⟨.method, rfl⟩, by simp⟩
  exact ⟨hfloors, hforms, floor_filters_members .default .priv .pub units hfloors hforms⟩

end Build
end ClassChart
