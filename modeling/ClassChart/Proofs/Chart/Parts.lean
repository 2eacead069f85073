import ClassChart.Proofs.Chart.Contents

/-! A type does not depend on how it is cut into declarations. Of the declarations that are merged
only the head of the first one counts, and beyond it their base lists and their members, each read as
one list. -/
namespace ClassChart

/-- The member that a declaration of it gives: its type text as written, with what that text refers
to, or with nothing if it cannot be read. -/
structure MemberDecl.Gives (rules : MergeRules) (kind : TypeKind) (decl : MemberDecl) (m : Member) :
    Prop where
  name : m.name = decl.name
  visibility : m.visibility = .ofModifiers decl.modifiers kind
  form : m.form.text = decl.form
  typeText : m.typeText = decl.typeText
  references :
    Signature.references rules.references decl.typeText = .ok ⟨m.container, m.references⟩ ∨
      (∃ e, Signature.references rules.references decl.typeText = .error e) ∧
        m.container = none ∧ m.references = []

/-- The outline that a head, base entries and members come to. -/
structure Outline.Assembles (rules : MergeRules) (kind : TypeKind) (head : Declaration)
    (entries : List BaseRef) (decls : List MemberDecl) (o : Outline) : Prop where
  name : o.name = head.name
  qualifiedName : o.qualifiedName = head.qualifiedName
  scope : o.scope = head.scope
  base : o.base = (entries.find? fun entry => rules.bases.role? entry = some .base).map (·.name)
  interfaces : o.interfaces =
    ((entries.filter fun entry => rules.bases.role? entry = some .interface).map
      (·.name)).eraseDups
  members : List.Forall₂ (MemberDecl.Gives rules kind)
    (decls.filter (·.visible rules.floor kind)) o.members
  values : o.values = []
  kind : o.kind = kind

structure Declaration.SameHead (d d' : Declaration) : Prop where
  name : d.name = d'.name
  kind : d.kind = d'.kind
  scope : d.scope = d'.scope
  qualifiedName : d.qualifiedName = d'.qualifiedName

theorem MemberForm.ofText?_eq_some {form : MemberForm} {text : String} :
    ofText? text = some form ↔ form.text = text := by
  constructor
  · intro h
    have hfound := List.find?_some (p := fun form : MemberForm => form.text == text) h
    exact eq_of_beq hfound
  · rintro rfl
    exact ofText?_text form

section
variable {rules : MergeRules} {kind : TypeKind}

theorem MemberDecl.found_eq_iff (names : NameRules) (decl : MemberDecl)
    (found : Signature.References) :
    decl.found names = found ↔
      Signature.references names decl.typeText = .ok found ∨
        (∃ e, Signature.references names decl.typeText = .error e) ∧ found = .none := by
  unfold MemberDecl.found
  cases Signature.references names decl.typeText with
  | ok read => simp [Except.toOption]
  | error e => simp [Except.toOption, eq_comm]

theorem MemberDecl.gives_iff {decl : MemberDecl} {m : Member}
    (hvisible : decl.visible rules.floor kind = true) :
    decl.Gives rules kind m ↔ decl.member? rules kind = some m := by
  have hfound := decl.found_eq_iff rules.references ⟨m.container, m.references⟩
  rw [member?, if_pos hvisible, Option.map_eq_some_iff]
  constructor
  · intro h
    refine ⟨m.form, MemberForm.ofText?_eq_some.mpr h.form, ?_⟩
    have hreferences : decl.found rules.references = ⟨m.container, m.references⟩ := by
      refine hfound.mpr (h.references.imp_right ?_)
      rintro ⟨he, hcontainer, hnames⟩
      refine ⟨he, ?_⟩
      rw [hcontainer, hnames, Signature.References.none]
    rw [hreferences, ← h.name, ← h.visibility, ← h.typeText]
  · rintro ⟨form, hform, rfl⟩
    refine ⟨rfl, rfl, MemberForm.ofText?_eq_some.mp hform, rfl, ?_⟩
    refine (hfound.mp rfl).imp_right ?_
    rintro ⟨he, hnone⟩
    exact ⟨he, congrArg Signature.References.container hnone,
      congrArg Signature.References.names hnone⟩

theorem MemberDecl.fault?_of_hidden {decl : MemberDecl}
    (h : decl.visible rules.floor kind = false) : decl.fault? rules.floor kind = none := by
  simp [fault?, h]

theorem MemberDecl.member?_of_hidden {decl : MemberDecl}
    (h : decl.visible rules.floor kind = false) : decl.member? rules kind = none := by
  simp [member?, h]

theorem MemberDecl.fault?_eq_none_iff {decl : MemberDecl}
    (hvisible : decl.visible rules.floor kind = true) :
    decl.fault? rules.floor kind = none ↔ ∃ m, decl.member? rules kind = some m := by
  rw [fault?, member?, if_pos hvisible, if_pos hvisible]
  cases MemberForm.ofText? decl.form <;> simp

/-- Members side by side with the visible declarations that give them: no declaration is at fault,
and there are no other members. -/
theorem forall₂_gives_iff {decls : List MemberDecl} {members : List Member} :
    List.Forall₂ (MemberDecl.Gives rules kind) (decls.filter (·.visible rules.floor kind))
        members ↔
      decls.findSome? (·.fault? rules.floor kind) = none ∧
        members = decls.filterMap (·.member? rules kind) := by
  induction decls generalizing members with
  | nil => simp
  | cons decl rest ih =>
    cases hvisible : decl.visible rules.floor kind with
    | false =>
      rw [List.filter_cons_of_neg (by simp [hvisible]), ih, List.findSome?_cons,
        MemberDecl.fault?_of_hidden hvisible,
        List.filterMap_cons_none (MemberDecl.member?_of_hidden hvisible)]
    | true =>
      rw [List.filter_cons_of_pos (by simp [hvisible]), List.forall₂_cons_left_iff,
        List.findSome?_cons]
      cases hmember : decl.member? rules kind with
      | none =>
        obtain ⟨e, hfault⟩ : ∃ e, decl.fault? rules.floor kind = some e := by
          refine Option.ne_none_iff_exists'.mp fun hnone => ?_
          obtain ⟨m, hm⟩ := (MemberDecl.fault?_eq_none_iff hvisible).mp hnone
          simp [hmember] at hm
        simp [MemberDecl.gives_iff hvisible, hmember, hfault]
      | some m =>
        have hfault := (MemberDecl.fault?_eq_none_iff hvisible).mpr ⟨m, hmember⟩
        rw [List.filterMap_cons_some hmember, hfault]
        simp only [MemberDecl.gives_iff hvisible, hmember, ih, Option.some.injEq]
        constructor
        · rintro ⟨_, _, rfl, ⟨hrest, rfl⟩, rfl⟩
          exact ⟨hrest, rfl⟩
        · rintro ⟨hrest, rfl⟩
          exact ⟨m, _, rfl, ⟨hrest, rfl⟩, rfl⟩

theorem findSome?_fault_eq (floor : Visibility) (kind : TypeKind) (decls : List MemberDecl) :
    decls.findSome? (·.fault? floor kind) =
      ((decls.filter (·.visible floor kind)).find? fun decl =>
        MemberForm.ofText? decl.form = none).map fun decl => .unknownForm decl.form := by
  induction decls with
  | nil => rfl
  | cons decl rest ih =>
    rw [List.findSome?_cons, MemberDecl.fault?]
    cases hvisible : decl.visible floor kind with
    | false => simp [hvisible, ih]
    | true => cases hform : MemberForm.ofText? decl.form <;> simp [hvisible, hform, ih]

theorem faultOf?_eq_some_iff {floor : Visibility} (henum : kind ≠ .enum) {ds : List Declaration}
    {e : MergeError} : faultOf? floor kind ds = some e ↔
      ∃ decl, ((ds.flatMap (·.members)).filter (·.visible floor kind)).find?
          (fun decl => MemberForm.ofText? decl.form = none) = some decl ∧
        e = .unknownForm decl.form := by
  rw [faultOf?, if_neg henum, findSome?_fault_eq, Option.map_eq_some_iff]
  simp only [eq_comm (a := e)]

variable {first : Declaration} {rest : List Declaration}

theorem assembles_iff (hkind : kind ≠ .enum) {o : Outline} :
    Outline.Assembles rules kind first ((first :: rest).flatMap (·.bases))
        ((first :: rest).flatMap (·.members)) o ↔
      faultOf? rules.floor kind (first :: rest) = none ∧ o = described rules kind first rest := by
  rw [faultOf?, if_neg hkind, described, if_neg hkind, membersOf]
  constructor
  · intro h
    obtain ⟨hfault, hmembers⟩ := forall₂_gives_iff.mp h.members
    refine ⟨hfault, ?_⟩
    cases o
    simp only [Outline.mk.injEq]
    exact ⟨h.name, h.kind, h.qualifiedName, h.scope, h.base, h.interfaces, hmembers, h.values⟩
  · rintro ⟨hfault, rfl⟩
    exact ⟨rfl, rfl, rfl, rfl, rfl, forall₂_gives_iff.mpr ⟨hfault, rfl⟩, rfl, rfl⟩

theorem merge_outcome_ok_iff (hkind : TypeKind.ofText? first.kind = some kind)
    (henum : kind ≠ .enum) {o : Outline} :
    (merge rules (first :: rest)).outcome = .ok o ↔
      Outline.Assembles rules kind first ((first :: rest).flatMap (·.bases))
        ((first :: rest).flatMap (·.members)) o := by
  rw [assembles_iff henum]
  cases hfault : faultOf? rules.floor kind (first :: rest) with
  | none => simp [merge_described hkind hfault, eq_comm]
  | some e => simp [merge_fault hkind hfault]

theorem merge_outcome_error_iff (hkind : TypeKind.ofText? first.kind = some kind)
    (henum : kind ≠ .enum) {e : MergeError} :
    (merge rules (first :: rest)).outcome = .error e ↔
      ∃ decl, (((first :: rest).flatMap (·.members)).filter (·.visible rules.floor kind)).find?
          (fun decl => MemberForm.ofText? decl.form = none) = some decl ∧
        e = .unknownForm decl.form := by
  rw [← faultOf?_eq_some_iff henum]
  cases hfault : faultOf? rules.floor kind (first :: rest) with
  | none => simp [merge_described hkind hfault]
  | some e' => simp [merge_fault hkind hfault]

end

/-- What declarations come to depends on the head of the first one, on their base lists as one list
and on their members as one list. If every visible member has a form that there is, they come to the
outline that those assemble; otherwise they are refused for the first that has not. -/
theorem merge_independent_of_parts {rules : MergeRules} {kind : TypeKind} {first : Declaration}
    {rest : List Declaration} (hkind : TypeKind.ofText? first.kind = some kind)
    (henum : kind ≠ .enum) :
    (∀ o, (merge rules (first :: rest)).outcome = .ok o ↔
      Outline.Assembles rules kind first ((first :: rest).flatMap (·.bases))
        ((first :: rest).flatMap (·.members)) o) ∧
    (∀ e, (merge rules (first :: rest)).outcome = .error e ↔
      ∃ decl, (((first :: rest).flatMap (·.members)).filter (·.visible rules.floor kind)).find?
          (fun decl => MemberForm.ofText? decl.form = none) = some decl ∧
        e = .unknownForm decl.form) ∧
    ∀ first' rest', first'.SameHead first →
      (first' :: rest').flatMap (·.bases) = (first :: rest).flatMap (·.bases) →
      (first' :: rest').flatMap (·.members) = (first :: rest).flatMap (·.members) →
      (merge rules (first' :: rest')).outcome = (merge rules (first :: rest)).outcome := by
  refine ⟨fun _ => merge_outcome_ok_iff hkind henum, fun _ => merge_outcome_error_iff hkind henum,
    fun first' rest' hhead hbases hmembers => ?_⟩
  have hkind' : TypeKind.ofText? first'.kind = some kind := hhead.kind ▸ hkind
  cases houtcome : (merge rules (first :: rest)).outcome with
  | ok o =>
    have h := (merge_outcome_ok_iff hkind henum).mp houtcome
    rw [merge_outcome_ok_iff hkind' henum, hbases, hmembers]
    exact { h with
      name := h.name.trans hhead.name.symm
      qualifiedName := h.qualifiedName.trans hhead.qualifiedName.symm
      scope := h.scope.trans hhead.scope.symm }
  | error e =>
    have h := (merge_outcome_error_iff hkind henum).mp houtcome
    rwa [merge_outcome_error_iff hkind' henum, hmembers]

/-- A class cut in two, with a base type in each part and a type text that cannot be read. -/
theorem merge_independent_of_parts_of_order :
    let rules : MergeRules := ⟨⟨none, false, []⟩, ⟨none, false, []⟩, .pub⟩
    let part (line : Nat) (bases : List BaseRef) (members : List MemberDecl) : Declaration :=
      ⟨"Order", "class", "a.cs", "Shop", [], ["partial"], bases, members, [], line⟩
    let entity : BaseRef := ⟨"Entity", "Entity", ""⟩
    let priced : BaseRef := ⟨"IPriced", "IPriced", ""⟩
    let root : BaseRef := ⟨"Root", "Root", ""⟩
    let lines : MemberDecl := ⟨"Lines", "property", ["public"], "List<OrderLine>?", 2⟩
    let broken : MemberDecl := ⟨"Broken", "method", ["public"], "List<Order", 7⟩
    let whole := part 1 [entity, priced, root] [lines, broken]
    let head := part 1 [entity] [lines]
    let tail := part 5 [priced, root] [broken]
    TypeKind.ofText? head.kind = some .class ∧ TypeKind.class ≠ .enum ∧ whole.SameHead head ∧
      (merge rules [whole]).outcome = (merge rules [head, tail]).outcome := by
  intro rules part entity priced root lines broken whole head tail
  have hkind : TypeKind.ofText? head.kind = some .class := by decide
  have henum : TypeKind.class ≠ .enum := by decide
  have hhead : whole.SameHead head := ⟨rfl, rfl, rfl, rfl⟩
  obtain ⟨_, _, hparts⟩ := @merge_independent_of_parts rules .class head [tail] hkind henum
  exact ⟨hkind, henum, hhead, hparts whole [] hhead rfl rfl⟩

end ClassChart
