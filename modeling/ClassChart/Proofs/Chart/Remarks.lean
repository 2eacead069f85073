import ClassChart.Proofs.Chart.Contents

/-! Exactly what a merge notes. The declaration that supplies the base type is never noted for
another one, and any other declaration is noted for every base type that differs. A member is noted
if it is visible and has a type text that is not blank and cannot be read. The notes stand in the
order of the declarations, each with those on its base list first. -/
namespace ClassChart

namespace Declaration

def namedBase? (bases : NameRules) (d : Declaration) : Option String :=
  (d.bases.find? fun entry => bases.role? entry = some .base).map (·.name)

def otherBaseNotes (bases : NameRules) (type : String) (kept : Option String) (d : Declaration) :
    List Diagnostic :=
  match kept with
  | none => []
  | some name => (d.bases.filter fun entry =>
      bases.role? entry = some .base ∧ entry.name ≠ name).map (Draft.otherBaseNote type name d)

end Declaration

/-- Why the type text of a member cannot be read; a blank one need not be. -/
def MemberDecl.unreadable? (decl : MemberDecl) : Option Signature.SyntaxError :=
  if Text.allBlank decl.typeText then none
  else match Signature.read decl.typeText with
    | .ok _ => none
    | .error e => some e

def Declaration.signatureNotes (floor : Visibility) (kind : TypeKind) (d : Declaration) :
    List Diagnostic :=
  (d.members.filter (·.visible floor kind)).filterMap fun decl =>
    decl.unreadable?.map (Draft.signatureNote d decl)

/-- The place of the declaration that supplies the base type: the first that names one. -/
def supplier? (bases : NameRules) (ds : List Declaration) : Option Nat :=
  ds.findIdx? fun d => (d.namedBase? bases).isSome

theorem contributionsFrom_eq (place : Nat) (ds : List Declaration) :
    contributionsFrom place ds = (ds.zipIdx place).flatMap fun (d, i) => d.contributions i := by
  induction ds generalizing place with
  | nil => rfl
  | cons d rest ih => rw [contributionsFrom, ih, List.zipIdx_cons, List.flatMap_cons]

theorem Declaration.base?_contributions (bases : NameRules) (place : Nat) (d : Declaration) :
    (d.contributions place).findSome? (Contribution.base? bases) =
      (d.namedBase? bases).map (·, place) := by
  have hmembers : (d.members.map (Contribution.member d)).findSome? (Contribution.base? bases) =
      none := by
    simp [List.findSome?_eq_none_iff]
  rw [contributions, List.findSome?_append, hmembers, Option.or_none, namedBase?]
  induction d.bases with
  | nil => rfl
  | cons entry rest ih =>
    rw [List.map_cons, List.findSome?_cons, Contribution.base?, List.find?_cons]
    by_cases hrole : bases.role? entry = some .base
    · simp [hrole]
    · simpa [hrole] using ih

theorem base?_contributionsFrom (bases : NameRules) (place : Nat) (ds : List Declaration) :
    (contributionsFrom place ds).findSome? (Contribution.base? bases) =
      (supplier? bases ds).bind fun i =>
        (ds[i]?.bind (·.namedBase? bases)).map (·, i + place) := by
  induction ds generalizing place with
  | nil => rfl
  | cons d rest ih =>
    rw [contributionsFrom, List.findSome?_append, d.base?_contributions, supplier?,
      List.findIdx?_cons]
    cases hbase : d.namedBase? bases with
    | some name => simp [hbase]
    | none =>
      have hnext (i : Nat) : i + (place + 1) = i + 1 + place := by omega
      rw [Option.map_none, Option.none_or, ih, supplier?]
      simp only [Option.isSome_none, Bool.false_eq_true, if_false, Option.bind_map,
        Function.comp_def, List.getElem?_cons_succ, hnext]

theorem supplier?_eq (bases : NameRules) (ds : List Declaration) :
    supplier? bases ds =
      ((contributionsFrom 0 ds).findSome? (Contribution.base? bases)).map (·.2) := by
  rw [base?_contributionsFrom]
  cases hplace : supplier? bases ds with
  | none => rfl
  | some i =>
    obtain ⟨hi, hsupplies, _⟩ := List.findIdx?_eq_some_iff_getElem.mp hplace
    obtain ⟨name, hname⟩ := Option.isSome_iff_exists.mp hsupplies
    simp [hi, hname]

section
variable {rules : MergeRules} {kind : TypeKind}

theorem MemberDecl.unreadable?_eq (names : NameRules) (decl : MemberDecl) :
    decl.unreadable? = match Signature.references names decl.typeText with
      | .ok _ => none
      | .error e => some e := by
  unfold unreadable? Signature.references
  cases Text.allBlank decl.typeText with
  | true => rfl
  | false => cases Signature.read decl.typeText <;> rfl

theorem Declaration.signatureNotes_eq (rules : MergeRules) (type : String) (kind : TypeKind)
    (kept : Option (String × Nat)) (d : Declaration) :
    (d.members.map (Contribution.member d)).filterMap (Contribution.note? rules type kind kept) =
      d.signatureNotes rules.floor kind := by
  rw [signatureNotes, List.filterMap_map, List.filterMap_filter]
  refine List.filterMap_congr fun decl _ => ?_
  rw [decl.unreadable?_eq rules.references, Function.comp_apply, Contribution.note?]
  cases decl.visible rules.floor kind with
  | false => rfl
  | true => cases Signature.references rules.references decl.typeText <;> rfl

theorem Contribution.note?_base (rules : MergeRules) (type : String) (kind : TypeKind)
    (kept : Option (String × Nat)) (place : Nat) (source : Declaration) (entry : BaseRef) :
    (base place source entry).note? rules type kind kept =
      if rules.bases.role? entry = some .base then
        kept.bind fun (name, origin) =>
          if entry.name ≠ name ∧ place ≠ origin then
            some (Draft.otherBaseNote type name source entry)
          else none
      else none := by
  cases hrole : rules.bases.role? entry with
  | none => simp [note?, hrole]
  | some role => cases role <;> cases kept <;> simp [note?, hrole]

theorem Declaration.otherBaseNotes_eq (rules : MergeRules) (type : String) (kind : TypeKind)
    (kept : Option (String × Nat)) (place : Nat) (d : Declaration) :
    (d.bases.map (Contribution.base place d)).filterMap
        (Contribution.note? rules type kind kept) =
      if kept.map (·.2) = some place then []
      else d.otherBaseNotes rules.bases type (kept.map (·.1)) := by
  rw [List.filterMap_map]
  simp only [Function.comp_def, Contribution.note?_base]
  cases kept with
  | none => simp [otherBaseNotes]
  | some kept =>
    obtain ⟨name, origin⟩ := kept
    by_cases hplace : origin = place
    · simp [hplace]
    · have hplace' : place ≠ origin := Ne.symm hplace
      have hnot : (some (name, origin)).map (·.2) ≠ some place := by simpa using hplace
      rw [if_neg hnot, Option.map_some, otherBaseNotes, ← List.filterMap_eq_map,
        List.filterMap_filter]
      refine List.filterMap_congr fun entry _ => ?_
      by_cases hrole : rules.bases.role? entry = some .base <;> simp [hrole, hplace']

theorem Declaration.notes_contributions (rules : MergeRules) (type : String) (kind : TypeKind)
    (kept : Option (String × Nat)) (place : Nat) (d : Declaration) :
    (d.contributions place).filterMap (Contribution.note? rules type kind kept) =
      (if kept.map (·.2) = some place then []
        else d.otherBaseNotes rules.bases type (kept.map (·.1))) ++
        d.signatureNotes rules.floor kind := by
  rw [contributions, List.filterMap_append, otherBaseNotes_eq, signatureNotes_eq]

theorem baseOf_eq (bases : NameRules) (ds : List Declaration) :
    baseOf bases ds =
      ((contributionsFrom 0 ds).findSome? (Contribution.base? bases)).map (·.1) := by
  rw [findSome?_base, entries_contributionsFrom, baseOf]

end

/-- A merge that succeeds notes, declaration by declaration, the base types other than the one that
is kept, save in the declaration that supplied it, and the visible members whose type text cannot be
read. -/
theorem merge_notes_exact {rules : MergeRules} {first : Declaration} {rest : List Declaration}
    {o : Outline} (h : (merge rules (first :: rest)).outcome = .ok o) (henum : o.kind ≠ .enum) :
    o.base = ((supplier? rules.bases (first :: rest)).bind fun place =>
      (first :: rest)[place]?.bind (·.namedBase? rules.bases)) ∧
    (merge rules (first :: rest)).notes = (first :: rest).zipIdx.flatMap fun (d, place) =>
      (if supplier? rules.bases (first :: rest) = some place then []
        else d.otherBaseNotes rules.bases o.qualifiedName o.base) ++
        d.signatureNotes rules.floor o.kind := by
  obtain ⟨ho, hnotes⟩ := described_of_merge h
  obtain ⟨_, hqualified, _, _⟩ := merge_head h
  have hbase : o.base = baseOf rules.bases (first :: rest) := by
    rw [ho, described, if_neg henum]
  constructor
  · rw [hbase, baseOf_eq, base?_contributionsFrom, Option.map_bind]
    simp [Function.comp_def]
  · rw [hnotes, remarksOf, if_neg henum, hbase, baseOf_eq, supplier?_eq, hqualified]
    simp only [contributionsFrom_eq, List.filterMap_flatMap, Declaration.notes_contributions]

/-- A class in two parts. The first names a second base type, which goes unnoticed. The second names
the kept one again and another, and has a blank, a hidden and a broken type text. -/
theorem merge_notes_exact_of_order :
    let rules : MergeRules := ⟨⟨none, false, []⟩, ⟨none, false, []⟩, .pub⟩
    let part (file : String) (bases : List String) (members : List MemberDecl) : Declaration :=
      ⟨"Order", "class", file, "Shop", [], ["partial"], bases.map fun name => ⟨name, name, ""⟩,
        members, [], 1⟩
    let member (modifier type : String) (line : Nat) : MemberDecl :=
      ⟨"M", "property", [modifier], type, line⟩
    let head := part "a.cs" ["Entity", "Root"] []
    let tail := part "b.cs" ["Entity", "Root"]
      [member "public" " " 2, member "private" "List<Order" 3, member "public" "List<Order" 4]
    ∃ o, (merge rules [head, tail]).outcome = .ok o ∧ o.kind ≠ .enum ∧
      (merge rules [head, tail]).notes.map (fun n => (n.stage, n.file, n.line, n.message)) =
        [(.merge, "b.cs", 1, "Partial declaration of Shop.Order names base type Root; keeping Entity"),
          (.signature, "b.cs", 4, "Cannot parse type 'List<Order': unexpected end of type")] := by
  intro rules part member head tail
  have hkind : TypeKind.ofText? head.kind = some .class := by decide
  have hfault : faultOf? rules.floor .class [head, tail] = none := by decide
  have houtcome : (merge rules [head, tail]).outcome =
      .ok (described rules .class head [tail]) := by rw [merge_described hkind hfault]
  have henum : (described rules .class head [tail]).kind ≠ .enum := by decide
  refine ⟨_, houtcome, henum, ?_⟩
  rw [(merge_notes_exact houtcome henum).2]
  decide +kernel

end ClassChart
