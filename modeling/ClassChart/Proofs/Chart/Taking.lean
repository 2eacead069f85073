import ClassChart.Proofs.Chart.Merge
import ClassChart.Proofs.List.FirstSeen
import Mathlib.Data.List.Basic

/-! What contributions add to a draft. Each adds what it offers by itself, save that an interface is
listed once and that only the first base type is kept; a member that reaches the floor and has an
unknown form is refused. So a draft holds its contributions in closed form. -/
namespace ClassChart

namespace MemberDecl

def visible (floor : Visibility) (kind : TypeKind) (decl : MemberDecl) : Bool :=
  floor.reaches (.ofModifiers decl.modifiers kind)

/- Why a member cannot be taken; one that is not visible is not looked at. -/
def fault? (floor : Visibility) (kind : TypeKind) (decl : MemberDecl) : Option MergeError :=
  if decl.visible floor kind then
    match MemberForm.ofText? decl.form with
    | none => some (.unknownForm decl.form)
    | some _ => none
  else none

def found (rules : NameRules) (decl : MemberDecl) : Signature.References :=
  (Signature.references rules decl.typeText).toOption.getD .none

def member? (rules : MergeRules) (kind : TypeKind) (decl : MemberDecl) : Option Member :=
  if decl.visible rules.floor kind then
    (MemberForm.ofText? decl.form).map fun form =>
      ⟨decl.name, .ofModifiers decl.modifiers kind, form, decl.typeText,
        (decl.found rules.references).container, (decl.found rules.references).names⟩
  else none

theorem of_member? {rules : MergeRules} {kind : TypeKind} {decl : MemberDecl} {m : Member}
    (h : decl.member? rules kind = some m) :
    decl.visible rules.floor kind = true ∧ decl.name = m.name ∧ decl.typeText = m.typeText := by
  unfold member? at h
  split at h
  · next hvisible =>
    obtain ⟨form, _, rfl⟩ := Option.map_eq_some_iff.mp h
    exact ⟨hvisible, rfl, rfl⟩
  · simp at h

end MemberDecl

namespace Contribution

def base? (bases : NameRules) : Contribution → Option (String × Nat)
  | base place _ entry =>
    if bases.role? entry = some .base then some (entry.name, place) else none
  | member .. => none

def interface? (bases : NameRules) (c : Contribution) : Option String :=
  (c.entry?.filter (bases.role? · = some .interface)).map (·.name)

def fault? (floor : Visibility) (kind : TypeKind) (c : Contribution) : Option MergeError :=
  c.decl?.bind (·.fault? floor kind)

def member? (rules : MergeRules) (kind : TypeKind) (c : Contribution) : Option Member :=
  c.decl?.bind (·.member? rules kind)

/-- The note that is made, given the base type that is kept in the end. -/
def note? (rules : MergeRules) (type : String) (kind : TypeKind) (kept : Option (String × Nat)) :
    Contribution → Option Diagnostic
  | base place source entry =>
    match rules.bases.role? entry, kept with
    | some .base, some (name, origin) =>
      if entry.name ≠ name ∧ place ≠ origin then
        some (Draft.otherBaseNote type name source entry)
      else none
    | _, _ => none
  | member source decl =>
    match decl.visible rules.floor kind, Signature.references rules.references decl.typeText with
    | true, .error e => some (Draft.signatureNote source decl e)
    | _, _ => none

@[simp] theorem base?_member (bases : NameRules) (source : Declaration) (decl : MemberDecl) :
    (member source decl).base? bases = none := rfl

@[simp] theorem interface?_base (bases : NameRules) (place : Nat) (source : Declaration)
    (entry : BaseRef) : (base place source entry).interface? bases =
      if bases.role? entry = some .interface then some entry.name else none := by
  by_cases hrole : bases.role? entry = some .interface <;>
    simp [interface?, entry?, Option.filter, hrole]

@[simp] theorem interface?_member (bases : NameRules) (source : Declaration) (decl : MemberDecl) :
    (member source decl).interface? bases = none := rfl

@[simp] theorem member?_base (rules : MergeRules) (kind : TypeKind) (place : Nat)
    (source : Declaration) (entry : BaseRef) :
    (base place source entry).member? rules kind = none := rfl

@[simp] theorem member?_member (rules : MergeRules) (kind : TypeKind) (source : Declaration)
    (decl : MemberDecl) : (member source decl).member? rules kind = decl.member? rules kind := rfl

theorem note?_of_no_base {rules : MergeRules} {c : Contribution} (h : c.base? rules.bases = none)
    (type : String) (kind : TypeKind) (kept : Option (String × Nat)) :
    c.note? rules type kind kept = c.note? rules type kind none := by
  cases c with
  | base place source entry =>
    cases hrole : rules.bases.role? entry with
    | none => simp [note?, hrole]
    | some role =>
      cases role with
      | base => simp [base?, hrole] at h
      | interface => simp [note?, hrole]
  | member source decl => rfl

end Contribution

structure Draft.Adds (rules : MergeRules) (type : String) (kind : TypeKind) (c : Contribution)
    (before after : Draft) : Prop where
  base : after.base = before.base.or (c.base? rules.bases)
  interfaces : after.interfaces =
    before.interfaces ++ ((c.interface? rules.bases).filter (· ∉ before.interfaces)).toList
  members : after.members = before.members ++ (c.member? rules kind).toList
  notes : after.notes = before.notes ++ (c.note? rules type kind after.base).toList

structure Draft.Holds (rules : MergeRules) (type : String) (kind : TypeKind)
    (cs : List Contribution) (draft : Draft) : Prop where
  base : draft.base = cs.findSome? (Contribution.base? rules.bases)
  interfaces : draft.interfaces =
    (cs.filterMap (Contribution.interface? rules.bases)).eraseDups
  members : draft.members = cs.filterMap (Contribution.member? rules kind)
  notes : draft.notes = cs.filterMap (Contribution.note? rules type kind draft.base)

namespace Draft
variable {rules : MergeRules} {type : String} {kind : TypeKind} {cs : List Contribution}
  {c : Contribution} {draft after : Draft}

theorem addBase_adds {place : Nat} {source : Declaration} {entry : BaseRef}
    (hrole : rules.bases.role? entry = some .base) :
    Adds rules type kind (.base place source entry) draft
      (draft.addBase type place source entry) := by
  unfold addBase
  cases hbase : draft.base with
  | none => constructor <;> simp [Contribution.base?, Contribution.note?, hrole, hbase]
  | some kept =>
    obtain ⟨name, origin⟩ := kept
    by_cases hother : entry.name ≠ name ∧ place ≠ origin
    · constructor <;>
        simp [Contribution.base?, Contribution.note?, note, hrole, hbase, hother]
    · constructor <;> simp [Contribution.base?, Contribution.note?, hrole, hbase, hother]

theorem addInterface_adds {place : Nat} {source : Declaration} {entry : BaseRef}
    (hrole : rules.bases.role? entry = some .interface) :
    Adds rules type kind (.base place source entry) draft (draft.addInterface entry.name) := by
  unfold addInterface
  by_cases hmem : entry.name ∈ draft.interfaces
  · constructor <;> simp [Contribution.base?, Contribution.note?, Option.filter, hrole, hmem]
  · constructor <;> simp [Contribution.base?, Contribution.note?, Option.filter, hrole, hmem]

theorem addMember_fault (draft : Draft) (rules : MergeRules) (visibility : Visibility)
    (source : Declaration) (decl : MemberDecl) :
    (draft.addMember rules visibility source decl).2 =
      match MemberForm.ofText? decl.form with
      | none => some (.unknownForm decl.form)
      | some _ => none := by
  unfold addMember
  cases hread : Signature.references rules.references decl.typeText with
  | ok found => cases MemberForm.ofText? decl.form <;> rfl
  | error e => cases MemberForm.ofText? decl.form <;> rfl

theorem addMember_adds {source : Declaration} {decl : MemberDecl}
    (hvisible : decl.visible rules.floor kind = true)
    (h : draft.addMember rules (.ofModifiers decl.modifiers kind) source decl = (after, none)) :
    Adds rules type kind (.member source decl) draft after := by
  unfold addMember at h
  cases hread : Signature.references rules.references decl.typeText with
  | ok found =>
    cases hform : MemberForm.ofText? decl.form with
    | none => simp [hread, hform] at h
    | some form =>
      simp only [hread, hform, Prod.mk.injEq, and_true] at h
      subst h
      constructor <;>
        simp [Contribution.note?, MemberDecl.member?, MemberDecl.found, hvisible, hread, hform,
          Except.toOption]
  | error e =>
    cases hform : MemberForm.ofText? decl.form with
    | none => simp [hread, hform] at h
    | some form =>
      simp only [hread, hform, Prod.mk.injEq, and_true] at h
      subst h
      constructor <;>
        simp [Contribution.note?, MemberDecl.member?, MemberDecl.found, note, hvisible, hread,
          hform, Except.toOption, Signature.References.none]

theorem take_fault (rules : MergeRules) (type : String) (kind : TypeKind) (draft : Draft)
    (c : Contribution) : (draft.take rules type kind c).2 = c.fault? rules.floor kind := by
  cases c with
  | base place source entry =>
    simp only [take]
    split <;> rfl
  | member source decl =>
    have hfault : Contribution.fault? rules.floor kind (.member source decl) =
        decl.fault? rules.floor kind := rfl
    rw [hfault, MemberDecl.fault?, MemberDecl.visible]
    simp only [take]
    split
    · exact addMember_fault draft rules _ source decl
    · rfl

theorem take_adds (h : draft.take rules type kind c = (after, none)) :
    Adds rules type kind c draft after := by
  cases c with
  | base place source entry =>
    cases hrole : rules.bases.role? entry with
    | none =>
      simp only [take, hrole, Prod.mk.injEq, and_true] at h
      subst h
      constructor <;> simp [Contribution.base?, Contribution.note?, hrole]
    | some role =>
      cases role with
      | base =>
        simp only [take, hrole, Prod.mk.injEq, and_true] at h
        exact h ▸ addBase_adds hrole
      | interface =>
        simp only [take, hrole, Prod.mk.injEq, and_true] at h
        exact h ▸ addInterface_adds hrole
  | member source decl =>
    cases hvisible : decl.visible rules.floor kind with
    | true =>
      have hreaches : rules.floor.reaches (.ofModifiers decl.modifiers kind) = true := hvisible
      simp only [take, if_pos hreaches] at h
      exact addMember_adds hvisible h
    | false =>
      have hreaches : rules.floor.reaches (.ofModifiers decl.modifiers kind) = false := hvisible
      simp only [take, hreaches, Bool.false_eq_true, if_false, Prod.mk.injEq, and_true] at h
      subst h
      constructor <;> simp [Contribution.note?, MemberDecl.member?, hvisible]

theorem Holds.empty : Holds rules type kind [] empty := ⟨rfl, rfl, rfl, rfl⟩

theorem Holds.concat (h : Holds rules type kind cs draft) (hc : Adds rules type kind c draft after) :
    Holds rules type kind (cs ++ [c]) after := by
  constructor
  · rw [hc.base, h.base, List.findSome?_append]
    simp
  · rw [hc.interfaces, h.interfaces, List.filterMap_append]
    cases hi : c.interface? rules.bases with
    | none => simp [hi]
    | some name =>
      have hlast : [c].filterMap (Contribution.interface? rules.bases) = [name] := by simp [hi]
      rw [hlast, eraseDups_concat]
      generalize cs.filterMap (Contribution.interface? rules.bases) = names
      by_cases hmem : name ∈ names <;> simp [Option.filter, hmem]
  · rw [hc.members, h.members, List.filterMap_append]
    cases hm : c.member? rules kind <;> simp [hm]
  · -- the notes so far do not change when the base type is set
    have hbefore : cs.filterMap (Contribution.note? rules type kind after.base) =
        cs.filterMap (Contribution.note? rules type kind draft.base) := by
      cases hbase : draft.base with
      | some kept => rw [hc.base, hbase, Option.some_or]
      | none =>
        have hnone : ∀ c ∈ cs, c.base? rules.bases = none :=
          List.findSome?_eq_none_iff.mp (h.base.symm.trans hbase)
        exact List.filterMap_congr fun c hc => Contribution.note?_of_no_base (hnone c hc) ..
    rw [hc.notes, h.notes, List.filterMap_append, hbefore]
    cases hn : c.note? rules type kind after.base <;> simp [hn]

theorem Holds.takeAll (h : Holds rules type kind cs draft) {more : List Contribution}
    (hmore : draft.takeAll rules type kind more = (after, none)) :
    Holds rules type kind (cs ++ more) after := by
  induction more generalizing cs draft with
  | nil =>
    obtain rfl : draft = after := congrArg Prod.fst hmore
    rwa [List.append_nil]
  | cons c rest ih =>
    rw [Draft.takeAll] at hmore
    split at hmore
    · simp at hmore
    · next draft' hnext =>
      have hstep := ih (h.concat (take_adds hnext)) hmore
      rwa [List.append_assoc] at hstep

theorem takeAll_fault (rules : MergeRules) (type : String) (kind : TypeKind) (draft : Draft)
    (cs : List Contribution) :
    (draft.takeAll rules type kind cs).2 = cs.findSome? (Contribution.fault? rules.floor kind) := by
  induction cs generalizing draft with
  | nil => rfl
  | cons c rest ih =>
    have hc := take_fault rules type kind draft c
    rw [Draft.takeAll, List.findSome?_cons]
    split
    · next draft' e hnext => rw [← hc, hnext]
    · next draft' hnext => rw [← hc, hnext, ih]

end Draft
end ClassChart
