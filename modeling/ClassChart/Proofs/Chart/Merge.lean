import ClassChart.Chart.Merge
import ClassChart.Proofs.Signature.Survivors

/-! What a merge takes from its declarations and from the rules. The first declaration gives the
head of the outline, and the rules count only for what they answer about the names that the
declarations mention. -/
namespace ClassChart

namespace Contribution

def entry? : Contribution → Option BaseRef
  | base _ _ entry => some entry
  | member .. => none

def decl? : Contribution → Option MemberDecl
  | base .. => none
  | member _ decl => some decl

end Contribution

theorem entries_contributionsFrom (place : Nat) (ds : List Declaration) :
    (contributionsFrom place ds).filterMap Contribution.entry? = ds.flatMap (·.bases) := by
  induction ds generalizing place with
  | nil => rfl
  | cons d rest ih =>
    have hown : (d.contributions place).filterMap Contribution.entry? = d.bases := by
      simp [Declaration.contributions, Contribution.entry?, Function.comp_def]
    rw [contributionsFrom, List.filterMap_append, hown, ih, List.flatMap_cons]

theorem decls_contributionsFrom (place : Nat) (ds : List Declaration) :
    (contributionsFrom place ds).filterMap Contribution.decl? = ds.flatMap (·.members) := by
  induction ds generalizing place with
  | nil => rfl
  | cons d rest ih =>
    have hown : (d.contributions place).filterMap Contribution.decl? = d.members := by
      simp [Declaration.contributions, Contribution.decl?, Function.comp_def]
    rw [contributionsFrom, List.filterMap_append, hown, ih, List.flatMap_cons]

theorem Signature.references_eq_of_survives {rules rules' : NameRules}
    (h : survives rules = survives rules') : references rules = references rules' := by
  funext text
  have hreferencesIn : referencesIn rules = referencesIn rules' := by
    funext e
    simp only [referencesIn_eq, h]
  simp only [references, hreferencesIn]

/-- Rules that answer every question about a name alike. -/
structure NameRules.Agree (rules rules' : NameRules) : Prop where
  excludeSystem : rules.excludeSystem = rules'.excludeSystem
  systemNamespaces : rules.systemNamespaces = rules'.systemNamespaces
  lookup : ∀ name qualifier, rules.index.bind (·.lookup? name qualifier) =
    rules'.index.bind (·.lookup? name qualifier)

structure MergeRules.Agree (rules rules' : MergeRules) : Prop where
  references : rules.references.Agree rules'.references
  bases : rules.bases.Agree rules'.bases
  floor : rules.floor = rules'.floor

namespace NameRules.Agree
variable {rules rules' : NameRules}

theorem role?_eq (h : rules.Agree rules') : rules.role? = rules'.role? := by
  funext entry
  simp only [role?, h.lookup, h.excludeSystem, h.systemNamespaces]

theorem isSystem_eq (h : rules.Agree rules') :
    Signature.isSystem rules = Signature.isSystem rules' := by
  funext name qualifier
  simp only [Signature.isSystem, h.lookup, h.systemNamespaces]

theorem survives_eq (h : rules.Agree rules') :
    Signature.survives rules = Signature.survives rules' := by
  funext occurrence
  simp only [Signature.survives, h.isSystem_eq, h.excludeSystem]

theorem references_eq (h : rules.Agree rules') :
    Signature.references rules = Signature.references rules' :=
  Signature.references_eq_of_survives h.survives_eq

end NameRules.Agree

/-- Rules that merge the given declarations alike: what else the declarations could have named does
not count. -/
structure MergeRules.AgreeOn (rules rules' : MergeRules) (ds : List Declaration) : Prop where
  references : Signature.references rules.references = Signature.references rules'.references
  roles : ∀ d ∈ ds, ∀ entry ∈ d.bases, rules.bases.role? entry = rules'.bases.role? entry
  floor : rules.floor = rules'.floor

namespace MergeRules.AgreeOn
variable {rules rules' : MergeRules} {ds : List Declaration}

theorem mono {es : List Declaration} (h : rules.AgreeOn rules' ds) (hes : ∀ e ∈ es, e ∈ ds) :
    rules.AgreeOn rules' es :=
  ⟨h.references, fun d hd => h.roles d (hes d hd), h.floor⟩

theorem take_eq (h : rules.AgreeOn rules' ds) (type : String) (kind : TypeKind) (draft : Draft)
    (c : Contribution) (hc : ∀ entry, c.entry? = some entry → entry ∈ ds.flatMap (·.bases)) :
    draft.take rules type kind c = draft.take rules' type kind c := by
  cases c with
  | base place source entry =>
    obtain ⟨d, hd, hentry⟩ := List.mem_flatMap.mp (hc entry rfl)
    simp only [Draft.take, h.roles d hd entry hentry]
  | member source decl =>
    simp only [Draft.take, Draft.addMember, h.floor, h.references]

theorem takeAll_eq (h : rules.AgreeOn rules' ds) (type : String) (kind : TypeKind) (draft : Draft)
    (cs : List Contribution)
    (hcs : ∀ entry ∈ cs.filterMap Contribution.entry?, entry ∈ ds.flatMap (·.bases)) :
    draft.takeAll rules type kind cs = draft.takeAll rules' type kind cs := by
  induction cs generalizing draft with
  | nil => rfl
  | cons c rest ih =>
    have hc : ∀ entry, c.entry? = some entry → entry ∈ ds.flatMap (·.bases) := fun entry hentry =>
      hcs entry (List.mem_filterMap.mpr ⟨c, List.mem_cons_self, hentry⟩)
    have hrest : ∀ entry ∈ rest.filterMap Contribution.entry?, entry ∈ ds.flatMap (·.bases) := by
      intro entry hentry
      obtain ⟨c', hc', heq⟩ := List.mem_filterMap.mp hentry
      exact hcs entry (List.mem_filterMap.mpr ⟨c', List.mem_cons_of_mem c hc', heq⟩)
    simp only [Draft.takeAll, h.take_eq type kind draft c hc, ih _ hrest]

theorem merge_eq (h : rules.AgreeOn rules' ds) : merge rules ds = merge rules' ds := by
  cases ds with
  | nil => rfl
  | cons first rest =>
    have hall := h.takeAll_eq first.qualifiedName
    simp only [merge, hall _ _ _ fun entry hentry => entries_contributionsFrom 0 _ ▸ hentry]

end MergeRules.AgreeOn

theorem MergeRules.Agree.merge_eq {rules rules' : MergeRules} (h : rules.Agree rules') :
    merge rules = merge rules' := by
  funext ds
  have hon : rules.AgreeOn rules' ds :=
    ⟨h.references.references_eq, fun _ _ _ _ => by rw [h.bases.role?_eq], h.floor⟩
  exact hon.merge_eq

theorem merge_eq_ok {rules : MergeRules} {first : Declaration} {rest : List Declaration}
    {o : Outline} (h : (merge rules (first :: rest)).outcome = .ok o) :
    ∃ kind, TypeKind.ofText? first.kind = some kind ∧
      ((kind = .enum ∧ o = ⟨first.name, kind, first.qualifiedName, first.scope, none, [], [],
          first.values⟩) ∨
        (kind ≠ .enum ∧ ∃ draft, Draft.empty.takeAll rules first.qualifiedName kind
            (contributionsFrom 0 (first :: rest)) = (draft, none) ∧
          o = ⟨first.name, kind, first.qualifiedName, first.scope, draft.base.map (·.1),
            draft.interfaces, draft.members, []⟩)) := by
  rw [merge] at h
  cases hkind : TypeKind.ofText? first.kind with
  | none => simp [hkind] at h
  | some kind =>
    refine ⟨kind, rfl, ?_⟩
    simp only [hkind] at h
    split at h
    · next henum => exact .inl ⟨henum, (Except.ok.inj h).symm⟩
    · next henum =>
      split at h
      · simp at h
      · next draft hdraft => exact .inr ⟨henum, draft, hdraft, (Except.ok.inj h).symm⟩

theorem merge_head {rules : MergeRules} {first : Declaration} {rest : List Declaration}
    {o : Outline} (h : (merge rules (first :: rest)).outcome = .ok o) :
    o.name = first.name ∧ o.qualifiedName = first.qualifiedName ∧ o.scope = first.scope ∧
      TypeKind.ofText? first.kind = some o.kind := by
  obtain ⟨kind, hkind, ⟨_, rfl⟩ | ⟨_, draft, _, rfl⟩⟩ := merge_eq_ok h <;>
    exact ⟨rfl, rfl, rfl, hkind⟩

end ClassChart
