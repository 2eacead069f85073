import ClassChart.Proofs.Chart.Merge

/-! What every step of a merge keeps. Whatever declarations are put together, an interface is listed
once, a member reaches the floor and refers to what its type text says, and a note is of one of two
sorts. All this holds up to the contribution that cannot be taken, too. -/
namespace ClassChart

/-- The member has the references of its type text, or none if the text cannot be read. -/
def Member.Shows (rules : NameRules) (m : Member) : Prop :=
  (Signature.references rules m.typeText).toOption.getD .none = ⟨m.container, m.references⟩

theorem Member.Shows.cases {rules : NameRules} {m : Member} (h : m.Shows rules) :
    m.references = [] ∨
      ∃ found, Signature.references rules m.typeText = .ok found ∧ found.names = m.references := by
  rw [Member.Shows] at h
  cases hread : Signature.references rules m.typeText with
  | ok found =>
    rw [hread] at h
    exact .inr ⟨found, rfl, congrArg Signature.References.names h⟩
  | error e =>
    rw [hread] at h
    exact .inl (congrArg Signature.References.names h).symm

inductive Remark : Diagnostic → Prop
  | otherBase (type kept : String) (source : Declaration) (entry : BaseRef) :
      Remark (Draft.otherBaseNote type kept source entry)
  | signature (source : Declaration) (decl : MemberDecl) (e : Signature.SyntaxError) :
      Remark (Draft.signatureNote source decl e)

structure Draft.Sound (rules : MergeRules) (draft : Draft) : Prop where
  interfaces : draft.interfaces.Nodup
  visible : ∀ m ∈ draft.members, rules.floor.reaches m.visibility = true
  shows : ∀ m ∈ draft.members, m.Shows rules.references
  notes : ∀ d ∈ draft.notes, Remark d

namespace Draft.Sound
variable {rules : MergeRules} {draft : Draft}

theorem empty (rules : MergeRules) : Draft.empty.Sound rules := by
  constructor <;> simp [Draft.empty]

theorem note (h : draft.Sound rules) {d : Diagnostic} (hd : Remark d) :
    (draft.note d).Sound rules := by
  refine ⟨h.interfaces, h.visible, h.shows, fun d' hd' => ?_⟩
  rcases List.mem_append.mp hd' with hold | hnew
  · exact h.notes d' hold
  · exact List.mem_singleton.mp hnew ▸ hd

theorem addInterface (h : draft.Sound rules) (name : String) :
    (draft.addInterface name).Sound rules := by
  unfold Draft.addInterface
  split
  · exact h
  · next hnew =>
    have hfresh : ∀ other ∈ draft.interfaces, other ≠ name := fun other hother heq =>
      hnew (heq ▸ hother)
    refine ⟨?_, h.visible, h.shows, h.notes⟩
    simpa [List.nodup_append] using And.intro h.interfaces hfresh

theorem addBase (h : draft.Sound rules) (type : String) (place : Nat) (source : Declaration)
    (entry : BaseRef) : (draft.addBase type place source entry).Sound rules := by
  unfold Draft.addBase
  split
  · exact ⟨h.interfaces, h.visible, h.shows, h.notes⟩
  · split
    · exact h.note (.otherBase ..)
    · exact h

theorem addToMembers (h : draft.Sound rules) {m : Member}
    (hvisible : rules.floor.reaches m.visibility = true) (hshows : m.Shows rules.references) :
    Sound rules { draft with members := draft.members ++ [m] } := by
  refine ⟨h.interfaces, ?_, ?_, h.notes⟩
  · exact List.forall_mem_append.mpr ⟨h.visible, by simpa using hvisible⟩
  · exact List.forall_mem_append.mpr ⟨h.shows, by simpa using hshows⟩

theorem addMember (h : draft.Sound rules) {visibility : Visibility}
    (hvisible : rules.floor.reaches visibility = true) (source : Declaration) (decl : MemberDecl) :
    (draft.addMember rules visibility source decl).1.Sound rules := by
  unfold Draft.addMember
  cases hread : Signature.references rules.references decl.typeText with
  | ok found =>
    cases hform : MemberForm.ofText? decl.form with
    | none => exact h
    | some form => exact h.addToMembers hvisible (by simp [Member.Shows, hread, Except.toOption])
  | error e =>
    have hnoted := h.note (.signature source decl e)
    cases hform : MemberForm.ofText? decl.form with
    | none => exact hnoted
    | some form =>
      exact hnoted.addToMembers hvisible
        (by simp [Member.Shows, hread, Except.toOption, Signature.References.none])

theorem take (h : draft.Sound rules) (type : String) (kind : TypeKind) (c : Contribution) :
    (draft.take rules type kind c).1.Sound rules := by
  cases c with
  | base place source entry =>
    simp only [Draft.take]
    split
    · exact h
    · exact h.addInterface entry.name
    · exact h.addBase type place source entry
  | member source decl =>
    simp only [Draft.take]
    split
    · next hvisible => exact h.addMember hvisible source decl
    · exact h

theorem takeAll (h : draft.Sound rules) (type : String) (kind : TypeKind)
    (cs : List Contribution) : (draft.takeAll rules type kind cs).1.Sound rules := by
  induction cs generalizing draft with
  | nil => exact h
  | cons c rest ih =>
    have hnext := h.take type kind c
    rw [Draft.takeAll]
    split
    · next draft' e heq => rwa [heq] at hnext
    · next draft' heq =>
      rw [heq] at hnext
      exact ih hnext

end Draft.Sound

structure Outline.Sound (rules : MergeRules) (o : Outline) : Prop where
  enum : o.kind = .enum → o.base = none ∧ o.interfaces = [] ∧ o.members = []
  values : o.kind ≠ .enum → o.values = []
  interfaces : o.interfaces.Nodup
  visible : ∀ m ∈ o.members, rules.floor.reaches m.visibility = true
  shows : ∀ m ∈ o.members, m.Shows rules.references

variable {rules : MergeRules} {ds : List Declaration}

theorem merge_outcome_sound {o : Outline} (h : (merge rules ds).outcome = .ok o) :
    o.Sound rules := by
  cases ds with
  | nil => simp [merge] at h
  | cons first rest =>
    obtain ⟨kind, _, ⟨henum, rfl⟩ | ⟨henum, draft, htake, rfl⟩⟩ := merge_eq_ok h
    · exact ⟨fun _ => ⟨rfl, rfl, rfl⟩, fun hne => absurd henum hne, List.nodup_nil, by simp,
        by simp⟩
    · have hdraft := (Draft.Sound.empty rules).takeAll first.qualifiedName kind
        (contributionsFrom 0 (first :: rest))
      rw [htake] at hdraft
      exact ⟨fun heq => absurd heq henum, fun _ => rfl, hdraft.interfaces, hdraft.visible,
        hdraft.shows⟩

theorem merge_notes_remarks : ∀ d ∈ (merge rules ds).notes, Remark d := by
  cases ds with
  | nil => simp [merge]
  | cons first rest =>
    simp only [merge]
    cases TypeKind.ofText? first.kind with
    | none => simp
    | some kind =>
      have hdraft := (Draft.Sound.empty rules).takeAll first.qualifiedName kind
        (contributionsFrom 0 (first :: rest))
      by_cases henum : kind = .enum
      · simp [henum]
      · simp only [if_neg henum]
        split
        · next draft e heq =>
          rw [heq] at hdraft
          exact hdraft.notes
        · next draft heq =>
          rw [heq] at hdraft
          exact hdraft.notes

end ClassChart
