import ClassChart.Chart.Diagram
import ClassChart.Proofs.List.Separator
import ClassChart.Proofs.Signature.Parentheses

/-! The line of a member, read back. A name has neither blanks nor parentheses, and a type text no
`()`: the last blank ends the type of a property, and the first parenthesis the name of a method. -/
namespace ClassChart.Diagram
open Text

/-- A name of word characters and `@`. -/
def Plain (text : String) : Prop := ∀ c ∈ text.toList, isWordChar c = true ∨ c = '@'

/-- A type text that is missing or can be read, on one line. -/
structure OneLine (text : String) : Prop where
  reads : text = "" ∨ ∃ e, Signature.read text = .ok e
  unbroken : '\n' ∉ text.toList

def signature (m : Member) : Visibility × String × String :=
  (m.visibility, m.name, typeText m.typeText)

section
variable {n n' t t' : String}

theorem Plain.not_mem (h : Plain n) {c : Char} (hc : ¬(isWordChar c = true ∨ c = '@')) :
    c ∉ n.toList :=
  fun hmem => hc (h c hmem)

theorem toList_typeText (t : String) : (typeText t).toList =
    if t = "" then "void".toList
    else t.toList.map fun c => if c = '<' ∨ c = '>' then '~' else c := by
  unfold typeText
  split
  · rfl
  · exact String.toList_map ..

/- Only a tilde can be something else in the type text. -/
theorem eq_of_tilde {c d : Char} (hd : d ≠ '~')
    (h : (if c = '<' ∨ c = '>' then '~' else c) = d) : c = d := by
  split at h
  · exact absurd h.symm hd
  · exact h

theorem OneLine.break_not_mem (h : OneLine t) : '\n' ∉ (typeText t).toList := by
  rw [toList_typeText]
  split
  · decide
  · rw [List.mem_map]
    rintro ⟨c, hc, hbreak⟩
    exact h.unbroken (eq_of_tilde (by decide) hbreak ▸ hc)

theorem OneLine.no_pair (h : OneLine t) : ¬['(', ')'] <:+: (typeText t).toList := by
  rw [toList_typeText]
  split
  · decide
  · next hne =>
    obtain ⟨e, he⟩ := h.reads.resolve_left hne
    intro hpair
    obtain ⟨pair, hin, heq⟩ := List.infix_map_iff.mp hpair
    obtain ⟨c, rest, rfl, hc, hrest⟩ := List.map_eq_cons_iff.mp heq.symm
    obtain ⟨d, rest, rfl, hd, hnil⟩ := List.map_eq_cons_iff.mp hrest
    rw [eq_of_tilde (by decide) hc, eq_of_tilde (by decide) hd, List.map_eq_nil_iff.mp hnil] at hin
    exact Signature.no_pair_of_read he hin

/-- A type text and a name after it do not look like a name and a type text after it. -/
theorem type_name_ne_name_type {T T' n n' : List Char} (hT : ¬['(', ')'] <:+: T) (hn' : ' ' ∉ n') :
    T ++ ' ' :: n ≠ n' ++ '(' :: ')' :: ' ' :: T' := by
  intro h
  rcases List.append_eq_append_iff.mp h with ⟨rest, rfl, hrest⟩ | ⟨rest, rfl, hrest⟩
  · cases rest with
    | nil => simp at hrest
    | cons c rest =>
      obtain ⟨rfl, -⟩ := List.cons.inj hrest
      simp at hn'
  · rcases rest with _ | ⟨c, _ | ⟨d, rest⟩⟩
    · simp at hrest
    · simp at hrest
    · simp only [List.cons_append, List.cons.injEq] at hrest
      obtain ⟨rfl, rfl, -⟩ := hrest
      exact hT ⟨n', rest, by simp⟩

theorem marker_append_inj {v w : Visibility} {s t : String}
    (h : marker v ++ s = marker w ++ t) : v = w ∧ s.toList = t.toList := by
  have hone (v : Visibility) : (marker v).toList.length = 1 := by cases v <;> rfl
  have hlist := congrArg String.toList h
  rw [String.toList_append, String.toList_append] at hlist
  obtain ⟨hmarker, hrest⟩ := List.append_inj hlist (by rw [hone, hone])
  refine ⟨?_, hrest⟩
  cases v <;> cases w <;> first | rfl | exact absurd hmarker (by decide)

end

section
variable {m m' : Member}

theorem propertyText_inj (hn : Plain m.name) (hn' : Plain m'.name)
    (h : propertyText m = propertyText m') : signature m = signature m' := by
  simp only [propertyText, String.append_assoc] at h
  obtain ⟨hv, hlist⟩ := marker_append_inj h
  simp only [String.toList_append] at hlist
  obtain ⟨hT, hname⟩ :=
    append_cons_inj_last (hn.not_mem (by decide)) (hn'.not_mem (by decide)) hlist
  rw [signature, hv, String.toList_inj.mp hT, String.toList_inj.mp hname, signature]

theorem methodText_inj (hn : Plain m.name) (hn' : Plain m'.name)
    (h : methodText m = methodText m') : signature m = signature m' := by
  simp only [methodText, String.append_assoc] at h
  obtain ⟨hv, hlist⟩ := marker_append_inj h
  simp only [String.toList_append] at hlist
  obtain ⟨hname, hT⟩ :=
    append_cons_inj (hn.not_mem (by decide)) (hn'.not_mem (by decide)) hlist
  have hT : typeText m.typeText = typeText m'.typeText :=
    String.toList_inj.mp (List.cons.inj (List.cons.inj hT).2).2
  rw [signature, hv, hT, String.toList_inj.mp hname, signature]

theorem propertyText_ne_methodText (ht : OneLine m.typeText) (hn' : Plain m'.name) :
    propertyText m ≠ methodText m' := by
  intro h
  simp only [propertyText, methodText, String.append_assoc] at h
  obtain ⟨-, hlist⟩ := marker_append_inj h
  simp only [String.toList_append] at hlist
  exact type_name_ne_name_type ht.no_pair (hn'.not_mem (by decide)) hlist

def memberText (m : Member) : String :=
  match m.form with
  | .property => propertyText m
  | .method => methodText m

theorem memberText_inj (hn : Plain m.name) (hn' : Plain m'.name) (ht : OneLine m.typeText)
    (ht' : OneLine m'.typeText) (h : memberText m = memberText m') :
    m.form = m'.form ∧ signature m = signature m' := by
  unfold memberText at h
  cases hform : m.form with
  | property =>
    cases hform' : m'.form with
    | property =>
      rw [hform, hform'] at h
      exact ⟨rfl, propertyText_inj hn hn' h⟩
    | method =>
      rw [hform, hform'] at h
      exact absurd h (propertyText_ne_methodText ht hn')
  | method =>
    cases hform' : m'.form with
    | property =>
      rw [hform, hform'] at h
      exact absurd h.symm (propertyText_ne_methodText ht' hn)
    | method =>
      rw [hform, hform'] at h
      exact ⟨rfl, methodText_inj hn hn' h⟩

theorem memberText_unbroken (hn : Plain m.name) (ht : OneLine m.typeText) :
    '\n' ∉ (memberText m).toList := by
  have hname : '\n' ∉ m.name.toList := hn.not_mem (by decide)
  have hmarker : '\n' ∉ (marker m.visibility).toList := by cases m.visibility <;> decide
  unfold memberText
  cases m.form with
  | property => simp [propertyText, hmarker, hname, ht.break_not_mem]
  | method => simp [methodText, hmarker, hname, ht.break_not_mem]

end

end ClassChart.Diagram
