import Mathlib.Data.List.Basic
import Mathlib.Data.List.Flatten
import Mathlib.Data.List.Forall2

/-! Lists looked at key by key. A list put together from pieces is cut by the keys of its pieces, and
where each piece is one element or none, the list stands element for element beside the pieces that
give one. What is made of two lists that stand side by side compares as their elements do. -/
namespace ClassChart

theorem perm_of_filter_eq {α κ : Type} [DecidableEq α] [DecidableEq κ] (key : α → κ)
    {as bs : List α} (h : ∀ k, as.filter (key · = k) = bs.filter (key · = k)) : as.Perm bs := by
  refine List.perm_iff_count.mpr fun a => ?_
  have hcount : ∀ cs : List α, (cs.filter (key · = key a)).count a = cs.count a :=
    fun cs => List.count_filter (by simp)
  rw [← hcount as, h, hcount]

section
variable {α β : Type}

/-- Where all elements of a piece answer alike, to filter the whole is to choose pieces. -/
theorem filter_flatMap_eq {f : α → List β} {p : β → Bool} {q : α → Bool} {as : List α}
    (h : ∀ a ∈ as, ∀ b ∈ f a, p b = q a) :
    (as.flatMap f).filter p = (as.filter q).flatMap f := by
  induction as with
  | nil => rfl
  | cons a rest ih =>
    obtain ⟨ha, hrest⟩ := List.forall_mem_cons.mp h
    rw [List.flatMap_cons, List.filter_append, ih hrest]
    cases hq : q a with
    | true =>
      have hall : (f a).filter p = f a := List.filter_eq_self.mpr fun b hb => by rw [ha b hb, hq]
      simp [hall, hq]
    | false =>
      have hnone : (f a).filter p = [] :=
        List.filter_eq_nil_iff.mpr fun b hb => by simp [ha b hb, hq]
      simp [hnone, hq]

theorem exists_of_forall₂ {R : α → β → Prop} {as : List α} {bs : List β}
    (h : List.Forall₂ R as bs) {a : α} (ha : a ∈ as) : ∃ b ∈ bs, R a b := by
  induction h with
  | nil => simp at ha
  | @cons a' b _ _ hab _ ih =>
    cases List.mem_cons.mp ha with
    | inl heq => exact ⟨b, List.mem_cons_self, heq ▸ hab⟩
    | inr hrest =>
      obtain ⟨b', hb', hR⟩ := ih hrest
      exact ⟨b', List.mem_cons_of_mem b hb', hR⟩

theorem forall₂_map_eq_iff {γ : Type} {f : α → γ} {g : β → γ} {as : List α} {bs : List β} :
    List.Forall₂ (fun a b => f a = g b) as bs ↔ as.map f = bs.map g := by
  rw [← List.forall₂_eq_eq_eq, List.forall₂_map_left_iff, List.forall₂_map_right_iff]

theorem flatMap_eq_of_forall₂ {γ : Type} {R : α → β → Prop} {f : α → List γ} {g : β → List γ}
    {as : List α} {bs : List β} (h : List.Forall₂ R as bs) (hfg : ∀ a b, R a b → f a = g b) :
    as.flatMap f = bs.flatMap g := by
  have hpieces : as.map f = bs.map g := forall₂_map_eq_iff.mp (h.imp hfg)
  rw [List.flatMap, hpieces]
  rfl

theorem flatMap_sublist_of_forall₂ {γ : Type} {R : α → β → Prop} {f : α → List γ}
    {g : β → List γ} {as : List α} {bs : List β} (h : List.Forall₂ R as bs)
    (hfg : ∀ a b, R a b → (f a).Sublist (g b)) : (as.flatMap f).Sublist (bs.flatMap g) := by
  induction h with
  | nil => exact .slnil
  | cons hab _ ih =>
    rw [List.flatMap_cons, List.flatMap_cons]
    exact (hfg _ _ hab).append ih

theorem filterMap_sublist {f g : α → Option β} (h : ∀ a, f a = none ∨ f a = g a) (as : List α) :
    (as.filterMap f).Sublist (as.filterMap g) := by
  induction as with
  | nil => exact .slnil
  | cons a rest ih =>
    rw [List.filterMap_cons, List.filterMap_cons]
    cases h a with
    | inl hnone =>
      rw [hnone]
      cases g a with
      | none => exact ih
      | some b => exact ih.cons b
    | inr heq =>
      rw [heq]
      cases g a with
      | none => exact ih
      | some b => exact ih.cons_cons b

theorem find?_of_forall₂ {R : α → β → Prop} {p : α → Bool} {q : β → Bool} {as : List α}
    {bs : List β} (h : List.Forall₂ R as bs) (hpq : ∀ a b, R a b → p a = q b) :
    Option.Rel R (as.find? p) (bs.find? q) := by
  induction h with
  | nil => exact .none
  | @cons a b _ _ hab _ ih =>
    rw [List.find?_cons, List.find?_cons, hpq a b hab]
    cases q b with
    | true => exact .some hab
    | false => exact ih

/-- A narrower search finds the same, or the wider one finds what the narrower one passes over. -/
theorem find?_narrower {p q : α → Bool} (h : ∀ a, p a = true → q a = true) (as : List α) :
    as.find? p = as.find? q ∨ ∃ a ∈ as, as.find? q = some a ∧ p a = false := by
  induction as with
  | nil => exact .inl rfl
  | cons a rest ih =>
    rw [List.find?_cons, List.find?_cons]
    cases hp : p a with
    | true =>
      rw [h a hp]
      exact .inl rfl
    | false =>
      cases hq : q a with
      | true => exact .inr ⟨a, List.mem_cons_self, rfl, hp⟩
      | false =>
        cases ih with
        | inl heq => exact .inl heq
        | inr hother =>
          obtain ⟨a', ha', hfound, hnot⟩ := hother
          exact .inr ⟨a', List.mem_cons_of_mem a ha', hfound, hnot⟩

theorem forall₂_flatMap {R : α → β → Prop} {f : α → List β} {q : α → Bool} {as : List α}
    (hone : ∀ a ∈ as, q a = true → ∃ b, f a = [b] ∧ R a b)
    (hnone : ∀ a ∈ as, q a = false → f a = []) :
    List.Forall₂ R (as.filter q) (as.flatMap f) := by
  induction as with
  | nil => exact .nil
  | cons a rest ih =>
    obtain ⟨hone, honeRest⟩ := List.forall_mem_cons.mp hone
    obtain ⟨hnone, hnoneRest⟩ := List.forall_mem_cons.mp hnone
    have hrest := ih honeRest hnoneRest
    cases hq : q a with
    | true =>
      obtain ⟨b, hb, hR⟩ := hone hq
      simpa [hq, hb] using List.Forall₂.cons hR hrest
    | false => simpa [hq, hnone hq] using hrest

end

end ClassChart
