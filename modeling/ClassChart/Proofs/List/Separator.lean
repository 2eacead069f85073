import Mathlib.Data.List.Basic

/-! Lists with a separator. Parts without the separator are found again in what they are joined to. -/
namespace ClassChart

section
variable {α β γ : Type} {s : γ} {before before' after after' : List γ}

theorem append_cons_inj [DecidableEq γ] (hb : s ∉ before) (hb' : s ∉ before')
    (h : before ++ s :: after = before' ++ s :: after') : before = before' ∧ after = after' := by
  have hsplit := congrArg (List.splitOn s) h
  rw [List.splitOn_append_cons_self_of_not_mem hb,
    List.splitOn_append_cons_self_of_not_mem hb'] at hsplit
  obtain rfl := (List.cons.inj hsplit).1
  exact ⟨rfl, (List.cons.inj (List.append_cancel_left h)).2⟩

theorem append_cons_inj_last [DecidableEq γ] (ha : s ∉ after) (ha' : s ∉ after')
    (h : before ++ s :: after = before' ++ s :: after') : before = before' ∧ after = after' := by
  have hreverse := congrArg List.reverse h
  simp only [List.reverse_append, List.reverse_cons, List.append_assoc,
    List.singleton_append] at hreverse
  obtain ⟨hafter, hbefore⟩ := append_cons_inj (by simpa using ha) (by simpa using ha') hreverse
  exact ⟨List.reverse_injective hbefore, List.reverse_injective hafter⟩

theorem exists_last_split [DecidableEq γ] {l : List γ} (h : s ∈ l) :
    ∃ before after, l = before ++ s :: after ∧ s ∉ after := by
  obtain ⟨after, before, hl, hafter⟩ := List.eq_append_cons_of_mem (List.mem_reverse.mpr h)
  refine ⟨before.reverse, after.reverse, ?_, by simpa using hafter⟩
  rw [← List.reverse_reverse l, hl]
  simp

theorem map_eq_of_flatMap_concat [DecidableEq γ] {f : α → List γ} {as bs : List α}
    (ha : ∀ a ∈ as, s ∉ f a) (hb : ∀ b ∈ bs, s ∉ f b)
    (h : (as.flatMap fun a => f a ++ [s]) = bs.flatMap fun b => f b ++ [s]) :
    as.map f = bs.map f := by
  induction as generalizing bs with
  | nil =>
    cases bs with
    | nil => rfl
    | cons b bs => simp at h
  | cons a as ih =>
    cases bs with
    | nil => simp at h
    | cons b bs =>
      obtain ⟨ha, has⟩ := List.forall_mem_cons.mp ha
      obtain ⟨hb, hbs⟩ := List.forall_mem_cons.mp hb
      simp only [List.flatMap_cons, List.append_assoc, List.singleton_append] at h
      obtain ⟨hhead, htail⟩ := append_cons_inj ha hb h
      rw [List.map_cons, List.map_cons, hhead, ih has hbs htail]

theorem map_eq_of_map_eq {f : α → β} {g : α → γ} {as bs : List α}
    (hinj : ∀ a ∈ as, ∀ b ∈ bs, f a = f b → g a = g b) (h : as.map f = bs.map f) :
    as.map g = bs.map g := by
  induction as generalizing bs with
  | nil =>
    cases bs with
    | nil => rfl
    | cons b bs => simp at h
  | cons a as ih =>
    cases bs with
    | nil => simp at h
    | cons b bs =>
      obtain ⟨hhead, htail⟩ := List.cons.inj h
      have hrest := ih (fun c hc d hd => hinj c (.tail a hc) d (.tail b hd)) htail
      rw [List.map_cons, List.map_cons, hinj a (.head as) b (.head bs) hhead, hrest]

end

end ClassChart
