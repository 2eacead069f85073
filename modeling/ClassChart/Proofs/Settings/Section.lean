import ClassChart.Settings.Basic
import Mathlib.Data.List.Basic

/-! Sections by what they give. Under each key that is the last entry that says something. Of one section
laid over another it says everything: what is given above, and where nothing is, what is given below. -/
namespace ClassChart

def Section.given? : Section → String → Option Value
  | [], _ => none
  | (k, v) :: rest, key => (given? rest key).or (if k = key ∧ v.isGiven then some v else none)

namespace Section
variable {below above : Section} {key k : String} {v : Value}

theorem mem_of_given? (h : below.given? key = some v) : (key, v) ∈ below ∧ v.isGiven = true := by
  induction below with
  | nil => exact absurd h (by simp [given?])
  | cons e rest ih =>
    rw [given?, Option.or_eq_some_iff] at h
    obtain hrest | ⟨-, hhere⟩ := h
    · exact ⟨.tail _ (ih hrest).1, (ih hrest).2⟩
    · obtain ⟨⟨rfl, hgiven⟩, hv⟩ := Option.ite_none_right_eq_some.mp hhere
      obtain rfl := Option.some.inj hv
      exact ⟨.head _, hgiven⟩

theorem exists_given?_of_mem (hmem : (key, v) ∈ below) (hgiven : v.isGiven = true) :
    ∃ w, below.given? key = some w := by
  induction below with
  | nil => exact absurd hmem List.not_mem_nil
  | cons e rest ih =>
    rw [given?]
    cases hrest : given? rest key with
    | some w => exact ⟨w, rfl⟩
    | none =>
      have hnot : (key, v) ∉ rest := by
        intro hrest'
        obtain ⟨w, hw⟩ := ih hrest'
        exact Option.some_ne_none w (hw.symm.trans hrest)
      obtain rfl := (List.mem_cons.mp hmem).resolve_right hnot
      exact ⟨v, if_pos ⟨rfl, hgiven⟩⟩

theorem given?_of_mem (hmem : (key, v) ∈ below) (hgiven : v.isGiven = true)
    (hone : ∀ w, (key, w) ∈ below → w = v) : below.given? key = some v := by
  obtain ⟨w, hw⟩ := exists_given?_of_mem hmem hgiven
  rw [hw, hone w (mem_of_given? hw).1]

theorem given?_eq_none (h : ∀ e ∈ below, e.2 = .null) : below.given? key = none := by
  by_contra hsome
  obtain ⟨v, hv⟩ := Option.ne_none_iff_exists'.mp hsome
  obtain ⟨hmem, hgiven⟩ := mem_of_given? hv
  obtain rfl : v = .null := h _ hmem
  exact absurd hgiven (by decide)

theorem given?_append : given? (below ++ above) key = (above.given? key).or (below.given? key) := by
  induction below with
  | nil => simp [given?]
  | cons e rest ih => rw [List.cons_append, given?, ih, given?, Option.or_assoc]

theorem given?_replaced (hne : key ≠ k) :
    given? (below.map fun (k', w) => if k' == key then (k', v) else (k', w)) k = below.given? k := by
  induction below with
  | nil => rfl
  | cons e rest ih =>
    obtain ⟨k', w⟩ := e
    by_cases hkey : k' = key
    · simp [given?, hkey, hne, ← ih]
    · simp [given?, hkey, ← ih]

theorem mem_put {e : String × Value} :
    e ∈ below.put key v ↔ e = (key, v) ∨ e.1 ≠ key ∧ e ∈ below := by
  by_cases hany : ∃ w, (key, w) ∈ below
  · rw [put, if_pos (by simpa using hany), List.mem_map]
    constructor
    · rintro ⟨⟨k, w⟩, hmem, rfl⟩
      by_cases hkey : k = key
      · exact .inl (by simp [hkey])
      · exact .inr (by simpa [hkey] using hmem)
    · rintro (rfl | ⟨hne, hmem⟩)
      · obtain ⟨w, hw⟩ := hany
        exact ⟨_, hw, by simp⟩
      · exact ⟨e, hmem, by simp [hne]⟩
  · rw [put, if_neg (by simpa using hany), List.mem_append, List.mem_singleton, or_comm]
    refine or_congr_right (iff_and_self.mpr fun hmem hkey => hany ⟨e.2, hkey ▸ hmem⟩)

theorem given?_put (hgiven : v.isGiven = true) :
    (below.put key v).given? k = if key = k then some v else below.given? k := by
  by_cases heq : key = k
  · subst heq
    rw [if_pos rfl]
    refine given?_of_mem (mem_put.mpr (.inl rfl)) hgiven fun w hw => ?_
    obtain heq | ⟨hne, -⟩ := mem_put.mp hw
    · exact congrArg Prod.snd heq
    · exact absurd rfl hne
  · rw [if_neg heq, put]
    split
    · exact given?_replaced heq
    · rw [given?_append]
      simp [given?, heq]

theorem laidOver_cons (e : String × Value) : below.laidOver (e :: above) =
    if e.2.isGiven then (below.put e.1 e.2).laidOver above else below.laidOver above := by
  by_cases hgiven : e.2.isGiven = true
  · simp [laidOver, putAll, hgiven]
  · simp [laidOver, putAll, hgiven]

theorem mem_laidOver {e : String × Value} : e ∈ below.laidOver above ↔
    above.given? e.1 = some e.2 ∨ above.given? e.1 = none ∧ e ∈ below := by
  induction above generalizing below with
  | nil => simp [laidOver, putAll, given?]
  | cons a rest ih =>
    rw [laidOver_cons, given?]
    by_cases hgiven : a.2.isGiven = true
    · rw [if_pos hgiven, ih, mem_put]
      cases given? rest e.1 with
      | some w => simp
      | none =>
        by_cases hkey : a.1 = e.1
        · simp [hkey, hgiven, Prod.ext_iff, eq_comm]
        · simp [hkey, Ne.symm hkey, Prod.ext_iff]
    · simp [hgiven, ih]

theorem given?_laidOver :
    (below.laidOver above).given? key = (above.given? key).or (below.given? key) := by
  induction above generalizing below with
  | nil => simp [laidOver, putAll, given?]
  | cons a rest ih =>
    rw [laidOver_cons, given?]
    by_cases hgiven : a.2.isGiven = true
    · rw [if_pos hgiven, ih, given?_put hgiven, Option.or_assoc]
      by_cases hkey : a.1 = key
      · simp [hkey, hgiven]
      · simp [hkey]
    · simp [hgiven, ih]

end Section

end ClassChart
