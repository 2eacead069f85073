import Mathlib.Data.List.Forall2
import Mathlib.Logic.Function.Basic

/-! Keeping of each key the element that has it first. Lists without repetitions are those that keep
each element itself. -/
namespace ClassChart

section
variable {α β κ : Type} [DecidableEq κ]

/-- Of elements with one key the first stays; `seen` holds the keys met before. -/
def firstBy (key : α → κ) (seen : List κ) : List α → List α
  | [] => []
  | a :: rest =>
    if key a ∈ seen then firstBy key seen rest else a :: firstBy key (key a :: seen) rest

variable {key : α → κ}

theorem firstBy_sublist (seen : List κ) (as : List α) : (firstBy key seen as).Sublist as := by
  induction as generalizing seen with
  | nil => exact .slnil
  | cons a rest ih =>
    simp only [firstBy]
    split
    · exact (ih seen).cons a
    · exact (ih _).cons_cons a

theorem firstBy_not_seen (seen : List κ) (as : List α) :
    ∀ a ∈ firstBy key seen as, key a ∉ seen := by
  induction as generalizing seen with
  | nil => simp [firstBy]
  | cons a rest ih =>
    simp only [firstBy]
    split
    · exact ih seen
    · next ha =>
      refine List.forall_mem_cons.mpr ⟨ha, fun b hb hseen => ?_⟩
      exact ih _ b hb (List.mem_cons_of_mem _ hseen)

theorem firstBy_nodup (seen : List κ) (as : List α) : ((firstBy key seen as).map key).Nodup := by
  induction as generalizing seen with
  | nil => simp [firstBy]
  | cons a rest ih =>
    simp only [firstBy]
    split
    · exact ih seen
    · rw [List.map_cons, List.nodup_cons]
      refine ⟨fun hmem => ?_, ih _⟩
      obtain ⟨b, hb, hkey⟩ := List.mem_map.mp hmem
      exact firstBy_not_seen _ _ b hb (by simp [hkey])

/-- Keys met before act as a filter. -/
theorem firstBy_append_seen (s seen : List κ) (as : List α) :
    firstBy key (s ++ seen) as = firstBy key s (as.filter (key · ∉ seen)) := by
  induction as generalizing s with
  | nil => rfl
  | cons a rest ih =>
    by_cases hseen : key a ∈ seen
    · simp [firstBy, hseen, ih]
    · by_cases hs : key a ∈ s
      · simp [firstBy, hseen, hs, ih]
      · have hrest := ih (key a :: s)
        simp only [List.cons_append] at hrest
        simp [firstBy, hseen, hs, hrest]

theorem firstBy_seen (seen : List κ) (as : List α) :
    firstBy key seen as = firstBy key [] (as.filter (key · ∉ seen)) :=
  firstBy_append_seen [] seen as

theorem firstBy_cons_seen {k : κ} (seen : List κ) {as : List α} (h : ∀ a ∈ as, key a ≠ k) :
    firstBy key (k :: seen) as = firstBy key seen as := by
  rw [firstBy_seen (k :: seen), firstBy_seen seen]
  congr 1
  refine List.filter_congr fun a ha => ?_
  simp [h a ha]

theorem firstBy_eq_self {as : List α} (h : (as.map key).Nodup) : firstBy key [] as = as := by
  induction as with
  | nil => rfl
  | cons a rest ih =>
    obtain ⟨ha, hrest⟩ := List.nodup_cons.mp h
    have hne : ∀ b ∈ rest, key b ≠ key a := fun b hb heq => ha (heq ▸ List.mem_map_of_mem hb)
    simp only [firstBy, List.not_mem_nil, if_false]
    rw [firstBy_cons_seen [] hne, ih hrest]

theorem firstBy_append {as bs : List α} (seen : List κ)
    (h : ∀ a ∈ as, ∀ b ∈ bs, key b ≠ key a) :
    firstBy key seen (as ++ bs) = firstBy key seen as ++ firstBy key seen bs := by
  induction as generalizing seen with
  | nil => rfl
  | cons a rest ih =>
    obtain ⟨ha, hrest⟩ := List.forall_mem_cons.mp h
    simp only [List.cons_append, firstBy]
    split
    · exact ih seen hrest
    · rw [ih _ hrest, firstBy_cons_seen seen ha, List.cons_append]

theorem firstBy_flatMap (f : β → List α) {bs : List β}
    (h : bs.Pairwise fun b c => ∀ a ∈ f b, ∀ a' ∈ f c, key a' ≠ key a) :
    firstBy key [] (bs.flatMap f) = bs.flatMap fun b => firstBy key [] (f b) := by
  induction bs with
  | nil => rfl
  | cons b rest ih =>
    obtain ⟨hb, hrest⟩ := List.pairwise_cons.mp h
    simp only [List.flatMap_cons]
    rw [firstBy_append, ih hrest]
    intro a ha a' ha'
    obtain ⟨c, hc, hmem⟩ := List.mem_flatMap.mp ha'
    exact hb c hc a ha a' hmem

theorem firstBy_concat (seen : List κ) (as : List α) (a : α) :
    firstBy key seen (as ++ [a]) =
      firstBy key seen as ++ if key a ∈ seen ∨ key a ∈ as.map key then [] else [a] := by
  induction as generalizing seen with
  | nil => simp [firstBy]
  | cons b rest ih =>
    by_cases hb : key b ∈ seen
    · have hiff : (key a ∈ seen ∨ key a ∈ (b :: rest).map key) ↔
          (key a ∈ seen ∨ key a ∈ rest.map key) := by
        rw [List.map_cons, List.mem_cons]
        constructor
        · rintro (ha | ha | ha)
          · exact .inl ha
          · exact .inl (ha ▸ hb)
          · exact .inr ha
        · rintro (ha | ha)
          · exact .inl ha
          · exact .inr (.inr ha)
      simp only [List.cons_append, firstBy, hb, if_true, ih, hiff]
    · have hiff : (key a ∈ key b :: seen ∨ key a ∈ rest.map key) ↔
          (key a ∈ seen ∨ key a ∈ (b :: rest).map key) := by
        rw [List.map_cons, List.mem_cons, List.mem_cons, or_assoc, or_left_comm]
      simp only [List.cons_append, firstBy, hb, if_false, ih, hiff]

theorem map_firstBy (seen : List κ) (as : List α) :
    (firstBy key seen as).map key = firstBy id seen (as.map key) := by
  induction as generalizing seen with
  | nil => rfl
  | cons a rest ih => by_cases ha : key a ∈ seen <;> simp [firstBy, ha, ih]

theorem prefix_firstBy_append (seen : List κ) (as bs : List α) :
    firstBy key seen as <+: firstBy key seen (as ++ bs) := by
  induction as generalizing seen with
  | nil => exact List.nil_prefix
  | cons a rest ih =>
    simp only [List.cons_append, firstBy]
    split
    · exact ih seen
    · exact (List.prefix_cons_inj a).mpr (ih _)

theorem forall₂_firstBy {R : α → β → Prop} {key' : β → κ} (hkey : ∀ a b, R a b → key a = key' b)
    (seen : List κ) {as : List α} {bs : List β} (h : List.Forall₂ R as bs) :
    List.Forall₂ R (firstBy key seen as) (firstBy key' seen bs) := by
  induction h generalizing seen with
  | nil => exact .nil
  | cons hab _ ih =>
    simp only [firstBy, hkey _ _ hab]
    split
    · exact ih seen
    · exact .cons hab (ih _)

theorem find?_firstBy (p : κ → Bool) (seen : List κ) (as : List α) (h : ∀ k ∈ seen, p k = false) :
    (firstBy key seen as).find? (fun a => p (key a)) = as.find? fun a => p (key a) := by
  induction as generalizing seen with
  | nil => rfl
  | cons a rest ih =>
    by_cases hseen : key a ∈ seen
    · simp [firstBy, hseen, h (key a) hseen, ih seen h]
    · cases hp : p (key a) with
      | true => simp [firstBy, hseen, hp]
      | false =>
        have hrest := ih (key a :: seen) (List.forall_mem_cons.mpr ⟨hp, h⟩)
        simp [firstBy, hseen, hp, hrest]

theorem filter_firstBy (p : κ → Bool) (seen : List κ) (as : List α) :
    (firstBy key seen as).filter (fun a => p (key a)) =
      firstBy key seen (as.filter fun a => p (key a)) := by
  induction as generalizing seen with
  | nil => rfl
  | cons a rest ih =>
    by_cases hp : p (key a) = true
    · by_cases hseen : key a ∈ seen <;> simp [firstBy, hseen, hp, ih]
    · by_cases hseen : key a ∈ seen
      · simp [firstBy, hseen, hp, ih]
      · have hne : ∀ b ∈ rest.filter (fun b => p (key b)), key b ≠ key a := by
          intro b hb heq
          exact hp (heq ▸ (List.mem_filter.mp hb).2)
        simp [firstBy, hseen, hp, ih, firstBy_cons_seen seen hne]

/-- Keeping the first of each key after a partial map is keeping the first of each element before
it, if the map's values show by their keys what they come from. -/
theorem firstBy_filterMap {ι : Type} [DecidableEq ι] (f : ι → Option α) (k : ι → κ)
    (hk : Function.Injective k) (hf : ∀ n a, f n = some a → key a = k n) (seen : List ι)
    (ns : List ι) :
    firstBy key (seen.map k) (ns.filterMap f) = (firstBy id seen ns).filterMap f := by
  induction ns generalizing seen with
  | nil => rfl
  | cons n rest ih =>
    by_cases hseen : n ∈ seen
    · cases hn : f n with
      | none => simp [firstBy, hseen, hn, ih]
      | some a =>
        have ha : key a ∈ seen.map k := hf n a hn ▸ List.mem_map_of_mem hseen
        simp only [List.filterMap_cons, hn, firstBy, ha, if_true, id, hseen, ih]
    · cases hn : f n with
      | none =>
        have hne : ∀ a ∈ rest.filterMap f, key a ≠ k n := by
          intro a ha heq
          obtain ⟨m, _, hm⟩ := List.mem_filterMap.mp ha
          have hmn := hk ((hf m a hm).symm.trans heq)
          simp [← hmn, hm] at hn
        have hrest := ih (n :: seen)
        rw [List.map_cons, firstBy_cons_seen _ hne] at hrest
        simp [firstBy, hseen, hn, hrest]
      | some a =>
        have ha : key a ∉ seen.map k := by
          rw [hf n a hn]
          simpa [hk.eq_iff] using hseen
        have hrest := ih (n :: seen)
        rw [List.map_cons, ← hf n a hn] at hrest
        simp only [List.filterMap_cons, hn, firstBy, ha, if_false, id, hseen, hrest]

end

theorem firstBy_id {α : Type} [DecidableEq α] (as : List α) : firstBy id [] as = as.eraseDups := by
  induction h : as.length using Nat.strongRecOn generalizing as with
  | ind n ih =>
    cases as with
    | nil => rfl
    | cons a rest =>
      have hlen : (rest.filter fun b => !b == a).length < n := by
        rw [← h]
        exact Nat.lt_succ_of_le (List.length_filter_le _ _)
      have hfilter : rest.filter (id · ∉ [a]) = rest.filter fun b => !b == a := by
        refine List.filter_congr fun b hb => ?_
        simp [beq_eq_decide]
      rw [List.eraseDups_cons, ← ih _ hlen _ rfl, ← hfilter, ← firstBy_seen]
      rfl

theorem nodup_eraseDups {α : Type} [DecidableEq α] (as : List α) : as.eraseDups.Nodup := by
  have h : ((firstBy id [] as).map id).Nodup := firstBy_nodup [] as
  rwa [List.map_id, firstBy_id] at h

theorem eraseDups_concat {α : Type} [DecidableEq α] (as : List α) (a : α) :
    (as ++ [a]).eraseDups = as.eraseDups ++ if a ∈ as then [] else [a] := by
  have h : firstBy id [] (as ++ [a]) =
      firstBy id [] as ++ if id a ∈ [] ∨ id a ∈ as.map id then [] else [a] :=
    firstBy_concat [] as a
  simpa [firstBy_id] using h

theorem filter_eraseDups {α : Type} [DecidableEq α] (p : α → Bool) (as : List α) :
    as.eraseDups.filter p = (as.filter p).eraseDups := by
  have h : (firstBy id [] as).filter (fun a => p (id a)) =
      firstBy id [] (as.filter fun a => p (id a)) := filter_firstBy p [] as
  simpa only [firstBy_id, id] using h

end ClassChart
