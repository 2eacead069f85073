import ClassChart.Proofs.Build.Run

/-! What becomes of a group at its turn. It gets a box, or finds its name taken, or its declarations
cannot be merged. The boxes are those of the groups that were built, one for each, and a name is
taken exactly if an earlier group was built under it. -/
namespace ClassChart.Build
variable {rules : MergeRules} {gs : List Group} {p : Progress}

inductive Fate where
  | built | taken | failed
  deriving DecidableEq

/-- The fate of a group, given the holder of its name when its turn comes. -/
def fate (rules : MergeRules) (turn : Option Outline × Group) : Fate :=
  match turn.1, outline? rules turn.2 with
  | some _, _ => .taken
  | none, some _ => .built
  | none, none => .failed

def fated (rules : MergeRules) (gs : List Group) (f : Fate) : List Group :=
  ((turns rules [] gs).filter (fate rules · = f)).map (·.2)

theorem turns_groups (earlier gs : List Group) : (turns rules earlier gs).map (·.2) = gs := by
  induction gs generalizing earlier with
  | nil => rfl
  | cons g rest ih => rw [turns, List.map_cons, ih]

theorem mem_of_turn {earlier gs : List Group} {turn : Option Outline × Group}
    (h : turn ∈ turns rules earlier gs) : turn.2 ∈ gs := by
  have hmem : turn.2 ∈ (turns rules earlier gs).map (·.2) := List.mem_map_of_mem h
  rwa [turns_groups] at hmem

theorem fated_sublist (gs : List Group) (f : Fate) : (fated rules gs f).Sublist gs := by
  have h : (fated rules gs f).Sublist ((turns rules [] gs).map (·.2)) :=
    List.filter_sublist.map _
  rwa [turns_groups] at h

theorem fated_perm (rules : MergeRules) (gs : List Group) :
    (fated rules gs .built ++ fated rules gs .taken ++ fated rules gs .failed).Perm gs := by
  have hturns : ((turns rules [] gs).filter (fate rules · = .built) ++
      (turns rules [] gs).filter (fate rules · = .taken) ++
      (turns rules [] gs).filter (fate rules · = .failed)).Perm (turns rules [] gs) := by
    refine perm_of_filter_eq (fate rules) fun f => ?_
    have heach : ∀ f' : Fate,
        ((turns rules [] gs).filter (fate rules · = f')).filter (fate rules · = f) =
          if f' = f then (turns rules [] gs).filter (fate rules · = f) else [] := by
      intro f'
      split
      · next heq =>
        subst heq
        simp [List.filter_filter]
      · next hne =>
        refine List.filter_eq_nil_iff.mpr fun t ht => ?_
        have hf' : fate rules t = f' := by simpa using (List.mem_filter.mp ht).2
        simpa [hf'] using hne
    rw [List.filter_append, List.filter_append, heach, heach, heach]
    cases f <;> simp
  have hgroups := hturns.map (·.2)
  rwa [turns_groups, List.map_append, List.map_append] at hgroups

theorem holder?_append (gs hs : List Group) (name : String) :
    holder? rules (gs ++ hs) name = (holder? rules gs name).or (holder? rules hs name) := by
  rw [holder?, List.filterMap_append, List.find?_append]
  rfl

theorem turns_split (earlier gs hs : List Group) (g : Group) :
    turns rules earlier (gs ++ g :: hs) = turns rules earlier gs ++
      (holder? rules (earlier ++ gs) (nameOf g), g) :: turns rules (earlier ++ gs ++ [g]) hs := by
  rw [turns_append]
  rfl

theorem holder?_of_turn {g : Group} {o : Outline} (h : (some o, g) ∈ turns rules [] gs) :
    holder? rules gs (nameOf g) = some o := by
  have hfrom : ∀ earlier gs : List Group, (some o, g) ∈ turns rules earlier gs →
      holder? rules (earlier ++ gs) (nameOf g) = some o := by
    intro earlier gs hmem
    induction gs generalizing earlier with
    | nil => simp [turns] at hmem
    | cons g' rest ih =>
      rw [turns, List.mem_cons] at hmem
      rcases hmem with heq | hrest
      · obtain ⟨hholder, rfl⟩ := Prod.mk.inj heq
        rw [holder?_append, ← hholder, Option.some_or]
      · have hlater := ih _ hrest
        rwa [List.append_assoc] at hlater
  exact hfrom [] gs h

def added (rules : MergeRules) (turn : Option Outline × Group) : List Outline :=
  match turn.1 with
  | some _ => []
  | none => (outline? rules turn.2).toList

theorem mem_added {t : Option Outline × Group} {o : Outline} :
    o ∈ added rules t ↔ fate rules t = .built ∧ outline? rules t.2 = some o := by
  obtain ⟨holder, g⟩ := t
  cases holder with
  | some holder => simp [added, fate]
  | none => cases ho : outline? rules g <;> simp [added, fate, ho, eq_comm]

theorem added_of_built {t : Option Outline × Group} (h : fate rules t = .built) :
    ∃ o, added rules t = [o] ∧ outline? rules t.2 = some o := by
  obtain ⟨holder, g⟩ := t
  cases holder with
  | some holder => simp [fate] at h
  | none =>
    cases ho : outline? rules g with
    | none => simp [fate, ho] at h
    | some o => exact ⟨o, by simp [added, ho], rfl⟩

theorem outlines_turns (gs : List Group) :
    firstBy Outline.name [] (gs.filterMap (outline? rules)) =
      (turns rules [] gs).flatMap (added rules) := by
  induction gs using List.reverseRecOn with
  | nil => rfl
  | append_singleton gs g ih =>
    rw [outlines_concat, ih, turns_split, List.flatMap_append]
    congr 1
    cases ho : outline? rules g with
    | none => cases hholder : holder? rules gs (nameOf g) <;> simp [turns, added, hholder, ho]
    | some o =>
      have hname : o.name = nameOf g := outline?_name ho
      cases hholder : holder? rules gs (nameOf g) <;> simp [turns, added, hholder, ho, hname]

/-- The boxes are those of the groups that were built, in the same order. -/
theorem Reached.boxes_built (h : Reached rules gs p) :
    List.Forall₂ (fun g b => outline? rules g = some b.outline) (fated rules gs .built)
      p.chart.boxes := by
  have houtlines : List.Forall₂ (fun t o => outline? rules t.2 = some o)
      ((turns rules [] gs).filter (fate rules · = .built))
      ((turns rules [] gs).flatMap (added rules)) := by
    refine forall₂_flatMap (fun t _ hbuilt => ?_) (fun t _ hother => ?_)
    · exact added_of_built (of_decide_eq_true hbuilt)
    · refine List.eq_nil_iff_forall_not_mem.mpr fun o ho => ?_
      simp [(mem_added.mp ho).1] at hother
  rw [← outlines_turns, ← h.outlines, List.forall₂_map_right_iff] at houtlines
  exact List.forall₂_map_left_iff.mpr houtlines

theorem mem_fated {g : Group} {f : Fate} : g ∈ fated rules gs f ↔
    ∃ holder, (holder, g) ∈ turns rules [] gs ∧ fate rules (holder, g) = f := by
  simp [fated]

theorem outline?_qualifiedName {ds : List Declaration} {g : Group} (hg : g ∈ groups ds) {o : Outline}
    (h : outline? rules g = some o) : o.qualifiedName = g.1 := by
  obtain ⟨first, rest, hcons⟩ := group_eq_cons hg
  have hmerge := outline?_eq_some.mp h
  rw [hcons] at hmerge
  rw [(merge_head hmerge).2.1]
  exact (mem_of_mem_group hg (hcons ▸ List.mem_cons_self)).2

theorem holder?_isSome_iff (gs : List Group) (name : String) :
    (holder? rules gs name).isSome = true ↔
      ∃ g ∈ fated rules gs .built, nameOf g = name := by
  have hfirst : holder? rules gs name =
      ((turns rules [] gs).flatMap (added rules)).find? (·.name == name) := by
    rw [← outlines_turns, holder?]
    exact (find?_firstBy (· == name) [] _ (by simp)).symm
  rw [hfirst, List.find?_isSome]
  constructor
  · rintro ⟨o, ho, hname⟩
    obtain ⟨t, ht, hadded⟩ := List.mem_flatMap.mp ho
    obtain ⟨hbuilt, houtline⟩ := mem_added.mp hadded
    refine ⟨t.2, mem_fated.mpr ⟨t.1, ht, hbuilt⟩, ?_⟩
    rw [← outline?_name houtline, eq_of_beq hname]
  · rintro ⟨g, hg, hname⟩
    obtain ⟨holder, ht, hbuilt⟩ := mem_fated.mp hg
    obtain ⟨o, hadded, houtline⟩ := added_of_built hbuilt
    refine ⟨o, List.mem_flatMap.mpr ⟨_, ht, hadded ▸ List.mem_singleton_self o⟩, ?_⟩
    rw [outline?_name houtline, hname]
    exact beq_self_eq_true name

theorem fate_taken_iff (rules : MergeRules) (holder : Option Outline) (g : Group) :
    fate rules (holder, g) = .taken ↔ holder.isSome = true := by
  cases holder with
  | some holder => simp [fate]
  | none => cases ho : outline? rules g <;> simp [fate, ho]

theorem fated_concat (gs : List Group) (g : Group) (f : Fate) :
    fated rules (gs ++ [g]) f = fated rules gs f ++
      if fate rules (holder? rules gs (nameOf g), g) = f then [g] else [] := by
  rw [fated, turns_split, List.filter_append, List.map_append]
  by_cases hf : fate rules (holder? rules gs (nameOf g), g) = f <;> simp [fated, turns, hf]

theorem mem_fated_append {gs hs : List Group} {g : Group} {f : Fate} (hg : g ∉ hs) :
    g ∈ fated rules (gs ++ hs) f ↔ g ∈ fated rules gs f := by
  rw [mem_fated, mem_fated]
  refine exists_congr fun holder => and_congr_left fun _ => ?_
  rw [turns_append, List.mem_append, or_iff_left]
  exact fun hlater => hg (mem_of_turn hlater)

/-- A group finds its name taken exactly if an earlier group was built under that name. -/
theorem taken_iff {earlier later : List Group} {g : Group}
    (hdistinct : (earlier ++ g :: later).Nodup) :
    g ∈ fated rules (earlier ++ g :: later) .taken ↔
      ∃ h ∈ earlier, h ∈ fated rules (earlier ++ g :: later) .built ∧ nameOf h = nameOf g := by
  obtain ⟨_, hrest, hapart⟩ := List.nodup_append.mp hdistinct
  have hearlier : g ∉ earlier := fun hg => hapart g hg g List.mem_cons_self rfl
  have hturn : g ∈ fated rules (earlier ++ g :: later) .taken ↔
      (holder? rules earlier (nameOf g)).isSome = true := by
    have hnot : g ∉ fated rules earlier .taken := fun hg =>
      hearlier ((fated_sublist earlier .taken).mem hg)
    rw [List.append_cons, mem_fated_append (List.nodup_cons.mp hrest).1, fated_concat,
      List.mem_append, or_iff_right hnot, ← fate_taken_iff rules _ g]
    simp
  have hbuilt : ∀ h ∈ earlier, h ∈ fated rules (earlier ++ g :: later) .built ↔
      h ∈ fated rules earlier .built :=
    fun h hh => mem_fated_append fun hlater => hapart h hh h hlater rfl
  rw [hturn, holder?_isSome_iff]
  constructor
  · rintro ⟨h, hh, hname⟩
    have hmem : h ∈ earlier := (fated_sublist earlier .built).mem hh
    exact ⟨h, hmem, (hbuilt h hmem).mpr hh, hname⟩
  · rintro ⟨h, hmem, hh, hname⟩
    exact ⟨h, (hbuilt h hmem).mp hh, hname⟩

end ClassChart.Build
