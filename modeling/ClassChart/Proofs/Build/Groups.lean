import ClassChart.Build.Groups
import ClassChart.Proofs.Declaration.Index
import ClassChart.Proofs.List.ByKey
import ClassChart.Proofs.List.FirstSeen

/-! A group is never empty, every declaration is in one group, and it is kept there or dropped. Where
names have no dot all declarations of a group have one simple name, so to choose declarations by
simple name is to choose groups. -/
namespace ClassChart.Build
variable {ds : List Declaration} {g : Group}

/-- The simple name of the first declaration of a group. -/
def nameOf (g : Group) : String :=
  match g.2 with
  | [] => ""
  | first :: _ => first.name

theorem addToGroups_of_mem {names : List String} {d : Declaration} (h : d.qualifiedName ∈ names)
    (ds : List Declaration) :
    addToGroups (names.map fun q => (q, ds.filter (·.qualifiedName == q))) d =
      names.map fun q => (q, (ds ++ [d]).filter (·.qualifiedName == q)) := by
  have hany : (names.map fun q => (q, ds.filter (·.qualifiedName == q))).any
      (·.1 == d.qualifiedName) = true :=
    List.any_eq_true.mpr ⟨_, List.mem_map_of_mem h, beq_self_eq_true _⟩
  rw [addToGroups, if_pos hany, List.map_map]
  refine List.map_congr_left fun q _ => ?_
  by_cases hq : q = d.qualifiedName
  · simp [hq]
  · simp [hq, Ne.symm hq]

theorem addToGroups_of_not_mem {names : List String} {d : Declaration} {ds : List Declaration}
    (h : d.qualifiedName ∉ names) (hnone : d.qualifiedName ∉ ds.map (·.qualifiedName)) :
    addToGroups (names.map fun q => (q, ds.filter (·.qualifiedName == q))) d =
      (names ++ [d.qualifiedName]).map fun q => (q, (ds ++ [d]).filter (·.qualifiedName == q)) := by
  have hany : ¬(names.map fun q => (q, ds.filter (·.qualifiedName == q))).any
      (·.1 == d.qualifiedName) = true := by
    simpa using h
  have hown : ds.filter (·.qualifiedName == d.qualifiedName) = [] := by
    simpa using hnone
  rw [addToGroups, if_neg hany, List.map_append, List.map_singleton, List.filter_append, hown]
  congr 1
  · refine List.map_congr_left fun q hq => ?_
    have hne : d.qualifiedName ≠ q := fun heq => h (heq ▸ hq)
    simp [hne]
  · simp

theorem groups_concat (ds : List Declaration) (d : Declaration) :
    groups (ds ++ [d]) = addToGroups (groups ds) d := by
  rw [groups, List.foldl_append, List.foldl_cons, List.foldl_nil, groups]

/-- The groups read off the list: of each qualified name all its declarations, in their order. -/
theorem groups_eq (ds : List Declaration) :
    groups ds =
      (ds.map (·.qualifiedName)).eraseDups.map fun q => (q, ds.filter (·.qualifiedName == q)) := by
  induction ds using List.reverseRecOn with
  | nil => rfl
  | append_singleton earlier d ih =>
    rw [groups_concat, ih, List.map_append, List.map_singleton, eraseDups_concat]
    by_cases hseen : d.qualifiedName ∈ earlier.map (·.qualifiedName)
    · rw [if_pos hseen, List.append_nil]
      exact addToGroups_of_mem (List.mem_eraseDups.mpr hseen) earlier
    · rw [if_neg hseen]
      exact addToGroups_of_not_mem (fun h => hseen (List.mem_eraseDups.mp h)) hseen

theorem mem_groups : g ∈ groups ds ↔
    g.1 ∈ ds.map (·.qualifiedName) ∧ g.2 = ds.filter (·.qualifiedName == g.1) := by
  simp only [groups_eq, List.mem_map, List.mem_eraseDups]
  constructor
  · rintro ⟨q, hq, rfl⟩
    exact ⟨hq, rfl⟩
  · rintro ⟨hq, hds⟩
    exact ⟨g.1, hq, by rw [← hds]⟩

theorem mem_of_mem_group (hg : g ∈ groups ds) {d : Declaration} (hd : d ∈ g.2) :
    d ∈ ds ∧ d.qualifiedName = g.1 := by
  rw [(mem_groups.mp hg).2, List.mem_filter] at hd
  exact ⟨hd.1, eq_of_beq hd.2⟩

theorem group_ne_nil (hg : g ∈ groups ds) : g.2 ≠ [] := by
  obtain ⟨hq, hds⟩ := mem_groups.mp hg
  obtain ⟨d, hd, hname⟩ := List.mem_map.mp hq
  have hmem : d ∈ g.2 := by
    rw [hds, List.mem_filter]
    exact ⟨hd, beq_iff_eq.mpr hname⟩
  exact List.ne_nil_of_mem hmem

theorem group_eq_cons (hg : g ∈ groups ds) : ∃ first rest, g.2 = first :: rest :=
  List.exists_cons_of_ne_nil (group_ne_nil hg)

theorem groups_names (ds : List Declaration) :
    (groups ds).map (·.1) = (ds.map (·.qualifiedName)).eraseDups := by
  rw [groups_eq, List.map_map]
  exact List.map_id _

theorem groups_nodup (ds : List Declaration) : ((groups ds).map (·.1)).Nodup :=
  groups_names ds ▸ nodup_eraseDups _

theorem flatMap_filter_groups (ds : List Declaration) (q : String) :
    ((groups ds).filter fun g => decide (g.1 = q)).flatMap (·.2) =
      ds.filter (·.qualifiedName = q) := by
  have hnames : (groups ds).filter (fun g => decide (g.1 = q)) =
      (((groups ds).map (·.1)).filter fun r => decide (r = q)).map
        fun r => (r, ds.filter (·.qualifiedName == r)) := by
    rw [groups_names, groups_eq, List.filter_map]
    rfl
  rw [hnames, List.filter_eq, List.Nodup.count (groups_nodup ds)]
  split
  · simp [beq_eq_decide]
  · next hnot =>
    have hnone : ∀ d ∈ ds, ¬d.qualifiedName = q := by
      intro d hd hq
      rw [groups_names, List.mem_eraseDups] at hnot
      exact hnot (hq ▸ List.mem_map_of_mem hd)
    rw [List.filter_eq_nil_iff.mpr fun d hd => by simp [hnone d hd]]
    rfl

theorem groups_perm (ds : List Declaration) : ((groups ds).flatMap (·.2)).Perm ds := by
  refine perm_of_filter_eq (·.qualifiedName) fun q => ?_
  have hgroup : ∀ g ∈ groups ds, ∀ d ∈ g.2, decide (d.qualifiedName = q) = decide (g.1 = q) :=
    fun g hg d hd => by rw [(mem_of_mem_group hg hd).2]
  rw [filter_flatMap_eq (q := fun g => decide (g.1 = q)) hgroup, flatMap_filter_groups]

theorem kept_append_dropped (ds : List Declaration) : (kept ds ++ dropped ds).Perm ds := by
  cases ds with
  | nil => exact .nil
  | cons first rest =>
    exact (List.filter_append_perm (joins first) rest).cons first

theorem mem_of_mem_kept {ds : List Declaration} {d : Declaration} (h : d ∈ kept ds) : d ∈ ds :=
  (kept_append_dropped ds).mem_iff.mp (List.mem_append_left _ h)

theorem nameOf_eq (hdot : Dotless ds) (hg : g ∈ groups ds) : nameOf g = simpleName g.1 := by
  obtain ⟨first, rest, hcons⟩ := group_eq_cons hg
  obtain ⟨hmem, hq⟩ := mem_of_mem_group hg (hcons ▸ List.mem_cons_self)
  rw [nameOf, hcons, ← hq, simpleName_qualifiedName (hdot first hmem)]

/- A choice by simple name that takes one declaration of a group takes the whole group. -/
theorem filter_group (hdot : Dotless ds) {p : String → Bool} {c : Declaration} (hc : c ∈ ds)
    (hpc : p c.name = true) :
    (ds.filter fun d => p d.name).filter (·.qualifiedName == c.qualifiedName) =
      ds.filter (·.qualifiedName == c.qualifiedName) := by
  rw [List.filter_filter]
  refine List.filter_congr fun d hd => ?_
  cases hsame : d.qualifiedName == c.qualifiedName with
  | false => rfl
  | true =>
    have hname : d.name = c.name := by
      rw [← simpleName_qualifiedName (hdot d hd), eq_of_beq hsame,
        simpleName_qualifiedName (hdot c hc)]
    simp [hname, hpc]

/-- The groups with some simple names are the groups of the declarations with these names. -/
theorem groups_filter (hdot : Dotless ds) (p : String → Bool) :
    (groups ds).filter (fun g => p (nameOf g)) = groups (ds.filter fun d => p d.name) := by
  have hkeys : (ds.map (·.qualifiedName)).eraseDups.filter (fun q => p (simpleName q)) =
      ((ds.filter fun d => p d.name).map (·.qualifiedName)).eraseDups := by
    have hds : ds.filter (fun d => p (simpleName d.qualifiedName)) = ds.filter fun d => p d.name :=
      List.filter_congr fun d hd => by rw [simpleName_qualifiedName (hdot d hd)]
    rw [filter_eraseDups, List.filter_map, ← hds]
    rfl
  have hnames : (groups ds).filter (fun g => p (nameOf g)) =
      (groups ds).filter fun g => p (simpleName g.1) :=
    List.filter_congr fun g hg => by rw [nameOf_eq hdot hg]
  calc (groups ds).filter (fun g => p (nameOf g))
      = ((ds.map (·.qualifiedName)).eraseDups.filter fun q => p (simpleName q)).map
          fun q => (q, ds.filter (·.qualifiedName == q)) := by
        rw [hnames, groups_eq, List.filter_map]
        rfl
    _ = groups (ds.filter fun d => p d.name) := by
        rw [hkeys, groups_eq]
        refine List.map_congr_left fun q hq => ?_
        obtain ⟨c, hc, rfl⟩ := List.mem_map.mp (List.mem_eraseDups.mp hq)
        obtain ⟨hcds, hpc⟩ := List.mem_filter.mp hc
        rw [filter_group hdot hcds hpc]

end ClassChart.Build
