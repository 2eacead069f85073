import ClassChart.Proofs.Files.SourceName
import ClassChart.Proofs.List.ByKey
import Mathlib

/-! Which files are collected from a directory, and in what order. Both are told by the tree alone: the
paths are exactly those of the source files that stand outside of skipped directories and that no pattern
meets, and each comes before the next in an order of paths. So the order in which a directory lists its
entries leaves no trace. -/
namespace ClassChart.Files

theorem Entry.induction {motive : Entry → Prop} (hleaf : ∀ e, e.isDir = false → motive e)
    (hdir : ∀ name entries, (∀ e ∈ entries, motive e) → motive (.dir name entries)) (e : Entry) :
    motive e := by
  match e with
  | .file .. => exact hleaf _ rfl
  | .locked _ => exact hleaf _ rfl
  | .dir name entries => exact hdir name entries fun e he => Entry.induction hleaf hdir e
termination_by sizeOf e
decreasing_by
  have hlt : sizeOf e < sizeOf entries := List.sizeOf_lt_of_mem he
  simp only [Entry.dir.sizeOf_spec]
  omega

/-- Entries as a file system has them: within a directory the names are distinct, and none holds a
slash. -/
inductive Entry.Proper : Entry → Prop
  | leaf {e : Entry} (hleaf : e.isDir = false) : Proper e
  | dir {name : String} {entries : List Entry} (hdistinct : (entries.map (·.name)).Nodup)
      (hslash : ∀ e ∈ entries, '/' ∉ e.name.toList) (hinner : ∀ e ∈ entries, e.Proper) :
      Proper (.dir name entries)

def Entry.inner : Entry → List Entry
  | .dir _ entries => entries
  | _ => []

/-- The file of that name stands in a directory, or further down where the given directories lead. -/
inductive Entry.Holds : Entry → List String → String → Prop
  | here {e f : Entry} (hf : f ∈ e.inner) (hfile : f.isDir = false) : Holds e [] f.name
  | deeper {e d : Entry} {dirs : List String} {file : String} (hd : d ∈ e.inner)
      (hin : d.Holds dirs file) : Holds e (d.name :: dirs) file

/-- The order of paths. In a directory its files come first, in the order of their names, and then what
stands in its directories, in the order of theirs. -/
inductive Precedes : List String → List String → Prop
  | files {f g : String} (h : f < g) : Precedes [f] [g]
  | filesFirst {f d : String} {path : List String} (h : path ≠ []) : Precedes [f] (d :: path)
  | dirs {d e : String} {path path' : List String} (hpath : path ≠ []) (hpath' : path' ≠ [])
      (h : d < e) : Precedes (d :: path) (e :: path')
  | within {d : String} {path path' : List String} (h : Precedes path path') :
      Precedes (d :: path) (d :: path')

/-- The same tree, with the entries of each directory listed in any order. -/
inductive Relisted : Entry → Entry → Prop
  | leaf {e : Entry} (hleaf : e.isDir = false) : Relisted e e
  | dir {name : String} {entries inner entries' : List Entry}
      (hinner : List.Forall₂ Relisted entries inner) (hperm : inner.Perm entries') :
      Relisted (.dir name entries) (.dir name entries')

section
variable {a b : List String}

theorem Precedes.ne_nil (h : Precedes a b) : a ≠ [] ∧ b ≠ [] := by
  cases h <;> exact ⟨List.cons_ne_nil _ _, List.cons_ne_nil _ _⟩

theorem Precedes.asymm (h : Precedes a b) : ¬ Precedes b a := by
  induction h with
  | files h =>
    intro h'
    cases h' with
    | files h' => exact String.lt_asymm h h'
    | filesFirst h' => exact h' rfl
    | dirs h' => exact h' rfl
    | within h' => exact h'.ne_nil.1 rfl
  | filesFirst h =>
    intro h'
    cases h' with
    | files => exact h rfl
    | filesFirst => exact h rfl
    | dirs _ h' => exact h' rfl
    | within h' => exact h'.ne_nil.2 rfl
  | dirs hpath hpath' h =>
    intro h'
    cases h' with
    | files => exact hpath rfl
    | filesFirst => exact hpath' rfl
    | dirs _ _ h' => exact String.lt_asymm h h'
    | within => exact String.lt_irrefl _ h
  | within h ih =>
    intro h'
    cases h' with
    | files => exact h.ne_nil.1 rfl
    | filesFirst => exact h.ne_nil.2 rfl
    | dirs _ _ h' => exact String.lt_irrefl _ h'
    | within h' => exact ih h'

instance : Std.Irrefl Precedes := ⟨fun _ h => h.asymm h⟩

instance : Std.Antisymm Precedes := ⟨fun _ _ h h' => absurd h' h.asymm⟩

end

/-! What the walk answers for a directory. -/

theorem sourcesOfDirs_eq (entries : List Entry) :
    sourcesOfDirs entries =
      (entries.filter fun e => e.isDir && !isSkipped e.name).map fun d => (d.name, d.sources) := by
  induction entries with
  | nil => rfl
  | cons e rest ih =>
    cases e with
    | file name content => rw [sourcesOfDirs, ih]; rfl
    | locked name => rw [sourcesOfDirs, ih]; rfl
    | dir name inner =>
      rw [sourcesOfDirs, ih]
      by_cases hskip : isSkipped name = true
      · simp [hskip, Entry.name]
      · simp [hskip, Entry.name, Entry.isDir]

theorem mem_fileNames {entries : List Entry} {name : String} :
    name ∈ fileNames entries ↔ ∃ f ∈ entries, f.isDir = false ∧ f.name = name := by
  simp [fileNames, and_assoc]

section
variable {name : String} {entries : List Entry} {path : List String}

theorem mem_sources_dir : path ∈ (Entry.dir name entries).sources ↔
    (∃ f ∈ entries, f.isDir = false ∧ isSource f.name = true ∧ path = [f.name]) ∨
    ∃ d ∈ entries, d.isDir = true ∧ isSkipped d.name = false ∧
      ∃ inner ∈ d.sources, path = d.name :: inner := by
  rw [Entry.sources, List.mem_append]
  refine or_congr ?_ ?_
  · simp only [sortedNames, List.mem_map, List.mem_mergeSort, List.mem_filter, mem_fileNames]
    constructor
    · rintro ⟨_, ⟨⟨f, hf, hfile, rfl⟩, hsource⟩, rfl⟩
      exact ⟨f, hf, hfile, hsource, rfl⟩
    · rintro ⟨f, hf, hfile, hsource, rfl⟩
      exact ⟨_, ⟨⟨f, hf, hfile, rfl⟩, hsource⟩, rfl⟩
  · simp only [sortedByName, sourcesOfDirs_eq, List.mem_flatMap, List.mem_mergeSort, List.mem_map,
      List.mem_filter, Bool.and_eq_true, Bool.not_eq_true']
    constructor
    · rintro ⟨_, ⟨d, ⟨hd, hdir, hskip⟩, rfl⟩, inner, hinner, rfl⟩
      exact ⟨d, hd, hdir, hskip, inner, hinner, rfl⟩
    · rintro ⟨d, hd, hdir, hskip, inner, hinner, rfl⟩
      exact ⟨_, ⟨d, ⟨hd, hdir, hskip⟩, rfl⟩, inner, hinner, rfl⟩

end

theorem Entry.inner_of_leaf {e : Entry} (h : e.isDir = false) : e.inner = [] := by
  cases e with
  | dir => exact absurd h.symm Bool.false_ne_true
  | file | locked => rfl

theorem Entry.not_mem_inner {e c : Entry} (h : e.isDir = false) : c ∉ e.inner := by
  rw [Entry.inner_of_leaf h]
  exact List.not_mem_nil

theorem sources_of_leaf {e : Entry} (h : e.isDir = false) : e.sources = [] := by
  cases e with
  | dir => exact absurd h.symm Bool.false_ne_true
  | file | locked => rfl

theorem Entry.Holds.isDir {e : Entry} {dirs : List String} {file : String} (h : e.Holds dirs file) :
    e.isDir = true := by
  have hinner : e.inner ≠ [] := by
    cases h with
    | here hf => exact List.ne_nil_of_mem hf
    | deeper hd => exact List.ne_nil_of_mem hd
  by_contra hleaf
  exact hinner (Entry.inner_of_leaf (Bool.not_eq_true _ ▸ hleaf))

theorem mem_sources {root : Entry} {path : List String} : path ∈ root.sources ↔
    ∃ dirs file, path = dirs ++ [file] ∧ root.Holds dirs file ∧ isSource file = true ∧
      ∀ d ∈ dirs, isSkipped d = false := by
  induction root using Entry.induction generalizing path with
  | hleaf e hleaf =>
    rw [sources_of_leaf hleaf]
    refine iff_of_false List.not_mem_nil ?_
    rintro ⟨dirs, file, -, hholds, -⟩
    exact absurd (hleaf.symm.trans hholds.isDir) Bool.false_ne_true
  | hdir name entries ih =>
    rw [mem_sources_dir]
    constructor
    · rintro (⟨f, hf, hfile, hsource, rfl⟩ | ⟨d, hd, -, hskip, inner, hinner, rfl⟩)
      · exact ⟨[], f.name, rfl, .here hf hfile, hsource, by simp⟩
      · obtain ⟨dirs, file, rfl, hholds, hsource, hdirs⟩ := (ih d hd).mp hinner
        exact ⟨d.name :: dirs, file, rfl, .deeper hd hholds, hsource,
          List.forall_mem_cons.mpr ⟨hskip, hdirs⟩⟩
    · rintro ⟨dirs, file, rfl, hholds, hsource, hdirs⟩
      cases hholds with
      | here hf hfile => exact .inl ⟨_, hf, hfile, hsource, rfl⟩
      | @deeper _ d dirs _ hd hin =>
        obtain ⟨hskip, hdirs⟩ := List.forall_mem_cons.mp hdirs
        exact .inr ⟨d, hd, hin.isDir, hskip, dirs ++ [file],
          (ih d hd).mpr ⟨dirs, file, rfl, hin, hsource, hdirs⟩, rfl⟩

theorem pairwise_sorted {α : Type} (key : α → String) {le : α → α → Bool} {as : List α}
    (hle : ∀ a b, le a b = true ↔ ¬ key b < key a) (h : (as.map key).Nodup) :
    (as.mergeSort le).Pairwise fun a b => key a < key b := by
  have hsorted : (as.mergeSort le).Pairwise fun a b => le a b = true := by
    refine List.pairwise_mergeSort ?_ ?_ as
    · intro a b c hab hbc
      rw [hle, String.not_lt] at hab hbc ⊢
      exact String.le_trans hab hbc
    · intro a b
      rw [Bool.or_eq_true, hle, hle, String.not_lt, String.not_lt]
      exact String.le_total (key a) (key b)
  have hdistinct : (as.mergeSort le).Pairwise fun a b => key a ≠ key b := by
    rw [← List.pairwise_map]
    exact ((List.mergeSort_perm as le).map key).nodup_iff.mpr h
  refine (hsorted.and hdistinct).imp ?_
  rintro a b ⟨hab, hne⟩
  rw [hle, String.not_lt] at hab
  by_contra hnot
  exact hne (String.le_antisymm hab (String.not_lt.mp hnot))

theorem sortedNames_pairwise {names : List String} (h : names.Nodup) :
    (sortedNames names).Pairwise fun a b => a < b :=
  pairwise_sorted id (fun _ _ => by simp) (by simpa using h)

theorem sortedByName_pairwise {found : List (String × List (List String))}
    (h : (found.map (·.1)).Nodup) : (sortedByName found).Pairwise fun a b => a.1 < b.1 :=
  pairwise_sorted Prod.fst (fun _ _ => by simp) h

theorem sources_ne_nil {root : Entry} {path : List String} (h : path ∈ root.sources) : path ≠ [] := by
  obtain ⟨dirs, file, rfl, -⟩ := mem_sources.mp h
  simp

theorem sources_pairwise {root : Entry} (h : root.Proper) : root.sources.Pairwise Precedes := by
  induction h with
  | leaf hleaf =>
    rw [sources_of_leaf hleaf]
    exact .nil
  | @dir name entries hdistinct _ _ ih =>
    have hfiles : ((fileNames entries).filter isSource).Nodup :=
      .filter _ (hdistinct.sublist (List.filter_sublist.map _))
    have hdirs : ((sourcesOfDirs entries).map (·.1)).Nodup := by
      rw [sourcesOfDirs_eq, List.map_map]
      exact hdistinct.sublist (List.filter_sublist.map _)
    have hinner : ∀ found ∈ sortedByName (sourcesOfDirs entries), ∃ d ∈ entries,
        found.2 = d.sources := by
      intro found hfound
      rw [sortedByName, List.mem_mergeSort, sourcesOfDirs_eq, List.mem_map] at hfound
      obtain ⟨d, hd, rfl⟩ := hfound
      exact ⟨d, List.mem_of_mem_filter hd, rfl⟩
    -- What stands below a directory has a name of its own, so it comes after all files beside it.
    have hnonempty : ∀ found ∈ sortedByName (sourcesOfDirs entries), ∀ path ∈ found.2,
        path ≠ [] := by
      intro found hfound path hpath
      obtain ⟨d, -, hd⟩ := hinner found hfound
      exact sources_ne_nil (hd ▸ hpath)
    rw [Entry.sources, List.pairwise_append, List.pairwise_map, List.pairwise_flatMap]
    refine ⟨?_, ⟨?_, ?_⟩, ?_⟩
    · exact (sortedNames_pairwise hfiles).imp .files
    · intro found hfound
      obtain ⟨d, hd, hsources⟩ := hinner found hfound
      rw [List.pairwise_map, hsources]
      exact (ih d hd).imp .within
    · refine (sortedByName_pairwise hdirs).imp_of_mem ?_
      intro found found' hfound hfound' hlt path hpath path' hpath'
      obtain ⟨inner, hin, rfl⟩ := List.mem_map.mp hpath
      obtain ⟨inner', hin', rfl⟩ := List.mem_map.mp hpath'
      exact .dirs (hnonempty found hfound inner hin) (hnonempty found' hfound' inner' hin') hlt
    · intro path hpath path' hpath'
      obtain ⟨file, -, rfl⟩ := List.mem_map.mp hpath
      obtain ⟨found, hfound, hunder⟩ := List.mem_flatMap.mp hpath'
      obtain ⟨inner, hin, rfl⟩ := List.mem_map.mp hunder
      exact .filesFirst (hnonempty found hfound inner hin)

/-! The same tree, listed in another order. -/

section
variable {e e' : Entry}

theorem Relisted.name_eq (h : Relisted e e') : e.name = e'.name := by
  cases h <;> rfl

theorem Relisted.isDir_eq (h : Relisted e e') : e.isDir = e'.isDir := by
  cases h <;> rfl

theorem Relisted.exists_inner (h : Relisted e e') {c : Entry} (hc : c ∈ e.inner) :
    ∃ c' ∈ e'.inner, Relisted c c' := by
  cases h with
  | leaf hleaf => exact absurd hc (Entry.not_mem_inner hleaf)
  | dir hinner hperm =>
    obtain ⟨c', hc', hsame⟩ := exists_of_forall₂ hinner hc
    exact ⟨c', hperm.mem_iff.mp hc', hsame⟩

theorem Relisted.exists_inner_of_listed (h : Relisted e e') {c' : Entry} (hc : c' ∈ e'.inner) :
    ∃ c ∈ e.inner, Relisted c c' := by
  cases h with
  | leaf hleaf => exact absurd hc (Entry.not_mem_inner hleaf)
  | dir hinner hperm => exact exists_of_forall₂ hinner.flip (hperm.mem_iff.mpr hc)

/-- Files stand at the same places in trees whose entries have each a counterpart. -/
theorem Entry.Holds.transport {R : Entry → Entry → Prop}
    (hname : ∀ e e', R e e' → e.name = e'.name) (hdir : ∀ e e', R e e' → e.isDir = e'.isDir)
    (hinner : ∀ e e', R e e' → ∀ c ∈ e.inner, ∃ c' ∈ e'.inner, R c c') {dirs : List String}
    {file : String} (h : e.Holds dirs file) (hR : R e e') : e'.Holds dirs file := by
  induction h generalizing e' with
  | here hf hfile =>
    obtain ⟨f', hf', hsame⟩ := hinner _ _ hR _ hf
    rw [hname _ _ hsame]
    exact .here hf' (by rw [← hdir _ _ hsame, hfile])
  | deeper hd _ ih =>
    obtain ⟨d', hd', hsame⟩ := hinner _ _ hR _ hd
    rw [hname _ _ hsame]
    exact .deeper hd' (ih hsame)

theorem Relisted.holds_iff (h : Relisted e e') {dirs : List String} {file : String} :
    e'.Holds dirs file ↔ e.Holds dirs file := by
  constructor
  · intro hholds
    exact hholds.transport (R := fun e' e => Relisted e e') (fun _ _ h => h.name_eq.symm)
      (fun _ _ h => h.isDir_eq.symm) (fun _ _ h _ hc => h.exists_inner_of_listed hc) h
  · intro hholds
    exact hholds.transport (fun _ _ h => h.name_eq) (fun _ _ h => h.isDir_eq)
      (fun _ _ h _ hc => h.exists_inner hc) h

theorem Relisted.proper (h : Relisted e e') (hproper : e.Proper) : e'.Proper := by
  induction hproper generalizing e' with
  | leaf hleaf => exact .leaf (h.isDir_eq ▸ hleaf)
  | @dir name entries hdistinct hslash _ ih =>
    have hback : ∀ c' ∈ e'.inner, ∃ c ∈ entries, Relisted c c' :=
      fun _ hc => h.exists_inner_of_listed hc
    cases h with
    | leaf hleaf => exact absurd hleaf.symm Bool.false_ne_true
    | @dir _ _ inner entries' hinner hperm =>
      have hnames : entries.map (·.name) = inner.map (·.name) :=
        forall₂_map_eq_iff.mp (hinner.imp fun _ _ h => h.name_eq)
      refine .dir ((hperm.map _).nodup_iff.mp (hnames ▸ hdistinct)) ?_ ?_
      · intro c' hc'
        obtain ⟨c, hc, hsame⟩ := hback c' hc'
        exact hsame.name_eq ▸ hslash c hc
      · intro c' hc'
        obtain ⟨c, hc, hsame⟩ := hback c' hc'
        exact ih c hc hsame

end

theorem isSkipped_eq_false_iff {name : String} :
    isSkipped name = false ↔ name ∉ skippedNames ∧ name.toList.head? ≠ some '.' := by
  simp [isSkipped]

theorem Entry.Proper.of_inner {e c : Entry} (h : e.Proper) (hc : c ∈ e.inner) :
    '/' ∉ c.name.toList ∧ c.Proper := by
  cases h with
  | leaf hleaf => exact absurd hc (Entry.not_mem_inner hleaf)
  | dir _ hslash hinner => exact ⟨hslash c hc, hinner c hc⟩

theorem Entry.Holds.no_slash {root : Entry} {dirs : List String} {file : String}
    (hproper : root.Proper) (h : root.Holds dirs file) :
    ∀ name ∈ dirs ++ [file], '/' ∉ name.toList := by
  induction h with
  | here hf _ => simpa using (hproper.of_inner hf).1
  | deeper hd _ ih =>
    obtain ⟨hslash, hinner⟩ := hproper.of_inner hd
    exact List.forall_mem_cons.mpr ⟨hslash, ih hinner⟩

theorem mem_collect {root : Entry} {exclude path : List String} (hproper : root.Proper) :
    path ∈ collect root exclude ↔ ∃ dirs file, path = dirs ++ [file] ∧ root.Holds dirs file ∧
      IsSourceName file ∧ (∀ d ∈ dirs, d ∉ skippedNames ∧ d.toList.head? ≠ some '.') ∧
      ∀ pattern ∈ exclude, ¬ Meets pattern path := by
  have hkept {dirs : List String} {file : String} (hholds : root.Holds dirs file) :
      (!isExcluded ("/".intercalate (dirs ++ [file])) exclude) = true ↔
        ∀ pattern ∈ exclude, ¬ Meets pattern (dirs ++ [file]) := by
    rw [Bool.not_eq_true', ← Bool.not_eq_true, isExcluded_iff (by simp) (hholds.no_slash hproper)]
    simp only [not_exists, not_and]
  rw [collect, List.mem_filter, mem_sources]
  simp only [isSkipped_eq_false_iff]
  constructor
  · rintro ⟨⟨dirs, file, rfl, hholds, hsource, hdirs⟩, hfits⟩
    have hslash := hholds.no_slash hproper file (by simp)
    exact ⟨dirs, file, rfl, hholds, (isSource_iff hslash).mp hsource, hdirs,
      (hkept hholds).mp hfits⟩
  · rintro ⟨dirs, file, rfl, hholds, hsource, hdirs, hfits⟩
    have hslash := hholds.no_slash hproper file (by simp)
    exact ⟨⟨dirs, file, rfl, hholds, (isSource_iff hslash).mpr hsource, hdirs⟩,
      (hkept hholds).mpr hfits⟩

theorem collect_pairwise {root : Entry} {exclude : List String} (hproper : root.Proper) :
    (collect root exclude).Pairwise Precedes :=
  (sources_pairwise hproper).filter _

/-- Collected are, each once and in the order of paths, exactly the source files that stand outside of
skipped directories and that no pattern meets, however the directories list their entries. -/
theorem collect_exact (root : Entry) (exclude : List String) (hproper : root.Proper) :
    (collect root exclude).Nodup ∧
    (∀ path, path ∈ collect root exclude ↔
      ∃ dirs file, path = dirs ++ [file] ∧ root.Holds dirs file ∧ IsSourceName file ∧
        (∀ d ∈ dirs, d ∉ skippedNames ∧ d.toList.head? ≠ some '.') ∧
        ∀ pattern ∈ exclude, ¬ Meets pattern path) ∧
    (collect root exclude).Pairwise Precedes ∧
    ∀ root', Relisted root root' → collect root' exclude = collect root exclude := by
  refine ⟨(collect_pairwise hproper).nodup, fun _ => mem_collect hproper, collect_pairwise hproper, ?_⟩
  intro root' hsame
  refine (collect_pairwise (hsame.proper hproper)).eq_of_mem_iff (collect_pairwise hproper) ?_
  intro path
  rw [mem_collect hproper, mem_collect (hsame.proper hproper)]
  simp only [hsame.holds_iff]

def mixedTree : Entry := .dir "" [
  .dir "a" [.file "B.cs" [], .locked "A.cs"], .dir ".x" [.file "T.cs" []], .file "b.CS" []]

def mixedTreeRelisted : Entry := .dir "" [
  .dir ".x" [.file "T.cs" []], .file "b.CS" [], .dir "a" [.locked "A.cs", .file "B.cs" []]]

theorem mixedTree_proper : mixedTree.Proper := by
  have hshown : (Entry.dir "a" [.file "B.cs" [], .locked "A.cs"]).Proper :=
    .dir (by decide) (by decide) (by simpa using ⟨.leaf rfl, .leaf rfl⟩)
  have hhidden : (Entry.dir ".x" [.file "T.cs" []]).Proper :=
    .dir (by decide) (by decide) (by simpa using .leaf rfl)
  exact .dir (by decide) (by decide) (by simpa using ⟨hshown, hhidden, .leaf rfl⟩)

theorem mixedTree_relisted : Relisted mixedTree mixedTreeRelisted := by
  have hshown : Relisted (.dir "a" [.file "B.cs" [], .locked "A.cs"])
      (.dir "a" [.locked "A.cs", .file "B.cs" []]) :=
    .dir (.cons (.leaf rfl) (.cons (.leaf rfl) .nil)) (.swap _ _ _)
  have hhidden : Relisted (.dir ".x" [.file "T.cs" []]) (.dir ".x" [.file "T.cs" []]) :=
    .dir (.cons (.leaf rfl) .nil) (.refl _)
  exact .dir (.cons hshown (.cons hhidden (.cons (.leaf rfl) .nil)))
    ((List.Perm.swap _ _ _).trans (.cons _ (.swap _ _ _)))

theorem collect_exact_of_mixed : mixedTree.Proper ∧ Relisted mixedTree mixedTreeRelisted ∧
    collect mixedTreeRelisted ["B*"] = [["b.CS"], ["a", "A.cs"]] := by
  obtain ⟨-, -, -, hsame⟩ := collect_exact mixedTree ["B*"] mixedTree_proper
  have hcollected : collect mixedTree ["B*"] = [["b.CS"], ["a", "A.cs"]] := by cbv
  exact ⟨mixedTree_proper, mixedTree_relisted, (hsame _ mixedTree_relisted).trans hcollected⟩

def backslashTree : Entry := .dir "" [.file "a\\b.cs" []]

/-- A file is left out by a pattern that fits neither its path nor its name, only what follows a
backslash in it. -/
theorem collect_cuts_at_backslash : backslashTree.Proper ∧ backslashTree.Holds [] "a\\b.cs" ∧
    IsSourceName "a\\b.cs" ∧ fits "b.cs" "a\\b.cs".toList = false ∧
    ["a\\b.cs"] ∉ collect backslashTree ["b.cs"] := by
  have hcollected : collect backslashTree ["b.cs"] = [] := by cbv
  refine ⟨.dir (by decide) (by decide) (by simpa using .leaf rfl), ?_, ?_, by decide, ?_⟩
  · exact .here (f := .file "a\\b.cs" []) List.mem_cons_self rfl
  · exact ⟨['a', '\\', 'b'], ".cs", by decide, rfl, 'a', by decide, by decide⟩
  · exact hcollected ▸ List.not_mem_nil

end ClassChart.Files
