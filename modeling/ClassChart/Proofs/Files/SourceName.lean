import ClassChart.Files.Sources
import ClassChart.Proofs.List.Runs
import ClassChart.Proofs.List.Separator
import ClassChart.Proofs.Text.Pieces

/-! What the text of a path decides by itself: whether a name is that of a source file, and whether a
pattern excludes the path. Patterns are matched with every backslash read as a slash, so a name that
holds one counts as several parts. -/
namespace ClassChart.Files
open Text

section
variable {c : Char}

theorem toNat_toLower (c : Char) :
    c.toLower.toNat = if 65 ≤ c.toNat ∧ c.toNat ≤ 90 then c.toNat + 32 else c.toNat := by
  change (dite _ _ _ : Char).toNat = _
  have hcapital : c.val ≥ 'A'.val ∧ c.val ≤ 'Z'.val ↔ 65 ≤ c.toNat ∧ c.toNat ≤ 90 := Iff.rfl
  by_cases h : 65 ≤ c.toNat ∧ c.toNat ≤ 90
  · rw [dif_pos (hcapital.mpr h), if_pos h]
    have hsum : (c.val + ('a'.val - 'A'.val)).toNat = (c.toNat + 32) % 2 ^ 32 := rfl
    change (c.val + ('a'.val - 'A'.val)).toNat = _
    omega
  · rw [dif_neg (mt hcapital.mp h), if_neg h]

theorem toNat_lowerChar (c : Char) :
    (lowerChar c).toNat =
      if c.toNat = 0x212A then 107
      else if 65 ≤ c.toNat ∧ c.toNat ≤ 90 then c.toNat + 32 else c.toNat := by
  rw [lowerChar, apply_ite Char.toNat, toNat_toLower]
  rfl

/-- A small letter comes from itself and its capital only, but for the one of the Kelvin sign. -/
theorem lowerChar_eq_iff {small capital : Char} (hsmall : 97 ≤ small.toNat ∧ small.toNat ≤ 122)
    (hk : small.toNat ≠ 107) (hcapital : capital.toNat + 32 = small.toNat) :
    lowerChar c = small ↔ c = small ∨ c = capital := by
  rw [← Char.toNat_inj, ← Char.toNat_inj, ← Char.toNat_inj, toNat_lowerChar]
  split
  · omega
  · split <;> omega

theorem lowerChar_eq_dot_iff : lowerChar c = '.' ↔ c = '.' := by
  have hdot : '.'.toNat = 46 := rfl
  rw [← Char.toNat_inj, ← Char.toNat_inj, toNat_lowerChar, hdot]
  split
  · omega
  · split <;> omega

end

def sourceExtensions : List String := [".cs", ".cS", ".Cs", ".CS"]

theorem lower_eq_source_iff {ext : String} : lower ext = ".cs" ↔ ext ∈ sourceExtensions := by
  have hlist : lower ext = ".cs" ↔ ext.toList.map lowerChar = ['.', 'c', 's'] := by
    rw [← String.toList_inj, lower, String.toList_map]
    rfl
  have hc (c : Char) : lowerChar c = 'c' ↔ c = 'c' ∨ c = 'C' :=
    lowerChar_eq_iff (by decide) (by decide) rfl
  have hs (c : Char) : lowerChar c = 's' ↔ c = 's' ∨ c = 'S' :=
    lowerChar_eq_iff (by decide) (by decide) rfl
  rw [hlist]
  simp only [sourceExtensions, List.mem_cons, List.not_mem_nil, or_false, ← String.toList_inj]
  constructor
  · intro h
    obtain ⟨a, rest, hext, ha, h⟩ := List.map_eq_cons_iff.mp h
    obtain ⟨b, rest, rfl, hb, h⟩ := List.map_eq_cons_iff.mp h
    obtain ⟨d, rest, rfl, hd, h⟩ := List.map_eq_cons_iff.mp h
    obtain rfl := List.map_eq_nil_iff.mp h
    rw [hext, lowerChar_eq_dot_iff.mp ha]
    obtain rfl | rfl := (hc b).mp hb <;> obtain rfl | rfl := (hs d).mp hd <;> decide
  · rintro (h | h | h | h) <;> rw [h] <;> decide

/-- A name that ends in the extension of the language, in any letter case, with something other than
dots before it. -/
def IsSourceName (name : String) : Prop :=
  ∃ stem, ∃ ext ∈ sourceExtensions, name.toList = stem ++ ext.toList ∧ ∃ c ∈ stem, c ≠ '.'

theorem baseName_of_no_slash {name : List Char} (h : '/' ∉ name) : baseName name = name := by
  have hall : ∀ c ∈ name.reverse, decide (c ≠ '/') = true := by
    intro c hc
    exact decide_eq_true fun heq => h (heq ▸ List.mem_reverse.mp hc)
  have hend : ∀ c ∈ ([] : List Char).head?, decide (c ≠ '/') = false := by simp
  have hwhole := takeWhile_run hall hend
  rw [List.append_nil] at hwhole
  rw [baseName, hwhole, List.reverse_reverse]

theorem extension_of_dot {name : String} {stem ext : List Char} (hslash : '/' ∉ name.toList)
    (hname : name.toList = stem ++ '.' :: ext) (hstem : ∃ c ∈ stem, c ≠ '.') (hext : '.' ∉ ext) :
    extension name = String.ofList ('.' :: ext) := by
  have hfront : stem.dropWhile (· = '.') ≠ [] := by
    intro hnil
    obtain ⟨c, hc, hne⟩ := hstem
    have hdots := takeWhile_all (p := fun c => decide (c = '.')) stem
    have hall : stem.takeWhile (· = '.') = stem := by
      simpa [hnil] using List.takeWhile_append_dropWhile (p := fun c => decide (c = '.')) (l := stem)
    rw [hall] at hdots
    exact hne (of_decide_eq_true (hdots c hc))
  have hdrop : (stem ++ '.' :: ext).dropWhile (· = '.') =
      stem.dropWhile (· = '.') ++ '.' :: ext := by
    rw [List.dropWhile_append, if_neg (by simpa using hfront)]
  have hrun : ∀ c ∈ ext.reverse, decide (c ≠ '.') = true := by
    intro c hc
    exact decide_eq_true fun heq => hext (heq ▸ List.mem_reverse.mp hc)
  have hafter : (stem.dropWhile (· = '.') ++ '.' :: ext).reverse.takeWhile (· ≠ '.') =
      ext.reverse := by
    rw [List.reverse_append, List.reverse_cons, List.append_assoc]
    exact takeWhile_run hrun (by simp)
  rw [extension, baseName_of_no_slash hslash, hname]
  simp only [hdrop, hafter, List.reverse_reverse]
  rw [if_pos (by simp)]

theorem exists_of_extension {name : String} (hslash : '/' ∉ name.toList)
    (h : extension name ≠ "") : ∃ stem, name.toList = stem ++ (extension name).toList ∧
      ∃ c ∈ stem, c ≠ '.' := by
  have hdot : '.' ∈ name.toList.dropWhile (· = '.') := by
    by_contra hnone
    refine h ?_
    rw [extension, baseName_of_no_slash hslash]
    exact if_neg (by simpa using hnone)
  obtain ⟨before, ext, hsplit, hext⟩ := exists_last_split hdot
  have hhead := head_dropWhile (p := fun c => decide (c = '.')) name.toList
  have hstem : ∃ c ∈ before, c ≠ '.' := by
    rw [hsplit] at hhead
    cases before with
    | nil => exact absurd (hhead '.' rfl) (by simp)
    | cons c before => exact ⟨c, List.mem_cons_self, of_decide_eq_false (hhead c rfl)⟩
  obtain ⟨c, hc, hne⟩ := hstem
  have hname : name.toList =
      (name.toList.takeWhile (· = '.') ++ before) ++ '.' :: ext := by
    rw [List.append_assoc, ← hsplit, List.takeWhile_append_dropWhile]
  have hstem : ∃ c ∈ name.toList.takeWhile (· = '.') ++ before, c ≠ '.' :=
    ⟨c, List.mem_append_right _ hc, hne⟩
  refine ⟨_, ?_, hstem⟩
  rw [extension_of_dot hslash hname hstem hext, String.toList_ofList]
  exact hname

theorem isSource_iff {name : String} (hslash : '/' ∉ name.toList) :
    isSource name = true ↔ IsSourceName name := by
  have hlookup : isSource name = true ↔ extension name ∈ sourceExtensions := by
    rw [← lower_eq_source_iff]
    by_cases h : lower (extension name) = ".cs" <;> simp [isSource, languageOf?, languages, h]
  rw [hlookup]
  constructor
  · intro h
    have hne : extension name ≠ "" := by
      intro heq
      rw [heq] at h
      exact absurd h (by decide)
    obtain ⟨stem, hname, hstem⟩ := exists_of_extension hslash hne
    exact ⟨stem, _, h, hname, hstem⟩
  · rintro ⟨stem, ext, hext, hname, hstem⟩
    have hdots : ∀ ext ∈ sourceExtensions, ext.toList.head? = some '.' ∧ '.' ∉ ext.toList.tail := by
      simp [sourceExtensions]
    obtain ⟨hdot, htail⟩ := hdots ext hext
    have hcons : ext.toList = '.' :: ext.toList.tail := List.eq_cons_of_mem_head? hdot
    rw [hcons] at hname
    rw [extension_of_dot hslash hname hstem htail, ← hcons, String.ofList_toList]
    exact hext

/-- The parts of a path as patterns see them: its names, each cut at its backslashes. -/
def parts (path : List String) : List (List Char) :=
  path.flatMap fun name => name.toList.splitOn '\\'

/-- A pattern meets a path if it fits one of its parts, or all of them with slashes between. -/
def Meets (pattern : String) (path : List String) : Prop :=
  fits pattern (['/'].intercalate (parts path)) = true ∨ ∃ part ∈ parts path, fits pattern part = true

def slashed (c : Char) : Char := if c = '\\' then '/' else c

theorem splitOn_slashed {name : List Char} (h : '/' ∉ name) :
    (name.map slashed).splitOn '/' = name.splitOn '\\' := by
  induction name with
  | nil => rfl
  | cons c rest ih =>
    obtain ⟨hc, hrest⟩ := not_or.mp (mt List.mem_cons.mpr h)
    rw [List.map_cons, List.splitOn_cons_eq_if_modifyHead, List.splitOn_cons_eq_if_modifyHead,
      ih hrest]
    by_cases hback : c = '\\'
    · simp [hback, slashed]
    · simp [hback, slashed, Ne.symm hc]

theorem splitOn_path {path : List String} (hne : path ≠ [])
    (hslash : ∀ name ∈ path, '/' ∉ name.toList) :
    (("/".intercalate path).toList.map slashed).splitOn '/' = parts path := by
  induction path with
  | nil => exact absurd rfl hne
  | cons name rest ih =>
    obtain ⟨hname, hrest⟩ := List.forall_mem_cons.mp hslash
    by_cases hnil : rest = []
    · rw [hnil, String.intercalate_singleton, splitOn_slashed hname, parts, List.flatMap_cons,
        List.flatMap_nil, List.append_nil]
    · have htext : ("/".intercalate (name :: rest)).toList.map slashed =
          name.toList.map slashed ++ '/' :: ("/".intercalate rest).toList.map slashed := by
        rw [String.intercalate_cons_of_ne_nil hnil]
        simp [slashed]
      rw [htext, List.splitOn_append_cons_self, splitOn_slashed hname, ih hnil hrest, parts, parts,
        List.flatMap_cons]

theorem isExcluded_iff {path : List String} {patterns : List String} (hne : path ≠ [])
    (hslash : ∀ name ∈ path, '/' ∉ name.toList) :
    isExcluded ("/".intercalate path) patterns = true ↔ ∃ pattern ∈ patterns, Meets pattern path := by
  have hpieces := splitOn_path hne hslash
  have hwhole : ("/".intercalate path).toList.map slashed =
      ['/'].intercalate (parts path) := by
    rw [← hpieces, List.intercalate_splitOn]
  have hexcluded : isExcluded ("/".intercalate path) patterns = patterns.any fun pattern =>
      fits pattern (("/".intercalate path).toList.map slashed) ||
        ((("/".intercalate path).toList.map slashed).splitOn '/').any (fits pattern) := rfl
  rw [hexcluded, hpieces, hwhole]
  simp only [List.any_eq_true, Bool.or_eq_true, Meets]

end ClassChart.Files
