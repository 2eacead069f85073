import ClassChart.Text.Pieces
import Mathlib.Data.List.Basic

/-! Texts compared by their pieces. A separator between two texts puts their pieces side by side, so
a text ends in another one after a separator exactly if its pieces end in those of the other, and so
at its start. A text has one line more than it has breaks. -/
namespace ClassChart.Text

section
variable {sep : Char} {s t : List Char}

theorem length_splitOn (sep : Char) (s : List Char) :
    (s.splitOn sep).length = s.count sep + 1 := by
  induction s with
  | nil => rfl
  | cons c rest ih =>
    rw [List.splitOn_cons_eq_if_modifyHead, List.count_cons]
    by_cases hsep : c = sep <;> simp [hsep, ih]

theorem intercalate_append {ps qs : List (List Char)} (hp : ps ≠ []) (hq : qs ≠ []) :
    [sep].intercalate (ps ++ qs) = [sep].intercalate ps ++ sep :: [sep].intercalate qs := by
  induction ps with
  | nil => exact absurd rfl hp
  | cons p rest ih =>
    by_cases hrest : rest = []
    · rw [hrest, List.singleton_append, List.intercalate_cons_of_ne_nil hq,
        List.intercalate_singleton, List.append_assoc, List.singleton_append]
    · have happend : rest ++ qs ≠ [] := List.append_ne_nil_of_left_ne_nil hrest qs
      rw [List.cons_append, List.intercalate_cons_of_ne_nil happend, ih hrest,
        List.intercalate_cons_of_ne_nil hrest, List.append_assoc _ _ (sep :: _)]

/-- A text ends in another one after a separator exactly if its pieces properly end in those of the
other. -/
theorem cons_suffix_iff : sep :: t <:+ s ↔
    t.splitOn sep <:+ s.splitOn sep ∧ t.splitOn sep ≠ s.splitOn sep := by
  constructor
  · rintro ⟨before, rfl⟩
    rw [List.splitOn_append_cons_self]
    refine ⟨List.suffix_append _ _, fun heq => List.splitOn_ne_nil sep before ?_⟩
    exact List.append_left_eq_self.mp heq.symm
  · rintro ⟨⟨before, hpieces⟩, hne⟩
    have hbefore : before ≠ [] := by
      rintro rfl
      exact hne hpieces
    refine ⟨[sep].intercalate before, ?_⟩
    calc [sep].intercalate before ++ sep :: t
        = [sep].intercalate (before ++ t.splitOn sep) := by
          rw [intercalate_append hbefore (List.splitOn_ne_nil sep t), List.intercalate_splitOn]
      _ = s := by rw [hpieces, List.intercalate_splitOn]

theorem prefix_splitOn_iff :
    t.splitOn sep <+: s.splitOn sep ↔ s = t ∨ t ++ [sep] <+: s := by
  constructor
  · rintro ⟨after, hpieces⟩
    by_cases hafter : after = []
    · left
      rw [hafter, List.append_nil] at hpieces
      have htexts := congrArg [sep].intercalate hpieces
      rw [List.intercalate_splitOn, List.intercalate_splitOn] at htexts
      exact htexts.symm
    · right
      refine ⟨[sep].intercalate after, ?_⟩
      calc t ++ [sep] ++ [sep].intercalate after
          = [sep].intercalate (t.splitOn sep ++ after) := by
            rw [intercalate_append (List.splitOn_ne_nil sep t) hafter, List.intercalate_splitOn,
              List.append_assoc, List.singleton_append]
        _ = s := by rw [hpieces, List.intercalate_splitOn]
  · rintro (rfl | ⟨after, rfl⟩)
    · exact List.prefix_rfl
    · rw [List.append_assoc, List.singleton_append, List.splitOn_append_cons_self]
      exact List.prefix_append _ _

end

theorem map_splitOn_append (sep : Char) (s t : String) :
    ((s ++ String.singleton sep ++ t).toList.splitOn sep).map String.ofList =
      (s.toList.splitOn sep).map String.ofList ++ (t.toList.splitOn sep).map String.ofList := by
  rw [String.toList_append, String.toList_append, String.toList_singleton, List.append_assoc,
    List.singleton_append, List.splitOn_append_cons_self, List.map_append]

theorem dot_suffix_iff {s t : String} : '.' :: t.toList <:+ s.toList ↔
    segments t <:+ segments s ∧ segments t ≠ segments s := by
  rw [cons_suffix_iff, segments, segments, List.suffix_map_iff_of_injective @String.ofList_injective,
    (List.map_injective_iff.mpr @String.ofList_injective).ne_iff]

theorem segments_prefix_iff {s t : String} : segments t <+: segments s ↔
    s = t ∨ t.toList ++ ['.'] <+: s.toList := by
  rw [segments, segments, List.prefix_map_iff_of_injective @String.ofList_injective, prefix_splitOn_iff,
    String.toList_inj]

theorem segments_append_dot (s t : String) :
    segments (s ++ "." ++ t) = segments s ++ segments t :=
  map_splitOn_append '.' s t

theorem segments_dotted {names : List String} (hne : names ≠ [])
    (hdots : ∀ name ∈ names, '.' ∉ name.toList) : segments (dotted names) = names := by
  have hparts : ∀ part ∈ names.map String.toList, '.' ∉ part := by simpa using hdots
  have hsep : ".".toList = ['.'] := rfl
  rw [segments, dotted, String.toList_intercalate, hsep,
    List.splitOn_intercalate _ hparts (by simpa using hne)]
  simp [Function.comp_def]

def lines (s : String) : List String := (s.toList.splitOn '\n').map String.ofList

theorem length_lines (s : String) : (lines s).length = s.toList.count '\n' + 1 := by
  rw [lines, List.length_map, length_splitOn]

theorem lines_of_unbroken {s : String} (h : '\n' ∉ s.toList) : lines s = [s] := by
  rw [lines, List.splitOn_eq_singleton h, List.map_singleton, String.ofList_toList]

theorem lines_append_break (s t : String) : lines (s ++ "\n" ++ t) = lines s ++ lines t :=
  map_splitOn_append '\n' s t

/-- Lines that are put together with breaks are cut again where they were put together, and where
they have breaks of their own. -/
theorem lines_intercalate {ls : List String} (h : ls ≠ []) :
    lines ("\n".intercalate ls) = ls.flatMap lines := by
  induction ls with
  | nil => exact absurd rfl h
  | cons l rest ih =>
    by_cases hrest : rest = []
    · simp [hrest]
    · rw [String.intercalate_cons_of_ne_nil hrest, lines_append_break, ih hrest, List.flatMap_cons]

theorem length_flatMap_lines (ls : List String) :
    (ls.flatMap lines).length = ls.length + (ls.flatMap (·.toList)).count '\n' := by
  induction ls with
  | nil => rfl
  | cons l rest ih =>
    simp only [List.flatMap_cons, List.length_append, length_lines, ih, List.length_cons,
      List.count_append]
    omega

theorem flatMap_lines_of_unbroken {ls : List String} (h : ∀ l ∈ ls, '\n' ∉ l.toList) :
    ls.flatMap lines = ls := by
  rw [List.flatMap_congr fun l hl => lines_of_unbroken (h l hl), List.flatMap_singleton']

end ClassChart.Text
