import ClassChart.Names.Split
import ClassChart.Proofs.Signature.Lexing
import ClassChart.Proofs.Text.Pieces

/-! How the text of a reference is cut. In front of the first angle there are words joined by dots,
perhaps after the alias, and these are cut again into the qualifier and the name. -/
namespace ClassChart.Text

theorem trim_append_blanks {s gap : List Char} (hs : ∀ c ∈ s, isBlank c = false)
    (hgap : ∀ c ∈ gap, isBlank c = true) : trim (s ++ gap) = s := by
  have hright : trimRight (s ++ gap) = s := by
    have hhead : ∀ c ∈ s.reverse.head?, isBlank c = false := fun c hc =>
      hs c (List.mem_reverse.mp (List.mem_of_mem_head? hc))
    have hblanks : ∀ c ∈ gap.reverse, isBlank c = true := fun c hc => hgap c (List.mem_reverse.mp hc)
    rw [trimRight, List.reverse_append, dropWhile_run hblanks hhead, List.reverse_reverse]
  cases s with
  | nil =>
    have hnone : (gap ++ []).dropWhile isBlank = [] := dropWhile_run hgap (by simp)
    rw [List.append_nil] at hnone
    rw [trim, trimLeft, List.nil_append, hnone]
    rfl
  | cons c s =>
    have hleft : trimLeft (c :: s ++ gap) = c :: s ++ gap :=
      List.dropWhile_cons_of_neg (by simp [hs c List.mem_cons_self])
    rw [trim, hleft, hright]

theorem trim_of_unblank {s : List Char} (hs : ∀ c ∈ s, isBlank c = false) : trim s = s := by
  simpa using trim_append_blanks hs (List.forall_mem_nil _)

end ClassChart.Text

namespace ClassChart.Names
open Text

theorem afterScope_eq_none {s : List Char} (h : ':' ∉ s) : afterScope s = none := by
  induction s with
  | nil => rfl
  | cons c s ih =>
    obtain ⟨hc, hs⟩ := not_or.mp (mt List.mem_cons.mpr h)
    rw [afterScope, ih hs]
    rintro _ rfl
    exact absurd rfl hc

theorem cutAtLastDot_append {before after : List Char} (h : '.' ∉ after) :
    cutAtLastDot (before ++ '.' :: after) = (before, after) := by
  have hdot : (before ++ '.' :: after).contains '.' = true := by simp
  have hrun : ∀ c ∈ after.reverse, decide (c ≠ '.') = true := by
    intro c hc
    refine decide_eq_true ?_
    rintro rfl
    exact h (List.mem_reverse.mp hc)
  have hstop : ∀ c ∈ ('.' :: before.reverse).head?, decide (c ≠ '.') = false := by simp
  rw [cutAtLastDot, if_pos hdot, List.reverse_append, List.reverse_cons, List.append_assoc,
    List.singleton_append, dropWhile_run hrun hstop, takeWhile_run hrun hstop]
  simp

theorem cutAtLastDot_of_not_mem {s : List Char} (h : '.' ∉ s) : cutAtLastDot s = ([], s) := by
  rw [cutAtLastDot, if_neg (by simpa using h)]

/-- The alias for the outermost namespace, as it is written in front of a name. -/
def aliasText (aliased : Bool) : List Char := if aliased then "global::".toList else []

theorem aliasText_plain (aliased : Bool) :
    ∀ c ∈ aliasText aliased, isBlank c = false ∧ c ≠ '<' := by
  have hall : (aliasText aliased).all (fun c => !isBlank c && c != '<') = true := by
    cases aliased <;> decide
  simpa using hall

def Wordlike (name : String) : Prop := ∀ c ∈ name.toList, isWordChar c = true

theorem Wordlike.not_mem {name : String} (h : Wordlike name) {c : Char}
    (hc : isWordChar c = false) : c ∉ name.toList := by
  intro hmem
  rw [h c hmem] at hc
  contradiction

section
variable {words : List String} {name : String}

theorem toList_dotted_cons (w : String) (hne : words ≠ []) :
    (dotted (w :: words)).toList = w.toList ++ '.' :: (dotted words).toList := by
  rw [dotted, String.intercalate_cons_of_ne_nil hne]
  simp [dotted]

theorem toList_dotted_concat (hne : words ≠ []) :
    (dotted (words ++ [name])).toList = (dotted words).toList ++ '.' :: name.toList := by
  rw [dotted, String.intercalate_append_of_ne_nil hne (List.cons_ne_nil _ _),
    String.intercalate_singleton]
  simp [dotted]

theorem mem_dotted (h : ∀ w ∈ words, Wordlike w) :
    ∀ c ∈ (dotted words).toList, isWordChar c = true ∨ c = '.' := by
  induction words with
  | nil => simp [dotted]
  | cons w rest ih =>
    obtain ⟨hw, hrest⟩ := List.forall_mem_cons.mp h
    by_cases hnil : rest = []
    · subst hnil
      simpa [dotted] using fun c hc => Or.inl (hw c hc)
    · rw [toList_dotted_cons w hnil]
      refine List.forall_mem_append.mpr ⟨fun c hc => .inl (hw c hc), ?_⟩
      exact List.forall_mem_cons.mpr ⟨.inr rfl, ih hrest⟩

theorem dotted_unblank (h : ∀ w ∈ words, Wordlike w) :
    ∀ c ∈ (dotted words).toList, isBlank c = false := by
  intro c hc
  rcases mem_dotted h c hc with hword | rfl
  · exact not_blank_of_wordChar c hword
  · decide

theorem dotted_not_mem (h : ∀ w ∈ words, Wordlike w) {c : Char} (hword : isWordChar c = false)
    (hdot : c ≠ '.') : c ∉ (dotted words).toList := by
  intro hc
  rcases mem_dotted h c hc with hmem | rfl
  · rw [hmem] at hword
    contradiction
  · exact hdot rfl

theorem cutAtLastDot_dotted (h : ∀ w ∈ words ++ [name], Wordlike w) :
    cutAtLastDot (dotted (words ++ [name])).toList = ((dotted words).toList, name.toList) := by
  have hname : '.' ∉ name.toList := (h name (by simp)).not_mem (by decide)
  by_cases hnil : words = []
  · subst hnil
    simpa [dotted] using cutAtLastDot_of_not_mem hname
  · rw [toList_dotted_concat hnil, cutAtLastDot_append hname]

/-- A text that reads, up to the first angle, as words joined by dots is cut at the last of these. -/
theorem splitReference_eq {text : String} {gap : List Char} (aliased : Bool)
    (h : ∀ w ∈ words ++ [name], Wordlike w) (hgap : ∀ c ∈ gap, isBlank c = true)
    (htext : text.toList.takeWhile (· ≠ '<') =
      aliasText aliased ++ (dotted (words ++ [name])).toList ++ gap) :
    splitReference text = (dotted words, name) := by
  have halias : ∀ c ∈ aliasText aliased, isBlank c = false := fun c hc =>
    (aliasText_plain aliased c hc).1
  have hhead : trim (text.toList.takeWhile (· ≠ '<')) =
      aliasText aliased ++ (dotted (words ++ [name])).toList := by
    rw [htext]
    exact trim_append_blanks (List.forall_mem_append.mpr ⟨halias, dotted_unblank h⟩) hgap
  have hscope : (afterScope (aliasText aliased ++ (dotted (words ++ [name])).toList)).getD
      (aliasText aliased ++ (dotted (words ++ [name])).toList) = (dotted (words ++ [name])).toList := by
    cases aliased with
    | true => rfl
    | false =>
      have hcolon := dotted_not_mem h (c := ':') (by decide) (by decide)
      simp [aliasText, afterScope_eq_none hcolon]
  have hname := h name (by simp)
  have hwords : ∀ w ∈ words, Wordlike w := fun w hw => h w (List.mem_append_left _ hw)
  rw [splitReference, hhead, hscope, cutAtLastDot_dotted h]
  simp only [trim_of_unblank (dotted_unblank hwords),
    trim_of_unblank fun c hc => not_blank_of_wordChar c (hname c hc), String.ofList_toList]

end

end ClassChart.Names
