import ClassChart.Proofs.Signature.Naming
import ClassChart.Proofs.Signature.References

/-! Identifiers as they are written, alone in a type text and among the names of a longer one. The
`@` in front of one is dropped with its token, so a text never refers to a name that has it. -/
namespace ClassChart.Signature
open Text

/-- An identifier as it is written: a letter or the low line, then word characters. A verbatim one
has an `@` in front. -/
structure Identifier where
  verbatim : Bool
  first : Char
  rest : List Char
  starts : isNameStart first = true
  continues : ∀ c ∈ rest, isWordChar c = true

namespace Identifier
variable (i : Identifier)

def word : String := String.ofList (i.first :: i.rest)

def text : String := if i.verbatim then String.ofList ('@' :: i.first :: i.rest) else i.word

variable {i} in
theorem text_plain (h : i.verbatim = false) : i.text = i.word := by
  simp [text, h]

variable {i} in
theorem text_verbatim (h : i.verbatim = true) : i.text.toList.head? = some '@' := by
  simp [text, h]

theorem isIdentifier_word : (Token.word i.word).isIdentifier = true := by
  simp [Token.isIdentifier, word, i.starts]

theorem word_whole : Word i.word.toList (.word i.word) [] := by
  have hword : Word (i.first :: (i.rest ++ [])) (.word i.word) [] :=
    .intro i.starts i.continues (by simp)
  simpa [word] using hword

theorem cut_word : Cut i.word.toList [.word i.word] := .token (.word i.word_whole) .nil

theorem cut : Cut i.text.toList [.word i.word] := by
  unfold text
  split
  · simpa [word] using Cut.token (.verbatim i.word_whole) .nil
  · exact i.cut_word

theorem read_text (h : i.word ∉ ["ref", "readonly", "scoped"]) :
    read i.text = .ok (.plain "" [] i.word) :=
  read_name (.lastSegment (.plain i.isIdentifier_word)) i.cut h

theorem references_text (rules : NameRules) (h : i.word ∉ ["ref", "readonly", "scoped"])
    (hsurvives : survives rules (i.word, "") = true) :
    references rules i.text = .ok ⟨none, [i.word]⟩ := by
  rw [references_of_read rules (i.read_text h)]
  simp [referencesIn_eq, TypeExpr.container?, TypeExpr.occurrences, TypeExpr.occurrencesAll, hsurvives,
    List.eraseDups_cons]

end Identifier

theorem identifier_of_mem_namesFrom {before ts : List Token} {occurrence : String × String}
    (h : occurrence ∈ namesFrom before ts) :
    ∃ t ∈ ts, t.isIdentifier = true ∧ occurrence.1 = t.text := by
  induction ts generalizing before with
  | nil => simp [namesFrom] at h
  | cons t after ih =>
    have hlater (hmem : occurrence ∈ namesFrom (t :: before) after) :
        ∃ t' ∈ t :: after, t'.isIdentifier = true ∧ occurrence.1 = t'.text := by
      obtain ⟨t', ht', hidentifier, htext⟩ := ih hmem
      exact ⟨t', List.mem_cons_of_mem t ht', hidentifier, htext⟩
    rw [namesFrom] at h
    split at h
    · next hname =>
      rcases List.mem_cons.mp h with rfl | hmem
      · simp only [Bool.and_eq_true] at hname
        exact ⟨t, List.mem_cons_self, hname.1.1, rfl⟩
      · exact hlater hmem
    · exact hlater h

theorem references_start {rules : NameRules} {text : String} {found : References}
    (h : references rules text = .ok found) :
    ∀ name ∈ found.names, name.toList.head?.any isNameStart = true := by
  intro name hname
  obtain ⟨e, qualifier, hread, hoccurrence, _⟩ := occurrence_of_reference h name hname
  rw [← namesFrom_type (spells_of_read hread)] at hoccurrence
  obtain ⟨t, _, hidentifier, rfl⟩ := identifier_of_mem_namesFrom hoccurrence
  cases t with
  | word name => exact hidentifier
  | scope | mark c => simp [Token.isIdentifier] at hidentifier

end ClassChart.Signature
