import ClassChart.Proofs.Signature.Acceptance

/-! How a name is read. It is taken segment by segment, unless its first word is one of those that
may stand in front of a type: that word is passed over, and what follows is no type. -/
namespace ClassChart.Signature

/-- What an expression calls its type, with the qualifier. Wrappers and tuples have no name. -/
def TypeExpr.reference : TypeExpr → String × String
  | plain qualifier _ name | generic qualifier _ name _ => (qualifier, name)
  | nullable _ | pointer _ | array _ | tuple _ => ("", "")

theorem reference_ofSegments (earlier : List Segment) (last : Segment) :
    (ofSegments earlier last).reference = (qualifierOf (earlier.map (·.1)), last.1) := by
  obtain ⟨name, _ | args⟩ := last <;> rfl

theorem Spells.segment_head {ts : List Token} {s : Segment} (h : Spells ts (.segment s)) :
    ∃ t rest, ts = t :: rest ∧ t.isIdentifier = true ∧ t.text = s.1 ∧
      (s.2 = none ∧ rest = [] ∨ s.2.isSome = true ∧ rest.head? = some (.mark '<')) := by
  cases h with
  | plain ht => exact ⟨_, _, rfl, ht, rfl, .inl ⟨rfl, rfl⟩⟩
  | unbound n ht | generic n ht h => exact ⟨_, _, rfl, ht, rfl, .inr ⟨rfl, rfl⟩⟩

theorem Spells.name_head {ts : List Token} {earlier : List Segment} {last : Segment}
    (h : Spells ts (.name earlier last)) :
    ∃ t rest, ts = t :: rest ∧ t.isIdentifier = true ∧ t.text = (earlier.headD last).1 ∧
      ∀ u ∈ rest.head?, u ∈ [.mark '<', .mark '.', .scope] := by
  cases h with
  | lastSegment h =>
    obtain ⟨t, rest, rfl, ht, htext, ⟨_, rfl⟩ | ⟨_, hangle⟩⟩ := h.segment_head
    · exact ⟨t, _, rfl, ht, htext, by simp⟩
    · exact ⟨t, _, rfl, ht, htext, by simp [hangle]⟩
  | moreSegments h hdot hs =>
    obtain ⟨t, rest, rfl, ht, htext, ⟨_, rfl⟩ | ⟨_, hangle⟩⟩ := h.segment_head
    · exact ⟨t, _, rfl, ht, htext, by rcases hdot with rfl | rfl <;> simp⟩
    · exact ⟨t, _, rfl, ht, htext, by simp [hangle]⟩

theorem isModifierWord_of_text {t : Token} (ht : t.isIdentifier = true) :
    isModifierWord t = decide (t.text ∈ ["ref", "readonly", "scoped"]) := by
  cases t with
  | word name => rfl
  | scope | mark c => simp [Token.isIdentifier] at ht

section
variable {ts : List Token} {earlier : List Segment} {last : Segment}
  (h : Spells ts (.name earlier last))
include h

/- A modifier word is not taken for the first word of a name, and what follows it in one neither is
another nor starts a type. -/
theorem not_sentence_of_modifier
    (hmodifier : (earlier.headD last).1 ∈ ["ref", "readonly", "scoped"]) (e : TypeExpr) :
    ¬Sentence ts e := by
  obtain ⟨t, rest, rfl, ht, htext, hnext⟩ := h.name_head
  have hfirst : isModifierWord t = true := by
    rw [isModifierWord_of_text ht, htext]
    exact decide_eq_true hmodifier
  generalize hts : t :: rest = ts
  rintro @⟨modifiers, us, e, hm, hn, hspells⟩
  obtain ⟨u, after, rfl, hstart⟩ := hspells.head
  -- Either the sentence takes no modifier off, or it takes this word off and goes on behind it.
  rcases List.cons_eq_append_iff.mp hts with ⟨_, htu⟩ | ⟨more, rfl, rfl⟩
  · obtain rfl := (List.cons.inj htu).1
    simp [hn _ rfl] at hfirst
  · obtain ⟨_, hmore⟩ := List.forall_mem_cons.mp hm
    cases more with
    | nil =>
      have hu := hnext u rfl
      simp only [List.mem_cons, List.not_mem_nil, or_false] at hu
      rcases hu with rfl | rfl | rfl <;> simp [Phrase.startsWith, Token.isIdentifier] at hstart
    | cons m more =>
      have hm' := hnext m rfl
      have hmodifies := hmore m List.mem_cons_self
      simp only [List.mem_cons, List.not_mem_nil, or_false] at hm'
      rcases hm' with rfl | rfl | rfl <;> simp [isModifierWord] at hmodifies

theorem read_name {text : String} (hcut : Cut text.toList ts)
    (hmodifier : (earlier.headD last).1 ∉ ["ref", "readonly", "scoped"]) :
    read text = .ok (ofSegments earlier last) := by
  have hhead : ∀ t ∈ ts.head?, isModifierWord t = false := by
    obtain ⟨t, rest, rfl, ht, htext, _⟩ := h.name_head
    rintro _ ⟨⟩
    rw [isModifierWord_of_text ht, htext]
    exact decide_eq_false hmodifier
  have htype : Spells ts (.type (ofSegments earlier last)) := by
    simpa using Spells.named h (.none _)
  have hsentence : Sentence ([] ++ ts) (ofSegments earlier last) := .intro (by simp) hhead htype
  exact (read_eq_ok_iff_sentence text hcut _).mpr hsentence

theorem read_name_of_modifier {text : String} (hcut : Cut text.toList ts)
    (hmodifier : (earlier.headD last).1 ∈ ["ref", "readonly", "scoped"]) :
    ∃ fault, read text = .error fault := by
  cases hread : read text with
  | error fault => exact ⟨fault, rfl⟩
  | ok e =>
    have hsentence := (read_eq_ok_iff_sentence text hcut e).mp hread
    exact absurd hsentence (not_sentence_of_modifier h hmodifier e)

end

end ClassChart.Signature
