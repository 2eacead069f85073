import ClassChart.Proofs.Signature.Completeness
import ClassChart.Proofs.Signature.Lexing
import ClassChart.Proofs.Signature.Soundness

/-! The texts that are read are those whose tokens are a sentence, and each is read as the
expression of its sentence. -/
namespace ClassChart.Signature

theorem ofTokens_eq_ok_iff (ts : List Token) (e : TypeExpr) :
    ofTokens ts = .ok e ↔ Sentence ts e :=
  ⟨sentence_of_ofTokens, ofTokens_of_sentence⟩

theorem ofTokens_tokens_iff {s : List Char} {ts : List Token} (h : Cut s ts) (e : TypeExpr) :
    ofTokens (tokens s) = .ok e ↔ Sentence ts e := by
  rw [ofTokens_eq_ok_iff]
  constructor
  · intro hs
    rwa [tokens_eq_of_cut h (.inr hs.inGrammar)] at hs
  · intro hs
    rwa [tokens_eq_of_cut h (.inl hs.inGrammar)]

theorem cut_of_blank (s : List Char) (h : ∀ c ∈ s, Text.isBlank c = true) : Cut s [] := by
  induction s with
  | nil => exact .nil
  | cons c s ih =>
    obtain ⟨hc, hs⟩ := List.forall_mem_cons.mp h
    exact .blank hc (ih hs)

theorem not_sentence_nil (e : TypeExpr) : ¬Sentence [] e := by
  generalize hts : ([] : List Token) = ts
  rintro ⟨hm, hn, hspells⟩
  obtain ⟨t, us, rfl, ht⟩ := hspells.head
  simp at hts

theorem read_eq_ok_iff (text : String) (e : TypeExpr) :
    read text = .ok e ↔ Text.allBlank text = false ∧ ofTokens (tokens text.toList) = .ok e := by
  unfold read
  cases Text.allBlank text with
  | true => simp
  | false => cases ofTokens (tokens text.toList) <;> simp

theorem read_eq_ok_iff_sentence (text : String) {ts : List Token} (h : Cut text.toList ts)
    (e : TypeExpr) : read text = .ok e ↔ Sentence ts e := by
  rw [read_eq_ok_iff, ofTokens_tokens_iff h, and_iff_right_iff_imp]
  intro hsentence
  refine Bool.eq_false_iff.mpr fun hblank => ?_
  have hnil : ts = [] := h.unique (cut_of_blank _ (List.all_eq_true.mp hblank))
  exact not_sentence_nil e (hnil ▸ hsentence)

/-- Every text has one token sequence. The reader answers the expression of the sentence if that
sequence is one, and a sentence stands for one expression only; otherwise it answers a syntax
error. -/
theorem read_accepts_sentences (text : String) :
    ∃ ts, (∀ us, Cut text.toList us ↔ us = ts) ∧
      (∀ e, Sentence ts e → read text = .ok e) ∧
      (∀ e f, Sentence ts e → Sentence ts f → e = f) ∧
      ((∀ e, ¬Sentence ts e) → ∃ fault, read text = .error fault) := by
  obtain ⟨ts, hcut⟩ := cut_exists text.toList
  have hread := read_eq_ok_iff_sentence text hcut
  refine ⟨ts, fun us => ⟨fun h => h.unique hcut, fun h => h ▸ hcut⟩, fun e => (hread e).mpr,
    fun e f he hf => ?_, fun hnone => ?_⟩
  · have heq := ((hread e).mpr he).symm.trans ((hread f).mpr hf)
    simpa using heq
  · cases hresult : read text with
    | error fault => exact ⟨fault, rfl⟩
    | ok e => exact absurd ((hread e).mp hresult) (hnone e)

def sampleTokens : List Token :=
  [.word "ref", .word "A", .mark '<', .word "B", .mark '.', .word "C", .mark '>', .mark '?']

theorem cut_sample : Cut "ref A<B.C>?".toList sampleTokens := by
  have hlist : "ref A<B.C>?".toList = ['r', 'e', 'f', ' ', 'A', '<', 'B', '.', 'C', '>', '?'] := rfl
  have hword : ∀ {c d : Char} (w : List Char) {rest : List Char}, Text.isNameStart c = true →
      w.all Text.isWordChar = true → Text.isWordChar d = false →
        Lexeme (c :: (w ++ d :: rest)) (.word (String.ofList (c :: w))) (d :: rest) :=
    fun w _ hc hw hd => .word (.intro hc (List.all_eq_true.mp hw) (by simpa using hd))
  rw [hlist]
  refine .token (hword ['e', 'f'] (by decide) (by decide) (by decide)) (.blank (by decide) ?_)
  refine .token (hword [] (by decide) (by decide) (by decide)) (.token (lexeme_mark (by decide) _) ?_)
  refine .token (hword [] (by decide) (by decide) (by decide)) (.token (lexeme_mark (by decide) _) ?_)
  refine .token (hword [] (by decide) (by decide) (by decide)) (.token (lexeme_mark (by decide) _) ?_)
  exact .token (lexeme_mark (by decide) _) .nil

theorem sentence_sample :
    Sentence sampleTokens (.nullable (.generic "" [] "A" [.plain "B" [] "C"])) := by
  have hmodifier : ∀ t ∈ [Token.word "ref"], isModifierWord t = true := by simp [isModifierWord]
  have hargument : Spells [.word "B", .mark '.', .word "C"] (.type (.plain "B" [] "C")) :=
    .named (.moreSegments (.plain (by decide)) (.inl rfl) (.lastSegment (.plain (by decide))))
      (.none _)
  have htype : Spells [.word "A", .mark '<', .word "B", .mark '.', .word "C", .mark '>', .mark '?']
      (.type (.nullable (.generic "" [] "A" [.plain "B" [] "C"]))) :=
    .named (.lastSegment (.generic 0 (by decide) (.lastArgument hargument))) (.nullable (.none _))
  exact .intro hmodifier (by decide) htype

/-- The sentence of the text, and the expression that is read. -/
theorem read_accepts_sentences_of_sample :
    Cut "ref A<B.C>?".toList sampleTokens ∧
      Sentence sampleTokens (.nullable (.generic "" [] "A" [.plain "B" [] "C"])) ∧
      read "ref A<B.C>?" = .ok (.nullable (.generic "" [] "A" [.plain "B" [] "C"])) := by
  obtain ⟨ts, hunique, haccepts, _⟩ := read_accepts_sentences "ref A<B.C>?"
  obtain rfl := (hunique _).mp cut_sample
  exact ⟨cut_sample, sentence_sample, haccepts _ sentence_sample⟩

end ClassChart.Signature
