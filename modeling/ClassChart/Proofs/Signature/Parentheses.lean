import ClassChart.Proofs.Signature.Acceptance

/-! Parentheses in type texts hold the elements of a tuple, and there are always some. A text that
is read has therefore no `()` in it. -/
namespace ClassChart.Signature

def Filled : List Token → Prop
  | [] => True
  | t :: rest => (t = .mark '(' → ∃ u ∈ rest.head?, u ≠ .mark ')') ∧ Filled rest

namespace Filled

variable {ts us : List Token}

theorem cons {t : Token} (ht : t ≠ .mark '(') (h : Filled ts) : Filled (t :: ts) :=
  ⟨fun heq => absurd heq ht, h⟩

theorem append (h : Filled ts) (hu : Filled us) : Filled (ts ++ us) := by
  induction ts with
  | nil => exact hu
  | cons t rest ih =>
    refine ⟨fun ht => ?_, ih h.2⟩
    obtain ⟨u, hhead, hne⟩ := h.1 ht
    cases rest with
    | nil => simp at hhead
    | cons v rest => exact ⟨u, hhead, hne⟩

theorem of_forall_ne (h : ∀ t ∈ ts, t ≠ .mark '(') : Filled ts := by
  induction ts with
  | nil => trivial
  | cons t rest ih =>
    obtain ⟨ht, hrest⟩ := List.forall_mem_cons.mp h
    exact cons ht (ih hrest)

theorem ne_mark {t : Token} (ht : t.isIdentifier = true) (c : Char) : t ≠ .mark c := by
  rintro rfl
  simp [Token.isIdentifier] at ht

theorem commas (n : Nat) : Filled (commas n) :=
  of_forall_ne fun t ht => by simp [List.eq_of_mem_replicate ht]

theorem suffixes {e f : TypeExpr} {ts : List Token} (h : Suffixes e ts f) : Filled ts := by
  induction h with
  | none e => trivial
  | nullable h ih | pointer h ih => exact cons (by simp) ih
  | array n h ih => exact cons (by simp) ((commas n).append (cons (by simp) ih))

theorem tuple {es : List TypeExpr} (hs : Spells ts (.elements es)) (h : Filled ts)
    (hu : Filled us) : Filled (.mark '(' :: (ts ++ .mark ')' :: us)) := by
  refine ⟨fun _ => ?_, h.append (cons (by simp) hu)⟩
  obtain ⟨t, rest, rfl, ht⟩ := hs.head
  refine ⟨t, rfl, ?_⟩
  rcases ht with ht | rfl
  · exact ne_mark ht ')'
  · simp

theorem phrase {p : Phrase} (h : Spells ts p) : Filled ts := by
  induction h with
  | tuple h hs ih => exact tuple h ih (suffixes hs)
  | named h hs ih => exact ih.append (suffixes hs)
  | bareElement h ih | lastElement h ih | lastSegment h ih | lastArgument h ih => exact ih
  | namedElement h ht ih => exact ih.append (cons (ne_mark ht '(') trivial)
  | moreElements h hs ih ihs | moreArguments h hs ih ihs => exact ih.append (cons (by simp) ihs)
  | moreSegments h ht hs ih ihs =>
    refine ih.append (cons ?_ ihs)
    rcases ht with rfl | rfl
    · simp
    · simp
  | plain ht => exact cons (ne_mark ht '(') trivial
  | unbound n ht =>
    exact cons (ne_mark ht '(') (cons (by simp) ((commas n).append (cons (by simp) trivial)))
  | generic n ht h ih =>
    refine cons (ne_mark ht '(') (cons (by simp) ((commas n).append ?_))
    exact ih.append (cons (by simp) trivial)

theorem sentence {e : TypeExpr} (h : Sentence ts e) : Filled ts := by
  obtain ⟨hm, -, hspells⟩ := h
  refine append (of_forall_ne fun t ht => ?_) (phrase hspells)
  rintro rfl
  have hword := hm _ ht
  simp [isModifierWord] at hword

end Filled

theorem pair_infix_append {w rest : List Char} (hw : '(' ∉ w) (h : ['(', ')'] <:+: w ++ rest) :
    ['(', ')'] <:+: rest := by
  induction w with
  | nil => exact h
  | cons c w ih =>
    obtain ⟨hc, hw⟩ := List.ne_and_not_mem_of_not_mem_cons hw
    rcases List.infix_cons_iff.mp h with hpre | hin
    · exact absurd (List.cons_prefix_cons.mp hpre).1 hc
    · exact ih hw hin

theorem Word.pair_infix {s rest : List Char} {t : Token} (h : Word s t rest)
    (hs : ['(', ')'] <:+: s) : ['(', ')'] <:+: rest := by
  obtain ⟨hc, hw, -⟩ := h
  refine pair_infix_append (w := _ :: _) (fun hmem => ?_) hs
  have hword : Text.isWordChar '(' = true := by
    rcases List.mem_cons.mp hmem with rfl | hmem
    · exact Text.wordChar_of_nameStart _ hc
    · exact hw _ hmem
  revert hword
  decide

theorem Cut.head_closing {s : List Char} {ts : List Token} (h : Cut (')' :: s) ts) :
    ts.head? = some (.mark ')') := by
  cases h with
  | blank hb h => exact absurd hb (by decide)
  | token hl h =>
    cases hl with
    | word h =>
      have hname := h.startsName
      rw [startsName] at hname
      exact absurd hname (by decide)
    | mark hb hn hs hv => rfl

theorem Filled.no_pair {s : List Char} {ts : List Token} (hf : Filled ts) (h : Cut s ts) :
    ¬['(', ')'] <:+: s := by
  induction h with
  | nil => simp
  | @blank c s ts hb h ih =>
    intro hs
    refine ih hf (pair_infix_append (w := [c]) ?_ hs)
    rw [List.mem_singleton]
    rintro rfl
    exact absurd hb (by decide)
  | @token s rest t ts hl h ih =>
    intro hs
    cases hl with
    | scope => exact ih hf.2 (pair_infix_append (w := [':', ':']) (by decide) hs)
    | word hword => exact ih hf.2 (hword.pair_infix hs)
    | verbatim hword =>
      exact ih hf.2 (hword.pair_infix (pair_infix_append (w := ['@']) (by decide) hs))
    | @mark c _ hb hn hcolon hat =>
      rcases List.infix_cons_iff.mp hs with hpre | hin
      · obtain ⟨rfl, hrest⟩ := List.cons_prefix_cons.mp hpre
        obtain ⟨rest, rfl⟩ := hrest
        obtain ⟨u, hu, hne⟩ := hf.1 rfl
        rw [List.singleton_append] at h
        rw [h.head_closing] at hu
        exact hne (Option.some.inj hu).symm
      · exact ih hf.2 hin

theorem no_pair_of_read {text : String} {e : TypeExpr} (h : read text = .ok e) :
    ¬['(', ')'] <:+: text.toList := by
  obtain ⟨ts, hcut⟩ := cut_exists text.toList
  exact (Filled.sentence ((read_eq_ok_iff_sentence text hcut e).mp h)).no_pair hcut

end ClassChart.Signature
