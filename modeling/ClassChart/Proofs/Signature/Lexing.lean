import ClassChart.Proofs.Signature.Grammar
import ClassChart.Proofs.Text.CharacterClass

/-! How a text is cut into the tokens of the grammar. Every text is cut in exactly one way. The
scanner also takes a superscript or a fraction for the start of a word, where the grammar has a
token of one character; no sentence holds either, and on sentences the two agree. -/
namespace ClassChart.Signature
open Text

/-- `Word s t rest`: the text `s` starts with the identifier `t`, taken as far as it goes. -/
inductive Word : List Char → Token → List Char → Prop
  | intro {c : Char} {w rest : List Char} (hc : isNameStart c = true)
      (hw : ∀ d ∈ w, isWordChar d = true) (hr : ∀ d ∈ rest.head?, isWordChar d = false) :
      Word (c :: (w ++ rest)) (.word (String.ofList (c :: w))) rest

def startsName : List Char → Bool
  | c :: _ => isNameStart c
  | [] => false

/-- `Lexeme s t rest`: the text `s` starts with the token `t`, and `rest` is left. -/
inductive Lexeme : List Char → Token → List Char → Prop
  | scope (rest : List Char) : Lexeme (':' :: ':' :: rest) .scope rest
  | word {s rest : List Char} {t : Token} (h : Word s t rest) : Lexeme s t rest
  | verbatim {s rest : List Char} {t : Token} (h : Word s t rest) : Lexeme ('@' :: s) t rest
  | mark {c : Char} {rest : List Char} (hb : isBlank c = false) (hn : isNameStart c = false)
      (hs : ¬(c = ':' ∧ rest.head? = some ':')) (hv : ¬(c = '@' ∧ startsName rest = true)) :
      Lexeme (c :: rest) (.mark c) rest

/-- `Cut s ts`: the text `s` is cut into the tokens `ts`, with blanks between them ignored. -/
inductive Cut : List Char → List Token → Prop
  | nil : Cut [] []
  | blank {c : Char} {s : List Char} {ts : List Token} (hb : isBlank c = true) (h : Cut s ts) :
      Cut (c :: s) ts
  | token {s rest : List Char} {t : Token} {ts : List Token} (hl : Lexeme s t rest)
      (h : Cut rest ts) : Cut s (t :: ts)

/- A word is the longest run, so both its text and what is left are functions of the whole. -/
theorem Word.eq {s rest : List Char} {t : Token} (h : Word s t rest) :
    ∃ c r, s = c :: r ∧ isNameStart c = true ∧
      t = .word (String.ofList (c :: r.takeWhile isWordChar)) ∧ rest = r.dropWhile isWordChar := by
  obtain ⟨hc, hw, hr⟩ := h
  exact ⟨_, _, rfl, hc, by rw [takeWhile_run hw hr], (dropWhile_run hw hr).symm⟩

theorem word_exists (c : Char) (r : List Char) (hc : isNameStart c = true) :
    Word (c :: r) (.word (String.ofList (c :: r.takeWhile isWordChar)))
      (r.dropWhile isWordChar) := by
  have h := Word.intro hc (takeWhile_all r) (head_dropWhile r)
  rwa [List.takeWhile_append_dropWhile] at h

theorem Word.unique {s rest rest' : List Char} {t t' : Token} (h : Word s t rest)
    (h' : Word s t' rest') : t = t' ∧ rest = rest' := by
  obtain ⟨c, r, hs, hc, ht, hrest⟩ := h.eq
  obtain ⟨c', r', hs', hc', ht', hrest'⟩ := h'.eq
  obtain ⟨rfl, rfl⟩ := List.cons.inj (hs.symm.trans hs')
  exact ⟨ht.trans ht'.symm, hrest.trans hrest'.symm⟩

theorem Word.startsName {s rest : List Char} {t : Token} (h : Word s t rest) :
    startsName s = true := by
  obtain ⟨hc, hw, hr⟩ := h
  exact hc

theorem not_startsName_colon (s : List Char) : startsName (':' :: s) ≠ true := by
  rw [startsName]
  decide

theorem not_startsName_at (s : List Char) : startsName ('@' :: s) ≠ true := by
  rw [startsName]
  decide

theorem Lexeme.not_blank {c : Char} {s rest : List Char} {t : Token} (h : Lexeme (c :: s) t rest) :
    isBlank c = false := by
  cases h with
  | scope rest => decide
  | word h => exact not_blank_of_wordChar c (wordChar_of_nameStart c h.startsName)
  | verbatim h => decide
  | mark hb hn hs hv => exact hb

theorem Lexeme.unique {s rest rest' : List Char} {t t' : Token} (h : Lexeme s t rest)
    (h' : Lexeme s t' rest') : t = t' ∧ rest = rest' := by
  cases h with
  | scope rest =>
    cases h' with
    | scope => exact ⟨rfl, rfl⟩
    | word h' => exact absurd h'.startsName (not_startsName_colon _)
    | mark hb hn hs hv => exact absurd ⟨rfl, rfl⟩ hs
  | word h =>
    cases h' with
    | scope => exact absurd h.startsName (not_startsName_colon _)
    | word h' => exact h.unique h'
    | verbatim h' => exact absurd h.startsName (not_startsName_at _)
    | mark hb hn hs hv => exact absurd h.startsName (by simpa [startsName] using hn)
  | verbatim h =>
    cases h' with
    | word h' => exact absurd h'.startsName (not_startsName_at _)
    | verbatim h' => exact h.unique h'
    | mark hb hn hs hv => exact absurd ⟨rfl, h.startsName⟩ hv
  | mark hb hn hs hv =>
    cases h' with
    | scope => exact absurd ⟨rfl, rfl⟩ hs
    | word h' => exact absurd h'.startsName (by simpa [startsName] using hn)
    | verbatim h' => exact absurd ⟨rfl, h'.startsName⟩ hv
    | mark => exact ⟨rfl, rfl⟩

theorem Cut.unique {s : List Char} {ts us : List Token} (h : Cut s ts) (h' : Cut s us) :
    ts = us := by
  induction h generalizing us with
  | nil =>
    cases h' with
    | nil => rfl
    | token hl h' => cases hl; contradiction
  | blank hb h ih =>
    cases h' with
    | blank hb' h' => exact ih h'
    | token hl h' => simp [hl.not_blank] at hb
  | token hl h ih =>
    cases h' with
    | nil => cases hl; contradiction
    | blank hb h' => simp [hl.not_blank] at hb
    | token hl' h' =>
      obtain ⟨rfl, rfl⟩ := hl.unique hl'
      rw [ih h']

section
variable {s rest after : List Char} {t : Token} (hword : ∀ c ∈ after.head?, isWordChar c = false)
include hword

theorem head_append (hrest : ∀ c ∈ rest.head?, isWordChar c = false) :
    ∀ c ∈ (rest ++ after).head?, isWordChar c = false := by
  cases rest with
  | nil => exact hword
  | cons d rest => exact hrest

theorem Word.append (h : Word s t rest) : Word (s ++ after) t (rest ++ after) := by
  obtain ⟨hc, hw, hr⟩ := h
  rw [List.cons_append, List.append_assoc]
  exact .intro hc hw (head_append hword hr)

variable (hcolon : after.head? ≠ some ':')
include hcolon

/- Neither a word nor `::` nor `@` goes on in a text that starts with another character. -/
theorem Lexeme.append (h : Lexeme s t rest) : Lexeme (s ++ after) t (rest ++ after) := by
  cases h with
  | scope rest => exact .scope _
  | word h => exact .word (h.append hword)
  | verbatim h => exact .verbatim (h.append hword)
  | mark hb hn hs hv =>
    refine .mark hb hn ?_ ?_
    · cases rest with
      | nil => exact fun h => hcolon h.2
      | cons d rest => exact hs
    · cases rest with
      | nil =>
        rintro ⟨_, hname⟩
        cases after with
        | nil => simp [startsName] at hname
        | cons d after =>
          have hd := hword d rfl
          rw [wordChar_of_nameStart d hname] at hd
          contradiction
      | cons d rest => exact hv

theorem Cut.append {ts us : List Token} (h : Cut s ts) (hafter : Cut after us) :
    Cut (s ++ after) (ts ++ us) := by
  induction h with
  | nil => exact hafter
  | blank hb h ih => exact .blank hb ih
  | token hl h ih => exact .token (hl.append hword hcolon) ih

end

section
variable {c : Char} (hc : (Token.mark c).inGrammar = true)
include hc

theorem lexeme_mark (rest : List Char) : Lexeme (c :: rest) (.mark c) rest := by
  have hmark : c ∈ ['(', ')', '<', '>', '[', ']', ',', '.', '?', '*'] := of_decide_eq_true hc
  simp only [List.mem_cons, List.not_mem_nil, or_false] at hmark
  rcases hmark with rfl | rfl | rfl | rfl | rfl | rfl | rfl | rfl | rfl | rfl <;>
    exact .mark (by decide) (by decide) (by simp) (by simp)

theorem Cut.append_mark {s after : List Char} {ts us : List Token} (h : Cut s ts)
    (hafter : Cut after us) : Cut (s ++ c :: after) (ts ++ .mark c :: us) := by
  have hmark : c ∈ ['(', ')', '<', '>', '[', ']', ',', '.', '?', '*'] := of_decide_eq_true hc
  have hword : isWordChar c = false ∧ c ≠ ':' := by
    simp only [List.mem_cons, List.not_mem_nil, or_false] at hmark
    rcases hmark with rfl | rfl | rfl | rfl | rfl | rfl | rfl | rfl | rfl | rfl <;> decide
  have hrest := Cut.token (lexeme_mark hc after) hafter
  exact h.append (by simpa using hword.1) (by simpa using hword.2) hrest

end

theorem lexeme_exists (c : Char) (s : List Char) (hb : isBlank c = false) :
    ∃ t rest, Lexeme (c :: s) t rest ∧ rest.length ≤ s.length := by
  have hdrop (r : List Char) : (r.dropWhile isWordChar).length ≤ r.length :=
    (List.dropWhile_suffix isWordChar).length_le
  by_cases hs : c = ':' ∧ s.head? = some ':'
  · obtain ⟨rfl, hcolon⟩ := hs
    obtain ⟨rest, rfl⟩ := List.head?_eq_some_iff.mp hcolon
    exact ⟨_, _, .scope rest, by simp⟩
  by_cases hn : isNameStart c = true
  · exact ⟨_, _, .word (word_exists c s hn), hdrop s⟩
  by_cases hv : c = '@' ∧ startsName s = true
  · obtain ⟨rfl, hname⟩ := hv
    cases s with
    | nil => simp [startsName] at hname
    | cons d r => exact ⟨_, _, .verbatim (word_exists d r hname), Nat.le_succ_of_le (hdrop r)⟩
  exact ⟨_, _, .mark hb (by simpa using hn) hs hv, Nat.le_refl _⟩

theorem cut_exists (s : List Char) : ∃ ts, Cut s ts := by
  induction h : s.length using Nat.strongRecOn generalizing s with
  | ind n ih =>
    cases s with
    | nil => exact ⟨[], .nil⟩
    | cons c s =>
      cases hb : isBlank c with
      | true =>
        obtain ⟨ts, hts⟩ := ih s.length (by simp [← h]) s rfl
        exact ⟨ts, .blank hb hts⟩
      | false =>
        obtain ⟨t, rest, hl, hlen⟩ := lexeme_exists c s hb
        obtain ⟨ts, hts⟩ := ih rest.length (by simp only [List.length_cons] at h; omega) rest rfl
        exact ⟨t :: ts, .token hl hts⟩

theorem tokens_nil : tokens [] = [] := by
  rw [tokens.eq_def]

theorem tokens_cons (c : Char) (s : List Char) : tokens (c :: s) =
    if isBlank c then tokens s
    else if c = ':' ∧ s.head? = some ':' then .scope :: tokens s.tail
    else if isWordStart c then
      .word (String.ofList (c :: s.takeWhile isWordChar)) :: tokens (s.dropWhile isWordChar)
    else if c = '@' ∧ startsWord s then tokens s
    else .mark c :: tokens s := by
  rw [tokens.eq_def]

theorem tokens_blank (c : Char) (s : List Char) (hb : isBlank c = true) :
    tokens (c :: s) = tokens s := by
  rw [tokens_cons, if_pos hb]

theorem tokens_scope (s : List Char) : tokens (':' :: ':' :: s) = .scope :: tokens s := by
  rw [tokens_cons, if_neg (by decide), if_pos ⟨rfl, rfl⟩]
  rfl

theorem ne_colon_of_wordStart (c : Char) (hc : isWordStart c = true) : c ≠ ':' :=
  ne_of_apply_ne isWordStart (by rw [hc]; decide)

theorem tokens_word (c : Char) (s : List Char) (hw : isWordStart c = true) : tokens (c :: s) =
      .word (String.ofList (c :: s.takeWhile isWordChar)) :: tokens (s.dropWhile isWordChar) := by
  have hb := not_blank_of_wordChar c (wordChar_of_wordStart c hw)
  rw [tokens_cons, if_neg (by simp [hb]), if_neg (fun h => ne_colon_of_wordStart c hw h.1), if_pos hw]

theorem tokens_verbatim (s : List Char) (h : startsWord s = true) :
    tokens ('@' :: s) = tokens s := by
  rw [tokens_cons, if_neg (by decide), if_neg (by simp), if_neg (by decide), if_pos ⟨rfl, h⟩]

theorem tokens_mark (c : Char) (s : List Char) (hb : isBlank c = false)
    (hs : ¬(c = ':' ∧ s.head? = some ':')) (hw : isWordStart c = false)
    (hv : ¬(c = '@' ∧ startsWord s = true)) : tokens (c :: s) = .mark c :: tokens s := by
  rw [tokens_cons, if_neg (by simp [hb]), if_neg hs, if_neg (by simp [hw]), if_neg hv]

theorem tokens_of_word {s rest : List Char} {t : Token} (h : Word s t rest) :
    tokens s = t :: tokens rest := by
  obtain ⟨c, r, rfl, hc, rfl, rfl⟩ := h.eq
  exact tokens_word c r (wordStart_of_nameStart c hc)

theorem head_not_inGrammar (c : Char) (s : List Char) (hn : isNameStart c = false)
    (hw : isWordStart c = true) : ∃ t ∈ tokens (c :: s), t.inGrammar = false := by
  rw [tokens_word c s hw]
  refine ⟨_, List.mem_cons_self .., ?_⟩
  simpa [Token.inGrammar, Token.isIdentifier] using hn

theorem mark_not_inGrammar (c : Char) (h : isWordStart c = true ∨ c = '@') :
    (Token.mark c).inGrammar = false := by
  simp only [Token.inGrammar, decide_eq_false_iff_not, List.mem_cons, List.not_mem_nil, or_false]
  rintro (rfl | rfl | rfl | rfl | rfl | rfl | rfl | rfl | rfl | rfl) <;> revert h <;> decide

theorem startsWord_of_startsName (s : List Char) (h : startsName s = true) :
    startsWord s = true := by
  cases s with
  | nil => simp [startsName] at h
  | cons c s => exact wordStart_of_nameStart c h

/-- On a text whose tokens, however cut, are all of the grammar, the scanner cuts as the grammar
does. -/
theorem tokens_eq_of_cut {s : List Char} {ts : List Token} (h : Cut s ts)
    (hg : (∀ t ∈ ts, t.inGrammar = true) ∨ ∀ t ∈ tokens s, t.inGrammar = true) :
    tokens s = ts := by
  induction h with
  | nil => exact tokens_nil
  | blank hb h ih =>
    rw [tokens_blank _ _ hb] at hg ⊢
    exact ih hg
  | @token s rest t ts hl h ih =>
    have tail (heq : tokens s = t :: tokens rest) : tokens s = t :: ts := by
      rw [heq, List.forall_mem_cons, List.forall_mem_cons] at hg
      rw [heq, ih (hg.imp And.right And.right)]
    cases hl with
    | scope => exact tail (tokens_scope rest)
    | word hw => exact tail (tokens_of_word hw)
    | verbatim hw =>
      refine tail ?_
      rw [tokens_verbatim _ (startsWord_of_startsName _ hw.startsName), tokens_of_word hw]
    | @mark c _ hb hn hs hv =>
      /- The two differ only where a word starts with no letter, and then both have a token that is
         not of the grammar. -/
      have outside (hc : isWordStart c = true ∨ c = '@')
          (ht : ∃ u ∈ tokens (c :: rest), u.inGrammar = false) : False := by
        obtain ⟨u, hu, hfalse⟩ := ht
        rcases hg with hg | hg
        · have := hg _ (List.mem_cons_self ..)
          simp [mark_not_inGrammar c hc] at this
        · simp [hg u hu] at hfalse
      by_cases hw : isWordStart c = true
      · exact (outside (.inl hw) (head_not_inGrammar c rest hn hw)).elim
      by_cases hword : c = '@' ∧ startsWord rest = true
      · obtain ⟨rfl, hrest⟩ := hword
        cases rest with
        | nil => simp [startsWord] at hrest
        | cons d r =>
          have hd : isNameStart d = false := by simpa [startsName] using hv
          refine (outside (.inr rfl) ?_).elim
          rw [tokens_verbatim _ hrest]
          exact head_not_inGrammar d r hd hrest
      exact tail (tokens_mark c rest hb hs (by simpa using hw) hword)

end ClassChart.Signature
