import ClassChart.Proofs.Signature.Lexing

/-! What the scanner makes of the layout of a text. It passes over white space and over the `@` right
before a word; every other character goes into a token, in its place. White space ends the token before
it, whatever that is, so the texts on its two sides are scanned apart. -/
namespace ClassChart.Signature
open Text

def isPassed (c : Char) (rest : List Char) : Bool := isBlank c || (c == '@' && startsWord rest)

/-- The text without white space and without each `@` that stands right before a word. -/
def kept : List Char → List Char
  | [] => []
  | c :: rest => if isPassed c rest then kept rest else c :: kept rest

/-- The forms of a token, given what follows it: `::`; a word, which goes on as far as there are word
characters; and a single other character. -/
inductive Token.Whole : Token → List Char → Prop
  | scope (rest : List Char) : Whole .scope rest
  | word {c : Char} {w rest : List Char} (hc : isWordStart c = true)
      (hw : ∀ d ∈ w, isWordChar d = true) (hr : ∀ d ∈ rest.head?, isWordChar d = false) :
      Whole (.word (String.ofList (c :: w))) rest
  | mark {c : Char} {rest : List Char} (hp : isPassed c rest = false) (hw : isWordStart c = false)
      (hs : ¬(c = ':' ∧ rest.head? = some ':')) : Whole (.mark c) rest

/-- `Scan s ts`: the tokens `ts` fill the text `s`, but for the characters that are passed over. Words
are those of the scanner here, which `Cut` has only where they start with a letter. -/
inductive Scan : List Char → List Token → Prop
  | nil : Scan [] []
  | pass {c : Char} {s : List Char} {ts : List Token} (hc : isPassed c s = true) (h : Scan s ts) :
      Scan (c :: s) ts
  | token {t : Token} {rest : List Char} {ts : List Token} (ht : t.Whole rest) (h : Scan rest ts) :
      Scan (t.text.toList ++ rest) (t :: ts)

theorem isPassed_of_blank {c : Char} (hb : isBlank c = true) (rest : List Char) :
    isPassed c rest = true := by
  rw [isPassed, hb, Bool.true_or]

theorem not_passed_of_wordChar {c : Char} (hc : isWordChar c = true) (rest : List Char) :
    isPassed c rest = false := by
  have hat : c ≠ '@' := ne_of_apply_ne isWordChar (by rw [hc]; decide)
  simp [isPassed, not_blank_of_wordChar c hc, hat]

theorem toList_text_word (w : List Char) : (Token.word (String.ofList w)).text.toList = w :=
  String.toList_ofList

theorem toList_text_mark (c : Char) : (Token.mark c).text.toList = [c] := by
  rw [Token.text, String.toList_singleton]

theorem scan_tokens (s : List Char) : Scan s (tokens s) := by
  fun_induction tokens s with
  | case1 => exact .nil
  | case2 c rest hb ih => exact .pass (isPassed_of_blank hb rest) ih
  | case3 c rest hb hs ih =>
    obtain ⟨rfl, hcolon⟩ := hs
    obtain ⟨rest, rfl⟩ := List.head?_eq_some_iff.mp hcolon
    exact .token (.scope rest) ih
  | case4 c rest hb hs hw ih =>
    -- the word and what is left make up the text again
    have hwhole : (Token.word (String.ofList (c :: rest.takeWhile isWordChar))).Whole
        (rest.dropWhile isWordChar) := .word hw (takeWhile_all rest) (head_dropWhile rest)
    have hscan := Scan.token hwhole ih
    rwa [toList_text_word, List.cons_append, List.takeWhile_append_dropWhile] at hscan
  | case5 c rest hb hs hw hv ih =>
    refine .pass ?_ ih
    simp [isPassed, hv]
  | case6 c rest hb hs hw hv ih =>
    have hpassed : isPassed c rest = false := by
      simpa [isPassed, hb] using hv
    have hscan := Scan.token (.mark hpassed (by simpa using hw) hs) ih
    rwa [toList_text_mark] at hscan

theorem Token.Whole.tokens_eq {t : Token} {rest : List Char} (h : t.Whole rest) :
    tokens (t.text.toList ++ rest) = t :: tokens rest := by
  cases h with
  | scope => exact tokens_scope rest
  | @word c w _ hc hw hr =>
    rw [toList_text_word, List.cons_append, tokens_word c _ hc, takeWhile_run hw hr,
      dropWhile_run hw hr]
  | @mark c _ hp hw hs =>
    obtain ⟨hb, hv⟩ := Bool.or_eq_false_iff.mp hp
    rw [toList_text_mark, List.singleton_append, tokens_mark c rest hb hs hw (by simpa using hv)]

theorem Scan.tokens_eq {s : List Char} {ts : List Token} (h : Scan s ts) : tokens s = ts := by
  induction h with
  | nil => exact tokens_nil
  | @pass c s ts hc h ih =>
    rcases Bool.or_eq_true_iff.mp hc with hb | hv
    · rw [tokens_blank c s hb, ih]
    · obtain ⟨hat, hword⟩ := Bool.and_eq_true_iff.mp hv
      rw [eq_of_beq hat, tokens_verbatim s hword, ih]
  | token ht h ih => rw [ht.tokens_eq, ih]

theorem tokens_eq_iff_scan {s : List Char} {ts : List Token} : tokens s = ts ↔ Scan s ts := by
  constructor
  · intro h
    rw [← h]
    exact scan_tokens s
  · exact Scan.tokens_eq

/-! What the tokens of a text are made of. -/

section
variable {t : Token} {rest : List Char} (h : t.Whole rest)
include h

theorem Token.Whole.ne_empty : t.text ≠ "" := by
  rw [Ne, ← String.toList_eq_nil_iff]
  cases h with
  | scope => decide
  | word =>
    rw [toList_text_word]
    exact List.cons_ne_nil _ _
  | mark =>
    rw [toList_text_mark]
    exact List.cons_ne_nil _ _

theorem Token.Whole.unblank : ∀ c ∈ t.text.toList, isBlank c = false := by
  cases h with
  | scope => exact List.forall_mem_cons.mpr ⟨by decide, List.forall_mem_singleton.mpr (by decide)⟩
  | @word c w _ hc hw =>
    rw [toList_text_word, List.forall_mem_cons]
    have hhead := not_blank_of_wordChar c (wordChar_of_wordStart c hc)
    exact ⟨hhead, fun d hd => not_blank_of_wordChar d (hw d hd)⟩
  | mark hp =>
    rw [toList_text_mark, List.forall_mem_singleton]
    exact (Bool.or_eq_false_iff.mp hp).1

end

theorem kept_passed {c : Char} {s : List Char} (h : isPassed c s = true) :
    kept (c :: s) = kept s := by
  rw [kept, if_pos h]

theorem kept_cons {c : Char} {s : List Char} (h : isPassed c s = false) :
    kept (c :: s) = c :: kept s := by
  rw [kept, if_neg (by simp [h])]

theorem kept_word {w : List Char} (hw : ∀ c ∈ w, isWordChar c = true) (rest : List Char) :
    kept (w ++ rest) = w ++ kept rest := by
  induction w with
  | nil => rfl
  | cons c w ih =>
    obtain ⟨hc, hw⟩ := List.forall_mem_cons.mp hw
    rw [List.cons_append, kept_cons (not_passed_of_wordChar hc _), ih hw, List.cons_append]

theorem Token.Whole.kept_append {t : Token} {rest : List Char} (h : t.Whole rest) :
    kept (t.text.toList ++ rest) = t.text.toList ++ kept rest := by
  cases h with
  | scope =>
    have hcolon (s : List Char) : isPassed ':' s = false := by
      rw [isPassed, Bool.or_eq_false_iff]
      exact ⟨by decide, by simp⟩
    exact (kept_cons (hcolon _)).trans (congrArg (':' :: ·) (kept_cons (hcolon _)))
  | word hc hw =>
    rw [toList_text_word]
    exact kept_word (List.forall_mem_cons.mpr ⟨wordChar_of_wordStart _ hc, hw⟩) rest
  | mark hp =>
    rw [toList_text_mark]
    exact kept_cons hp

theorem Scan.flatMap_text {s : List Char} {ts : List Token} (h : Scan s ts) :
    (ts.flatMap fun t => t.text.toList) = kept s := by
  induction h with
  | nil => rfl
  | pass hc h ih => rw [ih, kept_passed hc]
  | token ht h ih => rw [List.flatMap_cons, ih, ht.kept_append]

theorem Scan.whole {s : List Char} {ts : List Token} (h : Scan s ts) :
    ∀ t ∈ ts, ∃ rest, t.Whole rest := by
  induction h with
  | nil => simp
  | pass hc h ih => exact ih
  | token ht h ih => exact List.forall_mem_cons.mpr ⟨⟨_, ht⟩, ih⟩

theorem Scan.place {s : List Char} {before after : List Token} {t : Token}
    (h : Scan s (before ++ t :: after)) :
    ∃ front rest, s = front ++ t.text.toList ++ rest ∧ t.Whole rest ∧ tokens rest = after := by
  generalize hts : before ++ t :: after = ts at h
  induction h generalizing before with
  | nil => simp at hts
  | @pass c s ts hc h ih =>
    obtain ⟨front, rest, rfl, hplace⟩ := ih hts
    exact ⟨c :: front, rest, rfl, hplace⟩
  | @token u rest ts hu h ih =>
    cases before with
    | nil =>
      obtain ⟨rfl, rfl⟩ := List.cons.inj hts
      exact ⟨[], rest, rfl, hu, h.tokens_eq⟩
    | cons v before =>
      obtain ⟨front, rest, rfl, hplace⟩ := ih (List.cons.inj hts).2
      exact ⟨u.text.toList ++ front, rest, by simp only [List.append_assoc], hplace⟩

/-! White space between two texts. -/

section
variable {b : Char} (hb : isBlank b = true)
include hb

theorem not_wordChar_of_blank : isWordChar b = false := by
  cases hw : isWordChar b with
  | false => rfl
  | true => simp [not_blank_of_wordChar b hw] at hb

theorem not_wordStart_of_blank : isWordStart b = false := by
  rw [isWordStart, not_wordChar_of_blank hb, Bool.false_and]

theorem isPassed_append (c : Char) (s rest : List Char) :
    isPassed c (s ++ b :: rest) = isPassed c s := by
  cases s with
  | nil => simp [isPassed, startsWord, not_wordStart_of_blank hb]
  | cons d s => rfl

theorem Token.Whole.append {t : Token} {s : List Char} (h : t.Whole s) (rest : List Char) :
    t.Whole (s ++ b :: rest) := by
  have hcolon : b ≠ ':' := ne_of_apply_ne isBlank (by rw [hb]; decide)
  have hword := not_wordChar_of_blank hb
  cases h with
  | scope => exact .scope _
  | word hc hw hr => exact .word hc hw (head_append (by simpa using hword) hr)
  | mark hp hw hs =>
    refine .mark (by rwa [isPassed_append hb]) hw ?_
    cases s with
    | nil => simp [hcolon]
    | cons d s => exact hs

theorem Scan.append {s rest : List Char} {ts us : List Token} (h : Scan s ts) (h' : Scan rest us) :
    Scan (s ++ b :: rest) (ts ++ us) := by
  induction h with
  | nil => exact .pass (isPassed_of_blank hb rest) h'
  | pass hc h ih => exact .pass ((isPassed_append hb _ _ rest).trans hc) ih
  | token ht h ih =>
    rw [List.append_assoc]
    exact .token (ht.append hb rest) ih

theorem tokens_append_blank (s rest : List Char) :
    tokens (s ++ b :: rest) = tokens s ++ tokens rest :=
  ((scan_tokens s).append hb (scan_tokens rest)).tokens_eq

end

section
variable {gap : List Char} (hgap : ∀ c ∈ gap, isBlank c = true)
include hgap

theorem tokens_gap_append (s : List Char) : tokens (gap ++ s) = tokens s := by
  induction gap with
  | nil => rfl
  | cons b gap ih =>
    obtain ⟨hb, hgap⟩ := List.forall_mem_cons.mp hgap
    rw [List.cons_append, tokens_blank b _ hb, ih hgap]

theorem tokens_append_gap (hne : gap ≠ []) (s rest : List Char) :
    tokens (s ++ gap ++ rest) = tokens s ++ tokens rest := by
  obtain ⟨b, gap, rfl⟩ := List.exists_cons_of_ne_nil hne
  obtain ⟨hb, hgap⟩ := List.forall_mem_cons.mp hgap
  rw [List.append_assoc, List.cons_append, tokens_append_blank hb, tokens_gap_append hgap]

theorem tokens_before_gap (s : List Char) : tokens (s ++ gap) = tokens s := by
  by_cases hne : gap = []
  · rw [hne, List.append_nil]
  · have hsplit := tokens_append_gap hgap hne s []
    rwa [List.append_nil, tokens_nil, List.append_nil] at hsplit

end

/-- The scanner loses nothing and makes nothing up. No token is empty or holds white space, and side by
side the tokens are the text without its white space and without the `@` of words. Each stands in the
text as a whole token. How much white space parts two texts does not matter, as long as there is some,
nor does white space at the ends. -/
theorem tokens_keep_text (s : List Char) :
    (∀ t ∈ tokens s, t.text ≠ "" ∧ ∀ c ∈ t.text.toList, isBlank c = false) ∧
      ((tokens s).flatMap fun t => t.text.toList) = kept s ∧
      (∀ before t after, tokens s = before ++ t :: after → ∃ front rest,
        s = front ++ t.text.toList ++ rest ∧ t.Whole rest ∧ tokens rest = after) ∧
      (∀ front gap gap' rest, s = front ++ gap ++ rest → gap ≠ [] → gap' ≠ [] →
        (∀ c ∈ gap, isBlank c = true) → (∀ c ∈ gap', isBlank c = true) →
        tokens (front ++ gap' ++ rest) = tokens s) ∧
      ∀ gap gap', (∀ c ∈ gap, isBlank c = true) → (∀ c ∈ gap', isBlank c = true) →
        tokens (gap ++ s ++ gap') = tokens s := by
  have hscan := scan_tokens s
  refine ⟨fun t ht => ?_, hscan.flatMap_text, fun before t after heq => ?_,
    fun front gap gap' rest hs hne hne' hgap hgap' => ?_, fun gap gap' hgap hgap' => ?_⟩
  · obtain ⟨rest, hwhole⟩ := hscan.whole t ht
    exact ⟨hwhole.ne_empty, hwhole.unblank⟩
  · exact (tokens_eq_iff_scan.mp heq).place
  · rw [hs, tokens_append_gap hgap hne, tokens_append_gap hgap' hne']
  · rw [tokens_before_gap hgap', tokens_gap_append hgap]

/-- The first `@` belongs to a word and the second to none, since no word starts with a digit. -/
def marked : List Char := ['@', 'a', ' ', ':', ':', 'b', '²', '@', '1']

theorem tokens_marked :
    tokens marked = [.word "a", .scope] ++ .word "b²" :: [.mark '@', .mark '1'] := by decide +kernel

theorem tokens_keep_text_of_marked :
    (Token.word "b²" ∈ tokens marked ∧ (∀ c ∈ [' '], isBlank c = true) ∧
        ∀ c ∈ ['\t', '\u3000'], isBlank c = true) ∧
      (∀ c ∈ ['b', '²'], isBlank c = false) ∧
      (∃ front rest, marked = front ++ ['b', '²'] ++ rest ∧ (Token.word "b²").Whole rest ∧
        tokens rest = [.mark '@', .mark '1']) ∧
      tokens ['@', 'a', '\t', '\u3000', ':', ':', 'b', '²', '@', '1'] = tokens marked ∧
      tokens ([' '] ++ marked ++ ['\t', '\u3000']) = tokens marked := by
  have hword : Token.word "b²" ∈ tokens marked := by simp [tokens_marked]
  have hgap : ∀ c ∈ [' '], isBlank c = true := List.all_eq_true.mp rfl
  have hgap' : ∀ c ∈ ['\t', '\u3000'], isBlank c = true := List.all_eq_true.mp rfl
  obtain ⟨hforms, _, hplaces, hbetween, hends⟩ := tokens_keep_text marked
  exact ⟨⟨hword, hgap, hgap'⟩, (hforms _ hword).2, hplaces _ _ _ tokens_marked,
    hbetween ['@', 'a'] [' '] _ [':', ':', 'b', '²', '@', '1'] rfl (List.cons_ne_nil _ _)
      (List.cons_ne_nil _ _) hgap hgap',
    hends _ _ hgap hgap'⟩

end ClassChart.Signature
