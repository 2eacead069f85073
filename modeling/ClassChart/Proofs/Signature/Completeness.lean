import ClassChart.Proofs.Signature.Grammar

/-! What the grammar spells is read. A reader goes on as long as it can, so a phrase is read in
front of tokens that do not extend it; and it is read with any fuel of four units a token and a few
more. The induction is on the derivation, with one case for each rule. -/
namespace ClassChart.Signature

def EndsName (rest : List Token) : Prop :=
  ∀ t ∈ rest.head?, t ≠ .mark '<' ∧ t ≠ .mark '.' ∧ t ≠ .scope

def EndsType (rest : List Token) : Prop :=
  EndsName rest ∧ ∀ t ∈ rest.head?, t ≠ .mark '?' ∧ t ≠ .mark '*' ∧ t ≠ .mark '['

theorem endsType_nil : EndsType [] := by
  simp [EndsType, EndsName]

theorem endsType_mark (c : Char) (rest : List Token) (hc : c ∈ [',', ')', '>']) :
    EndsType (.mark c :: rest) := by
  simp only [List.mem_cons, List.not_mem_nil, or_false] at hc
  rcases hc with rfl | rfl | rfl <;> simp [EndsType, EndsName]

theorem endsType_identifier (t : Token) (rest : List Token) (ht : t.isIdentifier = true) :
    EndsType (t :: rest) := by
  cases t with
  | word name => simp [EndsType, EndsName]
  | scope | mark c => simp [Token.isIdentifier] at ht

theorem rank_commas (e : TypeExpr) (n : Nat) (ts : List Token) :
    rank e (commas n ++ .mark ']' :: ts) = suffixes (.array e) ts := by
  induction n with
  | zero => simp [commas, rank]
  | succ n ih => simpa [commas, List.replicate_succ, rank] using ih

theorem suffixes_complete {e f : TypeExpr} {ts rest : List Token} (h : Suffixes e ts f)
    (hrest : EndsType rest) : suffixes e (ts ++ rest) = .ok (f, rest) := by
  induction h with
  | none e =>
    cases rest with
    | nil => rfl
    | cons t rest =>
      obtain ⟨hq, hp, hb⟩ := hrest.2 t rfl
      simp [suffixes, hq, hp, hb]
  | nullable h ih => simpa [suffixes] using ih
  | pointer h ih => simpa [suffixes] using ih
  | array n h ih => simpa [suffixes, rank_commas] using ih

theorem Suffixes.endsName {e f : TypeExpr} {ts rest : List Token} (h : Suffixes e ts f)
    (hrest : EndsType rest) : EndsName (ts ++ rest) := by
  cases h with
  | none => exact hrest.1
  | nullable | pointer | array => simp [EndsName]

/-- The phrase is read back from its tokens. -/
def Phrase.ReadFrom (ts : List Token) : Phrase → Prop
  | type e => ∀ fuel rest, 4 * ts.length + 2 ≤ fuel → EndsType rest →
      readType fuel (ts ++ rest) = .ok (e, rest)
  | element e => ∀ fuel c rest, 4 * ts.length + 2 ≤ fuel → c ∈ [',', ')'] →
      ∃ after, readType fuel (ts ++ .mark c :: rest) = .ok (e, after) ∧
        dropName after = .mark c :: rest
  | elements es => ∀ fuel rest, 4 * ts.length + 3 ≤ fuel →
      readElements fuel (ts ++ .mark ')' :: rest) = .ok (es, rest)
  | name earlier last => ∀ fuel rest, 4 * ts.length + 1 ≤ fuel → EndsName rest →
      readSegments fuel (ts ++ rest) = .ok (earlier, last, rest)
  | segment s => ∃ t us, ts = t :: us ∧ t.isIdentifier = true ∧ s.1 = t.text ∧
      ∀ fuel rest, 4 * us.length + 1 ≤ fuel → rest.head? ≠ some (.mark '<') →
        readOptional fuel (us ++ rest) = .ok (s.2, rest)
  | arguments es => ∀ fuel rest, 4 * ts.length + 3 ≤ fuel →
      readArgumentList fuel (ts ++ .mark '>' :: rest) = .ok (es, rest)

section
variable {ts us rest : List Token} {e : TypeExpr} {es : List TypeExpr}

theorem readType_tuple (fuel : Nat) (hes : readElements fuel ts = .ok (es, us)) :
    readType (fuel + 1) (.mark '(' :: ts) = suffixes (.tuple es) us := by
  simp [readType, hes]

theorem readType_name (fuel : Nat) {earlier : List Segment} {last : Segment}
    (hparen : ts.head? ≠ some (.mark '('))
    (hname : readSegments fuel ts = .ok (earlier, last, us)) :
    readType (fuel + 1) ts = suffixes (ofSegments earlier last) us := by
  unfold readType
  split
  · simp at hparen
  · simp [hname]

theorem readElements_more (fuel : Nat) {more : List Token} (hone : readType fuel ts = .ok (e, us))
    (hdrop : dropName us = .mark ',' :: more) (hmore : readElements fuel more = .ok (es, rest)) :
    readElements (fuel + 1) ts = .ok (e :: es, rest) := by
  simp [readElements, hone, hdrop, hmore, Except.map]

theorem readElements_last (fuel : Nat) (hone : readType fuel ts = .ok (e, us))
    (hdrop : dropName us = .mark ')' :: rest) : readElements (fuel + 1) ts = .ok ([e], rest) := by
  simp [readElements, hone, hdrop, expect, Except.map]

theorem readSegments_more (fuel : Nat) {t dot : Token} {args : Option (List TypeExpr)}
    {earlier : List Segment} {last : Segment} (ht : t.isIdentifier = true)
    (hdot : dot = .mark '.' ∨ dot = .scope) (hargs : readOptional fuel ts = .ok (args, dot :: us))
    (hmore : readSegments fuel us = .ok (earlier, last, rest)) :
    readSegments (fuel + 1) (t :: ts) = .ok ((t.text, args) :: earlier, last, rest) := by
  rcases hdot with rfl | rfl <;> simp [readSegments, ht, hargs, hmore, Except.map]

theorem readSegments_last (fuel : Nat) {t : Token} {args : Option (List TypeExpr)}
    (ht : t.isIdentifier = true) (hrest : EndsName rest)
    (hargs : readOptional fuel ts = .ok (args, rest)) :
    readSegments (fuel + 1) (t :: ts) = .ok ([], (t.text, args), rest) := by
  simp only [readSegments, ht, if_true, hargs]
  split
  · next h => simp at h
  · next h =>
    obtain ⟨rfl, rfl⟩ : _ ∧ rest = _ := by simpa using h
    exact absurd rfl (hrest _ rfl).2.1
  · next h =>
    obtain ⟨rfl, rfl⟩ : _ ∧ rest = _ := by simpa using h
    exact absurd rfl (hrest _ rfl).2.2
  · next h =>
    simp only [Except.ok.injEq, Prod.mk.injEq] at h
    obtain ⟨rfl, rfl⟩ := h
    rfl

theorem readOptional_none (fuel : Nat) (hrest : rest.head? ≠ some (.mark '<')) :
    readOptional (fuel + 1) rest = .ok (none, rest) := by
  unfold readOptional
  split
  · simp at hrest
  · rfl

theorem dropWhile_commas (n : Nat) (hrest : rest.head? ≠ some (.mark ',')) :
    (commas n ++ rest).dropWhile (· = .mark ',') = rest := by
  refine dropWhile_run (fun t ht => by simp [List.eq_of_mem_replicate ht]) (fun t ht => ?_)
  rw [Option.mem_def.mp ht] at hrest
  simpa using hrest

theorem readArguments_unbound (fuel n : Nat) :
    readArguments (fuel + 1) (commas n ++ .mark '>' :: rest) = .ok ([], rest) := by
  have hdrop : (commas n ++ .mark '>' :: rest).dropWhile (· = .mark ',') = .mark '>' :: rest :=
    dropWhile_commas n (by simp)
  simp only [readArguments, hdrop]

theorem readArguments_list (fuel n : Nat) (hcomma : ts.head? ≠ some (.mark ','))
    (hclose : ts.head? ≠ some (.mark '>')) (hlist : readArgumentList fuel ts = .ok (es, rest)) :
    readArguments (fuel + 1) (commas n ++ ts) = .ok (es, rest) := by
  simp only [readArguments, dropWhile_commas n hcomma]
  split
  · simp at hclose
  · exact hlist

theorem readArgumentList_more (fuel : Nat) (hone : readType fuel ts = .ok (e, .mark ',' :: us))
    (hmore : readArgumentList fuel us = .ok (es, rest)) :
    readArgumentList (fuel + 1) ts = .ok (e :: es, rest) := by
  simp [readArgumentList, hone, hmore, Except.map]

theorem readArgumentList_last (fuel : Nat) (hone : readType fuel ts = .ok (e, .mark '>' :: rest)) :
    readArgumentList (fuel + 1) ts = .ok ([e], rest) := by
  simp [readArgumentList, hone, expect, Except.map]

end

namespace Spells
variable {ts us : List Token} {e : TypeExpr} {es : List TypeExpr} {s last : Segment}
  {earlier : List Segment}

theorem segment_reads (h : Phrase.ReadFrom ts (.segment s)) :
    ∃ t us, ts = t :: us ∧ t.isIdentifier = true ∧ s = (t.text, s.2) ∧
      ∀ fuel rest, 4 * us.length + 1 ≤ fuel → rest.head? ≠ some (.mark '<') →
        readOptional fuel (us ++ rest) = .ok (s.2, rest) := by
  obtain ⟨t, us, hts, ht, hs, hread⟩ := h
  exact ⟨t, us, hts, ht, by rw [← hs], hread⟩

theorem tuple_reads {ss : List Token} (ih : Phrase.ReadFrom ts (.elements es))
    (hs : Suffixes (.tuple es) ss e) :
    Phrase.ReadFrom (.mark '(' :: (ts ++ .mark ')' :: ss)) (.type e) := by
  intro fuel rest hfuel hrest
  simp only [List.length_cons, List.length_append] at hfuel
  obtain ⟨fuel, rfl⟩ := Nat.exists_eq_succ_of_ne_zero (by omega : fuel ≠ 0)
  have hes := ih fuel (ss ++ rest) (by omega)
  simp only [List.cons_append, List.append_assoc]
  rw [readType_tuple fuel hes, suffixes_complete hs hrest]

theorem named_reads {ss : List Token} (h : Spells ts (.name earlier last))
    (ih : Phrase.ReadFrom ts (.name earlier last)) (hs : Suffixes (ofSegments earlier last) ss e) :
    Phrase.ReadFrom (ts ++ ss) (.type e) := by
  intro fuel rest hfuel hrest
  simp only [List.length_append] at hfuel
  obtain ⟨fuel, rfl⟩ := Nat.exists_eq_succ_of_ne_zero (by omega : fuel ≠ 0)
  have hname := ih fuel (ss ++ rest) (by omega) (hs.endsName hrest)
  have hparen := h.head_ne '(' (by simp [Phrase.startsWith, Token.isIdentifier]) (ss ++ rest)
  rw [List.append_assoc, readType_name fuel hparen hname, suffixes_complete hs hrest]

theorem bareElement_reads (ih : Phrase.ReadFrom ts (.type e)) :
    Phrase.ReadFrom ts (.element e) := by
  intro fuel c rest hfuel hc
  have hends : EndsType (.mark c :: rest) :=
    endsType_mark c rest (List.mem_append_left ['>'] hc)
  exact ⟨_, ih fuel _ hfuel hends, by simp [dropName, Token.isIdentifier]⟩

theorem namedElement_reads {t : Token} (ih : Phrase.ReadFrom ts (.type e))
    (ht : t.isIdentifier = true) : Phrase.ReadFrom (ts ++ [t]) (.element e) := by
  intro fuel c rest hfuel hc
  simp only [List.length_append, List.length_cons, List.length_nil] at hfuel
  refine ⟨t :: .mark c :: rest, ?_, by simp [dropName, ht]⟩
  rw [List.append_assoc]
  exact ih fuel _ (by omega) (endsType_identifier t _ ht)

theorem lastElement_reads (ih : Phrase.ReadFrom ts (.element e)) :
    Phrase.ReadFrom ts (.elements [e]) := by
  intro fuel rest hfuel
  obtain ⟨fuel, rfl⟩ := Nat.exists_eq_succ_of_ne_zero (by omega : fuel ≠ 0)
  obtain ⟨after, hone, hdrop⟩ := ih fuel ')' rest (by omega) (by simp)
  exact readElements_last fuel hone hdrop

theorem moreElements_reads (ih : Phrase.ReadFrom ts (.element e))
    (ihs : Phrase.ReadFrom us (.elements es)) :
    Phrase.ReadFrom (ts ++ .mark ',' :: us) (.elements (e :: es)) := by
  intro fuel rest hfuel
  simp only [List.length_append, List.length_cons] at hfuel
  obtain ⟨fuel, rfl⟩ := Nat.exists_eq_succ_of_ne_zero (by omega : fuel ≠ 0)
  obtain ⟨after, hone, hdrop⟩ := ih fuel ',' (us ++ .mark ')' :: rest) (by omega) (by simp)
  simp only [List.append_assoc, List.cons_append]
  exact readElements_more fuel hone hdrop (ihs fuel rest (by omega))

theorem lastSegment_reads (ih : Phrase.ReadFrom ts (.segment s)) :
    Phrase.ReadFrom ts (.name [] s) := by
  intro fuel rest hfuel hrest
  obtain ⟨t, us, rfl, ht, hs, hread⟩ := segment_reads ih
  simp only [List.length_cons] at hfuel
  obtain ⟨fuel, rfl⟩ := Nat.exists_eq_succ_of_ne_zero (by omega : fuel ≠ 0)
  have hangle : rest.head? ≠ some (.mark '<') := fun h => (hrest _ h).1 rfl
  rw [hs]
  exact readSegments_last fuel ht hrest (hread fuel rest (by omega) hangle)

theorem moreSegments_reads {dot : Token} (ih : Phrase.ReadFrom ts (.segment s))
    (hdot : dot = .mark '.' ∨ dot = .scope) (ihs : Phrase.ReadFrom us (.name earlier last)) :
    Phrase.ReadFrom (ts ++ dot :: us) (.name (s :: earlier) last) := by
  intro fuel rest hfuel hrest
  obtain ⟨t, vs, rfl, ht, hs, hread⟩ := segment_reads ih
  simp only [List.length_append, List.length_cons] at hfuel
  obtain ⟨fuel, rfl⟩ := Nat.exists_eq_succ_of_ne_zero (by omega : fuel ≠ 0)
  have hangle : (dot :: (us ++ rest)).head? ≠ some (.mark '<') := by
    rcases hdot with rfl | rfl <;> simp
  rw [hs]
  simp only [List.append_assoc, List.cons_append]
  exact readSegments_more fuel ht hdot (hread fuel _ (by omega) hangle)
    (ihs fuel rest (by omega) hrest)

theorem plain_reads {t : Token} (ht : t.isIdentifier = true) :
    Phrase.ReadFrom [t] (.segment (t.text, none)) := by
  refine ⟨t, [], rfl, ht, rfl, fun fuel rest hfuel hrest => ?_⟩
  obtain ⟨fuel, rfl⟩ := Nat.exists_eq_succ_of_ne_zero (by omega : fuel ≠ 0)
  exact readOptional_none fuel hrest

theorem unbound_reads {t : Token} (n : Nat) (ht : t.isIdentifier = true) :
    Phrase.ReadFrom (t :: .mark '<' :: (commas n ++ [.mark '>'])) (.segment (t.text, some [])) := by
  refine ⟨t, _, rfl, ht, rfl, fun fuel rest hfuel hrest => ?_⟩
  simp only [List.length_cons, List.length_append] at hfuel
  obtain ⟨fuel, rfl⟩ := Nat.exists_eq_succ_of_ne_zero (by omega : fuel ≠ 0)
  obtain ⟨fuel, rfl⟩ := Nat.exists_eq_succ_of_ne_zero (by omega : fuel ≠ 0)
  simp [readOptional, readArguments_unbound fuel n, Except.map]

theorem generic_reads {t : Token} (n : Nat) (ht : t.isIdentifier = true)
    (h : Spells ts (.arguments es)) (ih : Phrase.ReadFrom ts (.arguments es)) :
    Phrase.ReadFrom (t :: .mark '<' :: (commas n ++ (ts ++ [.mark '>'])))
      (.segment (t.text, some es)) := by
  refine ⟨t, _, rfl, ht, rfl, fun fuel rest hfuel hrest => ?_⟩
  simp only [List.length_cons, List.length_append, List.length_nil] at hfuel
  obtain ⟨fuel, rfl⟩ := Nat.exists_eq_succ_of_ne_zero (by omega : fuel ≠ 0)
  obtain ⟨fuel, rfl⟩ := Nat.exists_eq_succ_of_ne_zero (by omega : fuel ≠ 0)
  have hcomma := h.head_ne ',' (by simp [Phrase.startsWith, Token.isIdentifier]) (.mark '>' :: rest)
  have hclose := h.head_ne '>' (by simp [Phrase.startsWith, Token.isIdentifier]) (.mark '>' :: rest)
  have hlist := readArguments_list fuel n hcomma hclose (ih fuel rest (by omega))
  simp [readOptional, hlist, Except.map]

theorem lastArgument_reads (ih : Phrase.ReadFrom ts (.type e)) :
    Phrase.ReadFrom ts (.arguments [e]) := by
  intro fuel rest hfuel
  obtain ⟨fuel, rfl⟩ := Nat.exists_eq_succ_of_ne_zero (by omega : fuel ≠ 0)
  exact readArgumentList_last fuel (ih fuel _ (by omega) (endsType_mark '>' rest (by simp)))

theorem moreArguments_reads (ih : Phrase.ReadFrom ts (.type e))
    (ihs : Phrase.ReadFrom us (.arguments es)) :
    Phrase.ReadFrom (ts ++ .mark ',' :: us) (.arguments (e :: es)) := by
  intro fuel rest hfuel
  simp only [List.length_append, List.length_cons] at hfuel
  obtain ⟨fuel, rfl⟩ := Nat.exists_eq_succ_of_ne_zero (by omega : fuel ≠ 0)
  have hone := ih fuel (.mark ',' :: (us ++ .mark '>' :: rest)) (by omega)
    (endsType_mark ',' _ (by simp))
  simp only [List.append_assoc, List.cons_append]
  exact readArgumentList_more fuel hone (ihs fuel rest (by omega))

theorem readFrom {ts : List Token} {p : Phrase} (h : Spells ts p) : p.ReadFrom ts := by
  induction h with
  | tuple h hs ih => exact tuple_reads ih hs
  | named h hs ih => exact named_reads h ih hs
  | bareElement h ih => exact bareElement_reads ih
  | namedElement h ht ih => exact namedElement_reads ih ht
  | lastElement h ih => exact lastElement_reads ih
  | moreElements h hs ih ihs => exact moreElements_reads ih ihs
  | lastSegment h ih => exact lastSegment_reads ih
  | moreSegments h ht hs ih ihs => exact moreSegments_reads ih ht ihs
  | plain ht => exact plain_reads ht
  | unbound n ht => exact unbound_reads n ht
  | generic n ht h ih => exact generic_reads n ht h ih
  | lastArgument h ih => exact lastArgument_reads ih
  | moreArguments h hs ih ihs => exact moreArguments_reads ih ihs

end Spells

theorem ofTokens_of_sentence {ts : List Token} {e : TypeExpr} (h : Sentence ts e) :
    ofTokens ts = .ok e := by
  obtain @⟨_, ts, _, hm, hn, hspells⟩ := h
  have hread := hspells.readFrom (fuelFor ts) [] (by simp only [fuelFor]; omega) endsType_nil
  rw [List.append_nil] at hread
  simp only [ofTokens, dropWhile_run hm hn, hread]

end ClassChart.Signature
