import ClassChart.Proofs.Except
import ClassChart.Proofs.Signature.Grammar

/-! What the readers find is there: whatever a reader takes off the front of the tokens spells the
phrase that it answers. The induction is on the fuel; each reader has a lemma that takes one
step. -/
namespace ClassChart.Signature

theorem expect_eq_ok {wanted : Token} {ts rest : List Token} (h : expect wanted ts = .ok rest) :
    ts = wanted :: rest := by
  cases ts with
  | nil => simp [expect] at h
  | cons t ts =>
    by_cases ht : t = wanted
    · subst ht
      simpa [expect] using h
    · simp [expect, ht] at h

theorem suffixes_sound_aux (ts : List Token) :
    (∀ e f rest, suffixes e ts = .ok (f, rest) → ∃ pre, ts = pre ++ rest ∧ Suffixes e pre f) ∧
    ∀ e f rest, rank e ts = .ok (f, rest) →
      ∃ n pre, ts = commas n ++ .mark ']' :: (pre ++ rest) ∧ Suffixes (.array e) pre f := by
  induction ts with
  | nil =>
    refine ⟨fun e f rest h => ?_, fun e f rest h => by simp [rank] at h⟩
    simp only [suffixes, Except.ok.injEq, Prod.mk.injEq] at h
    obtain ⟨rfl, rfl⟩ := h
    exact ⟨[], rfl, .none e⟩
  | cons t ts ih =>
    obtain ⟨ihs, ihr⟩ := ih
    constructor
    · intro e f rest h
      unfold suffixes at h
      split at h
      · next ht =>
        obtain ⟨pre, rfl, hs⟩ := ihs _ _ _ h
        exact ⟨_, by rw [ht]; rfl, .nullable hs⟩
      · split at h
        · next ht =>
          obtain ⟨pre, rfl, hs⟩ := ihs _ _ _ h
          exact ⟨_, by rw [ht]; rfl, .pointer hs⟩
        · split at h
          · next ht =>
            obtain ⟨n, pre, rfl, hs⟩ := ihr _ _ _ h
            exact ⟨_, by rw [ht]; simp, .array n hs⟩
          · simp only [Except.ok.injEq, Prod.mk.injEq] at h
            obtain ⟨rfl, rfl⟩ := h
            exact ⟨[], rfl, .none e⟩
    · intro e f rest h
      unfold rank at h
      split at h
      · next ht =>
        obtain ⟨n, pre, rfl, hs⟩ := ihr _ _ _ h
        exact ⟨n + 1, pre, by rw [ht]; rfl, hs⟩
      · split at h
        · next ht =>
          obtain ⟨pre, rfl, hs⟩ := ihs _ _ _ h
          exact ⟨0, pre, by rw [ht]; rfl, hs⟩
        · simp at h

theorem suffixes_sound {e f : TypeExpr} {ts rest : List Token}
    (h : suffixes e ts = .ok (f, rest)) : ∃ pre, ts = pre ++ rest ∧ Suffixes e pre f :=
  (suffixes_sound_aux ts).1 e f rest h

/-- What every reader answers with the given fuel is spelled by the tokens that it took. -/
structure Sound (fuel : Nat) : Prop where
  type : ∀ {ts rest e}, readType fuel ts = .ok (e, rest) →
    ∃ pre, ts = pre ++ rest ∧ Spells pre (.type e)
  elements : ∀ {ts rest es}, readElements fuel ts = .ok (es, rest) →
    ∃ pre, ts = pre ++ .mark ')' :: rest ∧ Spells pre (.elements es)
  segments : ∀ {ts rest earlier last}, readSegments fuel ts = .ok (earlier, last, rest) →
    ∃ pre, ts = pre ++ rest ∧ Spells pre (.name earlier last)
  optional : ∀ {ts rest args}, readOptional fuel ts = .ok (args, rest) →
    ∃ pre, ts = pre ++ rest ∧
      ∀ t : Token, t.isIdentifier = true → Spells (t :: pre) (.segment (t.text, args))
  arguments : ∀ {ts rest args}, readArguments fuel ts = .ok (args, rest) →
    ∃ n pre, ts = commas n ++ (pre ++ .mark '>' :: rest) ∧
      (pre = [] ∧ args = [] ∨ Spells pre (.arguments args))
  argumentList : ∀ {ts rest es}, readArgumentList fuel ts = .ok (es, rest) →
    ∃ pre, ts = pre ++ .mark '>' :: rest ∧ Spells pre (.arguments es)

namespace Sound
variable {fuel : Nat} {ts rest : List Token}

theorem zero : Sound 0 where
  type h := by simp [readType] at h
  elements h := by simp [readElements] at h
  segments h := by simp [readSegments] at h
  optional h := by simp [readOptional] at h
  arguments h := by simp [readArguments] at h
  argumentList h := by simp [readArgumentList] at h

theorem type_succ (ih : Sound fuel) {e : TypeExpr} (h : readType (fuel + 1) ts = .ok (e, rest)) :
    ∃ pre, ts = pre ++ rest ∧ Spells pre (.type e) := by
  unfold readType at h
  split at h
  · next more =>
    split at h
    · simp at h
    · next es after hes =>
      obtain ⟨pre, rfl, hpre⟩ := ih.elements hes
      obtain ⟨ss, rfl, hss⟩ := suffixes_sound h
      exact ⟨_, by simp, .tuple hpre hss⟩
  · split at h
    · simp at h
    · next earlier last after hname =>
      obtain ⟨pre, rfl, hpre⟩ := ih.segments hname
      obtain ⟨ss, rfl, hss⟩ := suffixes_sound h
      exact ⟨pre ++ ss, by simp, .named hpre hss⟩

theorem element (ts : List Token) {pre : List Token} {e : TypeExpr}
    (h : Spells pre (.type e)) :
    ∃ own, pre ++ ts = own ++ dropName ts ∧ Spells own (.element e) := by
  cases ts with
  | nil => exact ⟨pre, rfl, .bareElement h⟩
  | cons t ts =>
    by_cases ht : t.isIdentifier = true
    · exact ⟨pre ++ [t], by simp [dropName, ht], .namedElement h ht⟩
    · exact ⟨pre, by simp [dropName, ht], .bareElement h⟩

theorem elements_succ (ih : Sound fuel) {es : List TypeExpr}
    (h : readElements (fuel + 1) ts = .ok (es, rest)) :
    ∃ pre, ts = pre ++ .mark ')' :: rest ∧ Spells pre (.elements es) := by
  unfold readElements at h
  split at h
  · simp at h
  · next e after htype =>
    obtain ⟨pre, rfl, hpre⟩ := ih.type htype
    obtain ⟨own, hown, helement⟩ := element after hpre
    rw [hown]
    split at h
    · next more hafter =>
      obtain ⟨⟨es', rest'⟩, hmore, heq⟩ := map_eq_ok.mp h
      simp only [Prod.mk.injEq] at heq
      obtain ⟨rfl, rfl⟩ := heq
      obtain ⟨us, rfl, hus⟩ := ih.elements hmore
      exact ⟨own ++ .mark ',' :: us, by simp [hafter], .moreElements helement hus⟩
    · obtain ⟨after', hclose, heq⟩ := map_eq_ok.mp h
      simp only [Prod.mk.injEq] at heq
      obtain ⟨rfl, rfl⟩ := heq
      exact ⟨own, by rw [expect_eq_ok hclose], .lastElement helement⟩

theorem segments_succ (ih : Sound fuel) {earlier : List Segment} {last : Segment}
    (h : readSegments (fuel + 1) ts = .ok (earlier, last, rest)) :
    ∃ pre, ts = pre ++ rest ∧ Spells pre (.name earlier last) := by
  cases ts with
  | nil => simp [readSegments] at h
  | cons t ts =>
    unfold readSegments at h
    split at h
    · next ht =>
      have more {args : Option (List TypeExpr)} {dot : Token} {us : List Token}
          (hargs : readOptional fuel ts = .ok (args, dot :: us))
          (hdot : dot = .mark '.' ∨ dot = .scope)
          (h : (readSegments fuel us).map
            (fun found => ((t.text, args) :: found.1, found.2.1, found.2.2)) =
              .ok (earlier, last, rest)) :
          ∃ pre, t :: ts = pre ++ rest ∧ Spells pre (.name earlier last) := by
        obtain ⟨⟨earlier', last', rest'⟩, hus, heq⟩ := map_eq_ok.mp h
        simp only [Prod.mk.injEq] at heq
        obtain ⟨rfl, rfl, rfl⟩ := heq
        obtain ⟨pre, rfl, hpre⟩ := ih.optional hargs
        obtain ⟨vs, rfl, hvs⟩ := ih.segments hus
        exact ⟨(t :: pre) ++ dot :: vs, by simp, .moreSegments (hpre t ht) hdot hvs⟩
      split at h
      · simp at h
      · next args us hargs => exact more hargs (.inl rfl) h
      · next args us hargs => exact more hargs (.inr rfl) h
      · next args after hdot hscope hargs =>
        simp only [Except.ok.injEq, Prod.mk.injEq] at h
        obtain ⟨rfl, rfl, rfl⟩ := h
        obtain ⟨pre, rfl, hpre⟩ := ih.optional hargs
        exact ⟨t :: pre, rfl, .lastSegment (hpre t ht)⟩
    · simp at h

theorem optional_succ (ih : Sound fuel) {args : Option (List TypeExpr)}
    (h : readOptional (fuel + 1) ts = .ok (args, rest)) :
    ∃ pre, ts = pre ++ rest ∧
      ∀ t : Token, t.isIdentifier = true → Spells (t :: pre) (.segment (t.text, args)) := by
  unfold readOptional at h
  split at h
  · next more =>
    obtain ⟨⟨es, after⟩, hes, heq⟩ := map_eq_ok.mp h
    simp only [Prod.mk.injEq] at heq
    obtain ⟨rfl, rfl⟩ := heq
    obtain ⟨n, pre, rfl, hpre⟩ := ih.arguments hes
    refine ⟨.mark '<' :: (commas n ++ (pre ++ [.mark '>'])), by simp, fun t ht => ?_⟩
    rcases hpre with ⟨rfl, rfl⟩ | hpre
    · exact .unbound n ht
    · exact .generic n ht hpre
  · simp only [Except.ok.injEq, Prod.mk.injEq] at h
    obtain ⟨rfl, rfl⟩ := h
    exact ⟨[], rfl, fun t ht => .plain ht⟩

theorem takeWhile_commas (ts : List Token) :
    ∃ n, ts = commas n ++ ts.dropWhile (· = .mark ',') := by
  refine ⟨(ts.takeWhile (· = .mark ',')).length, ?_⟩
  have h : ts.takeWhile (· = .mark ',') =
      commas (ts.takeWhile (· = .mark ',')).length := by
    refine List.eq_replicate_of_mem fun t ht => ?_
    simpa using takeWhile_all ts t ht
  rw [← h, List.takeWhile_append_dropWhile]

theorem arguments_succ (ih : Sound fuel) {args : List TypeExpr}
    (h : readArguments (fuel + 1) ts = .ok (args, rest)) :
    ∃ n pre, ts = commas n ++ (pre ++ .mark '>' :: rest) ∧
      (pre = [] ∧ args = [] ∨ Spells pre (.arguments args)) := by
  obtain ⟨n, hn⟩ := takeWhile_commas ts
  unfold readArguments at h
  split at h
  · next after hafter =>
    simp only [Except.ok.injEq, Prod.mk.injEq] at h
    obtain ⟨rfl, rfl⟩ := h
    exact ⟨n, [], by rw [hn, hafter]; simp, .inl ⟨rfl, rfl⟩⟩
  · obtain ⟨pre, hpre, hspells⟩ := ih.argumentList h
    exact ⟨n, pre, by rw [← hpre]; exact hn, .inr hspells⟩

theorem argumentList_succ (ih : Sound fuel) {es : List TypeExpr}
    (h : readArgumentList (fuel + 1) ts = .ok (es, rest)) :
    ∃ pre, ts = pre ++ .mark '>' :: rest ∧ Spells pre (.arguments es) := by
  unfold readArgumentList at h
  split at h
  · simp at h
  · next e more htype =>
    obtain ⟨pre, rfl, hpre⟩ := ih.type htype
    obtain ⟨⟨es', rest'⟩, hmore, heq⟩ := map_eq_ok.mp h
    simp only [Prod.mk.injEq] at heq
    obtain ⟨rfl, rfl⟩ := heq
    obtain ⟨us, rfl, hus⟩ := ih.argumentList hmore
    exact ⟨pre ++ .mark ',' :: us, by simp, .moreArguments hpre hus⟩
  · next e after hcomma htype =>
    obtain ⟨pre, rfl, hpre⟩ := ih.type htype
    obtain ⟨after', hclose, heq⟩ := map_eq_ok.mp h
    simp only [Prod.mk.injEq] at heq
    obtain ⟨rfl, rfl⟩ := heq
    exact ⟨pre, by rw [expect_eq_ok hclose], .lastArgument hpre⟩

theorem all (fuel : Nat) : Sound fuel := by
  induction fuel with
  | zero => exact zero
  | succ fuel ih =>
    exact ⟨ih.type_succ, ih.elements_succ, ih.segments_succ, ih.optional_succ,
      ih.arguments_succ, ih.argumentList_succ⟩

end Sound

theorem sentence_of_ofTokens {ts : List Token} {e : TypeExpr} (h : ofTokens ts = .ok e) :
    Sentence ts e := by
  unfold ofTokens at h
  simp only at h
  split at h
  · simp at h
  · next e' hread =>
    obtain rfl : e' = e := by simpa using h
    obtain ⟨pre, hpre, hspells⟩ := (Sound.all _).type hread
    rw [List.append_nil] at hpre
    rw [← List.takeWhile_append_dropWhile (p := isModifierWord) (l := ts)]
    exact .intro (takeWhile_all ts) (head_dropWhile ts) (hpre ▸ hspells)
  · simp at h

end ClassChart.Signature
