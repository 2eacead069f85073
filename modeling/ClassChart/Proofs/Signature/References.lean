import ClassChart.Proofs.Signature.Survivors
import ClassChart.Proofs.Signature.TextOrder

/-! The references of a type text are what its tokens show from left to right: the collector that
walks the expression finds each name where the text has it. -/
namespace ClassChart.Signature

theorem opensSegment_mark (c : Char) (before : List Token) (hc : c ∈ ['(', '<', ',', '.']) :
    opensSegment (.mark c :: before) = true := by
  simpa [opensSegment] using hc

theorem not_opensSegment_mark (c : Char) (before : List Token)
    (hc : c ∈ ['?', '*', ']', ')', '>']) : opensSegment (.mark c :: before) = false := by
  simp only [List.mem_cons, List.not_mem_nil, or_false] at hc
  rcases hc with rfl | rfl | rfl | rfl | rfl <;> simp [opensSegment]

theorem not_opensSegment_identifier {t : Token} (ht : t.isIdentifier = true)
    (before : List Token) : opensSegment (t :: before) = false := by
  cases t with
  | word name => simp [opensSegment]
  | scope | mark c => simp [Token.isIdentifier] at ht

theorem endsSegment_mark (c : Char) (after : List Token) (hc : c ≠ '<') (hdot : c ≠ '.') :
    endsSegment (.mark c :: after) = true := by
  simp [endsSegment, hc, hdot]

theorem endsSegment_identifier {t : Token} (ht : t.isIdentifier = true) (after : List Token) :
    endsSegment (t :: after) = true := by
  cases t with
  | word name => simp [endsSegment]
  | scope | mark c => simp [Token.isIdentifier] at ht

theorem Suffixes.not_opens {e f : TypeExpr} {ts : List Token} (h : Suffixes e ts f)
    (before : List Token) (hbefore : opensSegment before = false) :
    opensSegment (ts.reverse ++ before) = false := by
  induction h generalizing before with
  | none e => exact hbefore
  | nullable h ih | pointer h ih =>
    simpa using ih _ (not_opensSegment_mark _ before (by simp))
  | array n h ih =>
    simpa using ih _ (not_opensSegment_mark ']' (commas n ++ .mark '[' :: before) (by simp))

theorem Spells.not_opens {ts : List Token} {p : Phrase} (h : Spells ts p) (before : List Token) :
    opensSegment (ts.reverse ++ before) = false := by
  induction h generalizing before with
  | tuple h hs ih =>
    simpa using hs.not_opens _ (not_opensSegment_mark ')' _ (by simp))
  | named h hs ih => simpa using hs.not_opens _ (ih before)
  | bareElement h ih | lastElement h ih | lastSegment h ih | lastArgument h ih => exact ih before
  | namedElement h ht ih => simpa using not_opensSegment_identifier ht _
  | moreElements h hs ih ihs | moreArguments h hs ih ihs | moreSegments h ht hs ih ihs =>
    simpa using ihs _
  | plain ht => exact not_opensSegment_identifier ht before
  | unbound n ht => simpa using not_opensSegment_mark '>' _ (by simp)
  | generic n ht h ih => simpa using not_opensSegment_mark '>' _ (by simp)

theorem namesFrom_skip {t : Token} {before after : List Token}
    (h : (t.isIdentifier && opensSegment before && endsSegment after) = false) :
    namesFrom before (t :: after) = namesFrom (t :: before) after := by
  simp [namesFrom, h]

theorem namesFrom_mark (c : Char) (before after : List Token) :
    namesFrom before (.mark c :: after) = namesFrom (.mark c :: before) after :=
  namesFrom_skip (by simp [Token.isIdentifier])

theorem namesFrom_commas (n : Nat) (before after : List Token) :
    namesFrom before (commas n ++ after) = namesFrom (commas n ++ before) after := by
  induction n generalizing before with
  | zero => rfl
  | succ n ih =>
    have hcommas : commas n ++ .mark ',' :: before = commas (n + 1) ++ before := by
      simp [commas, List.replicate_succ']
    rw [← hcommas, ← ih]
    exact namesFrom_mark ',' before _

theorem namesFrom_suffixes {e f : TypeExpr} {ts : List Token} (h : Suffixes e ts f)
    (before after : List Token) :
    namesFrom before (ts ++ after) = namesFrom (ts.reverse ++ before) after := by
  induction h generalizing before with
  | none e => rfl
  | nullable h ih | pointer h ih => simpa [namesFrom_mark] using ih _
  | @array e f ts n h ih =>
    simp only [List.cons_append, List.append_assoc, namesFrom_mark, namesFrom_commas, ih]
    simp

theorem occurrences_suffixes {e f : TypeExpr} {ts : List Token} (h : Suffixes e ts f) :
    f.occurrences = e.occurrences := by
  induction h with
  | none e => rfl
  | nullable h ih | pointer h ih | array n h ih => rw [ih, TypeExpr.occurrences]

theorem occurrencesAll_append (es fs : List TypeExpr) : TypeExpr.occurrencesAll (es ++ fs) =
    TypeExpr.occurrencesAll es ++ TypeExpr.occurrencesAll fs := by
  induction es with
  | nil => simp [TypeExpr.occurrencesAll]
  | cons e es ih => simp [TypeExpr.occurrencesAll, ih]

def nameOccurrences (path : List String) (earlier : List Segment) (last : Segment) :
    List (String × String) :=
  TypeExpr.occurrencesAll (earlier.flatMap (·.2.getD [])) ++
    match last.2 with
    | none => [(last.1, qualifierOf (path ++ earlier.map (·.1)))]
    | some args => TypeExpr.occurrencesAll args

theorem occurrences_ofSegments (earlier : List Segment) (last : Segment) :
    (ofSegments earlier last).occurrences = nameOccurrences [] earlier last := by
  obtain ⟨name, args⟩ := last
  cases args <;> simp [ofSegments, nameOccurrences, TypeExpr.occurrences]

/-- Read from left to right between `before` and `after`, the tokens of the phrase give the names
that the phrase holds. -/
def Phrase.ShowsNames (ts : List Token) : Phrase → Prop
  | type e | element e => ∀ before after, opensSegment before = true → pathBefore before = [] →
      endsSegment after = true →
      namesFrom before (ts ++ after) = e.occurrences ++ namesFrom (ts.reverse ++ before) after
  | elements es | arguments es => ∀ before after, opensSegment before = true →
      pathBefore before = [] → endsSegment after = true → namesFrom before (ts ++ after) =
        TypeExpr.occurrencesAll es ++ namesFrom (ts.reverse ++ before) after
  | name earlier last => ∀ before after, opensSegment before = true → endsSegment after = true →
      namesFrom before (ts ++ after) = nameOccurrences (pathBefore before) earlier last ++
        namesFrom (ts.reverse ++ before) after
  | segment s => ∀ before after, opensSegment before = true → namesFrom before (ts ++ after) =
      (match s.2 with
        | none => if endsSegment after then [(s.1, qualifierOf (pathBefore before))] else []
        | some args => TypeExpr.occurrencesAll args) ++ namesFrom (ts.reverse ++ before) after

namespace Spells
variable {ts us ss : List Token} {e : TypeExpr} {es : List TypeExpr} {s last : Segment}
  {earlier : List Segment} {t : Token}

theorem tuple_shows (ih : (Phrase.elements es).ShowsNames ts) (hs : Suffixes (.tuple es) ss e) :
    (Phrase.type e).ShowsNames (.mark '(' :: (ts ++ .mark ')' :: ss)) := by
  intro before after hopen hpath hends
  have hes := ih (.mark '(' :: before) (.mark ')' :: (ss ++ after))
    (opensSegment_mark '(' before (by simp)) (pathBefore_opening _ _ (by simp) (by simp))
    (endsSegment_mark ')' _ (by decide) (by decide))
  simp only [List.cons_append, List.append_assoc, namesFrom_mark, namesFrom_suffixes hs] at hes ⊢
  rw [hes, occurrences_suffixes hs, TypeExpr.occurrences]
  simp

theorem named_shows (ih : (Phrase.name earlier last).ShowsNames ts)
    (hs : Suffixes (ofSegments earlier last) ss e) :
    (Phrase.type e).ShowsNames (ts ++ ss) := by
  intro before after hopen hpath hends
  have hss : endsSegment (ss ++ after) = true := by
    cases hs with
    | none => exact hends
    | nullable | pointer | array => exact endsSegment_mark _ _ (by decide) (by decide)
  have hname := ih before (ss ++ after) hopen hss
  rw [hpath, ← occurrences_ofSegments] at hname
  rw [List.append_assoc, hname, namesFrom_suffixes hs, occurrences_suffixes hs]
  simp

/- The name of a tuple element stands after a whole type and is no name of a type. -/
theorem namedElement_shows (h : Spells ts (.type e)) (ih : (Phrase.type e).ShowsNames ts)
    (ht : t.isIdentifier = true) : (Phrase.element e).ShowsNames (ts ++ [t]) := by
  intro before after hopen hpath hends
  have htype := ih before (t :: after) hopen hpath (endsSegment_identifier ht after)
  rw [namesFrom_skip (by simp [h.not_opens before])] at htype
  simpa using htype

theorem moreElements_shows (ih : (Phrase.element e).ShowsNames ts)
    (ihs : (Phrase.elements es).ShowsNames us) :
    (Phrase.elements (e :: es)).ShowsNames (ts ++ .mark ',' :: us) := by
  intro before after hopen hpath hends
  have hone := ih before (.mark ',' :: (us ++ after)) hopen hpath
    (endsSegment_mark ',' _ (by decide) (by decide))
  have hmore := ihs (.mark ',' :: (ts.reverse ++ before)) after
    (opensSegment_mark ',' _ (by simp)) (pathBefore_opening _ _ (by simp) (by simp)) hends
  rw [namesFrom_mark, hmore] at hone
  simpa [TypeExpr.occurrencesAll] using hone

theorem lastSegment_shows (ih : (Phrase.segment s).ShowsNames ts) :
    (Phrase.name [] s).ShowsNames ts := by
  intro before after hopen hends
  obtain ⟨name, args⟩ := s
  have hsegment := ih before after hopen
  cases args <;> simpa [nameOccurrences, TypeExpr.occurrencesAll, hends] using hsegment

theorem moreSegments_shows {dot : Token} (h : Spells ts (.segment s))
    (ih : (Phrase.segment s).ShowsNames ts) (hdot : dot = .mark '.' ∨ dot = .scope)
    (ihs : (Phrase.name earlier last).ShowsNames us) :
    (Phrase.name (s :: earlier) last).ShowsNames (ts ++ dot :: us) := by
  intro before after hopen hends
  have hone := ih before (dot :: (us ++ after)) hopen
  have hstop : endsSegment (dot :: (us ++ after)) = false := by
    rcases hdot with rfl | rfl <;> simp [endsSegment]
  have hskip : namesFrom (ts.reverse ++ before) (dot :: (us ++ after)) =
      namesFrom (dot :: (ts.reverse ++ before)) (us ++ after) :=
    namesFrom_skip (by simp [h.not_opens before])
  have hnext : opensSegment (dot :: (ts.reverse ++ before)) = true := by
    rcases hdot with rfl | rfl <;> simp [opensSegment]
  have hmore := ihs (dot :: (ts.reverse ++ before)) after hnext hends
  rw [pathBefore_segment h hdot] at hmore
  rw [hskip, hmore, hstop] at hone
  obtain ⟨name, args⟩ := s
  cases args <;> simpa [nameOccurrences, occurrencesAll_append] using hone

theorem plain_shows (ht : t.isIdentifier = true) :
    (Phrase.segment (t.text, none)).ShowsNames [t] := by
  intro before after hopen
  simp only [List.cons_append, List.nil_append, namesFrom, ht, hopen, Bool.true_and]
  split <;> simp

theorem unbound_shows (n : Nat) (t : Token) :
    (Phrase.segment (t.text, some [])).ShowsNames
      (t :: .mark '<' :: (commas n ++ [.mark '>'])) := by
  intro before after hopen
  simp only [List.cons_append, List.append_assoc]
  rw [namesFrom_skip (by simp [endsSegment]), namesFrom_mark, namesFrom_commas]
  simp [namesFrom_mark, TypeExpr.occurrencesAll]

theorem generic_shows (n : Nat) (t : Token) (ih : (Phrase.arguments es).ShowsNames ts) :
    (Phrase.segment (t.text, some es)).ShowsNames
      (t :: .mark '<' :: (commas n ++ (ts ++ [.mark '>']))) := by
  intro before after hopen
  have hcomma : opensSegment (commas n ++ .mark '<' :: t :: before) = true ∧
      pathBefore (commas n ++ .mark '<' :: t :: before) = [] := by
    cases n with
    | zero => exact ⟨opensSegment_mark '<' _ (by simp), pathBefore_opening _ _ (by simp) (by simp)⟩
    | succ n =>
      exact ⟨opensSegment_mark ',' _ (by simp), pathBefore_opening _ _ (by simp) (by simp)⟩
  have hes := ih (commas n ++ .mark '<' :: t :: before) (.mark '>' :: after) hcomma.1 hcomma.2
    (endsSegment_mark '>' _ (by decide) (by decide))
  simp only [List.cons_append, List.append_assoc, List.nil_append]
  rw [namesFrom_skip (by simp [endsSegment]), namesFrom_mark, namesFrom_commas, hes]
  simp [namesFrom_mark]

theorem moreArguments_shows (ih : (Phrase.type e).ShowsNames ts)
    (ihs : (Phrase.arguments es).ShowsNames us) :
    (Phrase.arguments (e :: es)).ShowsNames (ts ++ .mark ',' :: us) :=
  moreElements_shows ih ihs

theorem showsNames {ts : List Token} {p : Phrase} (h : Spells ts p) : p.ShowsNames ts := by
  induction h with
  | tuple h hs ih => exact tuple_shows ih hs
  | named h hs ih => exact named_shows ih hs
  | bareElement h ih => exact ih
  | namedElement h ht ih => exact namedElement_shows h ih ht
  | lastElement h ih | lastArgument h ih =>
    intro before after hopen hpath hends
    simpa [TypeExpr.occurrencesAll] using ih before after hopen hpath hends
  | moreElements h hs ih ihs => exact moreElements_shows ih ihs
  | lastSegment h ih => exact lastSegment_shows ih
  | moreSegments h ht hs ih ihs => exact moreSegments_shows h ih ht ihs
  | plain ht => exact plain_shows ht
  | unbound n ht => exact unbound_shows n _
  | generic n ht h ih => exact generic_shows n _ ih
  | moreArguments h hs ih ihs => exact moreArguments_shows ih ihs

end Spells

theorem namesFrom_type {ts : List Token} {e : TypeExpr} (h : Spells ts (.type e)) :
    namesFrom [] ts = e.occurrences := by
  have hnames := h.showsNames [] [] rfl (by rw [pathBefore.eq_def]) rfl
  simpa [namesFrom] using hnames

theorem beforeSuffixes_suffixes {e f : TypeExpr} {ts : List Token} (h : Suffixes e ts f)
    (before : List Token) : beforeSuffixes (ts.reverse ++ before) = beforeSuffixes before := by
  induction h generalizing before with
  | none e => rfl
  | nullable h ih | pointer h ih =>
    rw [List.reverse_cons, List.append_assoc, ih]
    simp [beforeSuffixes]
  | array n h ih =>
    have hdrop : (commas n ++ .mark '[' :: before).dropWhile (· = .mark ',') =
        .mark '[' :: before := dropWhile_commas n (by simp)
    simp only [List.reverse_cons, List.reverse_append, List.append_assoc, ih]
    simp [beforeSuffixes, hdrop]

theorem container_suffixes {e f : TypeExpr} {ts : List Token} (h : Suffixes e ts f) :
    f.container? = e.container? := by
  induction h with
  | none e => rfl
  | nullable h ih | pointer h ih | array n h ih => rw [ih, TypeExpr.container?]

theorem Spells.last_segment {ts : List Token} {earlier : List Segment} {last : Segment}
    (h : Spells ts (.name earlier last)) :
    ∃ pre us, ts = pre ++ us ∧ Spells us (.segment last) := by
  generalize hp : Phrase.name earlier last = p at h
  induction h generalizing earlier with
  | lastSegment h ih =>
    cases hp
    exact ⟨[], _, rfl, h⟩
  | @moreSegments ts _ t _ _ _ h ht hs ih ihs =>
    cases hp
    obtain ⟨pre, us, rfl, hus⟩ := ihs rfl
    exact ⟨ts ++ t :: pre, us, by simp, hus⟩
  | tuple | named | bareElement | namedElement | lastElement | moreElements | plain | unbound
  | generic | lastArgument | moreArguments => cases hp

theorem beforeSuffixes_segment {ts : List Token} {s : Segment} (h : Spells ts (.segment s))
    (before : List Token) : beforeSuffixes (ts.reverse ++ before) = ts.reverse ++ before := by
  cases h with
  | @plain t ht =>
    cases t with
    | word name => simp [beforeSuffixes]
    | scope | mark c => simp [Token.isIdentifier] at ht
  | unbound n ht | generic n ht h => simp [beforeSuffixes]

theorem container_ofSegments (earlier : List Segment) (last : Segment) :
    (ofSegments earlier last).container? = last.2.map fun _ => last.1 := by
  obtain ⟨name, args⟩ := last
  cases args <;> rfl

theorem container_type {ts : List Token} {e : TypeExpr} (h : Spells ts (.type e)) :
    containerOf (beforeSuffixes ts.reverse) = e.container? := by
  cases h with
  | @tuple ts ss es _ h hs =>
    have hreverse : (Token.mark '(' :: (ts ++ .mark ')' :: ss)).reverse =
        ss.reverse ++ .mark ')' :: (ts.reverse ++ [.mark '(']) := by simp
    rw [container_suffixes hs, TypeExpr.container?, hreverse, beforeSuffixes_suffixes hs]
    simp [beforeSuffixes, containerOf]
  | named h hs =>
    obtain ⟨pre, us, rfl, hus⟩ := h.last_segment
    rw [container_suffixes hs, container_ofSegments, List.reverse_append,
      beforeSuffixes_suffixes hs, List.reverse_append, beforeSuffixes_segment hus]
    obtain ⟨t, ht, hback, hcontainer⟩ := beforeArguments_segment hus pre.reverse
    exact hcontainer

theorem Sentence.spells {ts : List Token} {e : TypeExpr} (h : Sentence ts e) :
    Spells (ts.dropWhile isModifierWord) (.type e) := by
  obtain ⟨hm, hn, hspells⟩ := h
  rwa [dropWhile_run hm hn]

theorem spells_of_read {text : String} {e : TypeExpr} (h : read text = .ok e) :
    Spells (typeTokens text) (.type e) :=
  (sentence_of_ofTokens ((read_eq_ok_iff text e).mp h).2).spells

theorem references_blank (rules : NameRules) (text : String) (h : Text.allBlank text = true) :
    references rules text = .ok .none := by
  simp [references, h]

theorem references_of_read (rules : NameRules) {text : String} {e : TypeExpr}
    (h : read text = .ok e) : references rules text = .ok (referencesIn rules e) := by
  have hblank := ((read_eq_ok_iff text e).mp h).1
  simp [references, hblank, h, Except.map]

theorem references_cases {rules : NameRules} {text : String} {found : References}
    (h : references rules text = .ok found) :
    found = .none ∨ ∃ e, read text = .ok e ∧ found = referencesIn rules e := by
  cases hblank : Text.allBlank text with
  | true => exact .inl (Except.ok.inj (h.symm.trans (references_blank rules text hblank)))
  | false =>
    cases hread : read text with
    | error e => simp [references, hblank, hread, Except.map] at h
    | ok e => exact .inr ⟨e, rfl, Except.ok.inj (h.symm.trans (references_of_read rules hread))⟩

theorem occurrence_of_reference {rules : NameRules} {text : String} {found : References}
    (h : references rules text = .ok found) : ∀ name ∈ found.names, ∃ e qualifier,
      read text = .ok e ∧ (name, qualifier) ∈ e.occurrences ∧
        survives rules (name, qualifier) = true := by
  intro name hname
  rcases references_cases h with rfl | ⟨e, hread, rfl⟩
  · simp [References.none] at hname
  · rw [referencesIn_eq] at hname
    obtain ⟨⟨_, qualifier⟩, hoccurrence, rfl⟩ := List.mem_map.mp (List.mem_eraseDups.mp hname)
    exact ⟨e, qualifier, hread, (List.mem_filter.mp hoccurrence).1, (List.mem_filter.mp hoccurrence).2⟩

theorem references_nodup {rules : NameRules} {text : String} {found : References}
    (h : references rules text = .ok found) : found.names.Nodup := by
  rcases references_cases h with rfl | ⟨e, hread, rfl⟩
  · exact List.nodup_nil
  · rw [referencesIn_eq]
    exact nodup_eraseDups _

theorem references_no_primitive {rules : NameRules} {text : String} {found : References}
    (h : references rules text = .ok found) :
    ∀ name ∈ found.names, Names.isPrimitive name = false := by
  intro name hname
  obtain ⟨e, qualifier, _, _, hsurvives⟩ := occurrence_of_reference h name hname
  rw [survives, Bool.and_eq_true, Bool.not_eq_true'] at hsurvives
  exact hsurvives.1

/-- A missing or blank text has no references. Any text that is read has those names that the text
shows from left to right and that survive the rules, each once, at the first place where it
survives; its container is the segment that ends its type in an argument list, whatever the
rules. -/
theorem references_in_text_order (rules : NameRules) :
    referencesOf? rules none = .ok ⟨none, []⟩ ∧
    (∀ text, Text.allBlank text = true → referencesOf? rules (some text) = .ok ⟨none, []⟩) ∧
    ∀ text e, read text = .ok e → referencesOf? rules (some text) =
      .ok ⟨containerIn text, (((namesIn text).filter (survives rules)).map (·.1)).eraseDups⟩ := by
  refine ⟨rfl, references_blank rules, fun text e h => ?_⟩
  have hspells := spells_of_read h
  have hcontainer : containerIn text = e.container? := container_type hspells
  have hnames : namesIn text = e.occurrences := namesFrom_type hspells
  rw [hcontainer, hnames, ← referencesIn_eq]
  exact references_of_read rules h

/-- The references of a text that is read: the container, and the name in its argument list. -/
theorem references_in_text_order_of_sample :
    read "ref A<B.C>?" = .ok (.nullable (.generic "" [] "A" [.plain "B" [] "C"])) ∧
      referencesOf? ⟨none, true, ["X"]⟩ (some "ref A<B.C>?") = .ok ⟨some "A", ["C"]⟩ := by
  have hread : read "ref A<B.C>?" = .ok (.nullable (.generic "" [] "A" [.plain "B" [] "C"])) :=
    (read_eq_ok_iff_sentence _ cut_sample _).mpr sentence_sample
  have hcontainer : containerIn "ref A<B.C>?" = some "A" := container_type (spells_of_read hread)
  have hnames : namesIn "ref A<B.C>?" = [("C", "B")] := namesFrom_type (spells_of_read hread)
  have hkept : survives ⟨none, true, ["X"]⟩ ("C", "B") = true := by decide +kernel
  refine ⟨hread, ?_⟩
  rw [(references_in_text_order _).2.2 _ _ hread, hcontainer, hnames]
  simp [hkept, List.eraseDups_cons]

end ClassChart.Signature
