import ClassChart.Proofs.Names.Split
import ClassChart.Proofs.Signature.Identifier
import Mathlib.Data.List.TakeWhile

/-! The names of types as they stand in base lists and in front of members: identifiers joined by
dots, each with an argument list or without. The text of a base entry is cut at its first angle and
that of a member is read as a whole, so the two find the same name unless a segment before the last
has an argument list. -/
namespace ClassChart
open Text Names

namespace Signature

theorem Identifier.wordlike (i : Identifier) : Wordlike i.word := by
  intro c hc
  rw [word, String.toList_ofList] at hc
  rcases List.mem_cons.mp hc with rfl | hrest
  · exact wordChar_of_nameStart _ i.starts
  · exact i.continues c hrest

end Signature

namespace Names
open Signature

/-- `Part s t`: the text `s` is the segment `t`, an identifier other than the alias and, after blanks
if any, an argument list of any depth. -/
inductive Part : List Char → Segment → Prop
  | bare (i : Identifier) (h : i.word ≠ "global") : Part i.word.toList (i.word, none)
  | listed (i : Identifier) (h : i.word ≠ "global") {after : List Char} {ts : List Token}
      {args : List TypeExpr} (hcut : Cut after ts)
      (hspells : Spells (.word i.word :: ts) (.segment (i.word, some args))) :
      Part (i.word.toList ++ after) (i.word, some args)

/-- `Path s earlier last`: the text `s` is these segments with dots between them. -/
inductive Path : List Char → List Segment → Segment → Prop
  | last {s : List Char} {t : Segment} (h : Part s t) : Path s [] t
  | more {s s' : List Char} {t last : Segment} {earlier : List Segment} (h : Part s t)
      (hs : Path s' earlier last) : Path (s ++ '.' :: s') (t :: earlier) last

theorem Part.wordlike {s : List Char} {t : Segment} (h : Part s t) :
    Wordlike t.1 ∧ t.1 ≠ "" ∧ t.1 ≠ "global" := by
  obtain ⟨i, hi, hglobal⟩ : ∃ i : Identifier, t.1 = i.word ∧ i.word ≠ "global" := by
    cases h with
    | bare i h | listed i h hcut hspells => exact ⟨i, rfl, h⟩
  rw [hi]
  exact ⟨i.wordlike, by simp [Identifier.word], hglobal⟩

theorem angle_of_cut {s : List Char} {ts : List Token} (h : Cut s ts)
    (hangle : ts.head? = some (.mark '<')) :
    ∃ gap rest, s = gap ++ '<' :: rest ∧ ∀ c ∈ gap, isBlank c = true := by
  induction h with
  | nil => simp at hangle
  | blank hb h ih =>
    obtain ⟨gap, rest, rfl, hgap⟩ := ih hangle
    exact ⟨_ :: gap, rest, rfl, List.forall_mem_cons.mpr ⟨hb, hgap⟩⟩
  | token hl h ih =>
    obtain rfl := Option.some.inj hangle
    cases hl with
    | word h => cases h
    | verbatim h => cases h
    | mark hb hn hs hv => exact ⟨[], _, rfl, by simp⟩

theorem head_of_listed {w : String} {ts : List Token} {args : List TypeExpr}
    (h : Spells (.word w :: ts) (.segment (w, some args))) : ts.head? = some (.mark '<') := by
  obtain ⟨_, rest, hts, _, _, ⟨hnone, _⟩ | ⟨_, hangle⟩⟩ := h.segment_head
  · contradiction
  · rwa [(List.cons.inj hts).2]

theorem Part.text {s : List Char} {t : Segment} (h : Part s t) :
    t.2 = none ∧ s = t.1.toList ∨ t.2.isSome = true ∧
      ∃ gap rest, s = t.1.toList ++ (gap ++ '<' :: rest) ∧ ∀ c ∈ gap, isBlank c = true := by
  cases h with
  | bare i h => exact .inl ⟨rfl, rfl⟩
  | listed i h hcut hspells =>
    obtain ⟨gap, rest, rfl, hgap⟩ := angle_of_cut hcut (head_of_listed hspells)
    exact .inr ⟨rfl, gap, rest, rfl, hgap⟩

theorem Part.cut {s : List Char} {t : Segment} (h : Part s t) :
    ∃ ts, Cut s ts ∧ Spells ts (.segment t) := by
  cases h with
  | bare i h => exact ⟨_, i.cut_word, .plain i.isIdentifier_word⟩
  | listed i h hcut hspells =>
    obtain ⟨gap, rest, rfl, hgap⟩ := angle_of_cut hcut (head_of_listed hspells)
    have hhead : ∀ c ∈ (gap ++ '<' :: rest).head?, isBlank c = true ∨ c = '<' := by
      cases gap with
      | nil => simp
      | cons c gap => simpa using Or.inl (hgap c List.mem_cons_self)
    refine ⟨_, i.cut_word.append (fun c hc => ?_) (fun hc => ?_) hcut, hspells⟩
    · rcases hhead c hc with hblank | rfl
      · refine Bool.eq_false_iff.mpr fun hword => ?_
        simp [not_blank_of_wordChar c hword] at hblank
      · decide
    · rcases hhead ':' hc with hblank | hangle
      · revert hblank
        decide
      · revert hangle
        decide

theorem Path.cut {s : List Char} {earlier : List Segment} {last : Segment}
    (h : Path s earlier last) : ∃ ts, Cut s ts ∧ Spells ts (.name earlier last) := by
  induction h with
  | last h =>
    obtain ⟨ts, hcut, hspells⟩ := h.cut
    exact ⟨ts, hcut, .lastSegment hspells⟩
  | more h hs ih =>
    obtain ⟨ts, hcut, hspells⟩ := h.cut
    obtain ⟨us, hcuts, hname⟩ := ih
    exact ⟨_, hcut.append_mark (by decide) hcuts, .moreSegments hspells (.inl rfl) hname⟩

theorem Path.wordlike {s : List Char} {earlier : List Segment} {last : Segment}
    (h : Path s earlier last) :
    ∀ t ∈ earlier ++ [last], Wordlike t.1 ∧ t.1 ≠ "" ∧ t.1 ≠ "global" := by
  induction h with
  | last h => simpa using h.wordlike
  | more h hs ih => exact List.forall_mem_cons.mpr ⟨h.wordlike, ih⟩

def isBare (t : Segment) : Bool := t.2.isNone

theorem isBare_iff {t : Segment} : isBare t = true ↔ t.2 = none := Option.isNone_iff_eq_none

/- The words of the parts before the first one with an argument list, and the word of that one. -/
def wordsBefore (earlier : List Segment) : List String := (earlier.takeWhile isBare).map (·.1)

def lastSeen (earlier : List Segment) (last : Segment) : String :=
  ((earlier.dropWhile isBare).headD last).1

/-- What is left of a reference when its text ends at the first angle: the last word before it, and
the words before that one. -/
def cutReference (earlier : List Segment) (last : Segment) : String × String :=
  (dotted (wordsBefore earlier), lastSeen earlier last)

section
variable {t last : Segment} {earlier : List Segment}

theorem wordsBefore_cons (h : t.2 = none) :
    wordsBefore (t :: earlier) = t.1 :: wordsBefore earlier := by
  rw [wordsBefore, List.takeWhile_cons_of_pos (isBare_iff.mpr h), List.map_cons, wordsBefore]

theorem lastSeen_cons (h : t.2 = none) : lastSeen (t :: earlier) last = lastSeen earlier last := by
  rw [lastSeen, List.dropWhile_cons_of_pos (isBare_iff.mpr h), lastSeen]

theorem cut_at_listed (h : t.2.isSome = true) :
    wordsBefore (t :: earlier) = [] ∧ lastSeen (t :: earlier) last = t.1 := by
  have hlisted : ¬isBare t = true := mt isBare_iff.mp (Option.ne_none_iff_isSome.mpr h)
  rw [wordsBefore, lastSeen, List.takeWhile_cons_of_neg hlisted, List.dropWhile_cons_of_neg hlisted]
  exact ⟨rfl, rfl⟩

theorem mem_seen : ∀ w ∈ wordsBefore earlier ++ [lastSeen earlier last],
    ∃ t ∈ earlier ++ [last], t.1 = w := by
  refine List.forall_mem_append.mpr ⟨List.forall_mem_map.mpr fun t ht => ?_, ?_⟩
  · exact ⟨t, List.mem_append_left _ ((List.takeWhile_prefix _).subset ht), rfl⟩
  · refine List.forall_mem_singleton.mpr ⟨_, ?_, rfl⟩
    cases hdrop : earlier.dropWhile isBare with
    | nil => simp
    | cons t rest =>
      have ht : t ∈ earlier := (List.dropWhile_suffix isBare).subset (by simp [hdrop])
      exact List.mem_append_left _ ht

end

theorem filter_segments_dotted {words : List String} (h : ∀ w ∈ words, Wordlike w ∧ w ≠ "") :
    (segments (dotted words)).filter (· ≠ "") = words := by
  by_cases hnil : words = []
  · subst hnil
    decide
  · rw [segments_dotted hnil fun w hw => (h w hw).1.not_mem (by decide)]
    exact List.filter_eq_self.mpr fun w hw => decide_eq_true (h w hw).2

theorem cutReference_eq_iff {earlier : List Segment} {last : Segment}
    (h : ∀ t ∈ earlier, Wordlike t.1 ∧ t.1 ≠ "") :
    (dotted (earlier.map (·.1)), last.1) = cutReference earlier last ↔
      ∀ t ∈ earlier, t.2 = none := by
  constructor
  · intro heq
    have hfront : ∀ t ∈ earlier.takeWhile isBare, Wordlike t.1 ∧ t.1 ≠ "" :=
      fun t ht => h t ((List.takeWhile_prefix _).subset ht)
    have hdotted : dotted (earlier.map (·.1)) = dotted (wordsBefore earlier) :=
      congrArg Prod.fst heq
    have hwords : earlier.map (·.1) = wordsBefore earlier := by
      rw [← filter_segments_dotted (List.forall_mem_map.mpr h), hdotted, wordsBefore,
        filter_segments_dotted (List.forall_mem_map.mpr hfront)]
    have hlength : (earlier.takeWhile isBare).length = earlier.length := by
      simpa [wordsBefore] using (congrArg List.length hwords).symm
    have hwhole := (List.takeWhile_prefix _).eq_of_length hlength
    exact fun t ht => isBare_iff.mp (List.takeWhile_eq_self_iff.mp hwhole t ht)
  · intro hnone
    have hbare : ∀ t ∈ earlier, isBare t = true := fun t ht => isBare_iff.mpr (hnone t ht)
    rw [cutReference, wordsBefore, lastSeen, List.takeWhile_eq_self_iff.mpr hbare,
      List.dropWhile_eq_nil_iff.mpr hbare]
    rfl

section
variable {w gap : List Char} (hw : ∀ c ∈ w, isWordChar c = true)
include hw

theorem takeWhile_word (rest : List Char) :
    (w ++ rest).takeWhile (· ≠ '<') = w ++ rest.takeWhile (· ≠ '<') := by
  refine List.takeWhile_append_of_pos fun c hc => decide_eq_true ?_
  rintro rfl
  exact absurd (hw _ hc) (by decide)

theorem takeWhile_listed (hgap : ∀ c ∈ gap, isBlank c = true) (rest : List Char) :
    (w ++ (gap ++ '<' :: rest)).takeWhile (· ≠ '<') = w ++ gap := by
  have hangle : ∀ c ∈ gap, decide (c ≠ '<') = true := by
    intro c hc
    refine decide_eq_true ?_
    rintro rfl
    exact absurd (hgap _ hc) (by decide)
  rw [takeWhile_word hw, takeWhile_run hangle (by simp)]

end

theorem Path.takeWhile {s : List Char} {earlier : List Segment} {last : Segment}
    (h : Path s earlier last) :
    ∃ gap, (∀ c ∈ gap, isBlank c = true) ∧ s.takeWhile (· ≠ '<') =
      (dotted (wordsBefore earlier ++ [lastSeen earlier last])).toList ++ gap := by
  induction h with
  | @last s t h =>
    have hword := h.wordlike.1
    have hseen : dotted (wordsBefore [] ++ [lastSeen [] t]) = t.1 := String.intercalate_singleton
    rw [hseen]
    rcases h.text with ⟨_, rfl⟩ | ⟨_, gap, rest, rfl, hgap⟩
    · refine ⟨[], by simp, ?_⟩
      simpa only [List.append_nil, List.takeWhile_nil] using takeWhile_word hword []
    · exact ⟨gap, hgap, takeWhile_listed hword hgap rest⟩
  | @more s s' t last earlier h hs ih =>
    have hword := h.wordlike.1
    rcases h.text with ⟨hbare, rfl⟩ | ⟨hlisted, gap, rest, rfl, hgap⟩
    -- A bare part is seen together with what is seen after it, a list hides all that follows.
    · obtain ⟨gap, hgap, htake⟩ := ih
      have hne : wordsBefore earlier ++ [lastSeen earlier last] ≠ [] :=
        List.append_ne_nil_of_right_ne_nil _ (List.cons_ne_nil _ _)
      refine ⟨gap, hgap, ?_⟩
      rw [takeWhile_word hword, List.takeWhile_cons_of_pos (by simp), htake, wordsBefore_cons hbare,
        lastSeen_cons hbare, List.cons_append, toList_dotted_cons t.1 hne, List.append_assoc,
        List.cons_append]
    · obtain ⟨hnone, hname⟩ := cut_at_listed hlisted
      refine ⟨gap, hgap, ?_⟩
      rw [List.append_assoc, List.append_assoc, List.cons_append, takeWhile_listed hword hgap, hnone,
        hname]
      simp [dotted]

/-- A reference as it stands in a source: a path, perhaps led by the alias. -/
def referenceText (aliased : Bool) (s : List Char) : String := String.ofList (aliasText aliased ++ s)

/-- The first word of a type text is no name if it modifies what follows. -/
def StartsModified (aliased : Bool) (earlier : List Segment) (last : Segment) : Prop :=
  aliased = false ∧ (earlier.headD last).1 ∈ ["ref", "readonly", "scoped"]

theorem aliased_spells {ts : List Token} {earlier : List Segment} {last : Segment}
    (h : Spells ts (.name earlier last)) :
    Spells (.word "global" :: .scope :: ts) (.name (("global", none) :: earlier) last) :=
  .moreSegments (.plain (by decide)) (.inr rfl) h

theorem aliased_cut {s : List Char} {ts : List Token} (h : Cut s ts) :
    Cut (referenceText true s).toList (.word "global" :: .scope :: ts) := by
  have hword : Word ('g' :: (['l', 'o', 'b', 'a', 'l'] ++ ':' :: ':' :: s))
      (.word "global") (':' :: ':' :: s) :=
    .intro (by decide) (List.all_eq_true.mp (by decide)) (by simp; decide)
  rw [referenceText, String.toList_ofList]
  exact .token (.word hword) (.token (.scope s) h)

section
variable {s : List Char} {earlier : List Segment} {last : Segment} (h : Path s earlier last)
  (aliased : Bool)
include h

theorem splitReference_path :
    splitReference (referenceText aliased s) = cutReference earlier last := by
  obtain ⟨gap, hgap, htake⟩ := h.takeWhile
  have hwords : ∀ w ∈ wordsBefore earlier ++ [lastSeen earlier last], Wordlike w := by
    intro w hw
    obtain ⟨t, ht, rfl⟩ := mem_seen w hw
    exact (h.wordlike t ht).1
  have hangle : ∀ c ∈ aliasText aliased, decide (c ≠ '<') = true := fun c hc =>
    decide_eq_true (aliasText_plain aliased c hc).2
  refine splitReference_eq aliased hwords hgap ?_
  rw [referenceText, String.toList_ofList, List.takeWhile_append_of_pos hangle, htake,
    List.append_assoc]

theorem read_path (hmodified : ¬StartsModified aliased earlier last) :
    ∃ e, read (referenceText aliased s) = .ok e ∧
      e.reference = (dotted (earlier.map (·.1)), last.1) := by
  obtain ⟨ts, hcut, hspells⟩ := h.cut
  have hglobal : ∀ w ∈ earlier.map (·.1), w ≠ "global" := List.forall_mem_map.mpr fun t ht =>
    (h.wordlike t (List.mem_append_left _ ht)).2.2
  have hqualifier : qualifierOf (earlier.map (·.1)) = dotted (earlier.map (·.1)) := by
    rw [qualifierOf, List.filter_eq_self.mpr fun w hw => decide_eq_true (hglobal w hw)]
  cases aliased with
  | true =>
    refine ⟨_, read_name (aliased_spells hspells) (aliased_cut hcut) (by simp), ?_⟩
    rw [reference_ofSegments, ← hqualifier]
    rfl
  | false =>
    refine ⟨_, read_name hspells (by simpa [referenceText, aliasText]) ?_, ?_⟩
    · exact fun hword => hmodified ⟨rfl, hword⟩
    · rw [reference_ofSegments, hqualifier]

theorem read_modified_path (hmodified : StartsModified aliased earlier last) :
    ∃ fault, read (referenceText aliased s) = .error fault := by
  obtain ⟨rfl, hword⟩ := hmodified
  obtain ⟨ts, hcut, hspells⟩ := h.cut
  exact read_name_of_modifier hspells (by simpa [referenceText, aliasText]) hword

end

/-- The reader of base lists finds the words up to the first part with an argument list, that of
member types all of them, unless the first one modifies a type. They find the same if no part but
the last has a list, and only then. -/
theorem readers_agree_iff {s : List Char} {earlier : List Segment} {last : Segment}
    (h : Path s earlier last) (aliased : Bool) :
    splitReference (referenceText aliased s) = cutReference earlier last ∧
      (StartsModified aliased earlier last →
        ∃ fault, read (referenceText aliased s) = .error fault) ∧
      (¬StartsModified aliased earlier last → ∃ e, read (referenceText aliased s) = .ok e ∧
        e.reference = (dotted (earlier.map (·.1)), last.1)) ∧
      ((∃ e, read (referenceText aliased s) = .ok e ∧
          e.reference = splitReference (referenceText aliased s)) ↔
        ¬StartsModified aliased earlier last ∧ ∀ t ∈ earlier, t.2 = none) := by
  have hwords : ∀ t ∈ earlier, Wordlike t.1 ∧ t.1 ≠ "" := fun t ht =>
    let ⟨hword, hne, _⟩ := h.wordlike t (List.mem_append_left _ ht)
    ⟨hword, hne⟩
  have hsplit := splitReference_path h aliased
  have herror := read_modified_path h aliased
  have hread := read_path h aliased
  refine ⟨hsplit, herror, hread, ?_⟩
  rw [hsplit, ← cutReference_eq_iff hwords]
  constructor
  · rintro ⟨e, hok, hreference⟩
    have hmodified : ¬StartsModified aliased earlier last := fun hmodified => by
      obtain ⟨fault, hfault⟩ := herror hmodified
      rw [hok] at hfault
      contradiction
    obtain ⟨e', hok', hreference'⟩ := hread hmodified
    obtain rfl := Except.ok.inj (hok.symm.trans hok')
    exact ⟨hmodified, hreference'.symm.trans hreference⟩
  · rintro ⟨hmodified, heq⟩
    obtain ⟨e, hok, hreference⟩ := hread hmodified
    exact ⟨e, hok, hreference.trans heq⟩

theorem part_listed (i j : Identifier) (h : i.word ≠ "global") :
    Part (i.word.toList ++ '<' :: (j.word.toList ++ ['>'])) (i.word, some [.plain "" [] j.word]) := by
  have hargument : Cut (j.word.toList ++ ['>']) ([.word j.word] ++ [.mark '>']) :=
    j.cut_word.append_mark (by decide) .nil
  have htype : Spells [.word j.word] (.type (.plain "" [] j.word)) :=
    .named (.lastSegment (.plain j.isIdentifier_word)) (.none _)
  have hopen : Lexeme ('<' :: (j.word.toList ++ ['>'])) (.mark '<') (j.word.toList ++ ['>']) :=
    lexeme_mark (by decide) _
  exact .listed i h (.token hopen hargument) (.generic 0 i.isIdentifier_word (.lastArgument htype))

def wordT : Identifier := ⟨false, 'T', [], by decide, by simp⟩
def wordOuter : Identifier :=
  ⟨false, 'O', ['u', 't', 'e', 'r'], by decide, List.all_eq_true.mp (by decide)⟩
def wordInner : Identifier :=
  ⟨false, 'I', ['n', 'n', 'e', 'r'], by decide, List.all_eq_true.mp (by decide)⟩

/-- A list of the last segment is no obstacle. -/
theorem readers_agree_on_last : ∃ earlier last, Path "Outer.Inner<T>".toList earlier last ∧
    ∃ e, read "Outer.Inner<T>" = .ok e ∧ e.reference = splitReference "Outer.Inner<T>" := by
  have hpath : Path "Outer.Inner<T>".toList [("Outer", none)] ("Inner", some [.plain "" [] "T"]) :=
    .more (.bare wordOuter (by decide)) (.last (part_listed wordInner wordT (by decide)))
  have hmodified : ¬StartsModified false [("Outer", none)] ("Inner", some [.plain "" [] "T"]) := by
    simp [StartsModified]
  refine ⟨_, _, hpath, ?_⟩
  exact (readers_agree_iff hpath false).2.2.2.mpr ⟨hmodified, by simp⟩

/-- The type `Inner` of `Outer<T>` is taken for `Outer` in a base list. -/
theorem readers_disagree : ∃ earlier last, Path "Outer<T>.Inner".toList earlier last ∧
    splitReference "Outer<T>.Inner" = ("", "Outer") ∧
      ∃ e, read "Outer<T>.Inner" = .ok e ∧ e.reference = ("Outer", "Inner") := by
  have hpath : Path "Outer<T>.Inner".toList [("Outer", some [.plain "" [] "T"])] ("Inner", none) :=
    .more (part_listed wordOuter wordT (by decide)) (.last (.bare wordInner (by decide)))
  refine ⟨_, _, hpath, by decide +kernel, ?_⟩
  exact read_path hpath false (by simp [StartsModified])

end Names
end ClassChart
