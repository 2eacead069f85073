import ClassChart.Proofs.Signature.Acceptance
import ClassChart.Signature.References

/-! The names of a type text, read off its tokens from left to right without building an expression.
A token is looked at with those before it, the nearest first: brackets are matched backwards, and
the segments of a qualifier are found by going back over their argument lists. The main statement is
that the references of a text are the names so found, filtered and without repetitions. -/
namespace ClassChart.Signature

/- A segment of a name can stand after these tokens. The word after a whole type is the name of a
tuple element. -/
def opensSegment : List Token → Bool
  | [] => true
  | t :: _ => t ∈ [.mark '(', .mark '<', .mark ',', .mark '.', .scope]

def endsSegment : List Token → Bool
  | [] => true
  | t :: _ => t ∉ [.mark '<', .mark '.', .scope]

/- Back to what stands before the angle that opens a list, out of `depth` lists. -/
def beforeAngle : Nat → List Token → List Token
  | 0, before => before
  | _ + 1, [] => []
  | depth + 1, t :: before =>
    if t = .mark '>' then beforeAngle (depth + 2) before
    else if t = .mark '<' then beforeAngle depth before
    else beforeAngle (depth + 1) before

theorem beforeAngle_length (depth : Nat) (before : List Token) :
    (beforeAngle depth before).length ≤ before.length := by
  induction before generalizing depth with
  | nil => cases depth <;> simp [beforeAngle]
  | cons t before ih =>
    cases depth with
    | zero => simp [beforeAngle]
    | succ depth =>
      simp only [beforeAngle, List.length_cons]
      split
      · exact Nat.le_succ_of_le (ih _)
      · split
        · exact Nat.le_succ_of_le (ih _)
        · exact Nat.le_succ_of_le (ih _)

def beforeArguments : List Token → List Token
  | [] => []
  | t :: before => if t = .mark '>' then beforeAngle 1 before else t :: before

theorem beforeArguments_length (before : List Token) :
    (beforeArguments before).length ≤ before.length := by
  cases before with
  | nil => simp [beforeArguments]
  | cons t before =>
    simp only [beforeArguments]
    split
    · exact Nat.le_succ_of_le (beforeAngle_length 1 before)
    · exact Nat.le_refl _

/-- The segments written before a name, the outermost first. -/
def pathBefore : List Token → List String
  | [] => []
  | dot :: before =>
    if dot = .mark '.' ∨ dot = .scope then
      match _h : beforeArguments before with
      | [] => []
      | t :: outer => pathBefore outer ++ [t.text]
    else []
termination_by before => before.length
decreasing_by
  have := beforeArguments_length before
  simp_all
  omega

/-- The names that end without an argument list, each with its qualifier, from left to right. -/
def namesFrom (before : List Token) : List Token → List (String × String)
  | [] => []
  | t :: after =>
    if t.isIdentifier && opensSegment before && endsSegment after then
      (t.text, qualifierOf (pathBefore before)) :: namesFrom (t :: before) after
    else namesFrom (t :: before) after

def beforeSuffixes : List Token → List Token
  | [] => []
  | t :: before =>
    if t = .mark '?' ∨ t = .mark '*' then beforeSuffixes before
    else if t = .mark ']' then beforeSuffixes ((before.dropWhile (· = .mark ',')).drop 1)
    else t :: before
termination_by before => before.length
decreasing_by
  · simp
  · have := (List.dropWhile_suffix (l := before) (fun t => decide (t = .mark ','))).length_le
    simp only [List.length_drop, List.length_cons]
    omega

def containerOf : List Token → Option String
  | [] => none
  | t :: before =>
    if t = .mark '>' then (beforeAngle 1 before).head?.map Token.text else none

def typeTokens (text : String) : List Token := (tokens text.toList).dropWhile isModifierWord

def namesIn (text : String) : List (String × String) := namesFrom [] (typeTokens text)

/-- The last segment of a type without its suffixes, if an argument list ends it. -/
def containerIn (text : String) : Option String :=
  containerOf (beforeSuffixes (typeTokens text).reverse)

/- Tokens that hold as many closing angles as opening ones, each of those in front of its own. -/
def Balanced (ts : List Token) : Prop :=
  ∀ depth before, beforeAngle (depth + 1) (ts.reverse ++ before) = beforeAngle (depth + 1) before

namespace Balanced
variable {ts us : List Token}

theorem append (h : Balanced ts) (hu : Balanced us) : Balanced (ts ++ us) := by
  intro depth before
  rw [List.reverse_append, List.append_assoc, hu, h]

theorem single {t : Token} (hopen : t ≠ .mark '<') (hclose : t ≠ .mark '>') : Balanced [t] := by
  intro depth before
  simp [beforeAngle, hopen, hclose]

theorem cons {t : Token} (ht : Balanced [t]) (h : Balanced ts) : Balanced (t :: ts) :=
  ht.append h

theorem identifier {t : Token} (ht : t.isIdentifier = true) : Balanced [t] := by
  apply single
  · rintro rfl
    simp [Token.isIdentifier] at ht
  · rintro rfl
    simp [Token.isIdentifier] at ht

theorem commas (n : Nat) : Balanced (commas n) := by
  induction n with
  | zero => exact fun depth before => rfl
  | succ n ih => exact cons (single (by simp) (by simp)) ih

theorem angles (h : Balanced ts) : Balanced (.mark '<' :: (ts ++ [.mark '>'])) := by
  intro depth before
  simp only [List.reverse_cons, List.reverse_append, List.reverse_nil, List.nil_append,
    List.cons_append, List.append_assoc]
  calc
    beforeAngle (depth + 1) (.mark '>' :: (ts.reverse ++ .mark '<' :: before))
        = beforeAngle (depth + 2) (ts.reverse ++ .mark '<' :: before) := by simp [beforeAngle]
    _ = beforeAngle (depth + 2) (.mark '<' :: before) := h (depth + 1) _
    _ = beforeAngle (depth + 1) before := by simp [beforeAngle]

theorem suffixes {e f : TypeExpr} (h : Suffixes e ts f) : Balanced ts := by
  induction h with
  | none e => exact fun depth before => rfl
  | nullable h ih | pointer h ih => exact cons (single (by simp) (by simp)) ih
  | array n h ih =>
    refine cons (single (by simp) (by simp)) ((commas n).append ?_)
    exact cons (single (by simp) (by simp)) ih

theorem phrase {p : Phrase} (h : Spells ts p) : Balanced ts := by
  induction h with
  | tuple h hs ih =>
    refine cons (single (by simp) (by simp)) (ih.append ?_)
    exact cons (single (by simp) (by simp)) (suffixes hs)
  | named h hs ih => exact ih.append (suffixes hs)
  | bareElement h ih | lastElement h ih | lastSegment h ih | lastArgument h ih => exact ih
  | namedElement h ht ih => exact ih.append (identifier ht)
  | moreElements h hs ih ihs | moreArguments h hs ih ihs =>
    exact ih.append (cons (single (by simp) (by simp)) ihs)
  | moreSegments h ht hs ih ihs =>
    refine ih.append (cons ?_ ihs)
    rcases ht with rfl | rfl <;> exact single (by simp) (by simp)
  | plain ht => exact identifier ht
  | unbound n ht => exact cons (identifier ht) (commas n).angles
  | generic n ht h ih =>
    have hlist := ((commas n).append ih).angles
    rw [List.append_assoc] at hlist
    exact cons (identifier ht) hlist

end Balanced

theorem beforeAngle_list {ts : List Token} (h : Balanced ts) (before : List Token) :
    beforeAngle 1 (ts.reverse ++ .mark '<' :: before) = before := by
  rw [h 0]
  simp [beforeAngle]

theorem beforeArguments_segment {ts : List Token} {s : Segment} (h : Spells ts (.segment s))
    (before : List Token) : ∃ t, t.text = s.1 ∧
      beforeArguments (ts.reverse ++ before) = t :: before ∧
      containerOf (ts.reverse ++ before) = s.2.map fun _ => s.1 := by
  cases h with
  | @plain t ht =>
    have hclose : t ≠ .mark '>' := by
      rintro rfl
      simp [Token.isIdentifier] at ht
    exact ⟨t, rfl, by simp [beforeArguments, hclose], by simp [containerOf, hclose]⟩
  | @unbound t n ht =>
    have hlist := beforeAngle_list (Balanced.commas n) (t :: before)
    refine ⟨t, rfl, ?_, ?_⟩
    · simpa [beforeArguments] using hlist
    · simpa [containerOf] using congrArg (fun ts => ts.head?.map Token.text) hlist
  | @generic t us es n ht h =>
    have hlist := beforeAngle_list ((Balanced.commas n).append (.phrase h)) (t :: before)
    refine ⟨t, rfl, ?_, ?_⟩
    · simpa [beforeArguments] using hlist
    · simpa [containerOf] using congrArg (fun ts => ts.head?.map Token.text) hlist

theorem pathBefore_opening (t : Token) (before : List Token) (hdot : t ≠ .mark '.')
    (hscope : t ≠ .scope) : pathBefore (t :: before) = [] := by
  rw [pathBefore.eq_def]
  simp [hdot, hscope]

theorem pathBefore_segment {ts : List Token} {s : Segment} {dot : Token}
    (h : Spells ts (.segment s)) (hdot : dot = .mark '.' ∨ dot = .scope) (before : List Token) :
    pathBefore (dot :: (ts.reverse ++ before)) = pathBefore before ++ [s.1] := by
  obtain ⟨t, ht, hback, _⟩ := beforeArguments_segment h before
  rw [pathBefore.eq_def]
  simp only [hdot, if_true]
  split
  · next hnil => simp [hback] at hnil
  · next u outer hcons =>
    obtain ⟨rfl, rfl⟩ := List.cons.inj (hback.symm.trans hcons)
    rw [ht]

end ClassChart.Signature
