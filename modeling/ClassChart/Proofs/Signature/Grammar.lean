import ClassChart.Proofs.List.Runs
import ClassChart.Signature.Reader

/-! The grammar of type texts, as a relation between tokens and what they stand for. It is written
without regard to how a text is read: a rule for each way to put a phrase together. -/
namespace ClassChart.Signature

/- The commas that count the places of a list naming nothing. -/
def commas (n : Nat) : List Token := List.replicate n (.mark ',')

@[simp] theorem reverse_commas (n : Nat) : (commas n).reverse = commas n :=
  List.reverse_replicate ..

/-- `Suffixes e ts f`: the expression `e` with the suffixes `ts` after it is `f`. The first suffix
is the innermost. -/
inductive Suffixes : TypeExpr → List Token → TypeExpr → Prop
  | none (e : TypeExpr) : Suffixes e [] e
  | nullable {e f : TypeExpr} {ts : List Token} (h : Suffixes (.nullable e) ts f) :
      Suffixes e (.mark '?' :: ts) f
  | pointer {e f : TypeExpr} {ts : List Token} (h : Suffixes (.pointer e) ts f) :
      Suffixes e (.mark '*' :: ts) f
  | array {e f : TypeExpr} {ts : List Token} (n : Nat) (h : Suffixes (.array e) ts f) :
      Suffixes e (.mark '[' :: (commas n ++ .mark ']' :: ts)) f

/-- The phrases of the grammar, each with what it stands for: a type, an element of a tuple, its
elements, a dotted name, one segment of a name, and what stands between angles. -/
inductive Phrase where
  | type (e : TypeExpr)
  | element (e : TypeExpr)
  | elements (es : List TypeExpr)
  | name (earlier : List Segment) (last : Segment)
  | segment (s : Segment)
  | arguments (es : List TypeExpr)

/-- `Spells ts p`: the tokens `ts` are the phrase `p`. -/
inductive Spells : List Token → Phrase → Prop
  | tuple {ts ss : List Token} {es : List TypeExpr} {e : TypeExpr} (h : Spells ts (.elements es))
      (hs : Suffixes (.tuple es) ss e) : Spells (.mark '(' :: (ts ++ .mark ')' :: ss)) (.type e)
  | named {ts ss : List Token} {earlier : List Segment} {last : Segment} {e : TypeExpr}
      (h : Spells ts (.name earlier last)) (hs : Suffixes (ofSegments earlier last) ss e) :
      Spells (ts ++ ss) (.type e)
  | bareElement {ts : List Token} {e : TypeExpr} (h : Spells ts (.type e)) :
      Spells ts (.element e)
  | namedElement {ts : List Token} {e : TypeExpr} {t : Token} (h : Spells ts (.type e))
      (ht : t.isIdentifier = true) : Spells (ts ++ [t]) (.element e)
  | lastElement {ts : List Token} {e : TypeExpr} (h : Spells ts (.element e)) :
      Spells ts (.elements [e])
  | moreElements {ts us : List Token} {e : TypeExpr} {es : List TypeExpr}
      (h : Spells ts (.element e)) (hs : Spells us (.elements es)) :
      Spells (ts ++ .mark ',' :: us) (.elements (e :: es))
  | lastSegment {ts : List Token} {s : Segment} (h : Spells ts (.segment s)) :
      Spells ts (.name [] s)
  | moreSegments {ts us : List Token} {t : Token} {s last : Segment} {earlier : List Segment}
      (h : Spells ts (.segment s)) (ht : t = .mark '.' ∨ t = .scope)
      (hs : Spells us (.name earlier last)) : Spells (ts ++ t :: us) (.name (s :: earlier) last)
  | plain {t : Token} (ht : t.isIdentifier = true) : Spells [t] (.segment (t.text, .none))
  | unbound {t : Token} (n : Nat) (ht : t.isIdentifier = true) :
      Spells (t :: .mark '<' :: (commas n ++ [.mark '>'])) (.segment (t.text, some []))
  | generic {t : Token} {ts : List Token} {es : List TypeExpr} (n : Nat)
      (ht : t.isIdentifier = true) (h : Spells ts (.arguments es)) :
      Spells (t :: .mark '<' :: (commas n ++ (ts ++ [.mark '>']))) (.segment (t.text, some es))
  | lastArgument {ts : List Token} {e : TypeExpr} (h : Spells ts (.type e)) :
      Spells ts (.arguments [e])
  | moreArguments {ts us : List Token} {e : TypeExpr} {es : List TypeExpr}
      (h : Spells ts (.type e)) (hs : Spells us (.arguments es)) :
      Spells (ts ++ .mark ',' :: us) (.arguments (e :: es))

/-- A type text as a whole: modifier words, then a type that starts with none of them. -/
inductive Sentence : List Token → TypeExpr → Prop
  | intro {modifiers ts : List Token} {e : TypeExpr}
      (hm : ∀ t ∈ modifiers, isModifierWord t = true)
      (hn : ∀ t ∈ ts.head?, isModifierWord t = false)
      (h : Spells ts (.type e)) : Sentence (modifiers ++ ts) e

def Token.inGrammar : Token → Bool
  | scope => true
  | word name => (word name).isIdentifier
  | mark c => c ∈ ['(', ')', '<', '>', '[', ']', ',', '.', '?', '*']

theorem inGrammar_of_identifier (t : Token) (h : t.isIdentifier = true) : t.inGrammar = true := by
  cases t with
  | scope => rfl
  | word name => exact h
  | mark c => simp [Token.isIdentifier] at h

theorem commas_inGrammar (n : Nat) : ∀ t ∈ commas n, t.inGrammar = true := by
  intro t ht
  rw [List.eq_of_mem_replicate ht]
  rfl

theorem Suffixes.inGrammar {e f : TypeExpr} {ts : List Token} (h : Suffixes e ts f) :
    ∀ t ∈ ts, t.inGrammar = true := by
  induction h with
  | none e => simp
  | nullable h ih => exact List.forall_mem_cons.mpr ⟨rfl, ih⟩
  | pointer h ih => exact List.forall_mem_cons.mpr ⟨rfl, ih⟩
  | array n h ih =>
    refine List.forall_mem_cons.mpr ⟨rfl, List.forall_mem_append.mpr ⟨commas_inGrammar n, ?_⟩⟩
    exact List.forall_mem_cons.mpr ⟨rfl, ih⟩

theorem Spells.inGrammar {ts : List Token} {p : Phrase} (h : Spells ts p) :
    ∀ t ∈ ts, t.inGrammar = true := by
  induction h with
  | tuple h hs ih =>
    refine List.forall_mem_cons.mpr ⟨rfl, List.forall_mem_append.mpr ⟨ih, ?_⟩⟩
    exact List.forall_mem_cons.mpr ⟨rfl, hs.inGrammar⟩
  | named h hs ih => exact List.forall_mem_append.mpr ⟨ih, hs.inGrammar⟩
  | bareElement h ih => exact ih
  | namedElement h ht ih =>
    exact List.forall_mem_append.mpr ⟨ih, by simpa using inGrammar_of_identifier _ ht⟩
  | lastElement h ih => exact ih
  | moreElements h hs ih ihs =>
    exact List.forall_mem_append.mpr ⟨ih, List.forall_mem_cons.mpr ⟨rfl, ihs⟩⟩
  | lastSegment h ih => exact ih
  | moreSegments h ht hs ih ihs =>
    refine List.forall_mem_append.mpr ⟨ih, List.forall_mem_cons.mpr ⟨?_, ihs⟩⟩
    rcases ht with rfl | rfl <;> rfl
  | plain ht => simpa using inGrammar_of_identifier _ ht
  | unbound n ht =>
    refine List.forall_mem_cons.mpr ⟨inGrammar_of_identifier _ ht, ?_⟩
    refine List.forall_mem_cons.mpr ⟨rfl, List.forall_mem_append.mpr ⟨commas_inGrammar n, ?_⟩⟩
    simp [Token.inGrammar]
  | generic n ht h ih =>
    refine List.forall_mem_cons.mpr ⟨inGrammar_of_identifier _ ht, ?_⟩
    refine List.forall_mem_cons.mpr ⟨rfl, List.forall_mem_append.mpr ⟨commas_inGrammar n, ?_⟩⟩
    exact List.forall_mem_append.mpr ⟨ih, by simp [Token.inGrammar]⟩
  | lastArgument h ih => exact ih
  | moreArguments h hs ih ihs =>
    exact List.forall_mem_append.mpr ⟨ih, List.forall_mem_cons.mpr ⟨rfl, ihs⟩⟩

theorem Sentence.inGrammar {ts : List Token} {e : TypeExpr} (h : Sentence ts e) :
    ∀ t ∈ ts, t.inGrammar = true := by
  obtain ⟨hm, hn, hspells⟩ := h
  refine List.forall_mem_append.mpr ⟨fun t ht => ?_, hspells.inGrammar⟩
  have hword := hm t ht
  cases t with
  | scope => rfl
  | mark c => simp [isModifierWord] at hword
  | word name =>
    simp only [isModifierWord, decide_eq_true_eq, List.mem_cons, List.not_mem_nil,
      or_false] at hword
    rcases hword with rfl | rfl | rfl <;> decide

def Phrase.startsWith : Phrase → Token → Prop
  | name _ _, t | segment _, t => t.isIdentifier = true
  | type _, t | element _, t | elements _, t | arguments _, t =>
    t.isIdentifier = true ∨ t = .mark '('

theorem Spells.head {ts : List Token} {p : Phrase} (h : Spells ts p) :
    ∃ t us, ts = t :: us ∧ p.startsWith t := by
  induction h with
  | tuple h hs ih => exact ⟨_, _, rfl, .inr rfl⟩
  | named h hs ih =>
    obtain ⟨t, us, rfl, ht⟩ := ih
    exact ⟨t, _, rfl, .inl ht⟩
  | bareElement h ih | lastElement h ih | lastSegment h ih | lastArgument h ih => exact ih
  | namedElement h ht ih | moreElements h hs ih ihs | moreSegments h ht hs ih ihs
  | moreArguments h hs ih ihs =>
    obtain ⟨t, us, rfl, ht⟩ := ih
    exact ⟨t, _, rfl, ht⟩
  | plain ht | unbound n ht | generic n ht h ih => exact ⟨_, _, rfl, ht⟩

theorem Spells.head_ne {ts : List Token} {p : Phrase} (h : Spells ts p) (c : Char)
    (hc : ¬p.startsWith (.mark c)) (rest : List Token) :
    (ts ++ rest).head? ≠ some (.mark c) := by
  obtain ⟨t, us, rfl, ht⟩ := h.head
  simp only [List.cons_append, List.head?_cons, ne_eq, Option.some.injEq]
  rintro rfl
  exact hc ht

end ClassChart.Signature
