import ClassChart.Source.Literal

/-! Lexemes of C# source, as far as declarations need them: words, marks, and what is passed over
whole. White space, comments and directives give none. -/
namespace ClassChart.Source

inductive LexemeKind where
  | word (text : String)
  | literal
  | arrow
  | mark (c : Char)
  deriving DecidableEq, Repr

/-- A lexeme and the octets it covers; `before` is where the lexeme in front of it stops. -/
structure Lexeme where
  kind : LexemeKind
  before : Nat
  start : Nat
  stop : Nat
  deriving DecidableEq, Repr

/- Outside of literals and comments all characters above ASCII are blank or belong to names, and so
does the backslash of a character that is written by its code point. -/
def isSpace (c : Char) : Bool := Text.isBlank c || c.toNat = 0xFEFF

def isWordPart (c : Char) : Bool :=
  c.isAlphanum || c = '_' || c = '\\' || (128 ≤ c.toNat && !isSpace c)

def isWordHead (c : Char) : Bool := isWordPart c && !c.isDigit

def octetAt (total : Nat) : Placed → Nat
  | (_, octet) :: _ => octet
  | [] => total

def wordLength (s : Placed) : Nat := (s.takeWhile fun (c, _) => isWordPart c).length

def shortLexeme : Placed → LexemeKind × Nat
  | [] => (.literal, 0)
  | (c, octet) :: rest =>
    let s := (c, octet) :: rest
    let verbatim := c = '@' && rest.head?.any fun (d, _) => isWordHead d
    if verbatim then
      let size := wordLength rest + 1
      (.word (String.ofList ((s.take size).map (·.1))), size)
    else if isWordHead c then
      let size := wordLength s
      (.word (String.ofList ((s.take size).map (·.1))), size)
    else if c.isDigit then (.literal, wordLength s)
    else if c = '=' && (rest.head?.map (·.1)) = some '>' then (.arrow, 2)
    else (.mark c, 1)

def lexemesFrom (total : Nat) : Nat → (before : Nat) → Placed → List Lexeme
  | 0, _, _ => []
  | _ + 1, _, [] => []
  | fuel + 1, before, (c, octet) :: rest =>
    let s := (c, octet) :: rest
    if isSpace c then lexemesFrom total fuel before rest
    else if c = '#' then lexemesFrom total fuel before (afterDirective rest)
    else match c, rest with
      | '/', ('/', _) :: rest => lexemesFrom total fuel before (afterLine rest)
      | '/', ('*', _) :: rest => lexemesFrom total fuel before (afterBlockComment rest)
      | _, _ =>
        let (kind, after) := match afterLiteral (fuel + 1) s with
          | some after => (.literal, after)
          | none =>
            let (kind, size) := shortLexeme s
            (kind, s.drop size)
        let stop := octetAt total after
        ⟨kind, before, octet, stop⟩ :: lexemesFrom total fuel stop after

def lexemes (text : String) : List Lexeme :=
  let s := placed 0 text.toList
  lexemesFrom text.utf8ByteSize (s.length + 1) 0 s

end ClassChart.Source
