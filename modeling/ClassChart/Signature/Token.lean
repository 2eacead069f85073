import ClassChart.Text.Blank
import ClassChart.Text.Digit

/-! Tokens of type text: the scope mark `::`, words, and single characters. White space only
separates. The `@` that makes an identifier of a keyword is dropped before a word. -/
namespace ClassChart.Signature
open Text

inductive Token where
  | scope
  | word (name : String)
  | mark (c : Char)
  deriving DecidableEq, Repr

def Token.text : Token → String
  | scope => "::"
  | word name => name
  | mark c => String.singleton c

/- A word may start with a character that no identifier starts with, such as a superscript. -/
def Token.isIdentifier : Token → Bool
  | word name => name.toList.head?.any isNameStart
  | _ => false

def startsWord : List Char → Bool
  | c :: _ => isWordStart c
  | [] => false

def tokens : List Char → List Token
  | [] => []
  | c :: rest =>
    if isBlank c then tokens rest
    else if c = ':' ∧ rest.head? = some ':' then .scope :: tokens rest.tail
    else if isWordStart c then
      .word (String.ofList (c :: rest.takeWhile isWordChar)) :: tokens (rest.dropWhile isWordChar)
    else if c = '@' ∧ startsWord rest then tokens rest
    else .mark c :: tokens rest
termination_by s => s.length
decreasing_by
  all_goals simp only [List.length_cons, List.length_tail]
  · omega
  · omega
  · exact Nat.lt_succ_of_le (List.dropWhile_suffix isWordChar).length_le
  · omega
  · omega

end ClassChart.Signature
