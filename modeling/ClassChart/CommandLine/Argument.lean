import ClassChart.CommandLine.Flag
import ClassChart.Text.Digit

/-! What each argument is by itself: a flag, perhaps with a value attached, or a value. A flag may be cut
short as long as only one flag starts like that. -/
namespace ClassChart.CommandLine

structure Attached where
  bySign : Bool
  value : String
  deriving DecidableEq, Repr

/-- An argument. Two hyphens alone are a separator, after which there are only values. -/
inductive Word where
  | value
  | separator
  | flag (flag : Flag) (spelling : String) (attached : Option Attached)
  | unknown
  deriving DecidableEq, Repr

def cutAtEquals (text : String) : String × Option Attached :=
  let cs := text.toList
  let after := String.ofList ((cs.dropWhile (· ≠ '=')).drop 1)
  (String.ofList (cs.takeWhile (· ≠ '=')), if cs.contains '=' then some ⟨true, after⟩ else none)

def isNegativeNumber (text : String) : Bool :=
  match text.toList with
  | '-' :: body =>
    let whole := body.takeWhile Text.isDigit
    match body.dropWhile Text.isDigit with
    | [] => whole ≠ []
    | '.' :: fraction => fraction ≠ [] && fraction.all Text.isDigit
    | _ => false
  | _ => false

def startsWith (text front : String) : Bool := front.toList.isPrefixOf text.toList

abbrev Candidate := String × Flag × Option Attached

/-- The spellings that an argument may be cut from. With one hyphen, its first letter may also be a
flag by itself and the rest of it the attached value. -/
def candidates (text : String) : List Candidate :=
  if startsWith text "--" then
    let (front, attached) := cutAtEquals text
    (Flag.table.filter fun (s, _) => startsWith s front).map fun (s, f) => (s, f, attached)
  else
    let letter := String.ofList (text.toList.take 2)
    Flag.table.filterMap fun (s, f) =>
      if s = letter then some (s, f, some ⟨false, String.ofList (text.toList.drop 2)⟩)
      else if startsWith s text then some (s, f, none)
      else none

def wordOf (text : String) : Except ArgumentError Word :=
  if text = "" ∨ !startsWith text "-" then .ok .value
  else match Flag.ofSpelling? text with
    | some f => .ok (.flag f text none)
    | none =>
      if text = "-" then .ok .value
      else
        let (front, attached) := cutAtEquals text
        match attached, Flag.ofSpelling? front with
        | some _, some f => .ok (.flag f front attached)
        | _, _ =>
          match candidates text with
          | [(s, f, attached)] => .ok (.flag f s attached)
          | [] =>
            if isNegativeNumber text ∨ text.toList.contains ' ' then .ok .value else .ok .unknown
          | more => .error (.ambiguous text (more.map (·.1)))

def wordsOf : List String → Except ArgumentError (List (String × Word))
  | [] => .ok []
  | text :: rest =>
    if text = "--" then .ok ((text, .separator) :: rest.map (·, .value))
    else match wordOf text with
      | .error e => .error e
      | .ok word => (wordsOf rest).map ((text, word) :: ·)

end ClassChart.CommandLine
