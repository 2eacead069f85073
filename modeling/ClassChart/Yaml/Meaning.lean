import ClassChart.Value

/-! What a plain scalar means: a null, a boolean, a number, or its own text. Integers may be binary,
octal, hexadecimal or of base 60, and an exponent needs its sign. -/
namespace ClassChart.Yaml

def nullWords : List String := ["", "~", "null", "Null", "NULL"]

def trueWords : List String :=
  ["yes", "Yes", "YES", "true", "True", "TRUE", "on", "On", "ON"]

def falseWords : List String :=
  ["no", "No", "NO", "false", "False", "FALSE", "off", "Off", "OFF"]

def digitValue (c : Char) : Nat :=
  if c.isDigit then c.toNat - 48 else if c.isUpper then c.toNat - 55 else c.toNat - 87

def isDigitOf (base : Nat) (c : Char) : Bool :=
  (c.isDigit || ('a' ≤ c && c ≤ 'f') || ('A' ≤ c && c ≤ 'F')) && digitValue c < base

def isNumeral (base : Nat) (s : List Char) : Bool :=
  s ≠ [] && s.all fun c => c = '_' || isDigitOf base c

def number (base : Nat) (s : List Char) : Nat :=
  (s.filter (· ≠ '_')).foldl (fun n c => n * base + digitValue c) 0

def startsNonzero (s : List Char) : Bool := s.head?.any fun c => '1' ≤ c && c ≤ '9'

def isSixty : List Char → Bool
  | [a] => a.isDigit
  | [a, b] => '0' ≤ a && a ≤ '5' && b.isDigit
  | _ => false

def natural? (s : List Char) : Option Nat :=
  match s with
  | '0' :: 'b' :: rest => if isNumeral 2 rest then some (number 2 rest) else none
  | '0' :: 'x' :: rest => if isNumeral 16 rest then some (number 16 rest) else none
  | ['0'] => some 0
  | '0' :: rest => if isNumeral 8 rest then some (number 8 rest) else none
  | s =>
    if !startsNonzero s then none
    else if isNumeral 10 s then some (number 10 s)
    else match s.splitOn ':' with
      | head :: more =>
        if isNumeral 10 head && more.all isSixty then
          some (more.foldl (fun n part => n * 60 + number 10 part) (number 10 head))
        else none
      | [] => none

def signed : List Char → Bool × List Char
  | '-' :: rest => (true, rest)
  | '+' :: rest => (false, rest)
  | s => (false, s)

def int? (s : List Char) : Option Int :=
  let (negative, body) := signed s
  (natural? body).map fun n => if negative then -(n : Int) else n

def exponent? (s : List Char) : Option Int :=
  match s with
  | [] => some 0
  | e :: sign :: digits =>
    if (e = 'e' ∨ e = 'E') ∧ (sign = '+' ∨ sign = '-') ∧ digits ≠ [] ∧ digits.all Char.isDigit then
      some (if sign = '-' then -(number 10 digits : Int) else number 10 digits)
    else none
  | _ => none

def isPlace (c : Char) : Bool := c.isDigit || c = '_'

def withSign (negative : Bool) (x : Float) : Float := if negative then -x else x

def sixtyDecimal? (s : List Char) : Option Float :=
  let (negative, body) := signed s
  match (body.splitOn ':').reverse with
  | last :: next :: more =>
    let head := (next :: more).getLastD []
    let whole := last.takeWhile (· ≠ '.')
    let fraction := (last.drop whole.length).drop 1
    if last.contains '.' && isSixty whole && fraction.all isPlace && head.head?.any Char.isDigit &&
        head.all isPlace && (next :: more).dropLast.all isSixty then
      let digits := (fraction.filter (· ≠ '_')).length
      let x := Float.ofScientific (number 10 (whole ++ fraction)) true digits
      let add (sum : Float × Float) (part : List Char) : Float × Float :=
        (sum.1 + Float.ofNat (number 10 part) * sum.2, sum.2 * 60)
      some (withSign negative ((next :: more).foldl add (x, 60)).1)
    else none
  | _ => none

/- A number with a point. Without a whole part it has a fraction and no sign. -/
def decimal? (s : List Char) : Option Float :=
  let (negative, body) := signed s
  let whole := body.takeWhile isPlace
  match body.dropWhile isPlace with
  | '.' :: rest =>
    let fraction := rest.takeWhile isPlace
    let starts (part : List Char) : Bool := part.head?.any Char.isDigit
    if starts whole || (whole = [] && body = s && starts fraction) then
      (exponent? (rest.dropWhile isPlace)).map fun (shift : Int) =>
        let places := (fraction.filter (· ≠ '_')).length
        let e : Int := shift - (places : Int)
        withSign negative (Float.ofScientific (number 10 (whole ++ fraction)) (e < 0) e.natAbs)
    else none
  | _ => none

def special? (s : List Char) : Option Float :=
  let (negative, body) := signed s
  let infinity : Float := 1.0 / 0.0
  if [".inf", ".Inf", ".INF"].contains (String.ofList body) then
    some (withSign negative infinity)
  else if [".nan", ".NaN", ".NAN"].contains (String.ofList s) then some (0.0 / 0.0)
  else none

def float? (s : List Char) : Option Float :=
  ((decimal? s).or (sixtyDecimal? s)).or (special? s)

def plainValue (text : List Char) : Value :=
  let s := String.ofList text
  if nullWords.contains s then .null
  else if trueWords.contains s then .bool true
  else if falseWords.contains s then .bool false
  else match float? text, int? text with
    | some x, _ => .float x
    | none, some n => .int n
    | none, none => .str s

end ClassChart.Yaml
