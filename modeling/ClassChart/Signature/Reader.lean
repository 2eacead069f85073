import ClassChart.Signature.TypeExpr

/-! Reading a type expression off its tokens, by recursive descent. The readers take fuel, one unit
for each call. Four units for a token and four more are enough: no five calls in a row leave all
tokens in place. -/
namespace ClassChart.Signature

abbrev Reading (α : Type) := Except Fault (α × List Token)

def expect (wanted : Token) : List Token → Except Fault (List Token)
  | [] => .error .ended
  | t :: rest => if t = wanted then .ok rest else .error (.expected wanted t)

mutual
/-- The wrappers after an expression, the first one innermost. -/
def suffixes (e : TypeExpr) : List Token → Reading TypeExpr
  | [] => .ok (e, [])
  | t :: rest =>
    if t = .mark '?' then suffixes (.nullable e) rest
    else if t = .mark '*' then suffixes (.pointer e) rest
    else if t = .mark '[' then rank e rest
    else .ok (e, t :: rest)

def rank (e : TypeExpr) : List Token → Reading TypeExpr
  | [] => .error .ended
  | t :: rest =>
    if t = .mark ',' then rank e rest
    else if t = .mark ']' then suffixes (.array e) rest
    else .error (.expected (.mark ']') t)
end

def dropName : List Token → List Token
  | [] => []
  | t :: rest => if t.isIdentifier then rest else t :: rest

mutual
def readType : Nat → List Token → Reading TypeExpr
  | 0, _ => .error .ended
  | fuel + 1, ts =>
    match ts with
    | .mark '(' :: rest =>
      match readElements fuel rest with
      | .error fault => .error fault
      | .ok (es, after) => suffixes (.tuple es) after
    | ts =>
      match readSegments fuel ts with
      | .error fault => .error fault
      | .ok (earlier, last, after) => suffixes (ofSegments earlier last) after

def readElements : Nat → List Token → Reading (List TypeExpr)
  | 0, _ => .error .ended
  | fuel + 1, ts =>
    match readType fuel ts with
    | .error fault => .error fault
    | .ok (e, rest) =>
      match dropName rest with
      | .mark ',' :: more => (readElements fuel more).map fun (es, rest) => (e :: es, rest)
      | after => (expect (.mark ')') after).map fun rest => ([e], rest)

/- Segments of a dotted name: the earlier ones, and the last. -/
def readSegments : Nat → List Token → Except Fault (List Segment × Segment × List Token)
  | 0, _ => .error .ended
  | _ + 1, [] => .error .ended
  | fuel + 1, t :: rest =>
    if t.isIdentifier then
      match readOptional fuel rest with
      | .error fault => .error fault
      | .ok (args, .mark '.' :: more) | .ok (args, .scope :: more) =>
        (readSegments fuel more).map fun (earlier, last, rest) => ((t.text, args) :: earlier, last, rest)
      | .ok (args, rest) => .ok ([], (t.text, args), rest)
    else .error (.notName t)

def readOptional : Nat → List Token → Reading (Option (List TypeExpr))
  | 0, _ => .error .ended
  | fuel + 1, ts =>
    match ts with
    | .mark '<' :: more => (readArguments fuel more).map fun (args, rest) => (some args, rest)
    | ts => .ok (none, ts)

/- Arguments after the opening angle, with the closing one. Commas in front of the first argument
count its places in a list that names none, and are passed over. -/
def readArguments : Nat → List Token → Reading (List TypeExpr)
  | 0, _ => .error .ended
  | fuel + 1, ts =>
    match ts.dropWhile (· = .mark ',') with
    | .mark '>' :: rest => .ok ([], rest)
    | ts => readArgumentList fuel ts

def readArgumentList : Nat → List Token → Reading (List TypeExpr)
  | 0, _ => .error .ended
  | fuel + 1, ts =>
    match readType fuel ts with
    | .error fault => .error fault
    | .ok (e, .mark ',' :: more) =>
      (readArgumentList fuel more).map fun (es, rest) => (e :: es, rest)
    | .ok (e, after) => (expect (.mark '>') after).map fun rest => ([e], rest)
end

def isModifierWord : Token → Bool
  | .word name => name ∈ ["ref", "readonly", "scoped"]
  | _ => false

def fuelFor (ts : List Token) : Nat := 4 * ts.length + 4

def ofTokens (ts : List Token) : Except Fault TypeExpr :=
  let ts := ts.dropWhile isModifierWord
  match readType (fuelFor ts) ts with
  | .error fault => .error fault
  | .ok (e, []) => .ok e
  | .ok (_, t :: _) => .error (.unexpected t)

def read (text : String) : Except SyntaxError TypeExpr :=
  if Text.allBlank text then .error .empty
  else match ofTokens (tokens text.toList) with
    | .ok e => .ok e
    | .error fault => .error (.malformed text fault)

end ClassChart.Signature
