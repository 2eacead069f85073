import ClassChart.Source.Lexeme

/-! How far the parts of a declaration reach: each function gives the lexemes after such a part. -/
namespace ClassChart.Source

def Lexeme.isWord (l : Lexeme) (text : String) : Bool := l.kind = .word text

def Lexeme.isMark (l : Lexeme) (c : Char) : Bool := l.kind = .mark c

def Lexeme.isName (l : Lexeme) : Bool :=
  match l.kind with
  | .word _ => true
  | _ => false

def Lexeme.opens (l : Lexeme) : Bool := l.isMark '(' || l.isMark '[' || l.isMark '\x7b'
def Lexeme.closes (l : Lexeme) : Bool := l.isMark ')' || l.isMark ']' || l.isMark '\x7d'

def headIsMark (c : Char) (ls : List Lexeme) : Bool := ls.head?.any (·.isMark c)
def headIsWord (text : String) (ls : List Lexeme) : Bool := ls.head?.any (·.isWord text)
def headIsName (ls : List Lexeme) : Bool := ls.head?.any (·.isName)

def afterClose : Nat → List Lexeme → List Lexeme
  | _, [] => []
  | depth, l :: rest =>
    if l.opens then afterClose (depth + 1) rest
    else if l.closes then (match depth with
      | 0 => rest
      | depth + 1 => afterClose depth rest)
    else afterClose depth rest

def afterAngles : Nat → List Lexeme → List Lexeme
  | _, [] => []
  | depth, l :: rest =>
    if l.isMark '<' then afterAngles (depth + 1) rest
    else if l.isMark '>' then (match depth with
      | 0 => rest
      | depth + 1 => afterAngles depth rest)
    else afterAngles depth rest

/-- After the next semicolon outside of brackets, or before a bracket that closes. -/
def afterSemicolon : Nat → List Lexeme → List Lexeme
  | _, [] => []
  | depth, l :: rest =>
    if l.opens then afterSemicolon (depth + 1) rest
    else if l.closes then (match depth with
      | 0 => l :: rest
      | depth + 1 => afterSemicolon depth rest)
    else if depth = 0 && l.isMark ';' then rest
    else afterSemicolon depth rest

def afterBody : Nat → List Lexeme → List Lexeme
  | _, [] => []
  | depth, l :: rest =>
    if depth = 0 && l.isMark '\x7b' then afterClose 0 rest
    else if l.opens then afterBody (depth + 1) rest
    else if l.closes then (match depth with
      | 0 => l :: rest
      | depth + 1 => afterBody depth rest)
    else if depth = 0 && l.isMark ';' then rest
    else if depth = 0 && l.kind = .arrow then afterSemicolon 0 rest
    else afterBody depth rest

/-- After a statement: a semicolon or a block ends it. What is left of a statement that goes on after a
block counts as another one. -/
def afterStatement : Nat → List Lexeme → List Lexeme
  | _, [] => []
  | depth, l :: rest =>
    if l.opens then afterStatement (depth + 1) rest
    else if l.closes then (match depth with
      | 0 => l :: rest
      | 1 => if l.isMark '\x7d' then rest else afterStatement 0 rest
      | depth + 2 => afterStatement (depth + 1) rest)
    else if depth = 0 && l.isMark ';' then rest
    else afterStatement depth rest

def toBody : Nat → List Lexeme → List Lexeme
  | _, [] => []
  | depth, l :: rest =>
    if depth = 0 && (l.isMark '\x7b' || l.isMark ';' || l.closes) then l :: rest
    else if l.opens then toBody (depth + 1) rest
    else if l.closes then toBody (depth - 1) rest
    else toBody depth rest

def afterOptionalAngles (ls : List Lexeme) : List Lexeme :=
  match ls with
  | l :: rest => if l.isMark '<' then afterAngles 0 rest else ls
  | [] => []

/- After what follows the first identifier of a name: its arguments, and further segments. A segment
needs an identifier that is no keyword of a member. -/
def afterSegments : Nat → List Lexeme → List Lexeme
  | 0, ls => ls
  | fuel + 1, ls =>
    match afterOptionalAngles ls with
    | a :: b :: c :: rest =>
      if a.isMark '.' && b.isName && !b.isWord "this" && !b.isWord "operator" then
        afterSegments fuel (c :: rest)
      else if a.isMark ':' && b.isMark ':' && c.isName then afterSegments fuel rest
      else a :: b :: c :: rest
    | [a, b] => if a.isMark '.' && b.isName then [] else [a, b]
    | ls => ls

def afterSuffixes : Nat → List Lexeme → List Lexeme
  | 0, ls => ls
  | fuel + 1, ls =>
    match ls with
    | l :: rest =>
      if l.isMark '?' || l.isMark '*' then afterSuffixes fuel rest
      else if l.isMark '[' then
        let inner := rest.dropWhile (·.isMark ',')
        if headIsMark ']' inner then afterSuffixes fuel inner.tail else ls
      else ls
    | [] => []

def afterPointer (ls : List Lexeme) : List Lexeme :=
  let ls := ls.dropWhile (·.isName)
  let ls := match ls with
    | l :: rest => if l.isMark '[' then afterClose 0 rest else ls
    | [] => []
  afterOptionalAngles ls

/-- After the type that starts here. Fuel is the number of lexemes. -/
def afterType? (fuel : Nat) (ls : List Lexeme) : Option (List Lexeme) :=
  let ls := if headIsWord "ref" ls then ls.tail else ls
  let ls := if headIsWord "readonly" ls then ls.tail else ls
  match ls with
  | [] => none
  | l :: rest =>
    if l.isMark '(' then some (afterSuffixes fuel (afterClose 0 rest))
    else if l.isWord "delegate" && headIsMark '*' rest then
      some (afterSuffixes fuel (afterPointer rest.tail))
    else if l.isName then some (afterSuffixes fuel (afterSegments fuel rest))
    else none

def stopBefore (ls rest : List Lexeme) : Nat :=
  match rest with
  | l :: _ => l.before
  | [] => (ls.getLast?.map (·.stop)).getD 0

end ClassChart.Source
