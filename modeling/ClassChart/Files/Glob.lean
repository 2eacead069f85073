
/-! Glob patterns: `*` is any text, `?` any character, and brackets hold a set of characters. A set
that starts with `!` holds all others. Inside a set a bracket may only come first, a hyphen between two
characters makes a range, and a range that runs backwards is taken out with its ends. -/
namespace ClassChart.Files

inductive SetItem where
  | one (c : Char)
  | range (low high : Char)
  deriving DecidableEq, Repr

def SetItem.holds (c : Char) : SetItem → Bool
  | one d => c = d
  | range low high => low ≤ c && c ≤ high

inductive GlobPart where
  | star
  | any
  | char (c : Char)
  | set (negated : Bool) (items : List SetItem)
  deriving DecidableEq, Repr

/- The text between brackets and what follows it, if the bracket is closed. A closing bracket in
front, or after the mark of negation, is part of the text. -/
def bracketText (s : List Char) : Option (List Char × List Char) :=
  let (front, rest) := match s with
    | '!' :: ']' :: rest => (['!', ']'], rest)
    | '!' :: rest => (['!'], rest)
    | ']' :: rest => ([']'], rest)
    | rest => ([], rest)
  if rest.contains ']' then
    some (front ++ rest.takeWhile (· ≠ ']'), (rest.dropWhile (· ≠ ']')).drop 1)
  else none

/- Cuts the text of a set at the hyphens that make ranges. The first character of a piece, and the
mark of negation with the character after it, make none; nor does a hyphen at the end. -/
def rangePieces : Nat → List Char → List Char → List (List Char)
  | _, piece, [] => if piece = [] then [] else [piece]
  | skip, piece, c :: rest =>
    if skip = 0 ∧ c = '-' then
      if rest = [] then [piece ++ ['-']] else piece :: rangePieces 2 [] rest
    else rangePieces (skip - 1) (piece ++ [c]) rest

/- Takes out ranges that run backwards, from the last to the first. -/
def dropEmptyRanges : List (List Char) → List (List Char)
  | [] => []
  | piece :: more =>
    match dropEmptyRanges more with
    | [] => [piece]
    | next :: after =>
      match piece.getLast?, next.head? with
      | some low, some high =>
        if high < low then (piece.dropLast ++ next.drop 1) :: after else piece :: next :: after
      | _, _ => piece :: next :: after

def markedText : List (List Char) → List (Char × Bool)
  | [] => []
  | [piece] => piece.map (·, false)
  | piece :: more => piece.map (·, false) ++ ('-', true) :: markedText more

def setItems : List (Char × Bool) → List SetItem
  | (low, _) :: ('-', true) :: (high, _) :: rest => .range low high :: setItems rest
  | (c, _) :: rest => .one c :: setItems rest
  | [] => []

def setPart (text : List Char) : GlobPart :=
  let skip := if text.head? = some '!' then 2 else 1
  let pieces := if text.contains '-' then dropEmptyRanges (rangePieces skip [] text) else [text]
  match markedText pieces with
  | ('!', _) :: [] => .any
  | ('!', _) :: rest => .set true (setItems rest)
  | marked => .set false (setItems marked)

/- Fuel is the length of the pattern. -/
def globParts : Nat → List Char → List GlobPart
  | 0, _ => []
  | _ + 1, [] => []
  | fuel + 1, '*' :: rest => .star :: globParts fuel rest
  | fuel + 1, '?' :: rest => .any :: globParts fuel rest
  | fuel + 1, '[' :: rest =>
    match bracketText rest with
    | some (text, rest) => setPart text :: globParts fuel rest
    | none => .char '[' :: globParts fuel rest
  | fuel + 1, c :: rest => .char c :: globParts fuel rest

def GlobPart.holds (c : Char) : GlobPart → Bool
  | star => false
  | any => true
  | char d => c = d
  | set negated items => (items.any (·.holds c)) != negated

def fromHereOn : List Bool → List Bool
  | [] => []
  | b :: rest =>
    let more := fromHereOn rest
    (b || more.headD false) :: more

/- The answers for the ends of a text, the longest first, given those for what is left of each end after
its first character. -/
def afterOne (part : GlobPart) : List Char → List Bool → List Bool
  | c :: s, _ :: rest => (part.holds c && rest.headD false) :: afterOne part s rest
  | _, _ => [false]

/-- Whether the parts fit each end of a text, the longest first and the empty one last. -/
def fitsEnds : List GlobPart → List Char → List Bool
  | [], s => s.map (fun _ => false) ++ [true]
  | .star :: parts, s => fromHereOn (fitsEnds parts s)
  | part :: parts, s => afterOne part s (fitsEnds parts s)

def fits (pattern : String) (text : List Char) : Bool :=
  (fitsEnds (globParts pattern.length pattern.toList) text).headD false

/-- A path is excluded by a pattern that fits all of it or one of its components. -/
def isExcluded (path : String) (patterns : List String) : Bool :=
  let path := path.toList.map fun c => if c = '\\' then '/' else c
  patterns.any fun pattern => fits pattern path || (path.splitOn '/').any (fits pattern)

end ClassChart.Files
