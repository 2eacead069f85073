import ClassChart.Text.Blank

/-! Where the parts of C# source end that no declaration is written in: comments, character and string
literals, and regions that a condition may leave out. Text carries the octet at which each character
starts. Interpolated strings hold expressions, and these hold literals again. -/
namespace ClassChart.Source

abbrev Placed := List (Char × Nat)

def placed (octet : Nat) : List Char → Placed
  | [] => []
  | c :: rest => (c, octet) :: placed (octet + c.utf8Size) rest

def isLineEnd (c : Char) : Bool := c = '\n' || c = '\r'

def afterLine (s : Placed) : Placed := s.dropWhile fun (c, _) => !isLineEnd c

def afterBlockComment : Placed → Placed
  | ('*', _) :: ('/', _) :: rest => rest
  | _ :: rest => afterBlockComment rest
  | [] => []

def afterQuoted (quote : Char) : Placed → Placed
  | ('\\', _) :: _ :: rest => afterQuoted quote rest
  | (c, _) :: rest => if c = quote then rest else afterQuoted quote rest
  | [] => []

/- A quote written twice stands for itself. -/
def afterVerbatim : Placed → Placed
  | ('"', _) :: ('"', _) :: rest => afterVerbatim rest
  | ('"', _) :: rest => rest
  | _ :: rest => afterVerbatim rest
  | [] => []

def runLength (c : Char) (s : Placed) : Nat := (s.takeWhile fun (d, _) => d = c).length

def afterRaw (quotes : Nat) : Placed → Placed
  | [] => []
  | (c, o) :: rest =>
    if quotes ≤ runLength '"' ((c, o) :: rest) then ((c, o) :: rest).drop quotes else afterRaw quotes rest

structure Opening where
  dollars : Nat
  verbatim : Bool
  quotes : Nat
  rest : Placed

/- A string may start with dollars and one `@`, and three quotes or more open a raw one. -/
def opening? (s : Placed) : Option Opening :=
  let marks := s.takeWhile fun (c, _) => c = '$' || c = '@'
  let rest := s.drop marks.length
  let quotes := runLength '"' rest
  let verbatim := marks.any fun (c, _) => c = '@'
  if quotes = 0 then none
  else
    let quotes := if verbatim || quotes < 3 then 1 else quotes
    some ⟨(marks.filter fun (c, _) => c = '$').length, verbatim, quotes, rest.drop quotes⟩

mutual
def afterLiteral : Nat → Placed → Option Placed
  | 0, _ => none
  | fuel + 1, s =>
    match s with
    | ('\'', _) :: rest => some (afterQuoted '\'' rest)
    | s =>
      match opening? s with
      | none => none
      | some o =>
        if 0 < o.dollars then some (afterHoles fuel o o.rest)
        else if 1 < o.quotes then some (afterRaw o.quotes o.rest)
        else if o.verbatim then some (afterVerbatim o.rest)
        else some (afterQuoted '"' o.rest)

/- After the rest of an interpolated string. As many braces as dollars open a hole in a raw one; in
others a brace does, and two braces stand for one. -/
def afterHoles : Nat → Opening → Placed → Placed
  | 0, _, s => s
  | _ + 1, _, [] => []
  | fuel + 1, o, (c, at') :: rest =>
    let s := (c, at') :: rest
    if 1 < o.quotes then
      if o.quotes ≤ runLength '"' s then s.drop o.quotes
      else if c = '\x7b' then
        let braces := runLength '\x7b' s
        if o.dollars ≤ braces then
          afterHoles fuel o ((afterHole fuel 0 (s.drop braces)).drop (o.dollars - 1))
        else afterHoles fuel o (s.drop braces)
      else afterHoles fuel o rest
    else if c = '"' then
      if o.verbatim && runLength '"' s ≠ 1 then afterHoles fuel o (s.drop 2) else rest
    else if c = '\\' && !o.verbatim then afterHoles fuel o (s.drop 2)
    else if c = '\x7b' then
      if (rest.head?.map (·.1)) = some '\x7b' then afterHoles fuel o (s.drop 2)
      else afterHoles fuel o (afterHole fuel 0 rest)
    else afterHoles fuel o rest

/- After the brace that closes a hole, `depth` braces inside it being open. -/
def afterHole : Nat → Nat → Placed → Placed
  | 0, _, s => s
  | _ + 1, _, [] => []
  | fuel + 1, depth, (c, at') :: rest =>
    if c = '\x7b' then afterHole fuel (depth + 1) rest
    else if c = '\x7d' then (if depth = 0 then rest else afterHole fuel (depth - 1) rest)
    else match afterLiteral fuel ((c, at') :: rest) with
      | some rest => afterHole fuel depth rest
      | none => afterHole fuel depth rest
end

def directiveWord (s : Placed) : String :=
  let word := (s.dropWhile fun (c, _) => c = ' ' || c = '\t').takeWhile fun (c, _) => c.isAlpha
  String.ofList (word.map (·.1))

def afterCondition : Nat → Nat → Placed → Placed
  | 0, _, s => s
  | fuel + 1, depth, s =>
    match (afterLine s).dropWhile fun (c, _) => Text.isBlank c with
    | [] => []
    | ('#', _) :: rest =>
      let word := directiveWord rest
      if word = "if" then afterCondition fuel (depth + 1) rest
      else if word = "endif" then
        (if depth = 0 then afterLine rest else afterCondition fuel (depth - 1) rest)
      else afterCondition fuel depth rest
    | s => afterCondition fuel depth s

/- A directive is no more than its line, but a condition reaches to its end. -/
def afterDirective (s : Placed) : Placed :=
  if directiveWord s = "if" then afterCondition (s.length + 1) 0 s else afterLine s

end ClassChart.Source
