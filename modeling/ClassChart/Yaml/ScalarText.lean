import ClassChart.Yaml.Cursor

/-! The texts of scalars: plain, quoted and block ones, with lines folded as each style folds them.
A reader answers nothing where the text is broken. -/
namespace ClassChart.Yaml

abbrev Reading (α : Type) := Option (α × Cursor)

/-- Plain text, and whether a key may follow because a line was ended. -/
structure Plain where
  text : List Char
  onNewLine : Bool

def isFlowMark (c : Char) : Bool := ",?[]\x7b\x7d".toList.contains c

def plainEnds (inFlow : Bool) : List Char → Bool
  | [] => true
  | c :: rest =>
    isGap (some c) || (inFlow && isFlowMark c) ||
      (c = ':' && (isGap rest.head? || (inFlow && rest.head?.any (",[]\x7b\x7d".toList.contains ·))))

def plainRun (inFlow : Bool) : List Char → List Char
  | [] => []
  | c :: rest => if plainEnds inFlow (c :: rest) then [] else c :: plainRun inFlow rest

/- Line breaks and spaces after a first line break; none where a document mark follows a break. -/
def breaksAfter : Nat → Cursor → List Char → Option (List Char) × Cursor
  | 0, c, found => (some found, c)
  | fuel + 1, c, found =>
    if c.peek = some ' ' then breaksAfter fuel c.next found
    else match c.lineBreak? with
      | none => (some found, c)
      | some (b, c) => if c.atDocumentMark then (none, c) else breaksAfter fuel c (found ++ [b])

/- One line break is a space; more of them stand for all but the first. -/
def folded (first : Char) (more : List Char) : List Char :=
  (if first ≠ '\n' then [first] else if more = [] then [' '] else []) ++ more

def plainSpaces (c : Cursor) : List Char × Bool × Cursor :=
  let (spaces, c) := c.run (· = ' ')
  match c.lineBreak? with
  | none => (spaces, false, c)
  | some (first, c) =>
    if c.atDocumentMark then ([], true, c)
    else match breaksAfter c.rest.length c [] with
      | (none, c) => ([], true, c)
      | (some more, c) => (folded first more, true, c)

def plainFrom : Nat → Bool → Int → Cursor → List Char → Plain → Plain × Cursor
  | 0, _, _, c, _, found => (found, c)
  | fuel + 1, inFlow, indent, c, spaces, found =>
    if c.peek = some '#' then (found, c)
    else
      let text := plainRun inFlow c.rest
      if text = [] then (found, c)
      else
        let text' := found.text ++ spaces ++ text
        let (spaces, ended, c) := plainSpaces (c.forward text.length)
        let found : Plain := ⟨text', ended⟩
        if spaces = [] || c.peek = some '#' || (!inFlow && (c.column : Int) < indent) then (found, c)
        else plainFrom fuel inFlow indent c spaces found

def plain (inFlow : Bool) (indent : Int) (c : Cursor) : Plain × Cursor :=
  plainFrom (c.rest.length + 1) inFlow indent c [] ⟨[], false⟩

def quotedBreaks : Nat → Cursor → List Char → Reading (List Char)
  | 0, _, _ => none
  | fuel + 1, c, found =>
    if c.atDocumentMark then none
    else
      let c := c.skip fun ch => ch = ' ' || ch = '\t'
      match c.lineBreak? with
      | none => some (found, c)
      | some (b, c) => quotedBreaks fuel c (found ++ [b])

def escapes : List (Char × Nat) := [
  ('0', 0), ('a', 7), ('b', 8), ('t', 9), ('\t', 9), ('n', 10), ('v', 11), ('f', 12), ('r', 13),
  ('e', 27), (' ', 32), ('"', 34), ('\\', 92), ('/', 47), ('N', 0x85), ('_', 0xA0), ('L', 0x2028),
  ('P', 0x2029)]

def hexValue? (c : Char) : Option Nat :=
  if c.isDigit then some (c.toNat - 48)
  else if 'a' ≤ c ∧ c ≤ 'f' then some (c.toNat - 87)
  else if 'A' ≤ c ∧ c ≤ 'F' then some (c.toNat - 55)
  else none

def hexNumber? (digits : List Char) : Option Nat :=
  digits.foldlM (fun n c => (hexValue? c).map (n * 16 + ·)) 0

def escape (c : Cursor) : Reading (List Char) :=
  match c.peek with
  | none => none
  | some ch =>
    match escapes.lookup ch, [('x', 2), ('u', 4), ('U', 8)].lookup ch with
    | some code, _ => some ([Char.ofNat code], c.next)
    | none, some width =>
      let digits := c.next.rest.take width
      match hexNumber? digits with
      | some code =>
        if digits.length = width then some ([Char.ofNat code], c.forward (width + 1)) else none
      | none => none
    | none, none =>
      match c.lineBreak? with
      | some (_, c) => quotedBreaks (c.rest.length + 1) c []
      | none => none

def isQuotedStop (c : Char) : Bool := c = '\'' || c = '"' || c = '\\' || c = ' ' || c = '\t' || isBreak c

/-- Text up to the closing quote, and the place after it. In double quotes a backslash escapes; in
single ones a quote written twice stands for itself. -/
def quotedFrom : Nat → Char → Cursor → List Char → Reading (List Char)
  | 0, _, _, _ => none
  | fuel + 1, quote, c, found =>
    let (text, c) := c.run (!isQuotedStop ·)
    let found := found ++ text
    match c.peek with
    | none => none
    | some ch =>
      if ch = quote then
        if quote = '\'' ∧ c.peekAt 1 = some '\'' then quotedFrom fuel quote (c.forward 2) (found ++ ['\''])
        else some (found, c.next)
      else if ch = '\'' || ch = '"' || (ch = '\\' && quote = '\'') then
        quotedFrom fuel quote c.next (found ++ [ch])
      else if ch = '\\' then
        match escape c.next with
        | none => none
        | some (text, c) => quotedFrom fuel quote c (found ++ text)
      else
        let (blanks, c) := c.run fun ch => ch = ' ' || ch = '\t'
        match c.lineBreak? with
        | none => quotedFrom fuel quote c (found ++ blanks)
        | some (first, c) =>
          match quotedBreaks (c.rest.length + 1) c [] with
          | none => none
          | some (more, c) => quotedFrom fuel quote c (found ++ folded first more)

def quotedText (quote : Char) (c : Cursor) : Reading (List Char) :=
  quotedFrom (c.rest.length + 1) quote c.next []

/-- What the header of a block scalar says: whether the line breaks at the end are all kept or all
dropped, and how deep the text is indented. -/
structure BlockHeader where
  keepAll : Option Bool
  indent : Option Nat

def chompOf? (c : Option Char) : Option Bool :=
  if c = some '+' then some true else if c = some '-' then some false else none

def indentOf? (c : Option Char) : Option Nat :=
  match c with
  | some ch => if ch.isDigit then some (ch.toNat - 48) else none
  | none => none

def blockHeader (c : Cursor) : Reading BlockHeader :=
  let (header, c) : BlockHeader × Cursor := match chompOf? c.peek with
    | some keep =>
      match indentOf? c.next.peek with
      | some n => (⟨some keep, some n⟩, c.forward 2)
      | none => (⟨some keep, none⟩, c.next)
    | none =>
      match indentOf? c.peek with
      | some n =>
        match chompOf? c.next.peek with
        | some keep => (⟨some keep, some n⟩, c.forward 2)
        | none => (⟨none, some n⟩, c.next)
      | none => (⟨none, none⟩, c)
  let spaced := c.skip (· = ' ')
  let ended := if spaced.peek = some '#' then spaced.skip (!isBreak ·) else spaced
  if header.indent = some 0 || !(c.peek.isNone || c.peek = some ' ' || atBreak c.peek) then none
  else match ended.lineBreak? with
    | some (_, c) => some (header, c)
    | none => if ended.peek.isNone then some (header, ended) else none

def blockIndent : Nat → Cursor → List Char → Nat → List Char × Nat × Cursor
  | 0, c, breaks, deepest => (breaks, deepest, c)
  | fuel + 1, c, breaks, deepest =>
    if c.peek = some ' ' then blockIndent fuel c.next breaks (max deepest c.next.column)
    else match c.lineBreak? with
      | some (b, c) => blockIndent fuel c (breaks ++ [b]) deepest
      | none => (breaks, deepest, c)

def toColumn (indent : Nat) (c : Cursor) : Cursor :=
  c.forward ((c.rest.take (indent - c.column)).takeWhile (· = ' ')).length

def blockBreaks : Nat → Nat → Cursor → List Char → List Char × Cursor
  | 0, _, c, breaks => (breaks, c)
  | fuel + 1, indent, c, breaks =>
    let c := toColumn indent c
    match c.lineBreak? with
    | some (b, c) => blockBreaks fuel indent c (breaks ++ [b])
    | none => (breaks, c)

def isBlankAhead (c : Cursor) : Bool := c.peek = some ' ' || c.peek = some '\t'

/- Lines of the text. `breaks` stand before the line at the cursor. -/
def blockLines : Nat → Bool → Option Bool → Nat → List Char → Cursor → List Char → List Char × Cursor
  | 0, _, _, _, _, c, found => (found, c)
  | fuel + 1, fold, keepAll, indent, breaks, c, found =>
    let blankFirst := isBlankAhead c
    let (text, c) := c.run (!isBreak ·)
    let found := found ++ breaks ++ text
    let (lineBreak, c) := match c.lineBreak? with
      | some (b, c) => ([b], c)
      | none => ([], c)
    let (breaks, c) := blockBreaks (c.rest.length + 1) indent c []
    if c.column = indent && c.peek.isSome then
      let joint :=
        if fold && lineBreak = ['\n'] && !blankFirst && !isBlankAhead c then
          (if breaks = [] then [' '] else [])
        else lineBreak
      blockLines fuel fold keepAll indent breaks c (found ++ joint)
    else
      (found ++ (if keepAll = some false then [] else lineBreak) ++
        (if keepAll = some true then breaks else []), c)

def blockText (fold : Bool) (parent : Int) (c : Cursor) : Reading (List Char) :=
  match blockHeader c.next with
  | none => none
  | some (header, c) =>
    let least := (max (parent + 1) 1).toNat
    let (breaks, indent, c) := match header.indent with
      | some n =>
        let indent := least + n - 1
        let (breaks, c) := blockBreaks (c.rest.length + 1) indent c []
        (breaks, indent, c)
      | none =>
        let (breaks, deepest, c) := blockIndent (c.rest.length + 1) c [] 0
        (breaks, max least deepest, c)
    if c.column = indent && c.peek.isSome then
      some (blockLines (c.rest.length + 1) fold header.keepAll indent breaks c [])
    else some (if header.keepAll = some true then breaks else [], c)

end ClassChart.Yaml
