import ClassChart.Yaml.ScalarText

/-! Lexemes of YAML. Indentation is turned into lexemes that open and close a collection. What is a
key is known only at the colon behind it: until then the place is remembered where a key could have
started, and its mark is put in afterwards. Anchors, aliases and tags are refused. -/
namespace ClassChart.Yaml

inductive Lexeme where
  | directive
  | documentStart
  | documentEnd
  | openBlockList
  | openBlockMap
  | closeBlock
  | openList
  | closeList
  | openMap
  | closeMap
  | item
  | comma
  | key
  | value
  | scalar (text : List Char) (isPlain : Bool)
  deriving DecidableEq, Repr

/-- Where a key may have started: how many lexemes stood before it, and whether it has to be one. -/
structure KeyStart where
  position : Nat
  required : Bool
  line : Nat
  column : Nat
  index : Nat

/-- `flow` counts the open brackets, `indent` is the column of the innermost block collection, and
`outer` holds those around it. There is at most one possible key for a depth of brackets. -/
structure Lexer where
  cursor : Cursor
  lexemes : List Lexeme
  flow : Nat
  indent : Int
  outer : List Int
  keyAllowed : Bool
  keys : List (Nat × KeyStart)

namespace Lexer

def start (text : List Char) : Lexer := ⟨.start text, [], 0, -1, [], true, []⟩

def emit (lx : Lexer) (l : Lexeme) : Lexer := { lx with lexemes := lx.lexemes ++ [l] }

def inFlow (lx : Lexer) : Bool := lx.flow ≠ 0

def column (lx : Lexer) : Int := lx.cursor.column

def moveBy (lx : Lexer) (n : Nat) : Lexer := { lx with cursor := lx.cursor.forward n }

def toNext : Nat → Lexer → Lexer
  | 0, lx => lx
  | fuel + 1, lx =>
    let c := lx.cursor.skip (· = ' ')
    let c := if c.peek = some '#' then c.skip (!isBreak ·) else c
    match c.lineBreak? with
    | some (_, c) => toNext fuel { lx with cursor := c, keyAllowed := lx.keyAllowed || !lx.inFlow }
    | none => { lx with cursor := c }

/- A possible key is given up on the next line, or after a kilobyte; a required one is an error. -/
def dropStale (lx : Lexer) : Option Lexer :=
  let isStale (k : KeyStart) : Bool := k.line ≠ lx.cursor.line || 1024 < lx.cursor.index - k.index
  if lx.keys.any fun (_, k) => isStale k && k.required then none
  else some { lx with keys := lx.keys.filter fun (_, k) => !isStale k }

def dropKey (lx : Lexer) : Option Lexer :=
  match lx.keys.lookup lx.flow with
  | some k => if k.required then none else some { lx with keys := lx.keys.filter (·.1 ≠ lx.flow) }
  | none => some lx

def saveKey (lx : Lexer) : Option Lexer :=
  if lx.keyAllowed then
    lx.dropKey.map fun lx =>
      let k : KeyStart := ⟨lx.lexemes.length, !lx.inFlow && lx.indent = lx.column, lx.cursor.line,
        lx.cursor.column, lx.cursor.index⟩
      { lx with keys := (lx.flow, k) :: lx.keys }
  else some lx

def closeTo (column : Int) : List Int → Lexer → Lexer
  | [], lx => lx
  | parent :: outer, lx =>
    if column < lx.indent then
      closeTo column outer { (lx.emit .closeBlock) with indent := parent, outer := outer }
    else lx

def unwind (lx : Lexer) (column : Int) : Lexer :=
  if lx.inFlow then lx else closeTo column lx.outer lx

/- Opens a collection at a column that lies deeper than the one around it, before lexeme `position`. -/
def deepen (lx : Lexer) (column : Int) (position : Nat) (opening : Lexeme) : Lexer :=
  if lx.indent < column then
    let lexemes := lx.lexemes.insertIdx position opening
    { lx with indent := column, outer := lx.indent :: lx.outer, lexemes := lexemes }
  else lx

def deepenHere (lx : Lexer) (opening : Lexeme) : Lexer :=
  lx.deepen lx.column lx.lexemes.length opening

def topLevel (lx : Lexer) : Option Lexer :=
  (lx.unwind (-1)).dropKey.map fun lx => { lx with keyAllowed := false }

def directiveName (c : Cursor) : List Char × Cursor :=
  c.next.run fun ch => ch.isAlphanum || ch = '-' || ch = '_'

/- A version directive has to name version 1; directives with other names say nothing. -/
def directiveEnd? (c : Cursor) : Option Cursor :=
  let (name, c) := directiveName c
  if name = [] ∨ !(c.peek.isNone ∨ c.peek = some ' ' ∨ atBreak c.peek) then none
  else
    let (line, c) := c.run (!isBreak ·)
    let major := ((line.dropWhile (· = ' ')).takeWhile Char.isDigit)
    if name = "YAML".toList ∧ major ≠ ['1'] then none else some c

def isIndicator (ch : Char) : Bool := "-?:,[]\x7b\x7d#&*!|>'\"%@".toList.contains ch || ch.toNat = 0x60

def startsPlain (lx : Lexer) (ch : Char) : Bool :=
  (!isGap (some ch) && !isIndicator ch) ||
    (!isGap (lx.cursor.peekAt 1) && (ch = '-' || (!lx.inFlow && (ch = '?' || ch = ':'))))

def openFlow (lx : Lexer) (l : Lexeme) : Option Lexer :=
  lx.saveKey.map fun lx => { (lx.emit l).moveBy 1 with flow := lx.flow + 1, keyAllowed := true }

def closeFlow (lx : Lexer) (l : Lexeme) : Option Lexer :=
  if lx.flow = 0 then none
  else lx.dropKey.map fun lx => { (lx.emit l).moveBy 1 with flow := lx.flow - 1, keyAllowed := false }

def takeItem (lx : Lexer) : Option Lexer :=
  if lx.inFlow || !lx.keyAllowed then none
  else (lx.deepenHere .openBlockList).dropKey.map fun lx =>
    { (lx.emit .item).moveBy 1 with keyAllowed := true }

def takeKey (lx : Lexer) : Option Lexer :=
  if !lx.inFlow && !lx.keyAllowed then none
  else (if lx.inFlow then lx else lx.deepenHere .openBlockMap).dropKey.map fun lx =>
    { (lx.emit .key).moveBy 1 with keyAllowed := !lx.inFlow }

def takeValue (lx : Lexer) : Option Lexer :=
  match lx.keys.lookup lx.flow with
  | some k =>
    let lx := { lx with keys := lx.keys.filter (·.1 ≠ lx.flow),
                        lexemes := lx.lexemes.insertIdx k.position .key }
    let lx := if lx.inFlow then lx else lx.deepen k.column k.position .openBlockMap
    some { (lx.emit .value).moveBy 1 with keyAllowed := false }
  | none =>
    if !lx.inFlow && !lx.keyAllowed then none
    else (if lx.inFlow then lx else lx.deepenHere .openBlockMap).dropKey.map fun lx =>
      { (lx.emit .value).moveBy 1 with keyAllowed := !lx.inFlow }

def takeQuoted (lx : Lexer) (quote : Char) : Option Lexer :=
  match lx.saveKey with
  | none => none
  | some lx => (quotedText quote lx.cursor).map fun (text, c) =>
    { (lx.emit (.scalar text false)) with cursor := c, keyAllowed := false }

def takeBlock (lx : Lexer) (fold : Bool) : Option Lexer :=
  match lx.dropKey with
  | none => none
  | some lx => (blockText fold lx.indent lx.cursor).map fun (text, c) =>
    { (lx.emit (.scalar text false)) with cursor := c, keyAllowed := true }

def takePlain (lx : Lexer) : Option Lexer :=
  lx.saveKey.map fun lx =>
    let (found, c) := plain lx.inFlow (lx.indent + 1) lx.cursor
    { (lx.emit (.scalar found.text true)) with cursor := c, keyAllowed := found.onNewLine }

def takeAt (lx : Lexer) (ch : Char) : Option Lexer :=
  let atStart := lx.cursor.column = 0
  let follows := lx.cursor.peekAt 1
  if atStart ∧ ch = '%' then
    match lx.topLevel, directiveEnd? lx.cursor with
    | some lx, some c => some { (lx.emit .directive) with cursor := c }
    | _, _ => none
  else if atStart ∧ lx.cursor.atDocumentMark then
    lx.topLevel.map fun lx => (lx.emit (if ch = '-' then .documentStart else .documentEnd)).moveBy 3
  else if ch = '[' then lx.openFlow .openList
  else if ch = '\x7b' then lx.openFlow .openMap
  else if ch = ']' then lx.closeFlow .closeList
  else if ch = '\x7d' then lx.closeFlow .closeMap
  else if ch = ',' then
    lx.dropKey.map fun lx => { (lx.emit .comma).moveBy 1 with keyAllowed := true }
  else if ch = '-' ∧ isGap follows then lx.takeItem
  else if ch = '?' ∧ (lx.inFlow ∨ isGap follows) then lx.takeKey
  else if ch = ':' ∧ (lx.inFlow ∨ isGap follows) then lx.takeValue
  else if ch = '|' ∧ !lx.inFlow then lx.takeBlock false
  else if ch = '>' ∧ !lx.inFlow then lx.takeBlock true
  else if ch = '\'' ∨ ch = '"' then lx.takeQuoted ch
  else if lx.startsPlain ch then lx.takePlain
  else none

def run : Nat → Lexer → Option (List Lexeme)
  | 0, _ => none
  | fuel + 1, lx =>
    match (toNext (lx.cursor.rest.length + 1) lx).dropStale with
    | none => none
    | some lx =>
      let lx := lx.unwind lx.column
      match lx.cursor.peek with
      | some ch => (lx.takeAt ch).bind (run fuel)
      | none => (lx.unwind (-1)).dropKey.map (·.lexemes)

end Lexer

def isAllowed (c : Char) : Bool :=
  let n := c.toNat
  n = 9 || n = 10 || n = 13 || (32 ≤ n && n ≤ 126) || n = 0x85 || (0xA0 ≤ n && n ≤ 0xFFFD) ||
    0x10000 ≤ n

/-- The lexemes of a text, or nothing if it is broken. A byte order mark may stand in front. -/
def lexemes? (text : List Char) : Option (List Lexeme) :=
  if text.all isAllowed then
    let text := match text with
      | c :: rest => if c.toNat = 0xFEFF then rest else c :: rest
      | [] => []
    (Lexer.start text).run (text.length + 2)
  else none

end ClassChart.Yaml
