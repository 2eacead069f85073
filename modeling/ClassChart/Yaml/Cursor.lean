/-! A place in a YAML text: what is left of it, the line and the column. A byte order mark takes no
column. -/
namespace ClassChart.Yaml

structure Cursor where
  rest : List Char
  line : Nat
  column : Nat
  index : Nat

def isBreak (c : Char) : Bool :=
  c = '\n' || c = '\r' || c.toNat = 0x85 || c.toNat = 0x2028 || c.toNat = 0x2029

def isGap : Option Char → Bool
  | none => true
  | some c => c = ' ' || c = '\t' || isBreak c

def atBreak : Option Char → Bool
  | none => false
  | some c => isBreak c

namespace Cursor

def start (text : List Char) : Cursor := ⟨text, 0, 0, 0⟩

def peek (c : Cursor) : Option Char := c.rest.head?

def peekAt (c : Cursor) (n : Nat) : Option Char := c.rest[n]?

def next (c : Cursor) : Cursor :=
  match c.rest with
  | [] => c
  | ch :: rest =>
    if isBreak ch && !(ch = '\r' && rest.head? = some '\n') then ⟨rest, c.line + 1, 0, c.index + 1⟩
    else ⟨rest, c.line, if ch.toNat = 0xFEFF then c.column else c.column + 1, c.index + 1⟩

def forward : Nat → Cursor → Cursor
  | 0, c => c
  | n + 1, c => forward n c.next

def run (p : Char → Bool) (c : Cursor) : List Char × Cursor :=
  let taken := c.rest.takeWhile p
  (taken, c.forward taken.length)

def skip (p : Char → Bool) (c : Cursor) : Cursor := (c.run p).2

/-- The line break at this place, if there is one; all but the two separators of Unicode count as a
line feed. -/
def lineBreak? (c : Cursor) : Option (Char × Cursor) :=
  match c.rest with
  | '\r' :: '\n' :: _ => some ('\n', c.forward 2)
  | ch :: _ =>
    if ch.toNat = 0x2028 ∨ ch.toNat = 0x2029 then some (ch, c.next)
    else if isBreak ch then some ('\n', c.next)
    else none
  | [] => none

def atDocumentMark (c : Cursor) : Bool :=
  (c.rest.take 3 = ['-', '-', '-'] || c.rest.take 3 = ['.', '.', '.']) && isGap (c.peekAt 3)

end Cursor
end ClassChart.Yaml
