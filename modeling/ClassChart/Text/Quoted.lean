import ClassChart.Text.Printable

/-! Quoted text, the form in which a value is named inside a message. The quote is a single one
unless the text holds a single quote and no double one; what is not printable is written by its
code point. -/
namespace ClassChart.Text

def hexDigit (n : Nat) : Char := "0123456789abcdef".toList.getD n '0'

def hexDigits : Nat → Nat → List Char
  | 0, _ => []
  | width + 1, n => hexDigits width (n / 16) ++ [hexDigit (n % 16)]

def quoteFor (s : List Char) : Char :=
  if s.contains '\'' && !s.contains '"' then '"' else '\''

def escaped (quote c : Char) : List Char :=
  let n := c.toNat
  if c = quote || c = '\\' then ['\\', c]
  else if c = '\n' then ['\\', 'n']
  else if c = '\r' then ['\\', 'r']
  else if c = '\t' then ['\\', 't']
  else if isPrintable c then [c]
  else if n < 0x100 then '\\' :: 'x' :: hexDigits 2 n
  else if n < 0x10000 then '\\' :: 'u' :: hexDigits 4 n
  else '\\' :: 'U' :: hexDigits 8 n

def quoted (s : String) : String :=
  let cs := s.toList
  let quote := quoteFor cs
  String.ofList (quote :: cs.flatMap (escaped quote) ++ [quote])

end ClassChart.Text
