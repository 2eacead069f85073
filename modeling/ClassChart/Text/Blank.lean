/-! White space: tab to carriage return, the separators 1C to 1F, the space, the next-line control
and the space separators of Unicode. The zero-width space and the byte order mark are not blank. -/
namespace ClassChart.Text

def isBlank (c : Char) : Bool :=
  let n := c.toNat
  (9 ≤ n && n ≤ 13) || (28 ≤ n && n ≤ 32) || n == 0x85 || n == 0xA0 || n == 0x1680 ||
    (0x2000 ≤ n && n ≤ 0x200A) || n == 0x2028 || n == 0x2029 || n == 0x202F || n == 0x205F ||
    n == 0x3000

def trimLeft (s : List Char) : List Char := s.dropWhile isBlank
def trimRight (s : List Char) : List Char := (s.reverse.dropWhile isBlank).reverse
def trim (s : List Char) : List Char := trimRight (trimLeft s)

def allBlank (s : String) : Bool := s.toList.all isBlank

end ClassChart.Text
