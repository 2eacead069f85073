import ClassChart.Text.Blank

/-! The bare name and the qualifier of a type reference, cut out of its text without reading it:
argument lists start at the first angle, an alias ends at the first `::`, the name follows the last
dot. -/
namespace ClassChart.Names
open Text

def afterScope : List Char → Option (List Char)
  | ':' :: ':' :: rest => some rest
  | _ :: rest => afterScope rest
  | [] => none

def cutAtLastDot (s : List Char) : List Char × List Char :=
  if s.contains '.' then
    (((s.reverse.dropWhile (· ≠ '.')).drop 1).reverse, (s.reverse.takeWhile (· ≠ '.')).reverse)
  else ([], s)

def splitReference (text : String) : String × String :=
  let head := trim (text.toList.takeWhile (· ≠ '<'))
  let (qualifier, name) := cutAtLastDot ((afterScope head).getD head)
  (String.ofList (trim qualifier), String.ofList (trim name))

end ClassChart.Names
