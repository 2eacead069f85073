/-! Names and their dotted segments. A text without a dot is its own only segment, and the empty text
has one empty segment. -/
namespace ClassChart.Text

def segments (s : String) : List String := (s.toList.splitOn '.').map String.ofList

def dotted (names : List String) : String := ".".intercalate names

end ClassChart.Text
