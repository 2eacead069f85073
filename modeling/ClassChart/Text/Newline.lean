/-! How the text of a file is cleaned before it is read: one byte order mark at its start is no part
of it, and a line ends in one line feed however the file ends it. -/
namespace ClassChart.Text

def dropMark : List Char → List Char
  | c :: rest => if c.toNat = 0xFEFF then rest else c :: rest
  | [] => []

def lineFeeds : List Char → List Char
  | '\r' :: '\n' :: rest => '\n' :: lineFeeds rest
  | c :: rest => (if c = '\r' then '\n' else c) :: lineFeeds rest
  | [] => []

end ClassChart.Text
