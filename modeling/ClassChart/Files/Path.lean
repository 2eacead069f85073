/-! Paths as texts, none of which holds a NUL. Some of these rules only look at the text: they know
nothing of the files. -/
namespace ClassChart.Files

def baseName (path : List Char) : List Char := (path.reverse.takeWhile (· ≠ '/')).reverse

/-- The extension of a path with its dot: what follows the last dot of its last component, unless
only dots stand before it. -/
def extension (path : String) : String :=
  let stem := (baseName path.toList).dropWhile (· = '.')
  if stem.contains '.' then
    String.ofList ('.' :: (stem.reverse.takeWhile (· ≠ '.')).reverse)
  else ""

def isAbsolute (path : String) : Bool := path.toList.head? = some '/'

def components (path : String) : List String := (path.toList.splitOn '/').map String.ofList

/- Two slashes at the start, and no more than two, mean something of their own. -/
def rootOf (path : String) : String :=
  match path.toList with
  | '/' :: '/' :: '/' :: _ => "/"
  | '/' :: '/' :: _ => "//"
  | '/' :: _ => "/"
  | _ => ""

def tidy (path : String) : String :=
  let parts := (components path).filter fun p => p ≠ "" ∧ p ≠ "."
  let text := rootOf path ++ "/".intercalate parts
  if text = "" then "." else text

def stepUp (done : List String) (part : String) : List String :=
  if part = "" ∨ part = "." then done
  else if part = ".." then done.dropLast
  else done ++ [part]

/-- The components of a path from the root, if `cwd` is where relative paths start. -/
def resolve (cwd : List String) (path : String) : List String :=
  (components path).foldl stepUp (if isAbsolute path then [] else cwd)

def ofComponents (parts : List String) : String := "/" ++ "/".intercalate parts

/-- A path as it is reported: without the root of the project in front of it, if it starts with the
text of that root. -/
def reported (root path : String) : String :=
  if root ≠ "" ∧ root.toList.isPrefixOf path.toList then
    String.ofList ((path.toList.drop root.length).dropWhile fun c => c = '/' ∨ c = '\\')
  else path

end ClassChart.Files
