import ClassChart.Files.Glob
import ClassChart.Files.Tree
import ClassChart.Text.Capital

/-! Which files of a directory are source files: those with the extension of the language, in any
letter case, outside of directories that hold build output or settings of tools. Files of a directory
come in the order of their names, then those of its directories in the order of theirs. -/
namespace ClassChart.Files

def languages : List (String × String) := [(".cs", "csharp")]

def languageOf? (path : String) : Option String := languages.lookup (Text.lower (extension path))

def isSource (path : String) : Bool := (languageOf? path).isSome

def skippedNames : List String := [
  ".git", ".vs", ".idea", "node_modules", "TestResults", "artifacts", "bin", "obj", "packages"]

def isSkipped (name : String) : Bool := skippedNames.contains name || name.toList.head? = some '.'

def sortedNames (names : List String) : List String := names.mergeSort fun a b => !(b < a)

def sortedByName (found : List (String × List (List String))) : List (String × List (List String)) :=
  found.mergeSort fun a b => !(b.1 < a.1)

def fileNames (entries : List Entry) : List String :=
  (entries.filter (!·.isDir)).map (·.name)

mutual
def Entry.sources : Entry → List (List String)
  | .file .. | .locked _ => []
  | .dir _ entries =>
    (sortedNames ((fileNames entries).filter isSource)).map ([·]) ++
      (sortedByName (sourcesOfDirs entries)).flatMap fun (name, paths) => paths.map (name :: ·)

def sourcesOfDirs : List Entry → List (String × List (List String))
  | [] => []
  | .file .. :: rest | .locked _ :: rest => sourcesOfDirs rest
  | .dir name entries :: rest =>
    if isSkipped name then sourcesOfDirs rest
    else (name, Entry.sources (.dir name entries)) :: sourcesOfDirs rest
end

def collect (entry : Entry) (exclude : List String) : List (List String) :=
  entry.sources.filter fun path => !isExcluded ("/".intercalate path) exclude

end ClassChart.Files
