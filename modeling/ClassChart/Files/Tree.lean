import ClassChart.Files.Path
import ClassChart.Text.Quoted

/-! Files and directories as a tree, what is found in it along a path, and why nothing is. The
entries of a directory come in no particular order. -/
namespace ClassChart.Files

/-- A locked file has a name but cannot be opened. -/
inductive Entry where
  | file (name : String) (content : List UInt8)
  | locked (name : String)
  | dir (name : String) (entries : List Entry)

namespace Entry

def name : Entry → String
  | file name _ => name
  | locked name => name
  | dir name _ => name

def isDir : Entry → Bool
  | dir .. => true
  | _ => false

def child? (name : String) : Entry → Option Entry
  | dir _ entries => entries.find? (·.name == name)
  | _ => none

/- An entry takes the place of one of its name, but a directory that is there stays as it is. -/
def put (entry : Entry) (entries : List Entry) : List Entry :=
  if entries.any (·.name == entry.name) then
    entries.map fun old =>
      if old.name == entry.name && !(old.isDir && entry.isDir) then entry else old
  else entries ++ [entry]

def putAt (entry : Entry) : List String → List Entry → List Entry
  | [], entries => put entry entries
  | name :: path, entries =>
    let inner := match entries.find? (·.name == name) with
      | some (.dir _ inner) => inner
      | _ => []
    let dir := Entry.dir name (putAt entry path inner)
    if entries.any (·.name == name) then entries.map fun old => if old.name == name then dir else old
    else entries ++ [dir]

end Entry

inductive Cause where
  | missing | denied | notDirectory | isDirectory
  deriving DecidableEq, Repr

def Cause.message (path : String) : Cause → String
  | missing => "[Errno 2] No such file or directory: " ++ Text.quoted path
  | denied => "[Errno 13] Permission denied: " ++ Text.quoted path
  | notDirectory => "[Errno 20] Not a directory: " ++ Text.quoted path
  | isDirectory => "[Errno 21] Is a directory: " ++ Text.quoted path

/-- All files, from the root directory down, and the directory that relative paths start in. -/
structure Disk where
  root : Entry
  cwd : List String

def step (above : List Entry) (here : Entry) (part : String) : Except Cause (List Entry × Entry) :=
  if !here.isDir then .error .notDirectory
  else if part = "" ∨ part = "." then .ok (above, here)
  else if part = ".." then
    match above with
    | [] => .ok ([], here)
    | parent :: more => .ok (more, parent)
  else match here.child? part with
    | none => .error .missing
    | some entry => .ok (here :: above, entry)

def walk : List Entry → Entry → List String → Except Cause Entry
  | _, here, [] => .ok here
  | above, here, part :: rest =>
    match step above here part with
    | .error cause => .error cause
    | .ok (above, here) => walk above here rest

namespace Disk

def find (disk : Disk) (path : String) : Except Cause Entry :=
  if path = "" then .error .missing
  else walk [] disk.root ((if isAbsolute path then [] else disk.cwd) ++ components path)

def isDir (disk : Disk) (path : String) : Bool :=
  match disk.find path with
  | .ok entry => entry.isDir
  | .error _ => false

def isFile (disk : Disk) (path : String) : Bool :=
  match disk.find path with
  | .ok entry => !entry.isDir
  | .error _ => false

def content (disk : Disk) (path : String) : Except Cause (List UInt8) :=
  match disk.find path with
  | .ok (.file _ content) => .ok content
  | .ok (.locked _) => .error .denied
  | .ok (.dir ..) => .error .isDirectory
  | .error cause => .error cause

def refusal? (disk : Disk) (parts : List String) : Option Cause :=
  match walk [] disk.root parts.dropLast with
  | .error cause => some cause
  | .ok parent =>
    if !parent.isDir then some .notDirectory
    else match parts.getLast? with
      | none => some .isDirectory
      | some name =>
        match parent.child? name with
        | some (.dir ..) => some .isDirectory
        | some (.locked _) => some .denied
        | _ => none

end Disk
end ClassChart.Files
