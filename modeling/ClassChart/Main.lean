import ClassChart.CommandLine.Run
import ClassChart.Source.Tree
import ClassChart.Yaml.Document

/-! The executable. It takes in the files that a run may look at, runs on them, and carries out the
outcome. -/
open ClassChart ClassChart.Files ClassChart.CommandLine

def takeInFile (name path : String) : IO Entry := do
  try return .file name (← IO.FS.readBinFile path).toList
  catch _ => return .locked name

/- A file with its content, or a directory with all it holds. Of files only sources are read. -/
partial def takeIn (name path : String) : IO Entry := do
  let here := System.mkFilePath [path]
  if ← here.isDir then
    let mut found := #[]
    for entry in ← here.readDir do
      found := found.push (← takeIn entry.fileName (path ++ "/" ++ entry.fileName))
    return .dir name found.toList
  else if isSource name then takeInFile name path
  else return .file name []

def takeInPath (entries : List Entry) (parts : List String) : IO (List Entry) := do
  let mut entries := entries
  for n in List.range parts.length do
    let front := parts.take n
    let name := parts.getD n ""
    let path := ofComponents (front ++ [name])
    let here := System.mkFilePath [path]
    if ← here.isDir then entries := Entry.putAt (.dir name []) front entries
    else if ← here.pathExists then
      return Entry.putAt (← takeInFile name path) front entries
    else return entries
  return entries

def takeInAll (input : List String) (others : List (List String)) : IO (List Entry) := do
  let path := ofComponents input
  let mut entries ← takeInPath [] input.dropLast
  if ← (System.mkFilePath [path]).isDir then
    match input.getLast? with
    | some name => entries := Entry.putAt (← takeIn name path) input.dropLast entries
    | none => pure ()
  for parts in others do
    entries ← takeInPath entries parts
  return entries

def fileReaders : Readers := ⟨Source.treeOf, Yaml.plainReader⟩

def main (args : List String) : IO UInt32 := do
  let cwd := (components (← IO.currentDir).toString).filter (· ≠ "")
  let env ← IO.getEnv environmentName
  let (input, others) := lookedAt cwd env args
  let entries ← takeInAll input (cwd :: others)
  let outcome := run fileReaders ⟨.dir "" entries, cwd⟩ env args
  if let some (parts, text) := outcome.written then
    IO.FS.writeFile (ofComponents parts) text
  IO.print outcome.out
  IO.eprint outcome.err
  return outcome.status.toUInt32
