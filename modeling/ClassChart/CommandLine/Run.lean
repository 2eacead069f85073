import ClassChart.Build.Session
import ClassChart.Chart.Diagram
import ClassChart.CommandLine.Request
import ClassChart.Settings.Load
import ClassChart.Source.File

/-! The whole program as a function of its arguments, the files and the environment. What it prints and
writes is part of its outcome, so nothing is printed or written before all has gone well. -/
namespace ClassChart.CommandLine
open Files

/-- What reads the files: the parser of source texts, and the reader of a settings file. -/
structure Readers where
  parse : Source.Parser
  yaml : Yaml.Reader

/-- What a run leaves behind: a status, two texts, and at most one file. It may have been broken off by
a settings file. -/
structure Outcome where
  status : Nat
  out : String
  err : String
  written : Option (List String × String)
  brokenBy : Option Settings.FileFault
  deriving DecidableEq, Repr

def programName : String := "classloom"

def environmentName : String := "CLASSLOOM_CONFIG"

def usage : String :=
  "usage: " ++ programName ++ " --path PATH [options]\n\noptions:\n" ++
    String.join (Flag.all.map fun f => "  " ++ ", ".intercalate f.spellings ++ "\n")

def usageFailure (message : String) : Outcome :=
  ⟨2, "", programName ++ ": error: " ++ message ++ "\n", none, none⟩

def failure (message : String) : Outcome := ⟨1, "", message ++ "\n", none, none⟩

def breakOff (fault : Settings.FileFault) : Outcome :=
  ⟨1, "", fault.message ++ "\n", none, some fault⟩

def listEntry (key : Field) (values : Option (List String)) : Section :=
  match values with
  | some values => [(key.name, .list (values.map .str))]
  | none => []

def Options.overrides (o : Options) : Section :=
  listEntry .typeNames o.typeNames ++ listEntry .namespaces o.namespaces ++
    (o.minVisibility.map fun v => (Field.floor.name, Value.str v)).toList ++
    (if o.ignoreDependencies then [(Field.ignoreDependencies.name, .bool true)] else []) ++
    (if o.excludeSystem then [(Field.excludeSystem.name, .bool true)] else []) ++
    listEntry .systemNamespaces o.systemNamespaces ++
    (if o.noSymbols then [(Field.useSymbols.name, .bool false)] else []) ++
    listEntry .exclude o.exclude

def fullPath (disk : Disk) (path : String) : String :=
  (if isAbsolute path then rootOf path else "/") ++ "/".intercalate (resolve disk.cwd path)

def sourcePaths (root : String) (entry : Entry) (exclude : List String) : List String :=
  let front := if root.toList.getLast? = some '/' then root else root ++ "/"
  (collect entry exclude).map fun path => front ++ "/".intercalate path

def diagnosticText (d : Diagnostic) : String :=
  "  [" ++ d.severity.text ++ "] " ++ d.file ++ ":" ++ toString d.line ++ ": " ++ d.message ++ "\n"

def remarks (verbose : Bool) (report : Build.Report) : String :=
  (if report.chart.isEmpty then "No types matched the filters.\n" else "") ++
    if verbose && !report.diagnostics.isEmpty then
      toString report.diagnostics.length ++ " diagnostics:\n" ++
        String.join (report.diagnostics.map diagnosticText)
    else ""

def deliver (disk : Disk) (o : Options) (report : Build.Report) : Outcome :=
  let text := Diagram.render true report.chart
  if o.output = "-" then ⟨0, text, remarks o.verbose report, none, none⟩
  else
    let parts := resolve disk.cwd o.output
    let target := fullPath disk o.output
    match disk.refusal? parts with
    | some cause => failure ("Cannot write " ++ target ++ ": " ++ cause.message target)
    | none =>
      ⟨0, "Diagram generated at: " ++ target ++ "\n", remarks o.verbose report,
        some (parts, text), none⟩

def draw (readers : Readers) (disk : Disk) (o : Options) (settings : Settings) : Outcome :=
  let root := fullPath disk (o.path.getD "")
  match disk.find root with
  | .ok (.dir name entries) =>
    let paths := sourcePaths root (.dir name entries) settings.exclude
    let readings := paths.map (Source.reading readers.parse disk root)
    match ((Build.Session.new settings).build readings).2 with
    | .ok report => deliver disk o report
    | .error e => failure e.message
  | _ => failure ("Input path is not a directory: " ++ root)

def run (readers : Readers) (disk : Disk) (env : Option String) (args : List String) : Outcome :=
  match request args with
  | .error e => usageFailure e.message
  | .ok .help => ⟨0, usage, "", none, none⟩
  | .ok (.draw o) =>
    match Settings.load readers.yaml disk o.config env o.overrides with
    | .error (.settings e) => usageFailure e.message
    | .error (.file fault) => breakOff fault
    | .ok settings => draw readers disk o settings

/-- The directory that a run reads, and the other paths that it looks at, all from the root. -/
def lookedAt (cwd : List String) (env : Option String) (args : List String) :
    List String × List (List String) :=
  match request args with
  | .ok (.draw o) =>
    let settingsFile := [o.config, env, some Settings.defaultFile].filterMap fun p => p.filter (· ≠ "")
    (resolve cwd (o.path.getD ""), (settingsFile ++ [o.output]).map (resolve cwd))
  | _ => (cwd, [])

end ClassChart.CommandLine
