import ClassChart.Files.Tree
import ClassChart.Settings.Basic
import ClassChart.Text.Newline
import ClassChart.Text.Utf8
import ClassChart.Yaml.Reader

/-! Settings from a file. They stand at the top of it or in a section of their own. The file is the
one asked for, or the one that the environment names, or the default one if it is there. How its text
is read as YAML is given. -/
namespace ClassChart.Settings
open Files

def defaultFile : String := "classloom.yaml"
def sectionName : String := "classloom"

/-- What is wrong with a settings file and not told as an error of settings. -/
inductive FileFault where
  | notText (fault : Text.DecodeFault)
  | raised (type message : String)
  | keyNotText (type : String)
  deriving DecidableEq, Repr

def FileFault.message : FileFault → String
  | notText fault => fault.message
  | raised _ message => message
  | keyNotText type => "sequence item 0: expected str instance, " ++ type ++ " found"

inductive LoadError where
  | settings (e : SettingsError)
  | file (fault : FileFault)

def fileFor? (disk : Disk) (path env : Option String) : Option String :=
  let given (p : Option String) : Option String := p.filter (· ≠ "")
  match (given path).or (given env) with
  | some p => some (tidy p)
  | none =>
    let default := ofComponents (disk.cwd ++ [defaultFile])
    if disk.isFile default then some default else none

/- A file that says nothing, in whatever way, is an empty mapping. -/
def saysNothing : Value → Bool
  | .null | .bool false | .int 0 | .str "" | .list [] | .tuple [] | .map [] => true
  | .float x => x == 0.0
  | .other _ _ _ empty => empty
  | _ => false

def isText : Value → Bool
  | .str _ => true
  | _ => false

def sectionFrom (entries : List (Value × Value)) : Except FileFault Section :=
  match entries.find? fun (k, _) => !isText k with
  | some (k, _) => .error (.keyNotText k.typeName)
  | none => .ok (Section.ofPairs (entries.map fun (k, v) => (k.text, v)))

/-- The entries of the section, or of the whole file where there is none. -/
def entriesOf (path : String) (v : Value) : Except SettingsError (List (Value × Value)) :=
  match v with
  | .map entries =>
    match entries.find? fun (k, _) => isText k && k.text == sectionName with
    | none => .ok entries
    | some (_, .map entries) => .ok entries
    | some _ => .error (.noSection path)
  | v => if saysNothing v then .ok [] else .error (.noMapping path)

/-- The section that a file holds. What its reader refuses is an error of settings; anything else that
goes wrong there is none, and neither is a file that is not text. -/
def readSection (yaml : Yaml.Reader) (disk : Disk) (path : String) : Except LoadError Section :=
  match disk.content path with
  | .error cause => .error (.settings (.unreadable path (cause.message path)))
  | .ok content =>
    match Text.decodeStrictly content with
    | .error fault =>
      if yaml.refusesBefore content then .error (.settings (.invalidYaml path))
      else .error (.file (.notText fault))
    | .ok text =>
      match yaml.read (String.ofList (Text.lineFeeds text.toList)) with
      | .error .refused => .error (.settings (.invalidYaml path))
      | .error (.raised type message) => .error (.file (.raised type message))
      | .ok v => do
        let entries ← (entriesOf path v).mapError .settings
        (sectionFrom entries).mapError .file

def fileSection (yaml : Yaml.Reader) (disk : Disk) (path env : Option String) :
    Except LoadError Section :=
  match fileFor? disk path env with
  | some file => readSection yaml disk file
  | none => .ok []

def load (yaml : Yaml.Reader) (disk : Disk) (path env : Option String) (overrides : Section) :
    Except LoadError Settings := do
  let entries ← fileSection yaml disk path env
  let settings ← (ofSection entries).mapError .settings
  (settings.overlay overrides).mapError .settings

end ClassChart.Settings
