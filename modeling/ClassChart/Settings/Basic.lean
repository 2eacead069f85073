import ClassChart.Declaration.Kind
import ClassChart.Names.Namespace

/-! Settings of a build, and how they are set from dynamic values under their names in a settings
file. A null value sets nothing. -/
namespace ClassChart

/-- Empty lists of type names and namespaces let everything through. -/
structure Settings where
  typeNames : List String
  namespaces : List String
  floor : Visibility
  ignoreDependencies : Bool
  excludeSystem : Bool
  systemNamespaces : List String
  useSymbols : Bool
  exclude : List String
  deriving DecidableEq, Repr

def Settings.default : Settings := ⟨[], [], .pub, false, false, Names.systemDefaults, true, []⟩

abbrev Section := List (String × Value)

/- A key given again takes the new value and stays in its place. -/
def Section.put (section' : Section) (key : String) (v : Value) : Section :=
  if section'.any (·.1 == key) then section'.map fun (k, w) => if k == key then (k, v) else (k, w)
  else section' ++ [(key, v)]

def Section.putAll (section' : Section) (pairs : List (String × Value)) : Section :=
  pairs.foldl (fun s (k, v) => Section.put s k v) section'

def Section.ofPairs (pairs : List (String × Value)) : Section := Section.putAll [] pairs

def Value.isGiven : Value → Bool
  | .null => false
  | _ => true

def Section.laidOver (below above : Section) : Section :=
  Section.putAll below (above.filter (·.2.isGiven))

inductive Field where
  | typeNames | namespaces | floor | ignoreDependencies | excludeSystem | systemNamespaces
  | useSymbols | exclude
  deriving DecidableEq, Repr

def Field.all : List Field :=
  [.typeNames, .namespaces, .floor, .ignoreDependencies, .excludeSystem, .systemNamespaces,
    .useSymbols, .exclude]

def Field.name : Field → String
  | typeNames => "type_names"
  | namespaces => "namespaces"
  | floor => "min_visibility"
  | ignoreDependencies => "ignore_dependencies"
  | excludeSystem => "exclude_system_types"
  | systemNamespaces => "system_namespaces"
  | useSymbols => "use_symbols"
  | exclude => "exclude"

def Field.ofName? (name : String) : Option Field := all.find? (·.name == name)

inductive SettingsError where
  | unknownKeys (keys : List String)
  | notList (key : String)
  | notBool (key : String)
  | unknownVisibility (value : Value)
  | unreadable (path cause : String)
  | invalidYaml (path : String)
  | noMapping (path : String)
  | noSection (path : String)

def SettingsError.message : SettingsError → String
  | unknownKeys keys => "Unknown config keys: " ++ ", ".intercalate keys
  | notList key => "'" ++ key ++ "' must be a list of strings"
  | notBool key => "'" ++ key ++ "' must be true or false"
  | unknownVisibility value => Visibility.unknownMessage value
  | unreadable path cause => "Cannot read config file " ++ path ++ ": " ++ cause
  | invalidYaml path => "Invalid YAML in " ++ path
  | noMapping path => "Config file " ++ path ++ " must contain a mapping"
  | noSection path => "'classloom' section in " ++ path ++ " must be a mapping"

namespace Settings

/- A text stands for the list of itself; other elements are taken as text. -/
def listOf (key : String) : Value → Except SettingsError (List String)
  | .str s => .ok [s]
  | .list vs | .tuple vs => .ok (vs.map Value.text)
  | _ => .error (.notList key)

def boolOf (key : String) : Value → Except SettingsError Bool
  | .bool b => .ok b
  | _ => .error (.notBool key)

def floorOf (v : Value) : Except SettingsError Visibility :=
  match Visibility.ofValue? v with
  | some level => .ok level
  | none => .error (.unknownVisibility v)

def setField (s : Settings) (f : Field) (v : Value) : Except SettingsError Settings :=
  match f with
  | .typeNames => (listOf f.name v).map fun l => { s with typeNames := l }
  | .namespaces => (listOf f.name v).map fun l => { s with namespaces := l }
  | .floor => (floorOf v).map fun level => { s with floor := level }
  | .ignoreDependencies => (boolOf f.name v).map fun b => { s with ignoreDependencies := b }
  | .excludeSystem => (boolOf f.name v).map fun b => { s with excludeSystem := b }
  | .systemNamespaces => (listOf f.name v).map fun l => { s with systemNamespaces := l }
  | .useSymbols => (boolOf f.name v).map fun b => { s with useSymbols := b }
  | .exclude => (listOf f.name v).map fun l => { s with exclude := l }

def set (s : Settings) (f : Field) : Value → Except SettingsError Settings
  | .null => .ok s
  | v => s.setField f v

def unknownKeys (entries : Section) : List String :=
  ((entries.map (·.1)).filter fun key => (Field.ofName? key).isNone).mergeSort fun a b => !(b < a)

def checkKeys (entries : Section) : Except SettingsError Unit :=
  if unknownKeys entries = [] then .ok () else .error (.unknownKeys (unknownKeys entries))

def setEntry (s : Settings) (entry : String × Value) : Except SettingsError Settings :=
  match Field.ofName? entry.1 with
  | some f => s.set f entry.2
  | none => .ok s

/-- Settings from a section, in the order of its entries; unknown keys are refused first. -/
def ofSection (entries : Section) : Except SettingsError Settings := do
  checkKeys entries
  entries.foldlM setEntry Settings.default

def value (s : Settings) : Field → Value
  | .typeNames => .list (s.typeNames.map .str)
  | .namespaces => .list (s.namespaces.map .str)
  | .floor => .level s.floor
  | .ignoreDependencies => .bool s.ignoreDependencies
  | .excludeSystem => .bool s.excludeSystem
  | .systemNamespaces => .list (s.systemNamespaces.map .str)
  | .useSymbols => .bool s.useSymbols
  | .exclude => .list (s.exclude.map .str)

def toSection (s : Settings) : Section := Field.all.map fun f => (f.name, s.value f)

/-- Settings with the given entries laid over them. All fields are set anew. -/
def overlay (s : Settings) (entries : Section) : Except SettingsError Settings :=
  ofSection (s.toSection.laidOver entries)

end Settings
end ClassChart
