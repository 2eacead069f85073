import ClassChart.Declaration.Kind

/-! The flags of the command line: how each is spelled, how many values it takes, and which. -/
namespace ClassChart.CommandLine

inductive Flag where
  | help | path | output | namespaces | typeNames | ignoreDependencies | minVisibility
  | excludeSystem | systemNamespaces | exclude | noSymbols | config | verbose | logLevel
  deriving DecidableEq, Repr

inductive Arity where
  | none | one | many
  deriving DecidableEq, Repr

namespace Flag

def all : List Flag :=
  [help, path, output, namespaces, typeNames, ignoreDependencies, minVisibility, excludeSystem,
    systemNamespaces, exclude, noSymbols, config, verbose, logLevel]

def spellings : Flag → List String
  | help => ["-h", "--help"]
  | path => ["--path", "-p"]
  | output => ["--output", "-o"]
  | namespaces => ["--namespace", "-ns"]
  | typeNames => ["--type-names", "-t"]
  | ignoreDependencies => ["--ignore-dependency"]
  | minVisibility => ["--min-visibility"]
  | excludeSystem => ["--exclude-system"]
  | systemNamespaces => ["--system-namespace"]
  | exclude => ["--exclude"]
  | noSymbols => ["--no-symbols"]
  | config => ["--config"]
  | verbose => ["--verbose", "-v"]
  | logLevel => ["--log-level"]

def arity : Flag → Arity
  | path | output | minVisibility | config | logLevel => .one
  | namespaces | typeNames | systemNamespaces | exclude => .many
  | help | ignoreDependencies | excludeSystem | noSymbols | verbose => .none

def choices? : Flag → Option (List String)
  | minVisibility => some (Visibility.all.map Visibility.text)
  | logLevel => some ["DEBUG", "INFO", "WARNING", "ERROR"]
  | _ => none

def title (f : Flag) : String := "/".intercalate f.spellings

def table : List (String × Flag) := all.flatMap fun f => f.spellings.map (·, f)

def ofSpelling? (spelling : String) : Option Flag := table.lookup spelling

end Flag

inductive ArgumentError where
  | ambiguous (text : String) (spellings : List String)
  | ignoredValue (flag : Flag) (value : String)
  | missingValue (flag : Flag)
  | invalidChoice (flag : Flag) (value : String)
  | required (flag : Flag)
  | unrecognized (texts : List String)
  deriving DecidableEq, Repr

def ArgumentError.message : ArgumentError → String
  | ambiguous text spellings =>
    "ambiguous option: " ++ text ++ " could match " ++ ", ".intercalate spellings
  | ignoredValue flag value =>
    "argument " ++ flag.title ++ ": ignored explicit argument " ++ Text.quoted value
  | missingValue flag =>
    "argument " ++ flag.title ++ ": expected " ++
      (if flag.arity = .many then "at least one argument" else "one argument")
  | invalidChoice flag value =>
    "argument " ++ flag.title ++ ": invalid choice: " ++ Text.quoted value ++ " (choose from " ++
      ", ".intercalate ((flag.choices?.getD []).map Text.quoted) ++ ")"
  | required flag => "the following arguments are required: " ++ flag.title
  | unrecognized texts => "unrecognized arguments: " ++ " ".intercalate texts

end ClassChart.CommandLine
