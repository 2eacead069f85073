import ClassChart.CommandLine.Argument

/-! What a command line asks for. Of a flag given again the last value counts, or all of them where a
flag takes several. Faults are met from left to right; a missing flag comes after them, and what no flag
took comes last. -/
namespace ClassChart.CommandLine

structure Options where
  path : Option String
  output : String
  namespaces : Option (List String)
  typeNames : Option (List String)
  ignoreDependencies : Bool
  minVisibility : Option String
  excludeSystem : Bool
  systemNamespaces : Option (List String)
  exclude : Option (List String)
  noSymbols : Bool
  config : Option String
  verbose : Bool
  logLevel : String
  deriving DecidableEq, Repr

def Options.default : Options :=
  ⟨none, "output.md", none, none, false, none, false, none, none, false, none, false, "WARNING"⟩

inductive Request where
  | help
  | draw (options : Options)
  deriving DecidableEq, Repr

abbrev Use := Flag × List String

def extended (old : Option (List String)) (more : List String) : Option (List String) :=
  some (old.getD [] ++ more)

def Options.use (o : Options) (f : Flag) (values : List String) : Options :=
  let last := values.getLast?
  match f with
  | .help => o
  | .path => { o with path := last }
  | .output => { o with output := last.getD o.output }
  | .namespaces => { o with namespaces := extended o.namespaces values }
  | .typeNames => { o with typeNames := extended o.typeNames values }
  | .ignoreDependencies => { o with ignoreDependencies := true }
  | .minVisibility => { o with minVisibility := last }
  | .excludeSystem => { o with excludeSystem := true }
  | .systemNamespaces => { o with systemNamespaces := extended o.systemNamespaces values }
  | .exclude => { o with exclude := extended o.exclude values }
  | .noSymbols => { o with noSymbols := true }
  | .config => { o with config := last }
  | .verbose => { o with verbose := true }
  | .logLevel => { o with logLevel := last.getD o.logLevel }

def checkChoice (f : Flag) (values : List String) : Except ArgumentError Unit :=
  match f.choices? with
  | none => .ok ()
  | some choices =>
    match values.find? (!choices.contains ·) with
    | some value => .error (.invalidChoice f value)
    | none => .ok ()

def Options.useAll (o : Options) : List Use → Except ArgumentError Request
  | [] => .ok (.draw o)
  | (f, values) :: rest =>
    match checkChoice f values with
    | .error e => .error e
    | .ok () => if f = .help then .ok .help else (o.use f values).useAll rest

/-- What the last letters of a bundle are: a flag, perhaps with the rest as its value, or letters that no
flag is spelled with. -/
inductive BundleEnd where
  | flag (flag : Flag) (value : Option String)
  | stray (text : String)
  deriving DecidableEq, Repr

/- A flag without values that is spelled with one hyphen may have more letters behind it, each one a
flag; the last of these may take what is left as its value. Nothing may stand between a flag without
values and the letters after it. Answers the flags before the last letters, and these. Fuel is the
number of letters and one more. -/
def unbundle : Nat → Flag → (isShort : Bool) → Attached →
    Except ArgumentError (List Flag × BundleEnd)
  | 0, f, _, given => .error (.ignoredValue f given.value)
  | fuel + 1, f, isShort, given =>
    if f.arity ≠ .none then .ok ([], .flag f (some given.value))
    else match given.value.toList with
      | [] => .error (.ignoredValue f given.value)
      | c :: rest =>
        if !isShort || given.bySign || c = '-' then .error (.ignoredValue f given.value)
        else match Flag.ofSpelling? (String.ofList ['-', c]), rest with
          | none, _ => .ok ([f], .stray ("-" ++ given.value))
          | some next, [] => .ok ([f], .flag next none)
          | some next, '=' :: rest =>
            (unbundle fuel next true ⟨true, String.ofList rest⟩).map fun (more, last) =>
              (f :: more, last)
          | some next, rest =>
            (unbundle fuel next true ⟨false, String.ofList rest⟩).map fun (more, last) =>
              (f :: more, last)

def followers (f : Flag) (words : List (String × Word)) :
    Except ArgumentError (List String × List (String × Word)) :=
  let values := (words.takeWhile (·.2 = .value)).map (·.1)
  match f.arity, values with
  | .none, _ => .ok ([], words)
  | _, [] => .error (.missingValue f)
  | .one, value :: _ => .ok ([value], words.drop 1)
  | .many, values => .ok (values, words.drop values.length)

structure Taken where
  uses : List Use
  strays : List String
  rest : List (String × Word)

def taken (f : Flag) (spelling : String) (attached : Option Attached) (rest : List (String × Word)) :
    Except ArgumentError Taken :=
  let opened : Except ArgumentError (List Flag × BundleEnd) := match attached with
    | none => .ok ([], .flag f none)
    | some given => unbundle (given.value.length + 1) f (!startsWith spelling "--") given
  match opened with
  | .error e => .error e
  | .ok (more, .stray text) => .ok ⟨more.map (·, []), [text], rest⟩
  | .ok (more, .flag last (some value)) => .ok ⟨more.map (·, []) ++ [(last, [value])], [], rest⟩
  | .ok (more, .flag last none) =>
    (followers last rest).map fun (values, rest) => ⟨more.map (·, []) ++ [(last, values)], [], rest⟩

/- Takes words from left to right. Fuel is their number and one more. -/
def takeWords : Nat → Options → List String → List (String × Word) →
    Except ArgumentError (Request × List String)
  | 0, o, extras, _ => .ok (.draw o, extras)
  | _ + 1, o, extras, [] => .ok (.draw o, extras)
  | fuel + 1, o, extras, (text, word) :: rest =>
    match word with
    | .flag f spelling attached =>
      match taken f spelling attached rest with
      | .error e => .error e
      | .ok found =>
        match o.useAll found.uses with
        | .error e => .error e
        | .ok .help => .ok (.help, extras)
        | .ok (.draw o) => takeWords fuel o (extras ++ found.strays) found.rest
    | _ => takeWords fuel o (extras ++ [text]) rest

def request (args : List String) : Except ArgumentError Request :=
  match wordsOf args with
  | .error e => .error e
  | .ok words =>
    match takeWords (words.length + 1) .default [] words with
    | .error e => .error e
    | .ok (.help, _) => .ok .help
    | .ok (.draw o, extras) =>
      if o.path = none then .error (.required .path)
      else if extras ≠ [] then .error (.unrecognized extras)
      else .ok (.draw o)

end ClassChart.CommandLine
