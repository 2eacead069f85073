import ClassChart.Source.Span
import ClassChart.Syntax.Node

/-! The syntax tree of C# source that has no syntax errors. It holds what declarations are made of;
bodies, initialisers, attributes, fields and statements are left out. -/
namespace ClassChart.Source
open Syntax

def branch (kind : NodeKind) (role : Option Role) (start stop : Nat) (children : List Node) : Node :=
  .mk ⟨kind, start, stop, role, true, false, false⟩ children

def leaf (kind : NodeKind) (role : Option Role) (l : Lexeme) : Node :=
  branch kind role l.start l.stop []

def spanning (kind : NodeKind) (role : Option Role) (ls rest : List Lexeme) (children : List Node) :
    Node :=
  branch kind role ((ls.head?.map (·.start)).getD 0) (stopBefore ls rest) children

def typeNode (role : Role) (ls rest : List Lexeme) : Node :=
  spanning (.other "type") (some role) ls rest []

def modifierWords : List String := [
  "public", "private", "protected", "internal", "static", "abstract", "sealed", "virtual",
  "override", "readonly", "extern", "unsafe", "async", "partial", "new", "volatile", "const",
  "file", "fixed", "required"]

/- Words that are modifiers only in front of something else. -/
def softModifiers : List String := ["async", "file", "partial", "required"]

def isModifier (l : Lexeme) (rest : List Lexeme) : Bool :=
  match l.kind with
  | .word text =>
    modifierWords.contains text &&
      (!softModifiers.contains text || headIsName rest || headIsMark '(' rest)
  | _ => false

def isModifierWord (l : Lexeme) : Bool :=
  match l.kind with
  | .word text => modifierWords.contains text
  | _ => false

/-- The modifiers of a declaration. The `ref` of a struct is none of them. -/
def modifierNodes : List Lexeme → List Node × List Lexeme
  | [] => ([], [])
  | l :: rest =>
    if isModifier l rest then
      let (ms, after) := modifierNodes rest
      (leaf .modifier none l :: ms, after)
    else if l.isWord "ref" && headIsWord "struct" (rest.dropWhile isModifierWord) then
      modifierNodes rest
    else ([], l :: rest)

def afterAttributes : Nat → List Lexeme → List Lexeme
  | 0, ls => ls
  | fuel + 1, ls =>
    match ls with
    | l :: rest => if l.isMark '[' then afterAttributes fuel (afterClose 0 rest) else ls
    | [] => []

/-- The kind of type that a declaration starts to declare, with the nodes of its keywords. A record is
one only if a word follows, since its keyword may also be a name. -/
def typeKeyword? : List Lexeme → Option (TypeKind × List Node × List Lexeme)
  | [] => none
  | l :: rest =>
    match l.kind with
    | .word "class" => some (.class, [], rest)
    | .word "interface" => some (.interface, [], rest)
    | .word "struct" => some (.struct, [], rest)
    | .word "enum" => some (.enum, [], rest)
    | .word "record" =>
      match rest with
      | next :: after =>
        if next.isWord "struct" then some (.record, [leaf .structWord none next], after)
        else if next.isWord "class" then some (.record, [], after)
        else if next.isName then some (.record, [], rest)
        else none
      | [] => none
    | _ => none

/- Entries of a base list, up to constraints or a body. Constructor arguments are passed over. -/
def baseNodes : Nat → List Lexeme → List Node × List Lexeme
  | 0, ls => ([], ls)
  | fuel + 1, ls =>
    match afterType? fuel ls with
    | none => ([], ls)
    | some after =>
      let entry := spanning (.other "type") none ls after []
      let rest := match after with
        | l :: more => if l.isMark '(' then afterClose 0 more else after
        | [] => []
      if headIsMark ',' rest then
        let (more, rest) := baseNodes fuel rest.tail
        (entry :: more, rest)
      else ([entry], rest)

def parameterModifiers : List String := ["this", "scoped", "ref", "out", "in", "readonly"]

def isParameterModifier (l : Lexeme) : Bool :=
  match l.kind with
  | .word text => parameterModifiers.contains text
  | _ => false

def afterElement : Nat → List Lexeme → List Lexeme
  | _, [] => []
  | depth, l :: rest =>
    if l.opens then afterElement (depth + 1) rest
    else if l.closes then (match depth with
      | 0 => l :: rest
      | depth + 1 => afterElement depth rest)
    else if depth = 0 && l.isMark ',' then l :: rest
    else afterElement depth rest

/-- A parameter with its type and name; a `params` array is none. -/
def parameterNode? (fuel : Nat) (ls : List Lexeme) : Option Node × List Lexeme :=
  let bare := afterAttributes fuel ls
  let typed := bare.dropWhile isParameterModifier
  match afterType? fuel typed with
  | some (name :: rest) =>
    let after := afterElement 0 rest
    if headIsWord "params" bare then (none, after)
    else (some (spanning .parameter none ls after
      [typeNode .type typed (name :: rest), leaf .identifier (some .name) name]), after)
  | _ => (none, afterElement 0 bare)

def parameterNodes : Nat → List Lexeme → List Node × List Lexeme
  | 0, ls => ([], ls)
  | fuel + 1, ls =>
    match ls with
    | [] => ([], [])
    | l :: rest =>
      if l.isMark ')' then ([], rest)
      else if l.isMark ',' then parameterNodes fuel rest
      else
        let (found, after) := parameterNode? fuel ls
        let (more, after) := parameterNodes fuel after
        (found.toList ++ more, after)

def enumMemberNodes : Nat → List Lexeme → List Node
  | 0, _ => []
  | fuel + 1, ls =>
    match afterAttributes fuel ls with
    | [] => []
    | l :: rest =>
      if l.isMark '\x7d' then []
      else
        let after := afterElement 0 rest
        let more := enumMemberNodes fuel (if headIsMark ',' after then after.tail else after)
        if l.isName then
          spanning .enumMember none ls after [leaf .identifier (some .name) l] :: more
        else more

/-- The name of a member behind an explicit interface, or the name itself. -/
def memberName? : Nat → List Lexeme → Option (Lexeme × List Lexeme)
  | 0, _ => none
  | fuel + 1, ls =>
    match ls with
    | l :: rest =>
      if l.isName then
        match afterOptionalAngles rest with
        | dot :: more =>
          if dot.isMark '.' then memberName? fuel more
          else if dot.isMark ':' && headIsMark ':' more then memberName? fuel more.tail
          else some (l, rest)
        | [] => some (l, rest)
      else none
    | [] => none

def afterAccessors (ls : List Lexeme) : List Lexeme :=
  if headIsMark '=' ls then afterSemicolon 0 ls else ls

/-- A member that declares no type: a property, a method, or something that gives no node. `ls` starts
at the attributes, `bare` at the type. -/
def memberNode? (fuel : Nat) (ls : List Lexeme) (modifiers : List Node) (bare : List Lexeme) :
    Option Node × List Lexeme :=
  if headIsWord "event" bare || headIsMark '~' bare || headIsWord "implicit" bare ||
      headIsWord "explicit" bare then (none, afterBody 0 bare)
  else if headIsWord "delegate" bare && !headIsMark '*' bare.tail then (none, afterSemicolon 0 bare)
  else match afterType? fuel bare with
    | none => (none, afterBody 0 bare)
    | some named =>
      match memberName? fuel named with
      | none => (none, afterBody 0 named)
      | some (name, rest) =>
        if name.isWord "this" || name.isWord "operator" then (none, afterBody 0 rest)
        else if headIsMark '(' rest || headIsMark '<' rest then
          let after := afterBody 0 rest
          (some (spanning .method none ls after (modifiers ++
            [typeNode .returns bare named, leaf .identifier (some .name) name])), after)
        else if headIsMark '\x7b' rest || rest.head?.any (·.kind = .arrow) then
          let after := if headIsMark '\x7b' rest then afterAccessors (afterBody 0 rest) else afterBody 0 rest
          (some (spanning .property none ls after (modifiers ++
            [typeNode .type bare named, leaf .identifier (some .name) name])), after)
        else (none, afterSemicolon 0 rest)

def isGlobalAttribute (ls : List Lexeme) : Bool :=
  headIsMark '[' ls && (headIsWord "assembly" ls.tail || headIsWord "module" ls.tail) &&
    headIsMark ':' (ls.drop 2)

mutual
/-- The nodes that stand in a namespace, or in a type, up to the brace that closes it. Three units of fuel
for a lexeme are enough: at most three calls are made for each, and what is left bounds every shorter
loop. -/
def nodesIn : Nat → (inType : Bool) → List Lexeme → List Node × List Lexeme
  | 0, _, ls => ([], ls)
  | _ + 1, _, [] => ([], [])
  | fuel + 1, inType, l :: rest =>
    if l.isMark '\x7d' then ([], l :: rest)
    else if l.isMark ';' then nodesIn fuel inType rest
    else if !inType && isGlobalAttribute (l :: rest) then nodesIn fuel inType (afterClose 0 rest)
    else
      let (found, after) := nodeAt fuel inType (l :: rest)
      let (more, after) := nodesIn fuel inType after
      (found.toList ++ more, after)

def nodeAt : Nat → (inType : Bool) → List Lexeme → Option Node × List Lexeme
  | 0, _, ls => (none, ls)
  | fuel + 1, inType, ls =>
    let (modifiers, bare) := modifierNodes (afterAttributes fuel ls)
    match typeKeyword? bare with
    | some (kind, keywords, rest) => typeAt fuel ls (modifiers ++ keywords) kind rest
    | none =>
      if inType then memberNode? fuel ls modifiers bare
      else if headIsWord "namespace" bare then namespaceAt fuel ls bare.tail
      else (none, afterStatement 0 bare)

def typeAt : Nat → List Lexeme → List Node → TypeKind → List Lexeme → Option Node × List Lexeme
  | 0, ls, _, _, _ => (none, ls)
  | _ + 1, _, _, _, [] => (none, [])
  | fuel + 1, ls, front, kind, name :: rest =>
    let afterName := afterOptionalAngles rest
    let (parameters, afterParameters) : List Node × List Lexeme :=
      if headIsMark '(' afterName then
        let (found, after) := parameterNodes fuel afterName.tail
        ([spanning .parameterList none afterName after found], after)
      else ([], afterName)
    let bases : List Node :=
      if headIsMark ':' afterParameters then
        let (found, after) := baseNodes fuel afterParameters.tail
        [spanning .baseList none afterParameters after found]
      else []
    let front := front ++ leaf .identifier (some .name) name :: (parameters ++ bases)
    let (body, after) : List Node × List Lexeme := match toBody 0 afterParameters with
      | [] => ([], [])
      | l :: inner =>
        if l.isMark '\x7b' then
          let (found, after) := if kind = .enum then (enumMemberNodes fuel inner, afterClose 0 inner)
            else
              let (found, after) := nodesIn fuel true inner
              (found, after.tail)
          let listKind : NodeKind := if kind = .enum then .enumMemberList else .declarationList
          ([spanning listKind (some .body) (l :: inner) after found], after)
        else if l.isMark ';' then ([], inner)
        else ([], l :: inner)
    (some (spanning (.declaration kind) none ls after (front ++ body)), after)

def namespaceAt : Nat → List Lexeme → List Lexeme → Option Node × List Lexeme
  | 0, ls, _ => (none, ls)
  | fuel + 1, ls, named =>
    let afterName := (afterType? fuel named).getD named
    let name := spanning (.other "name") (some .name) named afterName []
    match afterName with
    | [] => (none, [])
    | l :: inner =>
      if l.isMark ';' then (some (spanning .namespaceLine none ls inner [name]), inner)
      else
        let (found, after) := nodesIn fuel false inner
        let body := spanning .declarationList (some .body) (l :: inner) after.tail found
        (some (spanning .namespaceBlock none ls after.tail [name, body]), after.tail)
end

def treeOf (text : String) : Node :=
  let ls := lexemes text
  let (found, _) := nodesIn (3 * ls.length + 3) false ls
  branch (.other "compilation_unit") none 0 text.utf8ByteSize found

end ClassChart.Source
