import ClassChart.Yaml.Lexeme
import ClassChart.Yaml.Meaning
import ClassChart.Yaml.Reader

/-! The value of a YAML text that holds one document. An empty text is null, a missing node is null,
and of equal keys the last one counts, in the place of the first. -/
namespace ClassChart.Yaml

abbrev Found := Option (Value × List Lexeme)

def scalarValue (text : List Char) (isPlain : Bool) : Value :=
  if isPlain then plainValue text else .str (String.ofList text)

def isKeyValue : Value → Bool
  | .list _ | .map _ => false
  | _ => true

def putEntry (entries : List (Value × Value)) (key v : Value) : List (Value × Value) :=
  if entries.any (·.1.quoted == key.quoted) then
    entries.map fun (k, w) => if k.quoted == key.quoted then (k, v) else (k, w)
  else entries ++ [(key, v)]

def nextIs (stops : List Lexeme) (ls : List Lexeme) : Bool := ls.head?.any stops.contains

mutual
/-- A node. Block collections only stand where `block` says so, and `bare` allows a list whose items
are indented no deeper than the key of it. -/
def node : Nat → (block bare : Bool) → List Lexeme → Found
  | 0, _, _, _ => none
  | fuel + 1, block, bare, ls =>
    match ls with
    | .item :: _ => if bare then (bareItems fuel ls).map fun (vs, ls) => (.list vs, ls) else none
    | .scalar text isPlain :: ls => some (scalarValue text isPlain, ls)
    | .openList :: ls => (listItems fuel true ls).map fun (vs, ls) => (.list vs, ls)
    | .openMap :: ls => (mapEntries fuel true [] ls).map fun (es, ls) => (.map es, ls)
    | .openBlockList :: ls =>
      if block then (items fuel ls).map fun (vs, ls) => (.list vs, ls) else none
    | .openBlockMap :: ls =>
      if block then (entries fuel [] ls).map fun (es, ls) => (.map es, ls) else none
    | _ => none

def nodeUnless : Nat → List Lexeme → (block bare : Bool) → List Lexeme → Found
  | 0, _, _, _, _ => none
  | fuel + 1, stops, block, bare, ls =>
    if nextIs stops ls then some (.null, ls) else node fuel block bare ls

def items : Nat → List Lexeme → Option (List Value × List Lexeme)
  | 0, _ => none
  | fuel + 1, .item :: ls =>
    match nodeUnless fuel [.item, .closeBlock] true false ls with
    | some (v, ls) => (items fuel ls).map fun (vs, ls) => (v :: vs, ls)
    | none => none
  | _ + 1, .closeBlock :: ls => some ([], ls)
  | _ + 1, _ => none

def bareItems : Nat → List Lexeme → Option (List Value × List Lexeme)
  | 0, _ => none
  | fuel + 1, .item :: ls =>
    match nodeUnless fuel [.item, .key, .value, .closeBlock] true false ls with
    | some (v, ls) => (bareItems fuel ls).map fun (vs, ls) => (v :: vs, ls)
    | none => none
  | _ + 1, ls => some ([], ls)

def valueAfter : Nat → List Lexeme → (block bare : Bool) → List Lexeme → Found
  | 0, _, _, _, _ => none
  | fuel + 1, stops, block, bare, .value :: ls => nodeUnless fuel stops block bare ls
  | _ + 1, _, _, _, ls => some (.null, ls)

def entries : Nat → List (Value × Value) → List Lexeme → Option (List (Value × Value) × List Lexeme)
  | 0, _, _ => none
  | fuel + 1, found, .key :: ls =>
    match nodeUnless fuel [.key, .value, .closeBlock] true true ls with
    | some (k, ls) =>
      match valueAfter fuel [.key, .value, .closeBlock] true true ls with
      | some (v, ls) => if isKeyValue k then entries fuel (putEntry found k v) ls else none
      | none => none
    | none => none
  | _ + 1, found, .closeBlock :: ls => some (found, ls)
  | _ + 1, _, _ => none

/- Items up to the closing bracket. An item that is an entry is a map of that entry. -/
def listItems : Nat → (first : Bool) → List Lexeme → Option (List Value × List Lexeme)
  | 0, _, _ => none
  | _ + 1, _, .closeList :: ls => some ([], ls)
  | fuel + 1, first, ls =>
    match (if first then some ls else if nextIs [.comma] ls then some ls.tail else none) with
    | none => none
    | some (.closeList :: ls) => some ([], ls)
    | some (.key :: ls) =>
      match nodeUnless fuel [.value, .comma, .closeList] false false ls with
      | some (k, ls) =>
        match valueAfter fuel [.comma, .closeList] false false ls with
        | some (v, ls) =>
          if isKeyValue k then
            (listItems fuel false ls).map fun (vs, ls) => (.map [(k, v)] :: vs, ls)
          else none
        | none => none
      | none => none
    | some ls =>
      match node fuel false false ls with
      | some (v, ls) => (listItems fuel false ls).map fun (vs, ls) => (v :: vs, ls)
      | none => none

def mapEntries : Nat → (first : Bool) → List (Value × Value) → List Lexeme →
    Option (List (Value × Value) × List Lexeme)
  | 0, _, _, _ => none
  | _ + 1, _, found, .closeMap :: ls => some (found, ls)
  | fuel + 1, first, found, ls =>
    match (if first then some ls else if nextIs [.comma] ls then some ls.tail else none) with
    | none => none
    | some (.closeMap :: ls) => some (found, ls)
    | some (.key :: ls) =>
      match nodeUnless fuel [.value, .comma, .closeMap] false false ls with
      | some (k, ls) =>
        match valueAfter fuel [.comma, .closeMap] false false ls with
        | some (v, ls) => if isKeyValue k then mapEntries fuel false (putEntry found k v) ls else none
        | none => none
      | none => none
    | some ls =>
      match node fuel false false ls with
      | some (k, ls) =>
        if isKeyValue k then mapEntries fuel false (putEntry found k .null) ls else none
      | none => none
end

def firstDocument (ls : List Lexeme) : Found :=
  let fuel := 3 * ls.length + 3
  if nextIs [.directive, .documentStart] ls then
    match ls.dropWhile (· = .directive) with
    | .documentStart :: ls =>
      if ls = [] ∨ nextIs [.directive, .documentStart, .documentEnd] ls then some (.null, ls)
      else node fuel true false ls
    | _ => none
  else if ls = [] then some (.null, [])
  else node fuel true false ls

def valueOf? (text : List Char) : Option Value :=
  match (lexemes? text).bind firstDocument with
  | some (v, rest) => if rest.all (· = .documentEnd) then some v else none
  | none => none

/-- A reader of texts without anchors, aliases and tags. -/
def plainReader : Reader where
  read text := (valueOf? text.toList).elim (.error .refused) .ok
  refusesBefore _ := false

end ClassChart.Yaml
