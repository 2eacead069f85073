import ClassChart.Decimal.Shortest
import ClassChart.Declaration.Visibility
import ClassChart.Text.Capital
import ClassChart.Text.Quoted

/-! Dynamic values: what a settings file or a caller may hand over where a setting is expected.
`text` is the value as text, `quoted` the value as a message names it. Of values of other types nothing
is known but these two texts, the name of the type, and whether they are empty. -/
namespace ClassChart

inductive Value where
  | null
  | bool (b : Bool)
  | int (n : Int)
  | float (x : Float)
  | str (s : String)
  | list (items : List Value)
  | tuple (items : List Value)
  | map (entries : List (Value × Value))
  | level (v : Visibility)
  | other (type text quoted : String) (empty : Bool)
  deriving Inhabited

namespace Value

mutual
def quoted : Value → String
  | null => "None"
  | bool b => if b then "True" else "False"
  | int n => toString n
  | float x => Decimal.floatText x
  | str s => Text.quoted s
  | list items => "[" ++ ", ".intercalate (quotedItems items) ++ "]"
  | tuple items =>
    "(" ++ ", ".intercalate (quotedItems items) ++ (if items.length = 1 then ",)" else ")")
  | map entries => "\x7b" ++ ", ".intercalate (quotedEntries entries) ++ "\x7d"
  | level v => "<Visibility." ++ Text.upper v.text ++ ": " ++ toString v.rank ++ ">"
  | other _ _ quoted _ => quoted

def quotedItems : List Value → List String
  | [] => []
  | v :: rest => quoted v :: quotedItems rest

def quotedEntries : List (Value × Value) → List String
  | [] => []
  | (k, v) :: rest => (quoted k ++ ": " ++ quoted v) :: quotedEntries rest
end

/-- A text is its own text, and a level is written as its rank. Most other values are written as a
message names them. -/
def text : Value → String
  | str s => s
  | level v => toString v.rank
  | other _ text _ _ => text
  | v => quoted v

def typeName : Value → String
  | null => "NoneType"
  | bool _ => "bool"
  | int _ => "int"
  | float _ => "float"
  | str _ => "str"
  | list _ => "list"
  | tuple _ => "tuple"
  | map _ => "dict"
  | level _ => "Visibility"
  | other type _ _ _ => type

end Value
end ClassChart
