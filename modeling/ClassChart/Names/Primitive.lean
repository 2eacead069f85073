import ClassChart.Text.Capital

/-! Names of the built-in types, which no declaration stands behind. -/
namespace ClassChart.Names

def primitives : List String := [
  "bool", "byte", "sbyte", "char", "decimal", "double", "float", "int", "uint", "nint", "nuint",
  "long", "ulong", "short", "ushort", "object", "string", "void", "dynamic", "var",
  "boolean", "int16", "int32", "int64", "uint16", "uint32", "uint64", "intptr", "uintptr", "single"]

def isPrimitive (name : String) : Bool := primitives.contains (Text.lower name)

end ClassChart.Names
