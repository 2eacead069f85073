import ClassChart.Value

/-! What is asked of a reader of YAML. -/
namespace ClassChart.Yaml

/-- Why a text gives no value: it is refused, or reading it comes to an error of another kind. -/
inductive Fault where
  | refused
  | raised (type message : String)
  deriving DecidableEq, Repr

/-- Reads the values of texts. A content that is not all text is read as far as it is one, and may be
refused for that before the rest is looked at. -/
structure Reader where
  read : String → Except Fault Value
  refusesBefore : List UInt8 → Bool

end ClassChart.Yaml
