import ClassChart.Declaration.Basic

/-! Diagnostics: what a build reports and goes on from. -/
namespace ClassChart

inductive Stage where
  | parse | merge | signature
  deriving DecidableEq, Repr

def Stage.text : Stage → String
  | parse => "parse"
  | merge => "merge"
  | signature => "signature"

structure Diagnostic where
  severity : Severity
  stage : Stage
  file : String
  line : Nat
  message : String
  deriving DecidableEq, Repr

def ReadFault.diagnostic (f : ReadFault) : Diagnostic :=
  ⟨f.severity, .parse, f.file, f.line, f.message⟩

end ClassChart
