import ClassChart.Build.Report

/-! A session builds once. What it reported stays with it, and it refuses to build again. -/
namespace ClassChart.Build

structure Session where
  settings : Settings
  diagnostics : List Diagnostic
  used : Bool

inductive SessionError where
  | used
  | chart (e : ChartError)

def SessionError.message : SessionError → String
  | used => "GraphBuilder runs once; create a new instance per build"
  | chart e => e.message

/-- A file that was read, or why no reader takes it. -/
abbrev Reading := Except ReadFault SourceUnit

def refusal? : Reading → Option Diagnostic
  | .ok _ => none
  | .error fault => some fault.diagnostic

namespace Session

def new (s : Settings) : Session := ⟨s, [], false⟩

def build (session : Session) (readings : List Reading) : Session × Except SessionError Report :=
  if session.used then (session, .error .used)
  else
    let before := session.diagnostics ++ readings.filterMap refusal?
    match report session.settings before (readings.filterMap (·.toOption)) with
    | .ok r => ({ session with diagnostics := r.diagnostics, used := true }, .ok r)
    | .error e => ({ session with diagnostics := before, used := true }, .error (.chart e))

def buildUnits (session : Session) (units : List SourceUnit) :
    Session × Except SessionError Report :=
  session.build (units.map .ok)

end Session

end ClassChart.Build
