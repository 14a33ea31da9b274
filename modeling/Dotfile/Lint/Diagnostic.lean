/-
Findings about a configuration: how serious they are, what they say, and how
many there are of each severity.
-/
import Dotfile.Text.Match

namespace Dotfile.Lint

/-- Severities, from harmless to serious. -/
inductive Severity where
  | info
  | warning
  | error
  deriving DecidableEq, Repr

namespace Severity

def name : Severity → String
  | info => "info"
  | warning => "warning"
  | error => "error"

/-- Place in the order `info < warning < error`. -/
def rank : Severity → Nat
  | info => 0
  | warning => 1
  | error => 2

/-- Is `s` at least as serious as `t`? -/
def atLeast (s t : Severity) : Bool :=
  t.rank ≤ s.rank

/-- The severity that `s` names; case does not matter, and `warn` is short for `warning`. -/
def ofName? (s : String) : Option Severity :=
  match Text.lower s with
  | "info" => some info
  | "warning" | "warn" => some warning
  | "error" => some error
  | _ => none

/-- The severity of exactly that name, as settings spell it. -/
def ofExactName? : String → Option Severity
  | "info" => some info
  | "warning" => some warning
  | "error" => some error
  | _ => none

/-- What is said of a text that names no severity. -/
def unknownMessage (s : String) : String :=
  "Unknown severity: " ++ s

/-- Nothing is more serious than an error, and nothing less than an info. -/
theorem atLeast_iff {s t : Severity} : s.atLeast t = true ↔ s = t ∨ s = error ∨ t = info := by
  cases s <;> cases t <;> decide

theorem ofExactName?_name (s : Severity) : ofExactName? s.name = some s := by
  cases s <;> rfl

end Severity

/-- A finding: which rule made it, what it says, and where. -/
structure Diagnostic where
  rule : String
  message : String
  severity : Severity
  line : Option Nat := none
  source : Option String := none
  deriving DecidableEq, Repr

/-- How many findings there are of each severity. -/
structure Tally where
  errors : Nat
  warnings : Nat
  infos : Nat
  deriving DecidableEq, Repr

def Tally.ofDiagnostics (ds : List Diagnostic) : Tally where
  errors := ds.countP (·.severity == .error)
  warnings := ds.countP (·.severity == .warning)
  infos := ds.countP (·.severity == .info)

/-- Was nothing found? -/
def Tally.isClean (t : Tally) : Bool :=
  t.errors == 0 && t.warnings == 0 && t.infos == 0

end Dotfile.Lint
