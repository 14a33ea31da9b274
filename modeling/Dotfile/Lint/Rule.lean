/-
The rules that configurations are checked against.

* **`duplicateEnv`** — a variable is assigned more than once;
* **`contradictoryEnv`** — a variable is assigned different values;
* **`duplicatePath`** — a directory is added to PATH more than once;
* **`emptyValue`** — a variable is assigned the empty value.
-/
import Dotfile.Config
import Dotfile.Lint.Diagnostic
import Dotfile.Lint.Group

namespace Dotfile.Lint

/-- A named check. -/
structure Rule where
  name : String
  check : Config → List Diagnostic

/-- A line in a message; an entry that is in no file yet is `new`. -/
def lineLabel : Option Nat → String
  | some n => toString n
  | none => "new"

/-- Lines in a message. -/
def lineLabels (lines : List (Option Nat)) : String :=
  ", ".intercalate (lines.map lineLabel)

/-- The line of the last item of a group. -/
def lastLine (line : α → Option Nat) (items : List α) : Option Nat :=
  items.getLast?.bind line

/-- Do two items of a list differ in `f`? -/
def differ [DecidableEq β] (f : α → β) : List α → Bool
  | [] => false
  | a :: as => as.any fun b => f b != f a

namespace Rule

def duplicateEnv : Rule where
  name := "duplicate-env"
  check c := (groupBy EnvVar.name c.envVars).filterMap fun (name, vars) =>
    if 1 < vars.length then
      some
        { rule := "duplicate-env"
          severity := .warning
          message := "Environment variable \"" ++ name ++ "\" is defined " ++ toString vars.length ++
            " times (lines: " ++ lineLabels (vars.map EnvVar.line) ++ ")"
          line := lastLine EnvVar.line vars }
    else none

/-- An assignment in the message about contradictory values. -/
def assignedAt (v : EnvVar) : String :=
  "line " ++ lineLabel v.line ++ ": \"" ++ v.value ++ "\""

def contradictoryEnv : Rule where
  name := "contradictory-env"
  check c := (groupBy EnvVar.name c.envVars).filterMap fun (name, vars) =>
    if differ EnvVar.value vars then
      some
        { rule := "contradictory-env"
          severity := .error
          message := "Environment variable \"" ++ name ++ "\" has contradictory values: " ++
            ", ".intercalate (vars.map assignedAt)
          line := lastLine EnvVar.line vars }
    else none

def duplicatePath : Rule where
  name := "duplicate-path"
  check c := (groupBy PathEntry.path c.pathEntries).filterMap fun (dir, entries) =>
    if 1 < entries.length then
      some
        { rule := "duplicate-path"
          severity := .warning
          message := "PATH entry \"" ++ dir ++ "\" is added " ++ toString entries.length ++
            " times (lines: " ++ lineLabels (entries.map PathEntry.line) ++ ")"
          line := lastLine PathEntry.line entries }
    else none

def emptyValue : Rule where
  name := "empty-value"
  check c := c.envVars.filterMap fun v =>
    if v.value = "" then
      some
        { rule := "empty-value"
          severity := .info
          message := "Environment variable \"" ++ v.name ++ "\" has an empty value"
          line := v.line
          source := some v.source }
    else none

/-- The rule that makes the same finding of every configuration. -/
def always (d : Diagnostic) : Rule where
  name := d.rule
  check _ := [d]

/-- The rules that a linter starts with, in the order in which they run. -/
def builtIn : List Rule :=
  [duplicateEnv, contradictoryEnv, duplicatePath, emptyValue]

/-- The built-in rule of that name. -/
def builtIn? (name : String) : Option Rule :=
  builtIn.find? (·.name == name)

end Rule

end Dotfile.Lint
