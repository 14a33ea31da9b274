/-
Linters: lists of rules that can be added to and left out.
-/
import Dotfile.Lint.Rule

namespace Dotfile.Lint

/-- Rules in the order in which they run. -/
structure Linter where
  rules : List Rule

namespace Linter

/-- The linter with the built-in rules. -/
def initial : Linter := ⟨Rule.builtIn⟩

/-- The linter that finds nothing. -/
def empty : Linter := ⟨[]⟩

/-- Adds a rule after the others. -/
def add (l : Linter) (rule : Rule) : Linter :=
  ⟨l.rules ++ [rule]⟩

def has (l : Linter) (name : String) : Bool :=
  l.rules.any (·.name == name)

/-- Drops every rule of that name. -/
def disable (l : Linter) (name : String) : Linter :=
  ⟨l.rules.filter (·.name != name)⟩

def names (l : Linter) : List String :=
  l.rules.map Rule.name

/-- The findings of all rules, rule by rule. -/
def lint (l : Linter) (c : Config) : List Diagnostic :=
  l.rules.flatMap (·.check c)

end Linter

end Dotfile.Lint
