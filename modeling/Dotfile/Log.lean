/-
The log.

An event is logged where its level is at least the level that is asked for.
-/
import Dotfile.Text.Match
import Dotfile.Text.Visible

namespace Dotfile.Log

/-- The levels of events, from the most to the least important. -/
inductive Level where
  | error
  | warn
  | info
  | debug
  | trace
  deriving DecidableEq, Repr

def Level.name : Level → String
  | error => "ERROR"
  | warn => "WARN"
  | info => "INFO"
  | debug => "DEBUG"
  | trace => "TRACE"

def Level.rank : Level → Nat
  | error => 1
  | warn => 2
  | info => 3
  | debug => 4
  | trace => 5

/-- The value of a field: a text in quotes, or a word as it is. -/
inductive FieldValue where
  | quoted (s : String)
  | bare (s : String)
  deriving DecidableEq, Repr

def FieldValue.text : FieldValue → String
  | quoted s => Text.shown s
  | bare s => s

/-- An event: what happened, in which part of the program, and its details. -/
structure Event where
  level : Level
  target : String
  message : String
  fields : List (String × FieldValue)
  deriving DecidableEq, Repr

def Event.text (e : Event) : String :=
  e.level.name ++ " " ++ e.target ++ ": " ++ e.message ++
    String.join (e.fields.map fun (key, value) => " " ++ key ++ "=" ++ value.text)

/-- Up to which level events are shown; nothing is shown if there is none. -/
structure Filter where
  upTo : Option Level
  deriving DecidableEq, Repr

/-- The filter called `s`; case does not matter, and an empty name means errors only.
Digits for levels and filters that name a target are left out: they count as no
filter here. -/
def Filter.ofName? (s : String) : Option Filter :=
  match Text.lower s with
  | "off" => some ⟨none⟩
  | "" | "error" => some ⟨some .error⟩
  | "warn" => some ⟨some .warn⟩
  | "info" => some ⟨some .info⟩
  | "debug" => some ⟨some .debug⟩
  | "trace" => some ⟨some .trace⟩
  | _ => none

def Filter.shows (f : Filter) (e : Event) : Bool :=
  f.upTo.any fun level => e.level.rank ≤ level.rank

end Dotfile.Log
