/-
Reading the settings file.

What the file does not say has its default value, and what it says beyond that
does not matter.  Of two faults in the file the first is told.

* **`readRecord`** — one table of the file;
* **`ofToml`** — the whole file.
-/
import Dotfile.Data.Mismatch
import Dotfile.Settings
import Dotfile.Toml.Reader

namespace Dotfile.Settings

open Data (Mismatch Shape Wanted)
open Toml (Item)

/-- Why a text is no settings file. -/
inductive ReadError where
  | malformed
  | mismatch (why : Mismatch)

/-- Messages about settings write every number with its point and without an exponent. -/
def layout : Decimal.Layout := ⟨none, none, false, true⟩

/-- The shape of an item in messages; a date counts as a map. -/
def shape : Item → Shape
  | .string s => .string s
  | .integer i => .integer i
  | .float x => .float x
  | .boolean b => .boolean b
  | .datetime => .map
  | .array _ => .sequence
  | .table _ _ => .map
  | .tables _ => .sequence

def readString : Item → Except Mismatch String
  | .string s => .ok s
  | item => .error (.wrongType (shape item) .string)

/-- The items of a list; a list of tables is one, too. -/
def items? : Item → Option (List Item)
  | .array items => some items
  | .tables rows => some (rows.map (.table .header))
  | _ => none

def readStrings (item : Item) : Except Mismatch (List String) :=
  match items? item with
  | some items => items.mapM readString
  | none => .error (.wrongType (shape item) .sequence)

def readSeverityName (name : String) : Except Mismatch Lint.Severity :=
  match Lint.Severity.ofExactName? name with
  | some s => .ok s
  | none => .error (.unknownVariant name ["info", "warning", "error"])

/-- A severity is its name, or a table with its name as the only key and an
empty table or list as the value. -/
def readSeverity : Item → Except Mismatch Lint.Severity
  | .string s => readSeverityName s
  | .table _ [] => .error .noVariant
  | .table _ [(name, item)] =>
    match readSeverityName name, item with
    | .error e, _ => .error e
    | .ok s, .table _ [] => .ok s
    | .ok s, .array [] => .ok s
    | .ok s, .tables [] => .ok s
    | .ok _, .table _ _ => .error .nonEmptyVariant
    | .ok _, .array _ => .error .nonEmptyVariant
    | .ok _, .tables _ => .error .variantWithRows
    | .ok _, item => .error (.variantNotTable item.typeName)
  | .table _ _ => .error .manyVariants
  | _ => .error .notStringOrTable

/-- Reads the table `name` into a record: its keys in order by `set`, which
leaves the record alone for keys that it does not know.  A list gives the
values of `keys` in their order, and a date says nothing. -/
def readRecord (name : String) (keys : List String) (start : α)
    (set : α → String → Item → Except Mismatch α) (item : Item) : Except Mismatch α :=
  match item with
  | .table _ entries => entries.foldlM (fun a (key, item) => set a key item) start
  | .datetime => .ok start
  | item =>
    match items? item with
    | some items => (keys.zip items).foldlM (fun a (key, item) => set a key item) start
    | none => .error (.wrongType (shape item) (.record name))

def readFormat : Item → Except Mismatch FormatSettings :=
  readRecord "FormatSettings" ["default"] {} fun s key item =>
    match key with
    | "default" => return { s with default := ← readString item }
    | _ => return s

def readLint : Item → Except Mismatch LintSettings :=
  readRecord "LintSettings" ["disabled", "fail_on"] {} fun s key item =>
    match key with
    | "disabled" => return { s with disabled := ← readStrings item }
    | "fail_on" => return { s with failOn := ← readSeverity item }
    | _ => return s

def readLog : Item → Except Mismatch LogSettings :=
  readRecord "LogSettings" ["level"] {} fun s key item =>
    match key with
    | "level" => return { s with level := ← readString item }
    | _ => return s

/-- Reads one table of a document. -/
def set (s : Settings) (key : String) (item : Item) : Except Mismatch Settings :=
  match key with
  | "format" => return { s with format := ← readFormat item }
  | "lint" => return { s with lint := ← readLint item }
  | "log" => return { s with log := ← readLog item }
  | _ => return s

/-- The settings in a document, read key by key in its order. -/
def ofTable (t : Toml.Table) : Except Mismatch Settings :=
  t.foldlM (fun s (key, item) => set s key item) {}

/-- The settings that `text` describes. -/
def ofToml (text : String) : Except ReadError Settings :=
  match Toml.parse? text with
  | none => .error .malformed
  | some t =>
    match ofTable t with
    | .ok s => .ok s
    | .error why => .error (.mismatch why)

end Dotfile.Settings
