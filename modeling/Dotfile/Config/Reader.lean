/-
Reading a startup file.

Each line is read on its own: it assigns a variable, adds a directory to PATH,
or is kept.  A line is trimmed before it is looked at, and kept untrimmed.
-/
import Dotfile.Config
import Dotfile.Line
import Dotfile.Text.Lines

namespace Dotfile

open Text

namespace Entry

/-- The entry of line number `n`, which is `cs`, of the file `source`. -/
def ofLine (source : String) (cs : List Char) (n : Nat) : Entry :=
  let line := trim cs
  if Line.isComment line then raw ⟨String.ofList cs, some n, source⟩
  else
    match Line.readPath? line with
    | some (dir, position) => path ⟨dir, position, some n, source⟩
    | none =>
      match Line.readEnv? line with
      | some (name, value) => env ⟨name, value, some n, source⟩
      | none => raw ⟨String.ofList cs, some n, source⟩

end Entry

namespace Config

/-- Entries sorted by kind. -/
def ofEntries (entries : List Entry) : Config where
  envVars := entries.filterMap Entry.env?
  pathEntries := entries.filterMap Entry.path?
  rawLines := entries.filterMap Entry.raw?

/-- The configuration that `text`, the content of `source`, holds. -/
def parse (text source : String) : Config :=
  ofEntries ((Lines.numbered text.toList).map fun (cs, n) => Entry.ofLine source cs n)

end Config

end Dotfile
