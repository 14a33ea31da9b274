/-
The lines that mean something.

An assignment line is a name, an equals sign and a value, with `export` in
front or not:

    line      = [ "export" blanks ] name *blank "=" *blank value
    name      = ( letter / "_" ) *( letter / digit / "_" )

A line that assigns PATH counts only if it adds one directory to the old
value, before or after it.  The reference to the old value may be written with
either brace missing, as in `$PATH}`.

* **`assignment?`** — name and value as written;
* **`pathAssignment?`** — the value assigned to PATH, as written;
* **`prepended?`**, **`appended?`** — the directory added to the old value;
* **`readPath?`**, **`readEnv?`** — what a line adds or assigns.
-/
import Dotfile.Entry
import Dotfile.Text.Quotes

namespace Dotfile.Line

open Text

/-- The keyword that may stand before an assignment. -/
def exportWord : List Char := ['e', 'x', 'p', 'o', 'r', 't']

/-- The variable that holds the search path. -/
def pathWord : List Char := ['P', 'A', 'T', 'H']

/-- Can a name start with `c`? -/
def isNameStart (c : Char) : Bool :=
  c.isAlpha || c == '_'

/-- Can a name go on with `c`? -/
def isNameChar (c : Char) : Bool :=
  c.isAlphanum || c == '_'

/-- Is `cs` a name of a variable? -/
def isName : List Char → Bool
  | [] => false
  | c :: cs => isNameStart c && cs.all isNameChar

/-- What follows `export` and its blanks, of which there has to be one. -/
def afterExport? (cs : List Char) : Option (List Char) :=
  match after? exportWord cs with
  | some (c :: rest) => if isBlank c then some (trimLeft rest) else none
  | _ => none

/-- What follows an equals sign, with blanks before it. -/
def afterEquals? (cs : List Char) : Option (List Char) :=
  after? ['='] (trimLeft cs)

/-- A text that ends with the line that it starts in. -/
def withinLine? (cs : List Char) : Option (List Char) :=
  if '\n' ∈ cs then none else some cs

/-- A name, an equals sign and a value. -/
def binding? : List Char → Option (List Char × List Char)
  | [] => none
  | c :: cs =>
    if isNameStart c then
      match afterEquals? (cs.dropWhile isNameChar) with
      | some rest =>
        (withinLine? (trimLeft rest)).map fun value => (c :: cs.takeWhile isNameChar, value)
      | none => none
    else none

/-- Name and value of an assignment line.  `export` is the keyword where the
line can be read so, and a name like any other where it cannot, as in
`export = 1`. -/
def assignment? (cs : List Char) : Option (List Char × List Char) :=
  ((afterExport? cs).bind binding?).or (binding? cs)

/-- A value that is not empty, after the blanks in front of it.  Of nothing but
blanks the last one is the value. -/
def someValue? (cs : List Char) : Option (List Char) :=
  match trimLeft cs with
  | [] => cs.getLast?.bind fun c => withinLine? [c]
  | c :: rest => withinLine? (c :: rest)

/-- The value that a line assigns to PATH. -/
def pathAssignment? (cs : List Char) : Option (List Char) :=
  (after? pathWord ((afterExport? cs).getD cs)).bind fun rest =>
    (afterEquals? rest).bind someValue?

/-- The spellings of a reference to the old value of PATH. -/
def references : List (List Char) :=
  [['$'] ++ pathWord, ['$', '\x7b'] ++ pathWord,
   ['$'] ++ pathWord ++ ['\x7d'], ['$', '\x7b'] ++ pathWord ++ ['\x7d']]

/-- A directory: some text within one line. -/
def directory? (cs : List Char) : Option (List Char) :=
  if cs.isEmpty then none else withinLine? cs

/-- What stands before a colon and a reference that end the text. -/
def beforeReference? : List Char → Option (List Char)
  | [] => none
  | c :: cs =>
    if c = ':' ∧ cs ∈ references then some []
    else (beforeReference? cs).map (c :: ·)

/-- What stands after a reference and a colon that start the text. -/
def afterReference? (cs : List Char) : Option (List Char) :=
  (after? ['$'] cs).bind fun rest =>
    (after? pathWord (dropOne '\x7b' rest)).bind fun rest =>
      after? [':'] (dropOne '\x7d' rest)

/-- The directory that a value puts before the old value of PATH. -/
def prepended? (cs : List Char) : Option (List Char) :=
  (beforeReference? cs).bind directory?

/-- The directory that a value puts after the old value of PATH. -/
def appended? (cs : List Char) : Option (List Char) :=
  (afterReference? cs).bind directory?

/-- The directory that a line adds to PATH, and where. -/
def readPath? (cs : List Char) : Option (String × Position) :=
  (pathAssignment? cs).bind fun value =>
    let value := unquote value
    ((prepended? value).map fun dir => (String.ofList dir, Position.prepend)).or
      ((appended? value).map fun dir => (String.ofList dir, Position.append))

/-- The variable other than PATH that a line assigns, and its value. -/
def readEnv? (cs : List Char) : Option (String × String) :=
  match assignment? cs with
  | some (name, value) =>
    if name = pathWord then none
    else some (String.ofList name, String.ofList (unquote value))
  | none => none

/-- Is a trimmed line empty or a comment? -/
def isComment : List Char → Bool
  | [] => true
  | c :: _ => c == '#'

end Dotfile.Line
