/-
Writing TOML strings and lists of them.

A string is written in the first style that fits it, from the plain to the
escaped.

* **`quoted`** — a string;
* **`listed`** — a list of strings, on one line if it has at most one item.
-/
import Dotfile.Toml.Quoted

namespace Dotfile.Toml

/-- The ways to write a string. -/
inductive Style where
  | basic
  | literal
  | basicLines
  | literalLines
  deriving DecidableEq, Repr

/-- The length of the longest run of `q`; `run` characters `q` come right before `cs`. -/
def longestRun (q : Char) (run : Nat) : List Char → Nat
  | [] => run
  | c :: cs => if c = q then longestRun q (run + 1) cs else max run (longestRun q 0 cs)

/-- Are there control characters that only an escape can write?  A tab and a
newline are none. -/
def needsEscape (cs : List Char) : Bool :=
  cs.any fun c => isControl c && c ≠ '\t' && c ≠ '\n'

/-- The first style that fits. -/
def styleOf (cs : List Char) : Style :=
  let newline := cs.contains '\n'
  let backslash := cs.contains '\\'
  let doubles := longestRun '"' 0 cs
  let singles := longestRun '\x27' 0 cs
  if !needsEscape cs && !backslash && doubles = 0 && !newline then .basic
  else if !needsEscape cs && singles = 0 && !newline then .literal
  else if !needsEscape cs && !backslash && doubles ≤ 2 then .basicLines
  else if !needsEscape cs && singles ≤ 2 then .literalLines
  else if newline then .basicLines
  else .basic

/-- A digit of a code point, with capital letters. -/
def hexChar (n : Nat) : Char :=
  if n < 10 then Char.ofNat (0x30 + n) else Char.ofNat (0x37 + n)

/-- A control character by its code point. -/
def escapedControl (c : Char) : List Char :=
  ['\\', 'u', '0', '0', hexChar (c.toNat / 16), hexChar (c.toNat % 16)]

/-- A character in a basic string, other than a quote and a newline. -/
def escapedChar (c : Char) : List Char :=
  match c with
  | '\x08' => ['\\', 'b']
  | '\t' => ['\\', 't']
  | '\x0c' => ['\\', 'f']
  | '\r' => ['\\', 'r']
  | '\\' => ['\\', '\\']
  | c => if isControl c then escapedControl c else [c]

/-- The content of a basic string on one line. -/
def escapedLine (cs : List Char) : List Char :=
  cs.flatMap fun c =>
    if c = '\n' then ['\\', 'n'] else if c = '"' then ['\\', '"'] else escapedChar c

/-- The content of a basic string over several lines: newlines stand for
themselves, and of a run of quotes every third is escaped; `run` quotes come
right before `cs`. -/
def escapedLines (run : Nat) : List Char → List Char
  | [] => []
  | c :: cs =>
    if c = '\n' then c :: escapedLines 0 cs
    else if c = '"' then
      if run = 2 then ['\\', '"'] ++ escapedLines 0 cs else c :: escapedLines (run + 1) cs
    else escapedChar c ++ escapedLines 0 cs

/-- A newline after the opening quotes, where the string has one. -/
def openingNewline (cs : List Char) : List Char :=
  if cs.contains '\n' then ['\n'] else []

/-- A string in a style. -/
def styled (style : Style) (cs : List Char) : List Char :=
  match style with
  | .basic => ['"'] ++ escapedLine cs ++ ['"']
  | .literal => ['\x27'] ++ cs ++ ['\x27']
  | .basicLines => ['"', '"', '"'] ++ openingNewline cs ++ escapedLines 0 cs ++ ['"', '"', '"']
  | .literalLines =>
    ['\x27', '\x27', '\x27'] ++ openingNewline cs ++ cs ++ ['\x27', '\x27', '\x27']

/-- A string in the first style that fits it. -/
def quoted (s : String) : String :=
  String.ofList (styled (styleOf s.toList) s.toList)

/-- A list of strings; two or more stand on lines of their own. -/
def listed : List String → String
  | [] => "[]"
  | [s] => "[" ++ quoted s ++ "]"
  | items => "[\n" ++ String.join (items.map fun s => "    " ++ quoted s ++ ",\n") ++ "]"

end Dotfile.Toml
