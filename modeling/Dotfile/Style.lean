/-
Styles of text on a terminal.
-/
import Dotfile.Text.Match

namespace Dotfile

inductive Style where
  | bold
  | dimmed
  | red
  | green
  | yellow
  | blue
  | cyan
  deriving DecidableEq, Repr

namespace Style

/-- The sequence that starts a style. -/
def start : Style → List Char
  | bold => ['\x1b', '[', '1', 'm']
  | dimmed => ['\x1b', '[', '2', 'm']
  | red => ['\x1b', '[', '3', '1', 'm']
  | green => ['\x1b', '[', '3', '2', 'm']
  | yellow => ['\x1b', '[', '3', '3', 'm']
  | blue => ['\x1b', '[', '3', '4', 'm']
  | cyan => ['\x1b', '[', '3', '6', 'm']

/-- The sequence that ends all styles. -/
def reset : List Char := ['\x1b', '[', '0', 'm']

/-- A text in which the style starts again after each end of a style in it. -/
def restart (s : Style) : List Char → List Char
  | '\x1b' :: '[' :: '0' :: 'm' :: cs => reset ++ s.start ++ restart s cs
  | c :: cs => c :: restart s cs
  | [] => []

/-- `text` in the style `s`, if colours are on. -/
def paint (s : Style) (color : Bool) (text : String) : String :=
  if color then String.ofList (s.start ++ restart s text.toList ++ reset) else text

end Style

end Dotfile
