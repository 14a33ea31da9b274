/-
Data of the wrong shape.

A reader of structured data that wants one kind of value and finds another
says what it found and what it wanted.
-/
import Dotfile.Decimal.Layout
import Dotfile.Text.Visible

namespace Dotfile.Data

/-- What was found. -/
inductive Shape where
  | null
  | boolean (b : Bool)
  | integer (i : Int)
  | float (x : Float)
  | string (s : String)
  | sequence
  | map

/-- What was wanted. -/
inductive Wanted where
  | string
  | count
  | sequence
  | unit
  | stringOrMap
  | singleKey
  | fewerItems
  | record (name : String)
  | recordOf (name : String) (fields : Nat)

def Wanted.text : Wanted → String
  | string => "a string"
  | count => "usize"
  | sequence => "a sequence"
  | unit => "unit"
  | stringOrMap => "string or map"
  | singleKey => "map with a single key"
  | fewerItems => "fewer elements in array"
  | record name => "struct " ++ name
  | recordOf name n =>
    "struct " ++ name ++ " with " ++ toString n ++ (if n = 1 then " element" else " elements")

/-- Why data could not be read. -/
inductive Mismatch where
  | wrongType (found : Shape) (wanted : Wanted)
  | wrongValue (found : Shape) (wanted : Wanted)
  | wrongLength (found : Nat) (wanted : Wanted)
  | missingField (name : String)
  | unknownVariant (found : String) (known : List String)
  /-- A choice is written as a string, or as a table with one key. -/
  | notStringOrTable
  | noVariant
  | manyVariants
  | nonEmptyVariant
  | variantWithRows
  | variantNotTable (found : String)

/-- A word that stands for itself in a message. -/
def ticked (s : String) : String := "`" ++ s ++ "`"

def Shape.text (l : Decimal.Layout) : Shape → String
  | null => "null"
  | boolean b => "boolean " ++ ticked (if b then "true" else "false")
  | integer i => "integer " ++ ticked (toString i)
  | float x => "floating point " ++ ticked (l.text x)
  | string s => "string " ++ Text.shown s
  | sequence => "sequence"
  | map => "map"

/-- The names that would have been right. -/
def oneOf : List String → String
  | [a, b] => ticked a ++ " or " ++ ticked b
  | names => "one of " ++ ", ".intercalate (names.map ticked)

/-- The message about a mismatch; `l` says how floating-point numbers are written in it. -/
def Mismatch.message (l : Decimal.Layout) : Mismatch → String
  | wrongType found wanted => "invalid type: " ++ found.text l ++ ", expected " ++ wanted.text
  | wrongValue found wanted => "invalid value: " ++ found.text l ++ ", expected " ++ wanted.text
  | wrongLength found wanted => "invalid length " ++ toString found ++ ", expected " ++ wanted.text
  | missingField name => "missing field " ++ ticked name
  | unknownVariant found known =>
    "unknown variant " ++ ticked found ++ ", expected " ++ oneOf known
  | notStringOrTable => "wanted string or table"
  | noVariant => "wanted exactly 1 element, found 0 elements"
  | manyVariants => "wanted exactly 1 element, more than 1 element"
  | nonEmptyVariant => "expected empty table"
  | variantWithRows => "expected empty array"
  | variantNotTable found => "expected table, found " ++ found

end Dotfile.Data
