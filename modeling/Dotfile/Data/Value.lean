/-
Values of a data format with nulls, numbers, strings, lists and objects, in
which configurations are exchanged.
-/
import Dotfile.Data.Mismatch

namespace Dotfile.Data

inductive Value where
  | null
  | boolean (b : Bool)
  | integer (i : Int)
  | float (x : Float)
  | string (s : String)
  | list (items : List Value)
  /-- The keys are distinct and stand in ascending order. -/
  | object (entries : List (String × Value))
  deriving Inhabited

def Value.shape : Value → Shape
  | null => .null
  | boolean b => .boolean b
  | integer i => .integer i
  | float x => .float x
  | string s => .string s
  | list _ => .sequence
  | object _ => .map

/-- Messages about values write a number with its point between `10 ^ -5` and
`10 ^ 16`, and with a signed exponent beyond. -/
def Value.layout : Decimal.Layout := ⟨some (-5), some 15, true, false⟩

end Dotfile.Data
