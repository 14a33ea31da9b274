/-
Configurations from data.

A record is an object, or the list of its fields in order.  The keys of an
object are looked at in their order, and only then is a missing field noticed;
keys that are not asked for do not matter.
-/
import Dotfile.Config
import Dotfile.Data.Value

namespace Dotfile.Data

/-- The fields of a record as they were written. -/
inductive Fields where
  | named (entries : List (String × Value))
  | listed (items : List Value)

namespace Value

/-- The fields of the record called `name`. -/
def fields (name : String) : Value → Except Mismatch Fields
  | object entries => .ok (.named entries)
  | list items => .ok (.listed items)
  | v => .error (.wrongType v.shape (.record name))

def readString : Value → Except Mismatch String
  | string s => .ok s
  | v => .error (.wrongType v.shape .string)

/-- A line number, or null for none. -/
def readLine : Value → Except Mismatch (Option Nat)
  | null => .ok none
  | integer i => if i < 0 then .error (.wrongValue (.integer i) .count) else .ok (some i.toNat)
  | v => .error (.wrongType v.shape .count)

def readPositionName (name : String) : Except Mismatch Position :=
  match name with
  | "prepend" => .ok .prepend
  | "append" => .ok .append
  | _ => .error (.unknownVariant name [Position.prepend.name, Position.append.name])

/-- A position is its name, or an object with its name as the only key. -/
def readPosition : Value → Except Mismatch Position
  | string s => readPositionName s
  | object [(name, v)] =>
    match readPositionName name, v with
    | .error e, _ => .error e
    | .ok p, null => .ok p
    | .ok _, v => .error (.wrongType v.shape .unit)
  | object _ => .error (.wrongValue .map .singleKey)
  | v => .error (.wrongType v.shape .stringOrMap)

def readList (item : Value → Except Mismatch α) : Value → Except Mismatch (List α)
  | list items => items.mapM item
  | v => .error (.wrongType v.shape .sequence)

end Value

namespace Fields

/-- The field called `name`, the `i`-th of the record described by `wanted`;
`absent` is its value where an object has no such key. -/
def get (fs : Fields) (wanted : Wanted) (i : Nat) (name : String)
    (read : Value → Except Mismatch α) (absent : Option α := none) : Except Mismatch α :=
  match fs with
  | named entries =>
    match entries.lookup name, absent with
    | some v, _ => read v
    | none, some a => .ok a
    | none, none => .error (.missingField name)
  | listed items =>
    match items[i]? with
    | some v => read v
    | none => .error (.wrongLength i wanted)

/-- Every key that is present has a good value. -/
def checkKeys (fs : Fields) (check : String → Value → Except Mismatch Unit) :
    Except Mismatch Unit :=
  match fs with
  | named entries => entries.forM fun (key, v) => check key v
  | listed _ => .ok ()

/-- A list has no more items than the record has fields. -/
def checkLength (fs : Fields) (n : Nat) : Except Mismatch Unit :=
  match fs with
  | named _ => .ok ()
  | listed items =>
    if items.length ≤ n then .ok () else .error (.wrongLength items.length .fewerItems)

end Fields

end Dotfile.Data

namespace Dotfile

open Data

/-- A reader used for its errors only. -/
def checked (read : Value → Except Mismatch α) (v : Value) : Except Mismatch Unit :=
  (read v).map fun _ => ()

def EnvVar.ofValue (v : Value) : Except Mismatch EnvVar := do
  let fs ← v.fields "EnvVar"
  fs.checkKeys fun
    | "name", v | "value", v | "source", v => checked Value.readString v
    | "line", v => checked Value.readLine v
    | _, _ => .ok ()
  let wanted := Wanted.recordOf "EnvVar" 4
  let name ← fs.get wanted 0 "name" Value.readString
  let value ← fs.get wanted 1 "value" Value.readString
  let line ← fs.get wanted 2 "line" Value.readLine (some none)
  let source ← fs.get wanted 3 "source" Value.readString
  fs.checkLength 4
  return ⟨name, value, line, source⟩

def PathEntry.ofValue (v : Value) : Except Mismatch PathEntry := do
  let fs ← v.fields "PathEntry"
  fs.checkKeys fun
    | "path", v | "source", v => checked Value.readString v
    | "position", v => checked Value.readPosition v
    | "line", v => checked Value.readLine v
    | _, _ => .ok ()
  let wanted := Wanted.recordOf "PathEntry" 4
  let path ← fs.get wanted 0 "path" Value.readString
  let position ← fs.get wanted 1 "position" Value.readPosition
  let line ← fs.get wanted 2 "line" Value.readLine (some none)
  let source ← fs.get wanted 3 "source" Value.readString
  fs.checkLength 4
  return ⟨path, position, line, source⟩

def RawLine.ofValue (v : Value) : Except Mismatch RawLine := do
  let fs ← v.fields "RawLine"
  fs.checkKeys fun
    | "content", v | "source", v => checked Value.readString v
    | "line", v => checked Value.readLine v
    | _, _ => .ok ()
  let wanted := Wanted.recordOf "RawLine" 3
  let content ← fs.get wanted 0 "content" Value.readString
  let line ← fs.get wanted 1 "line" Value.readLine (some none)
  let source ← fs.get wanted 2 "source" Value.readString
  fs.checkLength 3
  return ⟨content, line, source⟩

/-- The configuration that `v` describes. -/
def Config.ofValue (v : Value) : Except Mismatch Config := do
  let fs ← v.fields "ShellConfig"
  fs.checkKeys fun
    | "env_vars", v => checked (Value.readList EnvVar.ofValue) v
    | "path_entries", v => checked (Value.readList PathEntry.ofValue) v
    | "raw_lines", v => checked (Value.readList RawLine.ofValue) v
    | _, _ => .ok ()
  let wanted := Wanted.recordOf "ShellConfig" 3
  let envVars ← fs.get wanted 0 "env_vars" (Value.readList EnvVar.ofValue)
  let pathEntries ← fs.get wanted 1 "path_entries" (Value.readList PathEntry.ofValue)
  let rawLines ← fs.get wanted 2 "raw_lines" (Value.readList RawLine.ofValue)
  fs.checkLength 3
  return ⟨envVars, pathEntries, rawLines⟩

end Dotfile
