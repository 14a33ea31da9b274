/-
TOML documents as trees, and how a document's statements build one.

A table keeps its keys in the order in which they were added.  What may be
added to a table later depends on how it came about, so a table remembers that.

* **`Table.update`** — the table at the end of a path, changed;
* **`Table.addPair`**, **`Table.addHeader`**, **`Table.addListHeader`** — the
  three kinds of statement.
-/
namespace Dotfile.Toml

/-- How a table came about. -/
inductive Origin where
  /-- It is on the way of a header's path, and has no header of its own yet. -/
  | implied
  /-- It has a header. -/
  | header
  /-- It is on the way of a dotted key. -/
  | dotted
  /-- It is written between braces and complete. -/
  | inline
  deriving DecidableEq, Repr

/-- A value of a document.  Of a date or a time only its being one is kept. -/
inductive Item where
  | string (s : String)
  | integer (i : Int)
  | float (x : Float)
  | boolean (b : Bool)
  | datetime
  | array (items : List Item)
  | table (origin : Origin) (entries : List (String × Item))
  /-- A list of tables, each with a header in double brackets. -/
  | tables (rows : List (List (String × Item)))

/-- The name of an item's type. -/
def Item.typeName : Item → String
  | string _ => "string"
  | integer _ => "integer"
  | float _ => "float"
  | boolean _ => "boolean"
  | datetime => "datetime"
  | array _ => "array"
  | table .inline _ => "inline table"
  | table _ _ => "table"
  | tables _ => "array of tables"

/-- The keys of a table with their values. -/
abbrev Table := List (String × Item)

/-- A statement of a document. -/
inductive Statement where
  | pair (key : List String) (value : Item)
  | header (key : List String)
  | listHeader (key : List String)

namespace Table

/-- `value` in the place of the value of `key`. -/
def replace (key : String) (value : Item) (t : Table) : Table :=
  t.map fun e => if e.1 = key then (key, value) else e

def erase (key : String) (t : Table) : Table :=
  t.filter (·.1 ≠ key)

/-- The rows with the last one changed. -/
def changeLast? (f : Table → Option Table) : List Table → Option (List Table)
  | [] => none
  | [row] => (f row).map fun r => [r]
  | row :: rows => (changeLast? f rows).map (row :: ·)

/-- Changes the table at the end of `path`, seen from `t` whose origin is
`here`; tables that are missing on the way are made, with the origin `via`.
A list of tables stands for its last row.  The path of a dotted key does not
lead through a table with a header, and no path leads into a complete one. -/
def update (via : Origin) (f : Origin → Table → Option Table) (here : Origin) :
    List String → Table → Option Table
  | [], t => f here t
  | key :: path, t =>
    match t.lookup key with
    | none => (update via f via path []).map fun sub => t ++ [(key, .table via sub)]
    | some (.table origin sub) =>
      if origin = .inline ∨ (via = .dotted ∧ origin = .header) then none
      else (update via f origin path sub).map fun sub => replace key (.table origin sub) t
    | some (.tables rows) =>
      (changeLast? (update via f .header path) rows).map fun rows => replace key (.tables rows) t
    | some _ => none

/-- Adds `value` under a dotted key.  The key's own table has to be made by
dotted keys alone, unless it is `t` itself. -/
def addPair (path : List String) (key : String) (value : Item) (t : Table) : Option Table :=
  let add (origin : Origin) (t : Table) : Option Table :=
    if path ≠ [] ∧ origin ≠ .dotted then none
    else if (t.lookup key).isSome then none
    else some (t ++ [(key, value)])
  update .dotted add .header path t

/-- Adds the table with the header `key`.  It may be there already, if other
headers' paths implied it. -/
def addHeader (key : String) (_ : Origin) (t : Table) : Option Table :=
  match t.lookup key with
  | none => some (t ++ [(key, .table .header [])])
  | some (.table .implied sub) => some (erase key t ++ [(key, .table .header sub)])
  | some _ => none

/-- Adds a row to the list of tables with the header `key`. -/
def addListHeader (key : String) (_ : Origin) (t : Table) : Option Table :=
  match t.lookup key with
  | none => some (t ++ [(key, .tables [[]])])
  | some (.tables rows) => some (replace key (.tables (rows ++ [[]])) t)
  | some _ => none

/-- The table written between braces as a list of dotted keys with values. -/
def ofPairs? (pairs : List (List String × Item)) : Option Table :=
  pairs.foldlM (fun t (key, value) =>
    key.getLast?.bind fun last => addPair key.dropLast last value t) []

/-- The document so far, and the path of the table that pairs go into. -/
structure Build where
  root : Table := []
  current : List String := []

def Build.step (b : Build) : Statement → Option Build
  | .pair key value =>
    key.getLast?.bind fun last =>
      (update .implied (fun _ t => addPair key.dropLast last value t) .header b.current b.root).map
        fun root => { b with root }
  | .header key =>
    key.getLast?.bind fun last =>
      (update .implied (addHeader last) .header key.dropLast b.root).map fun root => ⟨root, key⟩
  | .listHeader key =>
    key.getLast?.bind fun last =>
      (update .implied (addListHeader last) .header key.dropLast b.root).map fun root => ⟨root, key⟩

/-- The document that statements build, unless they contradict each other. -/
def ofStatements? (statements : List Statement) : Option Table :=
  (statements.foldlM Build.step {}).map Build.root

end Table

end Dotfile.Toml
