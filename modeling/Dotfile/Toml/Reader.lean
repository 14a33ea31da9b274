/-
Reading a TOML document.

    document  = *( blank-line / comment-line / pair / header )

A value that nests too deeply is refused, and so is a key with too many parts.

* **`readValue`** — one value;
* **`readStatements`** — the statements of a document, line by line;
* **`parse?`** — the tree that they build.
-/
import Dotfile.Toml.Item
import Dotfile.Toml.Number

namespace Dotfile.Toml

open Text

/-- Arrays and inline tables nest less deeply than this, and a key has fewer parts. -/
def nestingLimit : Nat := 80

def isBareKeyChar (c : Char) : Bool :=
  c.isAlphanum || c = '_' || c = '-'

/-- One part of a key. -/
def readKeyPart? (cs : List Char) : Option (String × List Char) :=
  match readLineString? cs with
  | some (key, rest) => some (String.ofList key, rest)
  | none =>
    let key := cs.takeWhile isBareKeyChar
    if key.isEmpty then none else some (String.ofList key, cs.drop key.length)

/-- The parts of a key, with dots and spaces between them; at most `fuel` of them. -/
def readKey? : (fuel : Nat) → List Char → Option (List String × List Char)
  | 0, _ => none
  | fuel + 1, cs =>
    match readKeyPart? (skipSpace cs) with
    | none => none
    | some (key, rest) =>
      match skipSpace rest with
      | '.' :: rest => (readKey? fuel rest).map fun (keys, rest) => (key :: keys, rest)
      | rest => some ([key], rest)

/-- Drops blanks, newlines and comments; `comment` tells that a comment goes on. -/
def skipTrivia (comment : Bool) : List Char → List Char
  | [] => []
  | c :: cs =>
    if c = '\n' then skipTrivia false cs
    else if c = '\r' then
      if cs.head? = some '\n' then skipTrivia comment cs else c :: cs
    else if comment then
      if isPlain c then skipTrivia true cs else c :: cs
    else if c = ' ' || c = '\t' then skipTrivia false cs
    else if c = '#' then skipTrivia true cs
    else c :: cs

/-- The rest of an array, after its opening bracket or a comma. -/
def readItems (value : List Char → Option (Item × List Char)) : (fuel : Nat) → List Char →
    Option (List Item × List Char)
  | 0, _ => none
  | fuel + 1, cs =>
    match skipTrivia false cs with
    | ']' :: rest => some ([], rest)
    | cs =>
      match value cs with
      | none => none
      | some (item, rest) =>
        match skipTrivia false rest with
        | ',' :: rest => (readItems value fuel rest).map fun (items, rest) => (item :: items, rest)
        | ']' :: rest => some ([item], rest)
        | _ => none

/-- A key, an equals sign and a value. -/
def readPair (value : List Char → Option (Item × List Char)) (cs : List Char) :
    Option ((List String × Item) × List Char) :=
  match readKey? (nestingLimit - 1) cs with
  | some (key, '=' :: rest) => (value (skipSpace rest)).map fun (v, rest) => ((key, v), rest)
  | _ => none

/-- The rest of an inline table, after its opening brace or a comma. -/
def readPairs (value : List Char → Option (Item × List Char)) : (fuel : Nat) → List Char →
    Option (List (List String × Item) × List Char)
  | 0, _ => none
  | fuel + 1, cs =>
    match readPair value cs with
    | none => none
    | some (pair, rest) =>
      match skipSpace rest with
      | ',' :: rest => (readPairs value fuel rest).map fun (pairs, rest) => (pair :: pairs, rest)
      | '\x7d' :: rest => some ([pair], rest)
      | _ => none

/-- An inline table, after its opening brace. -/
def readInline (value : List Char → Option (Item × List Char)) (cs : List Char) :
    Option (Item × List Char) :=
  match skipSpace cs with
  | '\x7d' :: rest => some (.table .inline [], rest)
  | cs =>
    match readPairs value (cs.length + 1) cs with
    | some (pairs, rest) => (Table.ofPairs? pairs).map fun t => (.table .inline t, rest)
    | none => none

def readBoolean? (cs : List Char) : Option (Bool × List Char) :=
  match after? ['t', 'r', 'u', 'e'] cs, after? ['f', 'a', 'l', 's', 'e'] cs with
  | some rest, _ => some (true, rest)
  | _, some rest => some (false, rest)
  | none, none => none

/-- A value that holds no other values. -/
def readScalar? (cs : List Char) : Option (Item × List Char) :=
  ((readString? cs).map fun (s, rest) => (.string (String.ofList s), rest)).or <|
  ((readBoolean? cs).map fun (b, rest) => (.boolean b, rest)).or <|
  ((readDatetime? cs).map fun rest => (.datetime, rest)).or <|
  ((readFloat? cs).map fun (x, rest) => (.float x, rest)).or <|
  ((readInteger? cs).map fun (i, rest) => (.integer i, rest))

/-- A value in which arrays and inline tables nest at most `depth` deep. -/
def readValue : (depth : Nat) → List Char → Option (Item × List Char)
  | 0, cs => readScalar? cs
  | depth + 1, cs =>
    match cs with
    | '[' :: rest =>
      (readItems (readValue depth) (rest.length + 1) rest).map fun (items, rest) => (.array items, rest)
    | '\x7b' :: rest => readInline (readValue depth) rest
    | cs => readScalar? cs

/-- The end of a line, or of the text, after spaces and a comment. -/
def endLine? (cs : List Char) : Option (List Char) :=
  let rest := match skipSpace cs with
    | '#' :: rest => rest.dropWhile isPlain
    | rest => rest
  match rest with
  | [] => some []
  | rest => newline? rest

/-- A header, after its first bracket. -/
def readHeader? : List Char → Option (Statement × List Char)
  | '[' :: cs =>
    match readKey? (nestingLimit - 1) cs with
    | some (key, ']' :: ']' :: rest) => some (.listHeader key, rest)
    | _ => none
  | cs =>
    match readKey? (nestingLimit - 1) cs with
    | some (key, ']' :: rest) => some (.header key, rest)
    | _ => none

/-- The statement that a line starts with. -/
def readStatement? (cs : List Char) : Option (Statement × List Char) :=
  match cs with
  | '[' :: cs => readHeader? cs
  | cs => (readPair (readValue (nestingLimit - 1)) cs).map fun ((key, v), rest) => (.pair key v, rest)

/-- Is there nothing but a comment on the line? -/
def isIdleLine : List Char → Bool
  | [] => true
  | c :: _ => c = '#' || c = '\n' || c = '\r'

/-- The statements of a document; at most `fuel` lines. -/
def readStatements : (fuel : Nat) → List Char → Option (List Statement)
  | 0, _ => none
  | fuel + 1, cs =>
    match skipSpace cs with
    | [] => some []
    | cs =>
      if isIdleLine cs then (endLine? cs).bind (readStatements fuel)
      else
        match readStatement? cs with
        | none => none
        | some (s, rest) =>
          match endLine? rest with
          | none => none
          | some rest => (readStatements fuel rest).map (s :: ·)

/-- The document that `text` is.  A byte order mark in front does not count. -/
def parse? (text : String) : Option Table :=
  let cs := dropOne '\ufeff' text.toList
  (readStatements (cs.length + 1) cs).bind Table.ofStatements?

end Dotfile.Toml
