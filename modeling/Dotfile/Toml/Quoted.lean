/-
Strings of TOML: four ways to write one, and how each is read.

A basic string stands between double quotes and may hold escapes; a literal
string stands between single quotes and means what it says.  Both have a form
with three quotes on either side that may go over several lines.

* **`readBasic`**, **`readLiteral`**, **`readBasicLines`**, **`readLiteralLines`**
  — what follows the opening quotes, up to and over the closing ones.
-/
namespace Dotfile.Toml

/-- A piece of a string: some characters, or the end with the characters before it. -/
inductive Piece where
  | chars (cs rest : List Char)
  | stop (cs rest : List Char)

/-- The pieces of a string up to its end, put together; at most `fuel` of them. -/
def gather (piece : List Char → Option Piece) : (fuel : Nat) → List Char →
    Option (List Char × List Char)
  | 0, _ => none
  | fuel + 1, cs =>
    match piece cs with
    | none => none
    | some (.stop last rest) => some (last, rest)
    | some (.chars part rest) => (gather piece fuel rest).map fun (more, rest) => (part ++ more, rest)

/-- Is `c` a control character?  The tab is one. -/
def isControl (c : Char) : Bool :=
  c.toNat < 0x20 || c.toNat = 0x7F

/-- Characters that may stand in every kind of string and in comments. -/
def isPlain (c : Char) : Bool :=
  c = '\t' || !isControl c

def hexDigit? (c : Char) : Option Nat :=
  if c.isDigit then some (c.toNat - 0x30)
  else if 'a' ≤ c ∧ c ≤ 'f' then some (c.toNat - 0x57)
  else if 'A' ≤ c ∧ c ≤ 'F' then some (c.toNat - 0x37)
  else none

def hexValue? (cs : List Char) : Option Nat :=
  cs.foldlM (fun n c => (hexDigit? c).map (16 * n + ·)) 0

/-- The character that `n` hexadecimal digits stand for. -/
def codePoint? (n : Nat) (cs : List Char) : Option (Char × List Char) :=
  if (cs.take n).length = n then
    (hexValue? (cs.take n)).bind fun v =>
      if v.isValidChar then some (Char.ofNat v, cs.drop n) else none
  else none

/-- The character that an escape stands for; `cs` follows the backslash. -/
def escape? : (cs : List Char) → Option (Char × List Char)
  | 'b' :: cs => some ('\x08', cs)
  | 't' :: cs => some ('\t', cs)
  | 'n' :: cs => some ('\n', cs)
  | 'f' :: cs => some ('\x0c', cs)
  | 'r' :: cs => some ('\r', cs)
  | '"' :: cs => some ('"', cs)
  | '\\' :: cs => some ('\\', cs)
  | 'u' :: cs => codePoint? 4 cs
  | 'U' :: cs => codePoint? 8 cs
  | _ => none

def escapePiece? (cs : List Char) : Option Piece :=
  (escape? cs).map fun (c, rest) => .chars [c] rest

/-- A newline: a line feed, with a carriage return before it or not. -/
def newline? : List Char → Option (List Char)
  | '\n' :: cs => some cs
  | '\r' :: '\n' :: cs => some cs
  | _ => none

def skipSpace (cs : List Char) : List Char :=
  cs.dropWhile fun c => c = ' ' || c = '\t'

/-- Drops spaces, tabs and newlines. -/
def skipLines : List Char → List Char
  | [] => []
  | ' ' :: cs => skipLines cs
  | '\t' :: cs => skipLines cs
  | '\n' :: cs => skipLines cs
  | '\r' :: '\n' :: cs => skipLines cs
  | c :: cs => c :: cs

def basicPiece : List Char → Option Piece
  | [] => none
  | '"' :: cs => some (.stop [] cs)
  | '\\' :: cs => escapePiece? cs
  | c :: cs => if isPlain c then some (.chars [c] cs) else none

def literalPiece : List Char → Option Piece
  | [] => none
  | '\x27' :: cs => some (.stop [] cs)
  | c :: cs => if isPlain c then some (.chars [c] cs) else none

/-- One line feed for a newline, however it is written; any other character as it is. -/
def linePiece (c : Char) (cs : List Char) : Option Piece :=
  match newline? (c :: cs) with
  | some rest => some (.chars ['\n'] rest)
  | none => if isPlain c then some (.chars [c] cs) else none

/-- A backslash at the end of a line takes the line break and all blanks up to
the next character with it. -/
def basicLinesPiece : List Char → Option Piece
  | [] => none
  | '"' :: '"' :: '"' :: '"' :: '"' :: cs => some (.stop ['"', '"'] cs)
  | '"' :: '"' :: '"' :: '"' :: cs => some (.stop ['"'] cs)
  | '"' :: '"' :: '"' :: cs => some (.stop [] cs)
  | '\\' :: cs =>
    match newline? (skipSpace cs) with
    | some rest => some (.chars [] (skipLines rest))
    | none => escapePiece? cs
  | c :: cs => linePiece c cs

def literalLinesPiece : List Char → Option Piece
  | [] => none
  | '\x27' :: '\x27' :: '\x27' :: '\x27' :: '\x27' :: cs => some (.stop ['\x27', '\x27'] cs)
  | '\x27' :: '\x27' :: '\x27' :: '\x27' :: cs => some (.stop ['\x27'] cs)
  | '\x27' :: '\x27' :: '\x27' :: cs => some (.stop [] cs)
  | c :: cs => linePiece c cs

def readBasic (cs : List Char) : Option (List Char × List Char) :=
  gather basicPiece (cs.length + 1) cs

def readLiteral (cs : List Char) : Option (List Char × List Char) :=
  gather literalPiece (cs.length + 1) cs

/-- A newline right after the opening quotes does not count. -/
def readBasicLines (cs : List Char) : Option (List Char × List Char) :=
  let body := (newline? cs).getD cs
  gather basicLinesPiece (body.length + 1) body

/-- A newline right after the opening quotes does not count. -/
def readLiteralLines (cs : List Char) : Option (List Char × List Char) :=
  let body := (newline? cs).getD cs
  gather literalLinesPiece (body.length + 1) body

/-- A string that stays on its line, as it may be a key. -/
def readLineString? : List Char → Option (List Char × List Char)
  | '"' :: cs => readBasic cs
  | '\x27' :: cs => readLiteral cs
  | _ => none

/-- A string of any kind. -/
def readString? : List Char → Option (List Char × List Char)
  | '"' :: '"' :: '"' :: cs => readBasicLines cs
  | '\x27' :: '\x27' :: '\x27' :: cs => readLiteralLines cs
  | cs => readLineString? cs

end Dotfile.Toml
