/-
Paths as text.

A path is a text whose pieces are divided by slashes.  Paths are joined and
looked at; they are never normalised.
-/
import Dotfile.Text.Match

namespace Dotfile.Path

/-- The pieces of a path between its slashes; a slash at an end makes an empty piece. -/
def pieces : List Char → List (List Char)
  | [] => [[]]
  | c :: cs =>
    if c = '/' then [] :: pieces cs
    else
      match pieces cs with
      | [] => [[c]]
      | p :: ps => (c :: p) :: ps

/-- A piece that names nothing: empty, or the directory itself. -/
def isIdle (piece : List Char) : Bool :=
  piece = [] || piece = ['.']

/-- The beginnings of a path that end with a name or with `..`, the shortest first. -/
def beginnings : List (List Char) → List (List (List Char))
  | [] => []
  | piece :: rest =>
    let longer := (beginnings rest).map (piece :: ·)
    if isIdle piece then longer else [piece] :: longer

/-- The directories above what a path ends with, as paths, the nearest first. -/
def parents (pieces : List (List Char)) : List (List (List Char)) :=
  (beginnings pieces).dropLast.reverse

/-- The last piece of a path and those before it.  Slashes at the end do not count. -/
def splitEnd? (pieces : List (List Char)) : Option (List (List Char) × List Char) :=
  let named := (pieces.reverse.dropWhile (· == [])).reverse
  named.getLast?.map fun last => (named.dropLast, last)

/-- The file that a path ends with.  Slashes and `.` at the end do not count;
a path that ends with `..`, and one without a name, end with no file. -/
def fileName? (path : String) : Option String :=
  match ((pieces path.toList).filter (!isIdle ·)).getLast? with
  | some piece => if piece = ['.', '.'] then none else some (String.ofList piece)
  | none => none

/-- The text before and after the last `c`, if there is one. -/
def splitLast? (c : Char) : List Char → Option (List Char × List Char)
  | [] => none
  | d :: cs =>
    match splitLast? c cs with
    | some (before, rest) => some (d :: before, rest)
    | none => if d = c then some ([], cs) else none

/-- The extension of a file name: what follows its last dot, unless that dot is
its first character. -/
def extension? (name : String) : Option String :=
  match splitLast? '.' name.toList with
  | some ([], _) => none
  | some (_, rest) => some (String.ofList rest)
  | none => none

def isAbsolute (path : String) : Bool :=
  path.toList.head? == some '/'

/-- `path` seen from the directory `base`: an absolute path stands for itself. -/
def join (base path : String) : String :=
  if isAbsolute path then path
  else if base.toList.isEmpty || base.toList.getLast? == some '/' then base ++ path
  else base ++ "/" ++ path

/-- A leading `~` stands for the home directory, whatever follows it. -/
def expandTilde (home path : String) : String :=
  match path.toList with
  | '~' :: rest => join home (String.ofList (rest.dropWhile (· == '/')))
  | _ => path

/-- The absolute path that `path` means for a user with that home and working directory. -/
def resolve (home cwd path : String) : String :=
  join cwd (expandTilde home path)

end Dotfile.Path
