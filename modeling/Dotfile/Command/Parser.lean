/-
Understanding a command line.

Words are taken one after the other.  An argument with its value is set aside
until the next argument is known to be one; only then, or at the end, is its
value looked at.

* **`Scan.step`** — the next word;
* **`Scan.finish`** — the end of the words, level by level from the innermost;
* **`Invocation.parse`** — the command that words make.
-/
import Dotfile.Command.Grammar
import Dotfile.Text.Match

namespace Dotfile.Command

/-- An argument whose value has not been looked at; it may still be to come. -/
structure Pending where
  arg : Arg
  value : Option String
  deriving DecidableEq, Repr

/-- What was given at a level. -/
structure Given where
  level : Level
  args : List (Arg × String) := []
  pending : Option Pending := none
  deriving DecidableEq, Repr

namespace Given

def has (g : Given) (a : Arg) : Bool :=
  g.args.any (·.1 == a)

def get? (g : Given) (a : Arg) : Option String :=
  g.args.lookup a

/-- Adds an argument, which cannot be given twice. -/
def add (g : Given) (a : Arg) (value : String) : Except UsageError Given :=
  if g.has a then .error .argumentConflict
  else if a.accepts value then .ok { g with args := g.args ++ [(a, value)] }
  else .error .invalidValue

/-- Looks at the value that was set aside. -/
def settle (g : Given) : Except UsageError Given :=
  match g.pending with
  | none => .ok g
  | some ⟨_, none⟩ => .error .invalidValue
  | some ⟨a, some value⟩ => { g with pending := none }.add a value

/-- An option that has no value. -/
def flag (g : Given) (a : Arg) : Except UsageError Given := do
  let g ← g.settle
  match a with
  | .help => .error .helpAsked
  | .version => .error .versionAsked
  | a => g.add a ""

/-- An option with the value attached to it. -/
def attached (g : Given) (a : Arg) (value : String) : Except UsageError Given := do
  let g ← g.settle
  g.add a value

/-- An option whose value is the next word. -/
def await (g : Given) (a : Arg) : Except UsageError Given := do
  let g ← g.settle
  return { g with pending := some ⟨a, none⟩ }

/-- Is the next word the value of an option? -/
def isWaiting (g : Given) : Bool :=
  match g.pending with
  | some ⟨_, none⟩ => true
  | _ => false

/-- How many positional arguments there are so far. -/
def placed (g : Given) : Nat :=
  let isPlaced a := g.level.positionals.contains a
  g.args.countP (fun p => isPlaced p.1) + (if g.pending.any fun p => isPlaced p.arg then 1 else 0)

/-- A word where no option is. -/
def positional (g : Given) (word : String) : Except UsageError Given :=
  match g.level.positionals[g.placed]? with
  | some a => do
    let g ← g.settle
    return { g with pending := some ⟨a, some word⟩ }
  | none => .error .unknownArgument

/-- A long option, after its two dashes. -/
def longOption (g : Given) (cs : List Char) : Except UsageError Given :=
  let name := String.ofList (cs.takeWhile (· ≠ '='))
  let value? : Option String :=
    match cs.dropWhile (· ≠ '=') with
    | [] => none
    | _ :: rest => some (String.ofList rest)
  match g.level.long? name, value? with
  | none, _ => .error .unknownArgument
  | some a, some value => if a.takesValue then g.attached a value else .error .tooManyValues
  | some a, none => if a.takesValue then g.await a else g.flag a

/-- Short options, after their dash.  The first that takes a value takes the
rest of the word, with or without an equals sign before it. -/
def shortOptions (g : Given) : List Char → Except UsageError Given
  | [] => .ok g
  | c :: cs =>
    match g.level.short? c with
    | none => .error .unknownArgument
    | some a =>
      if a.takesValue then
        match cs with
        | [] => g.await a
        | '=' :: rest => g.attached a (String.ofList rest)
        | rest => g.attached a (String.ofList rest)
      else
        match g.flag a with
        | .ok g => shortOptions g cs
        | .error e => .error e

/-- The words are over at this level; `below` tells that they led on. -/
def finish (g : Given) (below : Bool) : Except UsageError Given := do
  let g ← g.settle
  if g.level.needsWord && !below then
    .error (if g.args.isEmpty then .nothingGiven else .missingSubcommand)
  else if g.level.positionals.all g.has then return g
  else .error .missingRequiredArgument

end Given

/-- How far words have been understood. -/
inductive Scan where
  /-- Below the levels `outer`, the innermost first; `trailing` tells that a
  double dash has ended the options. -/
  | reading (outer : List Given) (here : Given) (trailing : Bool)
  /-- Help was asked for on the commands below a level, or on help itself. -/
  | helping (level : Option Level)
  deriving Repr

namespace Scan

def start : Scan :=
  reading [] ⟨.root, [], none⟩ false

/-- Where words lead on, one more word asks for help on them. -/
def asksHelp (level : Level) (word : String) : Bool :=
  level.needsWord && word = "help"

/-- A word that is neither an option nor a value. -/
def plainWord (outer : List Given) (here : Given) (trailing : Bool) (word : String) :
    Except UsageError Scan :=
  if here.level.needsWord then
    -- a double dash cannot stand before a command
    if trailing && (asksHelp here.level word || (here.level.words.lookup word).isSome) then
      .error .unknownArgument
    else .error .invalidSubcommand
  else
    (here.positional word).map fun here => reading outer here trailing

/-- The next word. -/
def step (scan : Scan) (word : String) : Except UsageError Scan :=
  match scan with
  | helping none => .error .invalidSubcommand
  | helping (some level) =>
    match level.words.lookup word with
    | some below => .ok (helping (some below))
    | none => if asksHelp level word then .ok (helping none) else .error .invalidSubcommand
  | reading outer here true => plainWord outer here true word
  | reading outer here false =>
    let waiting := here.isWaiting
    match waiting, here.level.words.lookup word with
    | false, some below => .ok (reading (here :: outer) ⟨below, [], none⟩ false)
    | _, _ =>
      if !waiting && asksHelp here.level word then .ok (helping (some here.level))
      else
        match word.toList with
        | ['-', '-'] => .ok (reading outer here true)
        | '-' :: '-' :: cs => (here.longOption cs).map fun here => reading outer here false
        | '-' :: c :: cs => (here.shortOptions (c :: cs)).map fun here => reading outer here false
        | _ =>
          match here.pending with
          | some ⟨a, none⟩ =>
            .ok (reading outer { here with pending := some ⟨a, some word⟩ } false)
          | _ => plainWord outer here false word

/-- What was given at each level, the innermost first. -/
def finish : Scan → Except UsageError (List Given)
  | helping _ => .error .helpAsked
  | reading outer here _ => do
    let here ← here.finish false
    let outer ← outer.mapM (·.finish true)
    return here :: outer

end Scan

/-- The position that a good value names. -/
def positionOf (s : Option String) : Position :=
  if s = some Position.append.name then .append else .prepend

/-- The command of a verb with its arguments. -/
def ofVerb (v : Verb) (arg : Arg → Option String) : Command :=
  let file := (arg .file).getD ""
  let name := (arg .name).getD ""
  let dir := (arg .dir).getD ""
  match v with
  | .load => load file
  | .envList => envList file
  | .envGet => envGet file name
  | .envSet => envSet file name ((arg .value).getD "") (arg .format)
  | .envRemove => envRemove file name (arg .format)
  | .pathList => pathList file
  | .pathAdd => pathAdd file dir (positionOf (arg .position)) (arg .format)
  | .pathRemove => pathRemove file dir (arg .format)
  | .pathMove => pathMove file dir (positionOf (arg .place)) (arg .format)
  | .lint => lint file
  | .printAs => printAs file (arg .format)
  | .formats => formats
  | .configInit => configInit (arg .force).isSome
  | .configPath => configPath

/-- The command that the levels describe; what is said at an inner level counts
before what is said at an outer one. -/
def ofGiven (levels : List Given) : Except UsageError Invocation :=
  match levels with
  | here :: _ =>
    match here.level with
    | .verb v =>
      .ok
        { command := ofVerb v here.get?
          config := levels.findSome? (·.get? .config)
          verbose := levels.any (·.has .verbose) }
    | _ => .error .missingSubcommand
  | [] => .error .missingSubcommand

end Dotfile.Command

namespace Dotfile

/-- The command that `words` make. -/
def Invocation.parse (words : List String) : Except Command.UsageError Invocation := do
  let scan ← words.foldlM Command.Scan.step Command.Scan.start
  Command.ofGiven (← scan.finish)

end Dotfile
