/-
The words that make a command.

Commands form a tree: a word leads from a level to a command or to a level of
commands below it.  Each level has its options, and each command its
positional arguments.
-/
import Dotfile.Command

namespace Dotfile.Command

/-- What is given on the command line besides the words of the commands. -/
inductive Arg where
  | config
  | verbose
  | help
  | version
  | format
  | position
  | force
  | file
  | name
  | value
  | dir
  | place
  deriving DecidableEq, Repr

namespace Arg

/-- The long name of an option. -/
def long? : Arg → Option String
  | config => some "config"
  | verbose => some "verbose"
  | help => some "help"
  | version => some "version"
  | format => some "format"
  | position => some "position"
  | force => some "force"
  | _ => none

/-- The short name of an option. -/
def short? : Arg → Option Char
  | verbose => some 'v'
  | help => some 'h'
  | version => some 'V'
  | format => some 'f'
  | position => some 'p'
  | _ => none

/-- Is a value given with it? -/
def takesValue : Arg → Bool
  | verbose | help | version | force => false
  | _ => true

/-- Is `s` a good value for it?  A file has a name, and a position is named exactly. -/
def accepts (a : Arg) (s : String) : Bool :=
  match a with
  | config | file => s ≠ ""
  | position | place => s = Position.prepend.name || s = Position.append.name
  | _ => true

end Arg

/-- The commands proper, which have no commands below them. -/
inductive Verb where
  | load
  | envList
  | envGet
  | envSet
  | envRemove
  | pathList
  | pathAdd
  | pathRemove
  | pathMove
  | lint
  | printAs
  | formats
  | configInit
  | configPath
  deriving DecidableEq, Repr

/-- A level of the tree. -/
inductive Level where
  | root
  | env
  | path
  | config
  | verb (v : Verb)
  deriving DecidableEq, Repr

namespace Verb

/-- The options of a command's own. -/
def options : Verb → List Arg
  | envSet | envRemove | pathRemove | pathMove | printAs => [.format]
  | pathAdd => [.position, .format]
  | configInit => [.force]
  | _ => []

/-- The positional arguments, in order.  All are required. -/
def positionals : Verb → List Arg
  | load | envList | pathList | lint | printAs => [.file]
  | envGet | envRemove => [.file, .name]
  | envSet => [.file, .name, .value]
  | pathAdd | pathRemove => [.file, .dir]
  | pathMove => [.file, .dir, .place]
  | formats | configInit | configPath => []

end Verb

namespace Level

/-- The words that lead on from a level. -/
def words : Level → List (String × Level)
  | root =>
    [("load", .verb .load), ("env", .env), ("path", .path), ("lint", .verb .lint),
     ("export", .verb .printAs), ("formats", .verb .formats), ("config", .config)]
  | env =>
    [("list", .verb .envList), ("ls", .verb .envList), ("get", .verb .envGet),
     ("set", .verb .envSet), ("remove", .verb .envRemove), ("rm", .verb .envRemove)]
  | path =>
    [("list", .verb .pathList), ("ls", .verb .pathList), ("add", .verb .pathAdd),
     ("remove", .verb .pathRemove), ("rm", .verb .pathRemove),
     ("move", .verb .pathMove), ("mv", .verb .pathMove)]
  | config => [("init", .verb .configInit), ("path", .verb .configPath)]
  | verb _ => []

/-- Does a level need a word to lead on? -/
def needsWord : Level → Bool
  | verb _ => false
  | _ => true

/-- The options that can be given at a level. -/
def options : Level → List Arg
  | root => [.config, .verbose, .help, .version]
  | verb v => v.options ++ [.config, .verbose, .help]
  | _ => [.config, .verbose, .help]

def positionals : Level → List Arg
  | verb v => v.positionals
  | _ => []

/-- The option with that long name. -/
def long? (l : Level) (name : String) : Option Arg :=
  l.options.find? (·.long? == some name)

/-- The option with that short name. -/
def short? (l : Level) (c : Char) : Option Arg :=
  l.options.find? (·.short? == some c)

end Level

/-- Why words make no command.  Asking for help or the version is among the
reasons. -/
inductive UsageError where
  | unknownArgument
  | invalidSubcommand
  | missingRequiredArgument
  | invalidValue
  | argumentConflict
  | tooManyValues
  | missingSubcommand
  | nothingGiven
  | helpAsked
  | versionAsked
  deriving DecidableEq, Repr

end Dotfile.Command
