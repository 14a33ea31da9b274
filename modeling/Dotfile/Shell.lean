/-
The two shells whose startup files are handled.  They read the same lines; in
what is written they differ only in how the old value of PATH is referred to.
-/
namespace Dotfile

inductive Shell where
  | zsh
  | bash
  deriving DecidableEq, Repr

/-- How a written line refers to the old value of PATH. -/
inductive PathRef where
  | bare
  | braced
  deriving DecidableEq, Repr

def PathRef.text : PathRef → String
  | bare => "$PATH"
  | braced => "$\x7bPATH\x7d"

namespace Shell

def name : Shell → String
  | zsh => "zsh"
  | bash => "bash"

def pathRef : Shell → PathRef
  | zsh => .bare
  | bash => .braced

/-- The shell of that name; case matters. -/
def ofName? : String → Option Shell
  | "zsh" => some zsh
  | "bash" => some bash
  | _ => none

end Shell

end Dotfile
