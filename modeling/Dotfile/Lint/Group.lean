/-
Grouping a list by a key.

The groups stand in the order in which their keys first appear, and each keeps
its items in the order of the list.  An index says where the group of a key
stands, so that no group is searched for.
-/
namespace Dotfile.Lint

variable {α κ : Type} [DecidableEq κ]

/-- Groups of items, and the position of the group of each key. -/
structure Grouping (α κ : Type) where
  index : List (κ × Nat)
  groups : List (κ × List α)

namespace Grouping

def empty : Grouping α κ := ⟨[], []⟩

/-- Puts `a` at the end of the group of `k`, which is made if the index has none. -/
def add (g : Grouping α κ) (k : κ) (a : α) : Grouping α κ :=
  match g.index.lookup k with
  | some i => { g with groups := g.groups.modify i fun group => (group.1, group.2 ++ [a]) }
  | none => ⟨(k, g.groups.length) :: g.index, g.groups ++ [(k, [a])]⟩

/-- The items of a list put into their groups one after the other. -/
def ofList (key : α → κ) (items : List α) : Grouping α κ :=
  items.foldl (fun g a => g.add (key a) a) empty

end Grouping

/-- The items of a list by key. -/
def groupBy (key : α → κ) (items : List α) : List (κ × List α) :=
  (Grouping.ofList key items).groups

end Dotfile.Lint
