import Excerpt.Journal

/-!
Operations on a directory. An operation may fail, and it leaves a trace on the desk either way: the
directory's content, the handles that are open, and the journal.
-/
namespace Excerpt

structure Desk where
  tree : FileTree
  /-- The handles that are open. -/
  handles : List Nat
  /-- The number of the next handle. -/
  nextHandle : Nat
  journal : List Record
  /-- The next handle is none of those that are open. -/
  fresh : ∀ n ∈ handles, n < nextHandle

namespace Desk

def ofTree (tree : FileTree) : Desk := ⟨tree, [], 0, [], by simp⟩

/-- The desk with the next handle open. -/
def opened (d : Desk) : Desk :=
  { d with
    handles := d.nextHandle :: d.handles
    nextHandle := d.nextHandle + 1
    fresh := List.forall_mem_cons.mpr
      ⟨Nat.lt_succ_self _, fun n hn => Nat.lt_succ_of_lt (d.fresh n hn)⟩ }

/-- The desk with the handle of that number closed. -/
def closed (d : Desk) (number : Nat) : Desk :=
  { d with
    handles := d.handles.filter (· != number)
    fresh := fun n hn => d.fresh n (List.mem_filter.mp hn).1 }

end Desk

/-- An operation: its outcome, and the desk it leaves. -/
abbrev Op (α : Type) := ExceptT Fault (StateM Desk) α

namespace Op

def note (r : Record) : Op Unit := modify fun d => { d with journal := d.journal ++ [r] }

def tree : Op FileTree := do return (← get).tree

def ofExcept {α : Type} : Except Fault α → Op α
  | .ok a => pure a
  | .error e => throw e

/-- Runs `body` and then `after`, however `body` ends. -/
def closing {α : Type} (body : Op α) (after : Op Unit) : Op α := fun d =>
  match body d with
  | (r, d) =>
    match after d with
    | (.ok (), d) => (r, d)
    | (.error e, d) => (.error e, d)

end Op

end Excerpt
