/-
  ConfigGraph.Ordered
  ────────────────────────────────
  **LISTS THAT KEEP AN ORDER.**

  Sets, maps, tag tables and registries are plain lists whose order is part
  of what they are: ascending for sets and sorted maps, order of arrival for
  the others.  The functions below are the only ones that change such a list.
  Each keeps the order it is named for, and none moves an entry that it does
  not add or delete.

  §1 is about members, §2 about entries of keys and values.  Nothing here
  assumes that keys are distinct or ascending; that is a property of the
  lists that these functions build.
-/

namespace ConfigGraph.Ordered

variable {α β : Type}

/-! ## §1. Members. -/

/-- The ascending list with `x` at its place; a member that is there already is kept. -/
def insertMember [DecidableEq α] [LT α] [DecidableLT α] (x : α) : List α → List α
  | [] => [x]
  | y :: ys =>
      if x = y then y :: ys
      else if x < y then x :: y :: ys
      else y :: insertMember x ys

/-- The list without the first member equal to `x`. -/
def eraseMember [DecidableEq α] (x : α) : List α → List α
  | [] => []
  | y :: ys => if x = y then ys else y :: eraseMember x ys

/-- The ascending list of the members of `xs`, each once. -/
def sortMembers [DecidableEq α] [LT α] [DecidableLT α] (xs : List α) : List α :=
  xs.foldl (fun sorted x => insertMember x sorted) []

/-! ## §2. Entries. -/

/-- The value at a key. -/
def find? [DecidableEq α] (key : α) : List (α × β) → Option β
  | [] => none
  | (k, v) :: rest => if key = k then some v else find? key rest

/-- The key has an entry. -/
def contains [DecidableEq α] (key : α) (entries : List (α × β)) : Bool :=
  (find? key entries).isSome

/-- The entries with the value at `key` changed in its place; without such an entry, no change. -/
def modify [DecidableEq α] (key : α) (f : β → β) : List (α × β) → List (α × β)
  | [] => []
  | (k, v) :: rest => if key = k then (k, f v) :: rest else (k, v) :: modify key f rest

/-- The entries without the one at `key`; the others keep their order. -/
def erase [DecidableEq α] (key : α) : List (α × β) → List (α × β)
  | [] => []
  | (k, v) :: rest => if key = k then rest else (k, v) :: erase key rest

/-- Insert or replace in a list that ascends by key. -/
def putSorted [DecidableEq α] [LT α] [DecidableLT α] (key : α) (value : β) :
    List (α × β) → List (α × β)
  | [] => [(key, value)]
  | (k, v) :: rest =>
      if key = k then (k, value) :: rest
      else if key < k then (key, value) :: (k, v) :: rest
      else (k, v) :: putSorted key value rest

/-- Insert or replace in a list in order of arrival: a new key goes to the end, a
present one keeps its place. -/
def putLast [DecidableEq α] (key : α) (value : β) : List (α × β) → List (α × β)
  | [] => [(key, value)]
  | (k, v) :: rest => if key = k then (k, value) :: rest else (k, v) :: putLast key value rest

end ConfigGraph.Ordered
