/-!
# Group hierarchies

Groups hang below one another. Tree answers nest them; listings and parent pickers show them one
below the other, each with its depth and its parent.

The names in parentheses are those that the program has for what is defined here.

* `Entry` — what hierarchies need to know of a group.
* `Tree` — a group with the groups nested in it.
* `Placed` — a group with the groups that it is nested in.
* `Tree.walk` — the groups of a forest from top to bottom, by recursion.
* `Tree.flatten` — the same list, by a loop over the trees that are still to come.

Forests may hold an id more than once. The first group with an id stays; any later one is left
out together with all that is nested in it.
-/

namespace AccessConsole.Hierarchy

/-- A group as hierarchies see it (`TreeNode`). -/
class Entry (α : Type) where
  id : α → Int64
  name : α → String
  parentId : α → Option Int64
  /-- The group as it stands in a listing: its depth, and the group that it was nested in. -/
  place : UInt32 → Option Int64 → α → α
  /-- A group keeps its id wherever it is put. -/
  id_place : ∀ level parent a, id (place level parent a) = id a := by intros; rfl

/-- A group and the groups nested in it. -/
inductive Tree (α : Type) where
  | node (label : α) (children : List (Tree α))
  deriving BEq, Repr

namespace Tree

variable {α : Type}

/-- The group at the top. -/
def label : Tree α → α
  | .node a _ => a

/-- The groups nested in it. -/
def children : Tree α → List (Tree α)
  | .node _ ts => ts

/-- The number of groups in a tree. -/
def size : Tree α → Nat
  | .node _ ts => 1 + sizes ts
where
  /-- The number of groups in a forest. -/
  sizes : List (Tree α) → Nat
    | [] => 0
    | t :: ts => size t + sizes ts

end Tree

/-! ## Recursion -/

/-- A group and where it stands: the groups that it is nested in, from the innermost one out. -/
structure Placed (α : Type) where
  label : α
  above : List α
  deriving DecidableEq, Repr

namespace Placed

variable {α : Type}

/-- The number of groups that it is nested in. -/
def depth (p : Placed α) : Nat := p.above.length

/-- The group that it is nested in, if it is no root. -/
def parent? (p : Placed α) : Option α := p.above.head?

/-- The group as it stands in a listing (`place`). -/
def entry [Entry α] (p : Placed α) : α :=
  Entry.place (UInt32.ofNat p.depth) (p.parent?.map Entry.id) p.label

end Placed

namespace Tree

variable {α : Type} [Entry α]

/-- The groups listed of a forest, and the ids that are listed after it. -/
structure Listing (α : Type) where
  entries : List (Placed α)
  seen : List Int64

/-- The groups of a forest that is nested in the groups `above`, given the ids that are listed
before it. A tree whose id is listed is passed over; of any other the group at the top comes first,
then the trees nested in it, and after them the rest of the forest. -/
def walkBelow (above : List α) : List (Tree α) → List Int64 → Listing α
  | [], seen => ⟨[], seen⟩
  | .node a us :: ts, seen =>
    if Entry.id a ∈ seen then walkBelow above ts seen
    else
      let nested := walkBelow (a :: above) us (Entry.id a :: seen)
      let rest := walkBelow above ts nested.seen
      ⟨⟨a, above⟩ :: (nested.entries ++ rest.entries), rest.seen⟩

/-- The groups of a forest: each before the groups nested in it, and these from left to right. -/
def walk (roots : List (Tree α)) : List (Placed α) := (walkBelow [] roots []).entries

/-! ## Loop -/

/-- A tree that is still to come, with its depth and its parent. -/
structure Pending (α : Type) where
  tree : Tree α
  level : UInt32
  parent : Option Int64

/-- The number of groups still to come. -/
def pendingSize : List (Pending α) → Nat
  | [] => 0
  | p :: ps => p.tree.size + pendingSize ps

/-- The trees of a forest, all at one depth below one parent. -/
def pendingAt (level : UInt32) (parent : Option Int64) (ts : List (Tree α)) : List (Pending α) :=
  ts.map fun t => ⟨t, level, parent⟩

omit [Entry α] in
theorem pendingSize_append (ps qs : List (Pending α)) :
    pendingSize (ps ++ qs) = pendingSize ps + pendingSize qs := by
  induction ps with
  | nil => simp [pendingSize]
  | cons p ps ih => simp [pendingSize, ih, Nat.add_assoc]

omit [Entry α] in
theorem pendingSize_pendingAt (level : UInt32) (parent : Option Int64) (ts : List (Tree α)) :
    pendingSize (pendingAt level parent ts) = size.sizes ts := by
  induction ts with
  | nil => rfl
  | cons t ts ih =>
    simp only [pendingAt, List.map_cons, pendingSize, size.sizes] at ih ⊢
    rw [ih]

/-- The entries of the pending trees, given the ids that are already listed (the loop of
`flatten_tree`). A tree comes off the front, and its children go to the front. -/
def drain (seen : List Int64) : List (Pending α) → List α
  | [] => []
  | ⟨.node a ts, level, parent⟩ :: rest =>
    if Entry.id a ∈ seen then drain seen rest
    else
      Entry.place level parent a ::
        drain (Entry.id a :: seen) (pendingAt (level + 1) (some (Entry.id a)) ts ++ rest)
termination_by ps => pendingSize ps
decreasing_by
  · simp only [pendingSize, size]
    omega
  · simp only [pendingSize, size, pendingSize_append, pendingSize_pendingAt]
    omega

/-- The groups of a forest one below the other (`flatten_tree`). Roots are at depth zero and have no
parent; a nested group is one deeper than the group that it is nested in. -/
def flatten (roots : List (Tree α)) : List α := drain [] (pendingAt 0 none roots)

end Tree

end AccessConsole.Hierarchy
