import AccessConsole.Hierarchy.Tree

/-!
# Parents and descendants in a listing

In a listing each group names its parent. Nothing keeps such references from being circular or
from naming a group that is not there.

* `linkParents` — the name of the parent of each group whose parent is listed.
* `descendants` — the ids below a group.
* `parentCandidates` — the groups that may become the parent of a group without making a circle.
-/

namespace AccessConsole.Hierarchy

variable {α : Type} [Entry α]

/-! ## Parent names -/

/-- The name of the group with an id. Where several have it, the last one counts. -/
def nameOf? (entries : List α) (id : Int64) : Option String :=
  (entries.reverse.find? fun e => Entry.id e == id).map Entry.name

/-- A pair put in its place in order of the keys, in the stead of one with its key. -/
def insertLink (id : Int64) (name : String) : List (Int64 × String) → List (Int64 × String)
  | [] => [(id, name)]
  | (other, n) :: rest =>
    if other = id then (id, name) :: rest
    else if id < other then (id, name) :: (other, n) :: rest
    else (other, n) :: insertLink id name rest

/-- The name of the parent of each group whose parent is listed, in order of the ids
(`link_parents`). Where several groups have an id, the last one with a listed parent counts. -/
def linkParents (entries : List α) : List (Int64 × String) :=
  entries.foldl (fun links e =>
    match (Entry.parentId e).bind (nameOf? entries) with
    | some name => insertLink (Entry.id e) name links
    | none => links) []

/-! ## Descendants -/

/-- The ids of the groups that name `id` as their parent (the children that `descendant_ids` looks
up). -/
def childIds (entries : List α) (id : Int64) : List Int64 :=
  (entries.filter fun e => Entry.parentId e == some id).map Entry.id

/-- The ids in the listing that have not been found. -/
def missing (entries : List α) (found : List Int64) : List Int64 :=
  (entries.map Entry.id).filter (· ∉ found)

/-- The child ids of `id` that are neither the root nor found yet, each once. -/
def freshChildren (entries : List α) (root : Int64) (found : List Int64) (id : Int64) :
    List Int64 :=
  ((childIds entries id).filter fun c => c ≠ root ∧ c ∉ found).eraseDups

theorem mem_freshChildren {entries : List α} {root : Int64} {found : List Int64} {id c : Int64} :
    c ∈ freshChildren entries root found id ↔
      c ∈ childIds entries id ∧ c ≠ root ∧ c ∉ found := by
  simp [freshChildren]

theorem childIds_subset {entries : List α} {id c : Int64} (h : c ∈ childIds entries id) :
    c ∈ entries.map Entry.id := by
  simp only [childIds, List.mem_map, List.mem_filter] at h
  obtain ⟨e, ⟨he, -⟩, rfl⟩ := h
  exact List.mem_map.2 ⟨e, he, rfl⟩

theorem missing_length_lt {entries : List α} {found fresh : List Int64} {c : Int64}
    (hc : c ∈ fresh) (hentry : c ∈ entries.map Entry.id) (hfound : c ∉ found) :
    (missing entries (fresh ++ found)).length < (missing entries found).length := by
  have hsub : missing entries (fresh ++ found) = (missing entries found).filter (· ∉ fresh) := by
    simp [missing, List.filter_filter, not_or, Bool.and_comm]
  rw [hsub]
  refine Nat.lt_of_le_of_ne (List.length_filter_le _ _) fun h => ?_
  have hmem : c ∈ missing entries found := by
    simp only [missing, List.mem_filter]
    exact ⟨hentry, by simpa using hfound⟩
  have := (List.length_filter_eq_length_iff.1 h) c hmem
  simp [hc] at this

/-- The ids found from the pending ones on (the loop of `descendant_ids`). An id comes off the
front; its fresh children are found and go to the front. -/
def explore (entries : List α) (root : Int64) (found pending : List Int64) : List Int64 :=
  match pending with
  | [] => found
  | id :: rest =>
    let fresh := freshChildren entries root found id
    explore entries root (fresh ++ found) (fresh ++ rest)
termination_by ((missing entries found).length, pending.length)
decreasing_by
  rcases hfresh : freshChildren entries root found id with _ | ⟨c, cs⟩
  · simp only [List.nil_append, List.length_cons]
    exact Prod.Lex.right _ (Nat.lt_succ_self _)
  · have hc : c ∈ freshChildren entries root found id := hfresh ▸ List.mem_cons_self
    have h := mem_freshChildren.1 hc
    exact Prod.Lex.left _ _
      (missing_length_lt List.mem_cons_self (childIds_subset h.1) h.2.2)

/-- The ids of all groups below `root`, by parent references; `root` itself is never one
(`descendant_ids`). -/
def descendants (entries : List α) (root : Int64) : List Int64 := explore entries root [] [root]

/-- The groups that may become the parent of the group `editing`: all but the group itself and those
below it (`parent_candidates`). -/
def parentCandidates (entries : List α) (editing : Int64) : List α :=
  let below := descendants entries editing
  entries.filter fun e => Entry.id e ≠ editing && Entry.id e ∉ below

end AccessConsole.Hierarchy
