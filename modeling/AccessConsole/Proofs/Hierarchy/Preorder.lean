import AccessConsole.Resource.Group
import Mathlib.Data.List.Nodup

/-!
# Forests from top to bottom

A listing shows the groups of a forest in preorder. Its loop keeps the trees that are still to come
in one list for all depths; the recursion has them in the arguments of its calls.

* `Tree.drain_pendingAt` — what the loop lists of trees that stand before others.
* `Tree.flatten_eq_map_walk` — the loop lists what the recursion lists.
* `Tree.walk_sublist` — the recursion lists groups of the forest, each where it stands.
* `Tree.walk_of_distinct` — where no id is repeated, it lists all of them.
* `flatten_walks_forest` — listings of forests of any kind, and the lines of groups.
-/

namespace AccessConsole

/-- The depth that a group shows, zero if it shows none. -/
def Group.depth {kind : GroupKind} (g : Group kind) : Nat := (g.level.getD 0).toNat

namespace Hierarchy

namespace Tree

variable {α : Type}

/-! ## Forests -/

/-- What holds of the empty forest, and of a forest as soon as it holds of what is nested in its
first tree and of its other trees, holds of all forests. -/
theorem forest_induction {P : List (Tree α) → Prop} (nil : P [])
    (cons : ∀ a us ts, P us → P ts → P (.node a us :: ts)) : ∀ ts, P ts
  | [] => nil
  | .node a us :: ts => cons a us ts (forest_induction nil cons us) (forest_induction nil cons ts)

/-- The groups of a forest in preorder, whatever their ids. -/
def preorder : List (Tree α) → List α
  | [] => []
  | .node a us :: ts => a :: (preorder us ++ preorder ts)

/-- The ids of a forest in preorder. -/
def ids [Entry α] (ts : List (Tree α)) : List Int64 := (preorder ts).map Entry.id

/-- A forest with each group in its place, if it is nested in the groups `above`. -/
def placed (above : List α) : List (Tree α) → List (Tree (Placed α))
  | [] => []
  | .node a us :: ts => .node ⟨a, above⟩ (placed (a :: above) us) :: placed above ts

/-- All groups of a forest in preorder, each in its place. -/
def places (roots : List (Tree α)) : List (Placed α) := preorder (placed [] roots)

/-- Every depth of a forest is a number of 32 bits. -/
def LevelsFit (roots : List (Tree α)) : Prop := ∀ p ∈ places roots, p.depth < UInt32.size

theorem map_label_preorder_placed (above : List α) (ts : List (Tree α)) :
    (preorder (placed above ts)).map Placed.label = preorder ts := by
  induction ts using forest_induction generalizing above with
  | nil => simp [placed, preorder]
  | cons a us ts ihu iht => simp [placed, preorder, ihu, iht]

/-- A group of a forest is a root of it, or nested in one of them. -/
theorem mem_preorder_placed {above : List α} {ts : List (Tree α)} {p : Placed α}
    (h : p ∈ preorder (placed above ts)) :
    (p.above = above ∧ ∃ t ∈ ts, t.label = p.label) ∨ ∃ a, a :: above <:+ p.above := by
  induction ts using forest_induction generalizing above with
  | nil => simp [placed, preorder] at h
  | cons a us ts ihu iht =>
    rw [placed, preorder, List.mem_cons, List.mem_append] at h
    obtain rfl | h | h := h
    · exact .inl ⟨rfl, _, List.mem_cons_self, rfl⟩
    · obtain ⟨habove, -⟩ | ⟨b, hsuffix⟩ := ihu h
      · exact .inr ⟨a, habove ▸ List.suffix_rfl⟩
      · exact .inr ⟨a, (List.suffix_cons _ _).trans hsuffix⟩
    · refine (iht h).imp_left fun ⟨habove, t, ht, hlabel⟩ => ?_
      exact ⟨habove, t, List.mem_cons_of_mem _ ht, hlabel⟩

variable [Entry α]

theorem ids_cons (a : α) (us ts : List (Tree α)) :
    ids (.node a us :: ts) = Entry.id a :: (ids us ++ ids ts) := by
  rw [ids, preorder, List.map_cons, List.map_append]
  rfl

theorem map_id_preorder_placed (above : List α) (ts : List (Tree α)) :
    ((preorder (placed above ts)).map fun p => Entry.id p.label) = ids ts := by
  rw [ids, ← map_label_preorder_placed above ts, List.map_map]
  rfl

/-! ## Loop and recursion -/

/-- The loop lists trees that stand before others as the recursion does, and goes on with the
others and the ids that the recursion has then listed. -/
theorem drain_pendingAt (above : List α) (ts : List (Tree α)) (seen : List Int64)
    (later : List (Pending α)) :
    drain seen
        (pendingAt (UInt32.ofNat above.length) (above.head?.map Entry.id) ts ++ later) =
      (walkBelow above ts seen).entries.map Placed.entry ++
        drain (walkBelow above ts seen).seen later := by
  induction ts using forest_induction generalizing above seen later with
  | nil => simp [walkBelow, pendingAt]
  | cons a us ts ihu iht =>
    rw [pendingAt, List.map_cons, List.cons_append, drain, walkBelow]
    rw [← pendingAt]
    by_cases hseen : Entry.id a ∈ seen
    · rw [if_pos hseen, if_pos hseen, iht]
    · rw [if_neg hseen, if_neg hseen]
      -- the trees nested in `a` come off the front first, one level deeper
      have hlevel : UInt32.ofNat above.length + 1 = UInt32.ofNat (a :: above).length := by
        rw [List.length_cons, UInt32.ofNat_add]
        rfl
      have hparent : some (Entry.id a) = (a :: above).head?.map Entry.id := rfl
      rw [hlevel, hparent, ihu, iht, List.map_cons, List.map_append, List.cons_append,
        List.append_assoc]
      rfl

/-- The loop lists the groups that the recursion lists. -/
theorem flatten_eq_map_walk (roots : List (Tree α)) :
    flatten roots = (walk roots).map Placed.entry := by
  have h := drain_pendingAt [] roots [] []
  rw [List.append_nil, drain, List.append_nil] at h
  exact h

/-! ## Listed ids -/

/-- The ids that are listed after a forest are those from before and those of its entries. -/
theorem walkBelow_seen (above : List α) (ts : List (Tree α)) (seen : List Int64) :
    (walkBelow above ts seen).seen =
      ((walkBelow above ts seen).entries.map fun p => Entry.id p.label).reverse ++ seen := by
  induction ts using forest_induction generalizing above seen with
  | nil => simp [walkBelow]
  | cons a us ts ihu iht =>
    rw [walkBelow]
    by_cases hseen : Entry.id a ∈ seen
    · rw [if_pos hseen, iht]
    · rw [if_neg hseen]
      show (walkBelow above ts (walkBelow (a :: above) us (Entry.id a :: seen)).seen).seen = _
      rw [iht]
      simp only [ihu, List.map_cons, List.map_append, List.reverse_cons, List.reverse_append,
        List.append_assoc, List.cons_append, List.nil_append]

/-- No id is listed a second time. -/
theorem nodup_walkBelow_seen (above : List α) (ts : List (Tree α)) {seen : List Int64}
    (h : seen.Nodup) : (walkBelow above ts seen).seen.Nodup := by
  induction ts using forest_induction generalizing above seen with
  | nil => simpa [walkBelow] using h
  | cons a us ts ihu iht =>
    rw [walkBelow]
    by_cases hseen : Entry.id a ∈ seen
    · rw [if_pos hseen]
      exact iht _ h
    · rw [if_neg hseen]
      exact iht _ (ihu _ (List.nodup_cons.2 ⟨hseen, h⟩))

/-- The listed ids are distinct. -/
theorem nodup_map_id_walk (roots : List (Tree α)) :
    ((walk roots).map fun p => Entry.id p.label).Nodup := by
  have h := nodup_walkBelow_seen [] roots (List.nodup_nil : ([] : List Int64).Nodup)
  rw [walkBelow_seen, List.append_nil] at h
  exact List.nodup_reverse.1 h

/-- Placed groups keep their ids. -/
theorem map_id_map_entry (ps : List (Placed α)) :
    (ps.map Placed.entry).map Entry.id = ps.map fun p => Entry.id p.label := by
  rw [List.map_map]
  exact List.map_congr_left fun p _ => Entry.id_place _ _ _

theorem nodup_map_id_flatten (roots : List (Tree α)) : ((flatten roots).map Entry.id).Nodup := by
  rw [flatten_eq_map_walk, map_id_map_entry]
  exact nodup_map_id_walk roots

/-! ## Nothing is made up, nothing distinct is left out -/

/-- The entries of a forest are groups of it in their places, in the order of the forest. -/
theorem walkBelow_sublist (above : List α) (ts : List (Tree α)) (seen : List Int64) :
    (walkBelow above ts seen).entries.Sublist (preorder (placed above ts)) := by
  induction ts using forest_induction generalizing above seen with
  | nil => simp [walkBelow]
  | cons a us ts ihu iht =>
    rw [walkBelow, placed, preorder]
    by_cases hseen : Entry.id a ∈ seen
    · rw [if_pos hseen]
      exact .cons _ ((iht above seen).trans (List.sublist_append_right _ _))
    · rw [if_neg hseen]
      exact .cons_cons _ ((ihu _ _).append (iht _ _))

theorem walk_sublist (roots : List (Tree α)) : (walk roots).Sublist (places roots) :=
  walkBelow_sublist [] roots []

/-- A forest whose ids are distinct and not listed yet is listed whole. -/
theorem walkBelow_of_distinct (above : List α) (ts : List (Tree α)) {seen : List Int64}
    (hids : (ids ts).Nodup) (hfresh : ∀ id ∈ ids ts, id ∉ seen) :
    (walkBelow above ts seen).entries = preorder (placed above ts) := by
  induction ts using forest_induction generalizing above seen with
  | nil => simp [walkBelow, placed, preorder]
  | cons a us ts ihu iht =>
    rw [ids_cons] at hids hfresh
    obtain ⟨ha, hnested⟩ := List.nodup_cons.1 hids
    obtain ⟨hus, hts, hdisjoint⟩ := List.nodup_append.1 hnested
    have hseen : Entry.id a ∉ seen := hfresh _ List.mem_cons_self
    rw [walkBelow, if_neg hseen, placed, preorder]
    have hentries : (walkBelow (a :: above) us (Entry.id a :: seen)).entries =
        preorder (placed (a :: above) us) := by
      refine ihu _ hus fun id hid => ?_
      rw [List.mem_cons, not_or]
      exact ⟨fun h => ha (List.mem_append_left _ (h ▸ hid)),
        hfresh _ (List.mem_cons_of_mem _ (List.mem_append_left _ hid))⟩
    refine congrArg₂ List.cons rfl (congrArg₂ _ hentries (iht _ hts fun id hid => ?_))
    -- what is listed by now are the ids from before, that of `a` and those nested in it
    rw [walkBelow_seen, hentries, map_id_preorder_placed, List.mem_append, List.mem_reverse,
      List.mem_cons]
    rintro (h | h | h)
    · exact hdisjoint _ h _ hid rfl
    · exact ha (List.mem_append_right _ (h ▸ hid))
    · exact hfresh _ (List.mem_cons_of_mem _ (List.mem_append_right _ hid)) h

theorem walk_of_distinct {roots : List (Tree α)} (h : (ids roots).Nodup) :
    walk roots = places roots :=
  walkBelow_of_distinct [] roots h fun _ _ => List.not_mem_nil

/-- Levels tell the depths of listed groups. -/
theorem LevelsFit.toNat_level {roots : List (Tree α)} (h : LevelsFit roots) {p : Placed α}
    (hp : p ∈ walk roots) : (UInt32.ofNat p.depth).toNat = p.depth :=
  UInt32.toNat_ofNat_of_lt' (h p ((walk_sublist roots).subset hp))

end Tree

/-! ## Listings -/

open Hierarchy.Tree

theorem depth_entry {kind : GroupKind} {roots : List (GroupTree kind)} (h : LevelsFit roots)
    {p : Placed (Group kind)} (hp : p ∈ walk roots) : p.entry.depth = p.depth :=
  h.toNat_level hp

/-- A forest is listed as the recursion walks through it: from left to right, a group before what
is nested in it, and without the trees whose id is listed already. Each group is placed at its
depth below the group that it is nested in. So no id is listed twice, and a forest of distinct ids
is listed whole. A listed group keeps all else, a root also the parent that it names, and has a
line of its own, two spaces deeper for each group that it is nested in. -/
theorem flatten_walks_forest :
    (∀ {α : Type} [Entry α] (roots : List (Tree α)), LevelsFit roots →
      flatten roots = (walk roots).map (fun p =>
        Entry.place (UInt32.ofNat p.depth) (p.parent?.map Entry.id) p.label) ∧
      (∀ p ∈ walk roots, (UInt32.ofNat p.depth).toNat = p.depth) ∧
      ((flatten roots).map Entry.id).Nodup ∧
      ((ids roots).Nodup → walk roots = places roots)) ∧
    ∀ {kind : GroupKind} (roots : List (GroupTree kind)), LevelsFit roots →
      flatten roots = (walk roots).map (fun p =>
        { p.label with
          level := some (UInt32.ofNat p.depth)
          parentId := (p.parent?.map Group.id).or p.label.parentId }) ∧
      (flatten roots).map Group.line = (walk roots).map fun p =>
        String.ofList (List.replicate (2 * p.depth) ' ') ++ p.label.name ++ " (#" ++
          Text.Decimal.text p.label.id.toInt ++ ")" := by
  refine ⟨fun {α} _ roots hfit => ⟨flatten_eq_map_walk roots, fun p hp => hfit.toNat_level hp,
    nodup_map_id_flatten roots, walk_of_distinct⟩,
    fun {kind} roots hfit => ⟨flatten_eq_map_walk roots, ?_⟩⟩
  rw [flatten_eq_map_walk, List.map_map]
  refine List.map_congr_left fun p hp => ?_
  rw [Function.comp_apply, Group.line, ← Group.depth, depth_entry hfit hp]
  rfl

/-- A group with nothing but an id, a name and perhaps a parent. -/
def sampleGroup (id : Int64) (name : String) (parentId : Option Int64) : Group .nas :=
  ⟨id, name, "", parentId, false, none, none, none⟩

/-- A group that is nested in its own subtree once more, and a root that names a parent. -/
def loopedForest : List (GroupTree .nas) :=
  [.node (sampleGroup 1 "Root" none)
    [.node (sampleGroup 2 "Region" none)
      [.node (sampleGroup 1 "Root" none) [.node (sampleGroup 9 "Lost" none) []]]],
   .node (sampleGroup 4 "Lab" (some 8)) []]

theorem looped_forest_is_cut : LevelsFit loopedForest ∧
    flatten loopedForest =
      [{ sampleGroup 1 "Root" none with level := some 0 },
       { sampleGroup 2 "Region" (some 1) with level := some 1 },
       { sampleGroup 4 "Lab" (some 8) with level := some 0 }] := by
  have hfit : LevelsFit loopedForest := by
    simp [LevelsFit, places, placed, preorder, loopedForest, Placed.depth, UInt32.size]
  refine ⟨hfit, (flatten_walks_forest.2 loopedForest hfit).1.trans ?_⟩
  simp [walk, walkBelow, loopedForest, sampleGroup, Entry.id, Placed.depth, Placed.parent?]

end Hierarchy

end AccessConsole
