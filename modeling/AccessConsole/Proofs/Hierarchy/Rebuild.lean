import AccessConsole.Proofs.Hierarchy.Nesting
import Mathlib.Tactic.SplitIfs

/-!
# Forests from listings

A listing tells the forest that it was made of, and tells it twice: by the levels, as an outline
whose deeper lines hang below the line before them, and by the parents that its groups name.

* `Tree.hang` — a forest with new trees in one of its groups, or as its last roots.
* `ofOutline`, `ofParents` — the forest that is read off a listing, by levels and by parents.
* `Nested` — a forest whose groups tell level and parent as they stand in it.
* `Nested.ofOutline_preorder`, `Nested.ofParents_preorder` — both read such a forest off its
  preorder.
* `listing_tells_forest` — both read the forest that was listed if its ids are distinct.
-/

namespace AccessConsole

namespace Group

variable {kind : GroupKind}

/-- A group without the two fields that listings fill in. -/
def bare (g : Group kind) : Group kind := { g with level := none, parentId := none }

/-- The group that a listed group is nested in. A group at level zero is a root, whatever parent it
names. -/
def listedParent? (g : Group kind) : Option Int64 := if g.depth = 0 then none else g.parentId

end Group

namespace Hierarchy

open Hierarchy.Tree

namespace Tree

variable {α β : Type}

/-- A forest of the same shape with other labels. -/
def relabel (f : α → β) : List (Tree α) → List (Tree β)
  | [] => []
  | .node a us :: ts => .node (f a) (relabel f us) :: relabel f ts

theorem preorder_relabel (f : α → β) (ts : List (Tree α)) :
    preorder (relabel f ts) = (preorder ts).map f := by
  induction ts using forest_induction with
  | nil => simp [relabel, preorder]
  | cons a us ts ihu iht => simp [relabel, preorder, ihu, iht]

variable [Entry α]

theorem ids_append (ts us : List (Tree α)) : ids (ts ++ us) = ids ts ++ ids us := by
  induction ts using forest_induction with
  | nil => simp [ids, preorder]
  | cons a vs ts _ ih =>
    rw [List.cons_append, ids_cons, ids_cons, ih, List.cons_append, List.append_assoc]

/-! ## Additions to a forest -/

/-- A forest with new trees in its groups with the id `parent`, behind what is nested there. -/
def graft (parent : Int64) (new : List (Tree α)) : List (Tree α) → List (Tree α)
  | [] => []
  | .node a us :: ts =>
    .node a (if Entry.id a = parent then us ++ new else graft parent new us) :: graft parent new ts

theorem graft_append (parent : Int64) (new ts us : List (Tree α)) :
    graft parent new (ts ++ us) = graft parent new ts ++ graft parent new us := by
  induction ts using forest_induction with
  | nil => simp [graft]
  | cons a vs ts _ ih => rw [List.cons_append, graft, graft, ih, List.cons_append]

theorem graft_nil (parent : Int64) (ts : List (Tree α)) : graft parent [] ts = ts := by
  induction ts using forest_induction with
  | nil => rw [graft]
  | cons a us ts ihu iht => rw [graft, ihu, iht, List.append_nil, ite_self]

theorem graft_of_not_mem {parent : Int64} (new : List (Tree α)) {ts : List (Tree α)}
    (h : parent ∉ ids ts) : graft parent new ts = ts := by
  induction ts using forest_induction with
  | nil => rw [graft]
  | cons a us ts ihu iht =>
    rw [ids_cons, List.mem_cons, List.mem_append, not_or, not_or] at h
    rw [graft, if_neg (Ne.symm h.1), ihu h.2.1, iht h.2.2]

theorem graft_graft (parent : Int64) (new later ts : List (Tree α)) :
    graft parent later (graft parent new ts) = graft parent (new ++ later) ts := by
  induction ts using forest_induction with
  | nil => simp [graft]
  | cons a us ts ihu iht =>
    rw [graft, graft, graft, iht]
    split_ifs
    · rw [List.append_assoc]
    · rw [ihu]

/-- The last root of a forest takes in what is nested in it. -/
theorem graft_last {a : α} {ts : List (Tree α)} (h : Entry.id a ∉ ids ts) (us : List (Tree α)) :
    graft (Entry.id a) us (ts ++ [.node a []]) = ts ++ [.node a us] := by
  rw [graft_append, graft_of_not_mem us h, graft, if_pos rfl, List.nil_append, graft]

theorem graft_into_new {a : α} {ts : List (Tree α)} (h : Entry.id a ∉ ids ts) (parent : Int64)
    (us : List (Tree α)) :
    graft (Entry.id a) us (graft parent [.node a []] ts) = graft parent [.node a us] ts := by
  induction ts using forest_induction with
  | nil => simp [graft]
  | cons b vs ts ihv iht =>
    rw [ids_cons, List.mem_cons, List.mem_append, not_or, not_or] at h
    rw [graft, graft, graft, if_neg (Ne.symm h.1), iht h.2.2]
    split_ifs
    · rw [graft_last h.2.1]
    · rw [ihv h.2.1]

theorem mem_ids_graft {parent id : Int64} {new ts : List (Tree α)}
    (h : id ∈ ids (graft parent new ts)) : id ∈ ids ts ∨ id ∈ ids new := by
  induction ts using forest_induction with
  | nil => simp [graft, ids, preorder] at h
  | cons a us ts ihu iht =>
    rw [graft, ids_cons, List.mem_cons, List.mem_append] at h
    rw [ids_cons, List.mem_cons, List.mem_append]
    obtain h | h | h := h
    · exact .inl (.inl h)
    · split_ifs at h
      · rw [ids_append, List.mem_append] at h
        exact h.imp_left fun h => .inr (.inl h)
      · exact (ihu h).imp_left fun h => .inr (.inl h)
    · exact (iht h).imp_left fun h => .inr (.inr h)

/-- A forest with new trees in one of its groups, or as its last roots. -/
def hang : Option Int64 → List (Tree α) → List (Tree α) → List (Tree α)
  | none, new, ts => ts ++ new
  | some parent, new, ts => graft parent new ts

theorem hang_nil (parent : Option Int64) (ts : List (Tree α)) : hang parent [] ts = ts := by
  cases parent with
  | none => exact List.append_nil ts
  | some parent => exact graft_nil parent ts

/-- Trees hang in one place one after the other or all at once. -/
theorem hang_hang (parent : Option Int64) (new later ts : List (Tree α)) :
    hang parent later (hang parent new ts) = hang parent (new ++ later) ts := by
  cases parent with
  | none => exact List.append_assoc ts new later
  | some parent => exact graft_graft parent new later ts

/-- A new group takes in what is nested in it. -/
theorem hang_into_new {a : α} {ts : List (Tree α)} (h : Entry.id a ∉ ids ts)
    (parent : Option Int64) (us : List (Tree α)) :
    hang (some (Entry.id a)) us (hang parent [.node a []] ts) = hang parent [.node a us] ts := by
  cases parent with
  | none => exact graft_last h us
  | some parent => exact graft_into_new h parent us

theorem mem_ids_hang {parent : Option Int64} {id : Int64} {new ts : List (Tree α)}
    (h : id ∈ ids (hang parent new ts)) : id ∈ ids ts ∨ id ∈ ids new := by
  cases parent with
  | none => exact List.mem_append.1 (ids_append ts new ▸ h)
  | some parent => exact mem_ids_graft h

/-- The ids of new trees are distinct, and none of them is in a forest yet. -/
def Fresh (new ts : List (Tree α)) : Prop := (ids new).Nodup ∧ ∀ id ∈ ids new, id ∉ ids ts

/-- Once the group at the top is added, what is nested in it is still new. -/
theorem Fresh.nested {a : α} {us new ts : List (Tree α)} (h : Fresh (.node a us :: new) ts)
    (parent : Option Int64) : Fresh us (hang parent [.node a []] ts) := by
  obtain ⟨hids, hfresh⟩ := h
  rw [ids_cons] at hids hfresh
  obtain ⟨ha, hrest⟩ := List.nodup_cons.1 hids
  refine ⟨(List.nodup_append.1 hrest).1, fun id hid hmem => ?_⟩
  obtain hmem | hmem := mem_ids_hang hmem
  · exact hfresh id (List.mem_cons_of_mem _ (List.mem_append_left _ hid)) hmem
  · have hid' : id = Entry.id a := by simpa [ids, preorder] using hmem
    exact ha (List.mem_append_left _ (hid' ▸ hid))

/-- Once the first tree is added, the others are still new. -/
theorem Fresh.rest {a : α} {us new ts : List (Tree α)} (h : Fresh (.node a us :: new) ts)
    (parent : Option Int64) : Fresh new (hang parent [.node a us] ts) := by
  obtain ⟨hids, hfresh⟩ := h
  have hsplit : ids (.node a us :: new) = ids [.node a us] ++ ids new :=
    ids_append [.node a us] new
  rw [hsplit] at hids hfresh
  obtain ⟨-, hnew, hdisjoint⟩ := List.nodup_append.1 hids
  refine ⟨hnew, fun id hid hmem => ?_⟩
  obtain hmem | hmem := mem_ids_hang hmem
  · exact hfresh id (List.mem_append_right _ hid) hmem
  · exact hdisjoint id hmem id hid rfl

end Tree

variable {kind : GroupKind}

/-! ## Readings of a listing -/

/-- The forest of an outline: the deeper entries right after an entry are nested in it. -/
def ofOutline : List (Group kind) → List (GroupTree kind)
  | [] => []
  | g :: rest =>
    .node g (ofOutline (rest.takeWhile fun h => g.depth < h.depth)) ::
      ofOutline (rest.dropWhile fun h => g.depth < h.depth)
termination_by entries => entries.length
decreasing_by
  · exact Nat.lt_succ_of_le (List.takeWhile_sublist _).length_le
  · exact Nat.lt_succ_of_le (List.dropWhile_sublist _).length_le

/-- A forest and one more entry, in the group that it is nested in. -/
def attach (ts : List (GroupTree kind)) (g : Group kind) : List (GroupTree kind) :=
  hang g.listedParent? [.node g []] ts

/-- The forest of a listing by the parents that its entries name. -/
def ofParents (entries : List (Group kind)) : List (GroupTree kind) := entries.foldl attach []

/-! ## Forests that tell how they are nested -/

/-- Every group of a forest that hangs in `parent` tells the group right above it, and its level:
`depth` at the top, and one more with each group that it is nested in. -/
def Nested (depth : Nat) (parent : Option Int64) : List (GroupTree kind) → Prop
  | [] => True
  | .node g us :: ts =>
    g.depth = depth ∧ g.listedParent? = parent ∧ Nested (depth + 1) (some g.id) us ∧
      Nested depth parent ts

theorem Nested.le_depth {depth : Nat} {parent : Option Int64} {ts : List (GroupTree kind)}
    (h : Nested depth parent ts) : ∀ g ∈ preorder ts, depth ≤ g.depth := by
  induction ts using forest_induction generalizing depth parent with
  | nil => simp [preorder]
  | cons g us ts ihu iht =>
    rw [Nested] at h
    obtain ⟨hdepth, -, hus, hts⟩ := h
    rw [preorder, List.forall_mem_cons, List.forall_mem_append]
    exact ⟨Nat.le_of_eq hdepth.symm, fun g hg => Nat.le_of_succ_le (ihu hus g hg), iht hts⟩

/-- No group at the front of such a forest is deeper than its roots. -/
theorem Nested.stops {depth : Nat} {parent : Option Int64} {ts : List (GroupTree kind)}
    (h : Nested depth parent ts) :
    (preorder ts).takeWhile (fun g => depth < g.depth) = [] ∧
      (preorder ts).dropWhile (fun g => depth < g.depth) = preorder ts := by
  match ts with
  | [] => simp [preorder]
  | .node g us :: ts =>
    rw [Nested] at h
    have hg : ¬depth < g.depth := Nat.not_lt.2 (Nat.le_of_eq h.1)
    simp [preorder, hg]

/-- An outline is read as the forest that it shows. -/
theorem Nested.ofOutline_preorder {depth : Nat} {parent : Option Int64} {ts : List (GroupTree kind)}
    (h : Nested depth parent ts) : ofOutline (preorder ts) = ts := by
  induction ts using forest_induction generalizing depth parent with
  | nil => rw [preorder, ofOutline]
  | cons g us ts ihu iht =>
    rw [Nested] at h
    obtain ⟨hdepth, -, hus, hts⟩ := h
    subst hdepth
    have hdeeper : ∀ h ∈ preorder us, decide (g.depth < h.depth) = true := fun h hh =>
      decide_eq_true (hus.le_depth h hh)
    rw [preorder, ofOutline, List.takeWhile_append_of_pos hdeeper,
      List.dropWhile_append_of_pos hdeeper, hts.stops.1, hts.stops.2, List.append_nil, ihu hus,
      iht hts]

/-- Attached one after the other, the groups of a new forest hang where its roots say. -/
theorem Nested.foldl_attach {depth : Nat} {parent : Option Int64} {new ts : List (GroupTree kind)}
    (h : Nested depth parent new) (hfresh : Fresh new ts) :
    (preorder new).foldl attach ts = hang parent new ts := by
  induction new using forest_induction generalizing depth parent ts with
  | nil => rw [preorder, List.foldl_nil, hang_nil]
  | cons g us new ihu ihn =>
    rw [Nested] at h
    obtain ⟨-, hparent, hus, hnew⟩ := h
    have hg : g.id ∉ ids ts := hfresh.2 g.id (by rw [ids_cons]; exact List.mem_cons_self)
    have hattach : attach ts g = hang parent [.node g []] ts := by rw [attach, hparent]
    rw [preorder, List.foldl_cons, List.foldl_append, hattach, ihu hus (hfresh.nested parent)]
    have htree : hang (some g.id) us (hang parent [.node g []] ts) = hang parent [.node g us] ts :=
      hang_into_new hg parent us
    rw [htree, ihn hnew (hfresh.rest parent), hang_hang, List.singleton_append]

theorem Nested.ofParents_preorder {roots : List (GroupTree kind)} (h : Nested 0 none roots)
    (hids : (ids roots).Nodup) : ofParents (preorder roots) = roots :=
  h.foldl_attach ⟨hids, fun _ _ => by simp [ids, preorder]⟩

/-! ## Listed forests -/

/-- A forest as it is listed, nested in the groups `above`. -/
def shown (above : List (Group kind)) (ts : List (GroupTree kind)) : List (GroupTree kind) :=
  relabel Placed.entry (placed above ts)

theorem nested_shown {above : List (Group kind)} {ts : List (GroupTree kind)}
    (hfit : ∀ p ∈ preorder (placed above ts), p.depth < UInt32.size) :
    Nested above.length (above.head?.map Group.id) (shown above ts) := by
  induction ts using forest_induction generalizing above with
  | nil => simp [shown, placed, relabel, Nested]
  | cons g us ts ihu iht =>
    rw [placed, preorder, List.forall_mem_cons, List.forall_mem_append] at hfit
    obtain ⟨hg, hus, hts⟩ := hfit
    rw [shown, placed, relabel, Nested]
    have hdepth : (Placed.entry ⟨g, above⟩).depth = above.length := UInt32.toNat_ofNat_of_lt' hg
    refine ⟨hdepth, ?_, ihu hus, iht hts⟩
    rw [Group.listedParent?, hdepth]
    cases above <;> rfl

/-- A forest is listed with its shape and all else that its groups hold. -/
theorem relabel_bare_shown (above : List (Group kind)) (ts : List (GroupTree kind)) :
    relabel Group.bare (shown above ts) = relabel Group.bare ts := by
  induction ts using forest_induction generalizing above with
  | nil => simp [shown, placed, relabel]
  | cons g us ts ihu iht =>
    rw [shown, placed, relabel, relabel, relabel, ← shown, ← shown, ihu, iht]
    rfl

theorem ids_shown (above : List (Group kind)) (ts : List (GroupTree kind)) :
    ids (shown above ts) = ids ts := by
  rw [ids, shown, preorder_relabel, map_id_map_entry, map_id_preorder_placed]

theorem flatten_of_distinct {roots : List (GroupTree kind)} (hids : (ids roots).Nodup) :
    flatten roots = preorder (shown [] roots) := by
  rw [flatten_eq_map_walk, walk_of_distinct hids, places, shown, preorder_relabel]

/-- The listing of a forest whose ids are distinct, and whose depths fit 32 bits, tells the forest:
its levels tell it as an outline, and the parents tell the same. Only what groups say of their level
and their parent may differ from before. The listing starts at level zero, and from a group to the
next it goes down by one level at most. -/
theorem listing_tells_forest (roots : List (GroupTree kind)) (hfit : LevelsFit roots)
    (hids : (ids roots).Nodup) :
    let flat := flatten roots
    relabel Group.bare (ofOutline flat) = relabel Group.bare roots ∧
    ofParents flat = ofOutline flat ∧
    (∀ g ∈ flat.head?, g.level = some 0) ∧
    flat.IsChain fun g h => ∃ l m, g.level = some l ∧ h.level = some m ∧ m.toNat ≤ l.toNat + 1 := by
  have hnested : Nested 0 none (shown [] roots) := nested_shown hfit
  have houtline : ofOutline (flatten roots) = shown [] roots := by
    rw [flatten_of_distinct hids, hnested.ofOutline_preorder]
  have hparents : ofParents (flatten roots) = shown [] roots := by
    rw [flatten_of_distinct hids, hnested.ofParents_preorder (ids_shown [] roots ▸ hids)]
  refine ⟨by rw [houtline, relabel_bare_shown], hparents.trans houtline.symm, fun g hg => ?_, ?_⟩
  · rw [flatten_eq_map_walk, List.head?_map] at hg
    obtain ⟨p, hp, rfl⟩ := Option.map_eq_some_iff.1 hg
    show some (UInt32.ofNat p.above.length) = some 0
    rw [(outlines_walk roots).head_above p hp]
    rfl
  · rw [flatten_eq_map_walk, List.isChain_map]
    refine (outlines_walk roots).isChain.imp_of_mem_imp fun p q hp hq hdepth => ⟨_, _, rfl, rfl, ?_⟩
    rwa [hfit.toNat_level hp, hfit.toNat_level hq]

/-- Three groups below one another, a sister of the second, and a second root. -/
def regions : List (GroupTree .nas) :=
  [.node (sampleGroup 1 "North" none)
    [.node (sampleGroup 2 "Coast" none) [.node (sampleGroup 3 "Harbour" none) []],
     .node (sampleGroup 4 "Plain" none) []],
   .node (sampleGroup 5 "South" none) []]

theorem regions_listing_tells_regions : LevelsFit regions ∧ (ids regions).Nodup ∧
    relabel Group.bare (ofOutline (flatten regions)) = regions ∧
    relabel Group.bare (ofParents (flatten regions)) = regions := by
  have hfit : LevelsFit regions := by
    simp [LevelsFit, places, placed, preorder, regions, Placed.depth, UInt32.size]
  have hids : (ids regions).Nodup := by
    simp [ids, preorder, regions, sampleGroup, Entry.id]
  have hbare : relabel Group.bare regions = regions := by
    simp [relabel, regions, sampleGroup, Group.bare]
  obtain ⟨houtline, hparents, -⟩ := listing_tells_forest regions hfit hids
  rw [hparents, houtline]
  exact ⟨hfit, hids, hbare, hbare⟩

end Hierarchy

end AccessConsole
