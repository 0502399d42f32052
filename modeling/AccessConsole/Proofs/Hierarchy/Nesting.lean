import AccessConsole.Proofs.Hierarchy.ParentNames
import AccessConsole.Proofs.Hierarchy.Preorder
import AccessConsole.Proofs.Hierarchy.Reachability
import Mathlib.Data.List.Chain

/-!
# Nesting in a listing

In a listing the groups nested in a group are those right after it that stand deeper. Parent
references tell the same groups: what is nested in a group is what they lead to from it.

* `Outlines` — every entry stands in groups of the path down to the entry before it.
* `Outlines.mem_above_of_takeWhile`, `Outlines.not_mem_above_of_dropWhile` — the deeper entries
  right after a group are nested in it, and no later ones are.
* `transGen_walk_iff` — parent references lead from a group to the groups nested in it.
* `listing_queries_follow_nesting` — descendants, candidates and names of parents of a listing.
-/

namespace AccessConsole.Hierarchy

open Relation (TransGen)
open Hierarchy.Tree

/-! ## Outlines -/

section Outline

variable {α : Type}

/-- Entries as they follow on a path: each is nested in some of the groups on the path down to the
entry before it, and in no others. -/
def Outlines (path : List α) : List (Placed α) → Prop
  | [] => True
  | p :: ps => p.above <:+ path ∧ Outlines (p.label :: p.above) ps

theorem Outlines.later {path : List α} {before after : List (Placed α)} {p : Placed α}
    (h : Outlines path (before ++ p :: after)) : Outlines (p.label :: p.above) after := by
  induction before generalizing path with
  | nil => exact h.2
  | cons q before ih => exact ih h.2

/-- The groups that an entry is nested in are on the path from the start, or come before it. -/
theorem Outlines.mem_of_above {path : List α} {before after : List (Placed α)} {p : Placed α}
    (h : Outlines path (before ++ p :: after)) {a : α} (ha : a ∈ p.above) :
    a ∈ path ∨ a ∈ before.map Placed.label := by
  induction before generalizing path with
  | nil => exact .inl (h.1.subset ha)
  | cons q before ih =>
    obtain hpath | hbefore := ih h.2
    · obtain rfl | hq := List.mem_cons.1 hpath
      · exact .inr List.mem_cons_self
      · exact .inl (h.1.subset hq)
    · exact .inr (List.mem_cons_of_mem _ hbefore)

/-- If every group on the path stands in a listing below the rest of the path, the group that an
entry is nested in stands in it as well. -/
theorem Outlines.parent_mem {path : List α} {entries listing : List (Placed α)}
    (h : Outlines path entries) (hsub : entries ⊆ listing)
    (hpath : ∀ a above, a :: above <:+ path → ⟨a, above⟩ ∈ listing) :
    ∀ p ∈ entries, ∀ a above, p.above = a :: above → ⟨a, above⟩ ∈ listing := by
  induction entries generalizing path with
  | nil => simp
  | cons q entries ih =>
    obtain ⟨hq, hentries⟩ := List.cons_subset.1 hsub
    have habove : ∀ a above, a :: above <:+ q.above → ⟨a, above⟩ ∈ listing :=
      fun a above hsuffix => hpath a above (hsuffix.trans h.1)
    intro p hp a above hparent
    obtain rfl | hp := List.mem_cons.1 hp
    · exact habove a above (hparent ▸ List.suffix_rfl)
    · refine ih h.2 hentries (fun b rest hsuffix => ?_) p hp a above hparent
      obtain hself | hrest := List.suffix_cons_iff.1 hsuffix
      · obtain ⟨rfl, rfl⟩ := List.cons.inj hself
        exact hq
      · exact habove b rest hrest

/-- Of two stretches of a path, one that is longer than what stands below a group holds the
group. -/
theorem suffix_of_deeper {path above : List α} {a : α} {p : Placed α} (hpath : a :: above <:+ path)
    (hp : p.above <:+ path) (hdepth : above.length < p.depth) : a :: above <:+ p.above :=
  List.suffix_of_suffix_length_le hpath hp hdepth

/-- As long as entries stand deeper than a group on the path, they are nested in it. -/
theorem Outlines.mem_above_of_takeWhile {path above : List α} {a : α} {entries : List (Placed α)}
    (h : Outlines path entries) (hpath : a :: above <:+ path) :
    ∀ q ∈ entries.takeWhile fun q => above.length < q.depth, a ∈ q.above := by
  induction entries generalizing path with
  | nil => simp
  | cons p entries ih =>
    intro q hq
    rw [List.takeWhile_cons] at hq
    split at hq
    case isTrue hdepth =>
      have hsuffix := suffix_of_deeper hpath h.1 (of_decide_eq_true hdepth)
      obtain rfl | hq := List.mem_cons.1 hq
      · exact hsuffix.subset List.mem_cons_self
      · exact ih h.2 (hsuffix.trans (List.suffix_cons _ _)) q hq
    case isFalse => exact absurd hq List.not_mem_nil

/-- From the first entry on that does not stand deeper than a group on the path, none is nested in
it. -/
theorem Outlines.not_mem_above_of_dropWhile {path above : List α} {a : α}
    {entries : List (Placed α)} (h : Outlines path entries) (hpath : a :: above <:+ path)
    (habove : a ∉ above) (hentries : a ∉ entries.map Placed.label) :
    ∀ q ∈ entries.dropWhile fun q => above.length < q.depth, a ∉ q.above := by
  induction entries generalizing path with
  | nil => simp
  | cons p entries ih =>
    rw [List.map_cons, List.mem_cons, not_or] at hentries
    intro q hq
    rw [List.dropWhile_cons] at hq
    split at hq
    case isTrue hdepth =>
      have hsuffix := suffix_of_deeper hpath h.1 (of_decide_eq_true hdepth)
      exact ih h.2 (hsuffix.trans (List.suffix_cons _ _)) hentries.2 q hq
    case isFalse hdepth =>
      -- the path has left the group, and only an entry with its label could bring it back
      have hsuffix : p.above <:+ above := by
        have hshort : p.depth ≤ above.length := Nat.not_lt.1 fun h => hdepth (decide_eq_true h)
        exact List.suffix_of_suffix_length_le h.1 ((List.suffix_cons _ _).trans hpath) hshort
      have hp : a ∉ p.above := fun hmem => habove (hsuffix.subset hmem)
      obtain rfl | hq := List.mem_cons.1 hq
      · exact hp
      · obtain ⟨l, r, rfl⟩ := List.append_of_mem hq
        intro hmem
        obtain hpath' | hl := h.2.mem_of_above hmem
        · obtain hlabel | hmem' := List.mem_cons.1 hpath'
          · exact hentries.1 hlabel
          · exact hp hmem'
        · refine hentries.2 ?_
          rw [List.map_append]
          exact List.mem_append_left _ hl

/-- An outline that starts without a path starts at depth zero. -/
theorem Outlines.head_above {entries : List (Placed α)} (h : Outlines [] entries) :
    ∀ p ∈ entries.head?, p.above = [] := by
  cases entries with
  | nil => simp
  | cons p entries =>
    rintro _ ⟨⟩
    exact List.suffix_nil.1 h.1

/-- Along an outline the depth grows by one at most. -/
theorem Outlines.isChain {path : List α} {entries : List (Placed α)}
    (h : Outlines path entries) : entries.IsChain fun p q => q.depth ≤ p.depth + 1 := by
  induction entries generalizing path with
  | nil => exact .nil
  | cons p entries ih =>
    cases entries with
    | nil => exact .singleton _
    | cons q entries => exact .cons_cons h.2.1.length_le (ih h.2)

end Outline

/-! ## Walks -/

section Walk

variable {α : Type} [Entry α]

/-- A forest is listed as an outline, wherever the path before it ends in the groups that the forest
is nested in. -/
theorem outlines_walkBelow (above : List α) (ts : List (Tree α)) (seen : List Int64) {path : List α}
    {later : List (Placed α)} (habove : above <:+ path)
    (hlater : ∀ path, above <:+ path → Outlines path later) :
    Outlines path ((walkBelow above ts seen).entries ++ later) := by
  induction ts using forest_induction generalizing above seen path later with
  | nil =>
    rw [walkBelow]
    exact hlater path habove
  | cons a us ts ihu iht =>
    rw [walkBelow]
    by_cases hseen : Entry.id a ∈ seen
    · rw [if_pos hseen]
      exact iht above seen habove hlater
    · rw [if_neg hseen]
      refine ⟨habove, ?_⟩
      rw [List.append_eq, List.append_assoc]
      refine ihu (a :: above) _ List.suffix_rfl fun path hpath => ?_
      exact iht above _ ((List.suffix_cons _ _).trans hpath) hlater

theorem outlines_walk (roots : List (Tree α)) : Outlines [] (walk roots) := by
  have h : Outlines [] ((walkBelow [] roots []).entries ++ []) :=
    outlines_walkBelow [] roots [] List.suffix_rfl fun _ _ => trivial
  rwa [List.append_nil] at h

variable {roots : List (Tree α)}

/-- Listed groups with one id are one. -/
theorem eq_of_id_eq {p q : Placed α} (hp : p ∈ walk roots) (hq : q ∈ walk roots)
    (h : Entry.id p.label = Entry.id q.label) : p = q :=
  List.inj_on_of_nodup_map (nodup_map_id_walk roots) hp hq h

/-- The group that a listed group is nested in is listed, and stands where the group says. -/
theorem parent_mem_walk {p : Placed α} (hp : p ∈ walk roots) {a : α} {above : List α}
    (h : p.above = a :: above) : ⟨a, above⟩ ∈ walk roots := by
  refine (outlines_walk roots).parent_mem (List.Subset.refl _) (fun b rest hsuffix => ?_) p hp a
    above h
  exact absurd (List.suffix_nil.1 hsuffix) (List.cons_ne_nil _ _)

/-- Around a listed group: nothing before it is nested in it, the deeper entries right after it are,
and those behind them are not. -/
theorem walk_around {before after : List (Placed α)} {p : Placed α}
    (h : walk roots = before ++ p :: after) :
    (∀ q ∈ before, p.label ∉ q.above) ∧ p.label ∉ p.above ∧
      (∀ q ∈ after.takeWhile fun q => p.depth < q.depth, p.label ∈ q.above) ∧
      ∀ q ∈ after.dropWhile fun q => p.depth < q.depth, p.label ∉ q.above := by
  have hwalk := outlines_walk roots
  have hids := nodup_map_id_walk roots
  rw [h] at hwalk hids
  rw [List.map_append, List.map_cons] at hids
  obtain ⟨-, hlater, hdisjoint⟩ := List.nodup_append.1 hids
  -- no other entry has the label of `p`
  have hbefore : p.label ∉ before.map Placed.label := by
    intro hmem
    obtain ⟨q, hq, hlabel⟩ := List.mem_map.1 hmem
    exact hdisjoint _ (List.mem_map_of_mem hq) _ List.mem_cons_self (by rw [hlabel])
  have hafter : p.label ∉ after.map Placed.label := by
    intro hmem
    obtain ⟨q, hq, hlabel⟩ := List.mem_map.1 hmem
    exact (List.nodup_cons.1 hlater).1 (List.mem_map.2 ⟨q, hq, by rw [hlabel]⟩)
  have hself : p.label ∉ p.above := fun hmem =>
    (hwalk.mem_of_above hmem).elim List.not_mem_nil hbefore
  refine ⟨fun q hq hmem => ?_, hself, hwalk.later.mem_above_of_takeWhile List.suffix_rfl,
    hwalk.later.not_mem_above_of_dropWhile List.suffix_rfl hself hafter⟩
  obtain ⟨l, r, rfl⟩ := List.append_of_mem hq
  rw [List.append_assoc, List.cons_append] at hwalk
  refine (hwalk.mem_of_above hmem).elim List.not_mem_nil fun hl => hbefore ?_
  rw [List.map_append]
  exact List.mem_append_left _ hl

theorem mem_nested_iff {before after : List (Placed α)} {p q : Placed α}
    (h : walk roots = before ++ p :: after) (hq : q ∈ walk roots) :
    (q ∈ after.takeWhile fun q => p.depth < q.depth) ↔ p.label ∈ q.above := by
  obtain ⟨hbefore, hself, hnested, hrest⟩ := walk_around h
  refine ⟨hnested q, fun hmem => ?_⟩
  rw [h, List.mem_append, List.mem_cons] at hq
  obtain hq | rfl | hq := hq
  · exact absurd hmem (hbefore q hq)
  · exact absurd hmem hself
  · rw [← List.takeWhile_append_dropWhile (p := fun q : Placed α => p.depth < q.depth) (l := after),
      List.mem_append] at hq
    exact hq.resolve_right fun hq => hrest q hq hmem

/-- What is left of a listing without a group and what is nested in it. -/
theorem filter_walk_around {before after : List (Placed α)} {p : Placed α}
    (h : walk roots = before ++ p :: after) {keep : Placed α → Bool}
    (hkeep : ∀ q ∈ walk roots, keep q = true ↔ q ≠ p ∧ p.label ∉ q.above) :
    (walk roots).filter keep = before ++ after.dropWhile fun q => p.depth < q.depth := by
  obtain ⟨hbefore, -, hnested, hrest⟩ := walk_around h
  have hids := nodup_map_id_walk roots
  have hafter := List.takeWhile_append_dropWhile (p := fun q : Placed α => p.depth < q.depth)
    (l := after)
  generalize (after.takeWhile fun q => p.depth < q.depth) = nested at hnested hafter
  generalize (after.dropWhile fun q => p.depth < q.depth) = rest at hrest hafter ⊢
  subst hafter
  rw [h] at hkeep hids ⊢
  have hother : ∀ q ∈ before ++ (nested ++ rest), q ≠ p := by
    rintro q hq rfl
    rw [List.map_append, List.map_cons, List.nodup_middle, List.nodup_cons, ← List.map_append]
      at hids
    exact hids.1 (List.mem_map_of_mem hq)
  have hkept : ∀ l : List (Placed α), l ⊆ before ++ (nested ++ rest) →
      (∀ q ∈ l, p.label ∉ q.above) → l.filter keep = l := by
    intro l hsub hl
    refine List.filter_eq_self.2 fun q hq => (hkeep q ?_).2 ⟨hother q (hsub hq), hl q hq⟩
    exact List.perm_middle.mem_iff.2 (List.mem_cons_of_mem _ (hsub hq))
  have hp : keep p = false := Bool.eq_false_iff.2 fun hp =>
    ((hkeep p (List.mem_append_right _ List.mem_cons_self)).1 hp).1 rfl
  have hnone : nested.filter keep = [] := List.filter_eq_nil_iff.2 fun q hq hkeepq =>
    ((hkeep q (by simp [hq])).1 hkeepq).2 (hnested q hq)
  rw [List.filter_append, List.filter_cons_of_neg (by simp [hp]), List.filter_append, hnone,
    hkept before (by simp) hbefore, hkept rest (by simp) hrest, List.nil_append]

end Walk

/-- Tests that agree on a list take the same from its front. -/
theorem takeWhile_congr_of_mem {β : Type} {keep keep' : β → Bool} {l : List β}
    (h : ∀ x ∈ l, keep x = keep' x) : l.takeWhile keep = l.takeWhile keep' := by
  induction l with
  | nil => rfl
  | cons x l ih =>
    rw [List.takeWhile_cons, List.takeWhile_cons, h x List.mem_cons_self,
      ih fun y hy => h y (List.mem_cons_of_mem _ hy)]

/-! ## Groups -/

section Groups

variable {kind : GroupKind} {roots : List (GroupTree kind)}

/-- No root names a parent that is in the forest. -/
def RootsApart (roots : List (GroupTree kind)) : Prop :=
  ∀ t ∈ roots, ∀ parent, t.label.parentId = some parent → parent ∉ ids roots

theorem id_mem_ids {p : Placed (Group kind)} (hp : p ∈ walk roots) : p.label.id ∈ ids roots := by
  rw [← map_id_preorder_placed [] roots]
  exact List.mem_map_of_mem ((walk_sublist roots).subset hp)

/-- A group with nothing above it is a root. -/
theorem root_of_above_eq_nil {p : Placed (Group kind)} (hp : p ∈ walk roots)
    (habove : p.above = []) : ∃ t ∈ roots, t.label = p.label := by
  obtain ⟨-, hroot⟩ | ⟨a, hsuffix⟩ := mem_preorder_placed ((walk_sublist roots).subset hp)
  · exact hroot
  · rw [habove] at hsuffix
    exact absurd (List.suffix_nil.1 hsuffix) (List.cons_ne_nil _ _)

/-- Parents that are in the forest are the groups in which others are nested. -/
theorem parentId_entry_iff (hroots : RootsApart roots) {p : Placed (Group kind)}
    (hp : p ∈ walk roots) {x : Int64} (hx : x ∈ ids roots) :
    p.entry.parentId = some x ↔ p.parent?.map Group.id = some x := by
  show (p.parent?.map Group.id).or p.label.parentId = some x ↔ _
  cases habove : p.parent? with
  | some g => rfl
  | none =>
    obtain ⟨t, ht, hlabel⟩ := root_of_above_eq_nil hp (List.head?_eq_none_iff.1 habove)
    have hown : p.label.parentId ≠ some x := fun h => hroots t ht x (hlabel ▸ h) hx
    simpa using hown

theorem childStep_walk (hroots : RootsApart roots) {x y : Int64} (hx : x ∈ ids roots) :
    ChildStep (references (flatten roots)) x y ↔
      ∃ q ∈ walk roots, q.label.id = y ∧ q.parent?.map Group.id = some x := by
  rw [flatten_eq_map_walk, ChildStep, references, List.map_map, List.mem_map]
  refine exists_congr fun q => and_congr_right fun hq => ?_
  rw [← parentId_entry_iff hroots hq hx]
  exact Prod.ext_iff

/-- Parent references lead from a listed group to the listed groups that are nested in it. -/
theorem transGen_walk_iff (hroots : RootsApart roots) {p : Placed (Group kind)}
    (hp : p ∈ walk roots) {c : Int64} :
    TransGen (ChildStep (references (flatten roots))) p.label.id c ↔
      ∃ q ∈ walk roots, q.label.id = c ∧ p.label ∈ q.above := by
  -- a step leads from a group to one that stands right below it
  have hstep : ∀ q ∈ walk roots, ∀ {y}, ChildStep (references (flatten roots)) q.label.id y →
      ∃ r ∈ walk roots, r.label.id = y ∧ r.above = q.label :: q.above := by
    intro q hq y h
    obtain ⟨r, hr, hid, hparent⟩ := (childStep_walk hroots (id_mem_ids hq)).1 h
    obtain ⟨g, hg, hgid⟩ := Option.map_eq_some_iff.1 hparent
    obtain ⟨above, habove⟩ := List.head?_eq_some_iff.1 hg
    obtain rfl := eq_of_id_eq (parent_mem_walk hr habove) hq hgid
    exact ⟨r, hr, hid, habove⟩
  constructor
  · intro h
    induction h with
    | single h =>
      obtain ⟨r, hr, hid, habove⟩ := hstep p hp h
      exact ⟨r, hr, hid, habove ▸ List.mem_cons_self⟩
    | tail _ h ih =>
      obtain ⟨q, hq, rfl, hmem⟩ := ih
      obtain ⟨r, hr, hid, habove⟩ := hstep q hq h
      exact ⟨r, hr, hid, habove ▸ List.mem_cons_of_mem _ hmem⟩
  · rintro ⟨q, hq, rfl, hmem⟩
    obtain ⟨label, above⟩ := q
    -- from the innermost group outwards, until it is `p`
    induction above generalizing label with
    | nil => exact absurd hmem List.not_mem_nil
    | cons a above ih =>
      have ha : (⟨a, above⟩ : Placed (Group kind)) ∈ walk roots := parent_mem_walk hq rfl
      have hlast : ChildStep (references (flatten roots)) a.id label.id :=
        (childStep_walk hroots (id_mem_ids ha)).2 ⟨_, hq, rfl, rfl⟩
      obtain heq | hmem := List.mem_cons.1 hmem
      · exact .single (heq ▸ hlast)
      · exact (ih a ha hmem).tail hlast

theorem mem_descendants_walk (hroots : RootsApart roots) {p : Placed (Group kind)}
    (hp : p ∈ walk roots) {c : Int64} :
    c ∈ descendants (flatten roots) p.label.id ↔
      ∃ q ∈ walk roots, q.label.id = c ∧ p.label ∈ q.above := by
  rw [mem_descendants_iff, transGen_walk_iff hroots hp, and_iff_right_iff_imp]
  rintro ⟨q, hq, rfl, hmem⟩ hid
  obtain ⟨before, after, hsplit⟩ := List.append_of_mem hp
  exact (walk_around hsplit).2.1 (eq_of_id_eq hq hp hid ▸ hmem)

/-- What may become the parent of a listed group is all that is listed but the group and what is
nested in it. -/
theorem parentCandidates_walk (hroots : RootsApart roots)
    {before after : List (Placed (Group kind))} {p : Placed (Group kind)}
    (h : walk roots = before ++ p :: after) :
    parentCandidates (flatten roots) p.label.id =
      (before ++ after.dropWhile fun q => p.depth < q.depth).map Placed.entry := by
  have hp : p ∈ walk roots := h ▸ List.mem_append_right _ List.mem_cons_self
  have hkeep : ∀ q ∈ walk roots, (q.label.id ≠ p.label.id ∧
      q.label.id ∉ descendants (flatten roots) p.label.id ↔ q ≠ p ∧ p.label ∉ q.above) := by
    intro q hq
    refine and_congr (not_congr ⟨eq_of_id_eq hq hp, fun h => h ▸ rfl⟩) (not_congr ?_)
    rw [mem_descendants_walk hroots hp]
    refine ⟨fun ⟨r, hr, hid, hmem⟩ => ?_, fun hmem => ⟨q, hq, rfl, hmem⟩⟩
    exact eq_of_id_eq hr hq hid ▸ hmem
  show (flatten roots).filter (fun e => Entry.id e ≠ p.label.id &&
    Entry.id e ∉ descendants (flatten roots) p.label.id) = _
  generalize descendants (flatten roots) p.label.id = below at hkeep ⊢
  rw [flatten_eq_map_walk, List.filter_map]
  refine congrArg _ (filter_walk_around h fun q hq => ?_)
  rw [← hkeep q hq, Function.comp_apply, Bool.and_eq_true, decide_eq_true_iff, decide_eq_true_iff]
  rfl

/-- The deeper entries right after a group can be told by the levels that they show. -/
theorem takeWhile_depth_entry (hfit : LevelsFit roots) {before after : List (Placed (Group kind))}
    {p : Placed (Group kind)} (h : walk roots = before ++ p :: after) :
    (after.map Placed.entry).takeWhile (fun g => p.entry.depth < g.depth) =
      (after.takeWhile fun q => p.depth < q.depth).map Placed.entry := by
  have hdepth : ∀ q ∈ p :: after, q.entry.depth = q.depth := fun q hq =>
    depth_entry hfit (h ▸ List.mem_append_right before hq)
  rw [hdepth p List.mem_cons_self, List.takeWhile_map]
  refine congrArg _ (takeWhile_congr_of_mem fun q hq => ?_)
  rw [Function.comp_apply, hdepth q (List.mem_cons_of_mem _ hq)]

/-- A group has a parent name if it is nested in another, and that is the name of the other. -/
theorem mem_linkParents_walk (hroots : RootsApart roots) {l : Int64 × String} :
    l ∈ linkParents (flatten roots) ↔
      ∃ p ∈ walk roots, ∃ g, p.parent? = some g ∧ l = (p.label.id, g.name) := by
  rw [(mem_linkParents (nodup_map_id_flatten roots)).2 l]
  simp only [flatten_eq_map_walk, List.mem_map]
  constructor
  · rintro ⟨_, ⟨p, hp, rfl⟩, hid, _, ⟨q, hq, rfl⟩, hparent, hname⟩
    obtain ⟨g, hg, hgid⟩ := Option.map_eq_some_iff.1
      ((parentId_entry_iff hroots hp (id_mem_ids hq)).1 hparent)
    obtain ⟨above, habove⟩ := List.head?_eq_some_iff.1 hg
    obtain rfl := eq_of_id_eq (parent_mem_walk hp habove) hq hgid
    exact ⟨p, hp, g, hg, Prod.ext hid.symm hname.symm⟩
  · rintro ⟨p, hp, g, hg, rfl⟩
    obtain ⟨above, habove⟩ := List.head?_eq_some_iff.1 hg
    have hq := parent_mem_walk hp habove
    refine ⟨_, ⟨p, hp, rfl⟩, rfl, _, ⟨_, hq, rfl⟩, ?_, rfl⟩
    exact (parentId_entry_iff hroots hp (id_mem_ids hq)).2 (by rw [hg]; rfl)

/-- In the listing of a forest whose roots name no parent in it, the descendants of a group are the
deeper groups right after it. These are the listed groups that are nested in it, and the levels
tell which they are if they fit 32 bits. All but the group and these may become its parent. The
names of parents are there for the groups that are nested in others, in order of the ids, and are
the names of these. -/
theorem listing_queries_follow_nesting (roots : List (GroupTree kind)) (hroots : RootsApart roots) :
    let flat := flatten roots
    flat = (walk roots).map Placed.entry ∧
    (∀ before p after, walk roots = before ++ p :: after →
      let nested := after.takeWhile fun q => p.depth < q.depth
      (∀ q ∈ walk roots, q ∈ nested ↔ p.label ∈ q.above) ∧
      (LevelsFit roots →
        (after.map Placed.entry).takeWhile (fun g => p.entry.depth < g.depth) =
          nested.map Placed.entry) ∧
      (∀ c, c ∈ descendants flat p.label.id ↔ c ∈ nested.map fun q => q.label.id) ∧
      parentCandidates flat p.label.id =
        (before ++ after.dropWhile fun q => p.depth < q.depth).map Placed.entry) ∧
    Ascending (linkParents flat) ∧
    ∀ l, l ∈ linkParents flat ↔
      ∃ p ∈ walk roots, ∃ g, p.parent? = some g ∧ l = (p.label.id, g.name) := by
  refine ⟨flatten_eq_map_walk roots, fun before p after h => ?_,
    (mem_linkParents (nodup_map_id_flatten roots)).1, fun l => mem_linkParents_walk hroots⟩
  have hp : p ∈ walk roots := h ▸ List.mem_append_right _ List.mem_cons_self
  refine ⟨fun q hq => mem_nested_iff h hq, fun hfit => takeWhile_depth_entry hfit h, fun c => ?_,
    parentCandidates_walk hroots h⟩
  rw [mem_descendants_walk hroots hp, List.mem_map]
  constructor
  · rintro ⟨q, hq, hid, hmem⟩
    exact ⟨q, (mem_nested_iff h hq).2 hmem, hid⟩
  · rintro ⟨q, hq, hid⟩
    have hqwalk : q ∈ walk roots :=
      h ▸ List.mem_append_right _ (List.mem_cons_of_mem _ ((List.takeWhile_sublist _).subset hq))
    exact ⟨q, hqwalk, hid, (mem_nested_iff h hqwalk).1 hq⟩

end Groups

theorem looped_forest_queries : RootsApart loopedForest ∧
    (∀ c, c ∈ descendants (flatten loopedForest) 1 ↔ c = 2) ∧
    parentCandidates (flatten loopedForest) 1 =
      [{ sampleGroup 4 "Lab" (some 8) with level := some 0 }] ∧
    (2, "Root") ∈ linkParents (flatten loopedForest) := by
  have hroots : RootsApart loopedForest := by
    simp [RootsApart, loopedForest, ids, preorder, label, sampleGroup, Entry.id]
  have hwalk : walk loopedForest = [] ++ ⟨sampleGroup 1 "Root" none, []⟩ ::
      [⟨sampleGroup 2 "Region" none, [sampleGroup 1 "Root" none]⟩,
       ⟨sampleGroup 4 "Lab" (some 8), []⟩] := by
    simp [walk, walkBelow, loopedForest, sampleGroup, Entry.id]
  obtain ⟨-, haround, -, hlinks⟩ := listing_queries_follow_nesting loopedForest hroots
  obtain ⟨-, -, hdescendants, hcandidates⟩ := haround _ _ _ hwalk
  refine ⟨hroots, fun c => ?_, hcandidates.trans ?_, (hlinks _).2 ?_⟩
  · refine (hdescendants c).trans ?_
    simp [Placed.depth, sampleGroup]
  · rfl
  · exact ⟨⟨sampleGroup 2 "Region" none, [sampleGroup 1 "Root" none]⟩, by simp [hwalk], _, rfl, rfl⟩

end AccessConsole.Hierarchy
