import AccessConsole.Hierarchy.Links
import AccessConsole.Resource.Group
import Mathlib.Logic.Relation
import Mathlib.Tactic.SplitIfs

/-!
# Groups below a group

Parent references lead from a group to the groups below it. They may be circular, dangling or
there several times, and the search for what is below a group ends all the same.

* `ChildStep` — a step from a group to one that names it as its parent.
* `Exploring` — what holds of the search at all times.
* `mem_descendants` — the search finds what steps that avoid its root lead to.
* `mem_descendants_iff` — it finds all that is below its root but the root itself.
* `parentCandidates_make_no_circle` — the candidates are the parents that make no circle.
-/

namespace AccessConsole.Hierarchy

open Relation (TransGen ReflTransGen)

/-- Ids with the parents that are named for them. -/
abbrev References := List (Int64 × Option Int64)

/-- The references of a listing. -/
def references {α : Type} [Entry α] (entries : List α) : References :=
  entries.map fun e => (Entry.id e, Entry.parentId e)

/-! ## Steps -/

/-- A group with the id `y` names `x` as its parent. -/
def ChildStep (refs : References) (x y : Int64) : Prop := (y, some x) ∈ refs

/-- A step that does not lead to the root. -/
def StepAvoiding (refs : References) (root x y : Int64) : Prop := ChildStep refs x y ∧ y ≠ root

/-- Nothing is below itself. -/
def Acyclic (refs : References) : Prop := ∀ x, ¬TransGen (ChildStep refs) x x

/-- All references of the groups with the id `editing` name `parent`. -/
def reassign (editing parent : Int64) (refs : References) : References :=
  refs.map fun r => if r.1 = editing then (r.1, some parent) else r

/-- What is below the root, other than the root, is below it by steps that avoid it: a way that
comes back to the root can begin there. -/
theorem transGen_stepAvoiding_iff {refs : References} {root c : Int64} :
    TransGen (StepAvoiding refs root) root c ↔ c ≠ root ∧ TransGen (ChildStep refs) root c := by
  constructor
  · intro h
    have hne : c ≠ root := by
      cases h with
      | single h => exact h.2
      | tail _ h => exact h.2
    exact ⟨hne, TransGen.mono (fun _ _ => And.left) _ _ h⟩
  · rintro ⟨hne, h⟩
    induction h with
    | single h => exact .single ⟨h, hne⟩
    | @tail b c _ hstep ih =>
      by_cases hb : b = root
      · exact .single ⟨hb ▸ hstep, hne⟩
      · exact (ih hb).tail ⟨hstep, hne⟩

section Search

variable {α : Type} [Entry α] {entries : List α} {root : Int64}

theorem mem_childIds {x y : Int64} :
    y ∈ childIds entries x ↔ ChildStep (references entries) x y := by
  simp only [childIds, ChildStep, references, List.mem_map, List.mem_filter, beq_iff_eq,
    Prod.mk.injEq]
  constructor
  · rintro ⟨e, ⟨he, hparent⟩, hid⟩
    exact ⟨e, he, hid, hparent⟩
  · rintro ⟨e, he, hid, hparent⟩
    exact ⟨e, ⟨he, hparent⟩, hid⟩

/-! ## Search -/

/-- Every id that is found is below the root. An id is pending once it is found, and as long as
there are ids next below it that are not found. -/
structure Exploring (entries : List α) (root : Int64) (found pending : List Int64) : Prop where
  below : ∀ c ∈ found, TransGen (StepAvoiding (references entries) root) root c
  waiting : ∀ x ∈ pending, x = root ∨ x ∈ found
  expanded : ∀ x, x = root ∨ x ∈ found →
    x ∈ pending ∨ ∀ c, StepAvoiding (references entries) root x c → c ∈ found

theorem exploring_start : Exploring entries root [] [root] where
  below := by simp
  waiting := by simp
  expanded := by simp

/-- Taking an id off the front and its fresh children in keeps the search on its way. -/
theorem Exploring.next {found rest : List Int64} {id : Int64}
    (h : Exploring entries root found (id :: rest)) :
    Exploring entries root (freshChildren entries root found id ++ found)
      (freshChildren entries root found id ++ rest) := by
  have hfresh : ∀ {c}, c ∈ freshChildren entries root found id ↔
      StepAvoiding (references entries) root id c ∧ c ∉ found := by
    intro c
    rw [mem_freshChildren, mem_childIds, StepAvoiding, and_assoc]
  refine ⟨fun c hc => ?below, fun x hx => ?waiting, fun x hx => ?expanded⟩
  case below =>
    obtain hc | hc := List.mem_append.1 hc
    · have hstep := (hfresh.1 hc).1
      obtain hroot | hid := h.waiting id List.mem_cons_self
      · exact .single (hroot ▸ hstep)
      · exact (h.below id hid).tail hstep
    · exact h.below c hc
  case waiting =>
    obtain hx | hx := List.mem_append.1 hx
    · exact .inr (List.mem_append_left _ hx)
    · exact (h.waiting x (List.mem_cons_of_mem _ hx)).imp_right (List.mem_append_right _)
  case expanded =>
    by_cases hnew : x ∈ freshChildren entries root found id
    · exact .inl (List.mem_append_left _ hnew)
    have hold : x = root ∨ x ∈ found :=
      hx.imp_right fun hx => (List.mem_append.1 hx).resolve_left hnew
    by_cases hid : x = id
    · -- all children of the id itself are found now
      refine .inr fun c hc => ?_
      by_cases hfound : c ∈ found
      · exact List.mem_append_right _ hfound
      · exact List.mem_append_left _ (hfresh.2 ⟨hid ▸ hc, hfound⟩)
    · refine (h.expanded x hold).imp (fun hpending => ?_) fun hall c hc => ?_
      · exact List.mem_append_right _ ((List.mem_cons.1 hpending).resolve_left hid)
      · exact List.mem_append_right _ (hall c hc)

/-- The search is still on its way when nothing is pending any more. -/
theorem Exploring.explore {found pending : List Int64} (h : Exploring entries root found pending) :
    Exploring entries root (explore entries root found pending) [] := by
  fun_induction Hierarchy.explore entries root found pending with
  | case1 => exact h
  | case2 found id rest fresh ih => exact ih h.next

/-- When nothing is pending any more, what steps from the root lead to that avoid the root is
found. -/
theorem Exploring.mem_iff {found : List Int64} (h : Exploring entries root found []) {c : Int64} :
    c ∈ found ↔ TransGen (StepAvoiding (references entries) root) root c := by
  have hclosed : ∀ x, x = root ∨ x ∈ found →
      ∀ c, StepAvoiding (references entries) root x c → c ∈ found :=
    fun x hx => (h.expanded x hx).resolve_left List.not_mem_nil
  refine ⟨h.below c, fun hc => ?_⟩
  induction hc with
  | single hstep => exact hclosed root (.inl rfl) _ hstep
  | tail _ hstep ih => exact hclosed _ (.inr ih) _ hstep

/-- The search finds what steps from the root lead to that avoid the root. -/
theorem mem_descendants {c : Int64} :
    c ∈ descendants entries root ↔ TransGen (StepAvoiding (references entries) root) root c :=
  exploring_start.explore.mem_iff

/-- The search finds all that is below the root, but never the root. -/
theorem mem_descendants_iff {c : Int64} :
    c ∈ descendants entries root ↔
      c ≠ root ∧ TransGen (ChildStep (references entries)) root c :=
  mem_descendants.trans transGen_stepAvoiding_iff

end Search

/-! ## New parents -/

section Reassigned

variable {refs : References} {editing parent : Int64}

/-- Steps that avoid a group do not depend on its parents. -/
theorem stepAvoiding_reassign {x y : Int64} :
    StepAvoiding (reassign editing parent refs) editing x y ↔ StepAvoiding refs editing x y := by
  refine and_congr_left fun hne => ?_
  simp only [ChildStep, reassign, List.mem_map]
  constructor
  · rintro ⟨r, hr, heq⟩
    split_ifs at heq with hid
    · exact absurd ((Prod.ext_iff.1 heq).1.symm.trans hid) hne
    · exact heq ▸ hr
  · exact fun h => ⟨(y, some x), h, if_neg hne⟩

/-- The only step to a listed group that has a new parent is that from its parent. -/
theorem childStep_reassign_self (hlisted : editing ∈ refs.map Prod.fst) {x : Int64} :
    ChildStep (reassign editing parent refs) x editing ↔ x = parent := by
  simp only [ChildStep, reassign, List.mem_map]
  constructor
  · rintro ⟨r, -, heq⟩
    split_ifs at heq with hid
    · exact (Option.some.inj (Prod.ext_iff.1 heq).2).symm
    · exact absurd (Prod.ext_iff.1 heq).1 hid
  · rintro rfl
    obtain ⟨r, hr, hid⟩ := List.mem_map.1 hlisted
    exact ⟨r, hr, by rw [if_pos hid, hid]⟩

/-- A listed group with a new parent is below itself if and only if that parent is the group or was
below it already. -/
theorem transGen_reassign_self (hlisted : editing ∈ refs.map Prod.fst) :
    TransGen (ChildStep (reassign editing parent refs)) editing editing ↔
      parent = editing ∨ TransGen (StepAvoiding refs editing) editing parent := by
  have hsame : StepAvoiding (reassign editing parent refs) editing = StepAvoiding refs editing :=
    funext₂ fun _ _ => propext stepAvoiding_reassign
  have hlast : ChildStep (reassign editing parent refs) parent editing :=
    (childStep_reassign_self hlisted).2 rfl
  constructor
  · intro h
    obtain ⟨x, hway, hstep⟩ := TransGen.tail'_iff.1 h
    obtain rfl := (childStep_reassign_self hlisted).1 hstep
    by_cases hself : x = editing
    · exact .inl hself
    · have hbelow := (Relation.reflTransGen_iff_eq_or_transGen.1 hway).resolve_left hself
      exact .inr (hsame ▸ transGen_stepAvoiding_iff.2 ⟨hself, hbelow⟩)
  · rintro (rfl | h)
    · exact .single hlast
    · rw [← hsame] at h
      exact (transGen_stepAvoiding_iff.1 h).2.tail hlast

/-- With the new parent a way is an old one, or it passes through the group. -/
theorem transGen_reassign {x y : Int64}
    (h : TransGen (ChildStep (reassign editing parent refs)) x y) :
    TransGen (ChildStep refs) x y ∨
      TransGen (ChildStep (reassign editing parent refs)) x editing ∧
        ReflTransGen (ChildStep (reassign editing parent refs)) editing y := by
  induction h with
  | @single y hstep =>
    by_cases hy : y = editing
    · subst hy
      exact .inr ⟨.single hstep, .refl⟩
    · exact .inl (.single (stepAvoiding_reassign.1 ⟨hstep, hy⟩).1)
  | @tail y z hway hstep ih =>
    by_cases hz : z = editing
    · subst hz
      exact .inr ⟨hway.tail hstep, .refl⟩
    · obtain hold | ⟨hto, hfrom⟩ := ih
      · exact .inl (hold.tail (stepAvoiding_reassign.1 ⟨hstep, hz⟩).1)
      · exact .inr ⟨hto, hfrom.tail hstep⟩

/-- If nothing was below itself, a new parent makes a circle only through the group. -/
theorem acyclic_reassign (h : Acyclic refs) :
    Acyclic (reassign editing parent refs) ↔
      ¬TransGen (ChildStep (reassign editing parent refs)) editing editing := by
  refine ⟨fun hacyclic => hacyclic editing, fun hself x hx => ?_⟩
  obtain hold | ⟨hto, hfrom⟩ := transGen_reassign hx
  · exact h x hold
  · exact hself (TransGen.trans_right hfrom hto)

end Reassigned

/-! ## Candidates -/

/-- The candidates for the parent of a listed group are those groups of the listing, in its order,
that make no circle through it. So where there is no circle they are the groups that leave it at
that. -/
theorem parentCandidates_make_no_circle {α : Type} [Entry α] (entries : List α) {editing : Int64}
    (hlisted : editing ∈ entries.map Entry.id) :
    (parentCandidates entries editing).Sublist entries ∧
    (∀ e ∈ entries, e ∈ parentCandidates entries editing ↔
      ¬TransGen (ChildStep (reassign editing (Entry.id e) (references entries)))
        editing editing) ∧
    (Acyclic (references entries) → ∀ e ∈ entries, e ∈ parentCandidates entries editing ↔
      Acyclic (reassign editing (Entry.id e) (references entries))) := by
  have hrefs : editing ∈ (references entries).map Prod.fst := by
    rwa [references, List.map_map]
  have hmem : ∀ e ∈ entries, e ∈ parentCandidates entries editing ↔
      ¬TransGen (ChildStep (reassign editing (Entry.id e) (references entries)))
        editing editing := by
    intro e he
    rw [transGen_reassign_self hrefs, ← mem_descendants]
    simp [parentCandidates, he]
  exact ⟨List.filter_sublist, hmem, fun hacyclic e he =>
    (hmem e he).trans (acyclic_reassign hacyclic).symm⟩

/-- Two groups below each other, one of them listed twice, and a group whose parent is not
listed. -/
def tangledListing : List (Group .user) :=
  [⟨1, "North", "", some 2, false, none, none, none⟩,
   ⟨2, "South", "", some 1, false, none, none, none⟩,
   ⟨3, "Lab", "", some 9, false, none, none, none⟩,
   ⟨2, "South again", "", some 3, false, none, none, none⟩]

/-- A group may leave a circle, but not for the other group in it. -/
theorem tangled_group_candidates :
    (2 : Int64) ∈ tangledListing.map Entry.id ∧
      ¬TransGen (ChildStep (reassign 2 3 (references tangledListing))) 2 2 ∧
      TransGen (ChildStep (reassign 2 1 (references tangledListing))) 2 2 := by
  have hlisted : (2 : Int64) ∈ tangledListing.map Entry.id := by decide
  have hmem := (parentCandidates_make_no_circle tangledListing hlisted).2.1
  have hcandidates : parentCandidates tangledListing 2 =
      [⟨3, "Lab", "", some 9, false, none, none, none⟩] := by
    simp [parentCandidates, descendants, explore, freshChildren, childIds, tangledListing, Entry.id,
      Entry.parentId, List.eraseDups_cons]
  refine ⟨hlisted, (hmem ⟨3, "Lab", "", some 9, false, none, none, none⟩ (by decide)).1 ?_,
    Classical.byContradiction fun hfree => ?_⟩
  · rw [hcandidates]
    exact List.mem_singleton_self _
  · have hother := (hmem ⟨1, "North", "", some 2, false, none, none, none⟩ (by decide)).2 hfree
    rw [hcandidates] at hother
    exact absurd (List.mem_singleton.1 hother) (by decide)

end AccessConsole.Hierarchy
