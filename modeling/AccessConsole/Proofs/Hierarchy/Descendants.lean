import AccessConsole.Proofs.Hierarchy.Reachability

/-!
# The search for what is below a group

The search takes pending ids in one of many orders, and its listing comes in any order as well. What
it finds depends on neither.

* `Search`, `Round` — a search on its way, and one round of it with any pending id.
* `Round.exploring`, `Round.nodup` — what holds of the search at all times holds in every order.
* `wellFounded_round` — every search ends, circular references or not.
* `descendants_perm_of_references` — listings with the same references have the same ids below.
* `descendants_are_all_below` — the ids found are those below the root, each once, whatever the
  order of the search and of the listing.
-/

namespace AccessConsole.Hierarchy

open Relation (TransGen ReflTransGen)

theorem nodup_eraseDups (ids : List Int64) : ids.eraseDups.Nodup := by
  generalize hn : ids.length = n
  induction n using Nat.strongRecOn generalizing ids with
  | ind n ih =>
    cases ids with
    | nil => simp
    | cons id rest =>
      have hshorter := List.length_filter_le (fun b => !b == id) rest
      rw [List.length_cons] at hn
      rw [List.eraseDups_cons, List.nodup_cons]
      refine ⟨by simp, ih _ ?_ _ rfl⟩
      omega

/-- A search on its way: the ids that are found, and those whose children have not been looked
at. -/
structure Search where
  found : List Int64
  pending : List Int64

/-- The search before its first round. -/
def Search.start (root : Int64) : Search := ⟨[], [root]⟩

section

variable {α : Type} [Entry α] {entries : List α} {root : Int64} {s s' : Search}

/-- One round: any pending id is taken out, and its fresh children are found and become pending.
Neither list is in any order. -/
inductive Round (entries : List α) (root : Int64) (s s' : Search) : Prop
  | take {id : Int64} {rest : List Int64} :
    s.pending.Perm (id :: rest) →
    s'.found.Perm (freshChildren entries root s.found id ++ s.found) →
    s'.pending.Perm (freshChildren entries root s.found id ++ rest) → Round entries root s s'

/-! ## What holds at all times -/

/-- What holds of a search at all times does not depend on the order of its ids. -/
theorem Exploring.perm {found pending found' pending' : List Int64}
    (h : Exploring entries root found pending) (hf : found'.Perm found)
    (hp : pending'.Perm pending) : Exploring entries root found' pending' where
  below := by
    intro c hc
    exact h.below c (hf.mem_iff.1 hc)
  waiting := by
    intro x hx
    rw [hf.mem_iff]
    exact h.waiting x (hp.mem_iff.1 hx)
  expanded := by
    intro x hx
    rw [hf.mem_iff] at hx
    rw [hp.mem_iff]
    refine (h.expanded x hx).imp_right fun hall c hc => ?_
    rw [hf.mem_iff]
    exact hall c hc

theorem Round.exploring (h : Round entries root s s')
    (hs : Exploring entries root s.found s.pending) :
    Exploring entries root s'.found s'.pending := by
  cases h with
  | take htake hfound hpending =>
    exact (hs.perm (.refl _) htake.symm).next.perm hfound hpending

/-- No id is found twice. -/
theorem Round.nodup (h : Round entries root s s') (hs : s.found.Nodup) : s'.found.Nodup := by
  cases h with
  | take _ hfound _ =>
    rw [hfound.nodup_iff, List.nodup_append]
    refine ⟨nodup_eraseDups _, hs, ?_⟩
    intro c hc d hd heq
    rw [heq] at hc
    exact (mem_freshChildren.1 hc).2.2 hd

/-- What rounds make of a search at its start. -/
theorem searched (h : ReflTransGen (Round entries root) (.start root) s) :
    Exploring entries root s.found s.pending ∧ s.found.Nodup := by
  induction h with
  | refl => exact ⟨exploring_start, List.nodup_nil⟩
  | tail _ hround ih => exact ⟨hround.exploring ih.1, hround.nodup ih.2⟩

/-! ## Its end -/

/-- A round finds another id of the listing, or there is one id less that is pending. -/
theorem Round.decreases (h : Round entries root s s') :
    Prod.Lex (· < ·) (· < ·) ((missing entries s'.found).length, s'.pending.length)
      ((missing entries s.found).length, s.pending.length) := by
  cases h with
  | @take id rest htake hfound hpending =>
    have hmissing : missing entries s'.found =
        missing entries (freshChildren entries root s.found id ++ s.found) := by
      apply List.filter_congr
      intro c _
      rw [decide_eq_decide, hfound.mem_iff]
    rw [hmissing, hpending.length_eq, htake.length_eq]
    cases hfresh : freshChildren entries root s.found id with
    | nil =>
      rw [List.nil_append, List.nil_append, List.length_cons]
      exact Prod.Lex.right _ (Nat.lt_succ_self _)
    | cons c cs =>
      have hc : c ∈ freshChildren entries root s.found id := hfresh ▸ List.mem_cons_self
      have hmem := mem_freshChildren.1 hc
      exact Prod.Lex.left _ _
        (missing_length_lt List.mem_cons_self (childIds_subset hmem.1) hmem.2.2)

/-- No search goes on for ever. -/
theorem wellFounded_round (entries : List α) (root : Int64) :
    WellFounded fun s' s => Round entries root s s' := by
  refine Subrelation.wf (r := InvImage (Prod.Lex (· < ·) (· < ·)) fun s : Search =>
    ((missing entries s.found).length, s.pending.length)) ?_ (InvImage.wf _ ?_)
  · intro s' s h
    exact h.decreases
  · exact (Prod.lex Nat.lt_wfRel Nat.lt_wfRel).wf

/-- The search that takes the first of its pending ids each time is one of them. -/
theorem round_explore (found pending : List Int64) :
    ReflTransGen (Round entries root) ⟨found, pending⟩
      ⟨explore entries root found pending, []⟩ := by
  fun_induction explore entries root found pending with
  | case1 => exact .refl
  | case2 found id rest fresh ih => exact .head (.take (.refl _) (.refl _) (.refl _)) ih

/-! ## What it finds -/

theorem nodup_descendants : (descendants entries root).Nodup :=
  (searched (round_explore [] [root])).2

/-- Listings with the same references have the same ids below a root. -/
theorem descendants_perm_of_references {β : Type} [Entry β] {others : List β}
    (h : ∀ r, r ∈ references others ↔ r ∈ references entries) :
    (descendants others root).Perm (descendants entries root) := by
  have hsteps : ChildStep (references others) = ChildStep (references entries) :=
    funext₂ fun x y => propext (h (y, some x))
  rw [List.perm_ext_iff_of_nodup nodup_descendants nodup_descendants]
  intro c
  rw [mem_descendants_iff, mem_descendants_iff, hsteps]

/-- The ids that are found below a root, listed or not, are those that one step or more along the
references lead to from it, but for the root itself, and each is found once. In whatever order the
pending ids are taken, the search ends, and with these ids. Nor does it matter in which order the
groups are listed, or how often. -/
theorem descendants_are_all_below (entries : List α) (root : Int64) :
    (descendants entries root).Nodup ∧
      (∀ c, c ∈ descendants entries root ↔
        c ≠ root ∧ TransGen (ChildStep (references entries)) root c) ∧
      (WellFounded fun s' s => Round entries root s s') ∧
      ReflTransGen (Round entries root) (.start root) ⟨descendants entries root, []⟩ ∧
      (∀ found, ReflTransGen (Round entries root) (.start root) ⟨found, []⟩ →
        found.Perm (descendants entries root)) ∧
      ∀ others : List α, (∀ e, e ∈ others ↔ e ∈ entries) →
        (descendants others root).Perm (descendants entries root) := by
  refine ⟨nodup_descendants, fun c => mem_descendants_iff, wellFounded_round entries root,
    round_explore [] [root], ?_, ?_⟩
  · intro found h
    obtain ⟨hexploring, hnodup⟩ := searched h
    rw [List.perm_ext_iff_of_nodup hnodup nodup_descendants]
    intro c
    rw [hexploring.mem_iff, mem_descendants]
  · intro others hsame
    apply descendants_perm_of_references
    intro r
    simp only [references, List.mem_map, hsame]

end

/-- A circle is found below a group that is not listed, also where all groups are listed twice and
first from the last one on. -/
theorem circle_below_unlisted_group :
    (∀ e, e ∈ tangledListing.reverse ++ tangledListing ↔ e ∈ tangledListing) ∧
      (descendants (tangledListing.reverse ++ tangledListing) 9).Perm [1, 2, 3] := by
  have hsame : ∀ e, e ∈ tangledListing.reverse ++ tangledListing ↔ e ∈ tangledListing := by
    intro e
    rw [List.mem_append, List.mem_reverse, or_self]
  have hfound : descendants tangledListing 9 = [1, 2, 3] := by
    simp [descendants, explore, freshChildren, childIds, tangledListing, Entry.id, Entry.parentId,
      List.eraseDups_cons]
  refine ⟨hsame, ?_⟩
  rw [← hfound]
  exact (descendants_are_all_below tangledListing 9).2.2.2.2.2 _ hsame

end AccessConsole.Hierarchy
