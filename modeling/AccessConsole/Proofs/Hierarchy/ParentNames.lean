import AccessConsole.Hierarchy.Links
import Mathlib.Data.List.Nodup

/-!
# Names of parents

The names of parents are collected in a list of pairs in order of the ids, with one pair for an id.

* `mem_insertLink` — a pair that is put in stands for its id from then on.
* `mem_foldl_insertLink` — pairs for distinct ids that are put in one after the other are all kept.
* `mem_linkParents` — in a listing of distinct ids, a group has a pair if its parent is listed.
-/

namespace AccessConsole.Hierarchy

/-- The ids of the pairs go up. -/
abbrev Ascending (links : List (Int64 × String)) : Prop :=
  links.Pairwise fun l m => l.1 < m.1

/-! ## Pairs put in their place -/

theorem mem_insertLink {id : Int64} {name : String} {links : List (Int64 × String)}
    (h : Ascending links) {l : Int64 × String} :
    l ∈ insertLink id name links ↔ l = (id, name) ∨ l.1 ≠ id ∧ l ∈ links := by
  induction links with
  | nil => simp [insertLink]
  | cons m rest ih =>
    obtain ⟨other, n⟩ := m
    obtain ⟨hfirst, hrest⟩ := List.pairwise_cons.1 h
    rw [insertLink]
    split
    case isTrue hother =>
      subst hother
      -- the pairs behind the one that is replaced have other ids
      have hne : l ∈ rest → l.1 ≠ other := fun hl hid =>
        Int64.lt_irrefl (hid ▸ hfirst l hl)
      grind
    case isFalse hother =>
      split
      case isTrue hlt =>
        -- all pairs have greater ids
        have hne : l ∈ rest → l.1 ≠ id := fun hl hid =>
          Int64.lt_irrefl (Int64.lt_trans hlt (hid ▸ hfirst l hl))
        grind
      case isFalse =>
        rw [List.mem_cons, ih hrest]
        grind

theorem ascending_insertLink {id : Int64} {name : String} {links : List (Int64 × String)}
    (h : Ascending links) : Ascending (insertLink id name links) := by
  induction links with
  | nil => simp [insertLink, Ascending]
  | cons m rest ih =>
    obtain ⟨other, n⟩ := m
    obtain ⟨hfirst, hrest⟩ := List.pairwise_cons.1 h
    rw [insertLink]
    split
    case isTrue hother =>
      exact List.pairwise_cons.2 ⟨hother ▸ hfirst, hrest⟩
    case isFalse hother =>
      split
      case isTrue hlt =>
        refine List.pairwise_cons.2 ⟨fun l hl => ?_, h⟩
        obtain rfl | hl := List.mem_cons.1 hl
        · exact hlt
        · exact Int64.lt_trans hlt (hfirst l hl)
      case isFalse hnot =>
        refine List.pairwise_cons.2 ⟨fun l hl => ?_, ih hrest⟩
        obtain rfl | ⟨-, hl⟩ := (mem_insertLink hrest).1 hl
        · exact Int64.lt_of_le_of_ne (Int64.not_lt.1 hnot) hother
        · exact hfirst l hl

variable {α : Type} [Entry α]

/-- The pairs of groups with distinct ids, put in one after the other. -/
theorem mem_foldl_insertLink (name? : α → Option String) {entries : List α}
    (hids : (entries.map Entry.id).Nodup) {links : List (Int64 × String)} (hasc : Ascending links)
    (hnew : ∀ l ∈ links, l.1 ∉ entries.map Entry.id) :
    let result := entries.foldl (fun links e =>
      match name? e with
      | some name => insertLink (Entry.id e) name links
      | none => links) links
    Ascending result ∧ ∀ l, l ∈ result ↔
      l ∈ links ∨ ∃ e ∈ entries, Entry.id e = l.1 ∧ name? e = some l.2 := by
  induction entries generalizing links with
  | nil => simpa using hasc
  | cons e es ih =>
    rw [List.map_cons] at hids hnew
    obtain ⟨he, hids⟩ := List.nodup_cons.1 hids
    rw [List.foldl_cons]
    cases hname : name? e with
    | none =>
      obtain ⟨hasc', hmem⟩ :=
        ih hids hasc fun l hl h => hnew l hl (List.mem_cons_of_mem _ h)
      refine ⟨hasc', fun l => (hmem l).trans ?_⟩
      simp [hname]
    | some name =>
      have hnew' : ∀ l ∈ insertLink (Entry.id e) name links, l.1 ∉ es.map Entry.id := by
        intro l hl
        obtain rfl | ⟨-, hl⟩ := (mem_insertLink hasc).1 hl
        · exact he
        · exact fun h => hnew l hl (List.mem_cons_of_mem _ h)
      obtain ⟨hasc', hmem⟩ := ih hids (ascending_insertLink hasc) hnew'
      refine ⟨hasc', fun l => (hmem l).trans ?_⟩
      have hother : l ∈ links → l.1 ≠ Entry.id e := fun hl h =>
        hnew l hl (h ▸ List.mem_cons_self)
      rw [mem_insertLink hasc]
      grind

/-! ## Parents of a listing -/

/-- Where ids are distinct, the name for an id is that of the group that has it. -/
theorem nameOf?_eq_some {entries : List α} (hids : (entries.map Entry.id).Nodup) {id : Int64}
    {name : String} :
    nameOf? entries id = some name ↔ ∃ d ∈ entries, Entry.id d = id ∧ Entry.name d = name := by
  rw [nameOf?, Option.map_eq_some_iff]
  constructor
  · rintro ⟨d, hd, hname⟩
    exact ⟨d, List.mem_reverse.1 (List.mem_of_find?_eq_some hd),
      by simpa using List.find?_some hd, hname⟩
  · rintro ⟨d, hd, hid, hname⟩
    cases hfind : entries.reverse.find? (fun e => Entry.id e == id) with
    | none => exact absurd hid (by simpa using List.find?_eq_none.1 hfind d (List.mem_reverse.2 hd))
    | some d' =>
      have hd' : d' ∈ entries := List.mem_reverse.1 (List.mem_of_find?_eq_some hfind)
      have hid' : Entry.id d' = id := by simpa using List.find?_some hfind
      have hsame : d' = d := List.inj_on_of_nodup_map hids hd' hd (hid'.trans hid.symm)
      exact ⟨d', rfl, hsame ▸ hname⟩

/-- Where ids are distinct, there is one pair for each group whose parent is listed: its id with
the name of that parent. -/
theorem mem_linkParents {entries : List α} (hids : (entries.map Entry.id).Nodup) :
    Ascending (linkParents entries) ∧ ∀ l, l ∈ linkParents entries ↔
      ∃ e ∈ entries, Entry.id e = l.1 ∧
        ∃ d ∈ entries, Entry.parentId e = some (Entry.id d) ∧ Entry.name d = l.2 := by
  obtain ⟨hasc, hmem⟩ := mem_foldl_insertLink
    (fun e => (Entry.parentId e).bind (nameOf? entries)) hids
    (List.Pairwise.nil : Ascending []) (by simp)
  refine ⟨hasc, fun l => (hmem l).trans ?_⟩
  simp only [List.not_mem_nil, false_or, Option.bind_eq_some_iff, nameOf?_eq_some hids]
  grind

end AccessConsole.Hierarchy
