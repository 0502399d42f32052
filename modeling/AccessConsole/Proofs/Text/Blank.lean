import AccessConsole.Text.Blank
import Mathlib.Data.List.DropRight
import Mathlib.Data.List.TakeWhile

/-!
# Texts between blanks

* `Blank`, `Trimmed` — runs of blank characters, and runs without one at either end.
* `Core` — what is left of a run without the blanks around it.
* `trimChars_eq_iff` — trimming gives the core, and there is only one.
-/

namespace AccessConsole.Text

/-- A run of blank characters only, the empty one included. -/
def Blank (cs : List Char) : Prop := ∀ c ∈ cs, isBlank c = true

/-- A run that neither begins nor ends with a blank character. -/
structure Trimmed (cs : List Char) : Prop where
  first : ∀ c ∈ cs.head?, isBlank c = false
  last : ∀ c ∈ cs.getLast?, isBlank c = false

/-- The run `core` is `cs` without the blanks around it. -/
inductive Core (cs core : List Char) : Prop
  | intro {left right : List Char} : Blank left → Trimmed core → Blank right →
    cs = left ++ core ++ right → Core cs core

/-! ## One end -/

section

variable {p : Char → Bool} {cs right : List Char}

theorem dropTrailing_eq_rdropWhile (p : Char → Bool) (cs : List Char) :
    dropTrailing p cs = cs.rdropWhile p := rfl

/-- Trailing characters of the class do not count. -/
theorem dropTrailing_append (h : ∀ c ∈ right, p c = true) :
    dropTrailing p (cs ++ right) = dropTrailing p cs := by
  unfold dropTrailing
  rw [List.reverse_append, List.dropWhile_append_of_pos]
  intro c hc
  exact h c (List.mem_reverse.1 hc)

/-- Where the last character is not in the class, nothing is dropped. -/
theorem dropTrailing_eq_self (h : ∀ c ∈ cs.getLast?, p c = false) : dropTrailing p cs = cs := by
  rw [dropTrailing_eq_rdropWhile, List.rdropWhile_eq_self_iff]
  intro hne
  rw [h _ (List.getLast_mem_getLast? hne)]
  exact Bool.false_ne_true

/-- The last character that is kept is not in the class. -/
theorem last_dropTrailing : ∀ c ∈ (dropTrailing p cs).getLast?, p c = false := by
  intro c hc
  obtain ⟨hne, rfl⟩ := List.mem_getLast?_eq_getLast hc
  exact Bool.eq_false_iff.2 (List.rdropWhile_last_not p cs hne)

/-- The first character that is kept is that of the run. -/
theorem head?_dropTrailing : ∀ c ∈ (dropTrailing p cs).head?, c ∈ cs.head? := by
  intro c hc
  obtain ⟨rest, hrest⟩ := List.rdropWhile_prefix p cs
  rw [← hrest]
  exact List.mem_head?_append_of_mem_head? hc

end

/-! ## Both ends -/

variable {cs core left right : List Char}

theorem blank_nil : Blank [] := by
  intro c hc
  exact absurd hc List.not_mem_nil

theorem trimmed_nil : Trimmed [] := ⟨by simp, by simp⟩

/-- A blank run has nothing left. -/
theorem Core.of_blank (h : Blank cs) : Core cs [] :=
  .intro h trimmed_nil blank_nil (by simp)

/-- What trimming leaves is a core. -/
theorem core_trimChars (cs : List Char) : Core cs (trimChars cs) := by
  have hfront : cs.takeWhile isBlank ++ cs.dropWhile isBlank = cs := List.takeWhile_append_dropWhile
  have hback : trimChars cs ++ (cs.dropWhile isBlank).rtakeWhile isBlank = cs.dropWhile isBlank :=
    List.rdropWhile_append_rtakeWhile
  have hcs : cs = cs.takeWhile isBlank ++ trimChars cs ++
      (cs.dropWhile isBlank).rtakeWhile isBlank := by
    rw [List.append_assoc, hback, hfront]
  refine .intro ?_ ⟨?_, last_dropTrailing⟩ ?_ hcs
  · intro c hc
    exact List.mem_takeWhile_imp hc
  · intro c hc
    have hhead := head?_dropTrailing c hc
    have hstop := List.head?_dropWhile_not isBlank cs
    rw [Option.mem_def.1 hhead] at hstop
    exact hstop
  · intro c hc
    exact List.mem_rtakeWhile_imp hc

/-- Every core is what trimming leaves. -/
theorem Core.trimChars_eq (h : Core cs core) : trimChars cs = core := by
  obtain ⟨hleft, hcore, hright, rfl⟩ := h
  unfold trimChars
  rw [List.append_assoc, List.dropWhile_append_of_pos hleft]
  cases core with
  | nil =>
    rw [List.nil_append, List.dropWhile_eq_nil_iff.2 hright]
    rfl
  | cons c rest =>
    have hc : isBlank c = false := hcore.first c rfl
    rw [List.cons_append, List.dropWhile_cons_of_neg (by simp [hc]), ← List.cons_append,
      dropTrailing_append hright, dropTrailing_eq_self hcore.last]

/-- Trimming leaves the run between the blanks, and a run has one such only. -/
theorem trimChars_eq_iff : trimChars cs = core ↔ Core cs core := by
  constructor
  · rintro rfl
    exact core_trimChars cs
  · exact Core.trimChars_eq

theorem Core.trimmed (h : Core cs core) : Trimmed core := by
  obtain ⟨-, hcore, -, -⟩ := h
  exact hcore

/-- What is left without blanks is part of the run. -/
theorem Core.within (h : Core cs core) : core <:+: cs := by
  obtain ⟨-, -, -, hcs⟩ := h
  exact ⟨_, _, hcs.symm⟩

/-- A run with nothing left is blank. -/
theorem Core.blank (h : Core cs []) : Blank cs := by
  obtain ⟨hleft, -, hright, rfl⟩ := h
  intro c hc
  rw [List.append_nil, List.mem_append] at hc
  exact hc.elim (hleft c) (hright c)

end AccessConsole.Text
