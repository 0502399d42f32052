import AccessConsole.Text.Search

/-!
# Texts in pieces

* `occursIn_iff_infix` — a run stands somewhere in another one.
* `splitAt_eq_splitOn`, `join_eq_intercalate` — splitting and joining are those of lists.
* `splitAt_append_cons`, `join_splitAt` — the pieces of two texts with a separator between them, and
  the text that pieces make.
* `not_mem_of_mem_splitAt`, `mem_join` — what stands in a piece, and what stands in a text.
* `infix_of_not_piece` — where a run that ends with a whole piece can stand.
-/

namespace AccessConsole.Text

theorem occursIn_iff_infix {needle hay : List Char} :
    occursIn needle hay = true ↔ needle <:+: hay := by
  induction hay with
  | nil => simp [occursIn]
  | cons c cs ih => simp [occursIn, ih, List.infix_cons_iff]

theorem contains_iff_infix {whole part : String} :
    contains whole part = true ↔ part.toList <:+: whole.toList := occursIn_iff_infix

section

variable {α : Type} [DecidableEq α]

theorem splitAt_eq_splitOn (separator : α) (cs : List α) :
    splitAt separator cs = cs.splitOn separator := by
  induction cs with
  | nil => rfl
  | cons c cs ih =>
    rw [splitAt, ih, List.splitOn_cons_eq_if_modifyHead]
    cases hpieces : cs.splitOn separator with
    | nil => exact absurd hpieces (List.splitOn_ne_nil _ _)
    | cons piece pieces => simp [List.modifyHead]

omit [DecidableEq α] in
theorem join_eq_intercalate (separator : List α) (pieces : List (List α)) :
    join separator pieces = separator.intercalate pieces := by
  fun_induction join separator pieces with
  | case1 => simp
  | case2 piece => simp
  | case3 piece next pieces ih => rw [ih, List.intercalate_cons_cons]

theorem splitAt_ne_nil (separator : α) (cs : List α) : splitAt separator cs ≠ [] := by
  rw [splitAt_eq_splitOn]
  exact List.splitOn_ne_nil _ _

theorem splitAt_append_cons (separator : α) (before after : List α) :
    splitAt separator (before ++ separator :: after) =
      splitAt separator before ++ splitAt separator after := by
  simp only [splitAt_eq_splitOn, List.splitOn_append_cons_self]

theorem splitAt_of_not_mem {separator : α} {piece : List α} (h : separator ∉ piece) :
    splitAt separator piece = [piece] := by
  rw [splitAt_eq_splitOn, List.splitOn_eq_singleton h]

/-- No piece holds the separator. -/
theorem not_mem_of_mem_splitAt {separator : α} {cs piece : List α}
    (h : piece ∈ splitAt separator cs) : separator ∉ piece := by
  induction cs generalizing piece with
  | nil =>
    rw [splitAt, List.mem_singleton] at h
    rw [h]
    exact List.not_mem_nil
  | cons c cs ih =>
    unfold splitAt at h
    cases hpieces : splitAt separator cs with
    | nil => exact absurd hpieces (splitAt_ne_nil _ _)
    | cons first pieces =>
      rw [hpieces] at ih
      simp only [hpieces] at h
      by_cases hc : c = separator
      · rw [if_pos hc, List.mem_cons] at h
        obtain rfl | hin := h
        · exact List.not_mem_nil
        · exact ih hin
      · rw [if_neg hc, List.mem_cons] at h
        obtain rfl | hin := h
        · rw [List.mem_cons, not_or]
          exact ⟨Ne.symm hc, ih List.mem_cons_self⟩
        · exact ih (List.mem_cons_of_mem _ hin)

omit [DecidableEq α] in
/-- What is not the separator stands in one of the pieces. -/
theorem mem_join {separator c : α} {pieces : List (List α)} (h : c ≠ separator) :
    c ∈ join [separator] pieces ↔ ∃ piece ∈ pieces, c ∈ piece := by
  fun_induction join [separator] pieces with
  | case1 => simp
  | case2 piece => simp
  | case3 piece next pieces ih => simp [ih, h]

theorem join_splitAt (separator : α) (cs : List α) :
    join [separator] (splitAt separator cs) = cs := by
  rw [splitAt_eq_splitOn, join_eq_intercalate, List.intercalate_splitOn]

omit [DecidableEq α] in
theorem join_append (separator : List α) {before after : List (List α)} (hbefore : before ≠ [])
    (hafter : after ≠ []) :
    join separator (before ++ after) =
      join separator before ++ separator ++ join separator after := by
  simp only [join_eq_intercalate]
  induction before with
  | nil => exact absurd rfl hbefore
  | cons piece pieces ih =>
    cases pieces with
    | nil => simp [List.intercalate_cons_of_ne_nil hafter]
    | cons next pieces =>
      rw [List.cons_append, List.cons_append, List.intercalate_cons_cons,
        List.intercalate_cons_cons, ← List.cons_append, ih (List.cons_ne_nil _ _)]
      simp only [List.append_assoc]

/-- A run that ends with a whole piece stands in a text. If this piece is none of those after some
separator, the run stands in the text up to that separator. -/
theorem infix_of_not_piece {separator : α} {front piece before after : List α}
    (hpiece : separator ∉ piece) (hafter : piece ∉ splitAt separator after)
    (h : front ++ separator :: (piece ++ [separator]) <:+: before ++ separator :: after) :
    front ++ separator :: (piece ++ [separator]) <:+: before ++ [separator] := by
  obtain ⟨left, right, hwhole⟩ := h
  have hpieces : splitAt separator (left ++ front) ++ piece :: splitAt separator right =
      splitAt separator before ++ splitAt separator after := by
    have hsplit := congrArg (splitAt separator) hwhole
    rw [splitAt_append_cons] at hsplit
    rw [← hsplit, ← List.singleton_append, ← splitAt_of_not_mem hpiece, ← splitAt_append_cons,
      ← splitAt_append_cons]
    simp only [List.append_assoc, List.cons_append, List.nil_append]
  -- The piece is one of those before the separator.
  obtain ⟨rest, hbefore⟩ : ∃ rest,
      splitAt separator before = splitAt separator (left ++ front) ++ piece :: rest := by
    obtain ⟨middle, hbefore, hmiddle⟩ | ⟨middle, -, hmiddle⟩ := List.append_eq_append_iff.1 hpieces
    · cases middle with
      | nil =>
        rw [List.nil_append] at hmiddle
        exact absurd (hmiddle ▸ List.mem_cons_self) hafter
      | cons first rest =>
        obtain ⟨rfl, -⟩ := List.cons_eq_cons.1 hmiddle
        exact ⟨rest, hbefore⟩
    · exact absurd (hmiddle ▸ List.mem_append_right _ List.mem_cons_self) hafter
  -- So the text up to the separator is the run with something on both sides.
  refine ⟨left, join [separator] (rest ++ [[]]), ?_⟩
  have hjoin : before ++ [separator] =
      join [separator] (splitAt separator (left ++ front) ++ piece :: (rest ++ [[]])) := by
    have hlast : join [separator] (splitAt separator before ++ [[]]) = before ++ [separator] := by
      rw [join_append _ (splitAt_ne_nil _ _) (by simp), join_splitAt]
      exact List.append_nil _
    rw [← hlast, hbefore, List.append_assoc, List.cons_append]
  have hend : join [separator] (piece :: (rest ++ [[]])) =
      piece ++ [separator] ++ join [separator] (rest ++ [[]]) :=
    join_append _ (List.cons_ne_nil piece []) (by simp)
  rw [hjoin, join_append _ (splitAt_ne_nil _ _) (by simp), join_splitAt, hend]
  simp only [List.append_assoc, List.cons_append, List.nil_append]

end

end AccessConsole.Text
