import AccessConsole.Proofs.Json.Document

/-!
# Nesting

* `nesting` — how many arrays and objects stand inside one another in a document.
* `mostOpen` — how many of them are open at once in a row of tokens, and `opened` in a text.
* `mostOpen_tokens` — the tokens of a document open as many as its nesting tells.
* `opened_compact`, `opened_pretty` — so do both of its texts.
-/

namespace AccessConsole.Json

mutual

/-- The number of arrays and objects that stand inside one another where they are deepest. -/
def nesting : Json → Nat
  | .array items => itemNesting items + 1
  | .object members => memberNesting members + 1
  | _ => 0

/-- The deepest nesting of items. -/
def itemNesting : List Json → Nat
  | [] => 0
  | j :: rest => max j.nesting (itemNesting rest)

/-- The deepest nesting of members. -/
def memberNesting : List (Option String × Json) → Nat
  | [] => 0
  | (_, j) :: rest => max j.nesting (memberNesting rest)

end

theorem memberNesting_append (ms ns : List (Option String × Json)) :
    memberNesting (ms ++ ns) = max (memberNesting ms) (memberNesting ns) := by
  induction ms with
  | nil => simp [memberNesting]
  | cons m ms ih => simp only [List.cons_append, memberNesting, ih, Nat.max_assoc]

/-! ## Tokens -/

/-- The most arrays and objects that are open at once in a row of tokens, where some are open
already. -/
def mostOpen (already : Nat) : List Token → Nat
  | [] => already
  | t :: ts =>
    match t with
    | .openArray => mostOpen (already + 1) ts
    | .openObject => mostOpen (already + 1) ts
    | .closeArray => max already (mostOpen (already - 1) ts)
    | .closeObject => max already (mostOpen (already - 1) ts)
    | _ => mostOpen already ts

theorem le_mostOpen (already : Nat) (ts : List Token) : already ≤ mostOpen already ts := by
  induction ts generalizing already with
  | nil => exact Nat.le_refl _
  | cons t ts ih =>
    cases t with
    | openArray => exact Nat.le_of_succ_le (ih (already + 1))
    | openObject => exact Nat.le_of_succ_le (ih (already + 1))
    | closeArray => exact Nat.le_max_left _ _
    | closeObject => exact Nat.le_max_left _ _
    | _ => exact ih already

theorem mostOpen_comma (already : Nat) (ts : List Token) :
    mostOpen already (.comma :: ts) = mostOpen already ts := rfl

/-- The tokens of a value open as many arrays and objects as its nesting tells, and close them. -/
def OpensNesting (j : Json) : Prop :=
  ∀ (already : Nat) (rest : List Token),
    mostOpen already (j.tokens ++ rest) = max (already + j.nesting) (mostOpen already rest)

theorem mostOpen_itemTokens {items : List Json} (h : ∀ j ∈ items, j.OpensNesting) (already : Nat)
    (rest : List Token) :
    mostOpen already (itemTokens items ++ rest) =
      max (already + itemNesting items) (mostOpen already rest) := by
  have hle := le_mostOpen already rest
  induction items with
  | nil =>
    simp only [itemTokens, itemNesting, List.nil_append]
    omega
  | cons j js ih =>
    have hj : j.OpensNesting := h j List.mem_cons_self
    cases js with
    | nil =>
      rw [itemTokens, hj]
      simp only [itemNesting]
      omega
    | cons k ks =>
      have hnext := ih fun i hi => h i (List.mem_cons_of_mem _ hi)
      rw [itemTokens, List.append_assoc, hj, List.cons_append, mostOpen_comma, hnext]
      simp only [itemNesting]
      omega

theorem mostOpen_memberTokens {members : List (Option String × Json)}
    (h : ∀ m ∈ members, m.2.OpensNesting) (already : Nat) (rest : List Token) :
    mostOpen already (memberTokens members ++ rest) =
      max (already + memberNesting members) (mostOpen already rest) := by
  have hle := le_mostOpen already rest
  induction members with
  | nil =>
    simp only [memberTokens, memberNesting, List.nil_append]
    omega
  | cons m ms ih =>
    obtain ⟨name, j⟩ := m
    have hj : j.OpensNesting := h (name, j) List.mem_cons_self
    cases ms with
    | nil =>
      simp only [memberTokens, List.cons_append, mostOpen, memberNesting]
      rw [hj]
      omega
    | cons k ks =>
      have hnext := ih fun i hi => h i (List.mem_cons_of_mem _ hi)
      simp only [memberTokens, List.append_assoc, List.cons_append, mostOpen]
      rw [hj, mostOpen_comma, hnext]
      simp only [memberNesting]
      omega

theorem opensNesting (j : Json) : j.OpensNesting := by
  induction j using induction_parts with
  | array items ih =>
    intro already rest
    have hle := le_mostOpen already rest
    simp only [tokens, List.cons_append, List.append_assoc, List.nil_append, mostOpen, nesting,
      mostOpen_itemTokens ih, Nat.add_sub_cancel]
    omega
  | object members ih =>
    intro already rest
    have hle := le_mostOpen already rest
    simp only [tokens, List.cons_append, List.append_assoc, List.nil_append, mostOpen, nesting,
      mostOpen_memberTokens ih, Nat.add_sub_cancel]
    omega
  | _ =>
    intro already rest
    exact (Nat.max_eq_right (le_mostOpen already rest)).symm

theorem mostOpen_tokens (j : Json) : mostOpen 0 j.tokens = j.nesting := by
  have h := j.opensNesting 0 []
  rw [List.append_nil] at h
  rw [h]
  simp [mostOpen]

/-! ## Texts -/

/-- The most arrays and objects that are open at once in a text. -/
def opened (text : String) : Nat := ((Token.scan text.toList).map (mostOpen 0)).getD 0

theorem opened_of_writtenAs {j : Json} {cs : List Char} (h : j.WrittenAs cs) :
    opened (String.ofList cs) = j.nesting := by
  rw [opened, String.toList_ofList, h.scan, Option.map_some, Option.getD_some, mostOpen_tokens]

theorem opened_compact (j : Json) : opened j.compact = j.nesting :=
  opened_of_writtenAs j.writtenAs_compact

theorem opened_pretty (j : Json) : opened j.pretty = j.nesting :=
  opened_of_writtenAs (j.writtenAs_pretty 0)

end AccessConsole.Json
