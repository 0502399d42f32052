import AccessConsole.Gateway.Config
import AccessConsole.Proofs.Text.Blank
import AccessConsole.Proofs.Text.Search

/-!
# Lists of URL parts

A list of URL parts is written with commas. What it gives, and which URLs are for signing in if the
configuration has it, follows from the pieces between the commas.

* `IsPart` — the texts that a list can have as its parts.
* `Lists` — how pieces list parts: some with blanks around them, and blank pieces among them.
* `endpointList_eq_iff` — a text gives the parts that its pieces list, and no others.
* `isAuthEndpoint_endpointList` — a URL is for signing in if it holds what is left of a piece.
* `Config.authEndpoints_ofEnvironment` — the parts that the environment sets.
* `endpointList_reads_what_is_written` — texts are read as they are written, and only one of nothing
  but commas and blanks leaves no URL for signing in.
-/

namespace AccessConsole

open Text (Blank Trimmed Core)

/-- A text that can be a part: it is not empty, has no comma, and has no blank at its ends. -/
structure IsPart (part : String) : Prop where
  nonempty : part ≠ ""
  no_comma : ',' ∉ part.toList
  trimmed : Trimmed part.toList

/-- Pieces list parts: each part has a piece, which may have blanks around it, and there may be
blank pieces before, between and after them. -/
inductive Lists : List (List Char) → List String → Prop
  | nil : Lists [] []
  | blank {piece : List Char} {pieces : List (List Char)} {parts : List String} :
    Blank piece → Lists pieces parts → Lists (piece :: pieces) parts
  | part {left right : List Char} {part : String} {pieces : List (List Char)}
    {parts : List String} :
    Blank left → IsPart part → Blank right → Lists pieces parts →
    Lists ((left ++ part.toList ++ right) :: pieces) (part :: parts)

/-- The parts that are read from pieces. -/
def partsOf (pieces : List (List Char)) : List String :=
  ((pieces.map Text.trimChars).filter (!·.isEmpty)).map String.ofList

theorem endpointList_eq_partsOf (raw : String) :
    endpointList raw = partsOf (Text.splitAt ',' raw.toList) := rfl

/-! ## Pieces -/

section

variable {left right core piece : List Char} {part : String} {parts : List String}
  {pieces : List (List Char)}

theorem comma_not_mem_of_blank (h : Blank piece) : ',' ∉ piece := by
  intro hc
  exact absurd (h ',' hc) (by decide)

theorem IsPart.toList_ne_nil (h : IsPart part) : part.toList ≠ [] := by
  intro h0
  exact h.nonempty (String.toList_eq_nil_iff.1 h0)

theorem isPart_ofList (hne : core ≠ []) (hcore : Core piece core) (hpiece : ',' ∉ piece) :
    IsPart (String.ofList core) where
  nonempty := by
    intro h0
    exact hne (String.ofList_eq_empty_iff.1 h0)
  no_comma := by
    rw [String.toList_ofList]
    intro hc
    exact hpiece (hcore.within.mem hc)
  trimmed := by
    rw [String.toList_ofList]
    exact hcore.trimmed

theorem partsOf_cons_of_blank (h : Blank piece) : partsOf (piece :: pieces) = partsOf pieces := by
  have htrim : Text.trimChars piece = [] := (Core.of_blank h).trimChars_eq
  simp [partsOf, htrim]

theorem partsOf_cons (hne : core ≠ []) (h : Core piece core) :
    partsOf (piece :: pieces) = String.ofList core :: partsOf pieces := by
  simp [partsOf, h.trimChars_eq, hne]

theorem Lists.no_comma (h : Lists pieces parts) : ∀ piece ∈ pieces, ',' ∉ piece := by
  induction h with
  | nil => simp
  | blank hpiece _ ih =>
    rw [List.forall_mem_cons]
    exact ⟨comma_not_mem_of_blank hpiece, ih⟩
  | part hleft hpart hright _ ih =>
    rw [List.forall_mem_cons]
    refine ⟨?_, ih⟩
    rw [List.mem_append, List.mem_append]
    rintro ((hc | hc) | hc)
    · exact comma_not_mem_of_blank hleft hc
    · exact hpart.no_comma hc
    · exact comma_not_mem_of_blank hright hc

theorem Lists.isPart (h : Lists pieces parts) : ∀ part ∈ parts, IsPart part := by
  induction h with
  | nil => simp
  | blank _ _ ih => exact ih
  | part _ hpart _ _ ih =>
    rw [List.forall_mem_cons]
    exact ⟨hpart, ih⟩

/-- The parts that pieces list are read from them. -/
theorem Lists.partsOf_eq (h : Lists pieces parts) : partsOf pieces = parts := by
  induction h with
  | nil => rfl
  | blank hpiece _ ih => rw [partsOf_cons_of_blank hpiece, ih]
  | part hleft hpart hright _ ih =>
    rw [partsOf_cons hpart.toList_ne_nil (.intro hleft hpart.trimmed hright rfl), ih,
      String.ofList_toList]

/-- What is read from pieces is what they list. -/
theorem lists_partsOf (h : ∀ piece ∈ pieces, ',' ∉ piece) : Lists pieces (partsOf pieces) := by
  induction pieces with
  | nil => exact .nil
  | cons piece pieces ih =>
    obtain ⟨hpiece, hpieces⟩ := List.forall_mem_cons.1 h
    have hcore : Core piece (Text.trimChars piece) := Text.core_trimChars piece
    by_cases hne : Text.trimChars piece = []
    · have hblank : Blank piece := (hne ▸ hcore).blank
      rw [partsOf_cons_of_blank hblank]
      exact .blank hblank (ih hpieces)
    · rw [partsOf_cons hne hcore]
      have hpart := isPart_ofList hne hcore hpiece
      obtain ⟨hleft, -, hright, hsides⟩ := hcore
      have hlists := Lists.part hleft hpart hright (ih hpieces)
      rw [String.toList_ofList, ← hsides] at hlists
      exact hlists

/-- What is left of a piece is a part that is read, if there is something left. -/
theorem mem_partsOf :
    part ∈ partsOf pieces ↔ part ≠ "" ∧ ∃ piece ∈ pieces, Core piece part.toList := by
  simp only [partsOf, List.mem_map, List.mem_filter]
  constructor
  · rintro ⟨core, ⟨⟨piece, hpiece, hcore⟩, hne⟩, rfl⟩
    refine ⟨?_, piece, hpiece, ?_⟩
    · intro h0
      rw [String.ofList_eq_empty_iff.1 h0] at hne
      exact absurd hne (by decide)
    · rw [String.toList_ofList]
      exact Text.trimChars_eq_iff.1 hcore
  · rintro ⟨hne, piece, hpiece, hcore⟩
    refine ⟨part.toList, ⟨⟨piece, hpiece, hcore.trimChars_eq⟩, ?_⟩, String.ofList_toList⟩
    simp [hne]

/-- Pieces that list no part are blank. -/
theorem lists_nil_iff : Lists pieces [] ↔ ∀ piece ∈ pieces, Blank piece := by
  constructor
  · intro h
    generalize hparts : ([] : List String) = parts at h
    induction h with
    | nil => simp
    | blank hpiece _ ih =>
      rw [List.forall_mem_cons]
      exact ⟨hpiece, ih hparts⟩
    | part => exact absurd hparts (List.cons_ne_nil _ _).symm
  · intro h
    induction pieces with
    | nil => exact .nil
    | cons piece pieces ih =>
      obtain ⟨hpiece, hpieces⟩ := List.forall_mem_cons.1 h
      exact .blank hpiece (ih hpieces)

end

/-! ## Lists -/

section

variable {raw : String} {parts : List String}

/-- A list is read piece by piece. -/
theorem endpointList_join {pieces : List (List Char)} (h : ∀ piece ∈ pieces, ',' ∉ piece) :
    endpointList (String.ofList (Text.join [','] pieces)) = partsOf pieces := by
  rw [endpointList_eq_partsOf, String.toList_ofList, Text.splitAt_eq_splitOn,
    Text.join_eq_intercalate]
  cases pieces with
  | nil => decide
  | cons piece pieces => rw [List.splitOn_intercalate ',' h (List.cons_ne_nil _ _)]

theorem lists_endpointList (raw : String) :
    Lists (Text.splitAt ',' raw.toList) (endpointList raw) := by
  rw [endpointList_eq_partsOf]
  apply lists_partsOf
  intro piece hpiece
  exact Text.not_mem_of_mem_splitAt hpiece

/-- A text gives the parts that its pieces list, and no others. -/
theorem endpointList_eq_iff :
    endpointList raw = parts ↔
      ∃ pieces, raw = String.ofList (Text.join [','] pieces) ∧ Lists pieces parts := by
  constructor
  · rintro rfl
    refine ⟨Text.splitAt ',' raw.toList, ?_, lists_endpointList raw⟩
    rw [Text.join_splitAt, String.ofList_toList]
  · rintro ⟨pieces, rfl, hlists⟩
    rw [endpointList_join hlists.no_comma, hlists.partsOf_eq]

example : endpointList " /login/ , ,/token/refresh/ " = ["/login/", "/token/refresh/"] := by decide

/-- A text gives no part if and only if it has nothing but commas and blanks. -/
theorem endpointList_eq_nil_iff :
    endpointList raw = [] ↔ ∀ c ∈ raw.toList, c = ',' ∨ Text.isBlank c = true := by
  have hchars : ∀ c, c ≠ ',' →
      (c ∈ raw.toList ↔ ∃ piece ∈ Text.splitAt ',' raw.toList, c ∈ piece) := by
    intro c hc
    rw [← Text.mem_join hc, Text.join_splitAt]
  constructor
  · intro h
    have hlists := lists_endpointList raw
    rw [h, lists_nil_iff] at hlists
    intro c hc
    by_cases hcomma : c = ','
    · exact .inl hcomma
    · obtain ⟨piece, hpiece, hin⟩ := (hchars c hcomma).1 hc
      exact .inr (hlists piece hpiece c hin)
  · intro h
    have hblank : Lists (Text.splitAt ',' raw.toList) [] := by
      rw [lists_nil_iff]
      intro piece hpiece c hin
      have hcomma : c ≠ ',' := by
        rintro rfl
        exact Text.not_mem_of_mem_splitAt hpiece hin
      exact (h c ((hchars c hcomma).2 ⟨piece, hpiece, hin⟩)).resolve_left hcomma
    rw [endpointList_eq_partsOf, hblank.partsOf_eq]

end

/-! ## URLs -/

namespace Config

variable {c : Config} {raw url : String}

/-- A URL is for signing in if it holds one of the parts, none of them being empty. -/
theorem isAuthEndpoint_iff :
    c.isAuthEndpoint url = true ↔
      ∃ part ∈ c.authEndpoints, part ≠ "" ∧ part.toList <:+: url.toList := by
  simp only [isAuthEndpoint, List.any_eq_true, Bool.and_eq_true, decide_eq_true_eq,
    Text.contains_iff_infix]

/-- With a list that is read from a text, a URL is for signing in if it holds what is left of a
piece of the text. -/
theorem isAuthEndpoint_endpointList (h : c.authEndpoints = endpointList raw) :
    c.isAuthEndpoint url = true ↔
      ∃ piece ∈ raw.toList.splitOn ',', ∃ core, core ≠ [] ∧ Core piece core ∧
        core <:+: url.toList := by
  rw [isAuthEndpoint_iff, h, endpointList_eq_partsOf, Text.splitAt_eq_splitOn]
  simp only [mem_partsOf]
  constructor
  · rintro ⟨part, ⟨hne, piece, hpiece, hcore⟩, -, hin⟩
    exact ⟨piece, hpiece, part.toList, mt String.toList_eq_nil_iff.1 hne, hcore, hin⟩
  · rintro ⟨piece, hpiece, core, hne, hcore, hin⟩
    have hpart : String.ofList core ≠ "" := mt String.ofList_eq_empty_iff.1 hne
    refine ⟨String.ofList core, ⟨hpart, piece, hpiece, ?_⟩, hpart, ?_⟩
    · rw [String.toList_ofList]
      exact hcore
    · rw [String.toList_ofList]
      exact hin

/-- No URL is for signing in if and only if no part is set. -/
theorem isAuthEndpoint_eq_false_iff (h : c.authEndpoints = endpointList raw) :
    (∀ url, c.isAuthEndpoint url = false) ↔ endpointList raw = [] := by
  constructor
  · intro hnone
    rw [List.eq_nil_iff_forall_not_mem]
    intro part hpart
    -- A part is a URL that holds it.
    have hyes : c.isAuthEndpoint part = true := by
      rw [isAuthEndpoint_iff, h]
      exact ⟨part, hpart, ((lists_endpointList raw).isPart part hpart).nonempty, List.infix_rfl⟩
    rw [hnone part] at hyes
    exact Bool.false_ne_true hyes
  · intro hnil url
    unfold isAuthEndpoint
    rw [h, hnil]
    rfl

/-- The parts that the environment sets: a text of blanks sets none, and leaves the default. -/
theorem authEndpoints_ofEnvironment {env : Environment}
    (hraw : env.text? authEndpointsVariable = some raw) :
    (ofEnvironment env).authEndpoints =
      if Text.isBlankText raw then defaultAuthEndpoints else endpointList raw := by
  show ((settingText? env authEndpointsVariable).map endpointList).getD defaultAuthEndpoints = _
  rw [settingText?_of_text hraw]
  split_ifs
  · rfl
  · rfl

end Config

/-- A text gives parts that are not empty, have no comma and no blank at their ends. It gives those
that its pieces list, whatever blanks and blank pieces are put around them, in this order. With
these parts a URL is for signing in if and only if it holds what trimming leaves of a piece, if this
is something; and no URL is if and only if the text has nothing but commas and blanks. -/
theorem endpointList_reads_what_is_written (raw : String) (c : Config) :
    (∀ part ∈ endpointList raw, IsPart part) ∧
      (∀ parts, endpointList raw = parts ↔
        ∃ pieces, raw = String.ofList (Text.join [','] pieces) ∧ Lists pieces parts) ∧
      (∀ url, { c with authEndpoints := endpointList raw }.isAuthEndpoint url = true ↔
        ∃ piece ∈ raw.toList.splitOn ',', ∃ core, core ≠ [] ∧ Core piece core ∧
          core <:+: url.toList) ∧
      ((∀ url, { c with authEndpoints := endpointList raw }.isAuthEndpoint url = false) ↔
        ∀ ch ∈ raw.toList, ch = ',' ∨ Text.isBlank ch = true) := by
  refine ⟨(lists_endpointList raw).isPart, fun parts => endpointList_eq_iff, ?_, ?_⟩
  · intro url
    exact Config.isAuthEndpoint_endpointList rfl
  · rw [Config.isAuthEndpoint_eq_false_iff rfl, endpointList_eq_nil_iff]

/-- An environment whose list of parts has commas and blanks alone. -/
def commasEnvironment : Environment :=
  [(Config.authEndpointsVariable, Bytes.ofText " ,\u3000, ")]

/-- The variable is set, so the default parts do not count, and no URL is for signing in. -/
theorem commas_allow_no_url :
    (∀ ch ∈ " ,\u3000, ".toList, ch = ',' ∨ Text.isBlank ch = true) ∧
      ∀ url, (Config.ofEnvironment commasEnvironment).isAuthEndpoint url = false := by
  have hchars : ∀ ch ∈ " ,\u3000, ".toList, ch = ',' ∨ Text.isBlank ch = true := by
    simp [Text.isBlank, Text.blankRanges]
  have htext : commasEnvironment.text? Config.authEndpointsVariable = some " ,\u3000, " := by
    decide +kernel
  have hset : (Config.ofEnvironment commasEnvironment).authEndpoints =
      endpointList " ,\u3000, " := by
    rw [Config.authEndpoints_ofEnvironment htext, if_neg (by decide)]
  have hnone := (endpointList_reads_what_is_written " ,\u3000, "
    (Config.ofEnvironment commasEnvironment)).2.2.2.2 hchars
  rw [← hset] at hnone
  exact ⟨hchars, hnone⟩

end AccessConsole
