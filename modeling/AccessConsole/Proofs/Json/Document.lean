import AccessConsole.Json.Printer
import AccessConsole.Json.Reader
import AccessConsole.Proofs.Json.Token

/-!
# Documents read back

* `induction_parts` — what holds of a document whenever it holds of its parts holds of all.
* `ofTokens?_tokens` — the tokens of a document spell that document.
* `spells_compact`, `spells_pretty` — both written forms of a document spell its tokens.
* `read?_compact`, `read?_pretty` — so a document is read as it was written.
* `read?_of_blank` — a blank text is no document.
-/

namespace AccessConsole.Json

/-- What holds of a document whenever it holds of its parts holds of all documents. -/
@[elab_as_elim]
theorem induction_parts {motive : Json → Prop} (null : motive .null)
    (bool : ∀ b, motive (.bool b)) (number : ∀ n, motive (.number n))
    (string : ∀ s, motive (.string s))
    (array : ∀ items, (∀ j ∈ items, motive j) → motive (.array items))
    (object : ∀ members, (∀ m ∈ members, motive m.2) → motive (.object members)) :
    ∀ j, motive j
  | .null => null
  | .bool b => bool b
  | .number n => number n
  | .string s => string s
  | .array items => array items fun j _ =>
    induction_parts null bool number string array object j
  | .object members => object members fun m _ =>
    induction_parts null bool number string array object m.2
termination_by j => sizeOf j
decreasing_by
  · have := List.sizeOf_lt_of_mem (by assumption : j ∈ items)
    simp only [Json.array.sizeOf_spec]
    omega
  · have hm := List.sizeOf_lt_of_mem (by assumption : m ∈ members)
    have hsnd : sizeOf m.2 < sizeOf m := by
      cases m
      simp only [Prod.mk.sizeOf_spec]
      omega
    simp only [Json.object.sizeOf_spec]
    omega

/-! ## Tokens -/

/-- The tokens of a value complete it, whatever waits for it and whatever follows. -/
def Completes (j : Json) : Prop :=
  ∀ (frames : List Frame) (rest : List Token),
    (j.tokens ++ rest).foldlM Cursor.step ⟨frames, .value⟩ =
      rest.foldlM Cursor.step (Cursor.close frames j)

theorem foldlM_itemTokens {items : List Json} (hne : items ≠ []) (h : ∀ j ∈ items, j.Completes)
    (frames : List Frame) (done : List Json) (rest : List Token) :
    (itemTokens items ++ rest).foldlM Cursor.step ⟨.array done :: frames, .value⟩ =
      rest.foldlM Cursor.step ⟨frames, .nextItem (items.reverse ++ done)⟩ := by
  induction items generalizing done with
  | nil => exact absurd rfl hne
  | cons j js ih =>
    have hj := h j List.mem_cons_self
    cases js with
    | nil => exact hj _ rest
    | cons k ks =>
      simp only [itemTokens, List.append_assoc, List.cons_append]
      rw [hj]
      refine (ih (by simp) (fun i hi => h i (List.mem_cons_of_mem _ hi)) (j :: done)).trans ?_
      simp only [List.reverse_cons, List.append_assoc, List.cons_append, List.nil_append]

theorem foldlM_memberTokens {members : List (Option String × Json)} (hne : members ≠ [])
    (h : ∀ m ∈ members, m.2.Completes) (frames : List Frame)
    (done : List (Option String × Json)) (rest : List Token) :
    (memberTokens members ++ rest).foldlM Cursor.step ⟨frames, .name done⟩ =
      rest.foldlM Cursor.step ⟨frames, .nextMember (members.reverse ++ done)⟩ := by
  induction members generalizing done with
  | nil => exact absurd rfl hne
  | cons m ms ih =>
    obtain ⟨name, j⟩ := m
    have hj : j.Completes := h (name, j) List.mem_cons_self
    cases ms with
    | nil => exact hj (.object done name :: frames) rest
    | cons k ks =>
      simp only [memberTokens, List.append_assoc, List.cons_append]
      refine (hj (.object done name :: frames) _).trans ?_
      refine (ih (by simp) (fun i hi => h i (List.mem_cons_of_mem _ hi))
        ((name, j) :: done)).trans ?_
      simp only [List.reverse_cons, List.append_assoc, List.cons_append, List.nil_append]

/-- A value begins with a token that does not close an array. -/
theorem tokens_head (j : Json) : ∃ t ts, j.tokens = t :: ts ∧ t ≠ .closeArray := by
  cases j <;> exact ⟨_, _, rfl, by simp⟩

/-- The first item of an array is read like any other value. -/
theorem foldlM_firstItem (j : Json) (js : List Json) (frames : List Frame) (rest : List Token) :
    (itemTokens (j :: js) ++ rest).foldlM Cursor.step ⟨frames, .itemOrEnd⟩ =
      (itemTokens (j :: js) ++ rest).foldlM Cursor.step ⟨.array [] :: frames, .value⟩ := by
  obtain ⟨t, ts, htokens, hne⟩ := tokens_head j
  have hstep : Cursor.step ⟨frames, .itemOrEnd⟩ t = Cursor.step ⟨.array [] :: frames, .value⟩ t :=
    if_neg hne
  cases js with
  | nil => simp only [itemTokens, htokens, List.cons_append, List.foldlM_cons, hstep]
  | cons k ks => simp only [itemTokens, htokens, List.cons_append, List.foldlM_cons, hstep]

theorem completes (j : Json) : j.Completes := by
  induction j using induction_parts with
  | null => exact fun _ _ => rfl
  | bool b => exact fun _ _ => rfl
  | number n => exact fun _ _ => rfl
  | string s => exact fun _ _ => rfl
  | array items ih =>
    intro frames rest
    cases items with
    | nil => rfl
    | cons j js =>
      simp only [tokens, List.cons_append, List.append_assoc, List.nil_append]
      show (itemTokens (j :: js) ++ (.closeArray :: rest)).foldlM Cursor.step _ = _
      rw [foldlM_firstItem, foldlM_itemTokens (by simp) ih]
      show rest.foldlM Cursor.step
        (Cursor.close frames (.array ((j :: js).reverse ++ []).reverse)) = _
      rw [List.append_nil, List.reverse_reverse]
  | object members ih =>
    intro frames rest
    cases members with
    | nil => rfl
    | cons m ms =>
      simp only [tokens, List.cons_append, List.append_assoc, List.nil_append]
      -- The first name is read like any other.
      have hfirst : (memberTokens (m :: ms) ++ (.closeObject :: rest)).foldlM Cursor.step
          ⟨frames, .nameOrEnd⟩ =
          (memberTokens (m :: ms) ++ (.closeObject :: rest)).foldlM Cursor.step
            ⟨frames, .name []⟩ := by
        cases ms <;> rfl
      show (memberTokens (m :: ms) ++ (.closeObject :: rest)).foldlM Cursor.step
        ⟨frames, .nameOrEnd⟩ = _
      rw [hfirst, foldlM_memberTokens (by simp) ih]
      show rest.foldlM Cursor.step
        (Cursor.close frames (.object ((m :: ms).reverse ++ []).reverse)) = _
      rw [List.append_nil, List.reverse_reverse]

/-- The tokens of a document spell that document. -/
theorem ofTokens?_tokens (j : Json) : ofTokens? j.tokens = some j := by
  have h := j.completes [] []
  rw [List.append_nil] at h
  unfold ofTokens? Cursor.start
  rw [h]
  rfl

/-! ## Texts -/

/-- A token that closes, or stands between, is no part of a numeral or a literal. -/
theorem stops_of_closed {t : Token} (h : t.closed = true) (rest : List Char) :
    Stops (t.chars ++ rest) := by
  cases t with
  | null => cases h
  | bool b => cases h
  | number n => cases h
  | string s => cases s <;> exact fun c hc => by cases hc; exact ⟨rfl, rfl⟩
  | _ => exact fun c hc => by cases hc; exact ⟨rfl, rfl⟩

theorem stops_newline (depth : Nat) (rest : List Char) : Stops (newline depth ++ rest) := by
  intro c hc
  cases hc
  exact ⟨rfl, rfl⟩

theorem Spells.newline {cs : List Char} {ts : List Token} (depth : Nat) (h : Spells cs ts) :
    Spells (newline depth ++ cs) ts := by
  refine h.spaces ?_
  intro c hc
  obtain rfl | hc := List.mem_cons.1 hc
  · rfl
  · rw [List.eq_of_mem_replicate hc]
    rfl

/-- A token whose end shows can be put in front of anything. -/
theorem Spells.closed {cs : List Char} {ts : List Token} {t : Token} (ht : t.closed = true)
    (h : Spells cs ts) : Spells (t.chars ++ cs) (t :: ts) :=
  .token (.inl ht) h

/-- The characters are a written form of the value, wherever it stands. -/
def WrittenAs (j : Json) (cs : List Char) : Prop :=
  ∀ (rest : List Char) (ts : List Token), Stops rest → Spells rest ts →
    Spells (cs ++ rest) (j.tokens ++ ts)

/-- A value of one token is written as that token. -/
theorem writtenAs_token {j : Json} {t : Token} (h : j.tokens = [t]) : j.WrittenAs t.chars := by
  intro rest ts hstop hrest
  rw [h]
  exact .token (.inr hstop) hrest

theorem spells_prettyItems {items : List Json} {depth : Nat}
    (h : ∀ j ∈ items, j.WrittenAs (prettyChars depth j)) {rest : List Char} {ts : List Token}
    (hstop : Stops rest) (hrest : Spells rest ts) :
    Spells (prettyItems depth items ++ rest) (itemTokens items ++ ts) := by
  induction items with
  | nil => exact hrest
  | cons j js ih =>
    have hj := h j List.mem_cons_self
    cases js with
    | nil =>
      simp only [prettyItems, itemTokens, List.append_assoc]
      exact (hj rest ts hstop hrest).newline depth
    | cons k ks =>
      simp only [prettyItems, itemTokens, List.append_assoc, List.cons_append]
      have hnext := ih fun i hi => h i (List.mem_cons_of_mem _ hi)
      exact (hj _ _ (stops_of_closed (t := .comma) rfl _)
        (hnext.closed (t := .comma) rfl)).newline depth

theorem spells_prettyMembers {members : List (Option String × Json)} {depth : Nat}
    (h : ∀ m ∈ members, m.2.WrittenAs (prettyChars depth m.2)) {rest : List Char}
    {ts : List Token} (hstop : Stops rest) (hrest : Spells rest ts) :
    Spells (prettyMembers depth members ++ rest) (memberTokens members ++ ts) := by
  -- A member is its name, a colon, a space and its value.
  have hmember : ∀ {name : Option String} {j : Json} {cs : List Char} {us : List Token},
      Spells cs us → Spells (newline depth ++ (stringChars name ++ ':' :: ' ' :: cs))
        (.string name :: .colon :: us) := by
    intro name j cs us hs
    have hcolon : Spells ([':'] ++ (' ' :: cs)) (.colon :: us) :=
      (Spells.space rfl hs).closed (t := .colon) rfl
    exact (hcolon.closed (t := .string name) rfl).newline depth
  induction members with
  | nil => exact hrest
  | cons m ms ih =>
    obtain ⟨name, j⟩ := m
    have hj : j.WrittenAs (prettyChars depth j) := h (name, j) List.mem_cons_self
    cases ms with
    | nil =>
      simp only [prettyMembers, memberTokens, List.append_assoc, List.cons_append]
      exact hmember (j := j) (hj rest ts hstop hrest)
    | cons k ks =>
      simp only [prettyMembers, memberTokens, List.append_assoc, List.cons_append]
      have hnext := ih fun i hi => h i (List.mem_cons_of_mem _ hi)
      exact hmember (j := j) (hj _ _ (stops_of_closed (t := .comma) rfl _)
        (hnext.closed (t := .comma) rfl))

/-- The indented text of a value is a written form of it. -/
theorem writtenAs_pretty (j : Json) (depth : Nat) : j.WrittenAs (prettyChars depth j) := by
  induction j using induction_parts generalizing depth with
  | null => exact writtenAs_token (t := .null) rfl
  | bool b => exact writtenAs_token (t := .bool b) rfl
  | number n => exact writtenAs_token (t := .number n) rfl
  | string s => exact writtenAs_token (t := .string s) rfl
  | array items ih =>
    intro rest ts hstop hrest
    have hclose := hrest.closed (t := .closeArray) rfl
    cases items with
    | nil => exact hclose.closed (t := .openArray) rfl
    | cons j js =>
      simp only [prettyChars, tokens, List.cons_append, List.append_assoc, List.nil_append]
      have hitems := spells_prettyItems (fun i hi => ih i hi (depth + 1))
        (stops_newline depth _) (hclose.newline depth)
      exact hitems.closed (t := .openArray) rfl
  | object members ih =>
    intro rest ts hstop hrest
    have hclose := hrest.closed (t := .closeObject) rfl
    cases members with
    | nil => exact hclose.closed (t := .openObject) rfl
    | cons m ms =>
      simp only [prettyChars, tokens, List.cons_append, List.append_assoc, List.nil_append]
      have hmembers := spells_prettyMembers (fun i hi => ih i hi (depth + 1))
        (stops_newline depth _) (hclose.newline depth)
      exact hmembers.closed (t := .openObject) rfl

theorem spells_compactItems {items : List Json}
    (h : ∀ j ∈ items, j.WrittenAs (compactChars j)) {rest : List Char} {ts : List Token}
    (hstop : Stops rest) (hrest : Spells rest ts) :
    Spells ((itemTokens items).flatMap Token.chars ++ rest) (itemTokens items ++ ts) := by
  induction items with
  | nil => exact hrest
  | cons j js ih =>
    have hj := h j List.mem_cons_self
    cases js with
    | nil => exact hj rest ts hstop hrest
    | cons k ks =>
      simp only [itemTokens, List.flatMap_append, List.flatMap_cons, List.append_assoc,
        List.cons_append]
      have hnext := ih fun i hi => h i (List.mem_cons_of_mem _ hi)
      exact hj _ _ (stops_of_closed (t := .comma) rfl _) (hnext.closed (t := .comma) rfl)

theorem spells_compactMembers {members : List (Option String × Json)}
    (h : ∀ m ∈ members, m.2.WrittenAs (compactChars m.2)) {rest : List Char}
    {ts : List Token} (hstop : Stops rest) (hrest : Spells rest ts) :
    Spells ((memberTokens members).flatMap Token.chars ++ rest) (memberTokens members ++ ts) := by
  induction members with
  | nil => exact hrest
  | cons m ms ih =>
    obtain ⟨name, j⟩ := m
    have hj : j.WrittenAs (compactChars j) := h (name, j) List.mem_cons_self
    cases ms with
    | nil =>
      simp only [memberTokens, List.flatMap_cons, List.append_assoc, List.cons_append]
      exact ((hj rest ts hstop hrest).closed (t := .colon) rfl).closed (t := .string name) rfl
    | cons k ks =>
      simp only [memberTokens, List.flatMap_append, List.flatMap_cons, List.append_assoc,
        List.cons_append]
      have hnext := ih fun i hi => h i (List.mem_cons_of_mem _ hi)
      have hvalue := hj _ _ (stops_of_closed (t := .comma) rfl _) (hnext.closed (t := .comma) rfl)
      exact (hvalue.closed (t := .colon) rfl).closed (t := .string name) rfl

/-- The text of a value without white space is a written form of it. -/
theorem writtenAs_compact (j : Json) : j.WrittenAs (compactChars j) := by
  have htoken : ∀ {j : Json} {t : Token}, j.tokens = [t] → j.WrittenAs j.compactChars := by
    intro j t h
    have hchars : j.compactChars = t.chars := by
      rw [compactChars, h, List.flatMap_singleton]
    exact hchars ▸ writtenAs_token h
  induction j using induction_parts with
  | null => exact htoken (t := .null) rfl
  | bool b => exact htoken (t := .bool b) rfl
  | number n => exact htoken (t := .number n) rfl
  | string s => exact htoken (t := .string s) rfl
  | array items ih =>
    intro rest ts hstop hrest
    have hclose := hrest.closed (t := .closeArray) rfl
    simp only [compactChars, tokens, List.flatMap_cons, List.flatMap_append, List.flatMap_nil,
      List.append_assoc, List.cons_append, List.nil_append]
    have hitems := spells_compactItems ih (stops_of_closed (t := .closeArray) rfl _) hclose
    exact hitems.closed (t := .openArray) rfl
  | object members ih =>
    intro rest ts hstop hrest
    have hclose := hrest.closed (t := .closeObject) rfl
    simp only [compactChars, tokens, List.flatMap_cons, List.flatMap_append, List.flatMap_nil,
      List.append_assoc, List.cons_append, List.nil_append]
    have hmembers := spells_compactMembers ih (stops_of_closed (t := .closeObject) rfl _) hclose
    exact hmembers.closed (t := .openObject) rfl

/-! ## Reading what was written -/

/-- A written form of a document is scanned as its tokens. -/
theorem WrittenAs.scan {j : Json} {cs : List Char} (h : j.WrittenAs cs) :
    Token.scan cs = some j.tokens := by
  have hspells := h [] [] (by simp [Stops]) .nil
  rw [List.append_nil, List.append_nil] at hspells
  exact hspells.scan

/-- A document is read from any written form of it. -/
theorem read?_of_writtenAs {j : Json} {cs : List Char} (h : j.WrittenAs cs) :
    read? (String.ofList cs) = some j := by
  unfold read?
  rw [String.toList_ofList, h.scan, Option.bind_some, ofTokens?_tokens]

theorem read?_compact (j : Json) : read? j.compact = some j :=
  read?_of_writtenAs j.writtenAs_compact

theorem read?_pretty (j : Json) : read? j.pretty = some j :=
  read?_of_writtenAs (j.writtenAs_pretty 0)

/-- A blank text is no document. -/
theorem read?_of_blank {s : String} (h : Text.isBlankText s = true) : read? s = none := by
  unfold read?
  obtain hscan | hscan := scan_of_blank h
  · rw [hscan]
    rfl
  · rw [hscan]
    rfl

end AccessConsole.Json
