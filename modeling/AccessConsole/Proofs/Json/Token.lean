import AccessConsole.Json.Token
import AccessConsole.Proofs.Text.Decimal
import AccessConsole.Text.Blank
import Mathlib.Data.Option.Basic
import Mathlib.Tactic.SplitIfs

/-!
# Tokens read back

* `Number.ofChars?_chars` — a numeral is read as it was written.
* `scanString_stringChars`, `spell_pieces` — so is a string, whatever has to be escaped in it.
* `Stops` — what may follow a numeral or a literal without being taken for a part of it.
* `Spells`, `Spells.scan` — a text of written tokens, with white space between them, is scanned as
  these tokens.
* `scan_of_blank` — a blank text holds no token.
-/

namespace AccessConsole.Json

open Text.Decimal

/-- A run of characters of a class is taken to its end, and what follows it is left. -/
theorem takeWhile_of_stop {p : Char → Bool} {cs rest : List Char} (hcs : ∀ c ∈ cs, p c = true)
    (hrest : ∀ c ∈ rest.head?, p c = false) :
    (cs ++ rest).takeWhile p = cs ∧ (cs ++ rest).dropWhile p = rest := by
  rw [List.takeWhile_append_of_pos hcs, List.dropWhile_append_of_pos hcs]
  cases rest with
  | nil => simp
  | cons c cs =>
    have hc : p c = false := hrest c rfl
    simp [hc]

/-! ## Numerals -/

namespace Number

/-- The fraction part as it is written. -/
def fractionChars (fraction : List (Fin 10)) : List Char :=
  if fraction.isEmpty then [] else '.' :: fraction.map fun d => digitChar d.val

/-- The exponent part as it is written after a fraction. -/
def exponentChars (fraction : List (Fin 10)) (exponent : Int) : List Char :=
  if exponent = 0 && !fraction.isEmpty then []
  else 'e' :: (if exponent < 0 then '-' else '+') :: digits exponent.natAbs

theorem exponentOf?_exponentChars (fraction : List (Fin 10)) (exponent : Int) :
    ∃ exponent?, exponentOf? (exponentChars fraction exponent) = some exponent? ∧
      exponent?.getD 0 = exponent ∧ (fraction = [] → exponent?.isSome) := by
  unfold exponentChars
  split_ifs with hnone hneg
  · simp only [Bool.and_eq_true, decide_eq_true_eq, Bool.not_eq_true', List.isEmpty_eq_false_iff]
      at hnone
    exact ⟨none, rfl, hnone.1.symm, fun h => absurd h hnone.2⟩
  · refine ⟨some exponent, ?_, rfl, fun _ => rfl⟩
    show (natural? (digits exponent.natAbs)).map (fun n => some (-Int.ofNat n)) = _
    rw [natural?_digits, Option.map_some, Int.ofNat_eq_natCast]
    congr 2
    omega
  · refine ⟨some exponent, ?_, rfl, fun _ => rfl⟩
    show (natural? (digits exponent.natAbs)).map (fun n => some (Int.ofNat n)) = _
    rw [natural?_digits, Option.map_some, Int.ofNat_eq_natCast]
    congr 2
    omega

theorem exponentChars_head (fraction : List (Fin 10)) (exponent : Int) :
    exponentChars fraction exponent = [] ∨ (exponentChars fraction exponent).head? = some 'e' := by
  unfold exponentChars
  split_ifs
  · exact .inl rfl
  · exact .inr rfl
  · exact .inr rfl

theorem fractionOf?_fractionChars (fraction : List (Fin 10)) (exponent : Int) :
    fractionOf? (fractionChars fraction ++ exponentChars fraction exponent) =
      some (if fraction = [] then none else some fraction, exponentChars fraction exponent) := by
  have hhead := exponentChars_head fraction exponent
  cases fraction with
  | nil =>
    show fractionOf? (exponentChars [] exponent) = _
    unfold fractionOf?
    split
    · rename_i heq
      rw [heq] at hhead
      simp at hhead
    · rfl
  | cons d ds =>
    have hdigits : ∀ c ∈ (d :: ds).map fun d => digitChar d.val, c.isDigit = true := by
      intro c hc
      obtain ⟨e, -, rfl⟩ := List.mem_map.1 hc
      exact isDigit_digitChar e.isLt
    have hstop : ∀ c ∈ (exponentChars (d :: ds) exponent).head?, c.isDigit = false := by
      obtain hnil | he := hhead
      · simp [hnil]
      · simp [he]
    obtain ⟨htake, hdrop⟩ := takeWhile_of_stop hdigits hstop
    have hback : ((d :: ds).map fun d => digitChar d.val).map digitOf = d :: ds := by
      rw [List.map_map]
      exact List.map_id'' digitOf_digitChar _
    show fractionOf? ('.' :: ((d :: ds).map (fun d => digitChar d.val) ++ _)) = _
    unfold fractionOf?
    simp only [htake, hdrop, hback]
    simp

/-- Digits do not begin with a sign. -/
theorem digits_cons (n : Nat) : ∃ c cs, digits n = c :: cs ∧ c ≠ '-' := by
  cases hd : digits n with
  | nil => exact absurd hd (digits_ne_nil n)
  | cons c cs =>
    refine ⟨c, cs, rfl, ?_⟩
    rintro rfl
    have hminus : '-' ∈ digits n := by
      rw [hd]
      exact List.mem_cons_self
    exact absurd (isDigit_of_mem_digits hminus) (by decide)

/-- The parts of a numeral are read as they were written. -/
theorem ofChars?_parts (negative : Bool) (whole : Nat) {rest : List Char}
    (hrest : ∀ c ∈ rest.head?, c.isDigit = false) :
    ofChars? ((if negative then ['-'] else []) ++ digits whole ++ rest) =
      (fractionOf? rest).bind fun r => (exponentOf? r.2).bind fun exponent =>
        if r.1.isNone && exponent.isNone && !(negative && whole = 0) then
          some (.integer (if negative then -Int.ofNat whole else Int.ofNat whole))
        else some (.decimal negative whole (r.1.getD []) (exponent.getD 0)) := by
  obtain ⟨htake, hdrop⟩ := takeWhile_of_stop (fun c => isDigit_of_mem_digits (n := whole)) hrest
  have hguard : (!(digits whole).isEmpty &&
      (digits whole == ['0'] || (digits whole).head? != some '0')) = true := by
    have hne := digits_ne_nil whole
    obtain hzero | hhead := digits_head whole
    · simp [hzero]
    · simp [hne, hhead]
  cases negative with
  | true =>
    unfold ofChars?
    simp only [if_true, List.cons_append, List.nil_append, htake, hdrop, hguard, value_digits,
      guard_true]
    rfl
  | false =>
    obtain ⟨c, cs, hd, hc⟩ := digits_cons whole
    simp only [Bool.false_eq_true, if_false, List.nil_append]
    unfold ofChars?
    rw [hd] at htake hdrop ⊢
    simp only [List.cons_append] at htake hdrop ⊢
    -- What begins with a digit has no sign.
    have hsign : ∀ tail, c :: (cs ++ rest) = '-' :: tail → False := by
      intro tail heq
      exact hc (List.cons.inj heq).1
    simp (disch := exact hsign) only [htake, hdrop, ← hd, value_digits, hguard, guard_true]
    rfl

/-- A numeral is read as it was written. -/
theorem ofChars?_chars (n : Number) : ofChars? n.chars = some n := by
  cases n with
  | integer n =>
    have hchars : (integer n).chars =
        (if decide (n < 0) then ['-'] else []) ++ digits n.natAbs ++ [] := by
      show Text.Decimal.integer n = _
      unfold Text.Decimal.integer
      by_cases h : n < 0 <;> simp [h]
    have hsigned :
        (if decide (n < 0) then -Int.ofNat n.natAbs else Int.ofNat n.natAbs) = n := by
      simp only [decide_eq_true_eq, Int.ofNat_eq_natCast]
      omega
    have hzero : (!(decide (n < 0) && decide (n.natAbs = 0))) = true := by
      simp only [Bool.not_eq_true', Bool.and_eq_false_iff, decide_eq_false_iff_not]
      omega
    rw [hchars, ofChars?_parts _ _ (by simp), hsigned]
    simp only [fractionOf?, exponentOf?, Option.bind_some, Option.isNone_none, Bool.true_and, hzero,
      if_true]
  | decimal negative whole fraction exponent =>
    have hchars : (decimal negative whole fraction exponent).chars =
        (if negative then ['-'] else []) ++ digits whole ++
          (fractionChars fraction ++ exponentChars fraction exponent) := by
      show _ ++ digits whole ++ fractionChars fraction ++ exponentChars fraction exponent = _
      simp only [List.append_assoc]
    have hstop : ∀ c ∈ (fractionChars fraction ++ exponentChars fraction exponent).head?,
        c.isDigit = false := by
      cases fraction with
      | nil =>
        obtain hnil | he := exponentChars_head [] exponent
        · simp [fractionChars, hnil]
        · simp [fractionChars, he]
      | cons d ds => simp [fractionChars]
    obtain ⟨exponent?, hexponent, hvalue, hsome⟩ := exponentOf?_exponentChars fraction exponent
    rw [hchars, ofChars?_parts _ _ hstop, fractionOf?_fractionChars]
    simp only [Option.bind_some, hexponent, hvalue]
    by_cases hnil : fraction = []
    · simp [hnil, Option.isNone_eq_false_iff.2 (hsome hnil)]
    · simp [hnil]

/-- All that a numeral is written with are characters of numerals. -/
theorem isNumeral_of_mem_chars (n : Number) : ∀ c ∈ n.chars, isNumeral c = true := by
  have hdigits : ∀ m : Nat, ∀ c ∈ digits m, isNumeral c = true := by
    intro m c hm
    simp [isNumeral, isDigit_of_mem_digits hm]
  cases n with
  | integer n =>
    show ∀ c ∈ Text.Decimal.integer n, isNumeral c = true
    unfold Text.Decimal.integer
    split_ifs
    · exact List.forall_mem_cons.2 ⟨rfl, hdigits _⟩
    · exact hdigits _
  | decimal negative whole fraction exponent =>
    have hsign : ∀ c ∈ if negative then ['-'] else [], isNumeral c = true := by
      cases negative with
      | true => exact List.forall_mem_singleton.2 rfl
      | false => exact List.forall_mem_nil _
    have hfraction : ∀ c ∈ fractionChars fraction, isNumeral c = true := by
      unfold fractionChars
      split_ifs
      · exact List.forall_mem_nil _
      · refine List.forall_mem_cons.2 ⟨rfl, List.forall_mem_map.2 fun d _ => ?_⟩
        simp [isNumeral, isDigit_digitChar d.isLt]
    have hexponent : ∀ c ∈ exponentChars fraction exponent, isNumeral c = true := by
      unfold exponentChars
      split_ifs
      · exact List.forall_mem_nil _
      · exact List.forall_mem_cons.2 ⟨rfl, List.forall_mem_cons.2 ⟨rfl, hdigits _⟩⟩
      · exact List.forall_mem_cons.2 ⟨rfl, List.forall_mem_cons.2 ⟨rfl, hdigits _⟩⟩
    show ∀ c ∈ _ ++ digits whole ++ fractionChars fraction ++ exponentChars fraction exponent, _
    simp only [List.forall_mem_append]
    exact ⟨⟨⟨hsign, hdigits whole⟩, hfraction⟩, hexponent⟩

theorem chars_ne_nil (n : Number) : n.chars ≠ [] := by
  intro h
  have hread := ofChars?_chars n
  rw [h] at hread
  cases hread

end Number

/-! ## Strings -/

theorem hexValue?_hexChar {n : Nat} (h : n < 16) : hexValue? (hexChar n) = some n := by
  have hall : ∀ n < 16, hexValue? (hexChar n) = some n := by decide
  exact hall n h

/-- The piece that a character is written as. -/
def pieceOf (c : Char) : Piece :=
  if c.toNat < 0x20 && !(['\x08', '\t', '\n', '\x0c', '\r'].contains c) then .unit c.toNat
  else .char c

theorem pieceOf_cases (c : Char) :
    pieceOf c = .char c ∨ (c.toNat < 0x20 ∧ pieceOf c = .unit c.toNat) := by
  unfold pieceOf
  split_ifs with h
  · simp only [Bool.and_eq_true, decide_eq_true_eq] at h
    exact .inr ⟨h.1, rfl⟩
  · exact .inl rfl

/-- A character is read as the piece that it is written as. -/
theorem scanString_escape (c : Char) (rest : List Char) :
    scanString (escape c ++ rest) = (scanString rest).map fun r => (pieceOf c :: r.1, r.2) := by
  unfold escape
  split_ifs with hquote hslash hb ht hn hf hr hcontrol
  · subst hquote
    rfl
  · subst hslash
    rfl
  · subst hb
    rfl
  · subst ht
    rfl
  · subst hn
    rfl
  · subst hf
    rfl
  · subst hr
    rfl
  · have hunit : unitOf? '0' '0' (hexChar (c.toNat / 16)) (hexChar (c.toNat % 16)) =
        some c.toNat := by
      have hzero : hexValue? '0' = some 0 := by decide
      unfold unitOf?
      rw [hzero, hexValue?_hexChar (by omega), hexValue?_hexChar (by omega)]
      show some (((0 * 16 + 0) * 16 + c.toNat / 16) * 16 + c.toNat % 16) = some c.toNat
      congr 1
      omega
    have hpiece : pieceOf c = .unit c.toNat := by
      simp [pieceOf, hcontrol, hb, ht, hn, hf, hr]
    show scanString ('\\' :: 'u' :: '0' :: '0' :: hexChar (c.toNat / 16) ::
      hexChar (c.toNat % 16) :: rest) = _
    rw [scanString, hunit, hpiece]
  · have hpiece : pieceOf c = .char c := by simp [pieceOf, hcontrol]
    rw [hpiece]
    show scanString (c :: rest) = _
    rw [scanString.eq_def (c :: rest)]
    split
    · rename_i heq
      cases heq
    · rename_i heq
      exact absurd (List.cons.inj heq).1 hquote
    · rename_i heq
      exact absurd (List.cons.inj heq).1 hslash
    · rename_i heq
      exact absurd (List.cons.inj heq).1 hslash
    · rename_i heq
      cases heq
      rw [if_neg (by simpa [hslash] using hcontrol)]

theorem scanString_stringChars (s : List Char) (rest : List Char) :
    scanString (s.flatMap escape ++ '"' :: rest) = some (s.map pieceOf, rest) := by
  induction s with
  | nil => rfl
  | cons c s ih =>
    rw [List.flatMap_cons, List.append_assoc, scanString_escape, ih]
    rfl

/-- A unit outside the surrogates spells its character. -/
theorem spell_unit {n : Nat} (h : n < 0xd800) (rest : List Piece) :
    spell (.unit n :: rest) = (spell rest).map (Char.ofNat n :: ·) := by
  have hhigh : isHigh n = false := by
    simp only [isHigh, Bool.and_eq_false_iff, decide_eq_false_iff_not]
    omega
  have hlow : isLow n = false := by
    simp only [isLow, Bool.and_eq_false_iff, decide_eq_false_iff_not]
    omega
  cases rest with
  | nil => simp [spell, hhigh, hlow]
  | cons p ps =>
    cases p with
    | char c => simp [spell, hhigh, hlow]
    | unit m => simp [spell, hhigh, hlow]

theorem spell_pieces (s : List Char) : spell (s.map pieceOf) = some s := by
  induction s with
  | nil => rfl
  | cons c s ih =>
    rw [List.map_cons]
    obtain hchar | ⟨hcontrol, hunit⟩ := pieceOf_cases c
    · rw [hchar, spell, ih]
      rfl
    · rw [hunit, spell_unit (by omega), ih, Option.map_some, Char.ofNat_toNat]

/-! ## Tokens -/

/-- What follows does not go on with a numeral or a literal. -/
def Stops (rest : List Char) : Prop :=
  ∀ c ∈ rest.head?, isNumeral c = false ∧ c.isLower = false

/-- The end of the token shows without what follows it. -/
def Token.closed : Token → Bool
  | .number _ => false
  | .null => false
  | .bool _ => false
  | _ => true

/-- A run of characters is scanned to its end. -/
theorem scanRun_append {p : Char → Bool} (read : List Char → Option Token) {c : Char}
    {cs rest : List Char} (hcs : ∀ d ∈ cs, p d = true) (hrest : ∀ d ∈ rest.head?, p d = false) :
    scanRun p read c (cs ++ rest) = (read (c :: cs)).map fun t => (t, rest) := by
  obtain ⟨htake, hdrop⟩ := takeWhile_of_stop hcs hrest
  unfold scanRun
  rw [htake, hdrop]

theorem punctuation?_of_isNumeral {c : Char} (h : isNumeral c = true) : punctuation? c = none := by
  unfold punctuation?
  split <;> first | rfl | cases h

/-- A token is scanned as it was written, unless what follows is taken for a part of it. -/
theorem scanToken_chars (t : Token) {rest : List Char} (h : t.closed = true ∨ Stops rest) :
    ∃ c cs, t.chars = c :: cs ∧ isSpace c = false ∧ scanToken c (cs ++ rest) = some (t, rest) := by
  have hliteral : ∀ {c : Char} {cs : List Char}, t.closed = false → cs.all Char.isLower = true →
      punctuation? c = none → c ≠ '"' → isNumeral c = false → literal? (c :: cs) = some t →
      scanToken c (cs ++ rest) = some (t, rest) := by
    intro c cs hopen hlower hp hq hn hread
    have hstop : Stops rest := h.resolve_left (by simp [hopen])
    unfold scanToken
    simp only [hp, hq, hn, if_false, Bool.false_eq_true]
    rw [scanRun_append literal? (List.all_eq_true.1 hlower) fun d hd => (hstop d hd).2, hread]
    rfl
  cases t with
  | openArray => exact ⟨_, _, rfl, rfl, rfl⟩
  | closeArray => exact ⟨_, _, rfl, rfl, rfl⟩
  | openObject => exact ⟨_, _, rfl, rfl, rfl⟩
  | closeObject => exact ⟨_, _, rfl, rfl, rfl⟩
  | comma => exact ⟨_, _, rfl, rfl, rfl⟩
  | colon => exact ⟨_, _, rfl, rfl, rfl⟩
  | null =>
    exact ⟨'n', ['u', 'l', 'l'], rfl, rfl, hliteral rfl rfl rfl (by decide) rfl rfl⟩
  | bool b =>
    cases b with
    | true =>
      exact ⟨'t', ['r', 'u', 'e'], rfl, rfl, hliteral rfl rfl rfl (by decide) rfl rfl⟩
    | false =>
      exact ⟨'f', ['a', 'l', 's', 'e'], rfl, rfl, hliteral rfl rfl rfl (by decide) rfl rfl⟩
  | number n =>
    have hstop : Stops rest := h.resolve_left (by simp [Token.closed])
    obtain ⟨c, cs, hcs⟩ := List.exists_cons_of_ne_nil n.chars_ne_nil
    have hnum : ∀ d ∈ c :: cs, isNumeral d = true := hcs ▸ n.isNumeral_of_mem_chars
    have hc : isNumeral c = true := hnum c List.mem_cons_self
    refine ⟨c, cs, hcs, ?_, ?_⟩
    · unfold isSpace
      by_contra hspace
      simp only [Bool.not_eq_false, Bool.or_eq_true, decide_eq_true_eq] at hspace
      obtain ((rfl | rfl) | rfl) | rfl := hspace <;> cases hc
    · have hquote : c ≠ '"' := by
        rintro rfl
        cases hc
      unfold scanToken
      simp only [punctuation?_of_isNumeral hc, hquote, hc, if_false, if_true]
      rw [scanRun_append _ (fun d hd => hnum d (List.mem_cons_of_mem _ hd))
        fun d hd => (hstop d hd).1, ← hcs, Number.ofChars?_chars]
      rfl
  | string s =>
    cases s with
    | none => exact ⟨'"', "\\ud800\"".toList, rfl, rfl, rfl⟩
    | some s =>
      refine ⟨'"', s.toList.flatMap escape ++ ['"'], rfl, rfl, ?_⟩
      have hscan := scanString_stringChars s.toList rest
      have hnone : punctuation? '"' = none := rfl
      unfold scanToken
      simp only [hnone, if_true, List.append_assoc, List.singleton_append, hscan,
        Option.map_some, spell_pieces, String.ofList_toList]

/-- The text is the written form of the tokens, with white space where it may stand. -/
inductive Spells : List Char → List Token → Prop
  | nil : Spells [] []
  | space {c : Char} {cs : List Char} {ts : List Token} :
    isSpace c = true → Spells cs ts → Spells (c :: cs) ts
  | token {t : Token} {cs : List Char} {ts : List Token} :
    t.closed = true ∨ Stops cs → Spells cs ts → Spells (t.chars ++ cs) (t :: ts)

theorem Spells.spaces {spaces cs : List Char} {ts : List Token}
    (hs : ∀ c ∈ spaces, isSpace c = true) (h : Spells cs ts) : Spells (spaces ++ cs) ts := by
  induction spaces with
  | nil => exact h
  | cons c spaces ih =>
    exact .space (hs c List.mem_cons_self) (ih fun d hd => hs d (List.mem_cons_of_mem _ hd))

/-- Written tokens are scanned as they were written. -/
theorem Spells.scan {cs : List Char} {ts : List Token} (h : Spells cs ts) :
    Token.scan cs = some ts := by
  induction h with
  | nil => rw [Token.scan]
  | space hc _ ih =>
    rw [Token.scan, if_pos hc]
    exact ih
  | @token t cs ts hstop _ ih =>
    obtain ⟨c, tail, hchars, hspace, hscan⟩ := scanToken_chars t hstop
    rw [hchars, List.cons_append, Token.scan, if_neg (by simp [hspace])]
    split
    · rename_i hnone
      rw [hscan] at hnone
      cases hnone
    · rename_i r hr
      rw [hscan] at hr
      cases hr
      rw [ih]
      rfl

/-! ## Blank texts -/

/-- No token begins with a blank character. -/
theorem scanToken_of_blank {c : Char} (h : Text.isBlank c = true) (cs : List Char) :
    scanToken c cs = none := by
  have hne : ∀ d, Text.isBlank d = false → c ≠ d := by
    rintro d hd rfl
    rw [h] at hd
    cases hd
  have hdigit : c.isDigit = false := by
    simp only [Text.isBlank, Text.blankRanges, List.any_cons, List.any_nil, Bool.or_eq_true,
      Bool.and_eq_true, decide_eq_true_eq, Bool.or_false] at h
    rw [Bool.eq_false_iff, ne_eq, Char.isDigit_iff_toNat]
    show ¬(48 ≤ c.toNat ∧ c.toNat ≤ 57)
    omega
  have hnumeral : isNumeral c = false := by
    simp [isNumeral, hdigit, hne '-' rfl, hne '+' rfl, hne '.' rfl, hne 'e' rfl, hne 'E' rfl]
  have hpunctuation : punctuation? c = none := by
    unfold punctuation?
    split <;> first | rfl | cases h
  have hliteral : ∀ run, literal? (c :: run) = none := by
    intro run
    simp [literal?, hne 'n' rfl, hne 't' rfl, hne 'f' rfl]
  simp [scanToken, scanRun, hpunctuation, hne '"' rfl, hnumeral, hliteral]

/-- A blank text holds no token. Some blank characters may not even stand between tokens. -/
theorem scan_of_blank {cs : List Char} (h : cs.all Text.isBlank = true) :
    Token.scan cs = none ∨ Token.scan cs = some [] := by
  induction cs with
  | nil => exact .inr (by rw [Token.scan])
  | cons c cs ih =>
    simp only [List.all_cons, Bool.and_eq_true] at h
    rw [Token.scan]
    split_ifs
    · exact ih h.2
    · refine .inl ?_
      split
      · rfl
      · rename_i r hr
        rw [scanToken_of_blank h.1] at hr
        cases hr

end AccessConsole.Json
