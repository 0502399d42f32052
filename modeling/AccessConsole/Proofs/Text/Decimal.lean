import AccessConsole.Text.Decimal
import Mathlib.Data.List.Basic

/-!
# Digits read back

* `value_digits`, `natural?_digits` — the digits of a number spell that number.
* `digits_head` — they have no leading zero.
* `signed?_integer` — an integer is read back from its numeral.
-/

namespace AccessConsole.Text.Decimal

/-! ## Digits -/

theorem digitValue_digitChar {d : Nat} (h : d < 10) : digitValue (digitChar d) = d := by
  have hall : ∀ d < 10, digitValue (digitChar d) = d := by decide
  exact hall d h

theorem isDigit_digitChar {d : Nat} (h : d < 10) : (digitChar d).isDigit = true := by
  have hall : ∀ d < 10, (digitChar d).isDigit = true := by decide
  exact hall d h

theorem digitOf_digitChar (d : Fin 10) : digitOf (digitChar d.val) = d := by
  apply Fin.ext
  show digitValue (digitChar d.val) % 10 = d.val
  rw [digitValue_digitChar d.isLt, Nat.mod_eq_of_lt d.isLt]

/-! ## Numbers -/

theorem value_concat (ds : List Char) (c : Char) :
    value (ds ++ [c]) = 10 * value ds + digitValue c := by
  unfold value
  rw [List.foldl_concat]

theorem value_digits (n : Nat) : value (digits n) = n := by
  fun_induction digits n with
  | case1 n h =>
    show 10 * 0 + digitValue (digitChar n) = n
    rw [digitValue_digitChar h]
    omega
  | case2 n h ih =>
    rw [value_concat, ih, digitValue_digitChar (Nat.mod_lt _ (by decide))]
    omega

theorem isDigit_of_mem_digits {n : Nat} {c : Char} (h : c ∈ digits n) : c.isDigit = true := by
  fun_induction digits n with
  | case1 n hn =>
    rw [List.mem_singleton.1 h]
    exact isDigit_digitChar hn
  | case2 n hn ih =>
    obtain h | h := List.mem_append.1 h
    · exact ih h
    · rw [List.mem_singleton.1 h]
      exact isDigit_digitChar (Nat.mod_lt _ (by decide))

theorem digits_ne_nil (n : Nat) : digits n ≠ [] := by
  rw [digits]
  split_ifs <;> simp

/-- Zero has one digit, and no other number begins with it. -/
theorem digits_head (n : Nat) : digits n = ['0'] ∨ (digits n).head? ≠ some '0' := by
  fun_induction digits n with
  | case1 n hn =>
    have hall : ∀ n < 10, [digitChar n] = ['0'] ∨ [digitChar n].head? ≠ some '0' := by decide
    exact hall n hn
  | case2 n hn ih =>
    right
    rw [List.head?_append_of_ne_nil _ (digits_ne_nil _)]
    obtain hzero | hne := ih
    · -- Only zero is written as a zero, and what is left of a longer number is more.
      have hvalue : n / 10 = 0 := by
        rw [← value_digits (n / 10), hzero]
        rfl
      omega
    · exact hne

theorem natural?_digits (n : Nat) : natural? (digits n) = some n := by
  have hall : (digits n).all Char.isDigit = true :=
    List.all_eq_true.2 fun _ hc => isDigit_of_mem_digits hc
  unfold natural?
  rw [if_neg, value_digits]
  simp [hall, digits_ne_nil]

/-! ## Integers -/

/-- A numeral is made of digits, but for a minus sign. -/
theorem minus_or_digit_of_mem_integer {n : Int} {c : Char} (h : c ∈ integer n) :
    c = '-' ∨ c.isDigit = true := by
  unfold integer at h
  split_ifs at h with hn
  · obtain rfl | h := List.mem_cons.1 h
    · exact .inl rfl
    · exact .inr (isDigit_of_mem_digits h)
  · exact .inr (isDigit_of_mem_digits h)

theorem integer_ne_nil (n : Int) : integer n ≠ [] := by
  unfold integer
  split_ifs
  · exact List.cons_ne_nil _ _
  · exact digits_ne_nil _

/-- Digits begin with a digit. -/
theorem digits_ne_cons {n : Nat} {c : Char} {rest : List Char} (hc : c.isDigit = false) :
    digits n ≠ c :: rest := by
  intro heq
  have hdigit := isDigit_of_mem_digits (n := n) (heq ▸ List.mem_cons_self)
  rw [hc] at hdigit
  exact absurd hdigit (by decide)

/-- An integer in the range is read back from its numeral. -/
theorem signed?_integer {low high n : Int} (hlow : low ≤ n) (hhigh : n ≤ high) :
    signed? low high (integer n) = some n := by
  have hrange : (decide (low ≤ n) && decide (n ≤ high)) = true := by simp [hlow, hhigh]
  unfold integer
  split_ifs with hn
  · have habs : -Int.ofNat n.natAbs = n := by
      rw [Int.ofNat_eq_natCast]
      omega
    simp only [signed?, natural?_digits, Option.map_some, habs, Option.filter_some, hrange, if_true]
  · have habs : Int.ofNat n.natAbs = n := by
      rw [Int.ofNat_eq_natCast]
      omega
    unfold signed?
    split
    · rename_i heq
      exact absurd heq (digits_ne_cons (by decide))
    · rename_i heq
      exact absurd heq (digits_ne_cons (by decide))
    · simp only [natural?_digits, Option.map_some, habs, Option.filter_some, hrange, if_true]

end AccessConsole.Text.Decimal
