import AccessConsole.Paging
import Mathlib.Algebra.Order.Floor.Div
import Mathlib.Algebra.Order.Ring.Nat
import Mathlib.Data.List.Iterate
import Mathlib.Data.UInt
import Mathlib.Order.Interval.Finset.Nat

/-!
# Pages that cover a listing

The items that a page shows follow from its number and its size. Pages that are asked for one after
the other, as many as are counted, show every item of the listing once.

* `Page.toNat_totalPages` — the number of pages is the quotient rounded up, and nothing overflows.
* `Page.hasNext_iff_lt_totalPages` — the pages that have a next one are those below that number.
* `PageParams.window` — the places in a listing that a page shows.
* `PageParams.iterate_next` — the pages that follow the first one.
* `PageParams.Cover` — what it means that pages show a listing.
* `counted_pages_cover_listing` — as many pages as are counted show the listing, and none of them is
  past its end, unless they are counted for a size of zero.
* `pages_of_size_zero_run_past_end` — a count for a size of zero is for pages of one item, where a
  page of size zero is asked for with ten.
-/

namespace AccessConsole

/-! ## Counting -/

/-- A quotient rounded up is the quotient, and one more where something remains. -/
theorem ceilDiv_eq_ite (a : Nat) {b : Nat} (hb : 0 < b) :
    a ⌈/⌉ b = if a % b = 0 then a / b else a / b + 1 := by
  have hsplit : b * (a / b) + a % b = a := Nat.div_add_mod a b
  have hrem : a % b < b := Nat.mod_lt a hb
  rw [Nat.ceilDiv_eq_add_pred_div]
  split_ifs with h
  · apply Nat.div_eq_of_lt_le
    · rw [Nat.mul_comm]
      omega
    · rw [Nat.add_mul, Nat.mul_comm]
      omega
  · apply Nat.div_eq_of_lt_le
    · rw [Nat.add_mul, Nat.mul_comm]
      omega
    · rw [Nat.add_mul, Nat.add_mul, Nat.mul_comm]
      omega

namespace Page

variable {α : Type}

/-- A division that leaves a remainder is by two at least, so there is room for one more. -/
theorem toNat_div_add_one_lt {count divisor : UInt64} (h : count % divisor ≠ 0) :
    (count / divisor).toNat + 1 < UInt64.size := by
  have hrem : count.toNat % divisor.toNat ≠ 0 := by
    intro h0
    exact h (UInt64.toNat_inj.1 h0)
  have hcount : count.toNat < UInt64.size := count.toNat_lt_size
  rw [UInt64.toNat_div]
  obtain hd | hd | hd : divisor.toNat = 0 ∨ divisor.toNat = 1 ∨ 2 ≤ divisor.toNat := by omega
  · rw [hd, Nat.div_zero]
    decide
  · rw [hd, Nat.mod_one] at hrem
    exact absurd rfl hrem
  · have hhalf : count.toNat / divisor.toNat ≤ count.toNat / 2 := Nat.div_le_div_left hd (by omega)
    simp only [UInt64.size] at hcount ⊢
    omega

theorem toNat_divisor (size : UInt32) : (max size 1).toUInt64.toNat = max size.toNat 1 := by
  rw [UInt32.toNat_toUInt64, UInt32.toNat_max]
  rfl

/-- The number of pages is the quotient rounded up, one at least. -/
theorem toNat_totalPages (listing : Page α) (size : UInt32) :
    (listing.totalPages size).toNat = max (listing.count.toNat ⌈/⌉ max size.toNat 1) 1 := by
  have hrem : listing.count % (max size 1).toUInt64 = 0 ↔
      listing.count.toNat % max size.toNat 1 = 0 := by
    rw [← toNat_divisor, ← UInt64.toNat_mod]
    exact UInt64.toNat_inj.symm
  unfold totalPages
  simp only [UInt64.toNat_max, UInt64.toNat_one]
  congr 1
  rw [ceilDiv_eq_ite _ (by omega : 0 < max size.toNat 1)]
  split_ifs with h h' h'
  · rw [UInt64.toNat_div, toNat_divisor]
  · exact absurd (hrem.1 h) h'
  · exact absurd (hrem.2 h') h
  · have hroom := toNat_div_add_one_lt h
    rw [UInt64.toNat_add, UInt64.toNat_one, Nat.mod_eq_of_lt hroom, UInt64.toNat_div, toNat_divisor]

end Page

/-! ## Asking -/

namespace PageParams

/-- The places in a listing that a page shows, counted from zero. -/
def window (p : PageParams) : Finset Nat :=
  Finset.Ico ((p.page.toNat - 1) * p.size.toNat) (p.page.toNat * p.size.toNat)

/-- Below the last number of all, the page after a page has the next number. -/
theorem toNat_next {p : PageParams} (h : p.page.toNat + 1 < UInt32.size) :
    p.next.page.toNat = p.page.toNat + 1 := by
  unfold next
  rw [if_pos h, UInt32.toNat_add, UInt32.toNat_one, Nat.mod_eq_of_lt h]

/-- The pages that follow a page have its size and the numbers that follow. -/
theorem iterate_next (p : PageParams) {k : Nat} (h : p.page.toNat + k < UInt32.size) :
    (next^[k] p).page.toNat = p.page.toNat + k ∧ (next^[k] p).size = p.size := by
  induction k with
  | zero => exact ⟨rfl, rfl⟩
  | succ k ih =>
    obtain ⟨hpage, hsize⟩ := ih (by omega)
    rw [Function.iterate_succ_apply']
    refine ⟨?_, hsize⟩
    rw [toNat_next (by omega), hpage]
    omega

/-- A page that is asked for with numbers has room for an item. -/
theorem size_ofNumbers_pos (page size : UInt32) : 0 < (ofNumbers page size).size.toNat := by
  show 0 < (if size = 0 then (10 : UInt32) else size).toNat
  split_ifs with h
  · decide
  · rw [Nat.pos_iff_ne_zero]
    intro h0
    exact h (UInt32.toNat_inj.1 h0)

/-- Pages that show a listing: they are numbered from one on and have one size, no two of them show
an item both, and each item is shown. -/
structure Cover (pages : List PageParams) (size : UInt32) (count : Nat) : Prop where
  numbers : pages.map (fun p => p.page.toNat) = List.range' 1 pages.length
  size : ∀ p ∈ pages, p.size = size
  apart : pages.Pairwise fun p q => Disjoint p.window q.window
  complete : ∀ i < count, ∃ p ∈ pages, i ∈ p.window

section

variable {size : UInt32} {n : Nat}

/-- The window of the page that comes `k` pages after the first one. -/
theorem window_iterate_next {k : Nat} (h : 1 + k < UInt32.size) :
    (next^[k] ⟨1, size⟩).window = Finset.Ico (k * size.toNat) ((k + 1) * size.toNat) := by
  obtain ⟨hpage, hsize⟩ := iterate_next ⟨1, size⟩ (k := k) h
  rw [window, hpage, hsize]
  congr 2
  · show 1 + k - 1 = k
    omega
  · show 1 + k = k + 1
    omega

/-- Pages of a size other than zero show a listing, if there is room on them for all its items. -/
theorem cover_iterate_next {count : Nat} (hsize : 0 < size.toNat) (hn : n < UInt32.size)
    (hcount : count ≤ n * size.toNat) :
    Cover (List.iterate next ⟨1, size⟩ n) size count where
  numbers := by
    rw [List.length_iterate, ← List.range_map_iterate, List.map_map, List.range'_eq_map_range]
    apply List.map_congr_left
    intro k hk
    have hk' : k < n := List.mem_range.1 hk
    exact (iterate_next ⟨1, size⟩ (k := k) (show 1 + k < UInt32.size by omega)).1
  size := by
    intro p hp
    obtain ⟨k, hk, rfl⟩ := List.mem_iterate.1 hp
    exact (iterate_next ⟨1, size⟩ (k := k) (show 1 + k < UInt32.size by omega)).2
  apart := by
    rw [← List.range_map_iterate, List.pairwise_map]
    apply List.pairwise_lt_range.imp_of_mem
    intro k l hk hl hkl
    have hk' : k < n := List.mem_range.1 hk
    have hl' : l < n := List.mem_range.1 hl
    have hends : (k + 1) * size.toNat ≤ l * size.toNat := Nat.mul_le_mul_right _ hkl
    rw [window_iterate_next (by omega), window_iterate_next (by omega), Finset.disjoint_left]
    intro i hi hi'
    rw [Finset.mem_Ico] at hi hi'
    omega
  complete := by
    intro i hi
    have hk : i / size.toNat < n := (Nat.div_lt_iff_lt_mul hsize).2 (by omega)
    refine ⟨next^[i / size.toNat] ⟨1, size⟩, List.mem_iterate.2 ⟨_, hk, rfl⟩, ?_⟩
    rw [window_iterate_next (by omega), Finset.mem_Ico]
    have hsplit := Nat.div_add_mod' i size.toNat
    have hrem := Nat.mod_lt i hsize
    rw [Nat.add_mul]
    omega

/-- All pages show an item of the listing if and only if the last one does, and this begins where
the pages before it end. -/
theorem forall_window_iff {count : Nat} (hsize : 0 < size.toNat) (hn : n < UInt32.size)
    (hpos : 0 < n) :
    (∀ p ∈ List.iterate next ⟨1, size⟩ n, ∃ i ∈ p.window, i < count) ↔
      (n - 1) * size.toNat < count := by
  constructor
  · intro h
    obtain ⟨i, hi, hcount⟩ := h _ (List.mem_iterate.2 ⟨n - 1, by omega, rfl⟩)
    rw [window_iterate_next (by omega), Finset.mem_Ico] at hi
    omega
  · intro h p hp
    obtain ⟨k, hk, rfl⟩ := List.mem_iterate.1 hp
    have hbegin : k * size.toNat ≤ (n - 1) * size.toNat := Nat.mul_le_mul_right _ (by omega)
    refine ⟨k * size.toNat, ?_, by omega⟩
    rw [window_iterate_next (by omega), Finset.mem_Ico, Nat.add_mul]
    omega

end

end PageParams

/-! ## Pages that are counted -/

/-- The pages that are counted have room for all items. The last of them begins below the end of a
listing with items, unless the items are counted one to a page where ten are shown. -/
theorem Page.totalPages_room {α : Type} (listing : Page α) (size : UInt32) :
    let count := listing.count.toNat
    let n := (listing.totalPages size).toNat
    let shown := (PageParams.ofNumbers 1 size).size.toNat
    count ≤ n * shown ∧ (0 < count → ((n - 1) * shown < count ↔ size ≠ 0 ∨ count = 1)) := by
  intro count n shown
  have hcounted : n = max (count ⌈/⌉ max size.toNat 1) 1 := listing.toNat_totalPages size
  by_cases hsize : size = 0
  · have hshown : shown = 10 := by
      show (if size = 0 then (10 : UInt32) else size).toNat = 10
      rw [if_pos hsize]
      rfl
    have hn : n = max count 1 := by
      rw [hcounted, hsize]
      show max (count ⌈/⌉ 1) 1 = max count 1
      rw [ceilDiv_one]
    rw [hshown]
    refine ⟨by omega, ?_⟩
    intro hcount
    constructor
    · intro hlast
      right
      omega
    · rintro (hne | hone)
      · exact absurd hsize hne
      · omega
  · have hshown : shown = size.toNat := by
      show (if size = 0 then (10 : UInt32) else size).toNat = size.toNat
      rw [if_neg hsize]
    have hpos : 0 < size.toNat := by
      rw [Nat.pos_iff_ne_zero]
      intro h0
      exact hsize (UInt32.toNat_inj.1 h0)
    have hn : n = max (count ⌈/⌉ size.toNat) 1 := by
      rw [hcounted, Nat.max_eq_left hpos]
    rw [hshown]
    refine ⟨?_, ?_⟩
    · rw [Nat.mul_comm, ← ceilDiv_le_iff_le_mul hpos]
      omega
    · intro hcount
      refine iff_of_true ?_ (.inl hsize)
      rw [Nat.mul_comm, ← not_le, ← ceilDiv_le_iff_le_mul hpos]
      have hsome : ¬count ⌈/⌉ size.toNat ≤ 0 := by
        rw [ceilDiv_le_iff_le_mul hpos]
        omega
      omega

/-- A page of a listing has a next one just if it is not the last of those that are counted, where
the server links to a next page just if items are left for it. -/
theorem Page.hasNext_iff_lt_totalPages {α : Type} (listing : Page α) {p : PageParams}
    (hpage : 0 < p.page.toNat) (hsize : 0 < p.size.toNat)
    (hlinks : listing.next ≠ none ↔ p.page.toNat * p.size.toNat < listing.count.toNat) :
    listing.hasNext = true ↔ p.page.toNat < (listing.totalPages p.size).toNat := by
  have hnext : listing.hasNext = true ↔ listing.next ≠ none := Option.isSome_iff_ne_none
  have hpages : listing.count.toNat ⌈/⌉ p.size.toNat ≤ p.page.toNat ↔
      listing.count.toNat ≤ p.size.toNat * p.page.toNat := ceilDiv_le_iff_le_mul hsize
  rw [hnext, hlinks, listing.toNat_totalPages, Nat.max_eq_left hsize, Nat.mul_comm]
  omega

/-- As many pages as are counted, if they can be numbered, show the listing: they are numbered from
one on, do not overlap and leave no item out. None of them is past the end of a listing with items,
except where the pages of a listing with several items are counted for a size of zero. Nothing is
divided by zero, and neither the count nor a number overflows. -/
theorem counted_pages_cover_listing {α : Type} (listing : Page α) (size : UInt32)
    (hfits : (listing.totalPages size).toNat < UInt32.size) :
    let count := listing.count.toNat
    let divisor := (max size 1).toUInt64
    let n := (listing.totalPages size).toNat
    let first := PageParams.ofNumbers 1 size
    let pages := List.iterate PageParams.next first n
    pages.length = n ∧ PageParams.Cover pages first.size count ∧
      (0 < count →
        ((∀ p ∈ pages, ∃ i ∈ p.window, i < count) ↔ size ≠ 0 ∨ count = 1)) ∧
      divisor ≠ 0 ∧ n = max (count ⌈/⌉ divisor.toNat) 1 ∧
      (listing.count % divisor ≠ 0 → (listing.count / divisor).toNat + 1 < UInt64.size) ∧
      ∀ k, k + 1 < n → (PageParams.next^[k] first).page.toNat + 1 < UInt32.size := by
  intro count divisor n first pages
  have hdivisor : divisor.toNat = max size.toNat 1 := Page.toNat_divisor size
  have hcounted : n = max (count ⌈/⌉ divisor.toNat) 1 := by
    rw [hdivisor]
    exact listing.toNat_totalPages size
  have hpos : 0 < n := by omega
  have hshown : 0 < first.size.toNat := PageParams.size_ofNumbers_pos 1 size
  obtain ⟨hroom, hlast⟩ := listing.totalPages_room size
  refine ⟨List.length_iterate .., PageParams.cover_iterate_next hshown hfits hroom, ?_, ?_,
    hcounted, Page.toNat_div_add_one_lt, ?_⟩
  · intro hcount
    exact (PageParams.forall_window_iff hshown hfits hpos).trans (hlast hcount)
  · intro h0
    rw [h0] at hdivisor
    have hzero : (0 : UInt64).toNat = 0 := rfl
    omega
  · intro k hk
    have hpage : (PageParams.next^[k] first).page.toNat = 1 + k :=
      (PageParams.iterate_next first (k := k) (show 1 + k < UInt32.size by omega)).1
    omega

/-- The largest count that the largest size puts on as many pages as can be numbered. -/
def largestListing : Page Unit := ⟨18446744065119617025, none, none, []⟩

/-- All numbers of 32 bits are needed, and none is missing. -/
theorem largest_listing_is_covered :
    (largestListing.totalPages 4294967295).toNat = 4294967295 ∧
      PageParams.Cover (List.iterate PageParams.next (PageParams.ofNumbers 1 4294967295) 4294967295)
        4294967295 18446744065119617025 := by
  have hn : (largestListing.totalPages 4294967295).toNat = 4294967295 := by decide +kernel
  have hfits : (largestListing.totalPages 4294967295).toNat < UInt32.size := by
    rw [hn]
    decide
  have h := (counted_pages_cover_listing largestListing 4294967295 hfits).2.1
  rw [hn] at h
  exact ⟨hn, h⟩

/-- Two items are counted on two pages of size zero, and the second one begins at the tenth
place. -/
theorem pages_of_size_zero_run_past_end :
    ¬∀ (listing : Page Unit) (size : UInt32), (listing.totalPages size).toNat < UInt32.size →
      0 < listing.count.toNat →
      ∀ p ∈ List.iterate PageParams.next (PageParams.ofNumbers 1 size)
        (listing.totalPages size).toNat, ∃ i ∈ p.window, i < listing.count.toNat := by
  intro h
  have hsecond := h ⟨2, none, none, []⟩ 0 (by decide) (by decide) ⟨2, 10⟩ (by decide)
  exact absurd hsecond (by decide)

end AccessConsole
