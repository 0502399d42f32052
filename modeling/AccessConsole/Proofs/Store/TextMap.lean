import AccessConsole.Store.Basic
import Mathlib.Data.String.Basic
import Mathlib.Logic.Function.Basic

/-!
# Stores as maps of texts

* `TextMap` — the text under each key.
* `IsTextMap` — a store that never fails and shows a map: its operations are those of the map.
* `IsFallibleTextMap` — the same of a store whose operations may fail.
* `Entries.get?_insert`, `Entries.get?_erase` — entries after an edit.
* `MemoryStore.isTextMap` — the store in memory is a map of texts.
-/

namespace AccessConsole

/-- The text under each key, where there is one. -/
abbrev TextMap := String → Option String

section

variable {σ : Type} [KeyStore σ]

/-- The operations of a store are those of the map that it shows. None of them fails. -/
structure IsTextMap (Shows : σ → TextMap → Prop) : Prop where
  get {store : σ} {map : TextMap} (h : Shows store map) (key : String) :
    KeyStore.get store key = .ok (map key)
  set {store : σ} {map : TextMap} (h : Shows store map) (key value : String) :
    (KeyStore.set store key value).1 = .ok () ∧
      Shows (KeyStore.set store key value).2 (Function.update map key (some value))
  remove {store : σ} {map : TextMap} (h : Shows store map) (key : String) :
    (KeyStore.remove store key).1 = .ok () ∧
      Shows (KeyStore.remove store key).2 (Function.update map key none)

/-- The same of a store whose operations may fail. A write that fails may leave anything under its
own key, but no other key notices. -/
structure IsFallibleTextMap (Shows : σ → TextMap → Prop) : Prop where
  get {store : σ} {map : TextMap} {key : String} {text : Option String} (h : Shows store map)
    (hok : KeyStore.get store key = .ok text) : text = map key
  set {store : σ} {map : TextMap} (h : Shows store map) (key value : String) :
    ∃ text, Shows (KeyStore.set store key value).2 (Function.update map key text) ∧
      ((KeyStore.set store key value).1 = .ok () → text = some value)
  remove {store : σ} {map : TextMap} (h : Shows store map) (key : String) :
    ∃ text, Shows (KeyStore.remove store key).2 (Function.update map key text) ∧
      ((KeyStore.remove store key).1 = .ok () → text = none)

end

/-! ## Entries -/

namespace Entries

theorem get?_append (entries later : Entries) (k : String) :
    get? (entries ++ later) k = (entries.get? k).or (later.get? k) := by
  unfold get?
  rw [List.find?_append, Option.map_or]

/-- The entries whose keys pass a test. -/
theorem get?_filter (entries : Entries) (p : String → Bool) (k : String) :
    get? (entries.filter fun e => p e.1) k = if p k then entries.get? k else none := by
  unfold get?
  rw [List.find?_filter]
  cases hp : p k with
  | true =>
    have htest : (fun e : String × String => decide (p e.1 = true ∧ decide (e.1 = k) = true)) =
        fun e => decide (e.1 = k) := by
      funext e
      by_cases he : e.1 = k <;> simp [he, hp]
    rw [htest]
    rfl
  | false =>
    have hnone :
        entries.find? (fun e => decide (p e.1 = true ∧ decide (e.1 = k) = true)) = none := by
      refine List.find?_eq_none.mpr fun e _ => ?_
      by_cases he : e.1 = k <;> simp [he, hp]
    rw [hnone]
    rfl

theorem get?_erase (entries : Entries) (key : String) :
    (entries.erase key).get? = Function.update entries.get? key none := by
  funext k
  have herase : entries.erase key = entries.filter fun e => decide (e.1 ≠ key) := rfl
  rw [herase, get?_filter entries (fun s => decide (s ≠ key)), Function.update_apply]
  by_cases hk : k = key <;> simp [hk]

theorem get?_insert (entries : Entries) (key value : String) :
    (entries.insert key value).get? = Function.update entries.get? key (some value) := by
  funext k
  have hinsert : entries.insert key value = (entries.filter fun e => decide (e.1 < key)) ++
      ([(key, value)] ++ entries.filter fun e => decide (key < e.1)) := rfl
  rw [hinsert, get?_append, get?_append, get?_filter entries (fun s => decide (s < key)),
    get?_filter entries (fun s => decide (key < s)), Function.update_apply]
  -- The entry of another key stands before the new one or after it.
  obtain hlt | rfl | hgt := lt_trichotomy k key
  · simp [get?, hlt, hlt.ne, hlt.ne', lt_asymm hlt]
  · simp [get?]
  · simp [get?, hgt, hgt.ne, hgt.ne', lt_asymm hgt]

end Entries

/-! ## The store in memory -/

/-- The store in memory shows its entries. -/
def MemoryStore.Shows (store : MemoryStore) (map : TextMap) : Prop := store.entries.get? = map

theorem MemoryStore.isTextMap : IsTextMap MemoryStore.Shows where
  get {store _} h key := by
    show Except.ok (store.entries.get? key) = _
    rw [← h]
  set {store _} h key value := by
    refine ⟨rfl, ?_⟩
    rw [← h]
    exact store.entries.get?_insert key value
  remove {store _} h key := by
    refine ⟨rfl, ?_⟩
    rw [← h]
    exact store.entries.get?_erase key

end AccessConsole
