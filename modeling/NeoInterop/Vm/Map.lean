import Mathlib.Data.List.Sort
import NeoInterop.Vm.StackItem

/-!
# `NeoInterop.Vm.Map`: map items, `bytes.Compare` and `sort.Slice`

`storageFind` builds a VM map item with `(*MapItem).Add`, one entry per storage item, sorts
the entries with `sort.Slice` by `bytes.Compare` of their keys, and pushes an iterator over
them. The three are absent from the sources and modelled here.

* `bytesCompare` is `bytes.Compare`, the byte-lexicographic order in which a proper prefix
  comes first. `bytesCompare_swap`, `bytesCompare_eq_zero` and `bytesCompare_le_trans` make
  it a total order.
* `mapAdd` is `(*MapItem).Add`: it replaces the value of a key the map has, else appends.
* `sortSlice` is `sort.Slice` with a `less` function. Go's sort is not stable and the model
  sorts by insertion; `sortSlice_pairwise` states what both give for a strict weak order,
  and on distinct keys that order is unique.
-/

set_option autoImplicit false

namespace NeoInterop

/-! ### `bytes.Compare` -/

theorem uint8_lt_iff {a b : UInt8} : a < b ↔ a.toNat < b.toNat := by
  simp only [UInt8.lt_def, BitVec.lt_def]; rfl

theorem uint8_eq_iff {a b : UInt8} : a = b ↔ a.toNat = b.toNat :=
  ⟨congrArg _, UInt8.toNat.inj⟩

/-- Modelled from the spec: `bytes.Compare`, `-1`, `0` or `1` as `a` is before, equal to or
after `b` in byte-lexicographic order, a proper prefix first. -/
def bytesCompare : Bytes → Bytes → Int
  | [], [] => 0
  | [], _ :: _ => -1
  | _ :: _, [] => 1
  | x :: xs, y :: ys => if x < y then -1 else if y < x then 1 else bytesCompare xs ys

theorem bytesCompare_cases (a b : Bytes) :
    bytesCompare a b = -1 ∨ bytesCompare a b = 0 ∨ bytesCompare a b = 1 := by
  induction a generalizing b with
  | nil => cases b <;> simp [bytesCompare]
  | cons x xs ih =>
    cases b with
    | nil => simp [bytesCompare]
    | cons y ys =>
      simp only [bytesCompare]
      split_ifs
      · exact .inl rfl
      · exact .inr (.inr rfl)
      · exact ih ys

theorem bytesCompare_swap (a b : Bytes) : bytesCompare b a = -bytesCompare a b := by
  induction a generalizing b with
  | nil => cases b <;> rfl
  | cons x xs ih =>
    cases b with
    | nil => rfl
    | cons y ys =>
      simp only [bytesCompare, uint8_lt_iff]
      split_ifs <;> first | omega | exact ih ys

theorem bytesCompare_eq_zero {a b : Bytes} : bytesCompare a b = 0 ↔ a = b := by
  induction a generalizing b with
  | nil => cases b <;> simp [bytesCompare]
  | cons x xs ih =>
    cases b with
    | nil => simp [bytesCompare]
    | cons y ys =>
      simp only [bytesCompare, List.cons.injEq, ← ih, uint8_eq_iff, uint8_lt_iff]
      split_ifs
      · exact iff_of_false (by simp) fun h => by omega
      · exact iff_of_false (by decide) fun h => by omega
      · exact ⟨fun h => ⟨by omega, h⟩, And.right⟩

/-- One array is not after another when its first byte is smaller, or the first bytes are
equal and the rest is not after. -/
theorem bytesCompare_cons_ne_one {x y : UInt8} {xs ys : Bytes} :
    bytesCompare (x :: xs) (y :: ys) ≠ 1 ↔
      x.toNat < y.toNat ∨ x.toNat = y.toNat ∧ bytesCompare xs ys ≠ 1 := by
  simp only [bytesCompare, uint8_lt_iff]
  split_ifs <;> omega

/-- "Not after" is transitive. -/
theorem bytesCompare_le_trans {a b c : Bytes} (hab : bytesCompare a b ≠ 1)
    (hbc : bytesCompare b c ≠ 1) : bytesCompare a c ≠ 1 := by
  induction a generalizing b c with
  | nil => cases c <;> simp [bytesCompare]
  | cons x xs ih =>
    cases b with
    | nil => simp [bytesCompare] at hab
    | cons y ys =>
      cases c with
      | nil => simp [bytesCompare] at hbc
      | cons z zs =>
        rw [bytesCompare_cons_ne_one] at hab hbc ⊢
        rcases hab with hxy | ⟨hxy, hab⟩ <;> rcases hbc with hyz | ⟨hyz, hbc⟩
        · exact .inl (by omega)
        · exact .inl (by omega)
        · exact .inl (by omega)
        · exact .inr ⟨by omega, ih hab hbc⟩

/-! ### `(*MapItem).Add` -/

/-- Modelled from the spec: `(*MapItem).Add` on a map item whose keys and values are byte
arrays. A key the map has gets the new value in place; a new key is appended. -/
def mapAdd (m : List (Bytes × Bytes)) (k v : Bytes) : List (Bytes × Bytes) :=
  if k ∈ m.map Prod.fst then m.map fun e => if e.1 = k then (k, v) else e else m ++ [(k, v)]

theorem mapAdd_of_not_mem {m : List (Bytes × Bytes)} {k : Bytes} (h : k ∉ m.map Prod.fst)
    (v : Bytes) : mapAdd m k v = m ++ [(k, v)] :=
  if_neg h

/-! ### `sort.Slice` -/

/-- Modelled from the spec: `sort.Slice` with the comparison `less`, as an insertion sort:
an element goes before the first one it is not after. -/
def sortSlice {α : Type} (less : α → α → Bool) (l : List α) : List α :=
  l.insertionSort fun a b => less b a = false

theorem sortSlice_perm {α : Type} (less : α → α → Bool) (l : List α) :
    (sortSlice less l).Perm l :=
  List.perm_insertionSort _ l

/-- For a strict weak order `less`, no element of the sorted list is after a later one. -/
theorem sortSlice_pairwise {α : Type} (less : α → α → Bool)
    (asymm : ∀ a b, less a b = true → less b a = false)
    (negTrans : ∀ a b c, less b a = false → less c b = false → less c a = false)
    (l : List α) : (sortSlice less l).Pairwise fun a b => less b a = false := by
  haveI : IsTotal α fun a b => less b a = false :=
    ⟨fun a b => (Bool.eq_false_or_eq_true (less b a)).symm.imp_right (asymm _ _)⟩
  haveI : IsTrans α fun a b => less b a = false := ⟨negTrans⟩
  exact List.sorted_insertionSort _ l

end NeoInterop
