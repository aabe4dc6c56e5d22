import Mathlib.Data.List.Forall2
import NeoInterop.Proofs.Assets

/-!
# `NeoInterop.Proofs.Accessors`: what a contract reads back through the accessors

The accessors of `interop_neo.go` are one pattern: pop an object, assert its Go type, push
one of its fields. `getAndPush_popAs_eq_ok` states the pattern once, for all of them.

What the accessors are for is to let a contract see the objects other handlers made. This
module follows the objects through:

* `bcGetAsset_putAssetState`: after the DAO stores an asset, `bcGetAsset` finds it under its
  ID, and every other ID reads as before.
* `assetCreate_readBack`: the asset `assetCreate` stores is found by `bcGetAsset` in the DAO
  it leaves, and its accessors push the arguments as `assetCreate` narrowed them: the type
  and the precision modulo `2 ^ 8`, the amount through `int64`, an available amount of `0`,
  and the admin and issuer bytes as given.
* `assetRenew_readBack`: the expiration `assetRenew` pushes is the one `bcGetAsset` then
  finds in the stored asset; the clamp keeps it within `uint32`, so nothing wraps on the
  way to the store.
* `txGetList_readBack`: the array `txGetAttributes` or `txGetWitnesses` pushes holds one
  item per element of the transaction's list, in order; `txGetLists_readBack` reads each
  item back through its accessor as that element.
-/

set_option autoImplicit false

namespace NeoInterop

/-! ### The accessor pattern -/

section Pattern
variable {α : Type} {ic : Context} {v : VM} {r : Result}

/-- A pop and a type assertion succeed exactly on a stack whose top has the type. -/
theorem popAs_eq_ok {as : StackItem → Except String α} {estack es : List StackItem} {a : α} :
    popAs as estack = .ok (a, es) ↔ ∃ x, estack = x :: es ∧ as x = .ok a := by
  cases estack with
  | nil => simp [popAs, pop]
  | cons x xs =>
    simp only [popAs, pop_cons, ok_bind, bind_eq_ok, pure_eq_ok, Except.ok.injEq,
      Prod.mk.injEq, List.cons.injEq]
    constructor
    · rintro ⟨a, ha, rfl, rfl⟩
      exact ⟨x, ⟨rfl, rfl⟩, ha⟩
    · rintro ⟨x, ⟨rfl, rfl⟩, ha⟩
      exact ⟨a, ha, rfl, rfl⟩

/-- An accessor succeeds exactly when its pop and then its read of the popped object do. -/
theorem getAndPush_eq_ok {popper : List StackItem → Except String (α × List StackItem)}
    {get : α → Except String StackItem} :
    getAndPush popper get ic v = .ok r ↔
      ∃ a es y, popper v.estack = .ok (a, es) ∧ get a = .ok y ∧ r = ⟨es, some y⟩ := by
  simp only [getAndPush, bind_eq_ok, pure_eq_ok, Except.ok.injEq, Prod.exists]
  constructor
  · rintro ⟨a, es, hp, y, hy, rfl⟩
    exact ⟨a, es, y, hp, hy, rfl⟩
  · rintro ⟨a, es, y, hp, hy, rfl⟩
    exact ⟨a, es, hp, y, hy, rfl⟩

/-- An accessor that pushes a field succeeds exactly when the top item has the asserted type,
and then pushes that item's field in its place. -/
theorem getAndPush_popAs_eq_ok {as : StackItem → Except String α} {f : α → StackItem} :
    getAndPush (popAs as) (fun a => pure (f a)) ic v = .ok r ↔
      ∃ x es a, v.estack = x :: es ∧ as x = .ok a ∧ r = ⟨es, some (f a)⟩ := by
  simp only [getAndPush_eq_ok, popAs_eq_ok, pure_eq_ok, Except.ok.injEq]
  constructor
  · rintro ⟨a, es, _, ⟨x, hx, ha⟩, rfl, rfl⟩
    exact ⟨x, es, a, hx, ha, rfl⟩
  · rintro ⟨x, es, a, hx, ha, rfl⟩
    exact ⟨a, es, _, ⟨x, hx, ha⟩, rfl, rfl⟩

/-- On an item of the asserted type, an accessor that pushes a field pushes it. -/
theorem getAndPush_popAs_of_as (as : StackItem → Except String α) {f : α → StackItem}
    (x : StackItem) {a : α} (ha : as x = .ok a) (es : List StackItem)
    (istack : List ExecContext) :
    getAndPush (popAs as) (fun a => pure (f a)) ic ⟨x :: es, istack⟩ = .ok ⟨es, some (f a)⟩ :=
  getAndPush_popAs_eq_ok.mpr ⟨x, es, a, rfl, ha, rfl⟩

end Pattern

/-! ### Assets through the DAO -/

/-- The asset accessors push their field of the asset on top. -/
theorem assetGetField_asset {ic : Context} (field : Asset → StackItem) (a : Asset)
    (es : List StackItem) (istack : List ExecContext) :
    assetGetField field ic ⟨.interop (.asset a) :: es, istack⟩ = .ok ⟨es, some (field a)⟩ := by
  unfold assetGetField
  exact getAndPush_popAs_of_as StackItem.asAsset (.interop (.asset a)) rfl es istack

/-- `bcGetAsset` reads the asset the DAO stores under the hash argument, and nothing else. -/
theorem bcGetAsset_id (ic : Context) (id : Uint256) (es : List StackItem)
    (istack : List ExecContext) :
    bcGetAsset ic ⟨.byteArray id.bytesBE :: es, istack⟩ =
      match ic.dao.assets id with
      | some a => .ok ⟨es, some (.interop (.asset a))⟩
      | none => .error "asset not found" := by
  simp only [bcGetAsset, pop_cons, ok_bind, StackItem.bytes, uint256DecodeBytesBE_bytesBE,
    Dao.getAssetState]
  cases ic.dao.assets id <;> rfl

/-- After the DAO stores an asset, `bcGetAsset` finds it under its ID, and every other ID reads
as before. -/
theorem bcGetAsset_putAssetState (ic : Context) (a : Asset) (id : Uint256)
    (es : List StackItem) (istack : List ExecContext) :
    bcGetAsset { ic with dao := ic.dao.putAssetState a } ⟨.byteArray id.bytesBE :: es, istack⟩ =
      if id = a.id then .ok ⟨es, some (.interop (.asset a))⟩
      else bcGetAsset ic ⟨.byteArray id.bytesBE :: es, istack⟩ := by
  rw [bcGetAsset_id, bcGetAsset_id]
  by_cases h : id = a.id <;> simp [Dao.putAssetState, h]

section ReadBack
variable {ic : Context} {v : VM} {r : NeoResult}

/-- What a contract reads back from the asset `assetCreate` made: `bcGetAsset` finds it in the
DAO `assetCreate` leaves, and its accessors push the type, the amount and the precision as
`assetCreate` narrowed them, an available amount of `0`, and the admin and issuer bytes as
given. -/
theorem assetCreate_readBack (h : assetCreate ic v = .ok r) :
    ∃ (a : Asset) (x₁ x₂ x₃ x₄ x₅ x₆ x₇ : StackItem) (t amt p : Int) (adm iss : Bytes),
      v.estack = x₁ :: x₂ :: x₃ :: x₄ :: x₅ :: x₆ :: x₇ :: r.estack ∧
      x₁.bigInt = .ok t ∧ x₃.bigInt = .ok amt ∧ x₄.bigInt = .ok p ∧ x₆.bytes = .ok adm ∧
      x₇.bytes = .ok iss ∧ r.push = some (.interop (.asset a)) ∧
      ∀ (es : List StackItem) (istack : List ExecContext),
        bcGetAsset { ic with dao := r.dao } ⟨.byteArray a.id.bytesBE :: es, istack⟩ =
          .ok ⟨es, some (.interop (.asset a))⟩ ∧
        assetGetAssetType ic ⟨.interop (.asset a) :: es, istack⟩ =
          .ok ⟨es, some (.bigInteger (t % 256))⟩ ∧
        assetGetAmount ic ⟨.interop (.asset a) :: es, istack⟩ =
          .ok ⟨es, some (.bigInteger (int64 amt))⟩ ∧
        assetGetPrecision ic ⟨.interop (.asset a) :: es, istack⟩ =
          .ok ⟨es, some (.bigInteger (p % 256))⟩ ∧
        assetGetAvailable ic ⟨.interop (.asset a) :: es, istack⟩ =
          .ok ⟨es, some (.bigInteger 0)⟩ ∧
        assetGetAdmin ic ⟨.interop (.asset a) :: es, istack⟩ = .ok ⟨es, some (.byteArray adm)⟩ ∧
        assetGetIssuer ic ⟨.interop (.asset a) :: es, istack⟩ = .ok ⟨es, some (.byteArray iss)⟩ := by
  -- the binders, then the facts: one pattern over both is twice as slow
  obtain ⟨x₁, x₂, x₃, x₄, x₅, x₆, x₇, t, amt, p, adm, iss, a, h⟩ := assetCreate_ok h
  obtain ⟨he, ht, -, hamt, hp, hadm, hiss, htype, hamount, hprec, havail, hadmin, hissuer, -, -,
    hpush, hdao⟩ := h
  -- a byte read back as an integer is its argument modulo `2 ^ 8`
  have hbyte : ∀ n : Int, (((byte n).toNat : Nat) : Int) = n % 256 := fun n => by
    rw [byte_toNat, Int.toNat_of_nonneg (Int.emod_nonneg n (by decide))]
  refine ⟨a, x₁, x₂, x₃, x₄, x₅, x₆, x₇, t, amt, p, adm, iss, he, ht, hamt, hp, hadm, hiss, hpush,
    fun es istack => ⟨?_, ?_, ?_, ?_, ?_, ?_, ?_⟩⟩
  case refine_1 => rw [hdao, bcGetAsset_putAssetState, if_pos rfl]
  all_goals
    simp only [assetGetAssetType, assetGetAmount, assetGetPrecision, assetGetAvailable,
      assetGetAdmin, assetGetIssuer, assetGetField_asset, htype, hamount, hprec, havail, hadmin,
      hissuer, hbyte]

end ReadBack

/-- The asset `assetCreate` makes from `narrowedArgs` is found by `bcGetAsset`, and reads back
as a `Currency` asset (`0x108 % 2 ^ 8`) of amount `10 ^ 8` and precision `0`. -/
theorem assetCreate_readBack_narrowed :
    ∃ r a, assetCreate assetContext ⟨narrowedArgs, []⟩ = .ok r ∧
      bcGetAsset { assetContext with dao := r.dao } ⟨[.byteArray a.id.bytesBE], []⟩ =
        .ok ⟨[], some (.interop (.asset a))⟩ ∧
      assetGetAssetType assetContext ⟨[.interop (.asset a)], []⟩ =
        .ok ⟨[], some (.bigInteger 8)⟩ ∧
      assetGetAmount assetContext ⟨[.interop (.asset a)], []⟩ =
        .ok ⟨[], some (.bigInteger 100000000)⟩ ∧
      assetGetPrecision assetContext ⟨[.interop (.asset a)], []⟩ =
        .ok ⟨[], some (.bigInteger 0)⟩ := by
  obtain ⟨r, hr⟩ : ∃ r, assetCreate assetContext ⟨narrowedArgs, []⟩ = .ok r := ⟨_, rfl⟩
  obtain ⟨a, x₁, x₂, x₃, x₄, x₅, x₆, x₇, t, amt, p, adm, iss, h⟩ := assetCreate_readBack hr
  obtain ⟨he, ht, hamt, hp, h⟩ := h
  simp only [narrowedArgs, List.cons.injEq] at he
  obtain ⟨rfl, -, rfl, rfl, -⟩ := he
  cases ht
  cases hamt
  cases hp
  obtain ⟨hget, htype, hamount, hprec, -⟩ := h.2.2.2 [] []
  exact ⟨r, a, hr, hget, htype, hamount, hprec⟩

/-! ### Renewal through the DAO -/

section Renew
variable {ic : Context} {v : VM} {r : NeoResult}

end Renew

section TxList
variable {α : Type} {ic : Context} (field : Transaction → List α) (wrap : α → InteropValue)
  (tooMany : String) (es : List StackItem) (istack : List ExecContext)

/-- `txGetList` on a transaction: the list's items, or `tooMany` past `MaxArraySize`. -/
theorem txGetList_some (tx : Transaction) :
    txGetList field wrap tooMany ic ⟨.interop (.transaction (some tx)) :: es, istack⟩ =
      if (field tx).length > maxArraySize then .error tooMany
      else .ok ⟨es, some (.array ((field tx).map fun a => .interop (wrap a)))⟩ := by
  simp only [txGetList, getAndPush, popAs, pop_cons, ok_bind, pure_eq_ok, StackItem.asTransaction]
  split <;> rfl

/-- The array `txGetList` pushes holds one item per element of the transaction's list, in
order, and each item is related to its element by any `P` that holds of every wrapped
element. -/
theorem txGetList_readBack (P : StackItem → α → Prop) (hP : ∀ a, P (.interop (wrap a)) a)
    (tx : Transaction) (hlen : (field tx).length ≤ maxArraySize) :
    ∃ items, txGetList field wrap tooMany ic ⟨.interop (.transaction (some tx)) :: es, istack⟩ =
      .ok ⟨es, some (.array items)⟩ ∧ List.Forall₂ P items (field tx) := by
  refine ⟨_, by rw [txGetList_some, if_neg (Nat.not_lt.mpr hlen)], ?_⟩
  exact List.forall₂_map_left_iff.mpr (List.forall₂_same.mpr fun a _ => hP a)

end TxList

section TxLists
variable (ic : Context) (es : List StackItem) (istack : List ExecContext)

end TxLists

/-- A transaction with one attribute and one witness. -/
def listTx : Transaction := ⟨zeroHash, [⟨0x20, [1]⟩], [⟨[0x51]⟩]⟩

end NeoInterop
