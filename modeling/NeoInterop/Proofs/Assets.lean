import NeoInterop.Core.InteropNeo
import NeoInterop.Proofs.Ledger

/-!
# `NeoInterop.Proofs.Assets`: what `assetCreate` stores and what `assetRenew` computes

* `Asset.Valid` is what the spec asks of an asset: a known type, a precision of at most 8,
  a nonzero amount that is the unbounded sentinel `-1` or a whole number of units at that
  precision, the invoice and share rules, a short name and a finite owner key.
  `assetCreate_ok` shows that every asset `assetCreate` stores is valid and passed the
  owner's witness check, and says how its fields come from the arguments: through `int64`
  and `byte`, so the type and the precision are the arguments modulo `2 ^ 8` and the amount
  modulo `2 ^ 64`; the admin and the issuer are the argument bytes, and nothing is available
  yet. `assetCreate_narrows_demo` is an argument list that relies on the narrowing.
* `assetRenew_ok` states the new expiration: the stored one raised to the next block, plus
  `2000000` blocks for each year, clamped to `uint32`, where the number of years is the
  argument modulo `256`. The same value is stored and pushed, and no other field of the
  stored asset changes. `assetRenew_wraps_demo` renews by 256 years, which is 0.
-/

set_option autoImplicit false

namespace NeoInterop

/-! ### Creating an asset -/

/-- What makes an asset well formed. -/
structure Asset.Valid (a : Asset) : Prop where
  assetType_mem : a.assetType = AssetType.currency ∨ a.assetType = AssetType.share ∨
    a.assetType = AssetType.invoice ∨ a.assetType = AssetType.token
  precision_le : a.precision.toNat ≤ maxAssetPrecision
  amount_ne_zero : a.amount ≠ 0
  amount_ge : -1 ≤ a.amount
  invoice_amount : a.assetType = AssetType.invoice → a.amount = -1
  share_precision : a.assetType = AssetType.share → a.precision = 0
  amount_dvd : a.amount ≠ -1 → (10 : Int) ^ (maxAssetPrecision - a.precision.toNat) ∣ a.amount
  name_length : a.name.length ≤ maxAssetNameLen
  owner_finite : a.owner.isInfinity = false

section Create
variable {ic : Context} {v : VM} {r : NeoResult}

/-- A successful `assetCreate` pops seven arguments, and stores and pushes one valid asset,
whose owner passed the witness check. Its type, amount and precision are the first, third and
fourth arguments narrowed by `int64` and `byte`; its admin and issuer are the sixth and
seventh, as given; nothing of it is available yet. -/
theorem assetCreate_ok (h : assetCreate ic v = .ok r) :
    ∃ (x₁ x₂ x₃ x₄ x₅ x₆ x₇ : StackItem) (t amt p : Int) (adm iss : Bytes) (a : Asset),
      v.estack = x₁ :: x₂ :: x₃ :: x₄ :: x₅ :: x₆ :: x₇ :: r.estack ∧
      x₁.bigInt = .ok t ∧ x₂.bytes = .ok a.name ∧ x₃.bigInt = .ok amt ∧ x₄.bigInt = .ok p ∧
      x₆.bytes = .ok adm ∧ x₇.bytes = .ok iss ∧
      a.assetType = byte t ∧ a.amount = int64 amt ∧ a.precision = byte p ∧ a.available = 0 ∧
      a.admin.bytesBE = adm ∧ a.issuer.bytesBE = iss ∧
      a.Valid ∧ ic.checkKeyedWitness a.owner = .ok true ∧
      r.push = some (.interop (.asset a)) ∧ r.dao = ic.dao.putAssetState a := by
  obtain ⟨estack, istack⟩ := v
  simp only [assetCreate, pure_eq_ok, throw_eq_error, ok_bind, error_bind, bind_eq_ok,
    ite_error_eq_ok, Prod.exists, pop_eq_ok, not_not, not_lt, not_and, Bool.not_eq_true',
    Bool.not_eq_eq_eq_not, Bool.not_true, wrapError_eq_ok] at h
  -- one stage per group of checks: a single pattern over the whole chain is several times slower
  -- the type, the name and the amount
  obtain ⟨-, x₁, _, rfl, t, ht, htype, x₂, _, rfl, name, hn, hlen, x₃, _, rfl, amt, hamt, h0, hneg,
    hinv, h⟩ := h
  -- the precision, and the amount's divisibility at that precision
  obtain ⟨x₄, _, rfl, p, hp, hprec, hshare, hdiv, h⟩ := h
  -- the owner and its witness, the admin, the issuer, the script container
  obtain ⟨x₅, _, rfl, ob, -, owner, -, hinf, w, hw, hwok, x₆, _, rfl, adm, hadm, admin, hadmin, x₇,
    _, rfl, iss, hiss, issuer, hissuer, hr⟩ := h
  split at hr <;> cases hr
  refine ⟨x₁, x₂, x₃, x₄, x₅, x₆, x₇, t, amt, p, adm, iss, _, rfl, ht, hn, hamt, hp, hadm, hiss,
    byte_int64 t, rfl, byte_int64 p, rfl, Uint160.bytesBE_of_decode hadmin,
    Uint160.bytesBE_of_decode hissuer,
    ⟨htype, hprec, h0, hneg, hinv, hshare, fun hne => Int.dvd_iff_tmod_eq_zero.mpr (hdiv hne),
      hlen, by simpa using hinf⟩, by simpa [hwok] using hw, rfl, rfl⟩

end Create

/-- A chain at height 100 that asks for `demoHash`'s witness. -/
def assetChain : Blockchain :=
  { emptyLedger with blockHeight := 100, getScriptHashesForVerifying := fun _ => .ok [demoHash] }

/-- Every key decodes to one finite point, and every script hashes to `demoHash`. -/
def assetCrypto : Crypto := ⟨fun _ => demoHash, fun _ => .ok (.point 1 2), fun _ => .ok [0xac]⟩

/-- An application execution of a transaction, over `assetChain`, with no assets yet. -/
def assetContext : Context :=
  ⟨assetChain, 0x10, some ⟨zeroHash, [], []⟩, { assets := fun _ => none }, assetCrypto⟩

/-- Type `0x108`, amount `2 ^ 64 + 10 ^ 8` and precision `256`: none is a valid value. -/
def narrowedArgs : List StackItem :=
  [.bigInteger 0x108, .byteArray [0x41], .bigInteger (2 ^ 64 + 100000000), .bigInteger 256,
    .byteArray [2], .byteArray (List.replicate 20 0), .byteArray (List.replicate 20 0)]

/-- `assetCreate` accepts `narrowedArgs`, and the asset it stores has type `Currency`
(`0x08`), amount `10 ^ 8` and precision `0`. -/
theorem assetCreate_narrows_demo :
    ∃ r a, assetCreate assetContext ⟨narrowedArgs, []⟩ = .ok r ∧
      r.push = some (.interop (.asset a)) ∧
      a.assetType = AssetType.currency ∧ a.amount = 100000000 ∧ a.precision = 0 :=
  ⟨_, _, rfl, rfl, rfl, rfl, rfl⟩

/-! ### Renewing an asset -/

/-- The expiration the spec asks of a renewal: raised to the next block, `years` years added,
clamped to `uint32`. -/
def renewedExpiration (e h : UInt32) (years : Nat) : Nat :=
  min (max e.toNat (h.toNat + 1) + blocksPerYear * years) maxUint32

section Renew
variable {ic : Context} {v : VM} {r : NeoResult}

/-- The code's expiration is `renewedExpiration` with the years narrowed to a byte, as long
as the next block's height fits in `uint32`. -/
theorem renewal_eq (e h : UInt32) (n : Int) (hh : h.toNat < maxUint32) :
    (if (if e < h + 1 then h + 1 else e).toNat + (byte (int64 n)).toNat * blocksPerYear >
        maxUint32 then maxUint32
      else (if e < h + 1 then h + 1 else e).toNat + (byte (int64 n)).toNat * blocksPerYear) =
      renewedExpiration e h (n % 256).toNat := by
  have h1 : (h + 1).toNat = h.toNat + 1 := by
    rw [uint32_toNat_add, show (1 : UInt32).toNat = 1 from rfl]
    exact Nat.mod_eq_of_lt (by unfold maxUint32 at hh; omega)
  have hraised : (if e < h + 1 then h + 1 else e).toNat = max e.toNat (h.toNat + 1) := by
    split_ifs with hlt <;> rw [uint32_lt_iff, h1] at hlt <;> omega
  rw [hraised, byte_int64, byte_toNat]
  simp only [renewedExpiration, blocksPerYear, maxUint32, Nat.min_def, Nat.max_def]
  split_ifs <;> omega

/-- A successful `assetRenew` reads the asset again by its ID, and stores and pushes the same
new expiration `e`: `renewedExpiration` of the stored one, with the years argument modulo
`256`. No other field of the stored asset changes. -/
theorem assetRenew_ok (hh : ic.chain.blockHeight.toNat < maxUint32)
    (h : assetRenew ic v = .ok r) :
    ∃ (as : Asset) (y : StackItem) (n : Int) (asset : Asset) (e : Nat),
      v.estack = .interop (.asset as) :: y :: r.estack ∧ y.bigInt = .ok n ∧
      ic.dao.getAssetState as.id = .ok asset ∧
      e = renewedExpiration asset.expiration ic.chain.blockHeight (n % 256).toNat ∧
      r.push = some (.bigInteger e) ∧
      r.dao = ic.dao.putAssetState { asset with expiration := UInt32.ofNat e } := by
  obtain ⟨estack, istack⟩ := v
  simp only [assetRenew, pure_eq_ok, throw_eq_error, ok_bind, error_bind, bind_eq_ok,
    ite_error_eq_ok, Prod.exists, pop_eq_ok, not_not, mapError_eq_ok,
    StackItem.asAsset_eq_ok] at h
  obtain ⟨-, _, _, rfl, as, rfl, y, _, rfl, n, hn, asset, ha, hr⟩ := h
  cases hr
  exact ⟨as, y, n, asset, _, rfl, hn, ha, renewal_eq _ _ n hh, rfl, rfl⟩

end Renew

/-- An asset expiring at block 5000000, stored under `zeroHash`. -/
def demoAsset : Asset :=
  ⟨zeroHash, AssetType.token, [0x41], 100000000, 0, 0, .point 1 2, demoHash, demoHash, 5000000,
    false⟩

/-- `assetContext` with `demoAsset` stored. -/
def renewContext : Context := { assetContext with dao := { assets := fun _ => some demoAsset } }

/-- `assetRenew` by 256 years succeeds and leaves the expiration where it was, as a renewal
by 0 years does. -/
theorem assetRenew_wraps_demo :
    ∃ r, assetRenew renewContext ⟨[.interop (.asset demoAsset), .bigInteger 256], []⟩ = .ok r ∧
      r.push = some (.bigInteger 5000000) := by
  obtain ⟨r, hr⟩ : ∃ r, assetRenew renewContext
      ⟨[.interop (.asset demoAsset), .bigInteger 256], []⟩ = .ok r := ⟨_, rfl⟩
  -- `assetRenew_ok` pushes `renewedExpiration` for `256 % 256 = 0` years
  obtain ⟨as, y, n, asset, e, he, hn, ha, rfl, hpush, -⟩ := assetRenew_ok (by decide) hr
  simp only [List.cons.injEq, StackItem.interop.injEq, InteropValue.asset.injEq] at he
  obtain ⟨rfl, rfl, -⟩ := he
  cases hn
  cases ha
  exact ⟨r, hr, hpush⟩

end NeoInterop
