import NeoInterop.Core.Dao
import NeoInterop.Core.InteropSystem

/-!
# `NeoInterop.Core.InteropNeo`: the asset handlers and accessors of `interop_neo.go`

The newer handlers run against an `interop.Context`: the chain, the trigger, the script
container, and a DAO that takes the writes of the execution (`NeoInterop.Core.Dao`).

`assetCreate` pops seven arguments and checks them in a fixed order; `assetRenew` pops an
asset and a number of years and moves the asset's expiration. Both narrow integers on the
way in as Go does: `BigInt().Int64()` keeps the low 64 bits (`int64`), and the conversions
to `transaction.AssetType` and `byte` keep the low 8 bits (`byte`).

The accessors pop an object, assert its Go type and push one of its fields. They are one
definition, `getAndPush`, and each accessor is it applied to its own assertion and field.
-/

set_option autoImplicit false

namespace NeoInterop

/-! ### Constants -/

/-- `MaxAssetNameLen`. -/
def maxAssetNameLen : Nat := 1024

/-- `MaxAssetPrecision`. -/
def maxAssetPrecision : Nat := 8

/-- `BlocksPerYear`. -/
def blocksPerYear : Nat := 2000000

/-- `DefaultAssetLifetime`, the lifetime of an asset `assetCreate` creates. -/
def defaultAssetLifetime : Nat := 1 + blocksPerYear

/-! ### The context -/

/-- `interop.Context`, with the fields the asset handlers read. -/
structure Context where
  chain : Blockchain
  trigger : UInt8
  tx : Option Transaction
  dao : Dao
  crypto : Crypto

/-- What a handler of this file leaves: the DAO, the evaluation stack after its pops, and
the value it pushes. -/
structure NeoResult where
  dao : Dao
  estack : List StackItem
  push : Option StackItem

/-- Modelled from the spec: `runtime.CheckKeyedWitness` is absent from the sources. The
hash of the key's single-signature script, looked up among the script hashes the chain
requires to verify the container (spec §4.3). -/
def Context.checkKeyedWitness (ic : Context) (key : PublicKey) : Except String Bool :=
  match ic.crypto.createSignatureRedeemScript key with
  | .error e => .error ("failed to create signature script for a key: " ++ e)
  | .ok script =>
    match ic.chain.getScriptHashesForVerifying ic.tx with
    | .error e => .error ("failed to get script hashes: " ++ e)
    | .ok hashes => .ok (hashes.contains (ic.crypto.hash160 script))

/-! ### Assets -/

/-- Go's `%x` of a byte: lowercase hex digits, no leading zeros. -/
def hexByte (b : UInt8) : String := String.mk (Nat.toDigits 16 b.toNat)

/-- `assetCreate`: type, name, amount, precision, owner key, admin and issuer, popped in that
order and checked as they come; the asset gets the transaction's hash as its ID and the
default lifetime. -/
def assetCreate (ic : Context) (v : VM) : Except String NeoResult := do
  if ic.trigger ≠ Trigger.application then
    throw "can't create asset when not triggered by an application"
  let (x, es) ← pop v.estack
  let atype := byte (int64 (← x.bigInt))
  if ¬(atype = AssetType.currency ∨ atype = AssetType.share ∨ atype = AssetType.invoice ∨
      atype = AssetType.token) then
    throw s!"wrong asset type: {hexByte atype}"
  let (x, es) ← pop es
  let name ← x.bytes
  if name.length > maxAssetNameLen then throw "too big name"
  let (x, es) ← pop es
  let amount := int64 (← x.bigInt)
  if amount = 0 then throw "asset amount can't be zero"
  if amount < -1 then throw "asset amount can't be negative (except special -Satoshi value"
  if atype = AssetType.invoice ∧ amount ≠ -1 then
    throw "invoice assets can only have -Satoshi amount"
  let (x, es) ← pop es
  let precision := byte (int64 (← x.bigInt))
  if precision.toNat > maxAssetPrecision then
    throw s!"can't have asset precision of more than {maxAssetPrecision}"
  if atype = AssetType.share ∧ precision ≠ 0 then
    throw "share assets can only have zero precision"
  if amount ≠ -1 ∧ amount.tmod (10 ^ (maxAssetPrecision - precision.toNat)) ≠ 0 then
    throw "given asset amount has fractional component"
  let (x, es) ← pop es
  let owner ← wrapError "failed to get owner key" (ic.crypto.decodePublicKey (← x.bytes))
  if owner.isInfinity then throw "can't have infinity as an owner key"
  let witnessOk ← ic.checkKeyedWitness owner
  if !witnessOk then throw "witness check didn't succeed"
  let (x, es) ← pop es
  let admin ← wrapError "failed to get admin" (uint160DecodeBytesBE (← x.bytes))
  let (x, es) ← pop es
  let issuer ← wrapError "failed to get issuer" (uint160DecodeBytesBE (← x.bytes))
  let tx ← match ic.tx with
    | some tx => pure tx
    | none => throw nilDereference
  let asset : Asset :=
    { id := tx.hash, assetType := atype, name, amount, available := 0, precision, owner, admin,
      issuer, expiration := ic.chain.blockHeight + UInt32.ofNat defaultAssetLifetime,
      isFrozen := false }
  pure ⟨ic.dao.putAssetState asset, es, some (.interop (.asset asset))⟩

/-- `asInterface.(*state.Asset)` with its error. The error prints the type of the failed
assertion's result, always `*state.Asset`. -/
def StackItem.asAsset : StackItem → Except String Asset
  | .interop (.asset a) => .ok a
  | _ => .error "*state.Asset is not an asset state"

theorem StackItem.asAsset_eq_ok {x : StackItem} {a : Asset} :
    x.asAsset = .ok a ↔ x = .interop (.asset a) := by
  unfold StackItem.asAsset
  split
  · simp
  · simp_all

/-- `assetRenew`: the asset is read again from the DAO by its ID; an expiration in the past
is first raised to the next block, then `years` years are added, clamped to `uint32`. The
trigger error repeats the text of `assetCreate`'s. The source writes the raised expiration
into the asset before it adds the years; only the final value is stored. -/
def assetRenew (ic : Context) (v : VM) : Except String NeoResult := do
  if ic.trigger ≠ Trigger.application then
    throw "can't create asset when not triggered by an application"
  let (x, es) ← pop v.estack
  let as ← x.asAsset
  let (y, es) ← pop es
  let years := byte (int64 (← y.bigInt))
  let asset ← (ic.dao.getAssetState as.id).mapError fun _ => "can't renew non-existent asset"
  let raised := if asset.expiration < ic.chain.blockHeight + 1 then ic.chain.blockHeight + 1
    else asset.expiration
  let expiration := raised.toNat + years.toNat * blocksPerYear
  let expiration := if expiration > maxUint32 then maxUint32 else expiration
  pure ⟨ic.dao.putAssetState { asset with expiration := UInt32.ofNat expiration }, es,
    some (.bigInteger expiration)⟩

/-! ### Accessors -/

/-- A pop and a type assertion on the popped value, `v.Estack().Pop().Value().(T)`. -/
def popAs {α : Type} (as : StackItem → Except String α) (estack : List StackItem) :
    Except String (α × List StackItem) := do
  let (x, es) ← pop estack
  pure (← as x, es)

/-- The accessors of this file: take an object off the stack with `popper`, and push what `get`
reads from it or fail with `get`'s error. None of them reads the context. -/
def getAndPush {α : Type} (popper : List StackItem → Except String (α × List StackItem))
    (get : α → Except String StackItem) (_ic : Context) (v : VM) : Except String Result := do
  let (a, es) ← popper v.estack
  pure ⟨es, some (← get a)⟩

/-- `headerGetVersion`. -/
def headerGetVersion : Context → VM → Except String Result :=
  getAndPush popHeaderFromVM fun h => pure (.bigInteger h.version.toNat)

/-- `headerGetMerkleRoot`. -/
def headerGetMerkleRoot : Context → VM → Except String Result :=
  getAndPush popHeaderFromVM fun h => pure (.byteArray h.merkleRoot.bytesBE)

/-- `headerGetNextConsensus`. -/
def headerGetNextConsensus : Context → VM → Except String Result :=
  getAndPush popHeaderFromVM fun h => pure (.byteArray h.nextConsensus.bytesBE)

/-- `txInterface.(*transaction.Transaction)`. A nil transaction passes the assertion. -/
def StackItem.asTransaction : StackItem → Except String (Option Transaction)
  | .interop (.transaction tx) => .ok tx
  | _ => .error "value is not a transaction"

/-- `txGetAttributes` and `txGetWitnesses`: one interop item for each element of a list field
of the transaction, if there are at most `MaxArraySize`. A nil transaction panics on the
field. -/
def txGetList {α : Type} (field : Transaction → List α) (wrap : α → InteropValue)
    (tooMany : String) : Context → VM → Except String Result :=
  getAndPush (popAs StackItem.asTransaction) fun
    | none => throw nilDereference
    | some tx =>
      if (field tx).length > maxArraySize then throw tooMany
      else pure (.array ((field tx).map fun a => .interop (wrap a)))

/-- `txGetAttributes`. -/
def txGetAttributes : Context → VM → Except String Result :=
  txGetList Transaction.attributes InteropValue.attribute "too many attributes"

/-- `txGetWitnesses`. Its error speaks of outputs. -/
def txGetWitnesses : Context → VM → Except String Result :=
  txGetList Transaction.scripts InteropValue.witness "too many outputs"

/-- `witInterface.(*transaction.Witness)`. -/
def StackItem.asWitness : StackItem → Except String Witness
  | .interop (.witness w) => .ok w
  | _ => .error "value is not a witness"

/-- `witnessGetVerificationScript`: a copy of the script, so the same bytes. -/
def witnessGetVerificationScript : Context → VM → Except String Result :=
  getAndPush (popAs StackItem.asWitness) fun w => pure (.byteArray w.verificationScript)

/-- `attrInterface.(*transaction.Attribute)`, with the `%T` of the failed assertion's
result. -/
def StackItem.asAttribute : StackItem → Except String Attribute
  | .interop (.attribute a) => .ok a
  | _ => .error "*transaction.Attribute is not an attribute"

/-- `attrGetData`. -/
def attrGetData : Context → VM → Except String Result :=
  getAndPush (popAs StackItem.asAttribute) fun a => pure (.byteArray a.data)

/-- `attrGetUsage`. -/
def attrGetUsage : Context → VM → Except String Result :=
  getAndPush (popAs StackItem.asAttribute) fun a => pure (.bigInteger a.usage.toNat)

/-- `csInterface.(*state.Contract)`, with the `%T` of the failed assertion's result. -/
def StackItem.asContract : StackItem → Except String ContractState
  | .interop (.contract cs) => .ok cs
  | _ => .error "*state.Contract is not a contract state"

/-- `contractGetScript`. -/
def contractGetScript : Context → VM → Except String Result :=
  getAndPush (popAs StackItem.asContract) fun cs => pure (.byteArray cs.script)

/-- `contractIsPayable`. -/
def contractIsPayable : Context → VM → Except String Result :=
  getAndPush (popAs StackItem.asContract) fun cs => pure (.bool cs.isPayable)

/-- The asset accessors: pop an asset and push one of its fields. -/
def assetGetField (field : Asset → StackItem) : Context → VM → Except String Result :=
  getAndPush (popAs StackItem.asAsset) fun as => pure (field as)

/-- `assetGetAdmin`. -/
def assetGetAdmin : Context → VM → Except String Result :=
  assetGetField fun as => .byteArray as.admin.bytesBE

/-- `assetGetAmount`. -/
def assetGetAmount : Context → VM → Except String Result :=
  assetGetField fun as => .bigInteger as.amount

/-- `assetGetAssetID`. -/
def assetGetAssetID : Context → VM → Except String Result :=
  assetGetField fun as => .byteArray as.id.bytesBE

/-- `assetGetAssetType`. -/
def assetGetAssetType : Context → VM → Except String Result :=
  assetGetField fun as => .bigInteger as.assetType.toNat

/-- `assetGetAvailable`. -/
def assetGetAvailable : Context → VM → Except String Result :=
  assetGetField fun as => .bigInteger as.available

/-- `assetGetIssuer`. -/
def assetGetIssuer : Context → VM → Except String Result :=
  assetGetField fun as => .byteArray as.issuer.bytesBE

/-- `assetGetPrecision`. -/
def assetGetPrecision : Context → VM → Except String Result :=
  assetGetField fun as => .bigInteger as.precision.toNat

/-- `bcGetAsset`: the asset stored under the hash argument. The DAO's error is replaced. -/
def bcGetAsset (ic : Context) (v : VM) : Except String Result := do
  let (x, es) ← pop v.estack
  let ashash ← uint256DecodeBytesBE (← x.bytes)
  let as ← (ic.dao.getAssetState ashash).mapError fun _ => "asset not found"
  pure ⟨es, some (.interop (.asset as))⟩

end NeoInterop
