import NeoInterop.Util

/-!
# `NeoInterop.Core.Types`: the ledger objects the interop handlers read and write

The handlers see the ledger through a handful of records: blocks and their headers,
transactions with their attributes and witnesses, contract states, assets, storage items,
and the `StorageContext` capability the storage syscalls take. Each record here keeps the
fields some modelled handler reads and leaves the others out: a header's consensus data and
witness script, a transaction's type, version, inputs and outputs, a witness's invocation
script, and an asset's fee mode and fee address. No handler reads them.

Hashes a node computes once and caches (`Header.Hash()`, `Transaction.Hash()`) are fields,
and the hash and key primitives the handlers call are the fields of `Crypto`: both belong
to the cryptographic layer the spec puts outside the interop core.
-/

set_option autoImplicit false

namespace NeoInterop

/-- `transaction.Attribute`: its usage byte and its data. -/
structure Attribute where
  usage : UInt8
  data : Bytes
deriving DecidableEq

/-- `transaction.Witness`: its verification script, the one field a handler reads. -/
structure Witness where
  verificationScript : Bytes
deriving DecidableEq

/-- `transaction.Transaction`, with the hash the node caches for it. -/
structure Transaction where
  hash : Uint256
  attributes : List Attribute
  scripts : List Witness
deriving DecidableEq

/-- `core.Header`: the `BlockBase` fields the header accessors read, with the cached hash. -/
structure Header where
  version : UInt32
  prevHash : Uint256
  merkleRoot : Uint256
  timestamp : UInt32
  index : UInt32
  nextConsensus : Uint160
  hash : Uint256
deriving DecidableEq

/-- `core.Block`: a header and its transactions; `Block.Header()` is `header`. -/
structure Block where
  header : Header
  transactions : List Transaction
deriving DecidableEq

/-- `ContractState` (`state.Contract` in the newer handlers). `smartcontract.ParamType` is a
Go `int`, `smartcontract.PropertyState` a `byte`; the metadata strings are their bytes. -/
structure ContractState where
  script : Bytes
  paramList : List Int
  returnType : Int
  properties : UInt8
  name : Bytes
  codeVersion : Bytes
  author : Bytes
  email : Bytes
  description : Bytes
deriving DecidableEq

/-- Modelled from the spec: the `smartcontract.PropertyState` flags are absent from the
sources; "has-storage" is the first bit and "is-payable" the third. -/
def ContractState.hasStorage (cs : ContractState) : Bool := cs.properties &&& 1 != 0

/-- Modelled from the spec: the is-payable flag, the third bit of `Properties`. -/
def ContractState.isPayable (cs : ContractState) : Bool := cs.properties &&& 4 != 0

/-- `StorageItem`: a stored value and whether it may never change again. -/
structure StorageItem where
  value : Bytes
  isConst : Bool
deriving DecidableEq

/-- `&StorageItem{}`, the fresh item `putWithContextAndFlags` starts from. -/
instance : Inhabited StorageItem := ⟨⟨[], false⟩⟩

/-- `StorageContext`: whose storage a syscall may touch, and whether it may only read. -/
structure StorageContext where
  scriptHash : Uint160
  readOnly : Bool
deriving DecidableEq

/-- `keys.PublicKey`: a curve point, or the point at infinity, which has no coordinates. -/
inductive PublicKey where
  | infinity
  | point (x y : Nat)
deriving DecidableEq

/-- `(*PublicKey).IsInfinity`. -/
def PublicKey.isInfinity : PublicKey → Bool
  | .infinity => true
  | .point .. => false

/-- `state.Asset`. `amount` and `available` are `util.Fixed8` values, counts of `10 ^ -8`
units held in an `int64`. -/
structure Asset where
  id : Uint256
  assetType : UInt8
  name : Bytes
  amount : Int
  available : Int
  precision : UInt8
  owner : PublicKey
  admin : Uint160
  issuer : Uint160
  expiration : UInt32
  isFrozen : Bool
deriving DecidableEq

/-- Modelled from the spec: the `transaction.AssetType` constants are absent from the
sources. These are the four kinds `assetCreate` accepts. -/
def AssetType.currency : UInt8 := 0x08

/-- Modelled from the spec: `transaction.Share`, `DutyFlag | 0x10`. -/
def AssetType.share : UInt8 := 0x90

/-- Modelled from the spec: `transaction.Invoice`, `DutyFlag | 0x18`. -/
def AssetType.invoice : UInt8 := 0x98

/-- Modelled from the spec: `transaction.Token`, `CreditFlag | 0x20`. -/
def AssetType.token : UInt8 := 0x60

/-- Modelled from the spec: `trigger.Application`, the trigger byte `0x10`. -/
def Trigger.application : UInt8 := 0x10

/-- The primitives the handlers borrow from the `hash`, `keys` and `smartcontract` packages:
`hash.Hash160`, public-key decoding, and the single-signature script of a key. -/
structure Crypto where
  hash160 : Bytes → Uint160
  decodePublicKey : Bytes → Except String PublicKey
  createSignatureRedeemScript : PublicKey → Except String Bytes

/-- `(*ContractState).ScriptHash`: the hash of the contract's script. -/
def ContractState.scriptHash (crypto : Crypto) (cs : ContractState) : Uint160 :=
  crypto.hash160 cs.script

end NeoInterop
