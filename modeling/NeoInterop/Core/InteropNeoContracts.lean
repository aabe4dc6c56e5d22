import NeoInterop.Core.InteropNeo
import NeoInterop.Vm.Map

/-!
# `NeoInterop.Core.InteropNeoContracts`: the contract and storage handlers of `interop_neo.go`

`contractCreate` and `contractMigrate` both start with `createContractStateFromVM`, which pops
nine arguments and bounds their sizes, and then look the new contract up in the DAO by its
script hash. A contract already there is pushed as it is and nothing is written; otherwise
the new one is stored. `contractMigrate` then, for a newly stored contract with storage,
copies every item of the executing contract to it with `IsConst` cleared, and last destroys
the executing contract. The part before the destroy is `contractMigrateCreate`.

`storageFind` reads the items of a contract whose key starts with a prefix from the DAO,
puts each under the full key into a map item, sorts the map's entries by key and pushes an
iterator over them.

Three functions these handlers call are absent from the sources: `checkStorageContext`,
`contractDestroy` and `(*VM).GetCurrentScriptHash`. They are modelled on the spec and on the
older functions of the same names in `interop_system.go`, over the DAO.
-/

set_option autoImplicit false

namespace NeoInterop

/-! ### Constants -/

/-- `MaxContractDescriptionLen`. -/
def maxContractDescriptionLen : Nat := 65536

/-- `MaxContractScriptSize`. -/
def maxContractScriptSize : Nat := 1024 * 1024

/-- `MaxContractParametersNum`. -/
def maxContractParametersNum : Nat := 252

/-- `MaxContractStringLen`. -/
def maxContractStringLen : Nat := 252

/-! ### What the handlers call -/

/-- Modelled from the spec: `(*VM).GetCurrentScriptHash` is absent from the sources. The hash
of the executing script, the top of the invocation stack; `Peek(0)` gives nil on an empty
stack, and the type assertion on it panics. -/
def VM.getCurrentScriptHash (v : VM) (crypto : Crypto) : Except String Uint160 :=
  match v.istack with
  | ctx :: _ => .ok (crypto.hash160 ctx.program)
  | [] => .error nilDereference

/-- Modelled from the spec: the newer `checkStorageContext` is absent from the sources. As the
older one, over the DAO: the context's contract must exist and have storage. -/
def Context.checkStorageContext (ic : Context) (stc : StorageContext) : Except String Unit :=
  match ic.dao.getContractState stc.scriptHash with
  | .error _ => .error "no contract found"
  | .ok contract => if contract.hasStorage then .ok () else .error "contract can't have storage"

/-- Modelled from the spec: the newer `contractDestroy` is absent from the sources. As the
older one, over the DAO: nothing happens when there is no contract for the executing script;
otherwise its state and, when it has storage, each of its items are deleted. It pushes
nothing and leaves the DAO. -/
def Context.contractDestroy (ic : Context) (v : VM) : Except String Dao := do
  if ic.trigger ≠ Trigger.application then
    throw "can't destroy contract when not triggered by application"
  let hash ← v.getCurrentScriptHash ic.crypto
  match ic.dao.getContractState hash with
  | .error _ => pure ic.dao
  | .ok cs =>
    let dao := ic.dao.deleteContractState hash
    if cs.hasStorage then
      pure ((dao.getStorageItems hash).entries.foldl (fun d e => d.deleteStorageItem hash e.1) dao)
    else pure dao

/-! ### Contracts -/

/-- `createContractStateFromVM`: script, parameter types, return type, properties, name,
version, author, email and description, popped in that order and bounded as they come.
`smartcontract.ParamType` is a Go `int`; `PropertyState` is a `byte`. -/
def createContractStateFromVM (ic : Context) (v : VM) :
    Except String (ContractState × List StackItem) := do
  if ic.trigger ≠ Trigger.application then
    throw "can't create contract when not triggered by an application"
  let (x, es) ← pop v.estack
  let script ← x.bytes
  if script.length > maxContractScriptSize then throw "the script is too big"
  let (x, es) ← pop es
  let paramBytes ← x.bytes
  if paramBytes.length > maxContractParametersNum then throw "too many parameters for a script"
  let paramList := paramBytes.map fun b => (b.toNat : Int)
  let (x, es) ← pop es
  let retType := int64 (← x.bigInt)
  let (x, es) ← pop es
  let properties := byte (int64 (← x.bigInt))
  let (x, es) ← pop es
  let name ← x.bytes
  if name.length > maxContractStringLen then throw "too big name"
  let (x, es) ← pop es
  let version ← x.bytes
  if version.length > maxContractStringLen then throw "too big version"
  let (x, es) ← pop es
  let author ← x.bytes
  if author.length > maxContractStringLen then throw "too big author"
  let (x, es) ← pop es
  let email ← x.bytes
  if email.length > maxContractStringLen then throw "too big email"
  let (x, es) ← pop es
  let desc ← x.bytes
  if desc.length > maxContractDescriptionLen then throw "too big description"
  pure (⟨script, paramList, retType, properties, name, version, author, email, desc⟩, es)

/-- `contractCreate`: the contract the DAO has under the new script's hash, untouched, or
else the new one, stored. -/
def contractCreate (ic : Context) (v : VM) : Except String NeoResult := do
  let (newcontract, es) ← createContractStateFromVM ic v
  match ic.dao.getContractState (newcontract.scriptHash ic.crypto) with
  | .ok contract => pure ⟨ic.dao, es, some (.interop (.contract contract))⟩
  | .error _ =>
    pure ⟨ic.dao.putContractState ic.crypto newcontract, es,
      some (.interop (.contract newcontract))⟩

/-- `contractMigrate` up to its final `contractDestroy`: the lookup and store of
`contractCreate`, and for a contract stored now that has storage, every item of the executing
contract copied to it with `IsConst` cleared. It returns the DAO, the contract to push and
the stack after the pops. -/
def contractMigrateCreate (ic : Context) (v : VM) :
    Except String (Dao × ContractState × List StackItem) := do
  let (newcontract, es) ← createContractStateFromVM ic v
  match ic.dao.getContractState (newcontract.scriptHash ic.crypto) with
  | .ok contract => pure (ic.dao, contract, es)
  | .error _ =>
    let dao := ic.dao.putContractState ic.crypto newcontract
    if newcontract.hasStorage then
      let hash ← v.getCurrentScriptHash ic.crypto
      let siMap := dao.getStorageItems hash
      pure (siMap.entries.foldl (fun d e => d.putStorageItem (newcontract.scriptHash ic.crypto)
        e.1 { e.2 with isConst := false }) dao, newcontract, es)
    else pure (dao, newcontract, es)

/-- `contractMigrate`: `contractMigrateCreate`, the push of the contract, and the destroy of
the executing contract in the DAO it left. -/
def contractMigrate (ic : Context) (v : VM) : Except String NeoResult := do
  let (dao, contract, es) ← contractMigrateCreate ic v
  let dao ← Context.contractDestroy { ic with dao }
    { v with estack := .interop (.contract contract) :: es }
  pure ⟨dao, es, some (.interop (.contract contract))⟩

/-! ### Storage -/

/-- The comparison `storageFind` gives `sort.Slice`: `bytes.Compare` of the keys is `-1`. -/
def keyLess (a b : Bytes × Bytes) : Bool := bytesCompare a.1 b.1 == -1

/-- `storageFind`: the items of the context's contract whose key starts with the prefix,
each under the prefix and the rest of its key, in a map item sorted by key, behind an
iterator. The DAO's map is visited in its own order. -/
def storageFind (ic : Context) (v : VM) : Except String Result := do
  let (x, es) ← pop v.estack
  let stc ← x.asStorageContext
  ic.checkStorageContext stc
  let (y, es) ← pop es
  let pfx ← y.bytes
  let siMap := ic.dao.getStorageItemsWithPrefix stc.scriptHash pfx
  let filteredMap := siMap.entries.foldl (fun m e => mapAdd m (pfx ++ e.1) e.2.value) []
  pure ⟨es, some (.interop (.mapIterator (sortSlice keyLess filteredMap)))⟩

end NeoInterop
