import NeoInterop.Core.Store

/-!
# `NeoInterop.Core.InteropSystem`: the syscall handlers of `interop_system.go`

Each handler pops its arguments off the evaluation stack in the order the Go code pops
them, converts them as the Go code does, and either fails with the Go error text or pushes
one value. The handlers are grouped as in the source: ledger queries, header and block
accessors, engine and runtime introspection, witness checks, storage, and contract
lifecycle.

Read-only handlers return a `Result` (the stack left after the pops and the pushed value);
the four handlers that write (`storagePut`, `storagePutEx`, `storageDelete`,
`contractDestroy`) return the new staged store and push nothing. `Syscall.run` puts both
kinds under one signature, so that a run of syscalls is a fold over `Syscall.run`, and the
types already say which handlers can change the staged store.

A handler error ends the execution in the node and the staged store is discarded (spec §7),
so a handler that fails returns only its error.

Families of near-identical handlers are one definition applied to each member's values:
`bcGetByHash` (`bcGetBlock`, `bcGetHeader`), `headerGetField` (the four header accessors),
`pushContextScriptHash` (the three script-hash accessors), `storageGetContextWith`
(`storageGetContext`, `storageGetReadOnlyContext`), `storagePutInternal` (`storagePut`,
`storagePutEx`, as in the source) and `runtimeLogMessage` (`runtimeNotify`, `runtimeLog`,
which differ only in the text of a log line the model does not keep).
-/

set_option autoImplicit false

namespace NeoInterop

/-- `MaxStorageKeyLen`. -/
def maxStorageKeyLen : Nat := 1024

/-- Modelled from the spec: `vm.MaxArraySize`, the largest array a handler may push, is
absent from the sources. -/
def maxArraySize : Nat := 1024

/-- `gherr.Wrap(err, msg)`: the same error under a prefix. -/
def wrapError {α : Type} (msg : String) : Except String α → Except String α :=
  Except.mapError fun e => msg ++ ": " ++ e

@[simp] theorem wrapError_eq_ok {α : Type} {msg : String} {x : Except String α} {a : α} :
    wrapError msg x = .ok a ↔ x = .ok a :=
  mapError_eq_ok

/-- `stcInterface.(*StorageContext)` with its error. -/
def StackItem.asStorageContext : StackItem → Except String StorageContext
  | .interop (.storageContext sc) => .ok sc
  | x => .error s!"{x.typeName} is not a StorageContext"

/-! ### Ledger queries -/

/-- `getBlockHashFromElement`: an argument of at most 5 bytes is a block index, read as an
`int64` and checked against the `uint32` range; a longer one is a reversed hash. -/
def getBlockHashFromElement (bc : Blockchain) (element : StackItem) :
    Except String Uint256 := do
  let hashbytes ← element.bytes
  if hashbytes.length ≤ 5 then
    let value ← element.bigInt
    let hashint := int64 value
    if hashint < 0 ∨ hashint > (maxUint32 : Int) then throw "bad block index"
    pure (bc.getHeaderHash hashint.toNat)
  else
    uint256DecodeReverseBytes hashbytes

/-- `bcGetBlock` and `bcGetHeader`: look up the object the argument names and push it, or an
empty array when the ledger reports a miss. -/
def bcGetByHash {α : Type} (lookup : Blockchain → Uint256 → Except String α)
    (wrap : α → InteropValue) (ic : InteropContext) (v : VM) : Except String Result := do
  let (element, es) ← pop v.estack
  let hash ← getBlockHashFromElement ic.bc element
  match lookup ic.bc hash with
  | .error _ => pure ⟨es, some (.byteArray [])⟩
  | .ok x => pure ⟨es, some (.interop (wrap x))⟩

/-- `bcGetBlock`. -/
def bcGetBlock : InteropContext → VM → Except String Result :=
  bcGetByHash Blockchain.getBlock .block

/-- `bcGetHeader`. -/
def bcGetHeader : InteropContext → VM → Except String Result :=
  bcGetByHash Blockchain.getHeader .header

/-- `bcGetContract`: a 20-byte script hash; a missing contract pushes an empty array. -/
def bcGetContract (ic : InteropContext) (v : VM) : Except String Result := do
  let (x, es) ← pop v.estack
  let hash ← uint160DecodeBytes (← x.bytes)
  match ic.bc.getContractState hash with
  | none => pure ⟨es, some (.byteArray [])⟩
  | some cs => pure ⟨es, some (.interop (.contract cs))⟩

/-- `bcGetHeight`. -/
def bcGetHeight (ic : InteropContext) (v : VM) : Except String Result :=
  pure ⟨v.estack, some (.bigInteger ic.bc.blockHeight.toNat)⟩

/-- `getTransactionAndHeight`: a reversed 32-byte hash, looked up in the ledger. The
ledger's error, a miss included, is passed on. -/
def getTransactionAndHeight (bc : Blockchain) (estack : List StackItem) :
    Except String ((Transaction × UInt32) × List StackItem) := do
  let (x, es) ← pop estack
  let hash ← uint256DecodeReverseBytes (← x.bytes)
  let r ← bc.getTransaction hash
  pure (r, es)

/-- `bcGetTransaction`. -/
def bcGetTransaction (ic : InteropContext) (v : VM) : Except String Result := do
  let ((tx, _), es) ← getTransactionAndHeight ic.bc v.estack
  pure ⟨es, some (.interop (.transaction (some tx)))⟩

/-- `bcGetTransactionHeight`. -/
def bcGetTransactionHeight (ic : InteropContext) (v : VM) : Except String Result := do
  let ((_, h), es) ← getTransactionAndHeight ic.bc v.estack
  pure ⟨es, some (.bigInteger h.toNat)⟩

/-! ### Headers, blocks and transactions -/

/-- `popHeaderFromVM`: a header, or a block standing for its header. -/
def popHeaderFromVM (estack : List StackItem) : Except String (Header × List StackItem) := do
  let (x, es) ← pop estack
  match x with
  | .interop (.header h) => pure (h, es)
  | .interop (.block b) => pure (b.header, es)
  | _ => throw "value is not a header or block"

/-- The header accessors: pop a header and push one of its fields. -/
def headerGetField (field : Header → StackItem) (_ic : InteropContext) (v : VM) :
    Except String Result := do
  let (header, es) ← popHeaderFromVM v.estack
  pure ⟨es, some (field header)⟩

/-- `headerGetIndex`. -/
def headerGetIndex : InteropContext → VM → Except String Result :=
  headerGetField fun h => .bigInteger h.index.toNat

/-- `headerGetHash`. -/
def headerGetHash : InteropContext → VM → Except String Result :=
  headerGetField fun h => .byteArray h.hash.bytesReverse

/-- `headerGetPrevHash`. -/
def headerGetPrevHash : InteropContext → VM → Except String Result :=
  headerGetField fun h => .byteArray h.prevHash.bytesReverse

/-- `headerGetTimestamp`. -/
def headerGetTimestamp : InteropContext → VM → Except String Result :=
  headerGetField fun h => .bigInteger h.timestamp.toNat

/-- `blockInterface.(*Block)` after a pop. -/
def popBlock (estack : List StackItem) : Except String (Block × List StackItem) := do
  let (x, es) ← pop estack
  match x with
  | .interop (.block b) => pure (b, es)
  | _ => throw "value is not a block"

/-- `blockGetTransactionCount`. -/
def blockGetTransactionCount (_ic : InteropContext) (v : VM) : Except String Result := do
  let (block, es) ← popBlock v.estack
  pure ⟨es, some (.bigInteger block.transactions.length)⟩

/-- `blockGetTransactions`: all of them as one array, if the array is small enough. -/
def blockGetTransactions (_ic : InteropContext) (v : VM) : Except String Result := do
  let (block, es) ← popBlock v.estack
  if block.transactions.length > maxArraySize then throw "too many transactions"
  pure ⟨es, some (.array (block.transactions.map fun tx => .interop (.transaction (some tx))))⟩

/-- `blockGetTransaction`: the index is the argument narrowed to `int64`. -/
def blockGetTransaction (_ic : InteropContext) (v : VM) : Except String Result := do
  let (block, es) ← popBlock v.estack
  let (x, es) ← pop es
  let index := int64 (← x.bigInt)
  if h : index < 0 ∨ index ≥ block.transactions.length then throw "wrong transaction index"
  else pure ⟨es, some (.interop (.transaction (some
    (block.transactions.get ⟨index.toNat, by omega⟩))))⟩

/-- `txGetHash`. A nil transaction (`engineGetScriptContainer` without a container) passes
the type assertion and panics on `Hash()`. -/
def txGetHash (_ic : InteropContext) (v : VM) : Except String Result := do
  let (x, es) ← pop v.estack
  match x with
  | .interop (.transaction (some tx)) => pure ⟨es, some (.byteArray tx.hash.bytesReverse)⟩
  | .interop (.transaction none) => throw nilDereference
  | _ => throw "value is not a transaction"

/-! ### Engine and runtime -/

/-- `engineGetScriptContainer`: the context's transaction, nil when there is none. -/
def engineGetScriptContainer (ic : InteropContext) (v : VM) : Except String Result :=
  pure ⟨v.estack, some (.interop (.transaction ic.tx))⟩

/-- `getContextScriptHash`: the hash of the script `n` entries below the top of the
invocation stack. `Peek` gives nil past either end of the stack, and `Value()` panics. -/
def getContextScriptHash (ic : InteropContext) (v : VM) (n : Int) : Except String Uint160 :=
  if 0 ≤ n then
    match v.istack[n.toNat]? with
    | some ctx => .ok (ic.crypto.hash160 ctx.program)
    | none => .error nilDereference
  else .error nilDereference

/-- `pushContextScriptHash`. -/
def pushContextScriptHash (ic : InteropContext) (v : VM) (n : Int) : Except String Result := do
  let h ← getContextScriptHash ic v n
  pure ⟨v.estack, some (.byteArray h.bytes)⟩

/-- `engineGetExecutingScriptHash`: the top of the invocation stack. -/
def engineGetExecutingScriptHash (ic : InteropContext) (v : VM) : Except String Result :=
  pushContextScriptHash ic v 0

/-- `engineGetCallingScriptHash`: one below the top. -/
def engineGetCallingScriptHash (ic : InteropContext) (v : VM) : Except String Result :=
  pushContextScriptHash ic v 1

/-- `engineGetEntryScriptHash`: the bottom of the invocation stack. -/
def engineGetEntryScriptHash (ic : InteropContext) (v : VM) : Except String Result :=
  pushContextScriptHash ic v (v.istack.length - 1)

/-- `runtimePlatform`. -/
def runtimePlatform (_ic : InteropContext) (v : VM) : Except String Result :=
  pure ⟨v.estack, some (.byteArray "NEO".toUTF8.toList)⟩

/-- `runtimeGetTrigger`: the trigger byte as an integer. -/
def runtimeGetTrigger (ic : InteropContext) (v : VM) : Except String Result :=
  pure ⟨v.estack, some (.bigInteger ic.trigger.toNat)⟩

/-- `checkHashedWitness`: whether `hash` is among the script hashes the ledger says the
script container needs verified. -/
def checkHashedWitness (ic : InteropContext) (hash : Uint160) : Except String Bool :=
  match ic.bc.getScriptHashesForVerifying ic.tx with
  | .error e => .error ("failed to get script hashes: " ++ e)
  | .ok hashes => .ok (hashes.contains hash)

/-- `checkKeyedWitness`: the hashed check on the single-signature script of `key`. -/
def checkKeyedWitness (ic : InteropContext) (key : PublicKey) : Except String Bool :=
  match ic.crypto.createSignatureRedeemScript key with
  | .error e => .error ("failed to create signature script for a key: " ++ e)
  | .ok script => checkHashedWitness ic (ic.crypto.hash160 script)

/-- `runtimeCheckWitness`: the argument is tried as a script hash first, then as a key. -/
def runtimeCheckWitness (ic : InteropContext) (v : VM) : Except String Result := do
  let (x, es) ← pop v.estack
  let hashOrKey ← x.bytes
  let res ← match uint160DecodeBytes hashOrKey with
    | .ok hash => wrapError "failed to check" (checkHashedWitness ic hash)
    | .error _ =>
      match ic.crypto.decodePublicKey hashOrKey with
      | .error _ => throw "parameter given is neither a key nor a hash"
      | .ok key => wrapError "failed to check" (checkKeyedWitness ic key)
  pure ⟨es, some (.bool res)⟩

/-- `runtimeNotify` and `runtimeLog`: pop the message and log it with the executing script's
hash. Only the pop and the two conversions, which can fail, are observable. -/
def runtimeLogMessage (ic : InteropContext) (v : VM) : Except String Result := do
  let (x, es) ← pop v.estack
  let _ ← x.bytes
  let _ ← getContextScriptHash ic v 0
  pure ⟨es, none⟩

/-- `runtimeNotify`. -/
def runtimeNotify : InteropContext → VM → Except String Result := runtimeLogMessage

/-- `runtimeLog`. -/
def runtimeLog : InteropContext → VM → Except String Result := runtimeLogMessage

/-- `runtimeGetTime`: the timestamp of the block being verified, else of the ledger's
current header. -/
def runtimeGetTime (ic : InteropContext) (v : VM) : Except String Result := do
  let header ← match ic.block with
    | none => ic.bc.getHeader ic.bc.currentBlockHash
    | some block => pure block.header
  pure ⟨v.estack, some (.bigInteger header.timestamp.toNat)⟩

/-! ### Storage -/

/-- `checkStorageContext`: the context's contract must exist in the ledger and have
storage. -/
def checkStorageContext (ic : InteropContext) (stc : StorageContext) : Except String Unit :=
  match ic.bc.getContractState stc.scriptHash with
  | none => .error "no contract found"
  | some contract =>
    if contract.hasStorage then .ok () else .error "contract can't have storage"

/-- `storageDelete`: stages a tombstone, unless the visible item is constant. -/
def storageDelete (ic : InteropContext) (v : VM) :
    Except String (MemoryStore × List StackItem) := do
  if ic.trigger ≠ 0x10 ∧ ic.trigger ≠ 0x11 then
    throw "can't delete when the trigger is not application"
  let (x, es) ← pop v.estack
  let stc ← x.asStorageContext
  if stc.readOnly then throw "StorageContext is read only"
  checkStorageContext ic stc
  let (k, es) ← pop es
  let key ← k.bytes
  if (ic.visibleItem stc.scriptHash key).any (·.isConst) then
    throw "storage item is constant"
  pure (deleteStorageItemInStore ic.mem stc.scriptHash key, es)

/-- `storageGet`: the visible item's value, or an empty array. -/
def storageGet (ic : InteropContext) (v : VM) : Except String Result := do
  let (x, es) ← pop v.estack
  let stc ← x.asStorageContext
  checkStorageContext ic stc
  let (k, es) ← pop es
  let key ← k.bytes
  match ic.visibleItem stc.scriptHash key with
  | some si => pure ⟨es, some (.byteArray si.value)⟩
  | none => pure ⟨es, some (.byteArray [])⟩

/-- `storageGetContext` and `storageGetReadOnlyContext`: a context for the executing
script. -/
def storageGetContextWith (readOnly : Bool) (ic : InteropContext) (v : VM) :
    Except String Result := do
  let h ← getContextScriptHash ic v 0
  pure ⟨v.estack, some (.interop (.storageContext ⟨h, readOnly⟩))⟩

/-- `storageGetContext`. -/
def storageGetContext : InteropContext → VM → Except String Result :=
  storageGetContextWith false

/-- `storageGetReadOnlyContext`. -/
def storageGetReadOnlyContext : InteropContext → VM → Except String Result :=
  storageGetContextWith true

/-- `putWithContextAndFlags`: the checks of a put, then the staged item. Its trigger error
repeats the text of `storageDelete`'s. -/
def putWithContextAndFlags (ic : InteropContext) (stc : StorageContext) (key value : Bytes)
    (isConst : Bool) : Except String MemoryStore := do
  if ic.trigger ≠ 0x10 ∧ ic.trigger ≠ 0x11 then
    throw "can't delete when the trigger is not application"
  if key.length > maxStorageKeyLen then throw "key is too big"
  if stc.readOnly then throw "StorageContext is read only"
  checkStorageContext ic stc
  let si := (ic.visibleItem stc.scriptHash key).getD default
  if si.isConst then throw "storage item exists and is read-only"
  pure (putStorageItemIntoStore ic.mem stc.scriptHash key ⟨value, isConst⟩)

/-- `storagePutInternal`: context, key and value, then the flag when `getFlag`; the item is
constant when the flag is `1`. -/
def storagePutInternal (getFlag : Bool) (ic : InteropContext) (v : VM) :
    Except String (MemoryStore × List StackItem) := do
  let (x, es) ← pop v.estack
  let stc ← x.asStorageContext
  let (k, es) ← pop es
  let key ← k.bytes
  let (val, es) ← pop es
  let value ← val.bytes
  let (flag, es) ← if getFlag then do
      let (f, es) ← pop es
      let n ← f.bigInt
      pure (int64 n, es)
    else pure (0, es)
  let mem ← putWithContextAndFlags ic stc key value (flag == 1)
  pure (mem, es)

/-- `storagePut`. -/
def storagePut : InteropContext → VM → Except String (MemoryStore × List StackItem) :=
  storagePutInternal false

/-- `storagePutEx`. -/
def storagePutEx : InteropContext → VM → Except String (MemoryStore × List StackItem) :=
  storagePutInternal true

/-- `storageContextAsReadOnly`: the context itself if read-only, else a read-only copy. -/
def storageContextAsReadOnly (_ic : InteropContext) (v : VM) : Except String Result := do
  let (x, es) ← pop v.estack
  let stc ← x.asStorageContext
  let stc := if stc.readOnly then stc else ⟨stc.scriptHash, true⟩
  pure ⟨es, some (.interop (.storageContext stc))⟩

/-! ### Contracts -/

/-- `contractDestroy`: stages the removal of the executing contract's state and of every
storage item the ledger lists for it. A contract the ledger does not know is left alone. -/
def contractDestroy (ic : InteropContext) (v : VM) :
    Except String (MemoryStore × List StackItem) := do
  if ic.trigger ≠ 0x10 then throw "can't destroy contract when not triggered by application"
  let hash ← getContextScriptHash ic v 0
  match ic.bc.getContractState hash with
  | none => pure (ic.mem, v.estack)
  | some cs =>
    let mem := deleteContractStateInStore ic.mem hash
    if cs.hasStorage then
      let siMap ← ic.bc.getStorageItems hash
      pure (siMap.foldl (fun m kv => deleteStorageItemInStore m hash kv.1) mem, v.estack)
    else pure (mem, v.estack)

/-- `contractGetStorageContext`: a writable context for a contract whose state is staged in
this execution. The error prints the type of the failed assertion's result, always
`*core.ContractState`. -/
def contractGetStorageContext (ic : InteropContext) (v : VM) : Except String Result := do
  let (x, es) ← pop v.estack
  let cs ← match x with
    | .interop (.contract cs) => pure cs
    | _ => throw "*core.ContractState is not a contract state"
  if (getContractStateFromStore ic.mem (cs.scriptHash ic.crypto)).isNone then
    throw "contract was not created in this transaction"
  pure ⟨es, some (.interop (.storageContext ⟨cs.scriptHash ic.crypto, false⟩))⟩

/-! ### Dispatch -/

/-- The handlers of this file. The name table that maps syscall strings to them lives in a
file absent from the sources. -/
inductive Syscall where
  | bcGetBlock | bcGetContract | bcGetHeader | bcGetHeight
  | bcGetTransaction | bcGetTransactionHeight
  | headerGetIndex | headerGetHash | headerGetPrevHash | headerGetTimestamp
  | blockGetTransactionCount | blockGetTransactions | blockGetTransaction | txGetHash
  | engineGetScriptContainer | engineGetExecutingScriptHash | engineGetCallingScriptHash
  | engineGetEntryScriptHash
  | runtimePlatform | runtimeGetTrigger | runtimeCheckWitness | runtimeNotify | runtimeLog
  | runtimeGetTime
  | storageDelete | storageGet | storageGetContext | storageGetReadOnlyContext
  | storagePut | storagePutEx | storageContextAsReadOnly
  | contractDestroy | contractGetStorageContext
deriving DecidableEq

/-- A read-only handler under the common signature: the staged store stays as it was. -/
def runReader (h : InteropContext → VM → Except String Result) (ic : InteropContext)
    (v : VM) : Except String Outcome :=
  (h ic v).map fun r => ⟨ic.mem, r.estack, r.push⟩

/-- A writing handler under the common signature: it pushes nothing. -/
def runWriter (h : InteropContext → VM → Except String (MemoryStore × List StackItem))
    (ic : InteropContext) (v : VM) : Except String Outcome :=
  (h ic v).map fun r => ⟨r.1, r.2, none⟩

/-- The dispatcher: the handler a syscall runs. -/
def Syscall.run : Syscall → InteropContext → VM → Except String Outcome
  | .bcGetBlock => runReader NeoInterop.bcGetBlock
  | .bcGetContract => runReader NeoInterop.bcGetContract
  | .bcGetHeader => runReader NeoInterop.bcGetHeader
  | .bcGetHeight => runReader NeoInterop.bcGetHeight
  | .bcGetTransaction => runReader NeoInterop.bcGetTransaction
  | .bcGetTransactionHeight => runReader NeoInterop.bcGetTransactionHeight
  | .headerGetIndex => runReader NeoInterop.headerGetIndex
  | .headerGetHash => runReader NeoInterop.headerGetHash
  | .headerGetPrevHash => runReader NeoInterop.headerGetPrevHash
  | .headerGetTimestamp => runReader NeoInterop.headerGetTimestamp
  | .blockGetTransactionCount => runReader NeoInterop.blockGetTransactionCount
  | .blockGetTransactions => runReader NeoInterop.blockGetTransactions
  | .blockGetTransaction => runReader NeoInterop.blockGetTransaction
  | .txGetHash => runReader NeoInterop.txGetHash
  | .engineGetScriptContainer => runReader NeoInterop.engineGetScriptContainer
  | .engineGetExecutingScriptHash => runReader NeoInterop.engineGetExecutingScriptHash
  | .engineGetCallingScriptHash => runReader NeoInterop.engineGetCallingScriptHash
  | .engineGetEntryScriptHash => runReader NeoInterop.engineGetEntryScriptHash
  | .runtimePlatform => runReader NeoInterop.runtimePlatform
  | .runtimeGetTrigger => runReader NeoInterop.runtimeGetTrigger
  | .runtimeCheckWitness => runReader NeoInterop.runtimeCheckWitness
  | .runtimeNotify => runReader NeoInterop.runtimeNotify
  | .runtimeLog => runReader NeoInterop.runtimeLog
  | .runtimeGetTime => runReader NeoInterop.runtimeGetTime
  | .storageDelete => runWriter NeoInterop.storageDelete
  | .storageGet => runReader NeoInterop.storageGet
  | .storageGetContext => runReader NeoInterop.storageGetContext
  | .storageGetReadOnlyContext => runReader NeoInterop.storageGetReadOnlyContext
  | .storagePut => runWriter NeoInterop.storagePut
  | .storagePutEx => runWriter NeoInterop.storagePutEx
  | .storageContextAsReadOnly => runReader NeoInterop.storageContextAsReadOnly
  | .contractDestroy => runWriter NeoInterop.contractDestroy
  | .contractGetStorageContext => runReader NeoInterop.contractGetStorageContext

end NeoInterop
