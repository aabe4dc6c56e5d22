import NeoInterop.Vm.StackItem

/-!
# `NeoInterop.Core.Store`: the staged store, the ledger, and the interop context

One execution of a script sees two tiers of state. The ledger (`Blockchain`, the
`Blockchainer` interface of spec §6) holds what is committed; the execution never writes it.
The staged store (`MemoryStore`, the context's `ic.mem`) holds what the execution has
written so far; the node merges it into the ledger only when the transaction is accepted.

The staged store is absent from the sources, so it is modelled from the spec's words: a map
from each key "to either a present item or a tombstone". A lookup in it
(`getStorageItemFromStore`, `getContractStateFromStore`) returns present items only, so a
tombstone and a missing key look the same to the handlers, which then fall back to the
ledger: "staged overlay first; on tombstone or miss, falls to committed storage" (spec
§4.2). `InteropContext.visibleItem` is that two-tier read, written once for the three
handlers that inline it.

The node's `ic.mem` is a `MemCachedStore`, absent from the sources too, whose lookups go
through to committed storage on a miss. For storage items the handlers fall back to the ledger
themselves, so the two read alike; for contract states the staged-only lookup follows the
spec (§4.5) and not the node (see `getContractStateFromStore`).

The small `@[simp]` lemmas after each operation say what a read returns after a write, so
that the handler proofs never unfold the store.
-/

set_option autoImplicit false

namespace NeoInterop

/-- An entry of the staged store: a written value, or the tombstone a delete leaves. -/
inductive Staged (α : Type) where
  | item (a : α)
  | tombstone
deriving DecidableEq

/-- The present value of a staged entry; a tombstone reads as no value. -/
def Staged.get? {α : Type} : Option (Staged α) → Option α
  | some (.item a) => some a
  | _ => none

@[simp] theorem Staged.get?_item {α : Type} (a : α) : Staged.get? (some (.item a)) = some a :=
  rfl

@[simp] theorem Staged.get?_tombstone {α : Type} :
    Staged.get? (some (Staged.tombstone : Staged α)) = none := rfl

@[simp] theorem Staged.get?_none {α : Type} : Staged.get? (none : Option (Staged α)) = none :=
  rfl

/-- Modelled from the spec: the execution's `storage.MemoryStore` (`ic.mem`) is absent from
the sources. Contract states and storage items, each key mapped to an entry or to nothing: the
staged tier alone, where the node's `MemCachedStore` also reads through to committed
storage. -/
structure MemoryStore where
  contracts : Uint160 → Option (Staged ContractState)
  storage : Uint160 → Bytes → Option (Staged StorageItem)

/-- The staged store an execution starts from: nothing written. -/
def MemoryStore.empty : MemoryStore := ⟨fun _ => none, fun _ _ => none⟩

/-- Modelled from the spec: `getStorageItemFromStore`, the staged item under a key. -/
def getStorageItemFromStore (s : MemoryStore) (h : Uint160) (key : Bytes) :
    Option StorageItem :=
  Staged.get? (s.storage h key)

/-- Modelled from the spec: `putStorageItemIntoStore` stages an item, replacing any entry. -/
def putStorageItemIntoStore (s : MemoryStore) (h : Uint160) (key : Bytes) (si : StorageItem) :
    MemoryStore :=
  { s with storage := fun h' k' => if h' = h ∧ k' = key then some (.item si) else s.storage h' k' }

/-- Modelled from the spec: `deleteStorageItemInStore` stages a tombstone. -/
def deleteStorageItemInStore (s : MemoryStore) (h : Uint160) (key : Bytes) : MemoryStore :=
  { s with storage := fun h' k' => if h' = h ∧ k' = key then some .tombstone else s.storage h' k' }

/-- Modelled from the spec: `getContractStateFromStore`, the contract state this execution
staged. Spec §4.5 has `get_storage_context` accept only a contract "staged/created within the
*current* execution's overlay", and this lookup gives exactly that. The node's `ic.mem`, a
`MemCachedStore` absent from the sources, reads through to committed storage on a miss, so
there the lookup also finds every contract the ledger holds. -/
def getContractStateFromStore (s : MemoryStore) (h : Uint160) : Option ContractState :=
  Staged.get? (s.contracts h)

/-- Modelled from the spec: `putContractStateIntoStore`, what creating a contract stages. -/
def putContractStateIntoStore (s : MemoryStore) (h : Uint160) (cs : ContractState) :
    MemoryStore :=
  { s with contracts := fun h' => if h' = h then some (.item cs) else s.contracts h' }

/-- Modelled from the spec: `deleteContractStateInStore` stages a tombstone. -/
def deleteContractStateInStore (s : MemoryStore) (h : Uint160) : MemoryStore :=
  { s with contracts := fun h' => if h' = h then some .tombstone else s.contracts h' }

section
variable (s : MemoryStore) (h h' : Uint160) (key key' : Bytes)

@[simp] theorem getStorageItemFromStore_put (si : StorageItem) :
    getStorageItemFromStore (putStorageItemIntoStore s h key si) h' key' =
      if h' = h ∧ key' = key then some si else getStorageItemFromStore s h' key' := by
  simp only [getStorageItemFromStore, putStorageItemIntoStore]; split <;> simp

@[simp] theorem getStorageItemFromStore_delete :
    getStorageItemFromStore (deleteStorageItemInStore s h key) h' key' =
      if h' = h ∧ key' = key then none else getStorageItemFromStore s h' key' := by
  simp only [getStorageItemFromStore, deleteStorageItemInStore]; split <;> simp

@[simp] theorem getStorageItemFromStore_deleteContract :
    getStorageItemFromStore (deleteContractStateInStore s h) h' key' =
      getStorageItemFromStore s h' key' := rfl

@[simp] theorem getContractStateFromStore_putItem (si : StorageItem) :
    getContractStateFromStore (putStorageItemIntoStore s h key si) h' =
      getContractStateFromStore s h' := rfl

@[simp] theorem getContractStateFromStore_deleteItem :
    getContractStateFromStore (deleteStorageItemInStore s h key) h' =
      getContractStateFromStore s h' := rfl

@[simp] theorem getContractStateFromStore_put (cs : ContractState) :
    getContractStateFromStore (putContractStateIntoStore s h cs) h' =
      if h' = h then some cs else getContractStateFromStore s h' := by
  simp only [getContractStateFromStore, putContractStateIntoStore]; split <;> simp

@[simp] theorem getContractStateFromStore_deleteContract :
    getContractStateFromStore (deleteContractStateInStore s h) h' =
      if h' = h then none else getContractStateFromStore s h' := by
  simp only [getContractStateFromStore, deleteContractStateInStore]; split <;> simp

end

/-- The ledger as an execution sees it: the `Blockchainer` queries of spec §6. A lookup
that reports a miss with a Go error returns `Except`; one that returns a nil pointer
returns `Option`. `getStorageItems` lists the Go map it returns, in no particular order. -/
structure Blockchain where
  blockHeight : UInt32
  currentBlockHash : Uint256
  getHeaderHash : Nat → Uint256
  getBlock : Uint256 → Except String Block
  getHeader : Uint256 → Except String Header
  getTransaction : Uint256 → Except String (Transaction × UInt32)
  getContractState : Uint160 → Option ContractState
  getStorageItem : Uint160 → Bytes → Option StorageItem
  getStorageItems : Uint160 → Except String (List (Bytes × StorageItem))
  getScriptHashesForVerifying : Option Transaction → Except String (List Uint160)

/-- `interopContext`: one per script execution. `trigger` is the raw trigger byte, `tx` the
script container (absent for a block's verification), `mem` the staged store. -/
structure InteropContext where
  bc : Blockchain
  trigger : UInt8
  block : Option Block
  tx : Option Transaction
  mem : MemoryStore
  crypto : Crypto

/-- The same execution with another staged store. -/
def InteropContext.withMem (ic : InteropContext) (mem : MemoryStore) : InteropContext :=
  { ic with mem := mem }

@[simp] theorem InteropContext.withMem_mem (ic : InteropContext) (mem : MemoryStore) :
    (ic.withMem mem).mem = mem := rfl

@[simp] theorem InteropContext.withMem_bc (ic : InteropContext) (mem : MemoryStore) :
    (ic.withMem mem).bc = ic.bc := rfl

@[simp] theorem InteropContext.withMem_trigger (ic : InteropContext) (mem : MemoryStore) :
    (ic.withMem mem).trigger = ic.trigger := rfl

@[simp] theorem InteropContext.withMem_crypto (ic : InteropContext) (mem : MemoryStore) :
    (ic.withMem mem).crypto = ic.crypto := rfl

/-- The storage item the handlers see under `(h, key)`: the staged item, else the
ledger's (`getStorageItemFromStore`, then `ic.bc.GetStorageItem` when that is nil). -/
def InteropContext.visibleItem (ic : InteropContext) (h : Uint160) (key : Bytes) :
    Option StorageItem :=
  match getStorageItemFromStore ic.mem h key with
  | some si => some si
  | none => ic.bc.getStorageItem h key

/-- What a read-only handler leaves: the evaluation stack after its pops and the value it
pushes, if any. A read-only handler has no staged store to return, so it cannot write. -/
structure Result where
  estack : List StackItem
  push : Option StackItem

/-- What any handler leaves: the staged store as well. -/
structure Outcome where
  mem : MemoryStore
  estack : List StackItem
  push : Option StackItem

end NeoInterop
