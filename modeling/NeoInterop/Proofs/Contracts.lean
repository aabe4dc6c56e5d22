import NeoInterop.Proofs.StagedStore

/-!
# `NeoInterop.Proofs.Contracts`: destroyed contracts and contracts created in this execution

Two handlers decide about a contract from the staged store, and the storage handlers decide
about it from the ledger. This module states what follows when the two tiers disagree.

* `contractDestroy_visibleItem`: after a successful `contractDestroy`, a key of the executing
  contract that the ledger lists shows the ledger's own item, and every other key shows what
  it showed before. The destroy stages tombstones, and a tombstone reads as a miss, so the
  committed items stay readable; items staged earlier under keys the ledger does not list
  are not touched at all. Since `checkStorageContext` reads the ledger, the context check
  still passes: `storageGet_after_contractDestroy` says that from a store that shadows no
  committed item every `storageGet` pushes after the destroy what it pushed before, and
  `storageGet_after_contractDestroy_demo` reads a committed value back after the destroy.
* `createdContract_storageRejected`: a contract staged in this execution but absent from the
  ledger gets a writable context from `contractGetStorageContext`, and every `storageGet`
  through that context fails with "no contract found".
-/

set_option autoImplicit false

namespace NeoInterop

/-! ### What `contractDestroy` leaves visible -/

/-- Tombstones for a list of keys of one contract hide the staged items under those keys. -/
theorem getStorageItemFromStore_foldl_delete (items : List (Bytes × StorageItem))
    (m : MemoryStore) (hash h : Uint160) (k : Bytes) :
    getStorageItemFromStore (items.foldl (fun m kv => deleteStorageItemInStore m hash kv.1) m) h k =
      if h = hash ∧ k ∈ items.map Prod.fst then none else getStorageItemFromStore m h k := by
  induction items generalizing m with
  | nil => simp
  | cons kv items ih =>
    rw [List.foldl_cons, ih, getStorageItemFromStore_delete]
    simp only [List.map_cons, List.mem_cons]
    by_cases hh : h = hash
    · by_cases hk : k = kv.1
      · simp only [hh, hk, and_self, true_or, if_true, ite_self]
      · simp only [hh, hk, true_and, and_false, false_or, if_false]
    · simp only [hh, false_and, if_false]

@[simp] theorem checkStorageContext_withMem (ic : InteropContext) (m : MemoryStore)
    (stc : StorageContext) : checkStorageContext (ic.withMem m) stc = checkStorageContext ic stc :=
  rfl

/-- The store `contractDestroy` leaves, read through the two tiers: the ledger's item under
each tombstoned key of the contract, and what showed before under every other key. -/
theorem visibleItem_withMem_deleteAll (ic : InteropContext) (hash : Uint160)
    (items : List (Bytes × StorageItem)) (h' : Uint160) (k : Bytes) :
    (ic.withMem (items.foldl (fun m kv => deleteStorageItemInStore m hash kv.1)
      (deleteContractStateInStore ic.mem hash))).visibleItem h' k =
      if h' = hash ∧ k ∈ items.map Prod.fst then ic.bc.getStorageItem h' k
      else ic.visibleItem h' k := by
  simp only [InteropContext.visibleItem, InteropContext.withMem_mem,
    InteropContext.withMem_bc, getStorageItemFromStore_foldl_delete,
    getStorageItemFromStore_deleteContract]
  split_ifs <;> rfl

/-- After a successful `contractDestroy` there is a list of keys of the executing contract
under which the ledger's items show; every other key shows what it showed before. -/
theorem contractDestroy_visibleItem {ic : InteropContext} {v : VM} {m : MemoryStore}
    {es : List StackItem} (h : contractDestroy ic v = .ok (m, es)) :
    ∃ (hash : Uint160) (keys : List Bytes), getContextScriptHash ic v 0 = .ok hash ∧ ∀ h' k,
      (ic.withMem m).visibleItem h' k =
        if h' = hash ∧ k ∈ keys then ic.bc.getStorageItem h' k else ic.visibleItem h' k := by
  obtain ⟨-, -, hash, hh, hm⟩ := contractDestroy_eq_ok.mp h
  split at hm
  case h_1 => exact ⟨hash, [], hh, by simp [hm]⟩
  case h_2 =>
    split at hm
    · obtain ⟨items, -, rfl⟩ := hm
      exact ⟨hash, _, hh, visibleItem_withMem_deleteAll ic hash items⟩
    · exact ⟨hash, _, hh, hm ▸ visibleItem_withMem_deleteAll ic hash []⟩

/-- From a staged store that shadows no committed item, a `storageGet` that succeeded before a
successful `contractDestroy` pushes the same after it: the destroy's tombstones read as
misses, and the context check reads the ledger. -/
theorem storageGet_after_contractDestroy (ic : InteropContext) (vd v : VM) {o : Outcome}
    (hd : Call.exec ⟨.contractDestroy, vd⟩ ic = .ok o)
    (hv : ∀ h k, ic.visibleItem h k = ic.bc.getStorageItem h k) {r : Result}
    (hg : storageGet ic v = .ok r) :
    Call.exec ⟨.storageGet, v⟩ (ic.step ⟨.contractDestroy, vd⟩) =
      .ok ⟨o.mem, r.estack, r.push⟩ := by
  obtain ⟨⟨m, es⟩, hd', rfl⟩ := map_eq_ok.mp hd
  obtain ⟨_, _, -, hvis⟩ := contractDestroy_visibleItem hd'
  obtain ⟨stc, x, key, he, hc, hk, hpush⟩ := storageGet_eq_ok.mp hg
  have hget : storageGet (ic.withMem m) v = .ok r :=
    storageGet_eq_ok.mpr ⟨stc, x, key, he, hc, hk, by rw [hpush, hvis, hv, ite_self]⟩
  rw [InteropContext.step_of_ok hd]
  simp only [Call.exec, Syscall.run, runReader, hget]
  rfl

/-- The executing script of the fixtures: `demoCrypto` hashes it to `demoHash`. -/
def demoScript : ExecContext := ⟨[0x51]⟩

/-- A `contractDestroy` while `demoScript` executes. -/
def demoDestroy : Call := ⟨.contractDestroy, ⟨[], [demoScript]⟩⟩

/-- `contractDestroy` of `demoContract` succeeds, and the `storageGet` after it, through a
context the check still accepts, pushes the committed value "100", not an empty array. -/
theorem storageGet_after_contractDestroy_demo :
    (∃ o, demoDestroy.exec demoContext = .ok o) ∧
      ∃ o, demoGet.exec (demoContext.runCalls [demoDestroy]) = .ok o ∧
        o.push = some (.byteArray [0x31, 0x30, 0x30]) := by
  obtain ⟨o, hd⟩ : ∃ o, demoDestroy.exec demoContext = .ok o := ⟨_, rfl⟩
  exact ⟨⟨o, hd⟩, _, storageGet_after_contractDestroy demoContext _ _ hd (fun _ _ => rfl)
    (show storageGet demoContext ⟨demoArgs, []⟩ = .ok _ from rfl), rfl⟩

/-! ### Contracts created in this execution -/

/-- A contract whose state is staged but absent from the ledger gets a writable context, and
every `storageGet` through it fails the ledger's context check. -/
theorem createdContract_storageRejected (ic : InteropContext) (cs : ContractState)
    (hm : (getContractStateFromStore ic.mem (cs.scriptHash ic.crypto)).isSome)
    (hl : ic.bc.getContractState (cs.scriptHash ic.crypto) = none) :
    (∀ es istack, contractGetStorageContext ic ⟨.interop (.contract cs) :: es, istack⟩ =
      .ok ⟨es, some (.interop (.storageContext ⟨cs.scriptHash ic.crypto, false⟩))⟩) ∧
    checkStorageContext ic ⟨cs.scriptHash ic.crypto, false⟩ = .error "no contract found" ∧
    ∀ rest istack, storageGet ic
      ⟨.interop (.storageContext ⟨cs.scriptHash ic.crypto, false⟩) :: rest, istack⟩ =
        .error "no contract found" := by
  have hc : checkStorageContext ic ⟨cs.scriptHash ic.crypto, false⟩ = .error "no contract found" := by
    simp [checkStorageContext, hl]
  refine ⟨fun es istack => contractGetStorageContext_eq_ok.mpr ⟨cs, rfl, hm, rfl⟩, hc,
    fun rest istack => ?_⟩
  simp [storageGet, hc, StackItem.asStorageContext]

/-- `demoContract` staged as if created in this execution, over a ledger that holds
nothing. -/
def createdContext : InteropContext :=
  ⟨emptyLedger, 0x10, none, none, putContractStateIntoStore MemoryStore.empty demoHash demoContract,
    demoCrypto⟩

/-- `createdContract_storageRejected` for `demoContract` in `createdContext`. -/
theorem createdContract_storageRejected_demo :
    (getContractStateFromStore createdContext.mem (demoContract.scriptHash demoCrypto)).isSome ∧
      createdContext.bc.getContractState (demoContract.scriptHash demoCrypto) = none ∧
      (∀ es istack, contractGetStorageContext createdContext ⟨.interop (.contract demoContract) :: es, istack⟩ =
        .ok ⟨es, some (.interop (.storageContext ⟨demoContract.scriptHash demoCrypto, false⟩))⟩) ∧
      checkStorageContext createdContext ⟨demoContract.scriptHash demoCrypto, false⟩ =
        .error "no contract found" ∧
      ∀ rest istack, storageGet createdContext
        ⟨.interop (.storageContext ⟨demoContract.scriptHash demoCrypto, false⟩) :: rest, istack⟩ =
          .error "no contract found" :=
  ⟨rfl, rfl, createdContract_storageRejected createdContext demoContract rfl rfl⟩

end NeoInterop
