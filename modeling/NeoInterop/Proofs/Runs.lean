import NeoInterop.Proofs.Contracts

/-!
# `NeoInterop.Proofs.Runs`: what a run of `interop_system.go` can stage

The handlers of `interop_system.go` write the staged store in three places. `storagePut`
and `storagePutEx` stage an item, after `checkStorageContext` found the context's contract
in the ledger with storage. `storageDelete` stages a tombstone. `contractDestroy` stages a
tombstone for the contract's state and one for each of its committed items. No handler
stages a contract state.

* `Syscall.run_staged`: every item a successful call leaves staged was staged before, or
  belongs to a contract that the ledger holds with storage.
* `runCalls_stagedItemsOwned`: so over every run, from a staged store whose items all belong
  to such contracts (the empty store among them), every staged item does. A contract that is
  staged in this execution but absent from the ledger never gets a staged item.
* `runCalls_contractState`: a run never makes a contract state visible in the staged store;
  it can only hide one, with the tombstone of `contractDestroy`.
* `runCalls_visibleItem_frame`: a run none of whose calls writes a key or destroys a contract
  leaves the item visible under that key as it was; with the read-after-put law this gives
  `storagePut_readBack`, reading your writes: after a successful put, every later
  `storageGet` of the key pushes the value put, through any context of the contract, until
  the key is written again or a contract is destroyed.
-/

set_option autoImplicit false

namespace NeoInterop

/-- Every item staged in the execution belongs to a contract the ledger holds with storage. -/
def InteropContext.StagedItemsOwned (ic : InteropContext) : Prop :=
  ∀ h k si, getStorageItemFromStore ic.mem h k = some si →
    ∃ cs, ic.bc.getContractState h = some cs ∧ cs.hasStorage = true

theorem checkStorageContext_eq_ok {ic : InteropContext} {stc : StorageContext} :
    checkStorageContext ic stc = .ok () ↔
      ∃ cs, ic.bc.getContractState stc.scriptHash = some cs ∧ cs.hasStorage = true := by
  cases hc : ic.bc.getContractState stc.scriptHash <;> simp [checkStorageContext, hc]

theorem stagedItemsOwned_empty (ic : InteropContext) :
    (ic.withMem MemoryStore.empty).StagedItemsOwned := fun _ _ _ h => by
  simp [getStorageItemFromStore, MemoryStore.empty] at h

/-- A delete loop stages tombstones only, so the contract states it leaves are the ones it
was given. -/
theorem getContractStateFromStore_foldl_delete (items : List (Bytes × StorageItem))
    (m : MemoryStore) (hash h : Uint160) :
    getContractStateFromStore (items.foldl (fun m kv => deleteStorageItemInStore m hash kv.1) m) h =
      getContractStateFromStore m h := by
  induction items generalizing m with
  | nil => rfl
  | cons kv items ih => rw [List.foldl_cons, ih, getContractStateFromStore_deleteItem]

/-! ### One call -/

section Call
variable {ic : InteropContext} {v : VM} {o : Outcome} {s : Syscall} {hash : Uint160}
  {k : Bytes} {si : StorageItem}

theorem storagePutInternal_staged {getFlag : Bool} {m : MemoryStore} {es : List StackItem}
    (hp : storagePutInternal getFlag ic v = .ok (m, es))
    (hsi : getStorageItemFromStore m hash k = some si) :
    getStorageItemFromStore ic.mem hash k = some si ∨
      ∃ cs, ic.bc.getContractState hash = some cs ∧ cs.hasStorage = true := by
  obtain ⟨stc, -, key, -, value, isConst, -, -, -, -, -, hput⟩ := storagePutInternal_eq_ok.mp hp
  obtain ⟨-, -, -, hc, -, rfl⟩ := putWithContextAndFlags_eq_ok.mp hput
  rw [getStorageItemFromStore_put] at hsi
  split_ifs at hsi with heq
  · exact .inr (heq.1 ▸ checkStorageContext_eq_ok.mp hc)
  · exact .inl hsi

theorem storagePutInternal_contractState {getFlag : Bool} {m : MemoryStore}
    {es : List StackItem} {cs : ContractState} (hp : storagePutInternal getFlag ic v = .ok (m, es))
    (hcs : getContractStateFromStore m hash = some cs) :
    getContractStateFromStore ic.mem hash = some cs := by
  obtain ⟨stc, -, key, -, value, isConst, -, -, -, -, -, hput⟩ := storagePutInternal_eq_ok.mp hp
  obtain ⟨-, -, -, -, -, rfl⟩ := putWithContextAndFlags_eq_ok.mp hput
  exact hcs

/-- Every item a successful call leaves staged was staged before, or belongs to a contract the
ledger holds with storage. -/
theorem Syscall.run_staged (h : s.run ic v = .ok o)
    (hsi : getStorageItemFromStore o.mem hash k = some si) :
    getStorageItemFromStore ic.mem hash k = some si ∨
      ∃ cs, ic.bc.getContractState hash = some cs ∧ cs.hasStorage = true := by
  by_cases hw : s.IsWriter
  · rcases hw with rfl | rfl | rfl | rfl <;> simp only [Syscall.run, runWriter] at h <;>
      obtain ⟨⟨m, es⟩, hm, rfl⟩ := map_eq_ok.mp h
    · obtain ⟨-, stc, x, key, -, -, -, -, -, rfl⟩ := storageDelete_eq_ok.mp hm
      rw [getStorageItemFromStore_delete] at hsi
      split_ifs at hsi
      exact .inl hsi
    · exact storagePutInternal_staged hm hsi
    · exact storagePutInternal_staged hm hsi
    · obtain ⟨-, -, hash', -, hdel⟩ := contractDestroy_eq_ok.mp hm
      split at hdel
      · exact .inl (hdel ▸ hsi)
      · split_ifs at hdel
        · obtain ⟨items, -, rfl⟩ := hdel
          rw [getStorageItemFromStore_foldl_delete] at hsi
          split_ifs at hsi
          exact .inl hsi
        · rw [hdel, getStorageItemFromStore_deleteContract] at hsi
          exact .inl hsi
  · exact .inl (Syscall.run_mem_of_reader hw h ▸ hsi)

/-- A successful call never makes a contract state visible in the staged store. -/
theorem Syscall.run_contractState {cs : ContractState} (h : s.run ic v = .ok o)
    (hcs : getContractStateFromStore o.mem hash = some cs) :
    getContractStateFromStore ic.mem hash = some cs := by
  by_cases hw : s.IsWriter
  · rcases hw with rfl | rfl | rfl | rfl <;> simp only [Syscall.run, runWriter] at h <;>
      obtain ⟨⟨m, es⟩, hm, rfl⟩ := map_eq_ok.mp h
    · obtain ⟨-, stc, x, key, -, -, -, -, -, rfl⟩ := storageDelete_eq_ok.mp hm
      exact hcs
    · exact storagePutInternal_contractState hm hcs
    · exact storagePutInternal_contractState hm hcs
    · obtain ⟨-, -, hash', -, hdel⟩ := contractDestroy_eq_ok.mp hm
      split at hdel
      · exact hdel ▸ hcs
      · have hcs' : getContractStateFromStore (deleteContractStateInStore ic.mem hash') hash =
            some cs := by
          split_ifs at hdel
          · obtain ⟨items, -, rfl⟩ := hdel
            rwa [getContractStateFromStore_foldl_delete] at hcs
          · rwa [hdel] at hcs
        rw [getContractStateFromStore_deleteContract] at hcs'
        split_ifs at hcs'
        exact hcs'
  · exact Syscall.run_mem_of_reader hw h ▸ hcs

end Call

/-! ### Runs -/

theorem InteropContext.step_stagedItemsOwned {ic : InteropContext} (c : Call)
    (hi : ic.StagedItemsOwned) : (ic.step c).StagedItemsOwned := by
  unfold InteropContext.step
  split
  · rename_i o ho
    exact fun h k si hsi => (Syscall.run_staged ho hsi).elim (hi h k si) id
  · exact hi

/-- Over every run, from a staged store whose items all belong to contracts that the ledger
holds with storage, every staged item belongs to such a contract. -/
theorem runCalls_stagedItemsOwned (ic : InteropContext) (cs : List Call)
    (hi : ic.StagedItemsOwned) : (ic.runCalls cs).StagedItemsOwned := by
  induction cs generalizing ic with
  | nil => exact hi
  | cons c cs ih => exact ih _ (InteropContext.step_stagedItemsOwned c hi)

/-- A put of `[7]` under key `[1]` through `demoArgs`. -/
def demoPut : Call := ⟨.storagePut, ⟨demoArgs ++ [.byteArray [7]], []⟩⟩

/-- A put, a delete and a destroy, from the empty staged store of `demoContext`. -/
theorem runCalls_stagedItemsOwned_demo :
    demoContext.StagedItemsOwned ∧
      (demoContext.runCalls [demoPut, demoDelete, demoDestroy]).StagedItemsOwned :=
  ⟨stagedItemsOwned_empty demoContext,
    runCalls_stagedItemsOwned demoContext _ (stagedItemsOwned_empty demoContext)⟩

theorem InteropContext.step_contractState {ic : InteropContext} (c : Call) {h : Uint160}
    {cs : ContractState} (hcs : getContractStateFromStore (ic.step c).mem h = some cs) :
    getContractStateFromStore ic.mem h = some cs := by
  unfold InteropContext.step at hcs
  split at hcs
  · exact Syscall.run_contractState ‹_› hcs
  · exact hcs

/-- A run never makes a contract state visible in the staged store: every contract state
staged after the run was staged, the same, before it. -/
theorem runCalls_contractState (ic : InteropContext) (cs : List Call) {h : Uint160}
    {c : ContractState} (hc : getContractStateFromStore (ic.runCalls cs).mem h = some c) :
    getContractStateFromStore ic.mem h = some c := by
  induction cs generalizing ic with
  | nil => exact hc
  | cons d cs ih => exact InteropContext.step_contractState d (ih _ hc)

/-- The contract staged in `createdContext` is still staged after a failed delete. -/
theorem runCalls_contractState_demo :
    getContractStateFromStore (createdContext.runCalls [demoDelete]).mem demoHash =
        some demoContract ∧
      getContractStateFromStore createdContext.mem demoHash = some demoContract :=
  ⟨rfl, runCalls_contractState createdContext [demoDelete] rfl⟩

/-! ### Reading your writes -/

section Frame
variable {ic : InteropContext} {h : Uint160} {key : Bytes}

/-- One call that neither writes `(h, key)` nor destroys a contract leaves the item visible
under `(h, key)` as it was. -/
theorem InteropContext.step_visibleItem_frame (c : Call) (hw : ¬c.Writes h key)
    (hd : c.syscall ≠ .contractDestroy) :
    (ic.step c).visibleItem h key = ic.visibleItem h key := by
  cases hrun : c.exec ic with
  | error e => rw [InteropContext.step_of_error hrun]
  | ok o =>
    rw [InteropContext.step_of_ok hrun]
    by_cases hs : c.syscall.IsStorageWrite
    · obtain ⟨stc, x, rest, k, he, hk, -, -, hm⟩ := Syscall.run_storageWrite hs hrun
      have hne : ¬(h = stc.scriptHash ∧ key = k) := fun ⟨h₁, h₂⟩ =>
        hw ⟨hs, stc, x, rest, he, h₁.symm, h₂ ▸ hk⟩
      rcases hm with ⟨si, hm⟩ | hm <;> rw [hm]
      · rw [visibleItem_withMem_put, if_neg hne]
      · rw [visibleItem_withMem_delete, if_neg hne]
    · have hr : ¬c.syscall.IsWriter := by
        rintro (h' | h' | h' | h')
        exacts [hs (.inr (.inr h')), hs (.inl h'), hs (.inr (.inl h')), hd h']
      rw [Syscall.run_mem_of_reader hr hrun, InteropContext.withMem_self]

/-- A run none of whose calls writes `(h, key)` or destroys a contract leaves the item
visible under `(h, key)` as it was. -/
theorem runCalls_visibleItem_frame (ic : InteropContext) (calls : List Call)
    (hw : ∀ c ∈ calls, ¬c.Writes h key) (hd : ∀ c ∈ calls, c.syscall ≠ .contractDestroy) :
    (ic.runCalls calls).visibleItem h key = ic.visibleItem h key := by
  induction calls generalizing ic with
  | nil => rfl
  | cons c cs ih =>
    rw [InteropContext.runCalls_cons, ih _ (fun d hd' => hw d (.tail _ hd'))
      (fun d hd' => hd d (.tail _ hd')),
      InteropContext.step_visibleItem_frame c (hw c (.head _)) (hd c (.head _))]

end Frame

/-- Read your writes: after a successful `storagePut` or `storagePutEx` of `value` under
`key` through the context `stc`, a `storageGet` of `key` through any context of the same
contract, read-only or not, pushes `value`, after every run in which no call writes that key
or destroys a contract. -/
theorem storagePut_readBack (getFlag : Bool) (ic : InteropContext) (stc : StorageContext)
    (k x : StackItem) (key value : Bytes) (rest : List StackItem) (istack : List ExecContext)
    (hk : k.bytes = .ok key) (hv : x.bytes = .ok value) {m : MemoryStore} {es : List StackItem}
    (hput : storagePutInternal getFlag ic
      ⟨.interop (.storageContext stc) :: k :: x :: rest, istack⟩ = .ok (m, es))
    (calls : List Call) (hw : ∀ c ∈ calls, ¬c.Writes stc.scriptHash key)
    (hd : ∀ c ∈ calls, c.syscall ≠ .contractDestroy) (stc' : StorageContext)
    (hsc : stc'.scriptHash = stc.scriptHash) (es' : List StackItem)
    (istack' : List ExecContext) :
    storageGet ((ic.withMem m).runCalls calls)
        ⟨.interop (.storageContext stc') :: k :: es', istack'⟩ =
      .ok ⟨es', some (.byteArray value)⟩ := by
  obtain ⟨stc₀, k₀, key₀, x₀, value₀, isConst, rest₀, he, hk₀, hv₀, -, hpw⟩ :=
    storagePutInternal_eq_ok.mp hput
  simp only [List.cons.injEq, StackItem.interop.injEq, InteropValue.storageContext.injEq] at he
  obtain ⟨rfl, rfl, rfl, -⟩ := he
  obtain rfl : key = key₀ := Except.ok.inj (hk.symm.trans hk₀)
  obtain rfl : value = value₀ := Except.ok.inj (hv.symm.trans hv₀)
  obtain ⟨-, -, -, hc, -, rfl⟩ := putWithContextAndFlags_eq_ok.mp hpw
  -- the put is visible after the run, and the ledger the check reads is the same
  have hvis := runCalls_visibleItem_frame (ic.withMem
    (putStorageItemIntoStore ic.mem stc.scriptHash key ⟨value, isConst⟩)) calls hw hd
  rw [visibleItem_withMem_put, if_pos ⟨rfl, rfl⟩] at hvis
  obtain ⟨m', hm'⟩ := InteropContext.runCalls_eq_withMem (ic.withMem
    (putStorageItemIntoStore ic.mem stc.scriptHash key ⟨value, isConst⟩)) calls
  have hc' : checkStorageContext ((ic.withMem
      (putStorageItemIntoStore ic.mem stc.scriptHash key ⟨value, isConst⟩)).runCalls calls)
      stc' = .ok () := by
    rw [← hc, hm']
    simp only [checkStorageContext, InteropContext.withMem_bc, hsc]
  exact storageGet_eq_ok.mpr ⟨stc', k, key, rfl, hc', hk, by rw [hsc, hvis]; rfl⟩

/-- A put of `[8]` under the key `[2]` through `demoArgs`'s context. -/
def demoPutOther : Call :=
  ⟨.storagePut, ⟨[.interop (.storageContext ⟨demoHash, false⟩), .byteArray [2], .byteArray [8]],
    []⟩⟩

/-- `[7]` put under `[1]`, then a get and a put of another key, then a get through a read-only
context. -/
theorem storagePut_readBack_demo :
    ∃ m es, storagePut demoContext ⟨demoArgs ++ [.byteArray [7]], []⟩ = .ok (m, es) ∧
      storageGet ((demoContext.withMem m).runCalls [demoGet, demoPutOther])
          ⟨[.interop (.storageContext ⟨demoHash, true⟩), .byteArray [1]], []⟩ =
        .ok ⟨[], some (.byteArray [7])⟩ := by
  -- the get is no write, and the put writes the key `[2]`
  have hw : ∀ c ∈ [demoGet, demoPutOther], ¬c.Writes demoHash [1] := by
    rintro c hc ⟨hs, stc, x, rest, he, -, hk⟩
    simp only [List.mem_cons, List.not_mem_nil, or_false] at hc
    rcases hc with rfl | rfl
    · rcases hs with h | h | h <;> cases h
    · cases he
      simp [StackItem.bytes] at hk
  exact ⟨_, _, rfl, storagePut_readBack false demoContext ⟨demoHash, false⟩ (.byteArray [1])
    (.byteArray [7]) [1] [7] [] [] rfl rfl rfl [demoGet, demoPutOther] hw
    (by simp [demoGet, demoPutOther]) ⟨demoHash, true⟩ rfl [] []⟩

end NeoInterop
