import NeoInterop.Core.Execution
import NeoInterop.Proofs.Handlers

/-!
# `NeoInterop.Proofs.StagedStore`: what the storage syscalls make visible

The storage handlers read through two tiers (`InteropContext.visibleItem`: the staged item,
else the ledger's). This module follows that read across writes and across whole runs.

* `visibleItem_withMem_put` and `visibleItem_withMem_delete` are the two read-after-write
  laws. The first is what a map does. The second is not: a staged tombstone reads as a miss,
  so after a delete the key shows the ledger's item again.
* `storageGet_after_storageDelete` lifts the second law to the handlers: after every
  successful `storageDelete`, a `storageGet` with the same arguments pushes what the ledger
  holds for the key. `storageGet_after_storageDelete_demo` is that at one input: a committed
  value deleted in this execution comes back on the next `storageGet`.
* `constItem_frozen`: once the item visible under a key is constant, every later put,
  put-with-flags or delete of that key fails and the visible item stays the same, over every
  run without `contractDestroy`, from every staged store. The step lemma is
  `step_visibleItem_of_const`; its one idea is that a write stages only where the visible
  item was not constant (`Syscall.run_storageWrite`), so it can never shadow a constant
  item, staged or committed.
-/

set_option autoImplicit false

namespace NeoInterop

/-! ### Reading after writing -/

section ReadAfterWrite
variable (ic : InteropContext) (h h' : Uint160) (key key' : Bytes)

@[simp] theorem InteropContext.withMem_self : ic.withMem ic.mem = ic := rfl

/-- After a staged item, the key shows it; other keys are unchanged. -/
theorem visibleItem_withMem_put (si : StorageItem) :
    (ic.withMem (putStorageItemIntoStore ic.mem h key si)).visibleItem h' key' =
      if h' = h ∧ key' = key then some si else ic.visibleItem h' key' := by
  simp only [InteropContext.visibleItem, InteropContext.withMem_mem,
    InteropContext.withMem_bc, getStorageItemFromStore_put]
  split_ifs <;> rfl

/-- After a staged tombstone, the key shows the ledger's item; other keys are unchanged. -/
theorem visibleItem_withMem_delete :
    (ic.withMem (deleteStorageItemInStore ic.mem h key)).visibleItem h' key' =
      if h' = h ∧ key' = key then ic.bc.getStorageItem h key else ic.visibleItem h' key' := by
  simp only [InteropContext.visibleItem, InteropContext.withMem_mem,
    InteropContext.withMem_bc, getStorageItemFromStore_delete]
  split_ifs with hk
  · obtain ⟨rfl, rfl⟩ := hk
    rfl
  · rfl

end ReadAfterWrite

/-- A `storageGet` after a successful `storageDelete` with the same arguments pushes the
ledger's value for the key, or an empty array when the ledger has none, whatever was staged or
committed before: the delete's context check passes again, and its tombstone reads as a miss. -/
theorem storageGet_after_storageDelete (ic : InteropContext) (v : VM) {o : Outcome}
    (h : Call.exec ⟨.storageDelete, v⟩ ic = .ok o) :
    ∃ stc x rest key, v.estack = .interop (.storageContext stc) :: x :: rest ∧
      x.bytes = .ok key ∧
      Call.exec ⟨.storageGet, v⟩ (ic.step ⟨.storageDelete, v⟩) = .ok ⟨o.mem, rest,
        some (.byteArray (((ic.bc.getStorageItem stc.scriptHash key).map (·.value)).getD []))⟩ := by
  obtain ⟨⟨m, rest⟩, hd, rfl⟩ := map_eq_ok.mp h
  obtain ⟨-, stc, x, key, he, -, hc, hk, -, rfl⟩ := storageDelete_eq_ok.mp hd
  have hget : storageGet (ic.withMem (deleteStorageItemInStore ic.mem stc.scriptHash key)) v =
      .ok ⟨rest, some (.byteArray (((ic.bc.getStorageItem stc.scriptHash key).map
        (·.value)).getD []))⟩ :=
    storageGet_eq_ok.mpr ⟨stc, x, key, he, hc, hk, by simp [visibleItem_withMem_delete]⟩
  refine ⟨stc, x, rest, key, he, hk, ?_⟩
  rw [InteropContext.step_of_ok h]
  simp only [Call.exec, Syscall.run, runReader, hget]
  rfl

/-! ### A committed value comes back after a delete -/

/-- A script hash for the fixtures below. -/
def demoHash : Uint160 := ⟨List.replicate 20 0, rfl⟩

/-- A contract with storage (`Properties = 1`). -/
def demoContract : ContractState :=
  ⟨[0x51], [], 0, 1, [], [], [], [], []⟩

/-- A ledger that holds nothing: every lookup misses. -/
def emptyLedger : Blockchain where
  blockHeight := 0
  currentBlockHash := ⟨List.replicate 32 0, rfl⟩
  getHeaderHash := fun _ => ⟨List.replicate 32 0, rfl⟩
  getBlock := fun _ => .error "key not found"
  getHeader := fun _ => .error "key not found"
  getTransaction := fun _ => .error "key not found"
  getContractState := fun _ => none
  getStorageItem := fun _ _ => none
  getStorageItems := fun _ => .ok []
  getScriptHashesForVerifying := fun _ => .ok []

/-- A ledger holding `demoContract` and one committed item, `[1] ↦ "100"`, non-constant. -/
def demoLedger : Blockchain :=
  { emptyLedger with
    getContractState := fun h => if h = demoHash then some demoContract else none
    getStorageItem := fun h k =>
      if h = demoHash ∧ k = [1] then some ⟨[0x31, 0x30, 0x30], false⟩ else none
    getStorageItems := fun h =>
      if h = demoHash then .ok [([1], ⟨[0x31, 0x30, 0x30], false⟩)] else .ok [] }

/-- Hashing that maps every script to `demoHash`, so `demoContract` executes as it. -/
def demoCrypto : Crypto := ⟨fun _ => demoHash, fun _ => .error "bad key", fun _ => .error "bad key"⟩

/-- An application execution over `demoLedger` with nothing staged yet. -/
def demoContext : InteropContext := ⟨demoLedger, 0x10, none, none, MemoryStore.empty, demoCrypto⟩

/-- The arguments of a get or a delete of key `[1]` through a writable context. -/
def demoArgs : List StackItem := [.interop (.storageContext ⟨demoHash, false⟩), .byteArray [1]]

/-- A delete of key `[1]` through `demoArgs`. -/
def demoDelete : Call := ⟨.storageDelete, ⟨demoArgs, []⟩⟩

/-- A read of key `[1]` through `demoArgs`. -/
def demoGet : Call := ⟨.storageGet, ⟨demoArgs, []⟩⟩

/-- `storageDelete` of the committed key `[1]` succeeds, and the `storageGet` after it pushes
the committed value "100", not an empty array. -/
theorem storageGet_after_storageDelete_demo :
    (∃ o, demoDelete.exec demoContext = .ok o) ∧
      ∃ o, demoGet.exec (demoContext.runCalls [demoDelete]) = .ok o ∧
        o.push = some (.byteArray [0x31, 0x30, 0x30]) := by
  obtain ⟨o, hd⟩ : ∃ o, demoDelete.exec demoContext = .ok o := ⟨_, rfl⟩
  obtain ⟨stc, x, rest, key, he, hk, hget⟩ := storageGet_after_storageDelete demoContext _ hd
  cases he
  cases hk
  exact ⟨⟨o, hd⟩, _, hget, rfl⟩

/-! ### Constant items are frozen -/

/-- A put, a put with flags or a delete whose arguments name the key `key` of the contract
`h`. -/
def Call.Writes (c : Call) (h : Uint160) (key : Bytes) : Prop :=
  c.syscall.IsStorageWrite ∧ ∃ stc x rest, c.vm.estack = .interop (.storageContext stc) :: x :: rest ∧
    stc.scriptHash = h ∧ x.bytes = .ok key

section Frozen
variable {ic : InteropContext} {h : Uint160} {key : Bytes} {si : StorageItem}

/-- A write to a key whose visible item is constant fails. -/
theorem exec_error_of_writes_const (hv : ic.visibleItem h key = some si)
    (hc : si.isConst = true) {c : Call} (hw : c.Writes h key) : ∃ e, c.exec ic = .error e := by
  obtain ⟨hs, stc, x, rest, he, rfl, hk⟩ := hw
  cases hrun : c.exec ic with
  | error e => exact ⟨e, rfl⟩
  | ok o =>
    obtain ⟨key', hk', -, hnc⟩ := Syscall.run_storageWrite_checks hs hrun he
    obtain rfl := Except.ok.inj (hk.symm.trans hk')
    simp [hnc si hv] at hc

/-- One step keeps a constant visible item: no write can stage over it. -/
theorem step_visibleItem_of_const (hv : ic.visibleItem h key = some si)
    (hc : si.isConst = true) {c : Call} (hd : c.syscall ≠ .contractDestroy) :
    (ic.step c).visibleItem h key = some si := by
  cases hrun : c.exec ic with
  | error e => rwa [InteropContext.step_of_error hrun]
  | ok o =>
    rw [InteropContext.step_of_ok hrun]
    rcases Syscall.run_mem_cases hd hrun with hm | ⟨stc, x, rest, k, -, -, -, hnc, ⟨si', hm⟩ | hm⟩ <;>
      rw [hm]
    · simpa using hv
    · rw [visibleItem_withMem_put]
      split
      · rename_i hk
        rw [hk.1, hk.2] at hv
        simp [hnc si hv] at hc
      · exact hv
    · rw [visibleItem_withMem_delete]
      split
      · rename_i hk
        rw [hk.1, hk.2] at hv
        simp [hnc si hv] at hc
      · exact hv

/-- A run without `contractDestroy` keeps a constant visible item. -/
theorem runCalls_visibleItem_of_const (hv : ic.visibleItem h key = some si)
    (hc : si.isConst = true) (calls : List Call) (hd : ∀ c ∈ calls, c.syscall ≠ .contractDestroy) :
    (ic.runCalls calls).visibleItem h key = some si := by
  induction calls generalizing ic with
  | nil => exact hv
  | cons c cs ih =>
    exact ih (step_visibleItem_of_const hv hc (hd c (.head _))) fun d hd' => hd d (.tail _ hd')

/-- Once the item visible under `(h, key)` is constant, every later put, put with flags or
delete of `(h, key)` fails, and after every prefix of the run the visible item is still the
same constant item. -/
theorem constItem_frozen (hv : ic.visibleItem h key = some si) (hc : si.isConst = true)
    (calls : List Call) (hd : ∀ c ∈ calls, c.syscall ≠ .contractDestroy) :
    (∀ pre c post, calls = pre ++ c :: post → c.Writes h key →
      ∃ e, c.exec (ic.runCalls pre) = .error e) ∧
    ∀ pre post, calls = pre ++ post → (ic.runCalls pre).visibleItem h key = some si := by
  have hpre : ∀ pre post, calls = pre ++ post → (ic.runCalls pre).visibleItem h key = some si :=
    fun pre post he => runCalls_visibleItem_of_const hv hc pre fun c hc' =>
      hd c (he ▸ List.mem_append_left post hc')
  exact ⟨fun pre c post he hw => exec_error_of_writes_const (hpre pre (c :: post) he) hc hw, hpre⟩

/-- `constItem_frozen` from a staged constant item, over a run that tries to delete it and
then reads it. -/
theorem constItem_frozen_staged :
    let ic := demoContext.withMem (putStorageItemIntoStore MemoryStore.empty demoHash [1] ⟨[7], true⟩)
    let si : StorageItem := ⟨[7], true⟩
    let calls := [demoDelete, demoGet]
    ic.visibleItem demoHash [1] = some si ∧ si.isConst = true ∧
      (∀ c ∈ calls, c.syscall ≠ .contractDestroy) ∧
      (∀ pre c post, calls = pre ++ c :: post → c.Writes demoHash [1] →
        ∃ e, c.exec (ic.runCalls pre) = .error e) ∧
      ∀ pre post, calls = pre ++ post → (ic.runCalls pre).visibleItem demoHash [1] = some si := by
  intro ic si calls
  have hv : ic.visibleItem demoHash [1] = some si := rfl
  have hd : ∀ c ∈ calls, c.syscall ≠ .contractDestroy := by simp [calls, demoDelete, demoGet]
  exact ⟨hv, rfl, hd, constItem_frozen hv rfl calls hd⟩

end Frozen

end NeoInterop
