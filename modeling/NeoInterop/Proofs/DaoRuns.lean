import NeoInterop.Core.NeoExecution
import NeoInterop.Proofs.Lifecycle

/-!
# `NeoInterop.Proofs.DaoRuns`: the DAO's invariants over every run

`Dao.NoOrphanStorage` says that every storage item in the DAO belongs to a contract the DAO
holds, and that this contract has storage. Three pieces of `interop_neo.go` keep it:
`contractCreate` only adds a record under a hash that had none; the copy loop of
`contractMigrate` runs only for a new contract that has storage; and the final
`contractDestroy` removes the executing contract's items together with its record when it has
storage (when it has none, the invariant says it has no items to leave behind).

* `Context.contractDestroy_cases`, `contractCreate_cases`, `contractMigrateCreate_cases`,
  `contractMigrate_cases`, `assetCreate_dao` and `assetRenew_dao` say once what each writer
  does to the DAO, and `NeoSyscall.run_dao_cases` what any handler does; every invariant
  below is derived from them.
* `Context.contractDestroy_spec`: in a DAO without orphaned storage, `contractDestroy` leaves
  nothing of the executing contract `A`, neither its record nor an item, and everything else
  as it was.
* `NeoSyscall.run_noOrphanStorage` is the step lemma over every handler of the dispatcher,
  `Context.runCalls_noOrphanStorage` the run lemma.
* `contractMigrate_moves`: in a DAO without orphaned storage, migrating the executing contract
  `A` to a new contract `B` with storage and another script hash leaves `B` with exactly
  `A`'s items, `IsConst` cleared, and nothing of `A`; every other contract keeps its record
  and items.
-/

set_option autoImplicit false

namespace NeoInterop

/-! ### The invariants and the DAO writes -/

/-- Every storage item belongs to a contract that the DAO holds and that has storage. -/
def Dao.NoOrphanStorage (d : Dao) : Prop :=
  ∀ h k si, d.getStorageItem h k = some si →
    ∃ cs, d.contracts h = some cs ∧ cs.hasStorage = true

namespace Dao

variable {d : Dao}

theorem NoOrphanStorage.of_eq {d' : Dao} (hi : d.NoOrphanStorage)
    (hc : d'.contracts = d.contracts) (hs : d'.storage = d.storage) : d'.NoOrphanStorage := by
  intro h k si hsi
  rw [hc]
  exact hi h k si (by rwa [getStorageItem, hs] at hsi)

theorem NoOrphanStorage.putAssetState (hi : d.NoOrphanStorage) (a : Asset) :
    (d.putAssetState a).NoOrphanStorage :=
  hi.of_eq rfl rfl

/-- Without orphaned storage, a hash whose record is missing or has no storage has no
item. -/
theorem NoOrphanStorage.getStorageItem_eq_none (hi : d.NoOrphanStorage) {h : Uint160}
    (hc : ∀ cs, d.contracts h = some cs → cs.hasStorage = false) (k : Bytes) :
    d.getStorageItem h k = none := by
  cases hs : d.getStorageItem h k with
  | none => rfl
  | some si =>
    obtain ⟨cs, hcs, hst⟩ := hi h k si hs
    rw [hc cs hcs] at hst
    cases hst

theorem NoOrphanStorage.putContractState (hi : d.NoOrphanStorage) (crypto : Crypto)
    (cs : ContractState) (hnew : d.contracts (cs.scriptHash crypto) = none) :
    (d.putContractState crypto cs).NoOrphanStorage := by
  intro h k si hsi
  obtain ⟨cs', hcs', hst⟩ := hi h k si hsi
  refine ⟨cs', ?_, hst⟩
  rw [putContractState_contracts, if_neg fun hh => by rw [hh, hnew] at hcs'; cases hcs']
  exact hcs'

/-- The copy loop of `contractMigrate` writes only under `B`, whose record has storage. -/
theorem NoOrphanStorage.foldl_put (B : Uint160) (l : List (Bytes × StorageItem))
    (hi : d.NoOrphanStorage) (hB : ∃ cs, d.contracts B = some cs ∧ cs.hasStorage = true) :
    (l.foldl (fun d e => d.putStorageItem B e.1 { e.2 with isConst := false })
      d).NoOrphanStorage := by
  induction l generalizing d with
  | nil => exact hi
  | cons e l ih =>
    refine ih (fun h k si hsi => ?_) hB
    rw [getStorageItem_put] at hsi
    split_ifs at hsi with heq
    · exact heq.1 ▸ hB
    · exact hi h k si hsi

/-- The delete loop of `contractDestroy`: tombstones for the listed keys of `A`. -/
theorem getStorageItem_foldl_delete (A : Uint160) (l : List (Bytes × StorageItem)) (d : Dao)
    (h : Uint160) (k : Bytes) :
    (l.foldl (fun d e => d.deleteStorageItem A e.1) d).getStorageItem h k =
      if h = A ∧ k ∈ l.map Prod.fst then none else d.getStorageItem h k := by
  induction l generalizing d with
  | nil => simp
  | cons e l ih =>
    rw [List.foldl_cons, ih, getStorageItem_delete]
    simp only [List.map_cons, List.mem_cons]
    by_cases hh : h = A
    · by_cases hk : k = e.1
      · simp only [hh, hk, and_self, true_or, if_true, ite_self]
      · simp only [hh, hk, true_and, and_false, false_or, if_false]
    · simp only [hh, false_and, if_false]

/-- A loop of storage writes leaves the contract table. -/
theorem foldl_contracts {α : Type} (f : Dao → α → Dao)
    (hf : ∀ d a, (f d a).contracts = d.contracts) (l : List α) (d : Dao) : (l.foldl f d).contracts = d.contracts := by
  induction l generalizing d with
  | nil => rfl
  | cons a l ih => exact (ih _).trans (hf d a)

theorem foldl_delete_contracts (A : Uint160) (l : List (Bytes × StorageItem)) (d : Dao) :
    (l.foldl (fun d e => d.deleteStorageItem A e.1) d).contracts = d.contracts :=
  foldl_contracts (fun d (e : Bytes × StorageItem) => d.deleteStorageItem A e.1)
    (fun _ _ => deleteStorageItem_contracts _ _ _) l d

theorem foldl_put_contracts (B : Uint160) (l : List (Bytes × StorageItem)) (d : Dao) :
    (l.foldl (fun d e => d.putStorageItem B e.1 { e.2 with isConst := false }) d).contracts =
      d.contracts :=
  foldl_contracts
    (fun d (e : Bytes × StorageItem) => d.putStorageItem B e.1 { e.2 with isConst := false })
    (fun _ _ => putStorageItem_contracts _ _ _ _) l d

end Dao

/-! ### What each writer does to the DAO -/

section Cases
variable {ic : Context} {v : VM}

/-- `contractDestroy` by its branches: nothing without a record for the executing contract
`A`, else the record deleted, and with storage each of `A`'s items as well. -/
theorem Context.contractDestroy_cases {d : Dao} (h : ic.contractDestroy v = .ok d) :
    ∃ A, v.getCurrentScriptHash ic.crypto = .ok A ∧
      (ic.dao.contracts A = none ∧ d = ic.dao ∨
        ∃ cs, ic.dao.contracts A = some cs ∧
          (cs.hasStorage = false ∧ d = ic.dao.deleteContractState A ∨
            cs.hasStorage = true ∧
              d = ((ic.dao.deleteContractState A).getStorageItems A).entries.foldl
                (fun d e => d.deleteStorageItem A e.1) (ic.dao.deleteContractState A))) := by
  simp only [Context.contractDestroy, pure_eq_ok, throw_eq_error, error_bind, ok_bind,
    bind_eq_ok, ite_error_eq_ok, not_not] at h
  obtain ⟨-, A, hA, h⟩ := h
  refine ⟨A, hA, ?_⟩
  cases hc : ic.dao.contracts A with
  | none =>
    simp only [Dao.getContractState, hc, Except.ok.injEq] at h
    exact .inl ⟨rfl, h.symm⟩
  | some cs =>
    simp only [Dao.getContractState, hc] at h
    cases hs : cs.hasStorage
    · simp only [hs, Bool.false_eq_true, if_false, pure_eq_ok, Except.ok.injEq] at h
      exact .inr ⟨cs, rfl, .inl ⟨hs, h.symm⟩⟩
    · simp only [hs, if_true, pure_eq_ok, Except.ok.injEq] at h
      exact .inr ⟨cs, rfl, .inr ⟨hs, h.symm⟩⟩

/-- `contractCreate` leaves the DAO, or stores the new contract under a hash that had none. -/
theorem contractCreate_cases {r : NeoResult} (h : contractCreate ic v = .ok r) :
    r.dao = ic.dao ∨ ∃ B, ic.dao.contracts (B.scriptHash ic.crypto) = none ∧
      r.dao = ic.dao.putContractState ic.crypto B := by
  obtain ⟨⟨B, es⟩, hB, -⟩ := bind_eq_ok.mp h
  cases hc : ic.dao.contracts (B.scriptHash ic.crypto) with
  | some cs =>
    rw [contractCreate_of_stored hB hc, Except.ok.injEq] at h
    exact .inl (h ▸ rfl)
  | none =>
    rw [contractCreate_of_new hB hc, Except.ok.injEq] at h
    exact .inr ⟨B, hc, h ▸ rfl⟩

/-- `contractMigrate` up to its destroy leaves the DAO, or stores the new contract under a
hash that had none, and when the new contract has storage copies the items of some contract
to it. -/
theorem contractMigrateCreate_cases {d : Dao} {c : ContractState} {es : List StackItem}
    (h : contractMigrateCreate ic v = .ok (d, c, es)) :
    d = ic.dao ∨ ∃ B, ic.dao.contracts (B.scriptHash ic.crypto) = none ∧
      (d = ic.dao.putContractState ic.crypto B ∨ B.hasStorage = true ∧
        ∃ A, d = (ic.dao.getStorageItems A).entries.foldl
          (fun d e => d.putStorageItem (B.scriptHash ic.crypto) e.1 { e.2 with isConst := false })
          (ic.dao.putContractState ic.crypto B)) := by
  obtain ⟨⟨B, es'⟩, hB, -⟩ := bind_eq_ok.mp h
  cases hc : ic.dao.contracts (B.scriptHash ic.crypto) with
  | some cs =>
    rw [contractMigrateCreate_of_stored hB hc, Except.ok.injEq, Prod.mk.injEq] at h
    exact .inl h.1.symm
  | none =>
    cases hst : B.hasStorage
    · rw [contractMigrateCreate_of_new_noStorage hB hc hst, Except.ok.injEq, Prod.mk.injEq] at h
      exact .inr ⟨B, hc, .inl h.1.symm⟩
    · cases hA : v.getCurrentScriptHash ic.crypto with
      | ok A =>
        rw [contractMigrateCreate_of_new_storage hB hc hst hA, Except.ok.injEq,
          Prod.mk.injEq] at h
        exact .inr ⟨B, hc, .inr ⟨hst, A, h.1.symm⟩⟩
      | error e =>
        simp [contractMigrateCreate, hB, Dao.getContractState_of_none hc, hst, hA] at h

/-- `contractMigrate` is its create step and then `contractDestroy` over the DAO that left. -/
theorem contractMigrate_cases {r : NeoResult} (h : contractMigrate ic v = .ok r) :
    ∃ d c es, contractMigrateCreate ic v = .ok (d, c, es) ∧
      Context.contractDestroy { ic with dao := d }
        { v with estack := .interop (.contract c) :: es } = .ok r.dao := by
  simp only [contractMigrate, bind_eq_ok, pure_eq_ok, Prod.exists, Except.ok.injEq] at h
  obtain ⟨d, c, es, hm, d', hd, rfl⟩ := h
  exact ⟨d, c, es, hm, hd⟩

/-- `assetRenew` writes the asset table only. -/
theorem assetRenew_dao {r : NeoResult} (h : assetRenew ic v = .ok r) :
    ∃ a, r.dao = ic.dao.putAssetState a := by
  simp only [assetRenew, pure_eq_ok, throw_eq_error, ok_bind, error_bind, bind_eq_ok,
    ite_error_eq_ok, Prod.exists] at h
  obtain ⟨-, _, _, -, _, -, _, _, -, _, -, _, -, hr⟩ := h
  cases hr
  exact ⟨_, rfl⟩

theorem assetCreate_dao {r : NeoResult} (h : assetCreate ic v = .ok r) :
    ∃ a, r.dao = ic.dao.putAssetState a := by
  obtain ⟨_, _, _, _, _, _, _, _, _, _, _, _, a, h⟩ := assetCreate_ok h
  exact ⟨a, h.2.2.2.2.2.2.2.2.2.2.2.2.2.2.2.2⟩

theorem createContractStateFromVM_trigger {p : ContractState × List StackItem}
    (h : createContractStateFromVM ic v = .ok p) : ic.trigger = Trigger.application := by
  by_contra ht
  unfold createContractStateFromVM at h
  rw [if_pos ht] at h
  cases h

/-- Everything a handler of the dispatcher can do to the DAO: nothing, store a new contract
under a hash that had none, migrate, or store an asset. -/
theorem NeoSyscall.run_dao_cases (s : NeoSyscall) {r : NeoResult} (h : s.run ic v = .ok r) :
    r.dao = ic.dao ∨
      (∃ B, ic.dao.contracts (B.scriptHash ic.crypto) = none ∧
        r.dao = ic.dao.putContractState ic.crypto B) ∨
      (∃ d c es, contractMigrateCreate ic v = .ok (d, c, es) ∧
        Context.contractDestroy { ic with dao := d }
          { v with estack := .interop (.contract c) :: es } = .ok r.dao) ∨
      ∃ a, r.dao = ic.dao.putAssetState a := by
  by_cases hs : s.IsWriter
  · rcases hs with rfl | rfl | rfl | rfl
    · exact (contractCreate_cases h).imp_right .inl
    · exact .inr (.inr (.inl (contractMigrate_cases h)))
    · exact .inr (.inr (.inr (assetCreate_dao h)))
    · exact .inr (.inr (.inr (assetRenew_dao h)))
  · exact .inl (NeoSyscall.run_dao_of_reader hs h)

end Cases

/-! ### `contractDestroy` -/

section Destroy
variable {ic : Context} {v : VM} {d : Dao} {A : Uint160}

theorem Context.contractDestroy_ok (ht : ic.trigger = Trigger.application)
    (hA : v.getCurrentScriptHash ic.crypto = .ok A) : ∃ d, ic.contractDestroy v = .ok d := by
  cases h : ic.contractDestroy v with
  | ok d => exact ⟨d, rfl⟩
  | error e =>
    simp only [Context.contractDestroy, ht, hA, ne_eq, not_true_eq_false, if_false, ok_bind] at h
    split at h <;> (try split at h) <;> cases h

/-- In a DAO without orphaned storage, `contractDestroy` leaves nothing of the executing
contract `A`, neither its record nor an item, and everything else as it was. -/
theorem Context.contractDestroy_spec (hi : ic.dao.NoOrphanStorage)
    (h : ic.contractDestroy v = .ok d) :
    ∃ A, v.getCurrentScriptHash ic.crypto = .ok A ∧ d.contracts A = none ∧
      (∀ h', h' ≠ A → d.contracts h' = ic.dao.contracts h') ∧
      ∀ h' k, d.getStorageItem h' k = if h' = A then none else ic.dao.getStorageItem h' k := by
  obtain ⟨A, hA, ⟨hc, rfl⟩ | ⟨cs, hc, ⟨hs, rfl⟩ | ⟨hs, rfl⟩⟩⟩ := Context.contractDestroy_cases h
  · refine ⟨A, hA, hc, fun _ _ => rfl, fun h' k => ?_⟩
    split_ifs with hh
    · exact hh ▸ hi.getStorageItem_eq_none (fun _ hcs => by rw [hc] at hcs; cases hcs) k
    · rfl
  · refine ⟨A, hA, by simp, fun h' hh => by simp [hh], fun h' k => ?_⟩
    split_ifs with hh
    · subst hh
      exact hi.getStorageItem_eq_none (fun _ hcs => by rw [hc] at hcs; cases hcs; exact hs) k
    · rfl
  · refine ⟨A, hA, by simp [Dao.foldl_delete_contracts], fun h' hh => by
      simp [Dao.foldl_delete_contracts, hh], fun h' k => ?_⟩
    rw [Dao.getStorageItem_foldl_delete]
    split_ifs with hk hh hh
    · rfl
    · exact absurd hk.1 hh
    · subst hh
      exact StorageMap.get_eq_none_iff.mpr fun hm => hk ⟨rfl, hm⟩
    · rfl

theorem Dao.NoOrphanStorage.contractDestroy (hi : ic.dao.NoOrphanStorage)
    (h : ic.contractDestroy v = .ok d) : d.NoOrphanStorage := by
  obtain ⟨A, -, -, hcon, hitems⟩ := Context.contractDestroy_spec hi h
  intro h' k si hsi
  by_cases hh : h' = A
  · rw [hitems, if_pos hh] at hsi
    cases hsi
  · rw [hitems, if_neg hh] at hsi
    rw [hcon h' hh]
    exact hi h' k si hsi

end Destroy

/-! ### Each handler keeps the invariants -/

section Writers
variable {ic : Context} {v : VM}

theorem contractMigrateCreate_noOrphanStorage (hi : ic.dao.NoOrphanStorage) {d : Dao}
    {c : ContractState} {es : List StackItem} (h : contractMigrateCreate ic v = .ok (d, c, es)) :
    d.NoOrphanStorage := by
  obtain rfl | ⟨B, hc, rfl | ⟨hst, A, rfl⟩⟩ := contractMigrateCreate_cases h
  · exact hi
  · exact hi.putContractState ic.crypto B hc
  · exact Dao.NoOrphanStorage.foldl_put _ _ (hi.putContractState ic.crypto B hc) ⟨B, by simp, hst⟩

/-- The step lemma: every handler of the dispatcher keeps the DAO free of orphaned storage. -/
theorem NeoSyscall.run_noOrphanStorage (s : NeoSyscall) (hi : ic.dao.NoOrphanStorage)
    {r : NeoResult} (h : s.run ic v = .ok r) : r.dao.NoOrphanStorage := by
  obtain hd | ⟨B, hc, hd⟩ | ⟨d, c, es, hm, hd⟩ | ⟨a, hd⟩ := s.run_dao_cases h
  · rw [hd]
    exact hi
  · rw [hd]
    exact hi.putContractState ic.crypto B hc
  · exact Dao.NoOrphanStorage.contractDestroy (contractMigrateCreate_noOrphanStorage hi hm) hd
  · rw [hd]
    exact hi.putAssetState a

end Writers

/-! ### Runs -/

/-- The run lemma: from a DAO without orphaned storage, every sequence of calls leaves a DAO
without orphaned storage. -/
theorem Context.runCalls_noOrphanStorage (ic : Context) (cs : List NeoCall)
    (hi : ic.dao.NoOrphanStorage) : (ic.runCalls cs).dao.NoOrphanStorage :=
  Context.runCalls_induction (fun ic => ic.dao.NoOrphanStorage)
    (fun _ s _ _ hi h => s.run_noOrphanStorage hi h) ic cs hi

theorem lifecycleDao_noOrphanStorage : lifecycleDao.NoOrphanStorage := by
  intro h k si hsi
  by_cases hh : h = storageContract.scriptHash lifecycleCrypto
  · exact ⟨storageContract, by simp [lifecycleDao, hh], rfl⟩
  · simp [Dao.getStorageItem, lifecycleDao, hh, StorageMap.get, StorageMap.empty] at hsi

/-- A create of the new script `[0x52]`, a migrate of `storageContract` to `[0x53]`, an asset
create and a create that fails. -/
def lifecycleRun : List NeoCall :=
  [⟨.contractCreate, ⟨createArgs [0x52] [], []⟩⟩,
    ⟨.contractMigrate, ⟨createArgs [0x53] [], [⟨[0x51]⟩]⟩⟩,
    ⟨.assetCreate, ⟨narrowedArgs, []⟩⟩, ⟨.contractCreate, ⟨[], []⟩⟩]

theorem runCalls_noOrphanStorage_demo :
    lifecycleContext.dao.NoOrphanStorage ∧
      (lifecycleContext.runCalls lifecycleRun).dao.NoOrphanStorage :=
  ⟨lifecycleDao_noOrphanStorage,
    Context.runCalls_noOrphanStorage _ _ lifecycleDao_noOrphanStorage⟩

/-! ### Migration moves the storage -/

/-- For the contract `B` an argument list builds, in a DAO without orphaned storage: when no
contract is stored under `B`'s script hash, `B` has storage and the executing contract `A` has
another hash, `contractMigrate` succeeds, pushes `B`, and leaves `B` stored with exactly `A`'s
items, `IsConst` cleared, and nothing of `A`. Every other contract keeps its record and its
items. -/
theorem contractMigrate_moves (ic : Context) (v : VM) (B : ContractState) (es : List StackItem)
    (hB : createContractStateFromVM ic v = .ok (B, es)) (hi : ic.dao.NoOrphanStorage)
    (hnew : ic.dao.contracts (B.scriptHash ic.crypto) = none) (hst : B.hasStorage = true)
    (A : Uint160) (hA : v.getCurrentScriptHash ic.crypto = .ok A)
    (hAB : A ≠ B.scriptHash ic.crypto) :
    ∃ r, contractMigrate ic v = .ok r ∧ r.estack = es ∧
      r.push = some (.interop (.contract B)) ∧
      r.dao.contracts (B.scriptHash ic.crypto) = some B ∧ r.dao.contracts A = none ∧
      (∀ k, r.dao.getStorageItem (B.scriptHash ic.crypto) k =
        (ic.dao.getStorageItem A k).map fun si => { si with isConst := false }) ∧
      (∀ k, r.dao.getStorageItem A k = none) ∧
      ∀ h, h ≠ A → h ≠ B.scriptHash ic.crypto →
        r.dao.contracts h = ic.dao.contracts h ∧
          ∀ k, r.dao.getStorageItem h k = ic.dao.getStorageItem h k := by
  have hm := contractMigrateCreate_of_new_storage hB hnew hst hA
  set d₁ := (ic.dao.getStorageItems A).entries.foldl
    (fun d e => d.putStorageItem (B.scriptHash ic.crypto) e.1 { e.2 with isConst := false })
    (ic.dao.putContractState ic.crypto B) with hd₁
  have hi₁ : d₁.NoOrphanStorage := contractMigrateCreate_noOrphanStorage hi hm
  let ic₁ : Context := { ic with dao := d₁ }
  let v₁ : VM := { v with estack := .interop (.contract B) :: es }
  obtain ⟨d₂, hd₂⟩ : ∃ d, ic₁.contractDestroy v₁ = .ok d := Context.contractDestroy_ok
    (createContractStateFromVM_trigger hB) hA
  obtain ⟨A', hA', hcA, hcon, hitems⟩ := Context.contractDestroy_spec hi₁ hd₂
  obtain rfl : A = A' := Except.ok.inj (hA.symm.trans hA')
  have hcon₁ : ∀ h, d₁.contracts h = (ic.dao.putContractState ic.crypto B).contracts h :=
    fun h => by rw [hd₁, Dao.foldl_put_contracts]
  -- the items of `d₁` outside `B` are those of the DAO
  have hframe : ∀ h k, h ≠ B.scriptHash ic.crypto →
      d₁.getStorageItem h k = ic.dao.getStorageItem h k := fun h k hh =>
    getStorageItem_foldl_put_of_not_mem _ _ _ fun ⟨hh', _⟩ => hh hh'
  refine ⟨⟨d₂, es, some (.interop (.contract B))⟩, by simp [contractMigrate, hm, hd₂, ic₁, v₁],
    rfl, rfl, ?_, hcA, fun k => ?_, fun k => by simp [hitems], fun h hA hB => ⟨?_, fun k => ?_⟩⟩
  · rw [hcon _ (Ne.symm hAB), hcon₁]
    simp
  · rw [hitems, if_neg (Ne.symm hAB)]
    cases hk : ic.dao.getStorageItem A k with
    | some si =>
      exact getStorageItem_foldl_put_of_mem _ (ic.dao.getStorageItems A).nodup _
        (StorageMap.get_eq_some_iff.mp hk)
    | none =>
      rw [getStorageItem_foldl_put_of_not_mem _ _ _ fun ⟨_, hm⟩ =>
        StorageMap.get_eq_none_iff.mp hk hm]
      exact hi.getStorageItem_eq_none (fun cs hc => by rw [hnew] at hc; cases hc) k
  · rw [hcon h hA, hcon₁]
    simp [hB]
  · rw [hitems, if_neg hA, hframe h k hB]

/-- `storageContract` migrated to the new script `[0x53]`: its items move to the new contract
and its record goes. -/
theorem contractMigrate_moves_demo :
    ∃ B r, createContractStateFromVM lifecycleContext ⟨createArgs [0x53] [], [⟨[0x51]⟩]⟩ =
        .ok (B, []) ∧
      contractMigrate lifecycleContext ⟨createArgs [0x53] [], [⟨[0x51]⟩]⟩ = .ok r ∧
      r.push = some (.interop (.contract B)) ∧
      r.dao.contracts (storageContract.scriptHash lifecycleCrypto) = none ∧
      ∀ k, r.dao.getStorageItem (B.scriptHash lifecycleCrypto) k =
        (lifecycleDao.getStorageItem (storageContract.scriptHash lifecycleCrypto) k).map
          fun si => { si with isConst := false } := by
  obtain ⟨r, hr, -, hpush, -, hA, hitems, -⟩ :=
    contractMigrate_moves lifecycleContext ⟨createArgs [0x53] [], [⟨[0x51]⟩]⟩ _ _ rfl
      lifecycleDao_noOrphanStorage rfl rfl (storageContract.scriptHash lifecycleCrypto) rfl
      (by decide)
  exact ⟨_, r, rfl, hr, hpush, hA, hitems⟩

end NeoInterop
