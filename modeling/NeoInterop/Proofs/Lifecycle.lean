import NeoInterop.Proofs.Find

/-!
# `NeoInterop.Proofs.Lifecycle`: creating and migrating a contract

`contractCreate` and `contractMigrate` build a contract `B` from their arguments with
`createContractStateFromVM` and look up `B`'s script hash in the DAO. Every result here is
stated for the contract the arguments build, so for every DAO and every argument list.

* `contractCreate_of_stored`, `contractCreate_of_new` and the same pair for
  `contractMigrateCreate`: what each handler returns in each branch of the lookup.
* `getStorageItem_foldl_put_of_mem` and `getStorageItem_foldl_put_of_not_mem`: the loop of
  `contractMigrate` stores each item it visits, with `IsConst` cleared, and touches nothing
  else.
* `contractCreate_idempotent`: a contract already stored under the script's hash is pushed as
  stored and nothing is written, by `contractCreate` and by `contractMigrate` up to its
  destroy; so a second `contractCreate` with the same script leaves the DAO as the first one
  left it and pushes the same record.
* `contractMigrateCreate_storage`: a new contract with storage gets every item of the
  executing contract, with `IsConst` cleared, and no other item changes; otherwise no item is
  copied.
-/

set_option autoImplicit false

namespace NeoInterop

/-! ### The two handlers, branch by branch -/

section Branches

variable {ic : Context} {v : VM} {B : ContractState} {es : List StackItem}

theorem Dao.getContractState_of_some {d : Dao} {h : Uint160} {cs : ContractState}
    (hc : d.contracts h = some cs) : d.getContractState h = .ok cs := by
  simp [Dao.getContractState, hc]

theorem Dao.getContractState_of_none {d : Dao} {h : Uint160} (hc : d.contracts h = none) :
    d.getContractState h = .error "key not found" := by
  simp [Dao.getContractState, hc]

theorem contractCreate_of_stored (hB : createContractStateFromVM ic v = .ok (B, es))
    {cs : ContractState} (hc : ic.dao.contracts (B.scriptHash ic.crypto) = some cs) :
    contractCreate ic v = .ok ⟨ic.dao, es, some (.interop (.contract cs))⟩ := by
  simp [contractCreate, hB, Dao.getContractState_of_some hc]

theorem contractCreate_of_new (hB : createContractStateFromVM ic v = .ok (B, es))
    (hc : ic.dao.contracts (B.scriptHash ic.crypto) = none) :
    contractCreate ic v =
      .ok ⟨ic.dao.putContractState ic.crypto B, es, some (.interop (.contract B))⟩ := by
  simp [contractCreate, hB, Dao.getContractState_of_none hc]

theorem contractMigrateCreate_of_stored (hB : createContractStateFromVM ic v = .ok (B, es))
    {cs : ContractState} (hc : ic.dao.contracts (B.scriptHash ic.crypto) = some cs) :
    contractMigrateCreate ic v = .ok (ic.dao, cs, es) := by
  simp [contractMigrateCreate, hB, Dao.getContractState_of_some hc]

theorem contractMigrateCreate_of_new_noStorage
    (hB : createContractStateFromVM ic v = .ok (B, es))
    (hc : ic.dao.contracts (B.scriptHash ic.crypto) = none) (hst : B.hasStorage = false) :
    contractMigrateCreate ic v = .ok (ic.dao.putContractState ic.crypto B, B, es) := by
  simp [contractMigrateCreate, hB, Dao.getContractState_of_none hc, hst]

theorem contractMigrateCreate_of_new_storage
    (hB : createContractStateFromVM ic v = .ok (B, es))
    (hc : ic.dao.contracts (B.scriptHash ic.crypto) = none) (hst : B.hasStorage = true)
    {A : Uint160} (hA : v.getCurrentScriptHash ic.crypto = .ok A) :
    contractMigrateCreate ic v = .ok ((ic.dao.getStorageItems A).entries.foldl
      (fun d e => d.putStorageItem (B.scriptHash ic.crypto) e.1 { e.2 with isConst := false })
      (ic.dao.putContractState ic.crypto B), B, es) := by
  simp [contractMigrateCreate, hB, Dao.getContractState_of_none hc, hst, hA, Dao.getStorageItems]

/-- After a successful `contractCreate`, the record it pushed is stored under the script's
hash. -/
theorem contractCreate_stores (hB : createContractStateFromVM ic v = .ok (B, es))
    {r : NeoResult} (hr : contractCreate ic v = .ok r) :
    ∃ c, r.push = some (.interop (.contract c)) ∧
      r.dao.contracts (B.scriptHash ic.crypto) = some c := by
  cases hc : ic.dao.contracts (B.scriptHash ic.crypto) with
  | some cs =>
    rw [contractCreate_of_stored hB hc, Except.ok.injEq] at hr
    exact ⟨cs, by rw [← hr], by rw [← hr, hc]⟩
  | none =>
    rw [contractCreate_of_new hB hc, Except.ok.injEq] at hr
    exact ⟨B, by rw [← hr], by simp [← hr]⟩

end Branches

/-! ### Copying storage -/

section Copy

variable (B : Uint160)

/-- The loop of `contractMigrate`: each visited item stored under `B`, `IsConst` cleared. -/
theorem getStorageItem_foldl_put_of_not_mem (l : List (Bytes × StorageItem)) (d : Dao)
    {h : Uint160} {k : Bytes} (hk : ¬(h = B ∧ k ∈ l.map Prod.fst)) :
    (l.foldl (fun d e => d.putStorageItem B e.1 { e.2 with isConst := false }) d).getStorageItem
      h k = d.getStorageItem h k := by
  induction l generalizing d with
  | nil => rfl
  | cons e l ih =>
    have hnot : ¬(h = B ∧ k = e.1) := fun ⟨hh, he⟩ => hk ⟨hh, by simp [he]⟩
    rw [List.foldl_cons, ih _ fun ⟨hh, hm⟩ => hk ⟨hh, List.mem_cons_of_mem _ hm⟩,
      Dao.getStorageItem_put, if_neg hnot]

theorem getStorageItem_foldl_put_of_mem {l : List (Bytes × StorageItem)}
    (hl : (l.map Prod.fst).Nodup) (d : Dao) {k : Bytes} {si : StorageItem} (hm : (k, si) ∈ l) :
    (l.foldl (fun d e => d.putStorageItem B e.1 { e.2 with isConst := false }) d).getStorageItem
      B k = some { si with isConst := false } := by
  induction l generalizing d with
  | nil => cases hm
  | cons e l ih =>
    rw [List.foldl_cons]
    rcases List.mem_cons.mp hm with rfl | hm
    · have hnew : k ∉ l.map Prod.fst := (List.nodup_cons.mp hl).1
      rw [getStorageItem_foldl_put_of_not_mem B l _ fun ⟨_, hk⟩ => hnew hk,
        Dao.getStorageItem_put, if_pos ⟨rfl, rfl⟩]
    · exact ih hl.of_cons _ hm

end Copy

/-! ### Creating twice, and what a migration copies -/

/-- For the contract `B` an argument list builds: when a contract `cs` is stored under `B`'s
script hash, `contractCreate` pushes `cs` and leaves the DAO as it was, and so does
`contractMigrate` up to its destroy, whatever else the arguments hold. And after any
successful `contractCreate`, a second one whose arguments build a contract with the same
script, in a context over the DAO the first left, leaves that DAO and pushes the same record. -/
theorem contractCreate_idempotent (ic : Context) (v : VM) (B : ContractState)
    (es : List StackItem) (hB : createContractStateFromVM ic v = .ok (B, es)) :
    (∀ cs, ic.dao.contracts (B.scriptHash ic.crypto) = some cs →
      contractCreate ic v = .ok ⟨ic.dao, es, some (.interop (.contract cs))⟩ ∧
        contractMigrateCreate ic v = .ok (ic.dao, cs, es)) ∧
    ∀ r₁, contractCreate ic v = .ok r₁ →
      ∀ (ic₂ : Context) (v₂ : VM) (B₂ : ContractState) (es₂ : List StackItem),
        ic₂.dao = r₁.dao → ic₂.crypto = ic.crypto →
        createContractStateFromVM ic₂ v₂ = .ok (B₂, es₂) → B₂.script = B.script →
        contractCreate ic₂ v₂ = .ok ⟨r₁.dao, es₂, r₁.push⟩ := by
  refine ⟨fun _ hc => ⟨contractCreate_of_stored hB hc, contractMigrateCreate_of_stored hB hc⟩,
    fun r₁ hr₁ ic₂ v₂ B₂ es₂ hdao hcrypto hB₂ hscript => ?_⟩
  obtain ⟨c, hpush, hc⟩ := contractCreate_stores hB hr₁
  have hhash : B₂.scriptHash ic₂.crypto = B.scriptHash ic.crypto := by
    simp only [ContractState.scriptHash, hcrypto, hscript]
  rw [contractCreate_of_stored hB₂ (by rw [hhash, hdao, hc]), hdao, hpush]

/-- Every script hashes to nineteen zero bytes and its first byte. -/
def lifecycleCrypto : Crypto :=
  { assetCrypto with hash160 := fun s => ⟨List.replicate 19 0 ++ [s.headD 0], by simp⟩ }

/-- A DAO holding `storageContract` and, as its storage, `findStorage`. -/
def lifecycleDao : Dao :=
  { assets := fun _ => none,
    contracts := fun h =>
      if h = storageContract.scriptHash lifecycleCrypto then some storageContract else none,
    storage := fun h =>
      if h = storageContract.scriptHash lifecycleCrypto then findStorage else StorageMap.empty }

/-- `assetContext` over `lifecycleDao` and `lifecycleCrypto`. -/
def lifecycleContext : Context :=
  { assetContext with dao := lifecycleDao, crypto := lifecycleCrypto }

/-- The arguments of a contract with storage, the script `script` and the name `name`. -/
def createArgs (script name : Bytes) : List StackItem :=
  [.byteArray script, .byteArray [], .bigInteger 0, .bigInteger 1, .byteArray name,
    .byteArray [], .byteArray [], .byteArray [], .byteArray []]

/-- The script of `storageContract` under another name pushes `storageContract` and writes
nothing; a second create of the new script `[0x52]` under another name leaves the DAO the
first one left and pushes its record. -/
theorem contractCreate_idempotent_demo :
    contractCreate lifecycleContext ⟨createArgs [0x51] [1, 2, 3], []⟩ =
        .ok ⟨lifecycleDao, [], some (.interop (.contract storageContract))⟩ ∧
      ∃ r₁, contractCreate lifecycleContext ⟨createArgs [0x52] [], []⟩ = .ok r₁ ∧
        contractCreate { lifecycleContext with dao := r₁.dao } ⟨createArgs [0x52] [7], []⟩ =
          .ok ⟨r₁.dao, [], r₁.push⟩ :=
  ⟨((contractCreate_idempotent lifecycleContext ⟨createArgs [0x51] [1, 2, 3], []⟩ _ _ rfl).1
      storageContract rfl).1,
    _, rfl, (contractCreate_idempotent lifecycleContext ⟨createArgs [0x52] [], []⟩ _ _ rfl).2
      _ rfl _ _ _ _ rfl rfl rfl rfl⟩

/-- For the contract `B` an argument list builds, `contractMigrate` up to its destroy: when no
contract is stored under `B`'s script hash and `B` has storage, every item of the executing
contract `A` is stored under `B` with `IsConst` cleared, and no other item of the DAO changes;
when a contract is stored there or `B` has no storage, no item changes at all. -/
theorem contractMigrateCreate_storage (ic : Context) (v : VM) (B : ContractState)
    (es : List StackItem) (hB : createContractStateFromVM ic v = .ok (B, es)) :
    (ic.dao.contracts (B.scriptHash ic.crypto) = none → B.hasStorage = true →
      ∀ A, v.getCurrentScriptHash ic.crypto = .ok A →
      ∃ dao, contractMigrateCreate ic v = .ok (dao, B, es) ∧
        (∀ k si, (ic.dao.getStorageItems A).get k = some si →
          dao.getStorageItem (B.scriptHash ic.crypto) k = some { si with isConst := false }) ∧
        ∀ h k, ¬(h = B.scriptHash ic.crypto ∧ (ic.dao.getStorageItems A).get k ≠ none) →
          dao.getStorageItem h k = ic.dao.getStorageItem h k) ∧
    (ic.dao.contracts (B.scriptHash ic.crypto) ≠ none ∨ B.hasStorage = false →
      ∃ dao c, contractMigrateCreate ic v = .ok (dao, c, es) ∧
        dao.storage = ic.dao.storage) := by
  refine ⟨fun hc hst A hA => ⟨_, contractMigrateCreate_of_new_storage hB hc hst hA,
    fun k si hk => ?_, fun h k hk => ?_⟩, fun hcase => ?_⟩
  · exact getStorageItem_foldl_put_of_mem _ (ic.dao.getStorageItems A).nodup _
      (StorageMap.get_eq_some_iff.mp hk)
  · rw [getStorageItem_foldl_put_of_not_mem _ _ _ fun ⟨hh, hm⟩ =>
      hk ⟨hh, mt StorageMap.get_eq_none_iff.mp (not_not.mpr hm)⟩]
    rfl
  · cases hc : ic.dao.contracts (B.scriptHash ic.crypto) with
    | some cs => exact ⟨_, _, contractMigrateCreate_of_stored hB hc, rfl⟩
    | none =>
      have hst : B.hasStorage = false := hcase.resolve_left (by simp [hc])
      exact ⟨_, _, contractMigrateCreate_of_new_noStorage hB hc hst, rfl⟩

/-- Migrating `storageContract` to the new script `[0x52]`: the const item under `[1]` is
copied as a variable one, and a key `storageContract` lacks stays empty. -/
theorem contractMigrateCreate_storage_demo :
    ∃ dao c, contractMigrateCreate lifecycleContext ⟨createArgs [0x52] [], [⟨[0x51]⟩]⟩ =
        .ok (dao, c, []) ∧
      dao.getStorageItem (c.scriptHash lifecycleCrypto) [1] = some ⟨[30], false⟩ ∧
      dao.getStorageItem (c.scriptHash lifecycleCrypto) [3] = none := by
  obtain ⟨dao, hrun, hcopy, hframe⟩ :=
    (contractMigrateCreate_storage lifecycleContext ⟨createArgs [0x52] [], [⟨[0x51]⟩]⟩ _ _
      rfl).1 rfl rfl (storageContract.scriptHash lifecycleCrypto) rfl
  exact ⟨dao, _, hrun, hcopy [1] ⟨[30], true⟩ rfl,
    (hframe _ [3] fun ⟨_, hne⟩ => hne rfl).trans rfl⟩

end NeoInterop
