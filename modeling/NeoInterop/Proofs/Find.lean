import NeoInterop.Core.InteropNeoContracts
import NeoInterop.Proofs.Assets

/-!
# `NeoInterop.Proofs.Find`: what `storageFind` pushes

`storageFind` adds the items of a contract whose key starts with a prefix to a map item,
each under its full key, and sorts the map's entries by key. The loop visits the DAO's map
in an order Go leaves open, and `sort.Slice` is not stable, yet neither shows in the result.

* `foldl_mapAdd_distinct`: on distinct keys `(*MapItem).Add` only appends, so the map item
  holds one entry per item, in the order the loop visits them.
* `sortSlice_keyLess_strict`: sorting entries with distinct keys by `keyLess` leaves the
  keys in strictly increasing `bytes.Compare` order.
* `storageFind_sortedEntries`: for every DAO, every contract with storage and every prefix,
  the iterator's entries are exactly the items under their full keys with their values,
  each once, in strictly increasing order of the full key.
* `storageFind_map_order`: two DAOs with the same contracts whose storage maps hold the same
  entries in any order give the same result on every stack, so the order Go's `range` visits
  the map in never shows.
-/

set_option autoImplicit false

namespace NeoInterop

/-! ### The map item -/

/-- The entries the loop of `storageFind` means to add: each item under the prefix and its
key, with its value. -/
def fullEntries (p : Bytes) (l : List (Bytes × StorageItem)) : List (Bytes × Bytes) :=
  l.map fun e => (p ++ e.1, e.2.value)

theorem fullEntries_keys_nodup (p : Bytes) (m : StorageMap) :
    ((fullEntries p m.entries).map Prod.fst).Nodup := by
  have := m.nodup.map fun a b (h : p ++ a = p ++ b) => List.append_cancel_left h
  simpa [fullEntries, Function.comp_def] using this

theorem mem_fullEntries {p k v : Bytes} {m : StorageMap} :
    (k, v) ∈ fullEntries p m.entries ↔
      ∃ s si, m.get s = some si ∧ k = p ++ s ∧ v = si.value := by
  simp only [fullEntries, List.mem_map, Prod.mk.injEq, StorageMap.get_eq_some_iff, Prod.exists]
  constructor <;> rintro ⟨s, si, h, rfl, rfl⟩ <;> exact ⟨s, si, h, rfl, rfl⟩

/-- On keys that are distinct and new to the map, the loop of `storageFind` appends one
entry per item. -/
theorem foldl_mapAdd_distinct (p : Bytes) (l : List (Bytes × StorageItem))
    (m : List (Bytes × Bytes)) (hl : (l.map Prod.fst).Nodup)
    (hm : ∀ e ∈ l, p ++ e.1 ∉ m.map Prod.fst) :
    l.foldl (fun m e => mapAdd m (p ++ e.1) e.2.value) m = m ++ fullEntries p l := by
  induction l generalizing m with
  | nil => simp [fullEntries]
  | cons e l ih =>
    have hnew : ∀ e' ∈ l, p ++ e'.1 ∉ (m ++ [(p ++ e.1, e.2.value)]).map Prod.fst := by
      intro e' he'
      simp only [List.map_append, List.mem_append, List.map_singleton, List.mem_singleton,
        not_or]
      refine ⟨hm e' (List.mem_cons_of_mem _ he'), fun h => ?_⟩
      have hkey : e'.1 = e.1 := List.append_cancel_left h
      exact (List.nodup_cons.mp hl).1 (hkey ▸ List.mem_map_of_mem _ he')
    rw [List.foldl_cons, mapAdd_of_not_mem (hm e (List.mem_cons_self _ _)),
      ih _ hl.of_cons hnew]
    simp [fullEntries]

/-! ### The order -/

/-- `keyLess b a` fails exactly when `a` is not after `b`. -/
theorem keyLess_eq_false {a b : Bytes × Bytes} :
    keyLess b a = false ↔ bytesCompare a.1 b.1 ≠ 1 := by
  rw [keyLess, bytesCompare_swap a.1 b.1, beq_eq_false_iff_ne]
  omega

theorem keyLess_asymm (a b : Bytes × Bytes) (h : keyLess a b = true) : keyLess b a = false := by
  rw [keyLess_eq_false]
  rw [keyLess, beq_iff_eq] at h
  omega

theorem keyLess_negTrans (a b c : Bytes × Bytes) (hab : keyLess b a = false)
    (hbc : keyLess c b = false) : keyLess c a = false :=
  keyLess_eq_false.mpr
    (bytesCompare_le_trans (keyLess_eq_false.mp hab) (keyLess_eq_false.mp hbc))

/-- Sorted by `keyLess`, entries with distinct keys are in strictly increasing key order. -/
theorem sortSlice_keyLess_strict {l : List (Bytes × Bytes)} (hl : (l.map Prod.fst).Nodup) :
    (sortSlice keyLess l).Pairwise fun a b => bytesCompare a.1 b.1 = -1 := by
  have hnd : ((sortSlice keyLess l).map Prod.fst).Nodup :=
    ((sortSlice_perm keyLess l).map _).nodup_iff.mpr hl
  refine (sortSlice_pairwise keyLess keyLess_asymm keyLess_negTrans l).imp₂
    (fun a b hab hne => ?_) (List.pairwise_map.mp hnd)
  have hcases := bytesCompare_cases a.1 b.1
  have hne0 : bytesCompare a.1 b.1 ≠ 0 := fun h => hne (bytesCompare_eq_zero.mp h)
  have hle := keyLess_eq_false.mp hab
  omega

/-- Sorting by `keyLess` forgets the order of entries with distinct keys. -/
theorem sortSlice_keyLess_eq_of_perm {l l' : List (Bytes × Bytes)} (hp : l.Perm l')
    (hl : (l.map Prod.fst).Nodup) : sortSlice keyLess l = sortSlice keyLess l' := by
  haveI : IsAntisymm (Bytes × Bytes) fun a b => bytesCompare a.1 b.1 = -1 :=
    ⟨fun a b hab hba => by rw [bytesCompare_swap] at hba; omega⟩
  exact List.eq_of_perm_of_sorted
    ((sortSlice_perm keyLess l).trans (hp.trans (sortSlice_perm keyLess l').symm))
    (sortSlice_keyLess_strict hl) (sortSlice_keyLess_strict ((hp.map _).nodup_iff.mp hl))

/-! ### `storageFind` -/

/-- `storageFind` through a context of a contract with storage: the sorted full entries of
the items under the prefix. -/
theorem storageFind_eq (ic : Context) (h : Uint160) (ro : Bool) (cs : ContractState)
    (hcs : ic.dao.getContractState h = .ok cs) (hst : cs.hasStorage = true) (p : Bytes)
    (es : List StackItem) (istack : List ExecContext) :
    storageFind ic ⟨.interop (.storageContext ⟨h, ro⟩) :: .byteArray p :: es, istack⟩ =
      .ok ⟨es, some (.interop (.mapIterator (sortSlice keyLess
        (fullEntries p (ic.dao.getStorageItemsWithPrefix h p).entries))))⟩ := by
  have hchk : ic.checkStorageContext ⟨h, ro⟩ = .ok () := by
    simp [Context.checkStorageContext, hcs, hst]
  have hfold := foldl_mapAdd_distinct p (ic.dao.getStorageItemsWithPrefix h p).entries []
    (ic.dao.getStorageItemsWithPrefix h p).nodup (by simp)
  simp only [List.nil_append] at hfold
  simp [storageFind, StackItem.asStorageContext, hchk, StackItem.bytes, hfold]

/-- For every DAO, every contract `h` with storage and every prefix `p`, `storageFind`
pushes an iterator whose entries are the pairs `(p ++ s, v)` for the items of `h` under the
prefix, `s` the rest of the key and `v` the value, each once, with the full keys strictly
increasing. -/
theorem storageFind_sortedEntries (ic : Context) (h : Uint160) (ro : Bool)
    (cs : ContractState) (hcs : ic.dao.getContractState h = .ok cs)
    (hst : cs.hasStorage = true) (p : Bytes) (es : List StackItem) (istack : List ExecContext) :
    ∃ elems,
      storageFind ic ⟨.interop (.storageContext ⟨h, ro⟩) :: .byteArray p :: es, istack⟩ =
        .ok ⟨es, some (.interop (.mapIterator elems))⟩ ∧
      (∀ k v, (k, v) ∈ elems ↔ ∃ s si,
        (ic.dao.getStorageItemsWithPrefix h p).get s = some si ∧ k = p ++ s ∧ v = si.value) ∧
      elems.Nodup ∧ elems.Pairwise fun a b => bytesCompare a.1 b.1 = -1 := by
  let items := ic.dao.getStorageItemsWithPrefix h p
  have hperm := sortSlice_perm keyLess (fullEntries p items.entries)
  have hstrict := sortSlice_keyLess_strict (fullEntries_keys_nodup p items)
  refine ⟨_, storageFind_eq ic h ro cs hcs hst p es istack, fun k v => ?_, ?_, hstrict⟩
  · rw [hperm.mem_iff, mem_fullEntries]
  · exact hstrict.imp fun hab heq => by simp [heq, bytesCompare_eq_zero.mpr rfl] at hab

/-- A contract with storage (`properties = 1`). -/
def storageContract : ContractState := ⟨[0x51], [], 0, 1, [], [], [], [], []⟩

/-- Four items visited out of key order, three of them under the prefix `[1]`. -/
def findStorage : StorageMap :=
  ⟨[([1, 5], ⟨[10], false⟩), ([2], ⟨[20], false⟩), ([1], ⟨[30], true⟩),
    ([1, 0, 9], ⟨[40], false⟩)], by decide⟩

/-- A DAO with `storageContract` and `findStorage` under every script hash. -/
def findDao : Dao :=
  { assets := fun _ => none, contracts := fun _ => some storageContract,
    storage := fun _ => findStorage }

/-- `assetContext` over `findDao`. -/
def findContext : Context := { assetContext with dao := findDao }

/-- The prefix `[1]` through a read-only context of `demoHash` in `findContext`. -/
theorem storageFind_sortedEntries_demo :
    findContext.dao.getContractState demoHash = .ok storageContract ∧
      storageContract.hasStorage = true ∧
      ∃ elems, storageFind findContext
          ⟨[.interop (.storageContext ⟨demoHash, true⟩), .byteArray [1]], []⟩ =
          .ok ⟨[], some (.interop (.mapIterator elems))⟩ ∧
        (∀ k v, (k, v) ∈ elems ↔ ∃ s si,
          (findContext.dao.getStorageItemsWithPrefix demoHash [1]).get s = some si ∧
            k = [1] ++ s ∧ v = si.value) ∧
        elems.Nodup ∧ elems.Pairwise fun a b => bytesCompare a.1 b.1 = -1 :=
  ⟨rfl, rfl,
    storageFind_sortedEntries findContext demoHash true storageContract rfl rfl [1] [] []⟩

example : storageFind findContext
      ⟨[.interop (.storageContext ⟨demoHash, true⟩), .byteArray [1]], []⟩ =
    .ok ⟨[], some (.interop (.mapIterator [([1], [30]), ([1, 0, 9], [40]), ([1, 5], [10])]))⟩ :=
  rfl

/-! ### The order of the DAO's map -/

/-- The loop of `storageFind` over a map: its full entries, in the map's order. -/
theorem foldl_mapAdd_nil (p : Bytes) (m : StorageMap) :
    m.entries.foldl (fun m e => mapAdd m (p ++ e.1) e.2.value) [] = fullEntries p m.entries :=
  foldl_mapAdd_distinct p m.entries [] m.nodup (by simp)

/-- `storageFind` does not depend on the order in which the DAO's map is visited: over two
DAOs with the same contracts whose storage maps hold the same entries, in any order, it gives
the same result, on every stack. -/
theorem storageFind_map_order (ic : Context) (d : Dao) (hc : d.contracts = ic.dao.contracts)
    (hs : ∀ h, (d.storage h).entries.Perm (ic.dao.storage h).entries) (v : VM) :
    storageFind { ic with dao := d } v = storageFind ic v := by
  have hchk : ∀ stc, Context.checkStorageContext { ic with dao := d } stc =
      ic.checkStorageContext stc := by
    simp [Context.checkStorageContext, Dao.getContractState, hc]
  have hsort : ∀ h p, sortSlice keyLess ((d.getStorageItemsWithPrefix h p).entries.foldl
      (fun m e => mapAdd m (p ++ e.1) e.2.value) []) =
      sortSlice keyLess ((ic.dao.getStorageItemsWithPrefix h p).entries.foldl
        (fun m e => mapAdd m (p ++ e.1) e.2.value) []) := fun h p => by
    rw [foldl_mapAdd_nil, foldl_mapAdd_nil]
    exact sortSlice_keyLess_eq_of_perm ((StorageMap.withPrefix_perm (hs h) p).map _)
      (fullEntries_keys_nodup p _)
  simp only [storageFind, hchk, hsort]

/-- `findDao` with its storage map visited backwards. -/
def findDaoReversed : Dao :=
  { findDao with
    storage := fun _ => ⟨findStorage.entries.reverse, List.nodup_reverse.mpr findStorage.nodup⟩ }

theorem storageFind_map_order_demo :
    findDaoReversed.contracts = findContext.dao.contracts ∧
      (∀ h, (findDaoReversed.storage h).entries.Perm (findContext.dao.storage h).entries) ∧
      storageFind { findContext with dao := findDaoReversed }
          ⟨[.interop (.storageContext ⟨demoHash, true⟩), .byteArray [1]], []⟩ =
        storageFind findContext ⟨[.interop (.storageContext ⟨demoHash, true⟩), .byteArray [1]], []⟩ :=
  ⟨rfl, fun _ => List.reverse_perm _,
    storageFind_map_order findContext findDaoReversed rfl (fun _ => List.reverse_perm _) _⟩

end NeoInterop
