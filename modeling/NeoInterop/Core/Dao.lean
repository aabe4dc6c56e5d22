import Mathlib.Data.List.Nodup
import NeoInterop.Core.Types

/-!
# `NeoInterop.Core.Dao`: the store behind the newer handlers

The handlers of `interop_neo.go` read and write the chain's state through `ic.DAO`, which is
absent from the sources. It is modelled here on the spec's store: asset states by ID,
contract states by script hash, and each contract's storage items by key.

A contract's storage is a `StorageMap`, the Go `map[string]*state.StorageItem` that
`GetStorageItems` and `GetStorageItemsWithPrefix` return: its entries, with distinct keys, in
the order a `range` over the map visits them. Go leaves that order open, so a result about a
loop over such a map holds for every order of its entries.

* `StorageMap.get_eq_some_iff` reads an entry back by its key; `StorageMap.get_put` and
  `StorageMap.get_delete` are the two read-after-write laws.
* `StorageMap.withPrefix` is the map `GetStorageItemsWithPrefix` returns: the items whose key
  starts with the prefix, under the rest of their key, in the map's order.
-/

set_option autoImplicit false

namespace NeoInterop

/-! ### Storage maps -/

/-- Modelled from the spec: a Go `map[string]*state.StorageItem`, as the entries a `range`
over it visits. The keys are distinct. -/
structure StorageMap where
  entries : List (Bytes × StorageItem)
  nodup : (entries.map Prod.fst).Nodup

namespace StorageMap

/-- The keys of a sublist of a map's entries are still distinct. -/
theorem nodup_filter (m : StorageMap) (q : Bytes × StorageItem → Bool) :
    ((m.entries.filter q).map Prod.fst).Nodup :=
  m.nodup.sublist ((List.filter_sublist _).map _)

/-- Two entries of a map with the same key are the same entry. -/
theorem eq_of_mem {m : StorageMap} {k : Bytes} {a b : StorageItem}
    (ha : (k, a) ∈ m.entries) (hb : (k, b) ∈ m.entries) : a = b :=
  congrArg Prod.snd (List.inj_on_of_nodup_map m.nodup ha hb rfl)

/-- The empty map. -/
def empty : StorageMap := ⟨[], List.nodup_nil⟩

/-- `m[k]`. -/
def get (m : StorageMap) (k : Bytes) : Option StorageItem :=
  (m.entries.find? fun e => e.1 = k).map Prod.snd

theorem get_eq_some_iff {m : StorageMap} {k : Bytes} {si : StorageItem} :
    m.get k = some si ↔ (k, si) ∈ m.entries := by
  unfold get
  cases hf : m.entries.find? (fun e => decide (e.1 = k)) with
  | none => simpa using List.find?_eq_none.mp hf (k, si)
  | some e =>
    obtain ⟨k', si'⟩ := e
    obtain rfl : k' = k := by simpa using List.find?_some hf
    have hmem := List.mem_of_find?_eq_some hf
    exact ⟨fun h => by simpa [← Option.some.inj h] using hmem,
      fun h => by simp [eq_of_mem hmem h]⟩

theorem get_eq_none_iff {m : StorageMap} {k : Bytes} :
    m.get k = none ↔ k ∉ m.entries.map Prod.fst := by
  simp only [get, Option.map_eq_none', List.find?_eq_none, decide_eq_true_eq, List.mem_map,
    Prod.exists, exists_and_right, exists_eq_right, not_exists]
  exact ⟨fun h si hm => h _ hm rfl, fun h e hm hek => h e.2 (hek ▸ hm)⟩

/-- `m[k] = si`: the new entry, and every other one. -/
def put (m : StorageMap) (k : Bytes) (si : StorageItem) : StorageMap :=
  ⟨(k, si) :: m.entries.filter (fun e => e.1 ≠ k),
    List.nodup_cons.mpr ⟨by simp, m.nodup_filter _⟩⟩

/-- `delete(m, k)`. -/
def delete (m : StorageMap) (k : Bytes) : StorageMap :=
  ⟨m.entries.filter (fun e => e.1 ≠ k), m.nodup_filter _⟩

theorem mem_put {m : StorageMap} {k k' : Bytes} {si si' : StorageItem} :
    (k', si') ∈ (m.put k si).entries ↔
      if k' = k then si' = si else (k', si') ∈ m.entries := by
  simp only [put, List.mem_cons, Prod.mk.injEq, List.mem_filter, decide_eq_true_eq]
  split_ifs with h <;> simp [h]

theorem mem_delete {m : StorageMap} {k k' : Bytes} {si : StorageItem} :
    (k', si) ∈ (m.delete k).entries ↔ k' ≠ k ∧ (k', si) ∈ m.entries := by
  simp [delete, and_comm]

@[simp] theorem get_put (m : StorageMap) (k k' : Bytes) (si : StorageItem) :
    (m.put k si).get k' = if k' = k then some si else m.get k' := by
  refine Option.ext fun si' => ?_
  rw [Option.mem_def, Option.mem_def, get_eq_some_iff, mem_put]
  split_ifs
  · simp [eq_comm]
  · exact get_eq_some_iff.symm

@[simp] theorem get_delete (m : StorageMap) (k k' : Bytes) :
    (m.delete k).get k' = if k' = k then none else m.get k' := by
  refine Option.ext fun si => ?_
  rw [Option.mem_def, Option.mem_def, get_eq_some_iff, mem_delete]
  split_ifs with hk <;> simp [hk, get_eq_some_iff]

/-- Dropping a common prefix keeps the keys of a map distinct. -/
theorem nodup_withPrefix (m : StorageMap) (p : Bytes) :
    (((m.entries.filter fun e => p.isPrefixOf e.1).map
      fun e => (e.1.drop p.length, e.2)).map Prod.fst).Nodup := by
  rw [List.map_map]
  refine List.Nodup.map_on (fun a ha b hb hab => ?_) ((m.nodup_filter _).of_map _)
  simp only [List.mem_filter, List.isPrefixOf_iff_prefix] at ha hb
  refine List.inj_on_of_nodup_map m.nodup ha.1 hb.1 ?_
  rw [← List.prefix_iff_eq_append.mp ha.2, ← List.prefix_iff_eq_append.mp hb.2]
  exact congrArg (p ++ ·) hab

/-- The entries whose key starts with `p`, under the rest of their key. -/
def withPrefix (m : StorageMap) (p : Bytes) : StorageMap :=
  ⟨(m.entries.filter fun e => p.isPrefixOf e.1).map fun e => (e.1.drop p.length, e.2),
    m.nodup_withPrefix p⟩

/-- The prefix filter does not depend on the order of the entries. -/
theorem withPrefix_perm {m m' : StorageMap} (h : m.entries.Perm m'.entries) (p : Bytes) :
    (m.withPrefix p).entries.Perm (m'.withPrefix p).entries :=
  (h.filter _).map _

end StorageMap

/-! ### The DAO -/

/-- Modelled from the spec: the DAO (`ic.DAO`) is absent from the sources. The asset states
by ID, the contract states by script hash, and each contract's storage. -/
structure Dao where
  assets : Uint256 → Option Asset
  contracts : Uint160 → Option ContractState := fun _ => none
  storage : Uint160 → StorageMap := fun _ => StorageMap.empty

namespace Dao

/-- Modelled from the spec: `(*dao).GetAssetState`, an error when there is no asset. -/
def getAssetState (d : Dao) (id : Uint256) : Except String Asset :=
  match d.assets id with
  | some a => .ok a
  | none => .error "key not found"

/-- Modelled from the spec: `(*dao).PutAssetState`, stored under the asset's own ID. -/
def putAssetState (d : Dao) (a : Asset) : Dao :=
  { d with assets := fun id => if id = a.id then some a else d.assets id }

@[simp] theorem getAssetState_put (d : Dao) (a : Asset) (id : Uint256) :
    (d.putAssetState a).getAssetState id = if id = a.id then .ok a else d.getAssetState id := by
  simp only [getAssetState, putAssetState]
  split_ifs <;> rfl

/-- Modelled from the spec: `(*dao).GetContractState`, an error when there is no contract. -/
def getContractState (d : Dao) (h : Uint160) : Except String ContractState :=
  match d.contracts h with
  | some cs => .ok cs
  | none => .error "key not found"

/-- Modelled from the spec: `(*dao).PutContractState`, stored under the contract's script
hash. -/
def putContractState (d : Dao) (crypto : Crypto) (cs : ContractState) : Dao :=
  { d with contracts := fun h => if h = cs.scriptHash crypto then some cs else d.contracts h }

/-- Modelled from the spec: `(*dao).DeleteContractState`. -/
def deleteContractState (d : Dao) (h : Uint160) : Dao :=
  { d with contracts := fun h' => if h' = h then none else d.contracts h' }

/-- Modelled from the spec: `(*dao).GetStorageItem`. -/
def getStorageItem (d : Dao) (h : Uint160) (k : Bytes) : Option StorageItem := (d.storage h).get k

/-- Modelled from the spec: `(*dao).GetStorageItems`, every item of a contract. -/
def getStorageItems (d : Dao) (h : Uint160) : StorageMap := d.storage h

/-- Modelled from the spec: `(*dao).GetStorageItemsWithPrefix`, the items of a contract
whose key starts with `p`, under the rest of their key. -/
def getStorageItemsWithPrefix (d : Dao) (h : Uint160) (p : Bytes) : StorageMap :=
  (d.storage h).withPrefix p

/-- Modelled from the spec: `(*dao).PutStorageItem`. -/
def putStorageItem (d : Dao) (h : Uint160) (k : Bytes) (si : StorageItem) : Dao :=
  { d with storage := fun h' => if h' = h then (d.storage h).put k si else d.storage h' }

/-- Modelled from the spec: `(*dao).DeleteStorageItem`. -/
def deleteStorageItem (d : Dao) (h : Uint160) (k : Bytes) : Dao :=
  { d with storage := fun h' => if h' = h then (d.storage h).delete k else d.storage h' }

@[simp] theorem putContractState_storage (d : Dao) (crypto : Crypto) (cs : ContractState) :
    (d.putContractState crypto cs).storage = d.storage := rfl

@[simp] theorem putContractState_contracts (d : Dao) (crypto : Crypto) (cs : ContractState)
    (h : Uint160) : (d.putContractState crypto cs).contracts h =
      if h = cs.scriptHash crypto then some cs else d.contracts h := rfl

@[simp] theorem putStorageItem_contracts (d : Dao) (h : Uint160) (k : Bytes) (si : StorageItem) :
    (d.putStorageItem h k si).contracts = d.contracts := rfl

@[simp] theorem deleteStorageItem_contracts (d : Dao) (h : Uint160) (k : Bytes) :
    (d.deleteStorageItem h k).contracts = d.contracts := rfl

@[simp] theorem deleteContractState_storage (d : Dao) (h : Uint160) :
    (d.deleteContractState h).storage = d.storage := rfl

@[simp] theorem deleteContractState_contracts (d : Dao) (h h' : Uint160) :
    (d.deleteContractState h).contracts h' = if h' = h then none else d.contracts h' := rfl

@[simp] theorem putAssetState_contracts (d : Dao) (a : Asset) :
    (d.putAssetState a).contracts = d.contracts := rfl

@[simp] theorem putAssetState_storage (d : Dao) (a : Asset) :
    (d.putAssetState a).storage = d.storage := rfl

@[simp] theorem getStorageItem_delete (d : Dao) (h h' : Uint160) (k k' : Bytes) :
    (d.deleteStorageItem h k).getStorageItem h' k' =
      if h' = h ∧ k' = k then none else d.getStorageItem h' k' := by
  simp only [getStorageItem, deleteStorageItem]
  by_cases hh : h' = h <;> simp [hh]

@[simp] theorem getStorageItem_put (d : Dao) (h h' : Uint160) (k k' : Bytes) (si : StorageItem) :
    (d.putStorageItem h k si).getStorageItem h' k' =
      if h' = h ∧ k' = k then some si else d.getStorageItem h' k' := by
  simp only [getStorageItem, putStorageItem]
  by_cases hh : h' = h <;> simp [hh]

end Dao

end NeoInterop
