import NeoInterop.Core.InteropSystem

/-!
# `NeoInterop.Proofs.Handlers`: one spec lemma per handler

Each `_eq_ok` lemma states everything a successful run of one handler of
`interop_system.go` can be: the stack it popped, the checks that passed, the staged store it
leaves and the value it pushes. The guards are part of the statement, so later proofs take
a handler apart with `obtain` on its lemma and never unfold the handler.

The proofs share one shape. `simp only` with `bind_eq_ok` and `ite_error_eq_ok` turns the
handler's `do` block into a chain of existentials and passed guards; the two directions then
match that chain against the statement.

The dispatcher facts at the end are what every run lemma starts from:
`Syscall.run_mem_of_reader` (a read-only handler leaves the staged store as it was) and
`Syscall.run_mem_cases` (what any other handler but `contractDestroy` can stage).
-/

set_option autoImplicit false

namespace NeoInterop

/-! ### Casts -/

theorem asStorageContext_eq_ok {x : StackItem} {stc : StorageContext} :
    x.asStorageContext = .ok stc ↔ x = .interop (.storageContext stc) := by
  rcases x with _ | _ | _ | _ | _ | (_ | _ | _ | _ | _ | _ | _ | _) <;>
    simp [StackItem.asStorageContext]

theorem trigger_guard_iff (t : UInt8) : ¬(t ≠ 0x10 ∧ t ≠ 0x11) ↔ (t = 0x10 ∨ t = 0x11) := by
  tauto

/-! ### Storage -/

section Storage
variable {ic : InteropContext} {v : VM} {m : MemoryStore} {es : List StackItem}

/-- `storageDelete` passes the trigger, read-only, context and constness checks, and stages
a tombstone for the key under the context's contract. -/
theorem storageDelete_eq_ok :
    storageDelete ic v = .ok (m, es) ↔
      (ic.trigger = 0x10 ∨ ic.trigger = 0x11) ∧
      ∃ stc x key, v.estack = .interop (.storageContext stc) :: x :: es ∧
        stc.readOnly = false ∧ checkStorageContext ic stc = .ok () ∧ x.bytes = .ok key ∧
        (ic.visibleItem stc.scriptHash key).any (·.isConst) = false ∧
        m = deleteStorageItemInStore ic.mem stc.scriptHash key := by
  obtain ⟨estack, istack⟩ := v
  simp only [storageDelete, trigger_guard_iff, pure_eq_ok, throw_eq_error, error_bind, ok_bind,
    bind_eq_ok, ite_error_eq_ok, Prod.exists, pop_eq_ok, asStorageContext_eq_ok]
  constructor
  · rintro ⟨ht, _, _, rfl, stc, rfl, hro, ⟨⟩, hc, x, _, rfl, key, hk, hconst, h⟩
    simp only [Except.ok.injEq, Prod.mk.injEq] at h
    obtain ⟨rfl, rfl⟩ := h
    exact ⟨ht, stc, x, key, rfl, by simpa using hro, hc, hk, by simpa using hconst, rfl⟩
  · rintro ⟨ht, stc, x, key, he, hro, hc, hk, hconst, rfl⟩
    exact ⟨ht, _, _, he, stc, rfl, by simp [hro], (), hc, x, es, rfl, key, hk,
      by simp [hconst], rfl⟩

/-- `putWithContextAndFlags` passes the trigger, key size, read-only, context and constness
checks, and stages the new item, flag as given. -/
theorem putWithContextAndFlags_eq_ok {stc : StorageContext} {key value : Bytes}
    {isConst : Bool} :
    putWithContextAndFlags ic stc key value isConst = .ok m ↔
      (ic.trigger = 0x10 ∨ ic.trigger = 0x11) ∧ key.length ≤ maxStorageKeyLen ∧
      stc.readOnly = false ∧ checkStorageContext ic stc = .ok () ∧
      ((ic.visibleItem stc.scriptHash key).getD default).isConst = false ∧
      m = putStorageItemIntoStore ic.mem stc.scriptHash key ⟨value, isConst⟩ := by
  simp only [putWithContextAndFlags, trigger_guard_iff, pure_eq_ok, throw_eq_error, error_bind,
    ok_bind, bind_eq_ok, ite_error_eq_ok, Except.ok.injEq, not_lt, Bool.not_eq_true]
  constructor
  · rintro ⟨ht, hk, hro, ⟨⟩, hc, hconst, rfl⟩
    exact ⟨ht, hk, hro, hc, hconst, rfl⟩
  · rintro ⟨ht, hk, hro, hc, hconst, rfl⟩
    exact ⟨ht, hk, hro, (), hc, hconst, rfl⟩

/-- `storagePutInternal` pops a context, a key and a value (and a flag when `getFlag`), then
succeeds exactly as `putWithContextAndFlags` does on them. -/
theorem storagePutInternal_eq_ok {getFlag : Bool} :
    storagePutInternal getFlag ic v = .ok (m, es) ↔
      ∃ stc k key x value isConst rest,
        v.estack = .interop (.storageContext stc) :: k :: x :: rest ∧
        k.bytes = .ok key ∧ x.bytes = .ok value ∧
        (if getFlag then ∃ f n, rest = f :: es ∧ f.bigInt = .ok n ∧ isConst = (int64 n == 1)
          else rest = es ∧ isConst = false) ∧
        putWithContextAndFlags ic stc key value isConst = .ok m := by
  obtain ⟨estack, istack⟩ := v
  cases getFlag <;>
    simp only [storagePutInternal, pure_eq_ok, ok_bind, bind_eq_ok, Prod.exists, pop_eq_ok,
      asStorageContext_eq_ok, if_true, if_false, Except.ok.injEq, Prod.mk.injEq,
      Bool.false_eq_true]
  · constructor
    · rintro ⟨_, _, rfl, stc, rfl, k, _, rfl, key, hk, x, _, rfl, value, hv, _, hm, rfl, rfl⟩
      exact ⟨stc, k, key, x, value, false, _, rfl, hk, hv, ⟨rfl, rfl⟩, hm⟩
    · rintro ⟨stc, k, key, x, value, c, rest, rfl, hk, hv, ⟨rfl, rfl⟩, hm⟩
      exact ⟨_, _, rfl, stc, rfl, k, _, rfl, key, hk, x, _, rfl, value, hv, m, hm, rfl, rfl⟩
  · constructor
    · rintro ⟨_, _, rfl, stc, rfl, k, _, rfl, key, hk, x, _, rfl, value, hv, f, _, rfl, n, hn, _,
        hm, rfl, rfl⟩
      exact ⟨stc, k, key, x, value, _, _, rfl, hk, hv, ⟨f, n, rfl, hn, rfl⟩, hm⟩
    · rintro ⟨stc, k, key, x, value, c, rest, rfl, hk, hv, ⟨f, n, rfl, hn, rfl⟩, hm⟩
      exact ⟨_, _, rfl, stc, rfl, k, _, rfl, key, hk, x, _, rfl, value, hv, f, _, rfl, n, hn, m,
        hm, rfl, rfl⟩

/-- `storageGet` pushes the visible item's value, or an empty array. -/
theorem storageGet_eq_ok {r : Result} :
    storageGet ic v = .ok r ↔
      ∃ stc x key, v.estack = .interop (.storageContext stc) :: x :: r.estack ∧
        checkStorageContext ic stc = .ok () ∧ x.bytes = .ok key ∧
        r.push = some (.byteArray (((ic.visibleItem stc.scriptHash key).map (·.value)).getD [])) := by
  obtain ⟨estack, istack⟩ := v
  obtain ⟨res, push⟩ := r
  simp only [storageGet, pure_eq_ok, ok_bind, bind_eq_ok, Prod.exists, pop_eq_ok,
    asStorageContext_eq_ok]
  constructor
  · rintro ⟨_, _, rfl, stc, rfl, ⟨⟩, hc, x, _, rfl, key, hk, h⟩
    refine ⟨stc, x, key, ?_⟩
    split at h <;> simp_all
  · rintro ⟨stc, x, key, rfl, hc, hk, rfl⟩
    refine ⟨_, _, rfl, stc, rfl, (), hc, x, res, rfl, key, hk, ?_⟩
    split <;> simp_all

/-- `storageGetContext` and `storageGetReadOnlyContext` push a context for the executing
script, with the family's read-only flag. -/
theorem storageGetContextWith_eq_ok {readOnly : Bool} {r : Result} :
    storageGetContextWith readOnly ic v = .ok r ↔
      ∃ h, getContextScriptHash ic v 0 = .ok h ∧
        r = ⟨v.estack, some (.interop (.storageContext ⟨h, readOnly⟩))⟩ := by
  simp only [storageGetContextWith, pure_eq_ok, bind_eq_ok, Except.ok.injEq]
  exact exists_congr fun _ => and_congr_right fun _ => eq_comm

/-- `storageContextAsReadOnly` pushes the popped context's read-only form. -/
theorem storageContextAsReadOnly_eq_ok {r : Result} :
    storageContextAsReadOnly ic v = .ok r ↔
      ∃ stc, v.estack = .interop (.storageContext stc) :: r.estack ∧
        r.push = some (.interop (.storageContext ⟨stc.scriptHash, true⟩)) := by
  obtain ⟨estack, istack⟩ := v
  obtain ⟨res, push⟩ := r
  simp only [storageContextAsReadOnly, pure_eq_ok, ok_bind, bind_eq_ok, Prod.exists, pop_eq_ok,
    asStorageContext_eq_ok, Except.ok.injEq, Result.mk.injEq]
  constructor
  · rintro ⟨_, _, rfl, ⟨hash, ro⟩, rfl, rfl, rfl⟩
    cases ro <;> exact ⟨_, rfl, rfl⟩
  · rintro ⟨⟨hash, ro⟩, rfl, rfl⟩
    cases ro <;> exact ⟨_, _, rfl, _, rfl, rfl, rfl⟩

/-- `contractGetStorageContext` pushes a writable context for a contract whose state is
staged in this execution. -/
theorem contractGetStorageContext_eq_ok {r : Result} :
    contractGetStorageContext ic v = .ok r ↔
      ∃ cs, v.estack = .interop (.contract cs) :: r.estack ∧
        (getContractStateFromStore ic.mem (cs.scriptHash ic.crypto)).isSome ∧
        r.push = some (.interop (.storageContext ⟨cs.scriptHash ic.crypto, false⟩)) := by
  obtain ⟨estack, istack⟩ := v
  obtain ⟨res, push⟩ := r
  simp only [contractGetStorageContext, pure_eq_ok, throw_eq_error, ok_bind, bind_eq_ok,
    Prod.exists, pop_eq_ok]
  constructor
  · rintro ⟨x, _, rfl, h⟩
    rcases x with _ | _ | _ | _ | _ | (_ | _ | _ | cs | _ | _ | _ | _) <;> simp at h
    obtain ⟨hs, rfl, rfl⟩ := h
    exact ⟨cs, rfl, Option.isSome_iff_ne_none.mpr hs, rfl⟩
  · rintro ⟨cs, rfl, hs, rfl⟩
    exact ⟨_, _, rfl, by simpa [Option.isSome_iff_ne_none] using hs⟩

end Storage

/-! ### Ledger queries -/

section Ledger
variable {ic : InteropContext} {v : VM} {r : Result}

/-- `bcGetBlock` and `bcGetHeader` push the object the argument names, or an empty array
when the ledger reports a miss. -/
theorem bcGetByHash_eq_ok {α : Type} {lookup : Blockchain → Uint256 → Except String α}
    {wrap : α → InteropValue} :
    bcGetByHash lookup wrap ic v = .ok r ↔
      ∃ element hash, v.estack = element :: r.estack ∧
        getBlockHashFromElement ic.bc element = .ok hash ∧
        r.push = some (match lookup ic.bc hash with
          | .error _ => .byteArray []
          | .ok x => .interop (wrap x)) := by
  obtain ⟨estack, istack⟩ := v
  obtain ⟨res, push⟩ := r
  simp only [bcGetByHash, pure_eq_ok, ok_bind, bind_eq_ok, Prod.exists, pop_eq_ok]
  constructor
  · rintro ⟨e, _, rfl, hash, hh, h⟩
    split at h <;> cases h <;> exact ⟨e, hash, rfl, hh, by simp [*]⟩
  · rintro ⟨e, hash, rfl, hh, rfl⟩
    refine ⟨e, res, rfl, hash, hh, ?_⟩
    split <;> simp_all

/-- `bcGetContract` pushes the contract a 20-byte hash names, or an empty array. -/
theorem bcGetContract_eq_ok :
    bcGetContract ic v = .ok r ↔
      ∃ x b hash, v.estack = x :: r.estack ∧ x.bytes = .ok b ∧
        uint160DecodeBytes b = .ok hash ∧
        r.push = some (match ic.bc.getContractState hash with
          | none => .byteArray []
          | some cs => .interop (.contract cs)) := by
  obtain ⟨estack, istack⟩ := v
  obtain ⟨res, push⟩ := r
  simp only [bcGetContract, pure_eq_ok, ok_bind, bind_eq_ok, Prod.exists, pop_eq_ok]
  constructor
  · rintro ⟨x, _, rfl, b, hb, hash, hh, h⟩
    split at h <;> cases h <;> exact ⟨x, b, hash, rfl, hb, hh, by simp [*]⟩
  · rintro ⟨x, b, hash, rfl, hb, hh, rfl⟩
    refine ⟨x, res, rfl, b, hb, hash, hh, ?_⟩
    split <;> simp_all

/-- `bcGetTransaction` pushes the transaction the ledger returns; any ledger error, a miss
included, is its error. -/
theorem bcGetTransaction_eq_ok :
    bcGetTransaction ic v = .ok r ↔
      ∃ tx h, getTransactionAndHeight ic.bc v.estack = .ok ((tx, h), r.estack) ∧
        r.push = some (.interop (.transaction (some tx))) := by
  obtain ⟨res, push⟩ := r
  simp only [bcGetTransaction, pure_eq_ok, bind_eq_ok, Prod.exists, Except.ok.injEq,
    Result.mk.injEq]
  constructor
  · rintro ⟨tx, h, _, ht, rfl, rfl⟩
    exact ⟨tx, h, ht, rfl⟩
  · rintro ⟨tx, h, ht, rfl⟩
    exact ⟨tx, h, res, ht, rfl, rfl⟩

/-- `bcGetTransactionHeight` pushes the height the ledger returns. -/
theorem bcGetTransactionHeight_eq_ok :
    bcGetTransactionHeight ic v = .ok r ↔
      ∃ tx h, getTransactionAndHeight ic.bc v.estack = .ok ((tx, h), r.estack) ∧
        r.push = some (.bigInteger h.toNat) := by
  obtain ⟨res, push⟩ := r
  simp only [bcGetTransactionHeight, pure_eq_ok, bind_eq_ok, Prod.exists, Except.ok.injEq,
    Result.mk.injEq]
  constructor
  · rintro ⟨tx, h, _, ht, rfl, rfl⟩
    exact ⟨tx, h, ht, rfl⟩
  · rintro ⟨tx, h, ht, rfl⟩
    exact ⟨tx, h, res, ht, rfl, rfl⟩

end Ledger

/-! ### Headers, blocks, engine and runtime -/

section Accessors
variable {ic : InteropContext} {v : VM} {r : Result}

/-- The header accessors push their field of the popped header (or block). -/
theorem headerGetField_eq_ok {field : Header → StackItem} :
    headerGetField field ic v = .ok r ↔
      ∃ hd, popHeaderFromVM v.estack = .ok (hd, r.estack) ∧ r.push = some (field hd) := by
  obtain ⟨res, push⟩ := r
  simp only [headerGetField, pure_eq_ok, bind_eq_ok, Prod.exists, Except.ok.injEq,
    Result.mk.injEq]
  constructor
  · rintro ⟨hd, _, h, rfl, rfl⟩
    exact ⟨hd, h, rfl⟩
  · rintro ⟨hd, h, rfl⟩
    exact ⟨hd, res, h, rfl, rfl⟩

theorem popBlock_eq_ok {estack rest : List StackItem} {b : Block} :
    popBlock estack = .ok (b, rest) ↔ estack = .interop (.block b) :: rest := by
  simp only [popBlock, pure_eq_ok, ok_bind, bind_eq_ok, Prod.exists, pop_eq_ok]
  constructor
  · rintro ⟨x, _, rfl, h⟩
    rcases x with _ | _ | _ | _ | _ | (_ | _ | _ | _ | _ | _ | _ | _) <;> simp_all
  · rintro rfl
    exact ⟨_, _, rfl, rfl⟩

theorem blockGetTransactionCount_eq_ok :
    blockGetTransactionCount ic v = .ok r ↔
      ∃ b, v.estack = .interop (.block b) :: r.estack ∧
        r.push = some (.bigInteger b.transactions.length) := by
  obtain ⟨res, push⟩ := r
  simp only [blockGetTransactionCount, pure_eq_ok, bind_eq_ok, Prod.exists, popBlock_eq_ok,
    Except.ok.injEq, Result.mk.injEq]
  constructor
  · rintro ⟨b, _, h, rfl, rfl⟩
    exact ⟨b, h, rfl⟩
  · rintro ⟨b, h, rfl⟩
    exact ⟨b, res, h, rfl, rfl⟩

theorem blockGetTransactions_eq_ok :
    blockGetTransactions ic v = .ok r ↔
      ∃ b, v.estack = .interop (.block b) :: r.estack ∧
        b.transactions.length ≤ maxArraySize ∧
        r.push = some (.array (b.transactions.map fun tx => .interop (.transaction (some tx)))) := by
  obtain ⟨res, push⟩ := r
  simp only [blockGetTransactions, pure_eq_ok, ok_bind, error_bind, bind_eq_ok, Prod.exists,
    popBlock_eq_ok, throw_eq_error, ite_error_eq_ok, not_lt, Except.ok.injEq, Result.mk.injEq]
  constructor
  · rintro ⟨b, _, h, hb, rfl, rfl⟩
    exact ⟨b, h, hb, rfl⟩
  · rintro ⟨b, h, hb, rfl⟩
    exact ⟨b, res, h, hb, rfl, rfl⟩

/-- `blockGetTransaction` pushes the transaction at the argument's `int64` index. -/
theorem blockGetTransaction_eq_ok :
    blockGetTransaction ic v = .ok r ↔
      ∃ b x n, v.estack = .interop (.block b) :: x :: r.estack ∧ x.bigInt = .ok n ∧
        ∃ h : 0 ≤ int64 n ∧ int64 n < b.transactions.length,
          r.push = some (.interop (.transaction (some
            (b.transactions.get ⟨(int64 n).toNat, by omega⟩)))) := by
  obtain ⟨estack, istack⟩ := v
  obtain ⟨res, push⟩ := r
  simp only [blockGetTransaction, pure_eq_ok, ok_bind, bind_eq_ok, Prod.exists, popBlock_eq_ok,
    pop_eq_ok]
  constructor
  · rintro ⟨b, _, rfl, x, _, rfl, n, hn, h⟩
    split at h
    · cases h
    · simp only [Except.ok.injEq, Result.mk.injEq] at h
      obtain ⟨rfl, rfl⟩ := h
      exact ⟨b, x, n, rfl, hn, by omega, rfl⟩
  · rintro ⟨b, x, n, h, hn, hi, rfl⟩
    refine ⟨b, _, h, x, res, rfl, n, hn, ?_⟩
    rw [dif_neg (by omega)]

theorem txGetHash_eq_ok :
    txGetHash ic v = .ok r ↔
      ∃ tx, v.estack = .interop (.transaction (some tx)) :: r.estack ∧
        r.push = some (.byteArray tx.hash.bytesReverse) := by
  obtain ⟨estack, istack⟩ := v
  obtain ⟨res, push⟩ := r
  simp only [txGetHash, pure_eq_ok, bind_eq_ok, Prod.exists, pop_eq_ok]
  constructor
  · rintro ⟨x, _, rfl, h⟩
    rcases x with _ | _ | _ | _ | _ | (_ | _ | (_ | tx) | _ | _ | _ | _ | _) <;> simp_all
  · rintro ⟨tx, rfl, rfl⟩
    exact ⟨_, _, rfl, rfl⟩

theorem pushContextScriptHash_eq_ok {n : Int} :
    pushContextScriptHash ic v n = .ok r ↔
      ∃ h, getContextScriptHash ic v n = .ok h ∧ r = ⟨v.estack, some (.byteArray h.bytes)⟩ := by
  simp only [pushContextScriptHash, pure_eq_ok, bind_eq_ok, Except.ok.injEq]
  exact exists_congr fun _ => and_congr_right fun _ => eq_comm

/-- `runtimeCheckWitness` pushes a boolean. -/
theorem runtimeCheckWitness_push (h : runtimeCheckWitness ic v = .ok r) :
    ∃ res, r.push = some (.bool res) := by
  simp only [runtimeCheckWitness, bind_eq_ok] at h
  obtain ⟨_, _, _, _, h⟩ := h
  repeat' split at h
  all_goals
    obtain ⟨res, _, h⟩ := bind_eq_ok.mp h
    cases h
    exact ⟨res, rfl⟩

/-- `runtimeNotify` and `runtimeLog` push nothing. -/
theorem runtimeLogMessage_push (h : runtimeLogMessage ic v = .ok r) : r.push = none := by
  simp only [runtimeLogMessage, pure_eq_ok, bind_eq_ok, Except.ok.injEq] at h
  obtain ⟨_, _, _, _, _, _, rfl⟩ := h
  rfl

/-- `runtimeGetTime` pushes a timestamp. -/
theorem runtimeGetTime_push (h : runtimeGetTime ic v = .ok r) :
    ∃ hd : Header, r.push = some (.bigInteger hd.timestamp.toNat) := by
  simp only [runtimeGetTime] at h
  split at h <;> obtain ⟨hd, _, h⟩ := bind_eq_ok.mp h <;> cases h <;> exact ⟨hd, rfl⟩

end Accessors

/-! ### Contracts -/

/-- `contractDestroy` under the application trigger: nothing when the ledger has no
contract for the executing script; otherwise a tombstone for its state and, when it has
storage, one for each key the ledger lists. -/
theorem contractDestroy_eq_ok {ic : InteropContext} {v : VM} {m : MemoryStore}
    {es : List StackItem} :
    contractDestroy ic v = .ok (m, es) ↔
      ic.trigger = 0x10 ∧ es = v.estack ∧ ∃ hash, getContextScriptHash ic v 0 = .ok hash ∧
        match ic.bc.getContractState hash with
        | none => m = ic.mem
        | some cs =>
          if cs.hasStorage then ∃ items, ic.bc.getStorageItems hash = .ok items ∧
            m = items.foldl (fun m kv => deleteStorageItemInStore m hash kv.1)
              (deleteContractStateInStore ic.mem hash)
          else m = deleteContractStateInStore ic.mem hash := by
  simp only [contractDestroy, pure_eq_ok, throw_eq_error, error_bind, ok_bind, bind_eq_ok,
    ite_error_eq_ok, not_not]
  refine and_congr_right fun _ => ?_
  rw [← exists_and_left]
  refine exists_congr fun hash => ?_
  rw [← and_assoc, and_comm (a := es = v.estack), and_assoc]
  refine and_congr_right fun _ => ?_
  cases ic.bc.getContractState hash with
  | none => simp only [Except.ok.injEq, Prod.mk.injEq, eq_comm, and_comm]
  | some cs =>
    dsimp only
    split_ifs
    · simp only [bind_eq_ok, Except.ok.injEq, Prod.mk.injEq]
      constructor
      · rintro ⟨items, hi, rfl, rfl⟩
        exact ⟨rfl, items, hi, rfl⟩
      · rintro ⟨rfl, items, hi, rfl⟩
        exact ⟨items, hi, rfl, rfl⟩
    · simp only [Except.ok.injEq, Prod.mk.injEq, eq_comm, and_comm]

/-! ### The dispatcher -/

/-- The four handlers that return a staged store. -/
def Syscall.IsWriter (s : Syscall) : Prop :=
  s = .storageDelete ∨ s = .storagePut ∨ s = .storagePutEx ∨ s = .contractDestroy

section Dispatch
variable {ic : InteropContext} {v : VM} {o : Outcome} {s : Syscall}

/-- A read-only handler leaves the staged store as it was. -/
theorem Syscall.run_mem_of_reader (hs : ¬s.IsWriter) (h : s.run ic v = .ok o) :
    o.mem = ic.mem := by
  cases s <;> simp only [Syscall.IsWriter, not_true_eq_false, or_true, true_or] at hs <;>
    simp only [Syscall.run, runReader] at h <;> obtain ⟨_, _, rfl⟩ := map_eq_ok.mp h <;> rfl

/-- The three storage writes: `storagePut`, `storagePutEx` and `storageDelete`. -/
def Syscall.IsStorageWrite (s : Syscall) : Prop :=
  s = .storagePut ∨ s = .storagePutEx ∨ s = .storageDelete

/-- A successful storage write popped a writable context and a key whose visible item is not
constant, and staged an item or a tombstone under them. -/
theorem Syscall.run_storageWrite (hs : s.IsStorageWrite) (h : s.run ic v = .ok o) :
    ∃ stc x rest key, v.estack = .interop (.storageContext stc) :: x :: rest ∧
      x.bytes = .ok key ∧ stc.readOnly = false ∧
      (∀ si, ic.visibleItem stc.scriptHash key = some si → si.isConst = false) ∧
      ((∃ si, o.mem = putStorageItemIntoStore ic.mem stc.scriptHash key si) ∨
        o.mem = deleteStorageItemInStore ic.mem stc.scriptHash key) := by
  obtain hput | rfl := or_assoc.mpr hs
  · obtain rfl | rfl := hput <;> simp only [Syscall.run, runWriter] at h <;>
      obtain ⟨⟨m, es⟩, hp, rfl⟩ := map_eq_ok.mp h <;>
      obtain ⟨stc, x, key, _, value, isConst, rest, he, hk, -, -, hput⟩ :=
        storagePutInternal_eq_ok.mp hp <;>
      obtain ⟨-, -, hro, -, hc, rfl⟩ := putWithContextAndFlags_eq_ok.mp hput <;>
      exact ⟨stc, x, _, key, he, hk, hro, fun si hsi => by simpa [hsi] using hc, .inl ⟨_, rfl⟩⟩
  · simp only [Syscall.run, runWriter] at h
    obtain ⟨⟨m, es⟩, hd, rfl⟩ := map_eq_ok.mp h
    obtain ⟨-, stc, x, key, he, hro, -, hk, hc, rfl⟩ := storageDelete_eq_ok.mp hd
    exact ⟨stc, x, es, key, he, hk, hro, fun si hsi => by simpa [hsi] using hc, .inr rfl⟩

/-- The checks a successful storage write passed, read at the context and the key it was
given. -/
theorem Syscall.run_storageWrite_checks (hs : s.IsStorageWrite) (h : s.run ic v = .ok o)
    {stc : StorageContext} {x : StackItem} {rest : List StackItem}
    (he : v.estack = .interop (.storageContext stc) :: x :: rest) :
    ∃ key, x.bytes = .ok key ∧ stc.readOnly = false ∧
      ∀ si, ic.visibleItem stc.scriptHash key = some si → si.isConst = false := by
  obtain ⟨stc', x', rest', key, he', hk, hro, hnc, -⟩ := Syscall.run_storageWrite hs h
  simp only [he, List.cons.injEq, StackItem.interop.injEq,
    InteropValue.storageContext.injEq] at he'
  obtain ⟨rfl, rfl, -⟩ := he'
  exact ⟨key, hk, hro, hnc⟩

/-- Everything a syscall other than `contractDestroy` can do to the staged store: nothing, or
what a storage write does. -/
theorem Syscall.run_mem_cases (hs : s ≠ .contractDestroy) (h : s.run ic v = .ok o) :
    o.mem = ic.mem ∨
      ∃ stc x rest key, v.estack = .interop (.storageContext stc) :: x :: rest ∧
        x.bytes = .ok key ∧ stc.readOnly = false ∧
        (∀ si, ic.visibleItem stc.scriptHash key = some si → si.isConst = false) ∧
        ((∃ si, o.mem = putStorageItemIntoStore ic.mem stc.scriptHash key si) ∨
          o.mem = deleteStorageItemInStore ic.mem stc.scriptHash key) := by
  by_cases hw : s.IsWriter
  · refine .inr (Syscall.run_storageWrite ?_ h)
    rcases hw with rfl | rfl | rfl | rfl
    exacts [.inr (.inr rfl), .inl rfl, .inr (.inl rfl), absurd rfl hs]
  · exact .inl (Syscall.run_mem_of_reader hw h)

end Dispatch

end NeoInterop
