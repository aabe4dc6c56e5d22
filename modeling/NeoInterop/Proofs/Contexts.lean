import NeoInterop.Proofs.Contracts

/-!
# `NeoInterop.Proofs.Contexts`: where writable storage contexts come from

A `StorageContext` is the capability the storage writes check: a contract's script hash
and a read-only flag. Contexts travel between contracts on the evaluation stack, so the
question is which handler can mint one, and for which contract.

* `Syscall.run_push_storageContext` says everything about a pushed context: only four
  handlers push one, and each is named with what it checked. It is a case split over every
  handler, each case closed by that handler's spec lemma from `Proofs.Handlers`.
* `writableContext_origin` (the main result) puts the facts together: a writable context
  names the executing script (`storageGetContext`) or a contract staged in this execution
  (`contractGetStorageContext`); `storageContextAsReadOnly` succeeds on every storage context
  and yields the read-only context of the same contract, which it takes to itself, and it
  yields nothing else; and a put, put with flags or delete through a read-only context fails,
  so its step leaves the execution as it was.
-/

set_option autoImplicit false

namespace NeoInterop

section Push
variable {ic : InteropContext} {v : VM} {o : Outcome} {s : Syscall} {stc : StorageContext}

/-- Only the four context handlers push a storage context. Two of them push writable ones:
`storageGetContext` for the executing script, `contractGetStorageContext` for a contract
whose state is staged in this execution. -/
theorem Syscall.run_push_storageContext (h : s.run ic v = .ok o)
    (hp : o.push = some (.interop (.storageContext stc))) :
    (s = .storageGetContext ∧ getContextScriptHash ic v 0 = .ok stc.scriptHash ∧
        stc.readOnly = false) ∨
      (s = .storageGetReadOnlyContext ∧ getContextScriptHash ic v 0 = .ok stc.scriptHash ∧
        stc.readOnly = true) ∨
      (s = .storageContextAsReadOnly ∧ stc.readOnly = true) ∨
      (s = .contractGetStorageContext ∧
        (getContractStateFromStore ic.mem stc.scriptHash).isSome ∧ stc.readOnly = false) := by
  cases s <;> simp only [Syscall.run, runReader, runWriter] at h <;>
    obtain ⟨r, hr, rfl⟩ := map_eq_ok.mp h <;> simp only [reduceCtorEq] at hp
  case bcGetBlock | bcGetHeader =>
    obtain ⟨_, _, -, -, hr⟩ := bcGetByHash_eq_ok.mp hr
    split at hr <;> simp [hr] at hp
  case bcGetContract =>
    obtain ⟨_, _, _, -, -, -, hr⟩ := bcGetContract_eq_ok.mp hr
    split at hr <;> simp [hr] at hp
  case bcGetTransaction =>
    obtain ⟨_, _, -, hr⟩ := bcGetTransaction_eq_ok.mp hr
    simp [hr] at hp
  case bcGetTransactionHeight =>
    obtain ⟨_, _, -, hr⟩ := bcGetTransactionHeight_eq_ok.mp hr
    simp [hr] at hp
  case headerGetIndex | headerGetHash | headerGetPrevHash | headerGetTimestamp =>
    obtain ⟨_, -, hr⟩ := headerGetField_eq_ok.mp hr
    simp [hr] at hp
  case blockGetTransactionCount =>
    obtain ⟨_, -, hr⟩ := blockGetTransactionCount_eq_ok.mp hr
    simp [hr] at hp
  case blockGetTransactions =>
    obtain ⟨_, -, -, hr⟩ := blockGetTransactions_eq_ok.mp hr
    simp [hr] at hp
  case blockGetTransaction =>
    obtain ⟨_, _, _, -, -, _, hr⟩ := blockGetTransaction_eq_ok.mp hr
    simp [hr] at hp
  case txGetHash =>
    obtain ⟨_, -, hr⟩ := txGetHash_eq_ok.mp hr
    simp [hr] at hp
  case engineGetExecutingScriptHash | engineGetCallingScriptHash | engineGetEntryScriptHash =>
    obtain ⟨_, -, rfl⟩ := pushContextScriptHash_eq_ok.mp hr
    simp at hp
  case runtimeCheckWitness =>
    obtain ⟨_, hr⟩ := runtimeCheckWitness_push hr
    simp [hr] at hp
  case runtimeNotify | runtimeLog =>
    simp [runtimeLogMessage_push hr] at hp
  case runtimeGetTime =>
    obtain ⟨_, hr⟩ := runtimeGetTime_push hr
    simp [hr] at hp
  case storageGet =>
    obtain ⟨_, _, _, -, -, -, hr⟩ := storageGet_eq_ok.mp hr
    simp [hr] at hp
  case storageGetContext | storageGetReadOnlyContext =>
    obtain ⟨hash, hh, rfl⟩ := storageGetContextWith_eq_ok.mp hr
    cases hp
    simp [hh]
  case storageContextAsReadOnly =>
    obtain ⟨_, -, hr⟩ := storageContextAsReadOnly_eq_ok.mp hr
    rw [hr] at hp
    cases hp
    simp
  case contractGetStorageContext =>
    obtain ⟨_, -, hs, hr⟩ := contractGetStorageContext_eq_ok.mp hr
    rw [hr] at hp
    cases hp
    simp [hs]
  case bcGetHeight | engineGetScriptContainer | runtimePlatform | runtimeGetTrigger =>
    simp only [NeoInterop.bcGetHeight, NeoInterop.engineGetScriptContainer,
      NeoInterop.runtimePlatform, NeoInterop.runtimeGetTrigger] at hr
    cases hr
    simp at hp

/-- A writable pushed context names the executing script or a contract staged in this
execution. -/
theorem Syscall.run_push_writable (h : s.run ic v = .ok o)
    (hp : o.push = some (.interop (.storageContext stc))) (hw : stc.readOnly = false) :
    (s = .storageGetContext ∧ getContextScriptHash ic v 0 = .ok stc.scriptHash) ∨
      (s = .contractGetStorageContext ∧ (getContractStateFromStore ic.mem stc.scriptHash).isSome) := by
  rcases Syscall.run_push_storageContext h hp with ⟨hs, hh, -⟩ | ⟨-, -, hr⟩ | ⟨-, hr⟩ | ⟨hs, hm, -⟩
  · exact .inl ⟨hs, hh⟩
  · simp [hw] at hr
  · simp [hw] at hr
  · exact .inr ⟨hs, hm⟩

end Push

/-! ### Read-only contexts stay read-only -/

/-- `storageContextAsReadOnly` takes every storage context to the read-only context of the
same contract, and takes that one to itself. -/
theorem storageContextAsReadOnly_context (ic : InteropContext) (stc : StorageContext)
    (es : List StackItem) (istack : List ExecContext) :
    storageContextAsReadOnly ic ⟨.interop (.storageContext stc) :: es, istack⟩ =
        .ok ⟨es, some (.interop (.storageContext ⟨stc.scriptHash, true⟩))⟩ ∧
      ∀ ic' istack', storageContextAsReadOnly ic'
          ⟨.interop (.storageContext ⟨stc.scriptHash, true⟩) :: es, istack'⟩ =
        .ok ⟨es, some (.interop (.storageContext ⟨stc.scriptHash, true⟩))⟩ :=
  ⟨storageContextAsReadOnly_eq_ok.mpr ⟨stc, rfl, rfl⟩,
    fun _ _ => storageContextAsReadOnly_eq_ok.mpr ⟨_, rfl, rfl⟩⟩

/-- A put, put with flags or delete through a read-only context fails, so its step leaves
the execution as it was. -/
theorem step_write_readOnly {ic : InteropContext} {c : Call} {stc : StorageContext}
    {x : StackItem} {rest : List StackItem} (hs : c.syscall.IsStorageWrite)
    (he : c.vm.estack = .interop (.storageContext stc) :: x :: rest) (hro : stc.readOnly = true) :
    (∃ e, c.exec ic = .error e) ∧ ic.step c = ic := by
  cases hrun : c.exec ic with
  | error e => exact ⟨⟨e, rfl⟩, InteropContext.step_of_error hrun⟩
  | ok o =>
    obtain ⟨-, -, hw, -⟩ := Syscall.run_storageWrite_checks hs hrun he
    simp [hro] at hw

/-! ### The capability invariant -/

/-- In every execution state, so after every prefix of every run: a writable context that a
call pushes names the executing script (`storageGetContext`) or a contract whose state is
staged (`contractGetStorageContext`); `storageContextAsReadOnly` succeeds on every storage
context, yielding the read-only context of the same contract, which it takes to itself, and
it succeeds on nothing else; and a storage write through a read-only context fails and
changes nothing. -/
theorem writableContext_origin :
    (∀ (ic : InteropContext) (c : Call) (o : Outcome) (stc : StorageContext),
      c.exec ic = .ok o → o.push = some (.interop (.storageContext stc)) →
        stc.readOnly = false →
        (c.syscall = .storageGetContext ∧ getContextScriptHash ic c.vm 0 = .ok stc.scriptHash) ∨
          (c.syscall = .contractGetStorageContext ∧
            (getContractStateFromStore ic.mem stc.scriptHash).isSome)) ∧
    (∀ (ic : InteropContext) (stc : StorageContext) (es : List StackItem)
      (istack : List ExecContext),
      storageContextAsReadOnly ic ⟨.interop (.storageContext stc) :: es, istack⟩ =
          .ok ⟨es, some (.interop (.storageContext ⟨stc.scriptHash, true⟩))⟩ ∧
        ∀ ic' istack', storageContextAsReadOnly ic'
            ⟨.interop (.storageContext ⟨stc.scriptHash, true⟩) :: es, istack'⟩ =
          .ok ⟨es, some (.interop (.storageContext ⟨stc.scriptHash, true⟩))⟩) ∧
    (∀ (ic : InteropContext) (v : VM) (r : Result), storageContextAsReadOnly ic v = .ok r →
      ∃ stc, v.estack = .interop (.storageContext stc) :: r.estack ∧
        r.push = some (.interop (.storageContext ⟨stc.scriptHash, true⟩))) ∧
    (∀ (ic : InteropContext) (c : Call) (stc : StorageContext) (x : StackItem)
      (rest : List StackItem), c.syscall.IsStorageWrite →
        c.vm.estack = .interop (.storageContext stc) :: x :: rest → stc.readOnly = true →
        (∃ e, c.exec ic = .error e) ∧ ic.step c = ic) :=
  ⟨fun _ _ _ _ h hp hw => Syscall.run_push_writable h hp hw,
    storageContextAsReadOnly_context,
    fun _ _ _ h => storageContextAsReadOnly_eq_ok.mp h,
    fun _ _ _ _ _ hs he hro => step_write_readOnly hs he hro⟩

/-- A put of `[7]` under `[1]` through the read-only context of `demoHash`. -/
def demoPutReadOnly : Call :=
  ⟨.storagePut, ⟨[.interop (.storageContext ⟨demoHash, true⟩), .byteArray [1], .byteArray [7]],
    []⟩⟩

/-- Each part at one input: the writable context `storageGetContext` pushes while
`demoScript` executes, the read-only copy of a writable context, and a put through a
read-only context. -/
theorem writableContext_origin_demo :
    (∃ o, Call.exec ⟨.storageGetContext, ⟨[], [demoScript]⟩⟩ demoContext = .ok o ∧
      o.push = some (.interop (.storageContext ⟨demoHash, false⟩)) ∧
      ((Syscall.storageGetContext = .storageGetContext ∧
          getContextScriptHash demoContext ⟨[], [demoScript]⟩ 0 = .ok demoHash) ∨
        (Syscall.storageGetContext = .contractGetStorageContext ∧
          (getContractStateFromStore demoContext.mem demoHash).isSome))) ∧
    storageContextAsReadOnly demoContext ⟨[.interop (.storageContext ⟨demoHash, false⟩)], []⟩ =
      .ok ⟨[], some (.interop (.storageContext ⟨demoHash, true⟩))⟩ ∧
    (demoPutReadOnly.syscall.IsStorageWrite ∧
      (∃ e, demoPutReadOnly.exec demoContext = .error e) ∧
      demoContext.step demoPutReadOnly = demoContext) := by
  obtain ⟨hpush, hro, -, hwrite⟩ := writableContext_origin
  exact ⟨⟨_, rfl, rfl, hpush demoContext ⟨.storageGetContext, ⟨[], [demoScript]⟩⟩ _
      ⟨demoHash, false⟩ rfl rfl rfl⟩,
    (hro demoContext ⟨demoHash, false⟩ [] []).1,
    .inl rfl, hwrite demoContext demoPutReadOnly ⟨demoHash, true⟩ _ _ (.inl rfl) rfl rfl⟩

end NeoInterop
