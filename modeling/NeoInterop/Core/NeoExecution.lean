import NeoInterop.Core.InteropNeoContracts

/-!
# `NeoInterop.Core.NeoExecution`: a run of the handlers of `interop_neo.go`

The handlers of `interop_neo.go` read and write the chain's state through the DAO of
`interop.Context`. Within one execution the rest of the context is fixed, and between two
syscalls the interpreter only moves items between its stacks, so a syscall is again the
handler it runs and the two stacks at that moment (`NeoCall`).

`Context.runCalls` folds `Context.step` over a list of calls. A call that fails leaves the
DAO as it was; a real execution ends at its first failure, so it is a prefix of a run here.
The readers return no DAO, and `runReaderNeo` keeps the one they were given.

The handlers the model leaves out (`bcGetAccount`, the account getters, `assetGetOwner`,
`runtimeSerialize`, `runtimeDeserialize`) have no constructor here. None of them calls a
write of the DAO in the source.
-/

set_option autoImplicit false

namespace NeoInterop

/-- The handlers of `interop_neo.go` that the model has. The name table that maps syscall
strings to them lives in a file absent from the sources. -/
inductive NeoSyscall where
  | headerGetVersion | headerGetMerkleRoot | headerGetNextConsensus
  | txGetAttributes | txGetWitnesses | witnessGetVerificationScript | attrGetData | attrGetUsage
  | bcGetAsset | storageFind
  | contractCreate | contractGetScript | contractIsPayable | contractMigrate
  | assetCreate | assetGetAdmin | assetGetAmount | assetGetAssetID | assetGetAssetType
  | assetGetAvailable | assetGetIssuer | assetGetPrecision | assetRenew
deriving DecidableEq

/-- A read-only handler under the common signature: the DAO stays as it was. -/
def runReaderNeo (h : Context → VM → Except String Result) (ic : Context) (v : VM) :
    Except String NeoResult :=
  (h ic v).map fun r => ⟨ic.dao, r.estack, r.push⟩

theorem runReaderNeo_dao {h : Context → VM → Except String Result} {ic : Context} {v : VM}
    {r : NeoResult} (hr : runReaderNeo h ic v = .ok r) : r.dao = ic.dao := by
  obtain ⟨_, _, rfl⟩ := map_eq_ok.mp hr
  rfl

/-- The dispatcher: the handler a syscall runs. -/
def NeoSyscall.run : NeoSyscall → Context → VM → Except String NeoResult
  | .headerGetVersion => runReaderNeo NeoInterop.headerGetVersion
  | .headerGetMerkleRoot => runReaderNeo NeoInterop.headerGetMerkleRoot
  | .headerGetNextConsensus => runReaderNeo NeoInterop.headerGetNextConsensus
  | .txGetAttributes => runReaderNeo NeoInterop.txGetAttributes
  | .txGetWitnesses => runReaderNeo NeoInterop.txGetWitnesses
  | .witnessGetVerificationScript => runReaderNeo NeoInterop.witnessGetVerificationScript
  | .attrGetData => runReaderNeo NeoInterop.attrGetData
  | .attrGetUsage => runReaderNeo NeoInterop.attrGetUsage
  | .bcGetAsset => runReaderNeo NeoInterop.bcGetAsset
  | .storageFind => runReaderNeo NeoInterop.storageFind
  | .contractCreate => NeoInterop.contractCreate
  | .contractGetScript => runReaderNeo NeoInterop.contractGetScript
  | .contractIsPayable => runReaderNeo NeoInterop.contractIsPayable
  | .contractMigrate => NeoInterop.contractMigrate
  | .assetCreate => NeoInterop.assetCreate
  | .assetGetAdmin => runReaderNeo NeoInterop.assetGetAdmin
  | .assetGetAmount => runReaderNeo NeoInterop.assetGetAmount
  | .assetGetAssetID => runReaderNeo NeoInterop.assetGetAssetID
  | .assetGetAssetType => runReaderNeo NeoInterop.assetGetAssetType
  | .assetGetAvailable => runReaderNeo NeoInterop.assetGetAvailable
  | .assetGetIssuer => runReaderNeo NeoInterop.assetGetIssuer
  | .assetGetPrecision => runReaderNeo NeoInterop.assetGetPrecision
  | .assetRenew => NeoInterop.assetRenew

/-- The four handlers that return a DAO. -/
def NeoSyscall.IsWriter (s : NeoSyscall) : Prop :=
  s = .contractCreate ∨ s = .contractMigrate ∨ s = .assetCreate ∨ s = .assetRenew

/-- One syscall as the interpreter issues it: the handler and the stacks at that moment. -/
structure NeoCall where
  syscall : NeoSyscall
  vm : VM

/-- The execution after one call: the DAO the handler leaves, or the old one when the
handler fails. -/
def Context.step (ic : Context) (c : NeoCall) : Context :=
  match c.syscall.run ic c.vm with
  | .ok r => { ic with dao := r.dao }
  | .error _ => ic

/-- The execution after a sequence of calls. -/
def Context.runCalls (ic : Context) (cs : List NeoCall) : Context :=
  cs.foldl Context.step ic

@[simp] theorem Context.runCalls_nil (ic : Context) : ic.runCalls [] = ic := rfl

@[simp] theorem Context.runCalls_cons (ic : Context) (c : NeoCall) (cs : List NeoCall) :
    ic.runCalls (c :: cs) = (ic.step c).runCalls cs := rfl

/-- The induction over runs, once: a property of the execution that every successful call
keeps holds after every run. -/
theorem Context.runCalls_induction (P : Context → Prop)
    (hrun : ∀ ic s v r, P ic → NeoSyscall.run s ic v = .ok r → P { ic with dao := r.dao })
    (ic : Context) (cs : List NeoCall) (h : P ic) : P (ic.runCalls cs) := by
  induction cs generalizing ic with
  | nil => exact h
  | cons c cs ih =>
    refine ih _ ?_
    unfold Context.step
    split
    · exact hrun _ _ _ _ h ‹_›
    · exact h

/-- A read-only handler leaves the DAO as it was. -/
theorem NeoSyscall.run_dao_of_reader {s : NeoSyscall} {ic : Context} {v : VM} {r : NeoResult}
    (hs : ¬s.IsWriter) (h : s.run ic v = .ok r) : r.dao = ic.dao := by
  cases s <;> first
    | exact runReaderNeo_dao h
    | exact (hs (by simp only [NeoSyscall.IsWriter, or_true, true_or])).elim

end NeoInterop
