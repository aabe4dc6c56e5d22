import NeoInterop.Core.InteropSystem

/-!
# `NeoInterop.Core.Execution`: a run of syscalls within one execution

Within one execution the interop context is fixed except for its staged store: the ledger,
the trigger, the block and the script container do not change. Between two syscalls the
interpreter runs its own opcodes; they move items between the stacks but never touch the
staged store, so a syscall is fully described by the handler it runs and the two stacks at
that moment (`Call`).

`InteropContext.runCalls` folds `InteropContext.step` over a list of calls. A call that
fails leaves the staged store as it was. In the node a failure ends the execution and the
staged store is discarded, so every real execution is a prefix of a run here, and what holds
after every prefix of every run holds of every execution.
-/

set_option autoImplicit false

namespace NeoInterop

/-- One syscall as the interpreter issues it: the handler and the stacks at that moment. -/
structure Call where
  syscall : Syscall
  vm : VM

/-- What the call does in the execution `ic`. -/
def Call.exec (c : Call) (ic : InteropContext) : Except String Outcome := c.syscall.run ic c.vm

/-- The execution after one call: the staged store the handler leaves, or the old one when
the handler fails. -/
def InteropContext.step (ic : InteropContext) (c : Call) : InteropContext :=
  match c.exec ic with
  | .ok o => ic.withMem o.mem
  | .error _ => ic

/-- The execution after a sequence of calls. -/
def InteropContext.runCalls (ic : InteropContext) (cs : List Call) : InteropContext :=
  cs.foldl InteropContext.step ic

@[simp] theorem InteropContext.runCalls_nil (ic : InteropContext) : ic.runCalls [] = ic := rfl

@[simp] theorem InteropContext.runCalls_cons (ic : InteropContext) (c : Call) (cs : List Call) :
    ic.runCalls (c :: cs) = (ic.step c).runCalls cs := rfl

theorem InteropContext.step_of_ok {ic : InteropContext} {c : Call} {o : Outcome}
    (h : c.exec ic = .ok o) : ic.step c = ic.withMem o.mem := by
  simp [InteropContext.step, h]

theorem InteropContext.step_of_error {ic : InteropContext} {c : Call} {e : String}
    (h : c.exec ic = .error e) : ic.step c = ic := by
  simp [InteropContext.step, h]

/-- A step changes the staged store only: it is `ic` with some staged store. -/
theorem InteropContext.step_eq_withMem (ic : InteropContext) (c : Call) :
    ∃ m, ic.step c = ic.withMem m := by
  unfold InteropContext.step
  split
  · exact ⟨_, rfl⟩
  · exact ⟨ic.mem, rfl⟩

/-- A run changes the staged store only. -/
theorem InteropContext.runCalls_eq_withMem (ic : InteropContext) (cs : List Call) :
    ∃ m, ic.runCalls cs = ic.withMem m := by
  induction cs generalizing ic with
  | nil => exact ⟨ic.mem, rfl⟩
  | cons c cs ih =>
    obtain ⟨m, hm⟩ := ic.step_eq_withMem c
    obtain ⟨m', hm'⟩ := ih (ic.step c)
    exact ⟨m', by rw [InteropContext.runCalls_cons, hm', hm]; rfl⟩

end NeoInterop
