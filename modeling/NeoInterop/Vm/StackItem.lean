import Mathlib.Tactic.Positivity
import NeoInterop.Core.Types

/-!
# `NeoInterop.Vm.StackItem`: what the handlers pop and push

The interpreter is outside the interop core, but every handler talks to it through its
evaluation stack: it pops arguments, converts them with `(*vm.Element).Bytes` or
`(*vm.Element).BigInt`, asserts an interop item's Go type, and pushes one result. This
module models that boundary.

* `StackItem` is the interpreter's value: byte array, integer, boolean, array, struct, or an
  interop item wrapping a ledger object (`InteropValue`, one constructor per Go type the
  handlers assert on).
* `intToBytes` and `bytesToInt` are the VM's integer encoding, which the spec's "≤ 5 bytes
  encoded" block index is measured in. The conversions are absent from the sources, and the
  spec gives no bytes; the model takes those of the C# VM the sources cite, little-endian
  two's complement in the fewest bytes. neo-go's own VM writes the unsigned magnitude
  instead. `StackItem.bytes` and `StackItem.bigInt` are the two conversions.
* `VM` holds the evaluation and invocation stacks, tops first, and `pop` fails on an empty
  stack as the Go handlers fail on the nil element `Pop` returns there.
-/

set_option autoImplicit false

namespace NeoInterop

/-- The message of the Go runtime panic a nil element or nil pointer raises. The VM turns
the panic into a fault, which the model treats like any handler error. -/
def nilDereference : String := "runtime error: invalid memory address or nil pointer dereference"

/-! ### The VM's integer encoding -/

/-- The bytes of a nonzero integer, lowest first: one byte at a time until what remains is
the sign extension of the byte just written. -/
def intToBytesGo (n : Int) : Bytes :=
  if (n / 256 = 0 ∧ n % 256 < 128) ∨ (n / 256 = -1 ∧ 128 ≤ n % 256) then
    [UInt8.ofNat (n % 256).toNat]
  else UInt8.ofNat (n % 256).toNat :: intToBytesGo (n / 256)
termination_by n.natAbs
decreasing_by omega

/-- Modelled from the spec: `emit.IntToBytes`, the VM's integer-to-bytes conversion, is
absent from the sources, and the spec fixes only the length rule it is read by ("≤ 5 bytes
encoded"). The bytes are those of the C# VM the sources cite: little-endian two's complement
in the fewest bytes, zero as the empty array, so `128` is `[0x80, 0x00]`. neo-go's own VM,
absent as well, writes the unsigned magnitude (`128` is `[0x80]`). -/
def intToBytes (n : Int) : Bytes := if n = 0 then [] else intToBytesGo n

theorem intToBytesGo_length_pos (n : Int) : 0 < (intToBytesGo n).length := by
  rw [intToBytesGo]; split <;> simp

/-- The encoding of `n` fits in `k + 1` bytes exactly when `n` is in the signed range of
`k + 1` bytes. -/
theorem intToBytesGo_length_le (k : Nat) (n : Int) :
    (intToBytesGo n).length ≤ k + 1 ↔ -2 ^ (8 * k + 7) ≤ n ∧ n < 2 ^ (8 * k + 7) := by
  induction k generalizing n with
  | zero =>
    have := intToBytesGo_length_pos (n / 256)
    rw [intToBytesGo]; split
    · simp; omega
    · simp only [List.length_cons]; omega
  | succ k ih =>
    have hP : (2 : Int) ^ (8 * (k + 1) + 7) = 256 * 2 ^ (8 * k + 7) := by
      rw [show 8 * (k + 1) + 7 = 8 + (8 * k + 7) by omega, pow_add]; rfl
    have hpos : (0 : Int) < 2 ^ (8 * k + 7) := by positivity
    rw [intToBytesGo]; split
    · simp; omega
    · simp only [List.length_cons, Nat.add_le_add_iff_right, ih, hP]; omega

theorem intToBytes_length_le (k : Nat) (n : Int) :
    (intToBytes n).length ≤ k + 1 ↔ -2 ^ (8 * k + 7) ≤ n ∧ n < 2 ^ (8 * k + 7) := by
  unfold intToBytes
  split
  · subst_vars; simp
  · exact intToBytesGo_length_le k n

/-- The unsigned little-endian value of a byte array. -/
def leNat : Bytes → Nat
  | [] => 0
  | b :: bs => b.toNat + 256 * leNat bs

theorem leNat_lt (b : Bytes) : leNat b < 256 ^ b.length := by
  induction b with
  | nil => simp [leNat]
  | cons x xs ih =>
    have := x.toNat_lt_size
    simp only [leNat, List.length_cons, Nat.pow_succ]
    simp only [UInt8.size] at this
    omega

/-- Modelled from the spec: `emit.BytesToInt` is absent from the sources. The reading that
inverts `intToBytes`, as in the C# VM: little-endian two's complement, so a last byte with its
top bit set makes the value negative (`[0xff]` is `-1`). neo-go's own VM reads the unsigned
magnitude (`[0xff]` is `255`). -/
def bytesToInt (b : Bytes) : Int :=
  match b.getLast? with
  | some last => if 128 ≤ last.toNat then (leNat b : Int) - 256 ^ b.length else leNat b
  | none => 0

/-- A decoded integer lies within the range of its byte count. -/
theorem bytesToInt_bound (b : Bytes) :
    -(256 : Int) ^ b.length ≤ bytesToInt b ∧ bytesToInt b < 256 ^ b.length := by
  have : (leNat b : Int) < 256 ^ b.length := by exact_mod_cast leNat_lt b
  unfold bytesToInt
  split
  · split <;> omega
  · omega

/-! ### Stack items -/

/-- The ledger objects an interop item (`vm.NewInteropItem`) can wrap. A nil
`*transaction.Transaction`, which `engineGetScriptContainer` pushes when there is no
script container, is `transaction none`. `mapIterator` is the iterator `vm.NewMapIterator`
wraps, over the entries of a map item whose keys and values are byte arrays, the only map
a modelled handler builds. -/
inductive InteropValue where
  | block (b : Block)
  | header (h : Header)
  | transaction (tx : Option Transaction)
  | contract (cs : ContractState)
  | storageContext (sc : StorageContext)
  | attribute (a : Attribute)
  | witness (w : Witness)
  | asset (a : Asset)
  | mapIterator (elems : List (Bytes × Bytes))
deriving DecidableEq

/-- Go's `%T` of the wrapped value, as the older handlers' error messages print it. -/
def InteropValue.typeName : InteropValue → String
  | .block _ => "*core.Block"
  | .header _ => "*core.Header"
  | .transaction _ => "*transaction.Transaction"
  | .contract _ => "*core.ContractState"
  | .storageContext _ => "*core.StorageContext"
  | .attribute _ => "*transaction.Attribute"
  | .witness _ => "*transaction.Witness"
  | .asset _ => "*core.AssetState"
  | .mapIterator _ => "*vm.mapWrapper"

/-- Modelled from the spec: `vm.StackItem`, the interpreter's closed variant of values. -/
inductive StackItem where
  | byteArray (b : Bytes)
  | bigInteger (n : Int)
  | bool (b : Bool)
  | array (items : List StackItem)
  | struct (items : List StackItem)
  | interop (v : InteropValue)

/-- Modelled from the spec: `(*vm.Element).Bytes`. Integers give their VM encoding, and
booleans one byte, `[1]` or `[0]` (neo-go's VM gives `[]` for `false`); arrays, structs and
interop items panic. -/
def StackItem.bytes : StackItem → Except String Bytes
  | .byteArray b => .ok b
  | .bigInteger n => .ok (intToBytes n)
  | .bool b => .ok (if b then [1] else [0])
  | _ => .error "can't convert to []byte"

/-- Modelled from the spec: `(*vm.Element).BigInt`. A byte array is read in the VM encoding;
arrays, structs and interop items fail the `[]uint8` assertion. -/
def StackItem.bigInt : StackItem → Except String Int
  | .bigInteger n => .ok n
  | .bool b => .ok (if b then 1 else 0)
  | .byteArray b => .ok (bytesToInt b)
  | _ => .error "interface conversion: value is not []uint8"

/-- Go's `%T` of `(*vm.Element).Value()`. -/
def StackItem.typeName : StackItem → String
  | .byteArray _ => "[]uint8"
  | .bigInteger _ => "*big.Int"
  | .bool _ => "bool"
  | .array _ | .struct _ => "[]vm.StackItem"
  | .interop v => v.typeName

/-! ### The stacks -/

/-- An invocation-stack entry (`vm.Context`): the script it runs. -/
structure ExecContext where
  program : Bytes

/-- The interpreter state a handler sees: the evaluation stack and the invocation stack,
tops first. -/
structure VM where
  estack : List StackItem
  istack : List ExecContext

/-- `v.Estack().Pop()`: the top item and the rest. An empty stack gives Go's nil element,
and the conversion that follows every pop panics on it. -/
def pop : List StackItem → Except String (StackItem × List StackItem)
  | [] => .error nilDereference
  | x :: xs => .ok (x, xs)

@[simp] theorem pop_cons (x : StackItem) (xs : List StackItem) : pop (x :: xs) = .ok (x, xs) :=
  rfl

@[simp] theorem pop_nil : pop [] = .error nilDereference := rfl

theorem pop_eq_ok {estack rest : List StackItem} {x : StackItem} :
    pop estack = .ok (x, rest) ↔ estack = x :: rest := by
  cases estack <;> simp [pop]

end NeoInterop
