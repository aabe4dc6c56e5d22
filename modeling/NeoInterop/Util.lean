import Mathlib.Data.List.Basic
import Mathlib.Algebra.Group.Int
import Mathlib.Algebra.Group.Nat.Basic

/-!
# `NeoInterop.Util`: bytes, hashes and Go's integer conversions

The interop layer moves three kinds of fixed-width value across the VM boundary: the 20-byte
script hash `util.Uint160`, the 32-byte block and transaction hash `util.Uint256`, and the
machine integers Go narrows VM integers into. This module models them, together with the
`Except` plumbing every handler is written in.

* `Uint160` and `Uint256` carry their width as a field, so a hash of the wrong size cannot be
  built; `uint160DecodeBytes` and `uint256DecodeReverseBytes` are the ways in from bytes.
* `int64` and `byte` are Go's `(*big.Int).Int64` and `byte(...)`. Both keep the low bits of
  their argument and drop the rest; `int64_eq_self` and `byte_toNat` say when that is exact.
* `uint256DecodeReverseBytes_bytesReverse` is the round trip the block lookups rely on: a hash
  pushed in reversed form decodes back to itself.
-/

set_option autoImplicit false

namespace NeoInterop

/-! ### `Except` plumbing -/

section
variable {ε α β : Type}

@[simp] theorem ok_bind (a : α) (f : α → Except ε β) : (Except.ok a >>= f) = f a := rfl

@[simp] theorem error_bind (e : ε) (f : α → Except ε β) :
    (Except.error e >>= f) = Except.error e := rfl

@[simp] theorem pure_eq_ok (a : α) : (pure a : Except ε α) = Except.ok a := rfl

@[simp] theorem throw_eq_error (e : ε) : (throw e : Except ε α) = Except.error e := rfl

/-- Peeling one bind of a successful computation: both halves succeeded. -/
theorem bind_eq_ok {x : Except ε α} {f : α → Except ε β} {b : β} :
    (x >>= f) = .ok b ↔ ∃ a, x = .ok a ∧ f a = .ok b := by
  cases x <;> simp

/-- A guard `if c then throw e` passed: `c` is false and the rest succeeded. -/
@[simp] theorem ite_error_eq_ok {c : Prop} [Decidable c] {e : ε} {x : Except ε α} {r : α} :
    ((if c then Except.error e else x) = .ok r) ↔ ¬c ∧ x = .ok r := by
  by_cases h : c <;> simp [h]

theorem map_eq_ok {f : α → β} {x : Except ε α} {b : β} :
    x.map f = .ok b ↔ ∃ a, x = .ok a ∧ f a = b := by
  cases x <;> simp [Except.map]

theorem mapError_eq_ok {f : ε → ε} {x : Except ε α} {a : α} :
    x.mapError f = .ok a ↔ x = .ok a := by
  cases x <;> simp [Except.mapError]

end

/-! ### Bytes and hashes -/

/-- Go `[]byte`. A nil slice and an empty one are the same value here: every handler that
tells them apart (`si.Value != nil`) pushes an empty array for both. -/
abbrev Bytes := List UInt8

/-- `util.Uint160`, a script hash: exactly 20 bytes. -/
structure Uint160 where
  bytes : Bytes
  size_eq : bytes.length = 20
deriving DecidableEq

/-- `util.Uint256`, a block or transaction hash: exactly 32 bytes. -/
structure Uint256 where
  bytes : Bytes
  size_eq : bytes.length = 32
deriving DecidableEq

/-- `Uint256.BytesReverse`: the hash back to front, the form hashes take on the VM stack. -/
def Uint256.bytesReverse (u : Uint256) : Bytes := u.bytes.reverse

/-- `Uint160.BytesBE`: the bytes in the order `uint160DecodeBytesBE` reads them. -/
def Uint160.bytesBE (u : Uint160) : Bytes := u.bytes

/-- `Uint256.BytesBE`: the bytes in the order `uint256DecodeBytesBE` reads them. -/
def Uint256.bytesBE (u : Uint256) : Bytes := u.bytes

/-- Modelled from the spec: `util.Uint160DecodeBytes` is absent from the sources. It accepts
exactly the 20 bytes of a script hash. -/
def uint160DecodeBytes (b : Bytes) : Except String Uint160 :=
  if h : b.length = 20 then .ok ⟨b, h⟩
  else .error s!"expected byte size of 20 got {b.length}"

/-- Modelled from the spec: `util.Uint160DecodeBytesBE`, the newer name of the same decoder,
is absent from the sources. -/
def uint160DecodeBytesBE (b : Bytes) : Except String Uint160 := uint160DecodeBytes b

/-- Modelled from the spec: `util.Uint256DecodeBytes` is absent from the sources. It accepts
exactly the 32 bytes of a hash. -/
def uint256DecodeBytes (b : Bytes) : Except String Uint256 :=
  if h : b.length = 32 then .ok ⟨b, h⟩
  else .error s!"expected []byte of size 32 got {b.length}"

/-- Modelled from the spec: `util.Uint256DecodeBytesBE`, the newer name of the same decoder,
is absent from the sources. -/
def uint256DecodeBytesBE (b : Bytes) : Except String Uint256 := uint256DecodeBytes b

/-- Modelled from the spec: `util.Uint256DecodeReverseBytes` is absent from the sources. It
reads the spec's "full reversed 32-byte hash": the bytes are reversed, then decoded. -/
def uint256DecodeReverseBytes (b : Bytes) : Except String Uint256 :=
  uint256DecodeBytes b.reverse

/-- A hash pushed in reversed form decodes back to itself. -/
theorem uint256DecodeReverseBytes_bytesReverse (u : Uint256) :
    uint256DecodeReverseBytes u.bytesReverse = .ok u := by
  simp [uint256DecodeReverseBytes, Uint256.bytesReverse, uint256DecodeBytes, u.size_eq]

/-- A hash pushed with `BytesBE` decodes back to itself. -/
theorem uint256DecodeBytesBE_bytesBE (u : Uint256) : uint256DecodeBytesBE u.bytesBE = .ok u := by
  simp [uint256DecodeBytesBE, Uint256.bytesBE, uint256DecodeBytes, u.size_eq]

/-- A 20-byte argument always decodes as a script hash. -/
theorem uint160DecodeBytes_of_length {b : Bytes} (hb : b.length = 20) :
    uint160DecodeBytes b = .ok ⟨b, hb⟩ := by
  simp [uint160DecodeBytes, hb]

/-- A decoded script hash gives back, with `BytesBE`, the bytes it was decoded from. -/
theorem Uint160.bytesBE_of_decode {b : Bytes} {u : Uint160} (h : uint160DecodeBytesBE b = .ok u) :
    u.bytesBE = b := by
  unfold uint160DecodeBytesBE uint160DecodeBytes at h
  split at h <;> cases h
  rfl

/-! ### Go integer conversions -/

/-- `math.MaxUint32`. -/
def maxUint32 : Nat := 2 ^ 32 - 1

/-- `(*big.Int).Int64`: the low 64 bits of `x`, read as a signed 64-bit integer. Go leaves
the result undefined outside the `int64` range; its implementation keeps the low bits. -/
def int64 (x : Int) : Int := (x + 2 ^ 63) % 2 ^ 64 - 2 ^ 63

/-- Go `byte(n)` on an `int64`: the low 8 bits. -/
def byte (n : Int) : UInt8 := UInt8.ofNat (n % 256).toNat

/-- `int64` is exact on the `int64` range. -/
theorem int64_eq_self {x : Int} (h₁ : -2 ^ 63 ≤ x) (h₂ : x < 2 ^ 63) : int64 x = x := by
  unfold int64; omega

/-- Narrowing to 64 bits, then to 8, is narrowing to 8. -/
theorem byte_int64 (n : Int) : byte (int64 n) = byte n := by
  unfold byte int64
  congr 2
  omega

theorem byte_toNat (n : Int) : (byte n).toNat = (n % 256).toNat := by
  unfold byte
  exact UInt8.toNat_ofNat_of_lt (by simp only [UInt8.size]; omega)

/-! ### `UInt32` arithmetic as natural numbers -/

theorem uint32_toNat_add (a b : UInt32) : (a + b).toNat = (a.toNat + b.toNat) % 2 ^ 32 := by
  simp [UInt32.add_def, UInt32.toNat, BitVec.toNat_add]

theorem uint32_lt_iff {a b : UInt32} : a < b ↔ a.toNat < b.toNat := by
  simp only [UInt32.lt_def, BitVec.lt_def]; rfl

theorem uint32_toNat_ofNat (n : Nat) : (UInt32.ofNat n).toNat = n % 2 ^ 32 := by
  simp [UInt32.ofNat, UInt32.toNat, Fin.ofNat]

end NeoInterop
