import NeoInterop.Vm.StackItem

/-!
# `NeoInterop.Io.Binary`: the binary reader and writer

Transaction attributes decode from an `io.BinReader` and encode to an `io.BinWriter`. Both
live in the `io` package, absent from the sources, so they are modelled here on that
package's contract, one definition per method the attribute code calls.

A reader holds the bytes not yet read and the first error. Every read after an error is a
no-op that yields zeros, and every read that runs out of bytes records the error and still
yields a buffer of the requested size: the reader never stops the caller, it only records.
What the caller does with a short buffer is its own affair.

* `BinReader.readBytes` is the one primitive; `readLE`, `readVarUint` and `readVarBytes` are
  built from it as in the package.
* `writeVarUint` and `writeVarBytes` are the writer, as pure functions to the bytes written.
* `readVarBytes_writeVarBytes`: a length-prefixed buffer written by the writer is read back
  as written, with the rest of the input left in the reader.
-/

set_option autoImplicit false

namespace NeoInterop

/-! ### Little-endian words -/

/-- The `k` low bytes of `n`, lowest first. -/
def leBytes : Nat → Nat → Bytes
  | 0, _ => []
  | k + 1, n => UInt8.ofNat (n % 256) :: leBytes k (n / 256)

@[simp] theorem leBytes_length (k n : Nat) : (leBytes k n).length = k := by
  induction k generalizing n <;> simp [leBytes, *]

/-- `leNat` reads back the `k` low bytes of `n`. -/
theorem leNat_leBytes (k n : Nat) : leNat (leBytes k n) = n % 256 ^ k := by
  induction k generalizing n with
  | zero => simp [leBytes, leNat, Nat.mod_one]
  | succ k ih =>
    have h8 : (UInt8.ofNat (n % 256)).toNat = n % 256 := by
      simp [UInt8.toNat, UInt8.ofNat, Fin.ofNat, UInt8.size]
    rw [leBytes, leNat, ih, h8, Nat.pow_succ', Nat.mod_mul]

/-! ### The reader -/

/-- Modelled from the spec: `io.BinReader` is absent from the sources. The bytes not yet
read, and the first error. -/
structure BinReader where
  data : Bytes
  err : Option String
deriving DecidableEq

/-- Modelled from the spec: `(*BinReader).ReadBytes` fills a buffer of `n` bytes with
`io.ReadFull`. After an error it does nothing, and the buffer stays zero. A short read keeps
the bytes it got, zero after them, and records `io.EOF` when it got none, else
`io.ErrUnexpectedEOF`. -/
def BinReader.readBytes (r : BinReader) (n : Nat) : BinReader × Bytes :=
  match r.err with
  | some _ => (r, List.replicate n 0)
  | none =>
    if n ≤ r.data.length then (⟨r.data.drop n, none⟩, r.data.take n)
    else (⟨[], some (if r.data = [] then "EOF" else "unexpected EOF")⟩,
      r.data ++ List.replicate (n - r.data.length) 0)

/-- Modelled from the spec: `ReadB`, `ReadU16LE`, `ReadU32LE` and `ReadU64LE`, a
little-endian word of `k` bytes, or zero once the reader is in error. -/
def BinReader.readLE (r : BinReader) (k : Nat) : BinReader × Nat :=
  let (r, b) := r.readBytes k
  (r, if r.err.isSome then 0 else leNat b)

/-- Modelled from the spec: `(*BinReader).ReadVarUint`, the variable-length integer: one
byte below `0xfd`, else a marker for a 2, 4 or 8 byte word. Zero once in error. -/
def BinReader.readVarUint (r : BinReader) : BinReader × Nat :=
  if r.err.isSome then (r, 0)
  else
    let (r, b) := r.readLE 1
    if b = 0xfd then r.readLE 2
    else if b = 0xfe then r.readLE 4
    else if b = 0xff then r.readLE 8
    else (r, b)

/-- Modelled from the spec: `(*BinReader).ReadVarBytes(maxSize)`, a length-prefixed buffer.
A length above `maxSize` records an error and gives nil. -/
def BinReader.readVarBytes (r : BinReader) (maxSize : Nat) : BinReader × Bytes :=
  let (r, n) := r.readVarUint
  if n > maxSize then ({ r with err := some s!"byte-slice is too big ({n})" }, [])
  else r.readBytes n

section Reader
variable (r : BinReader) (rest : Bytes)

@[simp] theorem BinReader.readBytes_ok (b : Bytes) :
    BinReader.readBytes ⟨b ++ rest, none⟩ b.length = (⟨rest, none⟩, b) := by
  simp [BinReader.readBytes]

theorem BinReader.readLE_ok (b : Bytes) :
    BinReader.readLE ⟨b ++ rest, none⟩ b.length = (⟨rest, none⟩, leNat b) := by
  simp [BinReader.readLE]

/-- A byte below `0xfd` is a whole var-int. -/
theorem BinReader.readVarUint_small (x : UInt8) (hx : x.toNat < 0xfd) :
    BinReader.readVarUint ⟨x :: rest, none⟩ = (⟨rest, none⟩, x.toNat) := by
  have h := BinReader.readLE_ok rest [x]
  simp only [leNat, List.length_singleton, List.singleton_append, Nat.mul_zero,
    Nat.add_zero] at h
  simp only [BinReader.readVarUint, Option.isSome_none, Bool.false_eq_true, if_false, h]
  rw [if_neg (by omega), if_neg (by omega), if_neg (by omega)]

/-- The buffer `readBytes` returns has the length asked for. -/
@[simp] theorem BinReader.readBytes_length (n : Nat) : (r.readBytes n).2.length = n := by
  unfold BinReader.readBytes
  split
  · simp
  · split <;> simp <;> omega

/-- A one-byte length prefix: the buffer it announces, or an error above `maxSize`. -/
theorem BinReader.readVarBytes_small (x : UInt8) (hx : x.toNat < 0xfd) (maxSize : Nat) :
    BinReader.readVarBytes ⟨x :: rest, none⟩ maxSize =
      if x.toNat > maxSize then (⟨rest, some s!"byte-slice is too big ({x.toNat})"⟩, [])
      else BinReader.readBytes ⟨rest, none⟩ x.toNat := by
  simp only [BinReader.readVarBytes, BinReader.readVarUint_small rest x hx]

/-- A reader in error stays in error and reads zero. -/
theorem BinReader.readVarBytes_of_err {e : String} (he : r.err = some e) (maxSize : Nat) :
    r.readVarBytes maxSize = (r, []) := by
  simp [BinReader.readVarBytes, BinReader.readVarUint, BinReader.readBytes, he]

end Reader

/-! ### The writer -/

/-- Modelled from the spec: `(*BinWriter).WriteVarUint`, the writer's side of
`readVarUint`. -/
def writeVarUint (n : Nat) : Bytes :=
  if n < 0xfd then [UInt8.ofNat n]
  else if n < 0xffff then 0xfd :: leBytes 2 n
  else if n < 0xffffffff then 0xfe :: leBytes 4 n
  else 0xff :: leBytes 8 n

/-- Modelled from the spec: `(*BinWriter).WriteVarBytes`, the length, then the bytes. -/
def writeVarBytes (b : Bytes) : Bytes := writeVarUint b.length ++ b

/-- A buffer shorter than `0xfd` bytes is read back as written, and the reader stops right
after it. -/
theorem readVarBytes_writeVarBytes (b rest : Bytes) (hb : b.length < 0xfd) (maxSize : Nat)
    (hm : b.length ≤ maxSize) :
    BinReader.readVarBytes ⟨writeVarBytes b ++ rest, none⟩ maxSize = (⟨rest, none⟩, b) := by
  have h8 : (UInt8.ofNat b.length).toNat = b.length := by
    simp [UInt8.toNat, UInt8.ofNat, Fin.ofNat, UInt8.size]; omega
  rw [writeVarBytes, writeVarUint, if_pos hb, List.singleton_append, List.cons_append,
    BinReader.readVarBytes, BinReader.readVarUint_small _ _ (by omega), h8]
  simp [Nat.not_lt.mpr hm]

end NeoInterop
