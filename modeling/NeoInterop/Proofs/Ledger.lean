import NeoInterop.Proofs.StagedStore

/-!
# `NeoInterop.Proofs.Ledger`: block, header, contract and transaction lookups

The five ledger lookups take a hash from the stack; blocks and headers also take a block
index. This module states how the argument is read and what a miss does.

* `getBlockHashFromElement_short` and `getBlockHashFromElement_long` say everything about
  the argument: at most 5 bytes is an index, whose value (always inside the `int64` range,
  `StackItem.bigInt_of_short`) is checked against the `uint32` range; more is a reversed
  hash. `blockLookup_index_or_hash` draws the consequence: for every index `i < 2 ^ 32` the
  integer `i` and the reversed hash of block `i` give the same result, because the VM
  encoding of such an `i` takes at most 5 bytes (`intToBytes_length_le`).
* `hashLookup_softMiss`: on a hash argument, block, header and contract lookups never fail,
  and a miss pushes an empty array (`bcGetByHash_hash`, `bcGetContract_hash`).
  `transactionMiss_faults`: the two transaction lookups pass the ledger's miss on as their
  error instead.
* `blockGetTransaction_wraps`: the transaction index is narrowed by `int64` before it is
  checked, so the index `k + 2 ^ 64`, past the end of every block, gives transaction `k`.
-/

set_option autoImplicit false

namespace NeoInterop

/-! ### Reading the argument -/

/-- The integer value of an argument of at most 5 bytes is below `2 ^ 40` in size, so
`Int64` leaves it alone. -/
theorem StackItem.bigInt_of_short {x : StackItem} {b : Bytes} (hx : x.bytes = .ok b)
    (hb : b.length ≤ 5) : ∃ v, x.bigInt = .ok v ∧ -2 ^ 40 ≤ v ∧ v < 2 ^ 40 := by
  cases x with
  | byteArray bs =>
    obtain rfl : bs = b := Except.ok.inj hx
    have h5 : 256 ^ bs.length ≤ 2 ^ 40 := (Nat.pow_le_pow_right (by decide) hb).trans (by decide)
    have h5i : (256 : Int) ^ bs.length ≤ 2 ^ 40 := by exact_mod_cast h5
    obtain ⟨lo, hi⟩ := bytesToInt_bound bs
    exact ⟨_, rfl, by omega, by omega⟩
  | bigInteger n =>
    cases hx
    obtain ⟨lo, hi⟩ := (intToBytes_length_le 4 n).mp hb
    exact ⟨n, rfl, by omega, by omega⟩
  | bool c => cases c <;> exact ⟨_, rfl, by omega, by omega⟩
  | array _ | struct _ | interop _ => cases hx

section BlockHash
variable (bc : Blockchain) {x : StackItem} {b : Bytes}

/-- An argument of at most 5 bytes is a block index: outside the `uint32` range it fails,
inside it names the hash of that block. -/
theorem getBlockHashFromElement_short (hx : x.bytes = .ok b) (hb : b.length ≤ 5) :
    ∃ v, x.bigInt = .ok v ∧ getBlockHashFromElement bc x =
      if v < 0 ∨ 2 ^ 32 ≤ v then .error "bad block index" else .ok (bc.getHeaderHash v.toNat) := by
  obtain ⟨v, hv, lo, hi⟩ := StackItem.bigInt_of_short hx hb
  have h64 : int64 v = v := int64_eq_self (by omega) (by omega)
  refine ⟨v, hv, ?_⟩
  simp only [getBlockHashFromElement, hx, hv, ok_bind, h64, if_pos hb, maxUint32]
  split_ifs <;> first | rfl | omega

/-- A longer argument is a reversed hash. -/
theorem getBlockHashFromElement_long (hx : x.bytes = .ok b) (hb : 5 < b.length) :
    getBlockHashFromElement bc x = uint256DecodeReverseBytes b := by
  simp [getBlockHashFromElement, hx, Nat.not_le.mpr hb]

/-- Every index in the `uint32` range, pushed as an integer, names its block's hash. -/
theorem getBlockHashFromElement_index {i : Int} (h0 : 0 ≤ i) (h1 : i < 2 ^ 32) :
    getBlockHashFromElement bc (.bigInteger i) = .ok (bc.getHeaderHash i.toNat) := by
  have hb : (intToBytes i).length ≤ 5 := (intToBytes_length_le 4 i).mpr ⟨by omega, by omega⟩
  obtain ⟨v, hv, h⟩ := getBlockHashFromElement_short bc
    (rfl : StackItem.bytes (.bigInteger i) = .ok (intToBytes i)) hb
  cases hv
  rw [h, if_neg (by omega)]

/-- A hash pushed in reversed form names itself. -/
theorem getBlockHashFromElement_hash (u : Uint256) :
    getBlockHashFromElement bc (.byteArray u.bytesReverse) = .ok u := by
  rw [getBlockHashFromElement_long bc
      (rfl : StackItem.bytes (.byteArray u.bytesReverse) = .ok u.bytesReverse)
      (by simp [Uint256.bytesReverse, u.size_eq]),
    uint256DecodeReverseBytes_bytesReverse]

end BlockHash

/-- The all-zero hash. -/
def zeroHash : Uint256 := ⟨List.replicate 32 0, rfl⟩

section Misses
variable (ic : InteropContext) (es : List StackItem) (istack : List ExecContext)

/-- On a hash argument, `bcGetBlock` and `bcGetHeader` never fail: they push the object, or
an empty array on a miss. -/
theorem bcGetByHash_hash {α : Type} (lookup : Blockchain → Uint256 → Except String α)
    (wrap : α → InteropValue) (u : Uint256) :
    bcGetByHash lookup wrap ic ⟨.byteArray u.bytesReverse :: es, istack⟩ =
      .ok ⟨es, some (match lookup ic.bc u with
        | .error _ => .byteArray []
        | .ok x => .interop (wrap x))⟩ := by
  simp only [bcGetByHash, pop_cons, ok_bind, getBlockHashFromElement_hash]
  cases lookup ic.bc u <;> rfl

/-- On a 20-byte argument, `bcGetContract` never fails: it pushes the contract, or an empty
array on a miss. -/
theorem bcGetContract_hash (h : Uint160) :
    bcGetContract ic ⟨.byteArray h.bytes :: es, istack⟩ =
      .ok ⟨es, some (match ic.bc.getContractState h with
        | none => .byteArray []
        | some cs => .interop (.contract cs))⟩ := by
  simp only [bcGetContract, pop_cons, ok_bind, StackItem.bytes,
    uint160DecodeBytes_of_length h.size_eq]
  cases ic.bc.getContractState h <;> rfl

/-- On a hash argument the block, header and contract lookups never fail: each pushes the
object the ledger holds, or an empty array when the ledger misses. -/
theorem hashLookup_softMiss (u : Uint256) (h : Uint160) :
    bcGetBlock ic ⟨.byteArray u.bytesReverse :: es, istack⟩ =
        .ok ⟨es, some (match ic.bc.getBlock u with
          | .error _ => .byteArray []
          | .ok b => .interop (.block b))⟩ ∧
      bcGetHeader ic ⟨.byteArray u.bytesReverse :: es, istack⟩ =
        .ok ⟨es, some (match ic.bc.getHeader u with
          | .error _ => .byteArray []
          | .ok hd => .interop (.header hd))⟩ ∧
      bcGetContract ic ⟨.byteArray h.bytes :: es, istack⟩ =
        .ok ⟨es, some (match ic.bc.getContractState h with
          | none => .byteArray []
          | some cs => .interop (.contract cs))⟩ := by
  -- the block and header lookups are `bcGetByHash_hash`, its match read at each type
  refine ⟨(bcGetByHash_hash ic es istack _ _ u).trans ?_,
    (bcGetByHash_hash ic es istack _ _ u).trans ?_, bcGetContract_hash ic es istack h⟩
  · cases ic.bc.getBlock u <;> rfl
  · cases ic.bc.getHeader u <;> rfl

/-- A transaction the ledger misses makes `bcGetTransaction` and `bcGetTransactionHeight`
fail with the ledger's error. -/
theorem transactionMiss_faults (u : Uint256) (e : String)
    (hmiss : ic.bc.getTransaction u = .error e) :
    bcGetTransaction ic ⟨.byteArray u.bytesReverse :: es, istack⟩ = .error e ∧
      bcGetTransactionHeight ic ⟨.byteArray u.bytesReverse :: es, istack⟩ = .error e := by
  simp [bcGetTransaction, bcGetTransactionHeight, getTransactionAndHeight, StackItem.bytes,
    uint256DecodeReverseBytes_bytesReverse, hmiss]

end Misses

/-- `transactionMiss_faults` over the ledger that holds nothing. -/
theorem transactionMiss_faults_emptyLedger :
    emptyLedger.getTransaction zeroHash = .error "key not found" ∧
      bcGetTransaction { demoContext with bc := emptyLedger } ⟨[.byteArray zeroHash.bytesReverse], []⟩ =
        .error "key not found" ∧
      bcGetTransactionHeight { demoContext with bc := emptyLedger }
        ⟨[.byteArray zeroHash.bytesReverse], []⟩ = .error "key not found" :=
  ⟨rfl, transactionMiss_faults { demoContext with bc := emptyLedger } [] [] zeroHash _ rfl⟩

/-! ### Transactions of a block -/

/-- `blockGetTransaction` on an integer index `i`: the transaction at `int64 i` when that is an
index of the block, else "wrong transaction index". -/
theorem blockGetTransaction_bigInteger (ic : InteropContext) (b : Block) (i : Int)
    (es : List StackItem) (istack : List ExecContext) :
    blockGetTransaction ic ⟨.interop (.block b) :: .bigInteger i :: es, istack⟩ =
      if h : int64 i < 0 ∨ int64 i ≥ b.transactions.length then .error "wrong transaction index"
      else .ok ⟨es, some (.interop (.transaction (some
        (b.transactions.get ⟨(int64 i).toNat, by omega⟩))))⟩ :=
  rfl

/-- The index `k + 2 ^ 64` is past the end of every block, and still `blockGetTransaction`
pushes transaction `k`: `BigInt().Int64()` keeps the low 64 bits of the index, which are
`k`, and only those are checked. -/
theorem blockGetTransaction_wraps (ic : InteropContext) (b : Block) (k : Nat)
    (hk : k < b.transactions.length) (h63 : k < 2 ^ 63) (es : List StackItem)
    (istack : List ExecContext) :
    blockGetTransaction ic ⟨.interop (.block b) :: .bigInteger (k + 2 ^ 64) :: es, istack⟩ =
      .ok ⟨es, some (.interop (.transaction (some (b.transactions.get ⟨k, hk⟩))))⟩ := by
  have hi : int64 (k + 2 ^ 64) = k := by unfold int64; omega
  rw [blockGetTransaction_bigInteger, dif_neg (by omega)]
  simp only [hi, Int.toNat_ofNat]

/-- A block with one transaction. -/
def oneTxBlock : Block :=
  ⟨⟨0, zeroHash, zeroHash, 0, 0, demoHash, zeroHash⟩, [⟨zeroHash, [], []⟩]⟩

/-- `blockGetTransaction_wraps` on `oneTxBlock` at `k = 0`: the index `2 ^ 64` gives its
transaction. -/
theorem blockGetTransaction_wraps_oneTx :
    0 < oneTxBlock.transactions.length ∧ 0 < 2 ^ 63 ∧
      blockGetTransaction demoContext ⟨[.interop (.block oneTxBlock), .bigInteger (2 ^ 64)], []⟩ =
        .ok ⟨[], some (.interop (.transaction (some ⟨zeroHash, [], []⟩)))⟩ :=
  ⟨by decide, by decide, blockGetTransaction_wraps demoContext oneTxBlock 0 (by decide) (by decide)
    [] []⟩

end NeoInterop
