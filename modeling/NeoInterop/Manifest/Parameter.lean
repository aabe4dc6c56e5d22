import NeoInterop.Vm.StackItem

/-!
# `NeoInterop.Manifest.Parameter`: a manifest parameter on the stack

`manifest.Parameter` is a name and a `smartcontract.ParamType`. `ToStackItem` makes it a
struct of two items, the name's bytes and the type as an integer; `FromStackItem` checks the
struct's shape, reads the name with `stackitem.ToString` (which wants valid UTF-8), reads the
type with `TryInteger` and `Int64`, and hands it to `smartcontract.ConvertToParamType`.

The `stackitem` conversions and `ConvertToParamType` are absent from the sources. The table
of known parameter types is not in the sources either, so `convertToParamType` takes it as
an argument and every result here holds for every table.

* `Parameter.fromStackItem_toStackItem`: a parameter whose name is valid UTF-8 and whose
  type the table knows comes back from its own stack item unchanged.
* `Parameter.fromStackItem_normalForm`: every parameter `FromStackItem` accepts, from any
  stack item, comes back unchanged from its own `ToStackItem`.
-/

set_option autoImplicit false

namespace NeoInterop

/-! ### Types and names -/

/-- Modelled from the spec: `smartcontract.ParamType`, a Go `int`. -/
structure ParamType where
  val : Int
  ge : -2 ^ 63 ≤ val
  lt : val < 2 ^ 63
deriving DecidableEq

/-- `manifest.Parameter`. The name is a Go string, so its bytes. -/
structure Parameter where
  name : Bytes
  type : ParamType
deriving DecidableEq

/-- Modelled from the spec: `smartcontract.ConvertToParamType` is absent from the sources.
The known type with the value `val`, looked up in the table `known`. -/
def convertToParamType (known : List ParamType) (val : Int) : Except String ParamType :=
  match known.find? fun t => t.val = val with
  | some t => .ok t
  | none => .error "unknown parameter type"

/-- The size of the sequence a byte from `0x80` up starts and the range of the byte after it,
or nothing for a byte that starts none: the `first` and `acceptRanges` tables of
`unicode/utf8`. -/
def utf8Lead (b : UInt8) : Option (Nat × UInt8 × UInt8) :=
  if b ≤ 0xC1 then none
  else if b ≤ 0xDF then some (2, 0x80, 0xBF)
  else if b = 0xE0 then some (3, 0xA0, 0xBF)
  else if b ≤ 0xEC then some (3, 0x80, 0xBF)
  else if b = 0xED then some (3, 0x80, 0x9F)
  else if b ≤ 0xEF then some (3, 0x80, 0xBF)
  else if b = 0xF0 then some (4, 0x90, 0xBF)
  else if b ≤ 0xF3 then some (4, 0x80, 0xBF)
  else if b = 0xF4 then some (4, 0x80, 0x8F)
  else none

/-- A continuation byte, `0x80` to `0xBF`. -/
def utf8Cont (c : UInt8) : Bool := 0x80 ≤ c && c ≤ 0xBF

/-- Modelled from the spec: `utf8.Valid`, whether the bytes are a sequence of well-formed
UTF-8 encodings: no stray continuation byte, no overlong form, no surrogate, nothing above
`U+10FFFF`, nothing cut short. -/
def utf8Valid : Bytes → Bool
  | [] => true
  | b :: rest =>
    if b < 0x80 then utf8Valid rest
    else match utf8Lead b, rest with
      | some (2, lo, hi), c :: rest => lo ≤ c && c ≤ hi && utf8Valid rest
      | some (3, lo, hi), c :: d :: rest => lo ≤ c && c ≤ hi && utf8Cont d && utf8Valid rest
      | some (4, lo, hi), c :: d :: e :: rest =>
        lo ≤ c && c ≤ hi && utf8Cont d && utf8Cont e && utf8Valid rest
      | _, _ => false

example : utf8Valid [0xE2, 0x82, 0xAC] = true ∧ utf8Valid [0xED, 0xA0, 0x80] = false := by decide

/-! ### The `stackitem` conversions -/

/-- Modelled from the spec: `stackitem.ToString`, the bytes of `TryBytes` if they are valid
UTF-8. `TryBytes` converts as `(*vm.Element).Bytes` does. -/
def stackitemToString (x : StackItem) : Except String Bytes := do
  let s ← x.bytes
  if utf8Valid s then pure s else throw "not a valid UTF-8"

/-- Modelled from the spec: `(Item).TryInteger`. A byte array longer than
`MaxBigIntegerSizeBits / 8 = 32` bytes is not an integer. -/
def StackItem.tryInteger : StackItem → Except String Int
  | .bigInteger n => .ok n
  | .bool b => .ok (if b then 1 else 0)
  | .byteArray b => if b.length > 32 then .error "integer is too big" else .ok (bytesToInt b)
  | _ => .error "invalid conversion"

/-! ### To and from a stack item -/

/-- `(*Parameter).ToStackItem`: `stackitem.Make` of the name is a byte array, of the type an
integer. -/
def Parameter.toStackItem (p : Parameter) : StackItem :=
  .struct [.byteArray p.name, .bigInteger p.type.val]

/-- `(*Parameter).FromStackItem`, returning the parameter it reads. The type of the item is
checked first, then its length. -/
def Parameter.fromStackItem (known : List ParamType) : StackItem → Except String Parameter
  | .struct [x, y] => do
    let name ← stackitemToString x
    let typ ← y.tryInteger
    let type ← convertToParamType known (int64 typ)
    pure ⟨name, type⟩
  | .struct _ => .error "invalid Parameter stackitem length"
  | _ => .error "invalid Parameter stackitem type"

/-- The table finds a known type by its value. -/
theorem convertToParamType_of_ok {known : List ParamType} {t u : ParamType}
    (h : convertToParamType known t.val = .ok u) : u = t := by
  unfold convertToParamType at h
  split at h
  · rename_i hf
    cases h
    have hval : u.val = t.val := by simpa using List.find?_some hf
    cases u; cases t; cases hval; rfl
  · cases h

/-- A parameter whose name is valid UTF-8 and whose type `ConvertToParamType` accepts comes
back from `ToStackItem` through `FromStackItem` unchanged. -/
theorem Parameter.fromStackItem_toStackItem (known : List ParamType) (p : Parameter)
    (hname : utf8Valid p.name = true)
    (htype : ∃ t, convertToParamType known p.type.val = .ok t) :
    Parameter.fromStackItem known p.toStackItem = .ok p := by
  obtain ⟨t, ht⟩ := htype
  obtain rfl := convertToParamType_of_ok ht
  have hval : int64 p.type.val = p.type.val := int64_eq_self p.type.ge p.type.lt
  simp [Parameter.toStackItem, Parameter.fromStackItem, stackitemToString, StackItem.bytes,
    StackItem.tryInteger, hname, hval, ht]

/-- A known type; the sources give no values, so `0` here. -/
def demoParamType : ParamType := ⟨0, by decide, by decide⟩

/-- A parameter named "param", as in the test of the round trip. -/
def demoParameter : Parameter := ⟨[0x70, 0x61, 0x72, 0x61, 0x6d], demoParamType⟩

theorem Parameter.fromStackItem_toStackItem_demo :
    utf8Valid demoParameter.name = true ∧
      (∃ t, convertToParamType [demoParamType] demoParameter.type.val = .ok t) ∧
      Parameter.fromStackItem [demoParamType] demoParameter.toStackItem = .ok demoParameter :=
  ⟨by decide, ⟨_, rfl⟩, Parameter.fromStackItem_toStackItem _ _ (by decide) ⟨_, rfl⟩⟩

/-! ### What `FromStackItem` accepts -/

theorem stackitemToString_utf8Valid {x : StackItem} {s : Bytes}
    (h : stackitemToString x = .ok s) : utf8Valid s = true := by
  obtain ⟨s', -, h⟩ := bind_eq_ok.mp h
  split at h
  · cases h
    assumption
  · cases h

/-- The type `ConvertToParamType` returns has the value it was asked for. -/
theorem convertToParamType_val {known : List ParamType} {val : Int} {t : ParamType}
    (h : convertToParamType known val = .ok t) : t.val = val := by
  unfold convertToParamType at h
  split at h
  · rename_i hf
    cases h
    simpa using List.find?_some hf
  · cases h

/-- A parameter `FromStackItem` returns has a valid UTF-8 name and a type the table knows by
its own value. -/
theorem Parameter.fromStackItem_eq_ok {known : List ParamType} {x : StackItem} {p : Parameter}
    (h : Parameter.fromStackItem known x = .ok p) :
    utf8Valid p.name = true ∧ convertToParamType known p.type.val = .ok p.type := by
  unfold Parameter.fromStackItem at h
  split at h
  · simp only [bind_eq_ok, pure_eq_ok, Except.ok.injEq] at h
    obtain ⟨name, hn, typ, -, type, ht, rfl⟩ := h
    exact ⟨stackitemToString_utf8Valid hn, by rwa [convertToParamType_val ht]⟩
  all_goals cases h

/-- `ToStackItem` writes every parameter `FromStackItem` accepts in a form that reads back as
the same parameter, whatever form it was read from (a type given as a boolean or as bytes
comes back as an integer). -/
theorem Parameter.fromStackItem_normalForm (known : List ParamType) (x : StackItem)
    (p : Parameter) (h : Parameter.fromStackItem known x = .ok p) :
    Parameter.fromStackItem known p.toStackItem = .ok p := by
  obtain ⟨hname, htype⟩ := Parameter.fromStackItem_eq_ok h
  have hval : int64 p.type.val = p.type.val := int64_eq_self p.type.ge p.type.lt
  simp [Parameter.toStackItem, Parameter.fromStackItem, stackitemToString, StackItem.bytes,
    StackItem.tryInteger, hname, hval, htype]

/-- A parameter named "p" whose type is given as the boolean `false`. -/
theorem Parameter.fromStackItem_normalForm_demo :
    ∃ p, Parameter.fromStackItem [demoParamType] (.struct [.byteArray [0x70], .bool false]) =
        .ok p ∧ Parameter.fromStackItem [demoParamType] p.toStackItem = .ok p :=
  ⟨_, rfl, Parameter.fromStackItem_normalForm _ (.struct [.byteArray [0x70], .bool false]) _ rfl⟩

end NeoInterop
