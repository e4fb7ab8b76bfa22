import Mathlib.Data.List.Basic
import Mathlib.Data.BitVec

/-!
# The protocol vocabulary shared by both codecs

Everything `binary.rs` and `compact.rs` import from `protocol/mod.rs`, `errors.rs` and
`configuration.rs`, none of which is among the sources. Where the codecs only *use* a type
(`TType`, the identifiers, the error kinds), the type is transcribed from the way the codecs use
it; where they call a function of those files (`TMessageType::try_from`, `check_container_size`)
the function is modelled from the spec and says so.

* Rust's fixed-width integers are bit vectors: `i16` is `BitVec 16`, and `i32` and `u32` are both
  `BitVec 32`, so the casts `as u32` / `as i32` between them are the identity on bits and only the
  reading (`toNat` or `toInt`) changes.
* A Rust `String` is a byte list that carries its own proof of being UTF-8 (`Utf8String`), and a
  `uuid::Uuid` is a byte list that carries its length (`Uuid`): neither can be built invalid.
* An operation fails with one of the crate's errors, or panics (`Failure.panic`). Integer
  overflow panics or wraps depending on the build; every function whose arithmetic can overflow
  takes the flag `overflowChecks` (`true` for a debug build, `false` for a release build).
-/

namespace ThriftProtocol

/-! ## Wire types -/

/-- The abstract wire types (`TType`). -/
inductive TType where
  | stop | void | bool | i08 | double | i16 | i32 | i64 | string | utf7 | struct | map | set
  | list | uuid
  deriving DecidableEq, Repr

/-- The name `#[derive(Debug)]` prints for a wire type. -/
def TType.name : TType → String
  | .stop => "Stop" | .void => "Void" | .bool => "Bool" | .i08 => "I08" | .double => "Double"
  | .i16 => "I16" | .i32 => "I32" | .i64 => "I64" | .string => "String" | .utf7 => "Utf7"
  | .struct => "Struct" | .map => "Map" | .set => "Set" | .list => "List" | .uuid => "Uuid"

/-- The four kinds of message (`TMessageType`). -/
inductive TMessageType where
  | call | reply | exception | oneWay
  deriving DecidableEq, Repr

/-- `u8::from(TMessageType)`: the table `Call=1, Reply=2, Exception=3, OneWay=4`. -/
def TMessageType.toU8 : TMessageType → UInt8
  | .call => 1 | .reply => 2 | .exception => 3 | .oneWay => 4

@[simp] theorem TMessageType.toU8_le_four (t : TMessageType) : t.toU8.toNat ≤ 4 := by
  cases t <;> decide

/-! ## Errors -/

/-- `ProtocolErrorKind`, the kinds the codecs raise. -/
inductive ProtocolErrorKind where
  | unknown | invalidData | negativeSize | sizeLimit | badVersion | depthLimit
  deriving DecidableEq, Repr

/-- `ProtocolError`: a kind and a human-readable message. -/
structure ProtocolError where
  kind : ProtocolErrorKind
  message : String
  deriving DecidableEq, Repr

/-- The two `TransportErrorKind`s an in-memory transport produces. -/
inductive TransportErrorKind where
  | endOfFile | unknown
  deriving DecidableEq, Repr

/-- How an operation of a codec half fails: with `crate::Error::Transport`, with
`crate::Error::Protocol`, or by panicking (which no caller can recover from). -/
inductive Failure where
  | transport (kind : TransportErrorKind) (message : String)
  | protocol (e : ProtocolError)
  | panic (message : String)
  deriving DecidableEq, Repr

/-- A failure that is not a panic: the operation returned `Err`. -/
def Failure.IsError : Failure → Prop
  | .panic _ => False
  | _ => True

theorem bind_of_ok {ε σ α β : Type} {x : EStateM ε σ α} {f : α → EStateM ε σ β} {s s' : σ} {a : α}
    (h : x s = .ok a s') : (x >>= f) s = f a s' := by
  simp only [bind, EStateM.bind, h]

theorem bind_of_error {ε σ α β : Type} {x : EStateM ε σ α} {f : α → EStateM ε σ β} {s s' : σ}
    {e : ε} (h : x s = .error e s') : (x >>= f) s = .error e s' := by
  simp only [bind, EStateM.bind, h]

theorem get_bind {ε σ α : Type} (f : σ → EStateM ε σ α) (s : σ) : (get >>= f) s = f s s := rfl

theorem pure_bind_apply {ε σ α β : Type} (a : α) (f : α → EStateM ε σ β) (s : σ) :
    (pure a >>= f) s = f a s := rfl

/-- Shorthand for `Err(crate::Error::Protocol(ProtocolError { kind, message }))`. -/
def protocolError (kind : ProtocolErrorKind) (message : String) : Failure :=
  .protocol ⟨kind, message⟩

/-- Lift a pure result into a stateful operation; an error leaves the state as it is. -/
def ofExcept {σ α : Type} : Except Failure α → EStateM Failure σ α
  | .ok a => pure a
  | .error e => throw e

@[simp] theorem ofExcept_ok {σ α : Type} (a : α) (s : σ) :
    (ofExcept (.ok a) : EStateM Failure σ α) s = .ok a s := rfl

@[simp] theorem ofExcept_error {σ α : Type} (e : Failure) (s : σ) :
    (ofExcept (.error e) : EStateM Failure σ α) s = .error e s := rfl

/-- `Option::expect`: the value, or a panic with the given message. -/
def expect {σ α : Type} (o : Option α) (message : String) : EStateM Failure σ α :=
  match o with
  | some a => pure a
  | none => throw (.panic message)

@[simp] theorem expect_some {σ α : Type} (a : α) (message : String) (s : σ) :
    expect (some a) message s = .ok a s := rfl

/-- `TMessageType::try_from(u8)`.

Modelled from the spec: the conversion lives in `protocol/mod.rs`, which is not among the
sources. The spec gives the table `Call=1, Reply=2, Exception=3, OneWay=4` and classifies an
unknown tag as `InvalidData`. -/
def TMessageType.tryFrom (b : UInt8) : Except Failure TMessageType :=
  match b with
  | 1 => .ok .call
  | 2 => .ok .reply
  | 3 => .ok .exception
  | 4 => .ok .oneWay
  | unkn => .error (protocolError .invalidData s!"cannot convert {unkn} to TMessageType")

@[simp] theorem TMessageType.tryFrom_toU8 (t : TMessageType) : tryFrom t.toU8 = .ok t := by
  cases t <;> rfl

/-! ## UTF-8 strings

`String::from_utf8` runs `run_utf8_validation`, which accepts exactly the well-formed UTF-8 byte
sequences of the Unicode standard (Table 3-7): no overlong forms, no surrogates, nothing above
U+10FFFF. At the first sequence that is not well formed it stops, and its error says where the
sequence starts and how many of its bytes are invalid. -/

/-- A continuation byte `10xxxxxx`: one whose `as i8` is below `-64`. -/
def isCont (b : UInt8) : Bool := 0x80 ≤ b && b ≤ 0xBF

/-- `utf8_char_width`: the length of the sequence a first byte starts, `0` for a byte that starts
none. -/
def utf8CharWidth (b : UInt8) : Nat :=
  if b < 0x80 then 1 else if b < 0xC2 then 0 else if b < 0xE0 then 2 else if b < 0xF0 then 3
  else if b < 0xF5 then 4 else 0

/-- The second bytes that a three- or four-byte sequence with first byte `first` admits: after
`E0` none of an overlong form, after `ED` none of a surrogate, after `F0` none of an overlong form
and after `F4` none above U+10FFFF. -/
def secondByteOk (first c : UInt8) : Bool :=
  if first = 0xE0 then 0xA0 ≤ c && c ≤ 0xBF
  else if first = 0xED then 0x80 ≤ c && c ≤ 0x9F
  else if first = 0xF0 then 0x90 ≤ c && c ≤ 0xBF
  else if first = 0xF4 then 0x80 ≤ c && c ≤ 0x8F
  else isCont c

/-- A `Utf8Error`: the length of the valid prefix, and how many bytes after it are invalid, or
`none` when the input ends inside a sequence. -/
structure Utf8Error where
  validUpTo : Nat
  errorLen : Option Nat
  deriving DecidableEq, Repr

/-- The `Display` of `Utf8Error`, which `FromUtf8Error` shows too. -/
def Utf8Error.message (e : Utf8Error) : String :=
  match e.errorLen with
  | some n => s!"invalid utf-8 sequence of {n} bytes from index {e.validUpTo}"
  | none => s!"incomplete utf-8 byte sequence from index {e.validUpTo}"

/-- `run_utf8_validation` on the bytes from `index` on: each first byte's width, then one byte
after another, failing at the first that does not fit or is missing. -/
def runUtf8Validation (index : Nat) : List UInt8 → Except Utf8Error Unit
  | [] => .ok ()
  | first :: rest =>
    if first < 0x80 then runUtf8Validation (index + 1) rest
    else match utf8CharWidth first with
      | 2 => match rest with
        | [] => .error ⟨index, none⟩
        | c :: r => if isCont c then runUtf8Validation (index + 2) r else .error ⟨index, some 1⟩
      | 3 => match rest with
        | [] => .error ⟨index, none⟩
        | c1 :: r1 => if !secondByteOk first c1 then .error ⟨index, some 1⟩ else match r1 with
          | [] => .error ⟨index, none⟩
          | c2 :: r2 =>
            if isCont c2 then runUtf8Validation (index + 3) r2 else .error ⟨index, some 2⟩
      | 4 => match rest with
        | [] => .error ⟨index, none⟩
        | c1 :: r1 => if !secondByteOk first c1 then .error ⟨index, some 1⟩ else match r1 with
          | [] => .error ⟨index, none⟩
          | c2 :: r2 => if !isCont c2 then .error ⟨index, some 2⟩ else match r2 with
            | [] => .error ⟨index, none⟩
            | c3 :: r3 =>
              if isCont c3 then runUtf8Validation (index + 4) r3 else .error ⟨index, some 3⟩
      | _ => .error ⟨index, some 1⟩

/-- Well-formed UTF-8: what `run_utf8_validation` accepts. -/
def utf8Valid (bytes : List UInt8) : Bool := (runUtf8Validation 0 bytes).isOk

/-- A Rust `String`: bytes that are well-formed UTF-8. -/
structure Utf8String where
  bytes : List UInt8
  valid : utf8Valid bytes = true
  deriving DecidableEq, Repr

/-- `String::from_utf8`, with its error converted by the crate's `From` impl: `InvalidData`, with
the error's `Display` as the message. -/
def Utf8String.fromUtf8 (bytes : List UInt8) : Except Failure Utf8String :=
  match h : runUtf8Validation 0 bytes with
  | .ok () => .ok ⟨bytes, by rw [utf8Valid, h]; rfl⟩
  | .error e => .error (protocolError .invalidData e.message)

example : Utf8String.fromUtf8 [0x61, 0xE0, 0x80, 0x80] =
    .error (protocolError .invalidData "invalid utf-8 sequence of 1 bytes from index 1") :=
  rfl

example : Utf8String.fromUtf8 [0x61, 0xF0, 0x90, 0x80] =
    .error (protocolError .invalidData "incomplete utf-8 byte sequence from index 1") :=
  rfl

@[simp] theorem Utf8String.fromUtf8_bytes (s : Utf8String) : fromUtf8 s.bytes = .ok s := by
  have hv := s.valid
  rw [utf8Valid] at hv
  unfold fromUtf8
  split
  · rfl
  · rename_i h
    rw [h] at hv
    cases hv

/-! ## Uuids -/

/-- A `uuid::Uuid`: sixteen bytes. -/
structure Uuid where
  bytes : List UInt8
  length_bytes : bytes.length = 16
  deriving DecidableEq, Repr

/-- `Uuid::from_slice`, with its error converted by the crate's `From` impl. -/
def Uuid.fromSlice (b : List UInt8) : Except Failure Uuid :=
  if h : b.length = 16 then .ok ⟨b, h⟩
  else .error (protocolError .invalidData
    s!"invalid length: expected 16 bytes, found {b.length}")

@[simp] theorem Uuid.fromSlice_bytes (u : Uuid) : fromSlice u.bytes = .ok u := by
  simp [fromSlice, u.length_bytes]

/-! ## Identifiers -/

/-- `TMessageIdentifier`. -/
structure TMessageIdentifier where
  name : Utf8String
  messageType : TMessageType
  sequenceNumber : BitVec 32
  deriving DecidableEq, Repr

/-- `TFieldIdentifier`; the name is never written, and decoders leave it `None`. -/
structure TFieldIdentifier where
  name : Option String
  fieldType : TType
  id : Option (BitVec 16)
  deriving DecidableEq, Repr

/-- `TListIdentifier`. -/
structure TListIdentifier where
  elementType : TType
  size : BitVec 32
  deriving DecidableEq, Repr

/-- `TSetIdentifier`. -/
structure TSetIdentifier where
  elementType : TType
  size : BitVec 32
  deriving DecidableEq, Repr

/-- `TMapIdentifier`; both types are absent for an empty map read by the compact decoder. -/
structure TMapIdentifier where
  keyType : Option TType
  valueType : Option TType
  size : BitVec 32
  deriving DecidableEq, Repr

/-- What `#[derive(Debug)]` prints for a field identifier, for the messages that show one. -/
def TFieldIdentifier.debug (f : TFieldIdentifier) : String :=
  let name := match f.name with | some n => s!"Some({n.quote})" | none => "None"
  let ty := f.fieldType.name
  let id := match f.id with | some i => s!"Some({i.toInt})" | none => "None"
  s!"TFieldIdentifier \x7b name: {name}, field_type: {ty}, id: {id} \x7d"

/-! ## Configuration -/

/-- `TConfiguration`, reduced to the four caps the codecs consult (`max_frame_size` is read
only by framed transports). `none` is "unlimited". -/
structure TConfiguration where
  maxMessageSize : Option Nat
  maxContainerSize : Option Nat
  maxStringSize : Option Nat
  maxRecursionDepth : Option Nat
  deriving DecidableEq, Repr

/-- `TConfiguration::no_limits()`: all four caps disabled. -/
def TConfiguration.noLimits : TConfiguration := ⟨none, none, none, none⟩

/-- `check_container_size(config, container_size, element_size)`.

Modelled from the spec: the function lives in `protocol/mod.rs`, which is not among the
sources. The spec's §4.2: a negative count is `NegativeSize`; a count above
`max_container_size` is `SizeLimit` "Container size {count} exceeds maximum allowed size of
{cap}"; and `count * element_size` above the message budget is `SizeLimit` "… {bytes} bytes,
exceeding message size limit of {cap}". The budget is `max_message_size` itself, since the
codecs pass no remaining-bytes count. -/
def checkContainerSize (config : TConfiguration) (containerSize : BitVec 32)
    (elementSize : Nat) : Except Failure Unit :=
  let count := containerSize.toInt
  if count < 0 then
    .error (protocolError .negativeSize s!"Negative container size: {count}")
  else
    match config.maxContainerSize with
    | some cap =>
      if cap < containerSize.toNat then
        .error (protocolError .sizeLimit
          s!"Container size {count} exceeds maximum allowed size of {cap}")
      else checkMessageBudget config containerSize.toNat elementSize
    | none => checkMessageBudget config containerSize.toNat elementSize
where
  /-- The message-budget half of the check. -/
  checkMessageBudget (config : TConfiguration) (count elementSize : Nat) : Except Failure Unit :=
    match config.maxMessageSize with
    | some cap =>
      let bytes := count * elementSize
      if cap < bytes then
        .error (protocolError .sizeLimit
          s!"Container would require {bytes} bytes, exceeding message size limit of {cap}")
      else .ok ()
    | none => .ok ()

/-- A byte string of `n` bytes is within `max_string_size`. -/
def TConfiguration.StringFits (config : TConfiguration) (n : Nat) : Prop :=
  ∀ m, config.maxStringSize = some m → n ≤ m

theorem checkContainerSize_noLimits {x : BitVec 32} (h : 0 ≤ x.toInt) (e : Nat) :
    checkContainerSize .noLimits x e = .ok () := by
  simp [checkContainerSize, checkContainerSize.checkMessageBudget, TConfiguration.noLimits,
    Int.not_lt.mpr h]

/-! ## Rust integer arithmetic -/

/-- `x as usize` for an `i32` on a 64-bit target, which sign-extends. -/
def i32AsUsize (x : BitVec 32) : Nat := if x.toInt < 0 then x.toNat + (2 ^ 64 - 2 ^ 32) else x.toNat

theorem i32AsUsize_of_nonneg {x : BitVec 32} (h : 0 ≤ x.toInt) : i32AsUsize x = x.toNat := by
  simp [i32AsUsize, Int.not_lt.mpr h]

/-- The range of `i16`. -/
def inI16 (x : Int) : Bool := -32768 ≤ x && x ≤ 32767

/-- The `i32` of a length below `2 ^ 31` is non-negative and reads back as the length. -/
theorem length_i32 {n : Nat} (h : n < 2 ^ 31) :
    0 ≤ (BitVec.ofNat 32 n).toInt ∧ (BitVec.ofNat 32 n).toNat = n := by
  rw [BitVec.toInt_eq_toNat_cond, BitVec.toNat_ofNat]
  constructor
  · split <;> omega
  · omega

/-- `a + b` on `i16`: panics on overflow when the build checks it, wraps otherwise. -/
def addI16 {σ : Type} (overflowChecks : Bool) (a b : BitVec 16) : EStateM Failure σ (BitVec 16) :=
  if overflowChecks && !inI16 (a.toInt + b.toInt) then throw (.panic "attempt to add with overflow")
  else pure (a + b)

/-- `a - b` on `i16`: panics on overflow when the build checks it, wraps otherwise. -/
def subI16 {σ : Type} (overflowChecks : Bool) (a b : BitVec 16) : EStateM Failure σ (BitVec 16) :=
  if overflowChecks && !inI16 (a.toInt - b.toInt) then
    throw (.panic "attempt to subtract with overflow")
  else pure (a - b)

/-- `n -= 1` on `usize`: at zero a checked build panics and an unchecked one wraps to
`usize::MAX`. -/
def decUsize {σ : Type} (overflowChecks : Bool) (n : Nat) : EStateM Failure σ Nat :=
  if n = 0 then
    if overflowChecks then throw (.panic "attempt to subtract with overflow") else pure (2 ^ 64 - 1)
  else pure (n - 1)

theorem addI16_of_unchecked {σ : Type} (a b : BitVec 16) (s : σ) :
    addI16 false a b s = .ok (a + b) s := rfl

theorem subI16_of_unchecked {σ : Type} (a b : BitVec 16) (s : σ) :
    subI16 false a b s = .ok (a - b) s := rfl

theorem decUsize_pos {σ : Type} (overflowChecks : Bool) {n : Nat} (h : 0 < n) (s : σ) :
    decUsize overflowChecks n s = .ok (n - 1) s := by
  simp [decUsize, Nat.pos_iff_ne_zero.mp h]; rfl

end ThriftProtocol
