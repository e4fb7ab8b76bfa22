import ThriftProtocol.Stream

/-!
# The binary codec (`binary.rs`)

`TBinaryInputProtocol` and `TBinaryOutputProtocol`, method by method. Scalars are big-endian
and fixed-width, byte strings carry an `i32` length prefix, and a field is its one-byte type
tag followed by its `i16` id. The only state besides the transport is the decoder's recursion
depth and, on both halves, the `strict` flag, which decides whether a message header starts with
the version word `0x8001_0000 | kind`.

Each half is a state record; each method is an `EStateM` computation over it, so that a
failing call still leaves the record as the Rust `&mut self` leaves it.
-/

namespace ThriftProtocol

/-! ## Type tags -/

/-- `field_type_to_u8`. -/
def fieldTypeToU8 : TType → UInt8
  | .stop => 0x00 | .void => 0x01 | .bool => 0x02 | .i08 => 0x03 | .double => 0x04
  | .i16 => 0x06 | .i32 => 0x08 | .i64 => 0x0A | .string => 0x0B | .utf7 => 0x0B
  | .struct => 0x0C | .map => 0x0D | .set => 0x0E | .list => 0x0F | .uuid => 0x10

/-- `field_type_from_u8`; tag `0x0B` is always read as `String`. -/
def fieldTypeFromU8 (b : UInt8) : Except Failure TType :=
  match b with
  | 0x00 => .ok .stop
  | 0x01 => .ok .void
  | 0x02 => .ok .bool
  | 0x03 => .ok .i08
  | 0x04 => .ok .double
  | 0x06 => .ok .i16
  | 0x08 => .ok .i32
  | 0x0A => .ok .i64
  | 0x0B => .ok .string
  | 0x0C => .ok .struct
  | 0x0D => .ok .map
  | 0x0E => .ok .set
  | 0x0F => .ok .list
  | 0x10 => .ok .uuid
  | unkn => .error (protocolError .invalidData s!"cannot convert {unkn} to TType")

theorem fieldTypeFromU8_fieldTypeToU8 {t : TType} (h : t ≠ .utf7) :
    fieldTypeFromU8 (fieldTypeToU8 t) = .ok t := by
  cases t <;> first | rfl | exact absurd rfl h

/-- `BINARY_PROTOCOL_VERSION_1`. -/
def binaryProtocolVersion1 : Nat := 0x80010000

/-! ## The decoder -/

/-- `TBinaryInputProtocol`. -/
structure TBinaryInputProtocol where
  strict : Bool
  transport : List UInt8
  config : TConfiguration
  recursionDepth : Nat

namespace TBinaryInputProtocol

/-- `TBinaryInputProtocol::with_config`. -/
def withConfig (transport : List UInt8) (strict : Bool) (config : TConfiguration) :
    TBinaryInputProtocol :=
  ⟨strict, transport, config, 0⟩

/-- A read on the transport. -/
def io {α : Type} (r : Reader α) : EStateM Failure TBinaryInputProtocol α :=
  onTransport (·.transport) (fun s t => { s with transport := t }) r

/-- `check_recursion_depth`. -/
def checkRecursionDepth : EStateM Failure TBinaryInputProtocol Unit := fun s =>
  match s.config.maxRecursionDepth with
  | some limit =>
    if limit ≤ s.recursionDepth then
      .error (protocolError .depthLimit s!"Maximum recursion depth {limit} exceeded") s
    else .ok () s
  | none => .ok () s

/-- `read_byte`. -/
def readByte : EStateM Failure TBinaryInputProtocol UInt8 := io readU8

/-- `read_i8`. -/
def readI8 : EStateM Failure TBinaryInputProtocol (BitVec 8) := do
  let b ← io readU8
  pure b.toBitVec

/-- `read_i16`. -/
def readI16 : EStateM Failure TBinaryInputProtocol (BitVec 16) := do
  let n ← io (readBE 2)
  pure (BitVec.ofNat 16 n)

/-- `read_i32`. -/
def readI32 : EStateM Failure TBinaryInputProtocol (BitVec 32) := do
  let n ← io (readBE 4)
  pure (BitVec.ofNat 32 n)

/-- `read_i64`. -/
def readI64 : EStateM Failure TBinaryInputProtocol (BitVec 64) := do
  let n ← io (readBE 8)
  pure (BitVec.ofNat 64 n)

/-- `read_double`, as the IEEE-754 bit pattern. -/
def readDouble : EStateM Failure TBinaryInputProtocol (BitVec 64) := do
  let n ← io (readBE 8)
  pure (BitVec.ofNat 64 n)

/-- `read_bytes`: an `i32` length, checked for sign and against `max_string_size` before
the payload is read. -/
def readBytes : EStateM Failure TBinaryInputProtocol (List UInt8) := do
  let numBytes ← readI32
  if numBytes.toInt < 0 then
    throw (protocolError .negativeSize s!"Negative byte array size: {numBytes.toInt}")
  let s ← get
  if let some maxSize := s.config.maxStringSize then
    if maxSize < i32AsUsize numBytes then
      throw (protocolError .sizeLimit
        s!"Byte array size {numBytes.toInt} exceeds maximum allowed size of {maxSize}")
  io (readExact (i32AsUsize numBytes))

/-- `read_bool`: any non-zero byte is `true`. -/
def readBool : EStateM Failure TBinaryInputProtocol Bool := do
  let b ← readI8
  pure (b != 0)

/-- `read_uuid`: sixteen raw bytes. -/
def readUuid : EStateM Failure TBinaryInputProtocol Uuid := io readUuidBytes

/-- `read_string`. -/
def readString : EStateM Failure TBinaryInputProtocol Utf8String := do
  let bytes ← readBytes
  ofExcept (Utf8String.fromUtf8 bytes)

/-- `read_message_begin`. The sign bit of the first byte tells a version word from the length
prefix of the name a non-strict writer puts first. -/
def readMessageBegin : EStateM Failure TBinaryInputProtocol TMessageIdentifier := do
  let firstBytes ← io (readExact 4)
  let shown := (firstBytes.take 2).map UInt8.toNat
  if firstBytes.headD 0 &&& 0x80 != 0 then
    if firstBytes.take 2 != [0x80, 0x01] then
      throw (protocolError .badVersion s!"received bad version: {shown}")
    else
      let messageType ← ofExcept (TMessageType.tryFrom (firstBytes.getD 3 0))
      let name ← readString
      let sequenceNumber ← readI32
      pure ⟨name, messageType, sequenceNumber⟩
  else
    let s ← get
    if s.strict then
      throw (protocolError .badVersion s!"received bad version: {shown}")
    else
      let nameSize := i32AsUsize (BitVec.ofNat 32 (beNat firstBytes))
      let nameBuf ← io (readExact nameSize)
      let name ← ofExcept (Utf8String.fromUtf8 nameBuf)
      let b ← readByte
      let messageType ← ofExcept (TMessageType.tryFrom b)
      let sequenceNumber ← readI32
      pure ⟨name, messageType, sequenceNumber⟩

/-- `read_struct_begin`: the depth is checked, then incremented. -/
def readStructBegin : EStateM Failure TBinaryInputProtocol Unit := do
  checkRecursionDepth
  modify fun s => { s with recursionDepth := s.recursionDepth + 1 }

/-- `read_struct_end`. -/
def readStructEnd (overflowChecks : Bool) : EStateM Failure TBinaryInputProtocol Unit := do
  let s ← get
  let depth ← decUsize overflowChecks s.recursionDepth
  set { s with recursionDepth := depth }

/-- `read_field_begin`: a stop field has no id on the wire and is returned with id `0`. -/
def readFieldBegin : EStateM Failure TBinaryInputProtocol TFieldIdentifier := do
  let fieldTypeByte ← readByte
  let fieldType ← ofExcept (fieldTypeFromU8 fieldTypeByte)
  let id ← match fieldType with
    | .stop => pure 0
    | _ => readI16
  pure ⟨none, fieldType, some id⟩

/-- `min_serialized_size`. -/
def minSerializedSize : TType → Nat
  | .stop => 1 | .void => 1 | .bool => 1 | .i08 => 1 | .double => 8 | .i16 => 2 | .i32 => 4
  | .i64 => 8 | .string => 4 | .struct => 1 | .map => 4 | .set => 4 | .list => 4 | .uuid => 16
  | .utf7 => 1

/-- The body `read_list_begin` and `read_set_begin` share: the element type, then the `i32`
count, checked by `check_container_size`. -/
def readListSetBegin : EStateM Failure TBinaryInputProtocol (TType × BitVec 32) := do
  let b ← readByte
  let elementType ← ofExcept (fieldTypeFromU8 b)
  let size ← readI32
  let s ← get
  ofExcept (checkContainerSize s.config size (minSerializedSize elementType))
  pure (elementType, size)

/-- `read_list_begin`. -/
def readListBegin : EStateM Failure TBinaryInputProtocol TListIdentifier := do
  let (elementType, size) ← readListSetBegin
  pure ⟨elementType, size⟩

/-- `read_set_begin`. -/
def readSetBegin : EStateM Failure TBinaryInputProtocol TSetIdentifier := do
  let (elementType, size) ← readListSetBegin
  pure ⟨elementType, size⟩

/-- `read_map_begin`: the element size is the sum of the key and value minima. -/
def readMapBegin : EStateM Failure TBinaryInputProtocol TMapIdentifier := do
  let kb ← readByte
  let keyType ← ofExcept (fieldTypeFromU8 kb)
  let vb ← readByte
  let valueType ← ofExcept (fieldTypeFromU8 vb)
  let size ← readI32
  let s ← get
  ofExcept (checkContainerSize s.config size
    (minSerializedSize keyType + minSerializedSize valueType))
  pure ⟨some keyType, some valueType, size⟩

/-- One read operation. -/
def exec (overflowChecks : Bool) : ReadOp → EStateM Failure TBinaryInputProtocol ReadValue
  | .messageBegin => do let m ← readMessageBegin; pure (.message m)
  | .structBegin => do readStructBegin; pure .unit
  | .structEnd => do readStructEnd overflowChecks; pure .unit
  | .fieldBegin => do let f ← readFieldBegin; pure (.field f)
  | .bytes => do let b ← readBytes; pure (.bytes b)
  | .bool => do let b ← readBool; pure (.bool b)
  | .i8 => do let i ← readI8; pure (.i8 i)
  | .i16 => do let i ← readI16; pure (.i16 i)
  | .i32 => do let i ← readI32; pure (.i32 i)
  | .i64 => do let i ← readI64; pure (.i64 i)
  | .double => do let d ← readDouble; pure (.double d)
  | .string => do let s ← readString; pure (.string s)
  | .uuid => do let u ← readUuid; pure (.uuid u)
  | .listBegin => do let l ← readListBegin; pure (.list l)
  | .setBegin => do let l ← readSetBegin; pure (.set l)
  | .mapBegin => do let m ← readMapBegin; pure (.map m)
  | .byte => do let b ← readByte; pure (.byte b)
  | .messageEnd | .fieldEnd | .listEnd | .setEnd | .mapEnd => pure .unit

end TBinaryInputProtocol

/-! ## The encoder -/

/-- `TBinaryOutputProtocol`. -/
structure TBinaryOutputProtocol where
  strict : Bool
  transport : List UInt8

namespace TBinaryOutputProtocol

/-- Append bytes to the transport. -/
def emit (bs : List UInt8) : EStateM Failure TBinaryOutputProtocol Unit := fun s =>
  .ok () { s with transport := s.transport ++ bs }

/-- `write_byte`. -/
def writeByte (b : UInt8) : EStateM Failure TBinaryOutputProtocol Unit := emit [b]

/-- `write_i8`. -/
def writeI8 (i : BitVec 8) : EStateM Failure TBinaryOutputProtocol Unit := emit [⟨i⟩]

/-- `write_i16`. -/
def writeI16 (i : BitVec 16) : EStateM Failure TBinaryOutputProtocol Unit :=
  emit (beBytes 2 i.toNat)

/-- `write_i32`. -/
def writeI32 (i : BitVec 32) : EStateM Failure TBinaryOutputProtocol Unit :=
  emit (beBytes 4 i.toNat)

/-- `write_i64`. -/
def writeI64 (i : BitVec 64) : EStateM Failure TBinaryOutputProtocol Unit :=
  emit (beBytes 8 i.toNat)

/-- `write_double`, from the IEEE-754 bit pattern. -/
def writeDouble (d : BitVec 64) : EStateM Failure TBinaryOutputProtocol Unit :=
  emit (beBytes 8 d.toNat)

/-- `write_bytes`: the length cast `as i32`, then the bytes. -/
def writeBytes (b : List UInt8) : EStateM Failure TBinaryOutputProtocol Unit := do
  writeI32 (BitVec.ofNat 32 b.length)
  emit b

/-- `write_bool`. -/
def writeBool (b : Bool) : EStateM Failure TBinaryOutputProtocol Unit :=
  if b then writeI8 1 else writeI8 0

/-- `write_string`. -/
def writeString (s : Utf8String) : EStateM Failure TBinaryOutputProtocol Unit :=
  writeBytes s.bytes

/-- `write_uuid`: sixteen raw bytes. -/
def writeUuid (u : Uuid) : EStateM Failure TBinaryOutputProtocol Unit := emit u.bytes

/-- `write_message_begin`. -/
def writeMessageBegin (identifier : TMessageIdentifier) :
    EStateM Failure TBinaryOutputProtocol Unit := do
  let s ← get
  if s.strict then
    let header := binaryProtocolVersion1 ||| identifier.messageType.toU8.toNat
    emit (beBytes 4 header)
    writeString identifier.name
    writeI32 identifier.sequenceNumber
  else
    writeString identifier.name
    writeByte identifier.messageType.toU8
    writeI32 identifier.sequenceNumber

/-- `write_field_begin`: a non-stop field must carry an id. -/
def writeFieldBegin (identifier : TFieldIdentifier) :
    EStateM Failure TBinaryOutputProtocol Unit :=
  if identifier.id.isNone && identifier.fieldType != .stop then
    throw (protocolError .unknown
      s!"cannot write identifier {identifier.debug} without sequence number")
  else do
    writeByte (fieldTypeToU8 identifier.fieldType)
    match identifier.id with
    | some id => writeI16 id
    | none => pure ()

/-- `write_field_stop`. -/
def writeFieldStop : EStateM Failure TBinaryOutputProtocol Unit :=
  writeByte (fieldTypeToU8 .stop)

/-- `write_list_begin`. -/
def writeListBegin (identifier : TListIdentifier) :
    EStateM Failure TBinaryOutputProtocol Unit := do
  writeByte (fieldTypeToU8 identifier.elementType)
  writeI32 identifier.size

/-- `write_set_begin`. -/
def writeSetBegin (identifier : TSetIdentifier) :
    EStateM Failure TBinaryOutputProtocol Unit := do
  writeByte (fieldTypeToU8 identifier.elementType)
  writeI32 identifier.size

/-- `write_map_begin`: both types must be present. -/
def writeMapBegin (identifier : TMapIdentifier) :
    EStateM Failure TBinaryOutputProtocol Unit := do
  let keyType ← expect identifier.keyType "map identifier to write should contain key type"
  writeByte (fieldTypeToU8 keyType)
  let valType ← expect identifier.valueType "map identifier to write should contain value type"
  writeByte (fieldTypeToU8 valType)
  writeI32 identifier.size

/-- One write operation. -/
def exec : WriteOp → EStateM Failure TBinaryOutputProtocol Unit
  | .messageBegin m => writeMessageBegin m
  | .fieldBegin f => writeFieldBegin f
  | .fieldStop => writeFieldStop
  | .bytes b => writeBytes b
  | .bool b => writeBool b
  | .i8 i => writeI8 i
  | .i16 i => writeI16 i
  | .i32 i => writeI32 i
  | .i64 i => writeI64 i
  | .double d => writeDouble d
  | .string s => writeString s
  | .uuid u => writeUuid u
  | .listBegin l => writeListBegin l
  | .setBegin l => writeSetBegin l
  | .mapBegin m => writeMapBegin m
  | .byte b => writeByte b
  | .messageEnd | .structBegin | .structEnd | .fieldEnd | .listEnd | .setEnd | .mapEnd =>
    pure ()

end TBinaryOutputProtocol

/-! ## Specifications of the decoder's reads

Each read, on input that starts with what the matching write emits, returns the written value
and leaves exactly the rest of the input. -/

namespace TBinaryInputProtocol

variable (d : TBinaryInputProtocol) (rest : List UInt8)

theorem io_ok {α : Type} {r : Reader α} {d : TBinaryInputProtocol} {a : α} {t₀ t : List UInt8}
    (h : r t₀ = .ok a t) : io r { d with transport := t₀ } = .ok a { d with transport := t } := by
  simp [io, onTransport, h]

theorem readExact_spec (bs : List UInt8) (n : Nat) (h : bs.length = n) :
    io (readExact n) { d with transport := bs ++ rest } = .ok bs { d with transport := rest } := by
  subst h; exact io_ok (readExact_append bs rest)

theorem readByte_spec (b : UInt8) :
    readByte { d with transport := b :: rest } = .ok b { d with transport := rest } :=
  io_ok rfl

theorem readI8_spec (i : BitVec 8) :
    readI8 { d with transport := ⟨i⟩ :: rest } = .ok i { d with transport := rest } := by
  simp [readI8, bind_of_ok (io_ok (readU8_cons _ _))]; rfl

theorem readI16_spec (i : BitVec 16) :
    readI16 { d with transport := beBytes 2 i.toNat ++ rest } =
      .ok i { d with transport := rest } := by
  rw [readI16, bind_of_ok (io_ok (readBE_append _ _ _))]
  simp only [pure, EStateM.pure, @BitVec.ofNat_toNat_mod _ i (256 ^ 2) (by decide)]

theorem readI32_spec (i : BitVec 32) :
    readI32 { d with transport := beBytes 4 i.toNat ++ rest } =
      .ok i { d with transport := rest } := by
  rw [readI32, bind_of_ok (io_ok (readBE_append _ _ _))]
  simp only [pure, EStateM.pure, @BitVec.ofNat_toNat_mod _ i (256 ^ 4) (by decide)]

theorem readI64_spec (i : BitVec 64) :
    readI64 { d with transport := beBytes 8 i.toNat ++ rest } =
      .ok i { d with transport := rest } := by
  rw [readI64, bind_of_ok (io_ok (readBE_append _ _ _))]
  simp only [pure, EStateM.pure, @BitVec.ofNat_toNat_mod _ i (256 ^ 8) (by decide)]

theorem readDouble_spec (x : BitVec 64) :
    readDouble { d with transport := beBytes 8 x.toNat ++ rest } =
      .ok x { d with transport := rest } := by
  rw [readDouble, bind_of_ok (io_ok (readBE_append _ _ _))]
  simp only [pure, EStateM.pure, @BitVec.ofNat_toNat_mod _ x (256 ^ 8) (by decide)]

theorem readBytes_spec (b : List UInt8) (hb : b.length < 2 ^ 31)
    (hfit : d.config.StringFits b.length) :
    readBytes { d with transport := beBytes 4 b.length ++ b ++ rest } =
      .ok b { d with transport := rest } := by
  obtain ⟨hnn, hnat⟩ := length_i32 hb
  have h4 := readI32_spec d (b ++ rest) (BitVec.ofNat 32 b.length)
  rw [hnat, ← List.append_assoc] at h4
  rw [readBytes, bind_of_ok h4]
  simp only [Int.not_lt.mpr hnn, if_false, i32AsUsize_of_nonneg hnn, hnat]
  have hio := readExact_spec d rest b _ rfl
  rcases hm : d.config.maxStringSize with _ | m <;>
    simp only [bind, EStateM.bind, get, getThe, MonadStateOf.get, EStateM.get, pure,
      EStateM.pure, hm, hio]
  simp only [Nat.not_lt.mpr (hfit m hm), if_false, bind, EStateM.bind, pure, EStateM.pure, hio]

theorem readString_spec (s : Utf8String) (hb : s.bytes.length < 2 ^ 31)
    (hfit : d.config.StringFits s.bytes.length) :
    readString { d with transport := beBytes 4 s.bytes.length ++ s.bytes ++ rest } =
      .ok s { d with transport := rest } := by
  rw [readString, bind_of_ok (readBytes_spec d rest s.bytes hb hfit), Utf8String.fromUtf8_bytes]
  rfl

theorem readBool_spec (b : Bool) :
    readBool { d with transport := ⟨if b then 1 else 0⟩ :: rest } =
      .ok b { d with transport := rest } := by
  rw [readBool, bind_of_ok (readI8_spec d rest _)]
  cases b <;> rfl

theorem readUuid_spec (u : Uuid) :
    readUuid { d with transport := u.bytes ++ rest } = .ok u { d with transport := rest } :=
  io_ok (readUuidBytes_append u rest)

theorem readFieldBegin_spec {t : TType} (hs : t ≠ .stop) (hu : t ≠ .utf7) (id : BitVec 16) :
    readFieldBegin { d with transport := fieldTypeToU8 t :: beBytes 2 id.toNat ++ rest } =
      .ok ⟨none, t, some id⟩ { d with transport := rest } := by
  rw [List.cons_append, readFieldBegin, bind_of_ok (readByte_spec d _ _),
    fieldTypeFromU8_fieldTypeToU8 hu, bind_of_ok (ofExcept_ok _ _)]
  cases t <;> first
    | exact absurd rfl hs
    | exact bind_of_ok (readI16_spec d _ _)

theorem readFieldBegin_stop :
    readFieldBegin { d with transport := 0 :: rest } =
      .ok ⟨none, .stop, some 0⟩ { d with transport := rest } := by
  rw [readFieldBegin, bind_of_ok (readByte_spec d _ _)]
  rfl

theorem readListSetBegin_spec {t : TType} (hu : t ≠ .utf7) (n : BitVec 32)
    (hc : checkContainerSize d.config n (minSerializedSize t) = .ok ()) :
    readListSetBegin { d with transport := fieldTypeToU8 t :: beBytes 4 n.toNat ++ rest } =
      .ok (t, n) { d with transport := rest } := by
  rw [List.cons_append, readListSetBegin, bind_of_ok (readByte_spec d _ _),
    fieldTypeFromU8_fieldTypeToU8 hu]
  simp only [bind_of_ok (ofExcept_ok _ _), bind_of_ok (readI32_spec d _ _)]
  simp only [bind, EStateM.bind, get, getThe, MonadStateOf.get, EStateM.get, hc, ofExcept_ok,
    pure, EStateM.pure]

theorem readListBegin_spec {t : TType} (hu : t ≠ .utf7) (n : BitVec 32)
    (hc : checkContainerSize d.config n (minSerializedSize t) = .ok ()) :
    readListBegin { d with transport := fieldTypeToU8 t :: beBytes 4 n.toNat ++ rest } =
      .ok ⟨t, n⟩ { d with transport := rest } :=
  bind_of_ok (readListSetBegin_spec d rest hu n hc)

theorem readSetBegin_spec {t : TType} (hu : t ≠ .utf7) (n : BitVec 32)
    (hc : checkContainerSize d.config n (minSerializedSize t) = .ok ()) :
    readSetBegin { d with transport := fieldTypeToU8 t :: beBytes 4 n.toNat ++ rest } =
      .ok ⟨t, n⟩ { d with transport := rest } :=
  bind_of_ok (readListSetBegin_spec d rest hu n hc)

theorem readMapBegin_spec {k v : TType} (hk : k ≠ .utf7) (hv : v ≠ .utf7) (n : BitVec 32)
    (hc : checkContainerSize d.config n (minSerializedSize k + minSerializedSize v) = .ok ()) :
    readMapBegin
        { d with transport := fieldTypeToU8 k :: fieldTypeToU8 v :: beBytes 4 n.toNat ++ rest } =
      .ok ⟨some k, some v, n⟩ { d with transport := rest } := by
  rw [List.cons_append, List.cons_append, readMapBegin, bind_of_ok (readByte_spec d _ _),
    fieldTypeFromU8_fieldTypeToU8 hk]
  simp only [bind_of_ok (ofExcept_ok _ _), bind_of_ok (readByte_spec d _ _),
    fieldTypeFromU8_fieldTypeToU8 hv, bind_of_ok (readI32_spec d _ _)]
  simp only [bind, EStateM.bind, get, getThe, MonadStateOf.get, EStateM.get, hc, ofExcept_ok,
    pure, EStateM.pure]

theorem readMessageBegin_strictHeader (m : TMessageIdentifier) (hb : m.name.bytes.length < 2 ^ 31)
    (hfit : d.config.StringFits m.name.bytes.length) :
    readMessageBegin { d with transport := ([0x80, 0x01, 0x00, m.messageType.toU8] ++
      beBytes 4 (BitVec.ofNat 32 m.name.bytes.length).toNat ++ m.name.bytes ++
      beBytes 4 m.sequenceNumber.toNat ++ rest) } = .ok m { d with transport := rest } := by
  obtain ⟨-, hnat⟩ := length_i32 hb
  have hs := readString_spec d (beBytes 4 m.sequenceNumber.toNat ++ rest) m.name hb hfit
  have hv : ([0x80, 0x01, 0x00, m.messageType.toU8].headD 0 &&& 0x80 != 0) = true := by
    simp only [List.headD]; decide
  have hk : (List.take 2 [0x80, 0x01, 0x00, m.messageType.toU8] != [0x80, 0x01]) = false := rfl
  rw [hnat]
  simp only [List.append_assoc] at hs ⊢
  rw [readMessageBegin, bind_of_ok (readExact_spec d _ [0x80, 0x01, 0x00, _] 4 rfl),
    if_pos hv, hk, if_neg Bool.false_ne_true]
  show (do let messageType ← ofExcept (TMessageType.tryFrom m.messageType.toU8); _) _ = _
  rw [TMessageType.tryFrom_toU8, bind_of_ok (ofExcept_ok _ _), bind_of_ok hs,
    bind_of_ok (readI32_spec d rest _)]
  rfl

theorem readMessageBegin_nonStrictHeader (m : TMessageIdentifier) (hs : d.strict = false)
    (hb : m.name.bytes.length < 2 ^ 31) :
    readMessageBegin { d with transport := (beBytes 4 (BitVec.ofNat 32 m.name.bytes.length).toNat ++
      m.name.bytes ++ [m.messageType.toU8] ++ beBytes 4 m.sequenceNumber.toNat ++ rest) } =
      .ok m { d with transport := rest } := by
  obtain ⟨hnn, hnat⟩ := length_i32 hb
  rw [hnat]
  simp only [List.append_assoc, List.cons_append, List.nil_append]
  rw [readMessageBegin, bind_of_ok (readExact_spec d _ _ 4 (length_beBytes 4 _)), beBytes_four_signBit hb,
    if_neg Bool.false_ne_true, get_bind, if_neg (by simpa using hs), beNat_beBytes,
    Nat.mod_eq_of_lt (by omega), i32AsUsize_of_nonneg hnn, hnat,
    bind_of_ok (io_ok (readExact_append _ _)), Utf8String.fromUtf8_bytes,
    bind_of_ok (ofExcept_ok _ _), bind_of_ok (readByte_spec d _ _), TMessageType.tryFrom_toU8,
    bind_of_ok (ofExcept_ok _ _), bind_of_ok (readI32_spec d rest _)]
  rfl

/-- A strict decoder refuses a header whose first four bytes are a non-negative `i32`, which is
how a non-strict encoder starts every header. -/
theorem readMessageBegin_badVersion (hs : d.strict = true) {n : Nat} (hb : n < 2 ^ 31) :
    readMessageBegin { d with transport := beBytes 4 n ++ rest } =
      .error (protocolError .badVersion
        s!"received bad version: {((beBytes 4 n).take 2).map UInt8.toNat}")
        { d with transport := rest } := by
  rw [readMessageBegin, bind_of_ok (readExact_spec d _ _ 4 (length_beBytes 4 _)), beBytes_four_signBit hb,
    if_neg Bool.false_ne_true, get_bind, if_pos (by simpa using hs)]
  rfl

/-- A struct can be entered when no depth limit is set, or the depth is below it. -/
def DepthRoom (d : TBinaryInputProtocol) : Prop :=
  ∀ limit, d.config.maxRecursionDepth = some limit → d.recursionDepth < limit

theorem readStructBegin_spec (h : d.DepthRoom) :
    readStructBegin d = .ok () { d with recursionDepth := d.recursionDepth + 1 } := by
  have hc : checkRecursionDepth d = .ok () d := by
    unfold checkRecursionDepth
    split
    · rename_i limit hl; simp [Nat.not_le.mpr (h limit hl)]
    · rfl
  rw [readStructBegin, bind_of_ok hc]; rfl

theorem readStructEnd_spec (overflowChecks : Bool) (h : 0 < d.recursionDepth) :
    readStructEnd overflowChecks d = .ok () { d with recursionDepth := d.recursionDepth - 1 } := by
  simp only [readStructEnd, bind, EStateM.bind, get, getThe, MonadStateOf.get, EStateM.get,
    decUsize_pos overflowChecks h, set, EStateM.set]

end TBinaryInputProtocol

/-! ## Specifications of the encoder's writes

Every write appends to the transport and changes nothing else. -/

namespace TBinaryOutputProtocol

variable (e : TBinaryOutputProtocol)

theorem writeByte_spec (b : UInt8) :
    writeByte b e = .ok () { e with transport := e.transport ++ [b] } := rfl

theorem writeBytes_spec (b : List UInt8) :
    writeBytes b e =
      .ok () { e with transport := e.transport ++ beBytes 4 (BitVec.ofNat 32 b.length).toNat ++ b } :=
  rfl

theorem writeBool_spec (b : Bool) :
    writeBool b e = .ok () { e with transport := e.transport ++ [⟨if b then 1 else 0⟩] } := by
  cases b <;> rfl

theorem writeFieldBegin_spec (name : Option String) (t : TType) (id : BitVec 16) :
    writeFieldBegin ⟨name, t, some id⟩ e =
      .ok () { e with transport := e.transport ++ [fieldTypeToU8 t] ++ beBytes 2 id.toNat } := rfl

theorem writeListBegin_spec (t : TType) (n : BitVec 32) :
    writeListBegin ⟨t, n⟩ e =
      .ok () { e with transport := e.transport ++ [fieldTypeToU8 t] ++ beBytes 4 n.toNat } := rfl

theorem writeSetBegin_spec (t : TType) (n : BitVec 32) :
    writeSetBegin ⟨t, n⟩ e =
      .ok () { e with transport := e.transport ++ [fieldTypeToU8 t] ++ beBytes 4 n.toNat } := rfl

theorem writeMapBegin_spec (k v : TType) (n : BitVec 32) :
    writeMapBegin ⟨some k, some v, n⟩ e = .ok ()
      { e with transport := e.transport ++ [fieldTypeToU8 k] ++ [fieldTypeToU8 v] ++
          beBytes 4 n.toNat } := rfl

/-- The version word of a strict header is the bytes `80 01 00 kind`. -/
theorem strictHeader_bytes (t : TMessageType) :
    beBytes 4 (binaryProtocolVersion1 ||| t.toU8.toNat) = [0x80, 0x01, 0x00, t.toU8] := by
  cases t <;> rfl

theorem writeMessageBegin_strict (m : TMessageIdentifier) (h : e.strict = true) :
    writeMessageBegin m e = .ok () { e with transport := (e.transport ++
      [0x80, 0x01, 0x00, m.messageType.toU8] ++
      beBytes 4 (BitVec.ofNat 32 m.name.bytes.length).toNat ++ m.name.bytes ++
      beBytes 4 m.sequenceNumber.toNat) } := by
  obtain ⟨s, t⟩ := e
  simp only at h
  subst h
  rw [← strictHeader_bytes]
  rfl

theorem writeMessageBegin_nonStrict (m : TMessageIdentifier) (h : e.strict = false) :
    writeMessageBegin m e = .ok () { e with transport := (e.transport ++
      beBytes 4 (BitVec.ofNat 32 m.name.bytes.length).toNat ++ m.name.bytes ++
      [m.messageType.toU8] ++ beBytes 4 m.sequenceNumber.toNat) } := by
  obtain ⟨s, t⟩ := e
  simp only at h
  subst h
  rfl

end TBinaryOutputProtocol

end ThriftProtocol
