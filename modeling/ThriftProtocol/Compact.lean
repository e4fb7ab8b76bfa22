import ThriftProtocol.Stream

/-!
# The compact codec (`compact.rs`)

`TCompactInputProtocol` and `TCompactOutputProtocol`, method by method. Integers are zig-zag
varints, lengths and counts are unsigned varints, a double is eight little-endian bytes, and a
field header packs the type into the low nibble of one byte and, when the id is 1 to 14 above
the previous field's, that difference into the high nibble (otherwise the id follows as a
varint). Both halves remember the last field id of the current struct and keep a stack of the
ids of the enclosing structs; a `Bool` field carries its value in the type nibble, so the
encoder holds a `Bool` field back until `write_bool` and the decoder holds its value until
`read_bool`.

The stacks are lists whose head is the top. Each method is an `EStateM` computation over its
half's record, so that a failing call leaves the record as the Rust `&mut self` leaves it.
-/

namespace ThriftProtocol

/-! ## Type tags -/

/-- `COMPACT_PROTOCOL_ID`. -/
def compactProtocolId : UInt8 := 0x82

/-- `COMPACT_VERSION`. -/
def compactVersion : UInt8 := 0x01

/-- `COMPACT_VERSION_MASK`. -/
def compactVersionMask : UInt8 := 0x1F

/-- `type_to_u8`: a panic for `Bool`, `Void` and `Utf7`. The panic message shows the type with
`Display`, which lives in `protocol/mod.rs`; it is rendered here by `TType.name`. -/
def typeToU8 (fieldType : TType) : Except Failure UInt8 :=
  match fieldType with
  | .stop => .ok 0x00 | .i08 => .ok 0x03 | .i16 => .ok 0x04 | .i32 => .ok 0x05
  | .i64 => .ok 0x06 | .double => .ok 0x07 | .string => .ok 0x08 | .list => .ok 0x09
  | .set => .ok 0x0A | .map => .ok 0x0B | .struct => .ok 0x0C | .uuid => .ok 0x0D
  | .bool | .void | .utf7 =>
    .error (.panic s!"should not have attempted to convert {fieldType.name} to u8")

/-- `collection_type_to_u8`. -/
def collectionTypeToU8 (fieldType : TType) : Except Failure UInt8 :=
  match fieldType with
  | .bool => .ok 0x01
  | f => typeToU8 f

/-- `u8_to_type`. -/
def u8ToType (b : UInt8) : Except Failure TType :=
  match b with
  | 0x00 => .ok .stop
  | 0x03 => .ok .i08
  | 0x04 => .ok .i16
  | 0x05 => .ok .i32
  | 0x06 => .ok .i64
  | 0x07 => .ok .double
  | 0x08 => .ok .string
  | 0x09 => .ok .list
  | 0x0A => .ok .set
  | 0x0B => .ok .map
  | 0x0C => .ok .struct
  | 0x0D => .ok .uuid
  | unkn => .error (protocolError .invalidData s!"cannot convert {unkn} into TType")

/-- `collection_u8_to_type`: both `1` and `2` denote `Bool`. -/
def collectionU8ToType (b : UInt8) : Except Failure TType :=
  match b with
  | 0x01 | 0x02 => .ok .bool
  | o => u8ToType o

/-- `compact_protocol_min_serialized_size`. -/
def compactProtocolMinSerializedSize : TType → Nat
  | .stop => 1 | .void => 1 | .bool => 1 | .i08 => 1 | .double => 8 | .i16 => 1 | .i32 => 1
  | .i64 => 1 | .string => 1 | .struct => 1 | .map => 1 | .set => 1 | .list => 1 | .uuid => 16
  | .utf7 => 1

/-! ## The decoder -/

/-- `TCompactInputProtocol`. -/
structure TCompactInputProtocol where
  lastReadFieldId : BitVec 16
  readFieldIdStack : List (BitVec 16)
  pendingReadBoolValue : Option Bool
  transport : List UInt8
  config : TConfiguration
  recursionDepth : Nat

namespace TCompactInputProtocol

/-- `TCompactInputProtocol::with_config`. -/
def withConfig (transport : List UInt8) (config : TConfiguration) : TCompactInputProtocol :=
  ⟨0, [], none, transport, config, 0⟩

/-- A read on the transport. -/
def io {α : Type} (r : Reader α) : EStateM Failure TCompactInputProtocol α :=
  onTransport (·.transport) (fun s t => { s with transport := t }) r

/-- `read_byte`. -/
def readByte : EStateM Failure TCompactInputProtocol UInt8 := io readU8

/-- `read_list_set_begin`: a count of 15 in the header's high nibble means the count follows as
a `u32` varint, reinterpreted as an `i32`. -/
def readListSetBegin : EStateM Failure TCompactInputProtocol (TType × BitVec 32) := do
  let header ← readByte
  let elementType ← ofExcept (collectionU8ToType (header &&& 0x0F))
  let possibleElementCount := (header &&& 0xF0) >>> 4
  let elementCount ←
    if possibleElementCount != 15 then pure (BitVec.ofNat 32 possibleElementCount.toNat)
    else io (readVarintUnsigned 32)
  let s ← get
  ofExcept (checkContainerSize s.config elementCount
    (compactProtocolMinSerializedSize elementType))
  pure (elementType, elementCount)

/-- `check_recursion_depth`. -/
def checkRecursionDepth : EStateM Failure TCompactInputProtocol Unit := fun s =>
  match s.config.maxRecursionDepth with
  | some limit =>
    if limit ≤ s.recursionDepth then
      .error (protocolError .depthLimit s!"Maximum recursion depth {limit} exceeded") s
    else .ok () s
  | none => .ok () s

/-- `read_bytes`: a `u32` varint length, checked against `max_string_size`. -/
def readBytes : EStateM Failure TCompactInputProtocol (List UInt8) := do
  let len ← io (readVarintUnsigned 32)
  let s ← get
  if let some maxSize := s.config.maxStringSize then
    if maxSize < len.toNat then
      throw (protocolError .sizeLimit
        s!"Byte array size {len.toNat} exceeds maximum allowed size of {maxSize}")
  io (readExact len.toNat)

/-- `read_string`. -/
def readString : EStateM Failure TCompactInputProtocol Utf8String := do
  let bytes ← readBytes
  ofExcept (Utf8String.fromUtf8 bytes)

/-- `read_message_begin`: the protocol id, then the version and the message type packed in one
byte, then the sequence number as a `u32` varint, then the name. -/
def readMessageBegin : EStateM Failure TCompactInputProtocol TMessageIdentifier := do
  let compactId ← readByte
  if compactId != compactProtocolId then
    throw (protocolError .badVersion s!"invalid compact protocol header {compactId}")
  let typeAndByte ← readByte
  let receivedVersion := typeAndByte &&& compactVersionMask
  if receivedVersion != compactVersion then
    throw (protocolError .badVersion
      s!"cannot process compact protocol version {receivedVersion}")
  let messageType ← ofExcept (TMessageType.tryFrom (typeAndByte >>> 5))
  let sequenceNumber ← io (readVarintUnsigned 32)
  let serviceCallName ← readString
  modify fun s => { s with lastReadFieldId := 0 }
  pure ⟨serviceCallName, messageType, sequenceNumber⟩

/-- `read_struct_begin`: the depth is checked, then the last field id is pushed. -/
def readStructBegin : EStateM Failure TCompactInputProtocol Unit := do
  checkRecursionDepth
  modify fun s => { s with
    recursionDepth := s.recursionDepth + 1
    readFieldIdStack := s.lastReadFieldId :: s.readFieldIdStack
    lastReadFieldId := 0 }

/-- `read_struct_end`. -/
def readStructEnd (overflowChecks : Bool) : EStateM Failure TCompactInputProtocol Unit := do
  let s ← get
  let depth ← decUsize overflowChecks s.recursionDepth
  set { s with recursionDepth := depth }
  let last ← expect s.readFieldIdStack.head? "should have previous field ids"
  set { s with
    recursionDepth := depth
    lastReadFieldId := last
    readFieldIdStack := s.readFieldIdStack.tail }

/-- `read_i16`. -/
def readI16 : EStateM Failure TCompactInputProtocol (BitVec 16) := io (readVarintSigned 16)

/-- The type nibble of a field header, as `read_field_begin` matches on it: `1` and `2` are a
`Bool` whose value is kept for `read_bool`. -/
def readFieldTypeNibble (nibble : UInt8) : EStateM Failure TCompactInputProtocol TType :=
  match nibble with
  | 0x01 => do
    modify fun s => { s with pendingReadBoolValue := some true }
    pure TType.bool
  | 0x02 => do
    modify fun s => { s with pendingReadBoolValue := some false }
    pure TType.bool
  | ttu8 => ofExcept (u8ToType ttu8)

/-- The id update of `read_field_begin` for a non-stop field: the delta nibble is added to the
last id (with `i16`'s addition, which overflows in a checked build), and a zero nibble means
that the id follows as a varint. -/
def updateLastReadFieldId (overflowChecks : Bool) (fieldDelta : UInt8) :
    EStateM Failure TCompactInputProtocol Unit :=
  if fieldDelta != 0 then do
    let s ← get
    let id ← addI16 overflowChecks s.lastReadFieldId (BitVec.ofNat 16 fieldDelta.toNat)
    modify fun s => { s with lastReadFieldId := id }
  else do
    let id ← readI16
    modify fun s => { s with lastReadFieldId := id }

/-- `read_field_begin`: the low nibble of the first byte is the type, the high nibble the delta
to the previous id. A stop field has no id. -/
def readFieldBegin (overflowChecks : Bool) :
    EStateM Failure TCompactInputProtocol TFieldIdentifier := do
  let fieldTypeByte ← readByte
  let fieldDelta := (fieldTypeByte &&& 0xF0) >>> 4
  let fieldType ← readFieldTypeNibble (fieldTypeByte &&& 0x0F)
  match fieldType with
  | .stop => pure ⟨none, .stop, none⟩
  | _ => do
    updateLastReadFieldId overflowChecks fieldDelta
    let s ← get
    pure ⟨none, fieldType, some s.lastReadFieldId⟩

/-- `read_bool`: the value held back by `read_field_begin`, or else a byte of its own. -/
def readBool : EStateM Failure TCompactInputProtocol Bool := do
  let s ← get
  set { s with pendingReadBoolValue := none }
  match s.pendingReadBoolValue with
  | some b => pure b
  | none => do
    let b ← readByte
    match b with
    | 0x00 => pure false
    | 0x01 => pure true
    | 0x02 => pure false
    | unkn => throw (protocolError .invalidData s!"cannot convert {unkn} into bool")

/-- `read_i8`. -/
def readI8 : EStateM Failure TCompactInputProtocol (BitVec 8) := do
  let b ← readByte
  pure b.toBitVec

/-- `read_i32`. -/
def readI32 : EStateM Failure TCompactInputProtocol (BitVec 32) := io (readVarintSigned 32)

/-- `read_i64`. -/
def readI64 : EStateM Failure TCompactInputProtocol (BitVec 64) := io (readVarintSigned 64)

/-- `read_double`, as the IEEE-754 bit pattern. -/
def readDouble : EStateM Failure TCompactInputProtocol (BitVec 64) := do
  let n ← io (readLE 8)
  pure (BitVec.ofNat 64 n)

/-- `read_uuid`: a byte string, which must be sixteen bytes long. -/
def readUuid : EStateM Failure TCompactInputProtocol Uuid := do
  let bytes ← readBytes
  ofExcept (Uuid.fromSlice bytes)

/-- `read_list_begin`. -/
def readListBegin : EStateM Failure TCompactInputProtocol TListIdentifier := do
  let (elementType, elementCount) ← readListSetBegin
  pure ⟨elementType, elementCount⟩

/-- `read_set_begin`. -/
def readSetBegin : EStateM Failure TCompactInputProtocol TSetIdentifier := do
  let (elementType, elementCount) ← readListSetBegin
  pure ⟨elementType, elementCount⟩

/-- `read_map_begin`: a `u32` varint count, reinterpreted as an `i32`; an empty map has no type
byte and comes back without key and value types. -/
def readMapBegin : EStateM Failure TCompactInputProtocol TMapIdentifier := do
  let elementCount ← io (readVarintUnsigned 32)
  if elementCount == 0 then pure ⟨none, none, 0⟩
  else
    let typeHeader ← readByte
    let keyType ← ofExcept (collectionU8ToType ((typeHeader &&& 0xF0) >>> 4))
    let valType ← ofExcept (collectionU8ToType (typeHeader &&& 0x0F))
    let elementSize :=
      compactProtocolMinSerializedSize keyType + compactProtocolMinSerializedSize valType
    let s ← get
    ofExcept (checkContainerSize s.config elementCount elementSize)
    pure ⟨some keyType, some valType, elementCount⟩

/-- One read operation. -/
def exec (overflowChecks : Bool) : ReadOp → EStateM Failure TCompactInputProtocol ReadValue
  | .messageBegin => do let m ← readMessageBegin; pure (.message m)
  | .structBegin => do readStructBegin; pure .unit
  | .structEnd => do readStructEnd overflowChecks; pure .unit
  | .fieldBegin => do let f ← readFieldBegin overflowChecks; pure (.field f)
  | .bytes => do let b ← readBytes; pure (.bytes b)
  | .bool => do let b ← readBool; pure (.bool b)
  | .i8 => do let i ← readI8; pure (.i8 i)
  | .i16 => do let i ← readI16; pure (.i16 i)
  | .i32 => do let i ← readI32; pure (.i32 i)
  | .i64 => do let i ← readI64; pure (.i64 i)
  | .double => do let d ← readDouble; pure (.double d)
  | .string => do let s ← readString; pure (.string s)
  | .uuid => do let u ← readUuid; pure (.uuid u)
  | .listBegin => do let l ← readListBegin; pure (.list l)
  | .setBegin => do let l ← readSetBegin; pure (.set l)
  | .mapBegin => do let m ← readMapBegin; pure (.map m)
  | .byte => do let b ← readByte; pure (.byte b)
  | .messageEnd | .fieldEnd | .listEnd | .setEnd | .mapEnd => pure .unit

end TCompactInputProtocol

/-! ## The encoder -/

/-- `TCompactOutputProtocol`. -/
structure TCompactOutputProtocol where
  lastWriteFieldId : BitVec 16
  writeFieldIdStack : List (BitVec 16)
  pendingWriteBoolFieldIdentifier : Option TFieldIdentifier
  transport : List UInt8

namespace TCompactOutputProtocol

/-- `TCompactOutputProtocol::new`. -/
def new (transport : List UInt8) : TCompactOutputProtocol := ⟨0, [], none, transport⟩

/-- Append bytes to the transport. -/
def emit (bs : List UInt8) : EStateM Failure TCompactOutputProtocol Unit := fun s =>
  .ok () { s with transport := s.transport ++ bs }

/-- `write_byte`. -/
def writeByte (b : UInt8) : EStateM Failure TCompactOutputProtocol Unit := emit [b]

/-- `write_i16`. -/
def writeI16 (i : BitVec 16) : EStateM Failure TCompactOutputProtocol Unit :=
  emit (encodeVarint (zigzag i.toInt))

/-- `write_field_header`: the short form when the id is 1 to 14 above the previous one. The
subtraction is `i16`'s, which overflows in a checked build. -/
def writeFieldHeader (overflowChecks : Bool) (fieldType : UInt8) (fieldId : BitVec 16) :
    EStateM Failure TCompactOutputProtocol Unit := do
  let s ← get
  let fieldDelta ← subI16 overflowChecks fieldId s.lastWriteFieldId
  if 0 < fieldDelta.toInt && fieldDelta.toInt < 15 then
    writeByte ((fieldDelta.toNat.toUInt8 <<< 4) ||| fieldType)
  else
    writeByte fieldType
    writeI16 fieldId
  modify fun s => { s with lastWriteFieldId := fieldId }

/-- `write_list_set_begin`: counts up to 14 share the header byte, larger ones (and negative
ones, cast `as u8`) follow it as a `u32` varint. -/
def writeListSetBegin (elementType : TType) (elementCount : BitVec 32) :
    EStateM Failure TCompactOutputProtocol Unit := do
  let elemIdentifier ← ofExcept (collectionTypeToU8 elementType)
  if elementCount.toInt ≤ 14 then
    writeByte ((elementCount.toNat.toUInt8 <<< 4) ||| elemIdentifier)
  else
    writeByte (0xF0 ||| elemIdentifier)
    emit (encodeVarint elementCount.toNat)

/-- `assert_no_pending_bool_write`. -/
def assertNoPendingBoolWrite : EStateM Failure TCompactOutputProtocol Unit := fun s =>
  match s.pendingWriteBoolFieldIdentifier with
  | some f => .error (.panic s!"pending bool field {f.debug} not written") s
  | none => .ok () s

/-- `write_bytes`: the length cast `as u32`, then the bytes. -/
def writeBytes (b : List UInt8) : EStateM Failure TCompactOutputProtocol Unit := do
  emit (encodeVarint (b.length % 2 ^ 32))
  emit b

/-- `write_string`. -/
def writeString (s : Utf8String) : EStateM Failure TCompactOutputProtocol Unit :=
  writeBytes s.bytes

/-- `write_message_begin`: the sequence number is cast `as u32` and not zig-zag encoded. -/
def writeMessageBegin (identifier : TMessageIdentifier) :
    EStateM Failure TCompactOutputProtocol Unit := do
  writeByte compactProtocolId
  writeByte ((identifier.messageType.toU8 <<< 5) ||| compactVersion)
  emit (encodeVarint identifier.sequenceNumber.toNat)
  writeString identifier.name

/-- `write_message_end`. -/
def writeMessageEnd : EStateM Failure TCompactOutputProtocol Unit := assertNoPendingBoolWrite

/-- `write_struct_begin`: the last field id is pushed. -/
def writeStructBegin : EStateM Failure TCompactOutputProtocol Unit :=
  modify fun s => { s with
    writeFieldIdStack := s.lastWriteFieldId :: s.writeFieldIdStack
    lastWriteFieldId := 0 }

/-- `write_struct_end`. -/
def writeStructEnd : EStateM Failure TCompactOutputProtocol Unit := do
  assertNoPendingBoolWrite
  let s ← get
  let last ← expect s.writeFieldIdStack.head? "should have previous field ids"
  set { s with lastWriteFieldId := last, writeFieldIdStack := s.writeFieldIdStack.tail }

/-- `write_field_begin`: a `Bool` field is held back until `write_bool`; any other field writes
its header. -/
def writeFieldBegin (overflowChecks : Bool) (identifier : TFieldIdentifier) :
    EStateM Failure TCompactOutputProtocol Unit :=
  match identifier.fieldType with
  | .bool => fun s =>
    if s.pendingWriteBoolFieldIdentifier.isSome then
      .error (.panic s!"should not have a pending bool while writing another bool with id: {identifier.debug}") s
    else .ok () { s with pendingWriteBoolFieldIdentifier := some identifier }
  | _ => do
    let fieldType ← ofExcept (typeToU8 identifier.fieldType)
    let fieldId ← expect identifier.id "non-stop field should have field id"
    writeFieldHeader overflowChecks fieldType fieldId

/-- `write_field_end`. -/
def writeFieldEnd : EStateM Failure TCompactOutputProtocol Unit := assertNoPendingBoolWrite

/-- `write_field_stop`. -/
def writeFieldStop : EStateM Failure TCompactOutputProtocol Unit := do
  assertNoPendingBoolWrite
  let stop ← ofExcept (typeToU8 .stop)
  writeByte stop

/-- `write_bool`: the header of a held-back `Bool` field carries the value as its type, `1` for
`true` and `2` for `false`; a `bool` outside a field is that byte alone. -/
def writeBool (overflowChecks : Bool) (b : Bool) : EStateM Failure TCompactOutputProtocol Unit := do
  let s ← get
  set { s with pendingWriteBoolFieldIdentifier := none }
  match s.pendingWriteBoolFieldIdentifier with
  | some pending => do
    let fieldId ← expect pending.id "bool field should have a field id"
    let fieldTypeAsU8 : UInt8 := if b then 0x01 else 0x02
    writeFieldHeader overflowChecks fieldTypeAsU8 fieldId
  | none => if b then writeByte 0x01 else writeByte 0x02

/-- `write_i8`. -/
def writeI8 (i : BitVec 8) : EStateM Failure TCompactOutputProtocol Unit := writeByte ⟨i⟩

/-- `write_i32`. -/
def writeI32 (i : BitVec 32) : EStateM Failure TCompactOutputProtocol Unit :=
  emit (encodeVarint (zigzag i.toInt))

/-- `write_i64`. -/
def writeI64 (i : BitVec 64) : EStateM Failure TCompactOutputProtocol Unit :=
  emit (encodeVarint (zigzag i.toInt))

/-- `write_double`, from the IEEE-754 bit pattern. -/
def writeDouble (d : BitVec 64) : EStateM Failure TCompactOutputProtocol Unit :=
  emit (leBytes 8 d.toNat)

/-- `write_uuid`: through `write_bytes`, so with a length prefix. -/
def writeUuid (uuid : Uuid) : EStateM Failure TCompactOutputProtocol Unit := writeBytes uuid.bytes

/-- `write_list_begin`. -/
def writeListBegin (identifier : TListIdentifier) : EStateM Failure TCompactOutputProtocol Unit :=
  writeListSetBegin identifier.elementType identifier.size

/-- `write_set_begin`. -/
def writeSetBegin (identifier : TSetIdentifier) : EStateM Failure TCompactOutputProtocol Unit :=
  writeListSetBegin identifier.elementType identifier.size

/-- `write_map_begin`: an empty map is the byte `0`; otherwise the count as a `u32` varint, then
the key and value types in one byte. -/
def writeMapBegin (identifier : TMapIdentifier) : EStateM Failure TCompactOutputProtocol Unit :=
  if identifier.size == 0 then writeByte 0
  else do
    emit (encodeVarint identifier.size.toNat)
    let keyType ← expect identifier.keyType "map identifier to write should contain key type"
    let keyTypeByte ← ofExcept (collectionTypeToU8 keyType)
    let valType ← expect identifier.valueType "map identifier to write should contain value type"
    let valTypeByte ← ofExcept (collectionTypeToU8 valType)
    writeByte ((keyTypeByte <<< 4) ||| valTypeByte)

/-- One write operation. -/
def exec (overflowChecks : Bool) : WriteOp → EStateM Failure TCompactOutputProtocol Unit
  | .messageBegin m => writeMessageBegin m
  | .messageEnd => writeMessageEnd
  | .structBegin => writeStructBegin
  | .structEnd => writeStructEnd
  | .fieldBegin f => writeFieldBegin overflowChecks f
  | .fieldEnd => writeFieldEnd
  | .fieldStop => writeFieldStop
  | .bytes b => writeBytes b
  | .bool b => writeBool overflowChecks b
  | .i8 i => writeI8 i
  | .i16 i => writeI16 i
  | .i32 i => writeI32 i
  | .i64 i => writeI64 i
  | .double d => writeDouble d
  | .string s => writeString s
  | .uuid u => writeUuid u
  | .listBegin l => writeListBegin l
  | .setBegin l => writeSetBegin l
  | .mapBegin m => writeMapBegin m
  | .byte b => writeByte b
  | .listEnd | .setEnd | .mapEnd => pure ()

end TCompactOutputProtocol

end ThriftProtocol
