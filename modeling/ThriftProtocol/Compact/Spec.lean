import ThriftProtocol.Compact

/-!
# Specifications of the compact codec's methods

One lemma per method, stated on input that starts with what the matching write emits (for the
decoder) or on any state (for the encoder), so that later proofs cite these and never unfold a
method.

* Header bytes: `nibbles_of_lt` reads the two nibbles of a header byte back.
* The decoder: every read returns the written value and leaves exactly the rest of the input;
  `readFieldBegin_header` with `updateLastReadFieldId_short` or `updateLastReadFieldId_long`,
  and `readFieldBegin_stop`, cover the three shapes of a field header.
* The encoder: every write appends its bytes and changes nothing else, except the field-id
  state the field and struct methods maintain.
-/

namespace ThriftProtocol

/-! ## Header bytes -/

/-- A byte built from a high and a low nibble gives both back. -/
theorem nibbles_of_lt : ∀ a b : Fin 16,
    (((a.val.toUInt8 <<< 4) ||| b.val.toUInt8) &&& 0x0F) = b.val.toUInt8 ∧
    ((((a.val.toUInt8 <<< 4) ||| b.val.toUInt8) &&& 0xF0) >>> 4) = a.val.toUInt8 := by
  decide

theorem UInt8.toNat_toUInt8 (c : UInt8) : c.toNat.toUInt8 = c :=
  UInt8.toNat.inj (toNat_toUInt8_of_lt c.toNat_lt_size)

/-- The header byte of a short-form field. -/
def shortHeader (delta : Nat) (typeNibble : UInt8) : UInt8 :=
  (delta.toUInt8 <<< 4) ||| typeNibble

theorem shortHeader_nibbles {delta : Nat} {c : UInt8} (hd : delta < 16) (hc : c.toNat < 16) :
    (shortHeader delta c &&& 0x0F) = c ∧ ((shortHeader delta c &&& 0xF0) >>> 4) = delta.toUInt8 := by
  have h := nibbles_of_lt ⟨delta, hd⟩ ⟨c.toNat, hc⟩
  rwa [UInt8.toNat_toUInt8] at h

/-- A type nibble alone has a zero high nibble. -/
theorem nibble_of_lt : ∀ b : Fin 16,
    (b.val.toUInt8 &&& 0x0F) = b.val.toUInt8 ∧ ((b.val.toUInt8 &&& 0xF0) >>> 4) = 0 := by
  decide

theorem longHeader_nibbles {c : UInt8} (hc : c.toNat < 16) :
    (c &&& 0x0F) = c ∧ ((c &&& 0xF0) >>> 4) = 0 := by
  have h := nibble_of_lt ⟨c.toNat, hc⟩
  rwa [UInt8.toNat_toUInt8] at h

theorem toUInt8_ne_of_lt {a : Nat} {b : UInt8} (ha : a < 256) (h : a ≠ b.toNat) :
    a.toUInt8 ≠ b :=
  fun he => h (by rw [← he, toNat_toUInt8_of_lt ha])

/-- The second byte of a message header: the version in the low five bits, the kind above. -/
theorem messageTypeByte (t : TMessageType) :
    ((((t.toU8 <<< 5) ||| compactVersion) &&& compactVersionMask) != compactVersion) = false ∧
      ((t.toU8 <<< 5) ||| compactVersion) >>> 5 = t.toU8 := by
  cases t <;> decide

/-- The tag of every type `type_to_u8` accepts is a nibble, and `u8_to_type` reads it back. -/
theorem u8ToType_typeToU8 {t : TType} {c : UInt8} (h : typeToU8 t = .ok c) :
    u8ToType c = .ok t ∧ c.toNat < 16 := by
  cases t <;> cases h <;> exact ⟨rfl, by decide⟩

/-- The same for collection element types, where `Bool` is tagged `1`. -/
theorem collectionU8ToType_collectionTypeToU8 {t : TType} {c : UInt8}
    (h : collectionTypeToU8 t = .ok c) : collectionU8ToType c = .ok t ∧ c.toNat < 16 := by
  cases t <;> cases h <;> exact ⟨rfl, by decide⟩

theorem toInt_ofNat_of_lt {n : Nat} (h : n < 2 ^ 15) : (BitVec.ofNat 16 n).toInt = n := by
  rw [BitVec.toInt_eq_toNat_cond, BitVec.toNat_ofNat]
  split <;> omega

/-! ## The decoder -/

namespace TCompactInputProtocol

variable (d : TCompactInputProtocol) (rest : List UInt8)

theorem io_ok {α : Type} {r : Reader α} {d : TCompactInputProtocol} {a : α} {t₀ t : List UInt8}
    (h : r t₀ = .ok a t) : io r { d with transport := t₀ } = .ok a { d with transport := t } := by
  simp [io, onTransport, h]

theorem readExact_spec (bs : List UInt8) (n : Nat) (h : bs.length = n) :
    io (readExact n) { d with transport := bs ++ rest } = .ok bs { d with transport := rest } := by
  subst h; exact io_ok (readExact_append bs rest)

theorem readByte_spec (b : UInt8) :
    readByte { d with transport := b :: rest } = .ok b { d with transport := rest } :=
  io_ok rfl

theorem readI8_spec (i : BitVec 8) :
    readI8 { d with transport := ⟨i⟩ :: rest } = .ok i { d with transport := rest } := by
  rw [readI8, bind_of_ok (readByte_spec d rest _)]; rfl

theorem readI16_spec (i : BitVec 16) :
    readI16 { d with transport := encodeVarint (zigzag i.toInt) ++ rest } =
      .ok i { d with transport := rest } :=
  io_ok (readVarintSigned_encodeVarint (by decide) i rest)

theorem readI32_spec (i : BitVec 32) :
    readI32 { d with transport := encodeVarint (zigzag i.toInt) ++ rest } =
      .ok i { d with transport := rest } :=
  io_ok (readVarintSigned_encodeVarint (by decide) i rest)

theorem readI64_spec (i : BitVec 64) :
    readI64 { d with transport := encodeVarint (zigzag i.toInt) ++ rest } =
      .ok i { d with transport := rest } :=
  io_ok (readVarintSigned_encodeVarint (by decide) i rest)

theorem readDouble_spec (x : BitVec 64) :
    readDouble { d with transport := leBytes 8 x.toNat ++ rest } =
      .ok x { d with transport := rest } := by
  rw [readDouble, bind_of_ok (io_ok (readLE_append _ _ _))]
  simp only [pure, EStateM.pure, @BitVec.ofNat_toNat_mod _ x (256 ^ 8) (by decide)]

theorem readU32_spec (x : BitVec 32) :
    io (readVarintUnsigned 32) { d with transport := encodeVarint x.toNat ++ rest } =
      .ok x { d with transport := rest } :=
  io_ok (readVarintUnsigned_encodeVarint (by decide) x rest)

/-- A length below `2 ^ 32` survives the round trip through a `u32`. -/
theorem length_u32 {n : Nat} (h : n < 2 ^ 32) : (BitVec.ofNat 32 n).toNat = n := by
  rw [BitVec.toNat_ofNat, Nat.mod_eq_of_lt h]

theorem readBytes_spec (b : List UInt8) (hb : b.length < 2 ^ 32)
    (hfit : d.config.StringFits b.length) :
    readBytes { d with transport := encodeVarint b.length ++ b ++ rest } =
      .ok b { d with transport := rest } := by
  have hlen := readU32_spec d (b ++ rest) (BitVec.ofNat 32 b.length)
  rw [length_u32 hb, ← List.append_assoc] at hlen
  rw [readBytes, bind_of_ok hlen]
  have hio := readExact_spec d rest b _ rfl
  rcases hm : d.config.maxStringSize with _ | m <;>
    simp only [bind, EStateM.bind, get, getThe, MonadStateOf.get, EStateM.get, pure,
      EStateM.pure, hm, length_u32 hb, hio]
  simp only [Nat.not_lt.mpr (hfit m hm), if_false, bind, EStateM.bind, pure, EStateM.pure, hio]

theorem readString_spec (s : Utf8String) (hb : s.bytes.length < 2 ^ 32)
    (hfit : d.config.StringFits s.bytes.length) :
    readString { d with transport := encodeVarint s.bytes.length ++ s.bytes ++ rest } =
      .ok s { d with transport := rest } := by
  rw [readString, bind_of_ok (readBytes_spec d rest s.bytes hb hfit), Utf8String.fromUtf8_bytes]
  rfl

theorem readUuid_spec (u : Uuid) (hfit : d.config.StringFits 16) :
    readUuid { d with transport := encodeVarint 16 ++ u.bytes ++ rest } =
      .ok u { d with transport := rest } := by
  have h := readBytes_spec d rest u.bytes (by rw [u.length_bytes]; decide)
    (by rw [u.length_bytes]; exact hfit)
  rw [u.length_bytes] at h
  rw [readUuid, bind_of_ok h, Uuid.fromSlice_bytes]
  rfl

/-- A `bool` outside a field is one byte, `1` for `true` and `2` for `false`. -/
theorem readBool_spec (hp : d.pendingReadBoolValue = none) (b : Bool) :
    readBool { d with transport := (if b then 1 else 2) :: rest } =
      .ok b { d with transport := rest } := by
  obtain ⟨l, st, p, t, c, r⟩ := d
  subst hp
  rw [readBool, get_bind]
  cases b <;> rfl

/-- The value of a `Bool` field is the one its header held back; no byte is read. -/
theorem readBool_pending {b : Bool} (hp : d.pendingReadBoolValue = some b) :
    readBool d = .ok b { d with pendingReadBoolValue := none } := by
  rw [readBool, get_bind]
  simp only [set, EStateM.set, hp]
  rfl

theorem readFieldTypeNibble_bool (b : Bool) :
    readFieldTypeNibble (if b then 1 else 2) d =
      .ok .bool { d with pendingReadBoolValue := some b } := by
  cases b <;> rfl

theorem readFieldTypeNibble_of_u8ToType {c : UInt8} {t : TType} (h : u8ToType c = .ok t) :
    readFieldTypeNibble c d = .ok t d := by
  unfold readFieldTypeNibble
  split
  · cases h
  · cases h
  · rw [h]; rfl

theorem updateLastReadFieldId_short (overflowChecks : Bool) {delta : Nat} (h0 : 0 < delta)
    (h16 : delta < 16)
    (hov : overflowChecks = true → inI16 (d.lastReadFieldId.toInt + delta) = true) :
    updateLastReadFieldId overflowChecks delta.toUInt8 d =
      .ok () { d with lastReadFieldId := d.lastReadFieldId + BitVec.ofNat 16 delta } := by
  have hne : (delta.toUInt8 != 0) = true :=
    bne_iff_ne.mpr (toUInt8_ne_of_lt (by omega) (by show delta ≠ 0; omega))
  rw [updateLastReadFieldId, if_pos hne, get_bind, toNat_toUInt8_of_lt (by omega)]
  have hadd : addI16 overflowChecks d.lastReadFieldId (BitVec.ofNat 16 delta) d =
      .ok (d.lastReadFieldId + BitVec.ofNat 16 delta) d := by
    rw [addI16, toInt_ofNat_of_lt (by omega)]
    cases overflowChecks
    · rfl
    · simp [hov rfl]; rfl
  rw [bind_of_ok hadd]
  rfl

theorem updateLastReadFieldId_long (overflowChecks : Bool) (id : BitVec 16) :
    updateLastReadFieldId overflowChecks 0
        { d with transport := encodeVarint (zigzag id.toInt) ++ rest } =
      .ok () { d with transport := rest, lastReadFieldId := id } := by
  rw [updateLastReadFieldId, if_neg (by decide), bind_of_ok (readI16_spec d rest id)]
  rfl

/-- `read_field_begin` on a non-stop field: the header byte, its type nibble, then its id. -/
theorem readFieldBegin_header (overflowChecks : Bool) {byte c fieldDelta : UInt8}
    (hlo : (byte &&& 0x0F) = c) (hhi : ((byte &&& 0xF0) >>> 4) = fieldDelta)
    {t : TType} {d₁ d₂ : TCompactInputProtocol}
    (ht : readFieldTypeNibble c { d with transport := rest } = .ok t d₁) (hs : t ≠ .stop)
    (hid : updateLastReadFieldId overflowChecks fieldDelta d₁ = .ok () d₂) :
    readFieldBegin overflowChecks { d with transport := byte :: rest } =
      .ok ⟨none, t, some d₂.lastReadFieldId⟩ d₂ := by
  rw [readFieldBegin, bind_of_ok (readByte_spec d rest byte)]
  simp only [hlo, hhi]
  rw [bind_of_ok ht]
  split
  · exact absurd rfl hs
  · rw [bind_of_ok hid]; rfl

theorem readFieldBegin_stop (overflowChecks : Bool) :
    readFieldBegin overflowChecks { d with transport := 0 :: rest } =
      .ok ⟨none, .stop, none⟩ { d with transport := rest } := by
  rw [readFieldBegin, bind_of_ok (readByte_spec d rest 0)]
  rfl

theorem readListSetBegin_short {c : UInt8} {t : TType} (hc : collectionU8ToType c = .ok t)
    (hc16 : c.toNat < 16) {n : Nat} (hn : n ≤ 14)
    (hcfg : checkContainerSize d.config (BitVec.ofNat 32 n) (compactProtocolMinSerializedSize t) = .ok ()) :
    readListSetBegin { d with transport := shortHeader n c :: rest } =
      .ok (t, BitVec.ofNat 32 n) { d with transport := rest } := by
  obtain ⟨hlo, hhi⟩ := shortHeader_nibbles (show n < 16 by omega) hc16
  have h15 : (n.toUInt8 != 15) = true := bne_iff_ne.mpr (toUInt8_ne_of_lt (by omega) (by show n ≠ 15; omega))
  rw [readListSetBegin, bind_of_ok (readByte_spec d rest _)]
  simp only [hlo, hhi, hc, bind_of_ok (ofExcept_ok _ _), if_pos h15, toNat_toUInt8_of_lt (show n < 256 by omega)]
  simp only [bind, EStateM.bind, get, getThe, MonadStateOf.get, EStateM.get, hcfg, ofExcept_ok,
    pure, EStateM.pure]

/-- A long list or set header: the count as a varint, any the reader accepts, checked by
`check_container_size`. -/
theorem readListSetBegin_long_eq {c : UInt8} {t : TType} (hc : collectionU8ToType c = .ok t)
    (hc16 : c.toNat < 16) {input : List UInt8} {x : BitVec 32}
    (hx : readVarintUnsigned 32 input = .ok x rest) :
    readListSetBegin { d with transport := shortHeader 15 c :: input } =
      (ofExcept (checkContainerSize d.config x (compactProtocolMinSerializedSize t)) >>=
        fun _ => pure (t, x)) { d with transport := rest } := by
  obtain ⟨hlo, hhi⟩ := shortHeader_nibbles (show 15 < 16 by omega) hc16
  rw [readListSetBegin, bind_of_ok (readByte_spec d _ _)]
  simp only [hlo, hhi, hc, bind_of_ok (ofExcept_ok _ _)]
  rw [if_neg (by decide), bind_of_ok (io_ok hx)]
  rfl

theorem readListSetBegin_long {c : UInt8} {t : TType} (hc : collectionU8ToType c = .ok t)
    (hc16 : c.toNat < 16) (x : BitVec 32)
    (hcfg : checkContainerSize d.config x (compactProtocolMinSerializedSize t) = .ok ()) :
    readListSetBegin { d with transport := shortHeader 15 c :: encodeVarint x.toNat ++ rest } =
      .ok (t, x) { d with transport := rest } := by
  rw [List.cons_append,
    readListSetBegin_long_eq d rest hc hc16 (readVarintUnsigned_encodeVarint (by decide) x rest), hcfg]
  rfl

theorem readMapBegin_empty :
    readMapBegin { d with transport := 0 :: rest } = .ok ⟨none, none, 0⟩ { d with transport := rest } := by
  have h0 := readU32_spec d rest 0
  rw [show encodeVarint (0 : BitVec 32).toNat = [0] by rw [encodeVarint_eq, if_pos (by decide)]; rfl]
    at h0
  rw [List.singleton_append] at h0
  rw [readMapBegin, bind_of_ok h0]
  rfl

/-- A map header with a count other than `0`, as any varint the reader accepts: the count, then
the key and value types, checked by `check_container_size`. -/
theorem readMapBegin_eq {ck cv : UInt8} {k v : TType} (hk : collectionU8ToType ck = .ok k)
    (hv : collectionU8ToType cv = .ok v) (hck : ck.toNat < 16) (hcv : cv.toNat < 16)
    {input : List UInt8} {x : BitVec 32}
    (hx : readVarintUnsigned 32 input = .ok x (shortHeader ck.toNat cv :: rest)) (hx0 : x ≠ 0) :
    readMapBegin { d with transport := input } =
      (ofExcept (checkContainerSize d.config x
          (compactProtocolMinSerializedSize k + compactProtocolMinSerializedSize v)) >>=
        fun _ => pure ⟨some k, some v, x⟩) { d with transport := rest } := by
  obtain ⟨hlo, hhi⟩ := shortHeader_nibbles hck hcv
  rw [UInt8.toNat_toUInt8] at hhi
  rw [readMapBegin, bind_of_ok (io_ok hx), if_neg (by simpa using hx0),
    bind_of_ok (readByte_spec d _ _)]
  simp only [hlo, hhi, hk, hv, bind_of_ok (ofExcept_ok _ _)]
  rfl

theorem readMapBegin_spec {ck cv : UInt8} {k v : TType} (hk : collectionU8ToType ck = .ok k)
    (hv : collectionU8ToType cv = .ok v) (hck : ck.toNat < 16) (hcv : cv.toNat < 16) {x : BitVec 32} (hx : x ≠ 0)
    (hcfg : checkContainerSize d.config x (compactProtocolMinSerializedSize k + compactProtocolMinSerializedSize v) = .ok ()) :
    readMapBegin { d with transport := encodeVarint x.toNat ++ shortHeader ck.toNat cv :: rest } =
      .ok ⟨some k, some v, x⟩ { d with transport := rest } := by
  rw [readMapBegin_eq d rest hk hv hck hcv (readVarintUnsigned_encodeVarint (by decide) x _) hx, hcfg]
  rfl

theorem readMessageBegin_spec (m : TMessageIdentifier) (hb : m.name.bytes.length < 2 ^ 32)
    (hfit : d.config.StringFits m.name.bytes.length) :
    readMessageBegin { d with transport := ([compactProtocolId, (m.messageType.toU8 <<< 5) ||| compactVersion] ++
      encodeVarint m.sequenceNumber.toNat ++ encodeVarint m.name.bytes.length ++ m.name.bytes ++ rest) } =
      .ok m { d with transport := rest, lastReadFieldId := 0 } := by
  obtain ⟨hver, hkind⟩ := messageTypeByte m.messageType
  simp only [List.append_assoc, List.cons_append, List.nil_append]
  rw [readMessageBegin, bind_of_ok (readByte_spec d _ _), if_neg (by decide), pure_bind_apply]
  beta_reduce
  rw [bind_of_ok (readByte_spec d _ _)]
  simp only [hver, hkind, Bool.false_eq_true, if_false, pure_bind_apply, TMessageType.tryFrom_toU8, bind_of_ok (ofExcept_ok _ _)]
  have hs := readString_spec d rest m.name hb hfit
  simp only [List.append_assoc] at hs
  rw [bind_of_ok (readU32_spec d _ _), bind_of_ok hs]
  rfl
/-- A struct can be entered when no depth limit is set, or the depth is below it. -/
def DepthRoom (d : TCompactInputProtocol) : Prop :=
  ∀ limit, d.config.maxRecursionDepth = some limit → d.recursionDepth < limit

theorem readStructBegin_spec (h : d.DepthRoom) :
    readStructBegin d = .ok () { d with
      recursionDepth := d.recursionDepth + 1
      readFieldIdStack := d.lastReadFieldId :: d.readFieldIdStack
      lastReadFieldId := 0 } := by
  have hc : checkRecursionDepth d = .ok () d := by
    unfold checkRecursionDepth
    split
    · rename_i limit hl; simp [Nat.not_le.mpr (h limit hl)]
    · rfl
  rw [readStructBegin, bind_of_ok hc]; rfl

theorem readStructEnd_spec (overflowChecks : Bool) (h : 0 < d.recursionDepth) {last : BitVec 16}
    {stack : List (BitVec 16)} (hs : d.readFieldIdStack = last :: stack) :
    readStructEnd overflowChecks d = .ok () { d with
      recursionDepth := d.recursionDepth - 1
      lastReadFieldId := last
      readFieldIdStack := stack } := by
  rw [readStructEnd, get_bind, bind_of_ok (decUsize_pos overflowChecks h d)]
  simp only [bind, EStateM.bind, set, EStateM.set, hs, List.head?, expect, pure, EStateM.pure,
    List.tail]

end TCompactInputProtocol

/-! ## The encoder -/

namespace TCompactOutputProtocol
variable (e : TCompactOutputProtocol)

theorem writeByte_spec (b : UInt8) :
    writeByte b e = .ok () { e with transport := e.transport ++ [b] } := rfl

theorem writeBytes_spec (b : List UInt8) :
    writeBytes b e =
      .ok () { e with transport := e.transport ++ encodeVarint (b.length % 2 ^ 32) ++ b } := rfl

theorem writeMessageBegin_spec (m : TMessageIdentifier) :
    writeMessageBegin m e = .ok () { e with transport := (e.transport ++ [compactProtocolId] ++
      [(m.messageType.toU8 <<< 5) ||| compactVersion] ++ encodeVarint m.sequenceNumber.toNat ++
      encodeVarint (m.name.bytes.length % 2 ^ 32) ++ m.name.bytes) } := rfl

theorem assertNoPendingBoolWrite_ok (hp : e.pendingWriteBoolFieldIdentifier = none) :
    assertNoPendingBoolWrite e = .ok () e := by
  rw [assertNoPendingBoolWrite, hp]

theorem writeStructBegin_spec :
    writeStructBegin e = .ok () { e with
      writeFieldIdStack := e.lastWriteFieldId :: e.writeFieldIdStack, lastWriteFieldId := 0 } := rfl

theorem writeStructEnd_spec (hp : e.pendingWriteBoolFieldIdentifier = none) {last : BitVec 16}
    {stack : List (BitVec 16)} (hs : e.writeFieldIdStack = last :: stack) :
    writeStructEnd e = .ok () { e with lastWriteFieldId := last, writeFieldIdStack := stack } := by
  rw [writeStructEnd, bind_of_ok (assertNoPendingBoolWrite_ok e hp), get_bind, hs]
  rfl

theorem writeFieldStop_spec (hp : e.pendingWriteBoolFieldIdentifier = none) :
    writeFieldStop e = .ok () { e with transport := e.transport ++ [0] } := by
  rw [writeFieldStop, bind_of_ok (assertNoPendingBoolWrite_ok e hp)]
  rfl

/-- A `bool` outside a field is one byte. -/
theorem writeBool_plain (overflowChecks : Bool) (hp : e.pendingWriteBoolFieldIdentifier = none)
    (b : Bool) :
    writeBool overflowChecks b e =
      .ok () { e with transport := e.transport ++ [if b then 1 else 2] } := by
  obtain ⟨l, st, p, t⟩ := e
  subst hp
  rw [writeBool, get_bind]
  cases b <;> rfl

/-- The value of a held-back `Bool` field goes into its header. -/
theorem writeBool_pending (overflowChecks : Bool) {f : TFieldIdentifier}
    (hp : e.pendingWriteBoolFieldIdentifier = some f) {id : BitVec 16} (hid : f.id = some id)
    (b : Bool) :
    writeBool overflowChecks b e =
      writeFieldHeader overflowChecks (if b then 1 else 2) id
        { e with pendingWriteBoolFieldIdentifier := none } := by
  rw [writeBool, get_bind]
  simp only [set, EStateM.set, hp, bind, EStateM.bind, hid, expect]
  rfl

theorem writeFieldBegin_bool (overflowChecks : Bool) (hp : e.pendingWriteBoolFieldIdentifier = none)
    (name : Option String) (id : BitVec 16) :
    writeFieldBegin overflowChecks ⟨name, .bool, some id⟩ e =
      .ok () { e with pendingWriteBoolFieldIdentifier := some ⟨name, .bool, some id⟩ } := by
  simp [writeFieldBegin, hp]

theorem writeFieldBegin_typed (overflowChecks : Bool) {t : TType} {c : UInt8}
    (ht : typeToU8 t = .ok c) (name : Option String) (id : BitVec 16) :
    writeFieldBegin overflowChecks ⟨name, t, some id⟩ e = writeFieldHeader overflowChecks c id e := by
  cases t <;> cases ht <;> rfl

theorem writeListSetBegin_short {t : TType} {c : UInt8} (hct : collectionTypeToU8 t = .ok c)
    {n : Nat} (hn : n ≤ 14) :
    writeListSetBegin t (BitVec.ofNat 32 n) e =
      .ok () { e with transport := e.transport ++ [shortHeader n c] } := by
  have hi : (BitVec.ofNat 32 n).toInt ≤ 14 := by
    rw [BitVec.toInt_eq_toNat_cond, BitVec.toNat_ofNat]; split <;> omega
  rw [writeListSetBegin, hct, bind_of_ok (ofExcept_ok _ _)]
  rw [if_pos hi, BitVec.toNat_ofNat, Nat.mod_eq_of_lt (show n < 2 ^ 32 by omega)]
  rfl

theorem writeListSetBegin_long {t : TType} {c : UInt8} (hct : collectionTypeToU8 t = .ok c)
    {n : Nat} (h14 : 14 < n) (hn : n < 2 ^ 31) :
    writeListSetBegin t (BitVec.ofNat 32 n) e =
      .ok () { e with transport := e.transport ++ [shortHeader 15 c] ++ encodeVarint n } := by
  have hi : ¬ (BitVec.ofNat 32 n).toInt ≤ 14 := by
    rw [BitVec.toInt_eq_toNat_cond, BitVec.toNat_ofNat]; split <;> omega
  rw [writeListSetBegin, hct, bind_of_ok (ofExcept_ok _ _)]
  rw [if_neg hi, BitVec.toNat_ofNat, Nat.mod_eq_of_lt (show n < 2 ^ 32 by omega)]
  rfl

theorem writeMapBegin_empty (k v : Option TType) :
    writeMapBegin ⟨k, v, 0⟩ e = .ok () { e with transport := e.transport ++ [0] } := rfl

theorem writeMapBegin_spec {k v : TType} {ck cv : UInt8} (hk : collectionTypeToU8 k = .ok ck)
    (hv : collectionTypeToU8 v = .ok cv) {n : Nat} (h0 : 0 < n) (hn : n < 2 ^ 31) :
    writeMapBegin ⟨some k, some v, BitVec.ofNat 32 n⟩ e = .ok ()
      { e with transport := e.transport ++ encodeVarint n ++ [shortHeader ck.toNat cv] } := by
  have hne : (BitVec.ofNat 32 n == 0) = false := by
    simp only [beq_eq_false_iff_ne, ne_eq]
    intro h; have := congrArg BitVec.toNat h; simp at this; omega
  rw [writeMapBegin, hne, if_neg Bool.false_ne_true]
  simp only [bind, EStateM.bind, emit, expect, hk, hv, ofExcept, pure, EStateM.pure, BitVec.toNat_ofNat, Nat.mod_eq_of_lt (show n < 2 ^ 32 by omega), shortHeader, UInt8.toNat_toUInt8]
  rfl

end TCompactOutputProtocol
end ThriftProtocol
