import ThriftProtocol.Compact.Spec

/-!
# The compact wire format, and what the decoder reads from it

`Enc overflowChecks sh ops bytes` says that `bytes` are a compact encoding of the writes `ops`
of shape `sh`, as `TCompactInputProtocol` reads them. The grammar leaves every freedom the format
gives a writer:

* a field header (`FieldHeader`) takes the short form, the delta to the previous id of the same
  struct in the high nibble, for any delta from 1 to 15, or the long form, the id as a zig-zag
  varint after the type byte, for any id;
* a `Bool` field carries its value in its type nibble, `1` or `2`, in either form, and has no
  byte of its own;
* a list or set header (`CollectionHeader`) may put a count up to 14 in its high nibble or after
  it, and the element tag of a collection is any tag the decoder maps to the element type.

Byte strings follow the code: a `u32` varint length, then the bytes (a uuid is a byte string of
sixteen bytes).

The decoder reads back every encoding (`sound_of_enc`): its reads return what was written and
consume exactly the encoding.
-/

namespace ThriftProtocol

/-! ## The grammar -/

/-- The header of a field with id `id` and type nibble `c`, after a field with id `prev` in the
same struct. The short form carries a delta of 1 to 15 in its high nibble, which in a checked
build may not take `prev` out of `i16`; the long form carries `0` there and the id follows. -/
inductive FieldHeader (overflowChecks : Bool) (prev id : BitVec 16) (c : UInt8) :
    List UInt8 → Prop
  | short {delta : Nat} (h0 : 0 < delta) (h16 : delta < 16)
      (hid : id = prev + BitVec.ofNat 16 delta)
      (hov : overflowChecks = true → inI16 (prev.toInt + delta) = true) :
      FieldHeader overflowChecks prev id c [shortHeader delta c]
  | long : FieldHeader overflowChecks prev id c (c :: encodeVarint (zigzag id.toInt))

/-- The header of a list or set of `n` elements with element tag `c`: the count in the high
nibble when it is at most 14, or `15` there and the count as a varint after. -/
inductive CollectionHeader (c : UInt8) (n : Nat) : List UInt8 → Prop
  | short (h : n ≤ 14) : CollectionHeader c n [shortHeader n c]
  | long : CollectionHeader c n (shortHeader 15 c :: encodeVarint n)

/-- The header of a map of `n` entries with key and value tags `ck` and `cv`: the count as a
varint, then, unless the map is empty, both tags in one byte. -/
inductive MapHeader (ck cv : UInt8) : Nat → List UInt8 → Prop
  | empty : MapHeader ck cv 0 [0]
  | nonempty {n : Nat} (h : 0 < n) :
      MapHeader ck cv n (encodeVarint n ++ [shortHeader ck.toNat cv])

/-- Compact encodings of write streams. -/
inductive Enc (overflowChecks : Bool) : Shape → List WriteOp → List UInt8 → Prop
  | bool (b : Bool) : Enc overflowChecks (.value .bool) [.bool b] [if b then 1 else 2]
  | i8 (i : BitVec 8) : Enc overflowChecks (.value .i08) [.i8 i] [⟨i⟩]
  | i16 (i : BitVec 16) :
      Enc overflowChecks (.value .i16) [.i16 i] (encodeVarint (zigzag i.toInt))
  | i32 (i : BitVec 32) :
      Enc overflowChecks (.value .i32) [.i32 i] (encodeVarint (zigzag i.toInt))
  | i64 (i : BitVec 64) :
      Enc overflowChecks (.value .i64) [.i64 i] (encodeVarint (zigzag i.toInt))
  | double (x : BitVec 64) : Enc overflowChecks (.value .double) [.double x] (leBytes 8 x.toNat)
  | string (s : Utf8String) (h : s.bytes.length < 2 ^ 32) :
      Enc overflowChecks (.value .string) [.string s] (encodeVarint s.bytes.length ++ s.bytes)
  | bytes (b : List UInt8) (h : b.length < 2 ^ 32) :
      Enc overflowChecks (.value .string) [.bytes b] (encodeVarint b.length ++ b)
  | uuid (u : Uuid) : Enc overflowChecks (.value .uuid) [.uuid u] (encodeVarint 16 ++ u.bytes)
  | void : Enc overflowChecks (.value .void) [] []
  | struct {body bs} (h : Enc overflowChecks (.fields 0) body bs) :
      Enc overflowChecks (.value .struct) (.structBegin :: body ++ [.fieldStop, .structEnd])
        (bs ++ [0])
  | list {t c n body hb bs} (hc : collectionU8ToType c = .ok t) (hc16 : c.toNat < 16)
      (hn : n < 2 ^ 31) (hh : CollectionHeader c n hb) (h : Enc overflowChecks (.elems t n) body bs) :
      Enc overflowChecks (.value .list) (.listBegin ⟨t, BitVec.ofNat 32 n⟩ :: body ++ [.listEnd])
        (hb ++ bs)
  | set {t c n body hb bs} (hc : collectionU8ToType c = .ok t) (hc16 : c.toNat < 16)
      (hn : n < 2 ^ 31) (hh : CollectionHeader c n hb) (h : Enc overflowChecks (.elems t n) body bs) :
      Enc overflowChecks (.value .set) (.setBegin ⟨t, BitVec.ofNat 32 n⟩ :: body ++ [.setEnd])
        (hb ++ bs)
  | map {k v ck cv n body hb bs} (hk : collectionU8ToType ck = .ok k)
      (hv : collectionU8ToType cv = .ok v) (hck : ck.toNat < 16) (hcv : cv.toNat < 16)
      (hn : n < 2 ^ 31) (hh : MapHeader ck cv n hb) (h : Enc overflowChecks (.entries k v n) body bs) :
      Enc overflowChecks (.value .map)
        (.mapBegin ⟨some k, some v, BitVec.ofNat 32 n⟩ :: body ++ [.mapEnd]) (hb ++ bs)
  | fieldsNil {prev} : Enc overflowChecks (.fields prev) [] []
  | fieldsCons {prev id t c hb v vb r rb} (name : Option String) (ht : u8ToType c = .ok t)
      (hs : t ≠ .stop) (hc16 : c.toNat < 16) (hh : FieldHeader overflowChecks prev id c hb)
      (hv : Enc overflowChecks (.value t) v vb) (hr : Enc overflowChecks (.fields id) r rb) :
      Enc overflowChecks (.fields prev) (.fieldBegin ⟨name, t, some id⟩ :: v ++ .fieldEnd :: r)
        (hb ++ vb ++ rb)
  | fieldsBool {prev id b hb r rb} (name : Option String)
      (hh : FieldHeader overflowChecks prev id (if b then 1 else 2) hb)
      (hr : Enc overflowChecks (.fields id) r rb) :
      Enc overflowChecks (.fields prev)
        (.fieldBegin ⟨name, .bool, some id⟩ :: [.bool b] ++ .fieldEnd :: r) (hb ++ rb)
  | elemsNil {t} : Enc overflowChecks (.elems t 0) [] []
  | elemsCons {t n v vb r rb} (hv : Enc overflowChecks (.value t) v vb)
      (hr : Enc overflowChecks (.elems t n) r rb) : Enc overflowChecks (.elems t (n + 1)) (v ++ r) (vb ++ rb)
  | entriesNil {k v} : Enc overflowChecks (.entries k v 0) [] []
  | entriesCons {k v n kv kb vv vb r rb} (hk : Enc overflowChecks (.value k) kv kb)
      (hv : Enc overflowChecks (.value v) vv vb) (hr : Enc overflowChecks (.entries k v n) r rb) :
      Enc overflowChecks (.entries k v (n + 1)) (kv ++ vv ++ r) (kb ++ vb ++ rb)
  | valuesNil : Enc overflowChecks .values [] []
  | valuesCons {t v vb r rb} (hv : Enc overflowChecks (.value t) v vb)
      (hr : Enc overflowChecks .values r rb) : Enc overflowChecks .values (v ++ r) (vb ++ rb)
  | message {body bb} (m : TMessageIdentifier) (hname : m.name.bytes.length < 2 ^ 32)
      (h : Enc overflowChecks .values body bb) :
      Enc overflowChecks .message (.messageBegin m :: body ++ [.messageEnd])
        ([compactProtocolId, (m.messageType.toU8 <<< 5) ||| compactVersion] ++
          encodeVarint m.sequenceNumber.toNat ++ encodeVarint m.name.bytes.length ++ m.name.bytes ++
          bb)
  | streamNil : Enc overflowChecks .stream [] []
  | streamCons {m mb r rb} (hm : Enc overflowChecks .message m mb)
      (hr : Enc overflowChecks .stream r rb) : Enc overflowChecks .stream (m ++ r) (mb ++ rb)

/-! ## The decoder on each header -/

namespace TCompactInputProtocol

variable (d : TCompactInputProtocol) (rest : List UInt8)

theorem readFieldBegin_typed (overflowChecks : Bool) {c : UInt8} {t : TType}
    (ht : u8ToType c = .ok t) (hs : t ≠ .stop) (hc16 : c.toNat < 16) {id : BitVec 16}
    {hb : List UInt8} (hh : FieldHeader overflowChecks d.lastReadFieldId id c hb) :
    readFieldBegin overflowChecks { d with transport := hb ++ rest } =
      .ok ⟨none, t, some id⟩ { d with transport := rest, lastReadFieldId := id } := by
  cases hh with
  | short h0 h16 hid hov =>
    obtain ⟨hlo, hhi⟩ := shortHeader_nibbles h16 hc16
    subst hid
    exact readFieldBegin_header d rest overflowChecks hlo hhi
      (readFieldTypeNibble_of_u8ToType _ ht) hs (updateLastReadFieldId_short _ overflowChecks h0 h16 hov)
  | long =>
    obtain ⟨hlo, hhi⟩ := longHeader_nibbles hc16
    exact readFieldBegin_header d _ overflowChecks hlo hhi
      (readFieldTypeNibble_of_u8ToType _ ht) hs (updateLastReadFieldId_long _ _ overflowChecks id)

theorem readFieldBegin_bool (overflowChecks : Bool) (b : Bool) {id : BitVec 16}
    {hb : List UInt8} (hh : FieldHeader overflowChecks d.lastReadFieldId id (if b then 1 else 2) hb) :
    readFieldBegin overflowChecks { d with transport := hb ++ rest } =
      .ok ⟨none, .bool, some id⟩
        { d with transport := rest, lastReadFieldId := id, pendingReadBoolValue := some b } := by
  have hc16 : (if b then (1 : UInt8) else 2).toNat < 16 := by cases b <;> decide
  cases hh with
  | short h0 h16 hid hov =>
    obtain ⟨hlo, hhi⟩ := shortHeader_nibbles h16 hc16
    subst hid
    exact readFieldBegin_header d rest overflowChecks hlo hhi (readFieldTypeNibble_bool _ b)
      (by decide) (updateLastReadFieldId_short _ overflowChecks h0 h16 hov)
  | long =>
    obtain ⟨hlo, hhi⟩ := longHeader_nibbles hc16
    exact readFieldBegin_header d _ overflowChecks hlo hhi (readFieldTypeNibble_bool _ b)
      (by decide) (updateLastReadFieldId_long { d with pendingReadBoolValue := some b } _
        overflowChecks id)

theorem readListSetBegin_of_header (hcfg : d.config = .noLimits) {c : UInt8} {t : TType}
    (hc : collectionU8ToType c = .ok t) (hc16 : c.toNat < 16) {n : Nat} (hn : n < 2 ^ 31)
    {hb : List UInt8} (hh : CollectionHeader c n hb) :
    readListSetBegin { d with transport := hb ++ rest } =
      .ok (t, BitVec.ofNat 32 n) { d with transport := rest } := by
  have hsize := checkContainerSize_noLimits (length_i32 hn).1 (compactProtocolMinSerializedSize t)
  rw [← hcfg] at hsize
  cases hh with
  | short h => exact readListSetBegin_short d rest hc hc16 h hsize
  | long =>
    have hl := readListSetBegin_long d rest hc hc16 (BitVec.ofNat 32 n) hsize
    rwa [(length_i32 hn).2] at hl

theorem readListBegin_of_header (hcfg : d.config = .noLimits) {c : UInt8} {t : TType}
    (hc : collectionU8ToType c = .ok t) (hc16 : c.toNat < 16) {n : Nat} (hn : n < 2 ^ 31)
    {hb : List UInt8} (hh : CollectionHeader c n hb) :
    readListBegin { d with transport := hb ++ rest } =
      .ok ⟨t, BitVec.ofNat 32 n⟩ { d with transport := rest } :=
  bind_of_ok (readListSetBegin_of_header d rest hcfg hc hc16 hn hh)

theorem readSetBegin_of_header (hcfg : d.config = .noLimits) {c : UInt8} {t : TType}
    (hc : collectionU8ToType c = .ok t) (hc16 : c.toNat < 16) {n : Nat} (hn : n < 2 ^ 31)
    {hb : List UInt8} (hh : CollectionHeader c n hb) :
    readSetBegin { d with transport := hb ++ rest } =
      .ok ⟨t, BitVec.ofNat 32 n⟩ { d with transport := rest } :=
  bind_of_ok (readListSetBegin_of_header d rest hcfg hc hc16 hn hh)

theorem readMapBegin_of_header (hcfg : d.config = .noLimits) {ck cv : UInt8} {k v : TType}
    (hk : collectionU8ToType ck = .ok k) (hv : collectionU8ToType cv = .ok v)
    (hck : ck.toNat < 16) (hcv : cv.toNat < 16) {n : Nat} (hn : n < 2 ^ 31) {hb : List UInt8}
    (hh : MapHeader ck cv n hb) (overflowChecks : Bool) :
    exec overflowChecks (WriteOp.mapBegin ⟨some k, some v, BitVec.ofNat 32 n⟩).toRead
        { d with transport := hb ++ rest } =
      .ok ((WriteOp.mapBegin ⟨some k, some v, BitVec.ofNat 32 n⟩).readBack none false)
        { d with transport := rest } := by
  show (do let m ← readMapBegin; pure (ReadValue.map m)) _ = _
  cases hh with
  | empty => exact bind_of_ok (readMapBegin_empty d rest)
  | nonempty h0 =>
    have hne : BitVec.ofNat 32 n ≠ 0 := fun he => by
      have := congrArg BitVec.toNat he
      rw [(length_i32 hn).2] at this
      simp at this; omega
    have hsize := checkContainerSize_noLimits (length_i32 hn).1
      (compactProtocolMinSerializedSize k + compactProtocolMinSerializedSize v)
    rw [← hcfg] at hsize
    have hm := readMapBegin_spec d rest hk hv hck hcv hne hsize
    rw [(length_i32 hn).2] at hm
    rw [List.append_assoc, List.singleton_append, bind_of_ok hm]
    simp only [WriteOp.readBack, Bool.false_or, bne_iff_ne.mpr hne, if_true]
    rfl

/-- A `Bool` field: its header holds the value back, and `read_bool` returns it without reading
a byte. -/
theorem readBoolField (overflowChecks : Bool) (hp : d.pendingReadBoolValue = none)
    (name : Option String) (b : Bool) {id : BitVec 16} {hb : List UInt8}
    (hh : FieldHeader overflowChecks d.lastReadFieldId id (if b then 1 else 2) hb) :
    runReads (exec overflowChecks)
        ([WriteOp.fieldBegin ⟨name, .bool, some id⟩, .bool b].map WriteOp.toRead)
        { d with transport := hb ++ rest } =
      .ok ([WriteOp.fieldBegin ⟨name, .bool, some id⟩, .bool b].map (WriteOp.readBack none false))
        { d with transport := rest, lastReadFieldId := id } := by
  obtain ⟨l, st, p, tr, cfg, dep⟩ := d
  simp only at hp
  subst hp
  exact runReads_cons_ok (bind_of_ok (readFieldBegin_bool _ rest overflowChecks b hh))
    (runReads_singleton (bind_of_ok (readBool_pending _ rfl)))

/-! ## Reading back every encoding -/

/-- The reads of `ops`, from `d` on input that starts with `bytes`, return what `ops` wrote,
consume exactly `bytes`, and leave the decoder as `d'` (with the rest of the input). -/
def ReadsBack (overflowChecks : Bool) (ops : List WriteOp) (bytes : List UInt8)
    (d d' : TCompactInputProtocol) : Prop :=
  ∀ rest, runReads (exec overflowChecks) (ops.map WriteOp.toRead)
      { d with transport := bytes ++ rest } =
    .ok (ops.map (WriteOp.readBack none false)) { d' with transport := rest }

/-- A decoder between two values: no limits, and no `Bool` value held back. -/
structure Ready (d : TCompactInputProtocol) : Prop where
  config_eq : d.config = .noLimits
  pending_eq : d.pendingReadBoolValue = none

theorem Ready.stringFits {d : TCompactInputProtocol} (hd : Ready d) (n : Nat) :
    d.config.StringFits n := by
  intro m hm; simp [hd.config_eq, TConfiguration.noLimits] at hm

theorem Ready.depthRoom {d : TCompactInputProtocol} (hd : Ready d) : d.DepthRoom := by
  intro limit hl; simp [hd.config_eq, TConfiguration.noLimits] at hl

/-- What the decoder does on an encoding of each shape: a value leaves it as it was; the fields of
a struct start from the previous id `prev` and end with another; a message resets the last field
id, so it is read by a decoder whose last id is `0`. -/
def Sound (overflowChecks : Bool) : Shape → List WriteOp → List UInt8 → Prop
  | .fields prev, ops, bytes => ∀ d, Ready d → d.lastReadFieldId = prev →
      ∃ last, ReadsBack overflowChecks ops bytes d { d with lastReadFieldId := last }
  | .message, ops, bytes =>
      ∀ d, Ready d → d.lastReadFieldId = 0 → ReadsBack overflowChecks ops bytes d d
  | .stream, ops, bytes =>
      ∀ d, Ready d → d.lastReadFieldId = 0 → ReadsBack overflowChecks ops bytes d d
  | _, ops, bytes => ∀ d, Ready d → ReadsBack overflowChecks ops bytes d d

section ReadsBack

variable {overflowChecks : Bool} {d₁ d₂ d₃ : TCompactInputProtocol}

theorem ReadsBack.nil (d : TCompactInputProtocol) : ReadsBack overflowChecks [] [] d d :=
  fun _ => rfl

theorem ReadsBack.append {a b : List WriteOp} {ba bb : List UInt8}
    (ha : ReadsBack overflowChecks a ba d₁ d₂) (hb : ReadsBack overflowChecks b bb d₂ d₃) :
    ReadsBack overflowChecks (a ++ b) (ba ++ bb) d₁ d₃ := fun rest => by
  rw [List.map_append, List.map_append, List.append_assoc]
  exact runReads_append_ok (ha _) (hb rest)

theorem ReadsBack.single {op : WriteOp} {bytes : List UInt8}
    (h : ∀ rest, exec overflowChecks op.toRead { d₁ with transport := bytes ++ rest } =
      .ok (op.readBack none false) { d₂ with transport := rest }) :
    ReadsBack overflowChecks [op] bytes d₁ d₂ :=
  fun rest => runReads_singleton (h rest)

theorem ReadsBack.cons {op : WriteOp} {ops : List WriteOp} {bytes bs : List UInt8}
    (h : ∀ rest, exec overflowChecks op.toRead { d₁ with transport := bytes ++ rest } =
      .ok (op.readBack none false) { d₂ with transport := rest })
    (hs : ReadsBack overflowChecks ops bs d₂ d₃) :
    ReadsBack overflowChecks (op :: ops) (bytes ++ bs) d₁ d₃ := fun rest => by
  rw [List.append_assoc]; exact runReads_cons_ok (h _) (hs rest)

/-- An operation that reads nothing, such as `read_field_end`, can precede any reads. -/
theorem ReadsBack.cons_silent {ops : List WriteOp} {bytes : List UInt8} (op : WriteOp)
    (hop : ∀ s, exec overflowChecks op.toRead s = .ok (op.readBack none false) s)
    (h : ReadsBack overflowChecks ops bytes d₁ d₂) :
    ReadsBack overflowChecks (op :: ops) bytes d₁ d₂ :=
  fun rest => runReads_cons_ok (hop _) (h rest)

/-- An operation that reads nothing, such as `read_list_end`, can follow any reads. -/
theorem ReadsBack.snoc_silent {ops : List WriteOp} {bytes : List UInt8} (op : WriteOp)
    (h : ReadsBack overflowChecks ops bytes d₁ d₂)
    (hop : ∀ s, exec overflowChecks op.toRead s = .ok (op.readBack none false) s) :
    ReadsBack overflowChecks (ops ++ [op]) bytes d₁ d₂ := fun rest => by
  rw [List.map_append, List.map_append]
  exact runReads_append_ok (h rest) (runReads_singleton (hop _))

end ReadsBack

/-- A struct: its fields are read one level deeper, from the last id `0`, and `read_struct_end`
restores the depth and the last id of the enclosing struct. -/
theorem sound_struct {overflowChecks : Bool} {body : List WriteOp} {bs : List UInt8}
    (h : Sound overflowChecks (.fields 0) body bs) :
    Sound overflowChecks (.value .struct) (.structBegin :: body ++ [.fieldStop, .structEnd])
      (bs ++ [0]) := by
  intro d hd
  let d₁ : TCompactInputProtocol := { d with
    recursionDepth := d.recursionDepth + 1
    readFieldIdStack := d.lastReadFieldId :: d.readFieldIdStack
    lastReadFieldId := 0 }
  obtain ⟨last, hbody⟩ := h d₁ ⟨hd.1, hd.2⟩ rfl
  have hbegin : ReadsBack overflowChecks [.structBegin] [] d d₁ := ReadsBack.single fun _ =>
    bind_of_ok (readStructBegin_spec _ hd.depthRoom)
  have hend : ReadsBack overflowChecks [.fieldStop, .structEnd] [0]
      { d₁ with lastReadFieldId := last } d := fun rest =>
    runReads_cons_ok (bind_of_ok (readFieldBegin_stop _ rest overflowChecks))
      (runReads_singleton (bind_of_ok
        (readStructEnd_spec _ overflowChecks (Nat.succ_pos d.recursionDepth) rfl)))
  exact hbegin.append (hbody.append hend)

/-- A message: `read_message_begin` resets the last field id, which is already `0`. -/
theorem sound_message {overflowChecks : Bool} {body : List WriteOp} {bb : List UInt8}
    (m : TMessageIdentifier) (hname : m.name.bytes.length < 2 ^ 32)
    (h : Sound overflowChecks .values body bb) :
    Sound overflowChecks .message (.messageBegin m :: body ++ [.messageEnd])
      ([compactProtocolId, (m.messageType.toU8 <<< 5) ||| compactVersion] ++
        encodeVarint m.sequenceNumber.toNat ++ encodeVarint m.name.bytes.length ++ m.name.bytes ++
        bb) := by
  intro d hd hl
  have hbegin : ReadsBack overflowChecks [.messageBegin m] _ d d := ReadsBack.single fun rest => by
    obtain ⟨l, st, p, tr, cfg, dep⟩ := d
    simp only at hl
    subst hl
    exact bind_of_ok (readMessageBegin_spec _ rest m hname (hd.stringFits _))
  exact (hbegin.append (h d hd)).snoc_silent .messageEnd fun _ => rfl

/-- The decoder reads back every encoding. -/
theorem sound_of_enc {overflowChecks : Bool} {sh : Shape} {ops : List WriteOp}
    {bytes : List UInt8} (h : Enc overflowChecks sh ops bytes) :
    Sound overflowChecks sh ops bytes := by
  induction h with
  | bool b =>
    exact fun d hd => ReadsBack.single fun rest =>
      bind_of_ok (readBool_spec d rest hd.pending_eq b)
  | i8 i => exact fun d _ => ReadsBack.single fun rest => bind_of_ok (readI8_spec d rest i)
  | i16 i => exact fun d _ => ReadsBack.single fun rest => bind_of_ok (readI16_spec d rest i)
  | i32 i => exact fun d _ => ReadsBack.single fun rest => bind_of_ok (readI32_spec d rest i)
  | i64 i => exact fun d _ => ReadsBack.single fun rest => bind_of_ok (readI64_spec d rest i)
  | double x => exact fun d _ => ReadsBack.single fun rest => bind_of_ok (readDouble_spec d rest x)
  | string s hs =>
    exact fun d hd => ReadsBack.single fun rest =>
      bind_of_ok (readString_spec d rest s hs (hd.stringFits _))
  | bytes b hb =>
    exact fun d hd => ReadsBack.single fun rest =>
      bind_of_ok (readBytes_spec d rest b hb (hd.stringFits _))
  | uuid u =>
    exact fun d hd => ReadsBack.single fun rest =>
      bind_of_ok (readUuid_spec d rest u (hd.stringFits _))
  | void => exact fun d _ => ReadsBack.nil d
  | struct _ ih => exact sound_struct ih
  | list hc hc16 hn hh _ ih =>
    exact fun d hd => (ReadsBack.cons (fun rest => bind_of_ok
      (readListBegin_of_header d rest hd.config_eq hc hc16 hn hh)) (ih d hd)).snoc_silent
      .listEnd fun _ => rfl
  | set hc hc16 hn hh _ ih =>
    exact fun d hd => (ReadsBack.cons (fun rest => bind_of_ok
      (readSetBegin_of_header d rest hd.config_eq hc hc16 hn hh)) (ih d hd)).snoc_silent
      .setEnd fun _ => rfl
  | map hk hv hck hcv hn hh _ ih =>
    exact fun d hd => (ReadsBack.cons (fun rest =>
      readMapBegin_of_header d rest hd.config_eq hk hv hck hcv hn hh _) (ih d hd)).snoc_silent
      .mapEnd fun _ => rfl
  | fieldsNil => exact fun d _ _ => ⟨d.lastReadFieldId, ReadsBack.nil d⟩
  | @fieldsCons prev id t c hb v vb r rb name ht hs hc16 hh _ _ ihv ihr =>
    intro d hd hprev
    subst hprev
    let d₁ : TCompactInputProtocol := { d with lastReadFieldId := id }
    obtain ⟨last, hr⟩ := ihr d₁ ⟨hd.1, hd.2⟩ rfl
    exact ⟨last, (ReadsBack.cons (fun rest => bind_of_ok
      (readFieldBegin_typed d rest _ ht hs hc16 hh)) (ihv d₁ ⟨hd.1, hd.2⟩)).append
      (hr.cons_silent .fieldEnd fun _ => rfl)⟩
  | @fieldsBool prev id b hb r rb name hh _ ihr =>
    intro d hd hprev
    subst hprev
    let d₁ : TCompactInputProtocol := { d with lastReadFieldId := id }
    obtain ⟨last, hr⟩ := ihr d₁ ⟨hd.1, hd.2⟩ rfl
    exact ⟨last, (show ReadsBack _ _ _ d d₁ from fun rest =>
      readBoolField d rest _ hd.pending_eq name b hh).append
      (hr.cons_silent .fieldEnd fun _ => rfl)⟩
  | elemsNil => exact fun d _ => ReadsBack.nil d
  | elemsCons _ _ ihv ihr => exact fun d hd => (ihv d hd).append (ihr d hd)
  | entriesNil => exact fun d _ => ReadsBack.nil d
  | entriesCons _ _ _ ihk ihv ihr =>
    exact fun d hd => ((ihk d hd).append (ihv d hd)).append (ihr d hd)
  | valuesNil => exact fun d _ => ReadsBack.nil d
  | valuesCons _ _ ihv ihr => exact fun d hd => (ihv d hd).append (ihr d hd)
  | message m hname _ ih => exact sound_message m hname ih
  | streamNil => exact fun d _ _ => ReadsBack.nil d
  | streamCons _ _ ihm ihr => exact fun d hd hl => (ihm d hd hl).append (ihr d hd hl)

end TCompactInputProtocol

/-! ## The field-header grammar -/

/-- The compact decoder reads every struct of the format's field-header grammar, in every build:
short headers with a delta of 1 to 15 (the id is the previous one plus the delta, modulo `2 ^ 16`;
in a checked build, only deltas that keep the id within `i16`), long headers with any id, `Bool`
fields whose value is the type nibble in either form, and the stop byte. -/
theorem compact_reads_every_field_header {overflowChecks : Bool} {ops : List WriteOp}
    {bytes : List UInt8} (h : Enc overflowChecks (.value .struct) ops bytes) (d : TCompactInputProtocol)
    (hcfg : d.config = .noLimits) (hp : d.pendingReadBoolValue = none) (rest : List UInt8) :
    runReads (TCompactInputProtocol.exec overflowChecks) (ops.map WriteOp.toRead)
        { d with transport := bytes ++ rest } =
      .ok (ops.map (WriteOp.readBack none false)) { d with transport := rest } :=
  TCompactInputProtocol.sound_of_enc h d ⟨hcfg, hp⟩ rest

/-- A short header with delta 15, a long `Bool` header and a short `Bool` header, in a checked
build. -/
theorem compact_reads_delta_fifteen :
    runReads (TCompactInputProtocol.exec true)
        [.structBegin, .fieldBegin, .i32, .fieldEnd, .fieldBegin, .bool, .fieldEnd, .fieldBegin,
          .bool, .fieldEnd, .fieldBegin, .structEnd]
        (TCompactInputProtocol.withConfig [0xF5, 0x0E, 0x01, 0xD0, 0x0F, 0x12, 0x00] .noLimits) =
      .ok [.unit, .field ⟨none, .i32, some 15⟩, .i32 7, .unit, .field ⟨none, .bool, some 1000⟩,
          .bool true, .unit, .field ⟨none, .bool, some 1001⟩, .bool false, .unit,
          .field ⟨none, .stop, none⟩, .unit]
        (TCompactInputProtocol.withConfig [] .noLimits) :=
  compact_reads_every_field_header
    (.struct (.fieldsCons none (by rfl) (by decide) (by decide)
      (.short (by decide) (by decide) (by decide) (by decide) :
        FieldHeader true 0 15 5 [shortHeader 15 5]) (.i32 7)
      (.fieldsBool none (.long : FieldHeader true 15 1000 (if true then 1 else 2) _)
        (.fieldsBool none (.short (by decide) (by decide) (by decide) (by decide) :
          FieldHeader true 1000 1001 (if false then 1 else 2) [shortHeader 1 2]) .fieldsNil))))
    (TCompactInputProtocol.withConfig [] .noLimits) rfl rfl []

/-- A struct whose first field, an `i8`, has the long header of id `32767`, and whose second has
the short header of delta `1`: a build without overflow checks reads the second id as `-32768`,
the sum modulo `2 ^ 16`, and a checked build panics on the addition. -/
theorem compact_short_header_past_i16 :
    runReads (TCompactInputProtocol.exec false)
        [.structBegin, .fieldBegin, .i8, .fieldEnd, .fieldBegin, .i8, .fieldEnd, .fieldBegin, .structEnd]
        (TCompactInputProtocol.withConfig [0x03, 0xFE, 0xFF, 0x03, 0x00, 0x13, 0x00, 0x00] .noLimits) =
      .ok [.unit, .field ⟨none, .i08, some 32767⟩, .i8 0, .unit, .field ⟨none, .i08, some (-32768)⟩,
          .i8 0, .unit, .field ⟨none, .stop, none⟩, .unit]
        (TCompactInputProtocol.withConfig [] .noLimits) ∧
    runReads (TCompactInputProtocol.exec true)
        [.structBegin, .fieldBegin, .i8, .fieldEnd, .fieldBegin, .i8, .fieldEnd, .fieldBegin, .structEnd]
        (TCompactInputProtocol.withConfig [0x03, 0xFE, 0xFF, 0x03, 0x00, 0x13, 0x00, 0x00] .noLimits) =
      .error (.panic "attempt to add with overflow") ⟨32767, [0], none, [0x00, 0x00], .noLimits, 1⟩ :=
  ⟨rfl, rfl⟩

end ThriftProtocol
