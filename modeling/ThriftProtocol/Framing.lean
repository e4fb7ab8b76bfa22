import ThriftProtocol.Binary.Safety
import ThriftProtocol.Compact.RoundTrip
import ThriftProtocol.Compact.Safety

/-!
# Headers and length prefixes

What the encoders put around the values they write, held against what the decoders read:

* `compact_fieldDelta_sub_overflow` — the compact encoder takes the delta of two field ids of
  one struct with `i16`'s subtraction, so in a checked build the second of two fields panics
  exactly when its id minus the first's does not fit in `i16`, as for the pair `-1`, `32767`;
* `TBinaryInputProtocol.readBytes_written`, `TCompactInputProtocol.readBytes_written` — what
  `read_bytes` returns on the bytes `write_bytes` wrote, for a byte string of any length: the
  length is cast `as i32` (binary) or `as u32` (compact) on the way out, so from `2 ^ 31` or
  `2 ^ 32` bytes on the prefix is negative or wrapped; `byteString_prefix_casts` says for which
  lengths a byte string comes back;
* `fieldBegin_stop_vs_fieldStop` — a stop field written through `write_field_begin`: the binary
  encoder writes its id after the stop byte when it has one
  (`TBinaryOutputProtocol.writeFieldBegin_stop_eq_iff`), and the compact encoder panics on a
  stop field without an id and writes a field header for one with an id, so that it never does
  what `write_field_stop` does (`TCompactOutputProtocol.writeFieldBegin_stop_ne`);
* `negative_container_sizes` — neither encoder checks the sign of a container's size: the binary
  encoder's headers and the compact encoder's map header carry a negative size to the decoder,
  which refuses it with `NegativeSize`, but the compact encoder's list and set header keeps only
  the size's low four bits, which its decoder reads back as a small count that is not negative
  (`TCompactOutputProtocol.writeListSetBegin_negative`);
* `decoders_refuse_other_codec` — each decoder refuses the other codec's message header with
  `BadVersion` after at most four bytes, so a peer speaking the other protocol is detected at its
  first message and never misread: a compact header starts with `0x82` and has at least four bytes
  (`TCompactOutputProtocol.writeMessageBegin_header`), which the binary decoder takes for a bad
  version word (`TBinaryInputProtocol.readMessageBegin_versionBad`), and a binary header never
  starts with `0x82` (`TBinaryOutputProtocol.writeMessageBegin_head`), which the compact decoder
  requires (`TCompactInputProtocol.readMessageBegin_idBad`).
-/

namespace ThriftProtocol

/-- The `toInt` of an `i16` is in range. -/
theorem inI16_toInt (x : BitVec 16) : inI16 x.toInt = true := by
  have hx := x.isLt
  simp only [inI16, Bool.and_eq_true, decide_eq_true_eq, BitVec.toInt_eq_toNat_cond]
  split <;> omega

/-- A panic message that does not start with `p` is not the one for a `Bool` field left pending. -/
theorem ne_pendingBoolMessage {m x : String} (hm : m.data.head? ≠ some 'p') :
    m ≠ s!"pending bool field {x} not written" := by
  intro h
  have := congrArg (fun s : String => s.data.head?) h
  simp only [String.data_append] at this
  rw [List.head?_append, List.head?_append,
    show (toString "pending bool field ").data.head? = some 'p' from rfl] at this
  exact hm this

/-! ## The field-id delta -/

namespace TCompactOutputProtocol

/-- Two fields of one struct, from a new encoder, in a checked build: `write_field_begin` of the
second panics on `i16`'s subtraction exactly when its id minus the first's does not fit in
`i16`. The first field with id `-1`, then one with id `32767`: the delta `32768` leaves `i16`,
and the encoder panics before writing the second header. -/
theorem compact_fieldDelta_sub_overflow :
    (∀ (a b : BitVec 16) (t : List UInt8),
      (∃ s, runWrites (exec true) [.structBegin, .fieldBegin ⟨none, .i08, some a⟩, .i8 0, .fieldEnd,
          .fieldBegin ⟨none, .i08, some b⟩] (new t) =
        .error (.panic "attempt to subtract with overflow") s) ↔ inI16 (b.toInt - a.toInt) = false) ∧
    runWrites (exec true) [.structBegin, .fieldBegin ⟨none, .i08, some (-1)⟩, .i8 0, .fieldEnd,
        .fieldBegin ⟨none, .i08, some 32767⟩] (new []) =
      .error (.panic "attempt to subtract with overflow") ⟨-1, [0], none, [0x03, 0x01, 0x00]⟩ := by
  refine ⟨fun a b t => ?_, rfl⟩
  have ht : typeToU8 .i08 = .ok 3 := rfl
  have h₀ : ¬ (true && !inI16 (a.toInt - (0 : BitVec 16).toInt)) = true := by simp [inI16_toInt]
  obtain ⟨hb, -, hw⟩ := writeFieldHeader_ok ⟨0, [0], none, t⟩ 3 h₀
  -- the first field, its value and its end: the encoder is left with last id `a`
  have hrun : runWrites (exec true) [.structBegin, .fieldBegin ⟨none, .i08, some a⟩, .i8 0,
      .fieldEnd, .fieldBegin ⟨none, .i08, some b⟩] (new t) =
        runWrites (exec true) [.fieldBegin ⟨none, .i08, some b⟩] ⟨a, [0], none, t ++ hb ++ [0]⟩ := by
    rw [runWrites_cons_ok rfl,
      runWrites_cons_ok ((writeFieldBegin_typed _ true ht none a).trans (hw t)),
      runWrites_cons_ok rfl, runWrites_cons_ok rfl]
    rfl
  have hsecond := writeFieldBegin_typed ⟨a, [0], none, t ++ hb ++ [0]⟩ true ht none b
  rw [hrun]
  by_cases hov : inI16 (b.toInt - a.toInt) = true
  · obtain ⟨_, -, hw'⟩ := writeFieldHeader_ok ⟨a, [0], none, t ++ hb ++ [0]⟩ 3
      (by simp [hov] : ¬ (true && !inI16 (b.toInt - a.toInt)) = true)
    rw [runWrites_singleton.mpr (hsecond.trans (hw' _))]
    exact ⟨fun ⟨_, h⟩ => (by cases h), fun h => by rw [hov] at h; cases h⟩
  · rw [runWrites_singleton_error (hsecond.trans (writeFieldHeader_panic _ 3 (by simpa using hov)))]
    exact ⟨fun _ => by simpa using hov, fun _ => ⟨_, rfl⟩⟩

end TCompactOutputProtocol

/-! ## Length prefixes -/

/-- Cutting `b ++ rest` at `k ≤ b.length` gives `b` back exactly when `k` is `b`'s length. -/
theorem take_append_eq_self_iff {b rest : List UInt8} {k : Nat} (hk : k ≤ b.length) :
    (b ++ rest).take k = b ↔ k = b.length := by
  rw [List.take_append_of_le_length hk, List.take_eq_self_iff]
  omega

/-- A read that returns the first `k ≤ b.length` bytes of `b ++ rest` returns `b` and leaves
`rest` exactly when `k` is `b`'s length. -/
theorem cut_eq_iff {σ : Type} (set : List UInt8 → σ) {b rest : List UInt8} {k : Nat} (hk : k ≤ b.length) :
    (.ok ((b ++ rest).take k) (set ((b ++ rest).drop k)) : EStateM.Result Failure σ (List UInt8)) =
      .ok b (set rest) ↔ k = b.length := by
  refine ⟨fun h => (take_append_eq_self_iff hk).mp (EStateM.Result.ok.inj h).1, fun h => ?_⟩
  subst h
  rw [List.take_left', List.drop_left']
  all_goals rfl

namespace TBinaryInputProtocol

variable {d : TBinaryInputProtocol}

/-- `read_bytes` on what `write_bytes` wrote for `b`, the length cast `as i32` and then `b`, for a
`b` of any length `max_string_size` admits: a negative length is refused, any other is the
length modulo `2 ^ 32`. -/
theorem readBytes_written (b rest : List UInt8) (hfit : d.config.StringFits b.length) :
    readBytes { d with transport := beBytes 4 (b.length % 2 ^ 32) ++ b ++ rest } =
      if (BitVec.ofNat 32 b.length).toInt < 0 then
        .error (protocolError .negativeSize
          s!"Negative byte array size: {(BitVec.ofNat 32 b.length).toInt}") { d with transport := b ++ rest }
      else .ok ((b ++ rest).take (b.length % 2 ^ 32))
        { d with transport := (b ++ rest).drop (b.length % 2 ^ 32) } := by
  have hx : (BitVec.ofNat 32 b.length).toNat = b.length % 2 ^ 32 := BitVec.toNat_ofNat _ _
  rw [← hx, List.append_assoc]
  split
  · exact readBytes_negative (b ++ rest) ‹_›
  · rename_i hn
    have hnn := Int.not_lt.mp hn
    rw [readBytes, bind_of_ok (readI32_spec d (b ++ rest) _)]
    simp only [hn, if_false, i32AsUsize_of_nonneg hnn]
    have hk : (BitVec.ofNat 32 b.length).toNat ≤ (b ++ rest).length := by
      rw [hx, List.length_append]; omega
    have hio : io (readExact _) { d with transport := b ++ rest } = _ := io_ok (readExact_of_le hk)
    rcases hm : d.config.maxStringSize with _ | m <;>
      simp only [bind, EStateM.bind, get, getThe, MonadStateOf.get, EStateM.get, pure,
        EStateM.pure, hm, hio]
    rw [if_neg (Nat.not_lt.mpr ((hx ▸ Nat.mod_le _ _).trans (hfit m hm)))]
    exact hio

/-- The matching `read_bytes` returns `b` exactly when `b` is shorter than `2 ^ 31` bytes. -/
theorem readBytes_written_eq_ok_iff (b rest : List UInt8) (hfit : d.config.StringFits b.length) :
    readBytes { d with transport := beBytes 4 (b.length % 2 ^ 32) ++ b ++ rest } =
      .ok b { d with transport := rest } ↔ b.length < 2 ^ 31 := by
  have hneg : (BitVec.ofNat 32 b.length).toInt < 0 ↔ 2 ^ 31 ≤ b.length % 2 ^ 32 := by
    rw [BitVec.toInt_eq_toNat_cond, BitVec.toNat_ofNat]; split <;> omega
  rw [readBytes_written b rest hfit]
  split
  · rename_i hn
    exact iff_of_false (fun h => by cases h) (by have := hneg.mp hn; omega)
  · rename_i hn
    refine (cut_eq_iff (fun t => { d with transport := t }) (Nat.mod_le _ _)).trans ?_
    have := hneg.not.mp hn
    omega

end TBinaryInputProtocol

namespace TCompactInputProtocol

variable {d : TCompactInputProtocol}

/-- `read_bytes` on what `write_bytes` wrote for `b`, the length cast `as u32` and then `b`, for a
`b` of any length `max_string_size` admits: the length read is `b`'s modulo `2 ^ 32`. -/
theorem readBytes_written (b rest : List UInt8) (hfit : d.config.StringFits b.length) :
    readBytes { d with transport := encodeVarint (b.length % 2 ^ 32) ++ b ++ rest } =
      .ok ((b ++ rest).take (b.length % 2 ^ 32))
        { d with transport := (b ++ rest).drop (b.length % 2 ^ 32) } := by
  have hx : (BitVec.ofNat 32 b.length).toNat = b.length % 2 ^ 32 := BitVec.toNat_ofNat _ _
  have hlen := readU32_spec d (b ++ rest) (BitVec.ofNat 32 b.length)
  rw [hx, ← List.append_assoc] at hlen
  rw [readBytes, bind_of_ok hlen]
  have hk : b.length % 2 ^ 32 ≤ (b ++ rest).length := by rw [List.length_append]; omega
  have hio : io (readExact _) { d with transport := b ++ rest } = _ := io_ok (readExact_of_le hk)
  rcases hm : d.config.maxStringSize with _ | m <;>
    simp only [bind, EStateM.bind, get, getThe, MonadStateOf.get, EStateM.get, pure,
      EStateM.pure, hm, hx, hio]
  rw [if_neg (Nat.not_lt.mpr ((Nat.mod_le _ _).trans (hfit m hm)))]
  exact hio

/-- The matching `read_bytes` returns `b` exactly when `b` is shorter than `2 ^ 32` bytes. -/
theorem readBytes_written_eq_ok_iff (b rest : List UInt8) (hfit : d.config.StringFits b.length) :
    readBytes { d with transport := encodeVarint (b.length % 2 ^ 32) ++ b ++ rest } =
      .ok b { d with transport := rest } ↔ b.length < 2 ^ 32 := by
  rw [readBytes_written b rest hfit]
  refine (cut_eq_iff (fun t => { d with transport := t }) (Nat.mod_le _ _)).trans ?_
  omega

end TCompactInputProtocol

/-- Both encoders write a byte string as its length, cast `as i32` (binary) or `as u32` (compact),
then its bytes, whatever its length; the matching `read_bytes`, under a `max_string_size` that
admits the string, returns it exactly when it is shorter than `2 ^ 31` (binary) or `2 ^ 32`
(compact) bytes. A string is written as its bytes, and a compact uuid as its sixteen. -/
theorem byteString_prefix_casts (b rest : List UInt8) :
    (∀ e : TBinaryOutputProtocol, TBinaryOutputProtocol.writeBytes b e =
      .ok () { e with transport := e.transport ++ (beBytes 4 (b.length % 2 ^ 32) ++ b) }) ∧
    (∀ d : TBinaryInputProtocol, d.config.StringFits b.length →
      (TBinaryInputProtocol.readBytes
          { d with transport := beBytes 4 (b.length % 2 ^ 32) ++ b ++ rest } =
        .ok b { d with transport := rest } ↔ b.length < 2 ^ 31)) ∧
    (∀ e : TCompactOutputProtocol, TCompactOutputProtocol.writeBytes b e =
      .ok () { e with transport := e.transport ++ (encodeVarint (b.length % 2 ^ 32) ++ b) }) ∧
    (∀ d : TCompactInputProtocol, d.config.StringFits b.length →
      (TCompactInputProtocol.readBytes
          { d with transport := encodeVarint (b.length % 2 ^ 32) ++ b ++ rest } =
        .ok b { d with transport := rest } ↔ b.length < 2 ^ 32)) :=
  ⟨fun e => by rw [TBinaryOutputProtocol.writeBytes_spec, BitVec.toNat_ofNat, List.append_assoc],
    fun _ hfit => TBinaryInputProtocol.readBytes_written_eq_ok_iff b rest hfit,
    fun e => by rw [TCompactOutputProtocol.writeBytes_spec, List.append_assoc],
    fun _ hfit => TCompactInputProtocol.readBytes_written_eq_ok_iff b rest hfit⟩

/-! ## Stop fields -/

namespace TBinaryOutputProtocol

/-- A stop field through `write_field_begin` does what `write_field_stop` does exactly when it has
no id; with an id, the id follows the stop byte. -/
theorem writeFieldBegin_stop_eq_iff (s : TBinaryOutputProtocol) (name : Option String)
    (id : Option (BitVec 16)) :
    writeFieldBegin ⟨name, .stop, id⟩ s = writeFieldStop s ↔ id = none := by
  cases id with
  | none => exact iff_of_true rfl rfl
  | some k =>
    refine iff_of_false (fun h => ?_) nofun
    rw [writeFieldBegin_spec] at h
    have := congrArg (fun r => (after r).transport.length) h
    simp [writeFieldStop, writeByte, emit, after] at this

end TBinaryOutputProtocol

namespace TCompactOutputProtocol

/-- A field header with the type nibble `0` either panics on the subtraction or does more than
append the byte `0`: its short form moves the last id, its long form appends the id too. -/
theorem writeFieldHeader_zero_cases (overflowChecks : Bool) (e : TCompactOutputProtocol)
    (k : BitVec 16) :
    writeFieldHeader overflowChecks 0 k e = .error (.panic "attempt to subtract with overflow") e ∨
      ∃ e', writeFieldHeader overflowChecks 0 k e = .ok () e' ∧
        e' ≠ { e with transport := e.transport ++ [0] } := by
  by_cases hov : (overflowChecks && !inI16 (k.toInt - e.lastWriteFieldId.toInt)) = true
  · exact .inl (writeFieldHeader_panic e 0 hov)
  rw [writeFieldHeader_spec e 0 hov]
  split
  · rename_i hs
    refine .inr ⟨_, rfl, fun h => ?_⟩
    have hk := congrArg TCompactOutputProtocol.lastWriteFieldId h
    simp only at hk
    simp [hk] at hs
  · refine .inr ⟨_, rfl, fun h => ?_⟩
    have := congrArg TCompactOutputProtocol.transport h
    simp only [List.append_cancel_left_eq, List.cons.injEq, true_and] at this
    exact encodeVarint_ne_nil _ this

/-- A stop field through `write_field_begin` either panics, on the missing id or on the
subtraction, with a message that is not about a `Bool` field held back, or does more than append
the stop byte. -/
theorem writeFieldBegin_stop_cases (overflowChecks : Bool) (e : TCompactOutputProtocol)
    (name : Option String) (id : Option (BitVec 16)) :
    (∃ m : String, m.data.head? ≠ some 'p' ∧
      writeFieldBegin overflowChecks ⟨name, .stop, id⟩ e = .error (.panic m) e) ∨
    ∃ e', writeFieldBegin overflowChecks ⟨name, .stop, id⟩ e = .ok () e' ∧
      e' ≠ { e with transport := e.transport ++ [0] } := by
  cases id with
  | none => exact .inl ⟨_, by decide, rfl⟩
  | some k =>
    rw [writeFieldBegin_typed e overflowChecks (rfl : typeToU8 .stop = .ok 0) name k]
    exact (writeFieldHeader_zero_cases overflowChecks e k).imp_left fun h => ⟨_, by decide, h⟩

/-- A stop field through `write_field_begin` never does what `write_field_stop` does: without an
id it panics on the missing id; with one it writes a field header, or panics on the subtraction;
and it does not check for a `Bool` field held back. -/
theorem writeFieldBegin_stop_ne (overflowChecks : Bool) (e : TCompactOutputProtocol)
    (name : Option String) (id : Option (BitVec 16)) :
    writeFieldBegin overflowChecks ⟨name, .stop, id⟩ e ≠ writeFieldStop e := by
  cases hp : e.pendingWriteBoolFieldIdentifier with
  | none =>
    rw [writeFieldStop_spec e hp]
    rcases writeFieldBegin_stop_cases overflowChecks e name id with ⟨m, -, h⟩ | ⟨e', h, hne⟩ <;> rw [h]
    · nofun
    · exact fun h' => hne (EStateM.Result.ok.inj h').2
  | some f =>
    have hstop : writeFieldStop e = .error (.panic s!"pending bool field {f.debug} not written") e := by
      simp only [writeFieldStop, bind, EStateM.bind, assertNoPendingBoolWrite, hp]
    rw [hstop]
    rcases writeFieldBegin_stop_cases overflowChecks e name id with ⟨m, hm, h⟩ | ⟨e', h, -⟩ <;> rw [h]
    · exact fun h' => ne_pendingBoolMessage hm (Failure.panic.inj (EStateM.Result.error.inj h').1)
    · nofun

end TCompactOutputProtocol

/-- A stop field written through `write_field_begin`, from every encoder state and for every stop
identifier: the binary encoder does what `write_field_stop` does exactly when the identifier has
no id, and with an id writes it after the stop byte; the compact encoder panics on a stop
identifier without an id, and never does what `write_field_stop` does. -/
theorem fieldBegin_stop_vs_fieldStop :
    (∀ (s : TBinaryOutputProtocol) (name : Option String) (id : Option (BitVec 16)),
      TBinaryOutputProtocol.writeFieldBegin ⟨name, .stop, id⟩ s =
        TBinaryOutputProtocol.writeFieldStop s ↔ id = none) ∧
    (∀ (s : TBinaryOutputProtocol) (name : Option String) (k : BitVec 16),
      TBinaryOutputProtocol.writeFieldBegin ⟨name, .stop, some k⟩ s =
        .ok () { s with transport := s.transport ++ 0x00 :: beBytes 2 k.toNat }) ∧
    (∀ (overflowChecks : Bool) (e : TCompactOutputProtocol) (name : Option String),
      TCompactOutputProtocol.writeFieldBegin overflowChecks ⟨name, .stop, none⟩ e =
        .error (.panic "non-stop field should have field id") e) ∧
    (∀ (overflowChecks : Bool) (e : TCompactOutputProtocol) (name : Option String)
      (id : Option (BitVec 16)),
      TCompactOutputProtocol.writeFieldBegin overflowChecks ⟨name, .stop, id⟩ e ≠
        TCompactOutputProtocol.writeFieldStop e) :=
  ⟨TBinaryOutputProtocol.writeFieldBegin_stop_eq_iff,
    fun s name k => by rw [TBinaryOutputProtocol.writeFieldBegin_spec, List.append_assoc]; rfl,
    fun _ _ _ => rfl, TCompactOutputProtocol.writeFieldBegin_stop_ne⟩

/-! ## Negative container sizes -/

/-- Shifting a byte left by four keeps only its low nibble. -/
theorem toUInt8_shiftLeft_four (k : Nat) : k.toUInt8 <<< 4 = (k % 16).toUInt8 <<< 4 := by
  apply UInt8.toNat.inj
  show (BitVec.ofNat 8 k <<< (4 : Nat)).toNat = (BitVec.ofNat 8 (k % 16) <<< (4 : Nat)).toNat
  simp only [BitVec.toNat_shiftLeft, BitVec.toNat_ofNat, Nat.shiftLeft_eq]
  omega

namespace TCompactOutputProtocol

variable (e : TCompactOutputProtocol)

/-- A negative count takes the one-byte header, as `element_count as u8` shifted into the high
nibble: what is left of the count is its low four bits. -/
theorem writeListSetBegin_negative {t : TType} {c : UInt8} (hct : collectionTypeToU8 t = .ok c)
    {n : BitVec 32} (hn : n.toInt < 0) :
    writeListSetBegin t n e =
      .ok () { e with transport := e.transport ++ [shortHeader (n.toNat % 16) c] } := by
  rw [writeListSetBegin, hct, bind_of_ok (ofExcept_ok _ _), if_pos (by omega), shortHeader,
    ← toUInt8_shiftLeft_four]
  rfl

/-- A map of any nonzero count, negative counts included, has the count as a varint of its
`u32` cast, then both type tags. -/
theorem writeMapBegin_ne_zero {k v : TType} {ck cv : UInt8} (hk : collectionTypeToU8 k = .ok ck)
    (hv : collectionTypeToU8 v = .ok cv) {n : BitVec 32} (h0 : n ≠ 0) :
    writeMapBegin ⟨some k, some v, n⟩ e = .ok ()
      { e with transport := e.transport ++ encodeVarint n.toNat ++ [shortHeader ck.toNat cv] } := by
  rw [writeMapBegin, show (n == 0) = false from beq_eq_false_iff_ne.mpr h0,
    if_neg Bool.false_ne_true]
  simp only [bind, EStateM.bind, emit, expect, hk, hv, ofExcept, pure, EStateM.pure, shortHeader,
    UInt8.toNat_toUInt8]
  rfl

end TCompactOutputProtocol

/-- A negative container size, for every type each codec carries in a container: each encoder
writes it without a check; the binary decoder, and the compact decoder for a map, refuse the
header with `NegativeSize` having read just the header, while the compact decoder with no limits
takes a list or set header whose low four bits are not `15` as a count of those four bits. -/
theorem negative_container_sizes (n : BitVec 32) (hn : n.toInt < 0) :
    (∀ t : TType, t ≠ .utf7 → ∀ (e : TBinaryOutputProtocol) (d : TBinaryInputProtocol) rest,
      TBinaryOutputProtocol.writeListBegin ⟨t, n⟩ e =
          .ok () { e with transport := e.transport ++ fieldTypeToU8 t :: beBytes 4 n.toNat } ∧
        TBinaryInputProtocol.readListSetBegin
            { d with transport := (fieldTypeToU8 t :: beBytes 4 n.toNat) ++ rest } =
          .error (protocolError .negativeSize s!"Negative container size: {n.toInt}")
            { d with transport := rest }) ∧
    (∀ k v : TType, k ≠ .utf7 → v ≠ .utf7 →
      ∀ (e : TBinaryOutputProtocol) (d : TBinaryInputProtocol) rest,
      TBinaryOutputProtocol.writeMapBegin ⟨some k, some v, n⟩ e = .ok ()
          { e with transport := e.transport ++ fieldTypeToU8 k :: fieldTypeToU8 v :: beBytes 4 n.toNat } ∧
        TBinaryInputProtocol.readMapBegin
            { d with transport := (fieldTypeToU8 k :: fieldTypeToU8 v :: beBytes 4 n.toNat) ++ rest } =
          .error (protocolError .negativeSize s!"Negative container size: {n.toInt}")
            { d with transport := rest }) ∧
    (∀ (k v : TType) (ck cv : UInt8), collectionTypeToU8 k = .ok ck → collectionTypeToU8 v = .ok cv →
      ∀ (e : TCompactOutputProtocol) (d : TCompactInputProtocol) rest,
      TCompactOutputProtocol.writeMapBegin ⟨some k, some v, n⟩ e = .ok ()
          { e with transport := e.transport ++ (encodeVarint n.toNat ++ [shortHeader ck.toNat cv]) } ∧
        TCompactInputProtocol.readMapBegin
            { d with transport := (encodeVarint n.toNat ++ [shortHeader ck.toNat cv]) ++ rest } =
          .error (protocolError .negativeSize s!"Negative container size: {n.toInt}")
            { d with transport := rest }) ∧
    (∀ (t : TType) (c : UInt8), collectionTypeToU8 t = .ok c →
      ∀ (e : TCompactOutputProtocol) (d : TCompactInputProtocol) rest,
      TCompactOutputProtocol.writeListSetBegin t n e =
          .ok () { e with transport := e.transport ++ [shortHeader (n.toNat % 16) c] } ∧
        (n.toNat % 16 ≠ 15 → d.config = .noLimits →
          TCompactInputProtocol.readListSetBegin
              { d with transport := [shortHeader (n.toNat % 16) c] ++ rest } =
            .ok (t, BitVec.ofNat 32 (n.toNat % 16)) { d with transport := rest })) := by
  refine ⟨fun t ht e d rest => ⟨?_, TBinaryInputProtocol.readListSetBegin_negative rest ht hn⟩,
    fun k v hk hv e d rest => ⟨?_, TBinaryInputProtocol.readMapBegin_negative rest hk hv hn⟩,
    fun k v ck cv hk hv e d rest => ⟨?_, ?_⟩,
    fun t c hc e d rest => ⟨TCompactOutputProtocol.writeListSetBegin_negative e hc hn, fun h15 hcfg => ?_⟩⟩
  · rw [TBinaryOutputProtocol.writeListBegin_spec, List.append_assoc, List.singleton_append]
  · rw [TBinaryOutputProtocol.writeMapBegin_spec, List.append_assoc, List.append_assoc,
      List.singleton_append, List.singleton_append]
  · have h0 : n ≠ 0 := by rintro rfl; exact absurd hn (by decide)
    rw [TCompactOutputProtocol.writeMapBegin_ne_zero e hk hv h0, List.append_assoc]
  · obtain ⟨hk', hck⟩ := collectionU8ToType_collectionTypeToU8 hk
    obtain ⟨hv', hcv⟩ := collectionU8ToType_collectionTypeToU8 hv
    rw [List.append_assoc, List.singleton_append]
    exact TCompactInputProtocol.readMapBegin_negative rest hk' hv' hck hcv
      (readVarintUnsigned_encodeVarint (by decide) n _) hn
  · obtain ⟨hc', hc16⟩ := collectionU8ToType_collectionTypeToU8 hc
    exact TCompactInputProtocol.readListSetBegin_of_header d rest hcfg hc' hc16 (by omega)
      (.short (by omega))

/-- A list of `i8` declared with size `-2`: the compact encoder writes the header of a list of `14`,
and its decoder reads that count back. -/
theorem compact_list_minus_two_reads_fourteen :
    (-2 : BitVec 32).toInt < 0 ∧
      TCompactOutputProtocol.writeListSetBegin .i08 (-2) (TCompactOutputProtocol.new []) =
        .ok () (TCompactOutputProtocol.new [0xE3]) ∧
      TCompactInputProtocol.readListSetBegin (TCompactInputProtocol.withConfig [0xE3] .noLimits) =
        .ok (.i08, 14) (TCompactInputProtocol.withConfig [] .noLimits) := by
  obtain ⟨hw, hr⟩ := (negative_container_sizes (-2) (by decide)).2.2.2 .i08 3 rfl
    (TCompactOutputProtocol.new []) (TCompactInputProtocol.withConfig [] .noLimits) []
  exact ⟨by decide, hw, hr (by decide) rfl⟩

/-! ## Message headers across codecs -/

/-- A version word whose first byte has the sign bit set but does not start `0x80 0x01` is
refused with `BadVersion` after its four bytes, in either mode. -/
theorem TBinaryInputProtocol.readMessageBegin_versionBad (d : TBinaryInputProtocol)
    {b₀ b₁ b₂ b₃ : UInt8} (h₀ : (b₀ &&& 0x80 != 0) = true) (h : [b₀, b₁] ≠ [0x80, 0x01])
    (rest : List UInt8) :
    TBinaryInputProtocol.readMessageBegin { d with transport := b₀ :: b₁ :: b₂ :: b₃ :: rest } =
      .error (protocolError .badVersion s!"received bad version: {[b₀.toNat, b₁.toNat]}")
        { d with transport := rest } := by
  have hio : TBinaryInputProtocol.io (readExact 4)
      { d with transport := b₀ :: b₁ :: b₂ :: b₃ :: rest } =
        .ok [b₀, b₁, b₂, b₃] { d with transport := rest } :=
    TBinaryInputProtocol.io_ok (readExact_append [b₀, b₁, b₂, b₃] rest)
  rw [TBinaryInputProtocol.readMessageBegin, bind_of_ok hio]
  simp only [List.headD_cons, h₀, List.take, bne_iff_ne, ne_eq, h, not_false_eq_true, if_true]
  rfl

/-- A first byte other than the compact protocol id is refused with `BadVersion`. -/
theorem TCompactInputProtocol.readMessageBegin_idBad (d : TCompactInputProtocol) {b : UInt8}
    (hb : b ≠ compactProtocolId) (rest : List UInt8) :
    TCompactInputProtocol.readMessageBegin { d with transport := b :: rest } =
      .error (protocolError .badVersion s!"invalid compact protocol header {b}")
        { d with transport := rest } := by
  rw [TCompactInputProtocol.readMessageBegin, bind_of_ok (TCompactInputProtocol.readByte_spec d rest b)]
  simp only [bne_iff_ne, ne_eq, hb, not_false_eq_true, if_true]
  rfl

/-- Two varints and a name are at least two bytes. -/
theorem varints_two_bytes (a b : Nat) (name : List UInt8) :
    ∃ x y tl, encodeVarint a ++ (encodeVarint b ++ name) = x :: y :: tl := by
  obtain ⟨x, xs, hx⟩ := List.exists_cons_of_ne_nil (encodeVarint_ne_nil a)
  obtain ⟨y, ys, hy⟩ := List.exists_cons_of_ne_nil (encodeVarint_ne_nil b)
  rw [hx, hy]
  cases xs with
  | nil => exact ⟨x, y, ys ++ name, rfl⟩
  | cons x' xs => exact ⟨x, x', xs ++ y :: ys ++ name, by simp⟩

/-- A compact message header starts with the protocol id and has at least four bytes. -/
theorem TCompactOutputProtocol.writeMessageBegin_header (m : TMessageIdentifier) :
    ∃ b₁ b₂ b₃ tl, TCompactOutputProtocol.writeMessageBegin m (TCompactOutputProtocol.new []) =
      .ok () (TCompactOutputProtocol.new (compactProtocolId :: b₁ :: b₂ :: b₃ :: tl)) := by
  obtain ⟨x, y, tl, hxy⟩ := varints_two_bytes m.sequenceNumber.toNat
    (m.name.bytes.length % 2 ^ 32) m.name.bytes
  refine ⟨(m.messageType.toU8 <<< 5) ||| compactVersion, x, y, tl, ?_⟩
  rw [TCompactOutputProtocol.writeMessageBegin_spec, ← hxy]
  simp only [List.nil_append, List.cons_append, List.singleton_append, List.append_assoc]
  rfl

/-- A binary message header never starts with the compact protocol id: it starts with `0x80`
(strict), or with the high byte of a name length below `2 ^ 31`, whose sign bit is clear. -/
theorem TBinaryOutputProtocol.writeMessageBegin_head (strict : Bool) (m : TMessageIdentifier)
    (hlen : m.name.bytes.length < 2 ^ 31) :
    ∃ b bs, TBinaryOutputProtocol.writeMessageBegin m ⟨strict, []⟩ = .ok () ⟨strict, b :: bs⟩ ∧
      b ≠ compactProtocolId := by
  cases strict
  · obtain ⟨b, bs, hb⟩ := List.exists_cons_of_ne_nil (List.ne_nil_of_length_pos
      (by simp : 0 < (beBytes 4 (BitVec.ofNat 32 m.name.bytes.length).toNat).length))
    have hsign := beBytes_four_signBit
      (show (BitVec.ofNat 32 m.name.bytes.length).toNat < 2 ^ 31 by rw [BitVec.toNat_ofNat]; omega)
    rw [hb, List.headD_cons] at hsign
    refine ⟨b, bs ++ m.name.bytes ++ [m.messageType.toU8] ++ beBytes 4 m.sequenceNumber.toNat,
      ?_, fun h => absurd (h ▸ hsign) (by decide)⟩
    rw [TBinaryOutputProtocol.writeMessageBegin_nonStrict ⟨false, []⟩ m rfl, hb]
    rfl
  · exact ⟨0x80, _, TBinaryOutputProtocol.writeMessageBegin_strict ⟨true, []⟩ m rfl, by decide⟩

/-- Each decoder refuses the message header the other codec's encoder writes, with `BadVersion`,
for every message and in every mode, having read four bytes (binary) or one (compact). The
compact protocol id `0x82` has the sign bit of a binary version word but is not its first byte
`0x80`; a binary message starts with `0x80` (strict) or with the high byte of a name length
below `2 ^ 31` (non-strict), never with `0x82`. -/
theorem decoders_refuse_other_codec :
    (∀ (m : TMessageIdentifier) (d : TBinaryInputProtocol) (rest : List UInt8),
      ∃ hdr msg,
        TCompactOutputProtocol.writeMessageBegin m (TCompactOutputProtocol.new []) =
          .ok () (TCompactOutputProtocol.new hdr) ∧
        TBinaryInputProtocol.readMessageBegin { d with transport := hdr ++ rest } =
          .error (protocolError .badVersion msg) { d with transport := hdr.drop 4 ++ rest }) ∧
    (∀ (strict : Bool) (m : TMessageIdentifier) (d : TCompactInputProtocol) (rest : List UInt8),
      m.name.bytes.length < 2 ^ 31 →
      ∃ hdr msg,
        TBinaryOutputProtocol.writeMessageBegin m ⟨strict, []⟩ = .ok () ⟨strict, hdr⟩ ∧
        TCompactInputProtocol.readMessageBegin { d with transport := hdr ++ rest } =
          .error (protocolError .badVersion msg) { d with transport := hdr.tail ++ rest }) := by
  refine ⟨fun m d rest => ?_, fun strict m d rest hlen => ?_⟩
  · obtain ⟨b₁, b₂, b₃, tl, hw⟩ := TCompactOutputProtocol.writeMessageBegin_header m
    exact ⟨_, _, hw, TBinaryInputProtocol.readMessageBegin_versionBad d (by decide)
      (fun h => absurd (List.cons.inj h).1 (by decide)) _⟩
  · obtain ⟨b, bs, hw, hb⟩ := TBinaryOutputProtocol.writeMessageBegin_head strict m hlen
    exact ⟨_, _, hw, TCompactInputProtocol.readMessageBegin_idBad d hb _⟩

/-- The strict binary header of a call `ping` is refused by the compact decoder. -/
theorem binary_ping_header_refused_by_compact :
    (⟨⟨[0x70, 0x69, 0x6E, 0x67], rfl⟩, .call, 1⟩ : TMessageIdentifier).name.bytes.length < 2 ^ 31 ∧
      ∃ hdr msg,
        TBinaryOutputProtocol.writeMessageBegin ⟨⟨[0x70, 0x69, 0x6E, 0x67], rfl⟩, .call, 1⟩
          ⟨true, []⟩ = .ok () ⟨true, hdr⟩ ∧
        TCompactInputProtocol.readMessageBegin
            { TCompactInputProtocol.withConfig [] .noLimits with transport := hdr ++ [] } =
          .error (protocolError .badVersion msg)
            { TCompactInputProtocol.withConfig [] .noLimits with transport := hdr.tail ++ [] } :=
  ⟨by decide, decoders_refuse_other_codec.2 true _ _ [] (by decide)⟩

end ThriftProtocol
