import ThriftProtocol.Compact.Format

/-!
# The compact encoder writes the format, and the codec round-trips

`TCompactOutputProtocol` refines the grammar `Enc` of `Compact/Format.lean`: on every well-formed
write stream it emits an encoding of the stream, and ends in the state it started in. With the
decoder's soundness on `Enc` (`TCompactInputProtocol.sound_of_enc`) this is the codec's round trip.

* `fieldIdPairs` — the ids whose difference `write_field_header` takes: each field of a stream
  with the id before it in its struct; `IdsClose` — in a checked build, each difference is within
  `i16`; `keepsFieldIds_of_wf` says how a well-formed stream moves the field ids;
* `Appends`, `Panics`, `Emits` — what a run of writes does, whatever the transport already
  holds: where the ids are close, it appends bytes of some property and leaves the encoder in
  some state; where they are not, it panics on the `i16` subtraction of `write_field_header`,
  which only a checked build does;
* `writeFieldHeader_ok`, `writeFieldHeader_panic` — every header the encoder writes is a
  `FieldHeader` of the format;
* `refines_of_wf` — the refinement, by induction on `Wf compactLimits`;
* `compact_roundTrip` — the round trip over whole streams.

The encoder uses less of the format than the decoder accepts: it sends a delta of 15 to the long
form, and it writes a uuid as a byte string with a length prefix (`writeUuid_framed`). A byte
string of `2 ^ 32` bytes or more has its length cast `as u32`: it is outside `compactLimits`, and
it reads back as another string.
-/

namespace ThriftProtocol

/-- What the compact codec carries: every wire type but `Void` and `Utf7`, which `type_to_u8`
refuses, and byte strings whose length fits the `u32` prefix. -/
def compactLimits : StreamLimits :=
  ⟨fun t => t != .void && t != .utf7, fun n => decide (n < 2 ^ 32)⟩

theorem collectionTypeToU8_of_typeOk {t : TType} (h : compactLimits.typeOk t = true) :
    ∃ c, collectionTypeToU8 t = .ok c := by
  cases t <;> first | exact ⟨_, rfl⟩ | exact absurd h (by decide)

theorem typeToU8_of_typeOk {t : TType} (h : compactLimits.typeOk t = true) (hb : t ≠ .bool) :
    ∃ c, typeToU8 t = .ok c := by
  cases t <;> first | exact ⟨_, rfl⟩ | exact absurd h (by decide) | exact absurd rfl hb

/-! ## The field ids `write_field_header` subtracts -/

/-- The compact encoder's field ids after the write `op`, `last_write_field_id` first and then
`write_field_id_stack`: a struct begin pushes and starts from `0`, a struct end pops, and a field
moves the last id (a `Bool` field at its `write_bool`, from the same ids). -/
def fieldIdStep (ids : List (BitVec 16)) : WriteOp → List (BitVec 16)
  | .structBegin => 0 :: ids
  | .structEnd => ids.tail
  | .fieldBegin ⟨_, _, some id⟩ => id :: ids.tail
  | _ => ids

/-- The ids whose difference `write_field_header` takes for the write `op`: the last id, then the
field's. -/
def fieldIdPair (ids : List (BitVec 16)) : WriteOp → List (BitVec 16 × BitVec 16)
  | .fieldBegin ⟨_, _, some id⟩ => [(ids.headD 0, id)]
  | _ => []

/-- Every field of `ops`, from the field ids `ids`, with the id before it in its struct (`0` before
a struct's first field). -/
def fieldIdPairs : List (BitVec 16) → List WriteOp → List (BitVec 16 × BitVec 16)
  | _, [] => []
  | ids, op :: ops => fieldIdPair ids op ++ fieldIdPairs (fieldIdStep ids op) ops

theorem fieldIdPairs_append (ids : List (BitVec 16)) (a b : List WriteOp) :
    fieldIdPairs ids (a ++ b) = fieldIdPairs ids a ++ fieldIdPairs (a.foldl fieldIdStep ids) b := by
  induction a generalizing ids with
  | nil => rfl
  | cons op a ih => rw [List.cons_append, fieldIdPairs, fieldIdPairs, ih, List.append_assoc]; rfl

/-- In a checked build, every field of `ops` has an id whose difference to the id before it in its
struct, counted from the field ids `ids`, fits in `i16`: `write_field_header`'s subtraction does
not overflow. -/
def IdsClose (overflowChecks : Bool) (ids : List (BitVec 16)) (ops : List WriteOp) : Prop :=
  overflowChecks = true → ∀ p ∈ fieldIdPairs ids ops, inI16 (p.2.toInt - p.1.toInt) = true

theorem IdsClose.of_pairs_nil {overflowChecks : Bool} {ids : List (BitVec 16)} {ops : List WriteOp}
    (h : fieldIdPairs ids ops = []) : IdsClose overflowChecks ids ops :=
  fun _ p hp => absurd (h ▸ hp) (List.not_mem_nil p)

theorem IdsClose.append {overflowChecks : Bool} {ids : List (BitVec 16)} {a b : List WriteOp}
    (ha : IdsClose overflowChecks ids a) (hb : IdsClose overflowChecks (a.foldl fieldIdStep ids) b) :
    IdsClose overflowChecks ids (a ++ b) := fun hoc => by
  rw [fieldIdPairs_append]; exact List.forall_mem_append.mpr ⟨ha hoc, hb hoc⟩

/-- How the writes `ops` of shape `sh` move the field ids: the fields of a struct leave a last id
above the enclosing ones, and every other shape leaves the ids as they were. -/
def KeepsFieldIds : Shape → List WriteOp → Prop
  | .fields prev, ops => ∃ last, ∀ ids, ops.foldl fieldIdStep (prev :: ids) = last :: ids
  | _, ops => ∀ ids, ops.foldl fieldIdStep ids = ids

theorem keepsFieldIds_of_wf {L : StreamLimits} {sh : Shape} {ops : List WriteOp} (h : Wf L sh ops) :
    KeepsFieldIds sh ops := by
  induction h with
  | struct _ ih =>
    obtain ⟨last, ih⟩ := ih
    intro ids
    rw [List.foldl_append, List.foldl_cons]
    exact congrArg (List.foldl fieldIdStep · [.fieldStop, .structEnd]) (ih ids)
  | list _ _ _ ih | set _ _ _ ih | map _ _ _ _ ih | message _ _ _ ih =>
    intro ids
    rw [List.foldl_append, List.foldl_cons]
    exact congrArg (List.foldl fieldIdStep · [_]) (ih ids)
  | @fieldsNil prev => exact ⟨prev, fun _ => rfl⟩
  | fieldsCons _ _ _ _ _ ihv ihr =>
    obtain ⟨last, ihr⟩ := ihr
    exact ⟨last, fun ids => by
      rw [List.foldl_append, List.foldl_cons, List.foldl_cons, ihv]; exact ihr ids⟩
  | elemsCons _ _ ihv ihr | valuesCons _ _ _ ihv ihr | streamCons _ _ ihv ihr =>
    exact fun ids => by rw [List.foldl_append, ihv, ihr]
  | entriesCons _ _ _ ihk ihv ihr =>
    exact fun ids => by rw [List.foldl_append, List.foldl_append, ihk, ihv, ihr]
  | _ => exact fun _ => rfl

namespace TCompactOutputProtocol

/-! ## Runs of writes -/

section Runs

variable {overflowChecks : Bool}

/-- The writes `ops` from `e`, whatever its transport holds, append `bytes` to it and leave the
encoder as `e'` otherwise. -/
def Appends (overflowChecks : Bool) (ops : List WriteOp) (bytes : List UInt8)
    (e e' : TCompactOutputProtocol) : Prop :=
  ∀ t, runWrites (exec overflowChecks) ops { e with transport := t } =
    .ok () { e' with transport := t ++ bytes }

/-- The writes `ops` from `e` panic on the `i16` subtraction of `write_field_header`, which only a
checked build does, and only where the id of some field of `ops` minus the id before it in its
struct, counted from the field ids `ids`, does not fit in `i16`. -/
def Panics (overflowChecks : Bool) (ids : List (BitVec 16)) (ops : List WriteOp)
    (e : TCompactOutputProtocol) : Prop :=
  overflowChecks = true ∧ (∃ p ∈ fieldIdPairs ids ops, inI16 (p.2.toInt - p.1.toInt) = false) ∧
    ∀ t, ∃ s, runWrites (exec overflowChecks) ops { e with transport := t } =
      .error (.panic "attempt to subtract with overflow") s

/-- The writes `ops` from `e`, counted from the field ids `ids`: either every field is close
enough to the id before it (`IdsClose`), and they append bytes with the property `P` and leave the
encoder as `e'`; or they panic on two field ids too far apart. -/
def Emits (overflowChecks : Bool) (ids : List (BitVec 16)) (ops : List WriteOp)
    (e e' : TCompactOutputProtocol) (P : List UInt8 → Prop) : Prop :=
  (IdsClose overflowChecks ids ops ∧ ∃ bytes, P bytes ∧ Appends overflowChecks ops bytes e e') ∨
    Panics overflowChecks ids ops e

theorem Appends.nil (e : TCompactOutputProtocol) : Appends overflowChecks [] [] e e := fun t => by
  rw [List.append_nil]; rfl

theorem Appends.single {op : WriteOp} {bytes : List UInt8} {e e' : TCompactOutputProtocol}
    (h : ∀ t, exec overflowChecks op { e with transport := t } =
      .ok () { e' with transport := t ++ bytes }) : Appends overflowChecks [op] bytes e e' :=
  fun t => runWrites_singleton.mpr (h t)

/-- A write that leaves the transport as it is. -/
theorem Appends.silent {op : WriteOp} {e e' : TCompactOutputProtocol}
    (h : ∀ t, exec overflowChecks op { e with transport := t } = .ok () { e' with transport := t }) :
    Appends overflowChecks [op] [] e e' :=
  Appends.single fun t => by rw [List.append_nil]; exact h t

theorem Appends.append {a b : List WriteOp} {ba bb : List UInt8} {e e₁ e₂ : TCompactOutputProtocol}
    (ha : Appends overflowChecks a ba e e₁) (hb : Appends overflowChecks b bb e₁ e₂) :
    Appends overflowChecks (a ++ b) (ba ++ bb) e e₂ := fun t => by
  rw [runWrites_append_of_ok (ha t), hb, List.append_assoc]

variable {ids ids₁ : List (BitVec 16)}

theorem Panics.append_left {a b : List WriteOp} {e : TCompactOutputProtocol}
    (h : Panics overflowChecks ids a e) : Panics overflowChecks ids (a ++ b) e :=
  ⟨h.1, h.2.1.imp fun _ => And.imp_left fun hp => by
      rw [fieldIdPairs_append]; exact List.mem_append_left _ hp,
    fun t => (h.2.2 t).imp fun _ hs => runWrites_append_error hs⟩

theorem Panics.append_right {a b : List WriteOp} {ba : List UInt8} {e e₁ : TCompactOutputProtocol}
    (ha : Appends overflowChecks a ba e e₁) (hs : a.foldl fieldIdStep ids = ids₁)
    (h : Panics overflowChecks ids₁ b e₁) : Panics overflowChecks ids (a ++ b) e :=
  ⟨h.1, h.2.1.imp fun _ => And.imp_left fun hp => by
      rw [fieldIdPairs_append, hs]; exact List.mem_append_right _ hp,
    fun t => by rw [runWrites_append_of_ok (ha t)]; exact h.2.2 _⟩

variable {ops : List WriteOp} {e e₁ e₂ : TCompactOutputProtocol} {P Q : List UInt8 → Prop}

theorem Emits.nil (h : P []) : Emits overflowChecks ids [] e e P :=
  .inl ⟨.of_pairs_nil rfl, [], h, Appends.nil e⟩

theorem Emits.mono (h : Emits overflowChecks ids ops e e' P) (hPQ : ∀ {b}, P b → Q b) :
    Emits overflowChecks ids ops e e' Q :=
  h.imp (fun ⟨hc, b, hb, ha⟩ => ⟨hc, b, hPQ hb, ha⟩) id

/-- Sequential composition: the second part starts from the field ids the first leaves, and the
property of its bytes may depend on the first's. -/
theorem Emits.seq {a b : List WriteOp} (ha : Emits overflowChecks ids a e e₁ P)
    (hs : a.foldl fieldIdStep ids = ids₁)
    (hb : ∀ {ba}, P ba → Emits overflowChecks ids₁ b e₁ e₂ fun bb => Q (ba ++ bb)) :
    Emits overflowChecks ids (a ++ b) e e₂ Q := by
  subst hs
  rcases ha with ⟨hca, ba, hpa, ha⟩ | ha
  · rcases hb hpa with ⟨hcb, bb, hqb, hb⟩ | hb
    · exact .inl ⟨hca.append hcb, ba ++ bb, hqb, ha.append hb⟩
    · exact .inr (Panics.append_right ha rfl hb)
  · exact .inr ha.append_left

theorem Emits.cons {op : WriteOp} (ha : Emits overflowChecks ids [op] e e₁ P)
    (hb : ∀ {ba}, P ba → Emits overflowChecks (fieldIdStep ids op) ops e₁ e₂ fun bb => Q (ba ++ bb)) :
    Emits overflowChecks ids (op :: ops) e e₂ Q :=
  Emits.seq ha rfl hb

/-- A write that is not a field and leaves the transport as it is, then more writes. -/
theorem Emits.cons_silent {op : WriteOp} (hop : fieldIdPairs ids [op] = [])
    (ha : Appends overflowChecks [op] [] e e₁)
    (hb : Emits overflowChecks (fieldIdStep ids op) ops e₁ e₂ P) :
    Emits overflowChecks ids (op :: ops) e e₂ P :=
  Emits.seq (.inl ⟨.of_pairs_nil hop, [], rfl, ha⟩) rfl fun h => h ▸ hb

/-- A begin write with known bytes, a body, and end writes with known bytes, none of them a
field. -/
theorem Emits.bracket {op : WriteOp} {body post : List WriteOp} {bp bq : List UInt8}
    {e₃ : TCompactOutputProtocol} (hop : fieldIdPairs ids [op] = [])
    (hend : ∀ ids', fieldIdPairs ids' post = []) (hpre : Appends overflowChecks [op] bp e e₁)
    (hbody : Emits overflowChecks (fieldIdStep ids op) body e₁ e₂ P)
    (hpost : Appends overflowChecks post bq e₂ e₃) (hPQ : ∀ {bb}, P bb → Q (bp ++ bb ++ bq)) :
    Emits overflowChecks ids (op :: body ++ post) e e₃ Q := by
  rcases hbody with ⟨hc, bb, hb, hbody⟩ | hbody
  · exact .inl ⟨((IdsClose.of_pairs_nil hop).append hc).append (.of_pairs_nil (hend _)), _, hPQ hb,
      (hpre.append hbody).append hpost⟩
  · exact .inr (Panics.append_right hpre rfl hbody).append_left

end Runs

/-! ## What each write emits -/

variable (e : TCompactOutputProtocol)

/-- `write_field_header` when the `i16` subtraction does not overflow. -/
theorem writeFieldHeader_spec {overflowChecks : Bool} (c : UInt8) {id : BitVec 16}
    (h : ¬ (overflowChecks && !inI16 (id.toInt - e.lastWriteFieldId.toInt)) = true) :
    writeFieldHeader overflowChecks c id e =
      if (0 < (id - e.lastWriteFieldId).toInt && (id - e.lastWriteFieldId).toInt < 15) = true then
        .ok () { e with
          transport := e.transport ++ [shortHeader (id - e.lastWriteFieldId).toNat c],
          lastWriteFieldId := id }
      else
        .ok () { e with
          transport := e.transport ++ c :: encodeVarint (zigzag id.toInt), lastWriteFieldId := id } := by
  rw [writeFieldHeader, get_bind, subI16, if_neg h, pure_bind_apply]
  beta_reduce
  split
  · rfl
  · rw [← List.singleton_append, ← List.append_assoc]; rfl

/-- Every header the encoder writes without overflow is one of the format: short for a delta of
1 to 14, long otherwise. -/
theorem writeFieldHeader_ok {overflowChecks : Bool} (c : UInt8) {id : BitVec 16}
    (h : ¬ (overflowChecks && !inI16 (id.toInt - e.lastWriteFieldId.toInt)) = true) :
    ∃ hb, FieldHeader overflowChecks e.lastWriteFieldId id c hb ∧ ∀ t,
      writeFieldHeader overflowChecks c id { e with transport := t } =
        .ok () { e with transport := t ++ hb, lastWriteFieldId := id } := by
  have hid := id.isLt
  have hlast := e.lastWriteFieldId.isLt
  by_cases hs : (0 < (id - e.lastWriteFieldId).toInt && (id - e.lastWriteFieldId).toInt < 15) = true
  · refine ⟨[shortHeader (id - e.lastWriteFieldId).toNat c], ?_,
      fun t => by rw [writeFieldHeader_spec { e with transport := t } c h, if_pos hs]⟩
    have hδ := BitVec.toNat_sub id e.lastWriteFieldId
    simp only [Bool.and_eq_true, decide_eq_true_eq, BitVec.toInt_eq_toNat_cond] at hs
    have h0 : 0 < (id - e.lastWriteFieldId).toNat := by split at hs <;> omega
    have h15 : (id - e.lastWriteFieldId).toNat < 15 := by split at hs <;> omega
    clear hs
    refine .short h0 (by omega) ?_ fun hoc => ?_
    · apply BitVec.eq_of_toNat_eq
      simp only [BitVec.toNat_add, BitVec.toNat_ofNat]
      omega
    · subst hoc
      simp only [Bool.true_and, Bool.not_eq_true', Bool.not_eq_false, inI16, Bool.and_eq_true,
        decide_eq_true_eq, BitVec.toInt_eq_toNat_cond] at h ⊢
      split at h <;> split at h <;> split <;> omega
  · exact ⟨_, .long, fun t => by rw [writeFieldHeader_spec { e with transport := t } c h, if_neg hs]⟩

/-- `write_field_header` when the `i16` subtraction overflows in a checked build. -/
theorem writeFieldHeader_panic {overflowChecks : Bool} (c : UInt8) {id : BitVec 16}
    (h : (overflowChecks && !inI16 (id.toInt - e.lastWriteFieldId.toInt)) = true) :
    writeFieldHeader overflowChecks c id e = .error (.panic "attempt to subtract with overflow") e := by
  rw [writeFieldHeader, get_bind, subI16, if_pos h]; rfl

/-- The code sends a field 15 above the previous one to the long form, in every build: its test
is `field_delta < 15`, where the format allows deltas up to 15. The first field of a struct, an
`i8` with id 15, so gets the long header `[0x03, 0x1E]`, where the format's short header is
`[0xF3]`. -/
theorem compact_field_fifteen_long (overflowChecks : Bool) :
    (∀ (c : UInt8) (id : BitVec 16) (e : TCompactOutputProtocol),
      id.toInt = e.lastWriteFieldId.toInt + 15 →
      writeFieldHeader overflowChecks c id e = .ok () { e with
        transport := e.transport ++ c :: encodeVarint (zigzag id.toInt), lastWriteFieldId := id }) ∧
    runWrites (exec overflowChecks) [.structBegin, .fieldBegin ⟨none, .i08, some 15⟩] (new []) =
      .ok () ⟨15, [0], none, [0x03, 0x1E]⟩ := by
  refine ⟨fun c id e h => ?_, by cases overflowChecks <;> rfl⟩
  have hov : ¬ (overflowChecks && !inI16 (id.toInt - e.lastWriteFieldId.toInt)) = true := by
    simp [inI16, h]
  have hs : ¬ (0 < (id - e.lastWriteFieldId).toInt && (id - e.lastWriteFieldId).toInt < 15) = true := by
    have hid := id.isLt
    have hlast := e.lastWriteFieldId.isLt
    simp only [Bool.and_eq_true, decide_eq_true_eq, BitVec.toInt_eq_toNat_cond,
      BitVec.toNat_sub] at h ⊢
    split at h <;> split at h <;> split <;> omega
  rw [writeFieldHeader_spec _ c hov, if_neg hs]

/-- `write_uuid` writes the uuid as a byte string: the length `16` as a varint, then the bytes. -/
theorem writeUuid_framed (u : Uuid) (t : List UInt8) :
    writeUuid u { e with transport := t } =
      .ok () { e with transport := t ++ (encodeVarint 16 ++ u.bytes) } := by
  rw [writeUuid, writeBytes_spec, u.length_bytes, List.append_assoc]; rfl

/-- `write_uuid` writes seventeen bytes: the length prefix `0x10`, then the sixteen bytes of the
uuid; and the decoder, given sixteen bytes of a uuid that starts with `0x00`, reads an empty byte
string and refuses it. -/
theorem compact_uuid_length_prefixed (u : Uuid) :
    writeUuid u e = .ok () { e with transport := e.transport ++ 0x10 :: u.bytes } ∧
      TCompactInputProtocol.readUuid
          (TCompactInputProtocol.withConfig (List.replicate 16 0) .noLimits) =
        .error (protocolError .invalidData "invalid length: expected 16 bytes, found 0")
          (TCompactInputProtocol.withConfig (List.replicate 15 0) .noLimits) :=
  ⟨writeUuid_framed e u e.transport, rfl⟩

theorem writeBytes_framed {b : List UInt8} (hb : b.length < 2 ^ 32) (t : List UInt8) :
    writeBytes b { e with transport := t } =
      .ok () { e with transport := t ++ (encodeVarint b.length ++ b) } := by
  rw [writeBytes_spec, Nat.mod_eq_of_lt hb, List.append_assoc]

theorem writeListSetBegin_header {t : TType} {c : UInt8} (hc : collectionTypeToU8 t = .ok c)
    {n : Nat} (hn : n < 2 ^ 31) : ∃ hb, CollectionHeader c n hb ∧ ∀ e : TCompactOutputProtocol,
      writeListSetBegin t (BitVec.ofNat 32 n) e = .ok () { e with transport := e.transport ++ hb } := by
  by_cases h14 : n ≤ 14
  · exact ⟨_, .short h14, fun e => writeListSetBegin_short e hc h14⟩
  · exact ⟨_, .long, fun e => by
      rw [writeListSetBegin_long e hc (by omega) hn, List.append_assoc, List.singleton_append]⟩

theorem writeMapBegin_header {k v : TType} {ck cv : UInt8} (hk : collectionTypeToU8 k = .ok ck)
    (hv : collectionTypeToU8 v = .ok cv) {n : Nat} (hn : n < 2 ^ 31) :
    ∃ hb, MapHeader ck cv n hb ∧ ∀ e : TCompactOutputProtocol,
      writeMapBegin ⟨some k, some v, BitVec.ofNat 32 n⟩ e =
        .ok () { e with transport := e.transport ++ hb } := by
  rcases Nat.eq_zero_or_pos n with rfl | h0
  · exact ⟨_, .empty, fun e => writeMapBegin_empty e _ _⟩
  · exact ⟨_, .nonempty h0, fun e => by rw [writeMapBegin_spec e hk hv h0 hn, List.append_assoc]⟩

theorem writeMessageBegin_framed (m : TMessageIdentifier) (hname : m.name.bytes.length < 2 ^ 32)
    (t : List UInt8) :
    writeMessageBegin m { e with transport := t } = .ok () { e with
      transport := t ++ ([compactProtocolId, (m.messageType.toU8 <<< 5) ||| compactVersion] ++
        encodeVarint m.sequenceNumber.toNat ++ encodeVarint m.name.bytes.length ++ m.name.bytes) } := by
  rw [writeMessageBegin_spec, Nat.mod_eq_of_lt hname]
  simp only [List.append_assoc, List.cons_append, List.singleton_append, List.nil_append]

section Fields

variable {overflowChecks : Bool}

/-- The header of a field of any type but `Bool`: a panic means the field is too far from the
last id. -/
theorem emits_fieldBegin (ids : List (BitVec 16)) (name : Option String) {t : TType} {c : UInt8}
    (ht : typeToU8 t = .ok c) (id : BitVec 16) :
    Emits overflowChecks (e.lastWriteFieldId :: ids) [.fieldBegin ⟨name, t, some id⟩] e
      { e with lastWriteFieldId := id } (FieldHeader overflowChecks e.lastWriteFieldId id c) := by
  by_cases hov : (overflowChecks && !inI16 (id.toInt - e.lastWriteFieldId.toInt)) = true
  · have ⟨hoc, hfar⟩ : overflowChecks = true ∧ inI16 (id.toInt - e.lastWriteFieldId.toInt) = false := by
      simpa using hov
    refine .inr ⟨hoc, ⟨(e.lastWriteFieldId, id), List.mem_singleton_self _, hfar⟩, fun s =>
      ⟨{ e with transport := s }, runWrites_singleton_error ?_⟩⟩
    exact (writeFieldBegin_typed _ overflowChecks ht name id).trans (writeFieldHeader_panic _ c hov)
  · obtain ⟨hb, hh, hw⟩ := writeFieldHeader_ok e c hov
    refine .inl ⟨fun hoc p hp => ?_, hb, hh, Appends.single fun s =>
      (writeFieldBegin_typed _ overflowChecks ht name id).trans (hw s)⟩
    rw [List.mem_singleton.mp hp]
    simpa [hoc] using hov

/-- A `Bool` field: `write_field_begin` holds the header back, and `write_bool` writes it with the
value as its type nibble, from the same last id. -/
theorem emits_boolField (ids : List (BitVec 16)) (hp : e.pendingWriteBoolFieldIdentifier = none)
    (name : Option String) (b : Bool) (id : BitVec 16) :
    Emits overflowChecks (e.lastWriteFieldId :: ids) [.fieldBegin ⟨name, .bool, some id⟩, .bool b] e
      { e with lastWriteFieldId := id }
      (FieldHeader overflowChecks e.lastWriteFieldId id (if b then 1 else 2)) := by
  obtain ⟨l, st, p, tr⟩ := e
  simp only at hp
  subst hp
  have hrun : ∀ s, runWrites (exec overflowChecks) [.fieldBegin ⟨name, .bool, some id⟩, .bool b]
      ⟨l, st, none, s⟩ =
        runWrites (exec overflowChecks) [.bool b] ⟨l, st, some ⟨name, .bool, some id⟩, s⟩ := fun s => by
    have h : exec overflowChecks (.fieldBegin ⟨name, .bool, some id⟩) ⟨l, st, none, s⟩ = _ :=
      writeFieldBegin_bool ⟨l, st, none, s⟩ overflowChecks rfl name id
    exact runWrites_cons_ok h
  have hbool : ∀ s, exec overflowChecks (.bool b) ⟨l, st, some ⟨name, .bool, some id⟩, s⟩ =
      writeFieldHeader overflowChecks (if b then 1 else 2) id ⟨l, st, none, s⟩ :=
    fun s => writeBool_pending _ overflowChecks rfl rfl b
  by_cases hov : (overflowChecks && !inI16 (id.toInt - l.toInt)) = true
  · have ⟨hoc, hfar⟩ : overflowChecks = true ∧ inI16 (id.toInt - l.toInt) = false := by
      simpa using hov
    refine .inr ⟨hoc, ⟨(l, id), List.mem_singleton_self _, hfar⟩, fun s => ⟨⟨l, st, none, s⟩, ?_⟩⟩
    rw [hrun]
    exact runWrites_singleton_error ((hbool s).trans (writeFieldHeader_panic _ _ hov))
  · obtain ⟨hb, hh, hw⟩ := writeFieldHeader_ok ⟨l, st, none, tr⟩ (if b then 1 else 2) hov
    refine .inl ⟨fun hoc p hp => ?_, hb, hh, fun s => by
      rw [hrun]; exact runWrites_singleton.mpr ((hbool s).trans (hw s))⟩
    rw [List.mem_singleton.mp hp]
    simpa [hoc] using hov

theorem appends_fieldEnd (hp : e.pendingWriteBoolFieldIdentifier = none) :
    Appends overflowChecks [.fieldEnd] [] e e :=
  Appends.silent fun _ => assertNoPendingBoolWrite_ok _ hp

theorem appends_structBegin :
    Appends overflowChecks [.structBegin] [] e { e with
      writeFieldIdStack := e.lastWriteFieldId :: e.writeFieldIdStack, lastWriteFieldId := 0 } :=
  Appends.silent fun _ => rfl

/-- The end of a struct: the stop byte, then the enclosing struct's last id comes back. -/
theorem appends_structEnd (hp : e.pendingWriteBoolFieldIdentifier = none) (last : BitVec 16) :
    Appends overflowChecks [.fieldStop, .structEnd] [0] { e with
      writeFieldIdStack := e.lastWriteFieldId :: e.writeFieldIdStack, lastWriteFieldId := last } e :=
  fun t => by
    have h : exec overflowChecks .fieldStop { e with
        writeFieldIdStack := e.lastWriteFieldId :: e.writeFieldIdStack, lastWriteFieldId := last,
        transport := t } = _ := writeFieldStop_spec _ hp
    rw [runWrites_cons_ok h]
    exact runWrites_singleton.mpr (writeStructEnd_spec { e with
      writeFieldIdStack := e.lastWriteFieldId :: e.writeFieldIdStack, lastWriteFieldId := last,
      transport := t ++ [0] } hp rfl)

end Fields

/-! ## The encoder refines the format -/

/-- What the encoder does on the writes `ops` of shape `sh`, from any state with no `Bool` field
held back and any field ids: it emits an encoding of `ops` and returns to that state (the fields
of a struct leave another last id), or it panics on two field ids of one struct too far apart. -/
def Refines (overflowChecks : Bool) : Shape → List WriteOp → Prop
  | .fields prev, ops => ∀ (e : TCompactOutputProtocol) ids, e.pendingWriteBoolFieldIdentifier = none →
      e.lastWriteFieldId = prev → ∃ last, Emits overflowChecks (prev :: ids) ops e
        { e with lastWriteFieldId := last } (Enc overflowChecks (.fields prev) ops)
  | sh, ops => ∀ (e : TCompactOutputProtocol) ids, e.pendingWriteBoolFieldIdentifier = none →
      Emits overflowChecks ids ops e e (Enc overflowChecks sh ops)

theorem refines_of_wf {overflowChecks : Bool} {sh : Shape} {ops : List WriteOp}
    (h : Wf compactLimits sh ops) : Refines overflowChecks sh ops := by
  induction h with
  | bool b =>
    exact fun e _ hp => .inl ⟨.of_pairs_nil rfl, _, .bool b, Appends.single fun t =>
      writeBool_plain { e with transport := t } _ hp b⟩
  | i8 i => exact fun e _ _ => .inl ⟨.of_pairs_nil rfl, _, .i8 i, Appends.single fun _ => rfl⟩
  | i16 i => exact fun e _ _ => .inl ⟨.of_pairs_nil rfl, _, .i16 i, Appends.single fun _ => rfl⟩
  | i32 i => exact fun e _ _ => .inl ⟨.of_pairs_nil rfl, _, .i32 i, Appends.single fun _ => rfl⟩
  | i64 i => exact fun e _ _ => .inl ⟨.of_pairs_nil rfl, _, .i64 i, Appends.single fun _ => rfl⟩
  | double x =>
    exact fun e _ _ => .inl ⟨.of_pairs_nil rfl, _, .double x, Appends.single fun _ => rfl⟩
  | string s h =>
    exact fun e _ _ => .inl ⟨.of_pairs_nil rfl, _, .string s (of_decide_eq_true h),
      Appends.single (writeBytes_framed e (of_decide_eq_true h))⟩
  | bytes b h =>
    exact fun e _ _ => .inl ⟨.of_pairs_nil rfl, _, .bytes b (of_decide_eq_true h),
      Appends.single (writeBytes_framed e (of_decide_eq_true h))⟩
  | uuid u =>
    exact fun e _ _ => .inl ⟨.of_pairs_nil rfl, _, .uuid u, Appends.single (writeUuid_framed e u)⟩
  | void => exact fun e _ _ => Emits.nil .void
  | struct _ ih =>
    intro e ids hp
    obtain ⟨last, hb⟩ := ih { e with
      writeFieldIdStack := e.lastWriteFieldId :: e.writeFieldIdStack, lastWriteFieldId := 0 } ids hp rfl
    exact Emits.bracket (by rfl) (fun _ => by rfl) (appends_structBegin e) hb
      (appends_structEnd e hp last) fun h => .struct h
  | list ht hn _ ih =>
    intro e ids hp
    obtain ⟨c, hc⟩ := collectionTypeToU8_of_typeOk ht
    obtain ⟨hct, hc16⟩ := collectionU8ToType_collectionTypeToU8 hc
    obtain ⟨hb, hH, hw⟩ := writeListSetBegin_header hc hn
    exact Emits.bracket (by rfl) (fun _ => by rfl) (Appends.single fun _ => hw _) (ih e ids hp)
      (Appends.silent fun _ => rfl)
      fun h => by rw [List.append_nil]; exact .list hct hc16 hn hH h
  | set ht hn _ ih =>
    intro e ids hp
    obtain ⟨c, hc⟩ := collectionTypeToU8_of_typeOk ht
    obtain ⟨hct, hc16⟩ := collectionU8ToType_collectionTypeToU8 hc
    obtain ⟨hb, hH, hw⟩ := writeListSetBegin_header hc hn
    exact Emits.bracket (by rfl) (fun _ => by rfl) (Appends.single fun _ => hw _) (ih e ids hp)
      (Appends.silent fun _ => rfl)
      fun h => by rw [List.append_nil]; exact .set hct hc16 hn hH h
  | map hk hv hn _ ih =>
    intro e ids hp
    obtain ⟨ck, hck⟩ := collectionTypeToU8_of_typeOk hk
    obtain ⟨cv, hcv⟩ := collectionTypeToU8_of_typeOk hv
    obtain ⟨hk', hck16⟩ := collectionU8ToType_collectionTypeToU8 hck
    obtain ⟨hv', hcv16⟩ := collectionU8ToType_collectionTypeToU8 hcv
    obtain ⟨hb, hH, hw⟩ := writeMapBegin_header hck hcv hn
    exact Emits.bracket (by rfl) (fun _ => by rfl) (Appends.single fun _ => hw _) (ih e ids hp)
      (Appends.silent fun _ => rfl)
      fun h => by rw [List.append_nil]; exact .map hk' hv' hck16 hcv16 hn hH h
  | fieldsNil => exact fun e _ _ _ => ⟨e.lastWriteFieldId, Emits.nil .fieldsNil⟩
  | @fieldsCons prev t id v r name ht hs hv _ ihv ihr =>
    intro e ids hp hl
    subst hl
    obtain ⟨last, hr⟩ := ihr { e with lastWriteFieldId := id } ids hp rfl
    refine ⟨last, ?_⟩
    by_cases hbool : t = .bool
    · subst hbool
      cases hv with
      | bool b =>
        exact Emits.seq (emits_boolField e ids hp name b id) rfl fun hh =>
          Emits.cons_silent (by rfl) (appends_fieldEnd _ hp)
            (hr.mono fun hrE => .fieldsBool name hh hrE)
    · obtain ⟨c, hc⟩ := typeToU8_of_typeOk ht hbool
      obtain ⟨hu, hc16⟩ := u8ToType_typeToU8 hc
      exact Emits.cons (emits_fieldBegin e ids name hc id) fun hh =>
        Emits.seq (ihv _ (id :: ids) hp) (keepsFieldIds_of_wf hv (id :: ids)) fun hvE =>
          Emits.cons_silent (by rfl) (appends_fieldEnd _ hp) (hr.mono fun hrE => by
            simp only [← List.append_assoc]; exact .fieldsCons name hu hs hc16 hh hvE hrE)
  | elemsNil => exact fun e _ _ => Emits.nil .elemsNil
  | elemsCons hv _ ihv ihr =>
    exact fun e ids hp => Emits.seq (ihv e ids hp) (keepsFieldIds_of_wf hv ids) fun hvE =>
      (ihr e ids hp).mono fun hr => .elemsCons hvE hr
  | entriesNil => exact fun e _ _ => Emits.nil .entriesNil
  | @entriesCons k v n kv vv r hk hv _ ihk ihv ihr =>
    intro e ids hp
    have hkv : Emits overflowChecks ids (kv ++ vv) e e fun b => ∃ kb vb,
        Enc overflowChecks (.value k) kv kb ∧ Enc overflowChecks (.value v) vv vb ∧ b = kb ++ vb :=
      Emits.seq (ihk e ids hp) (keepsFieldIds_of_wf hk ids) fun hkE =>
        (ihv e ids hp).mono fun hvE => ⟨_, _, hkE, hvE, rfl⟩
    refine Emits.seq hkv ?_ fun ⟨_, _, hkE, hvE, h⟩ => (ihr e ids hp).mono fun hr => by
      subst h; exact .entriesCons hkE hvE hr
    rw [List.foldl_append, keepsFieldIds_of_wf hk ids, keepsFieldIds_of_wf hv ids]
  | valuesNil => exact fun e _ _ => Emits.nil .valuesNil
  | valuesCons _ hv _ ihv ihr =>
    exact fun e ids hp => Emits.seq (ihv e ids hp) (keepsFieldIds_of_wf hv ids) fun hvE =>
      (ihr e ids hp).mono fun hr => .valuesCons hvE hr
  | message m hname _ ih =>
    intro e ids hp
    exact Emits.bracket (by rfl) (fun _ => by rfl)
      (Appends.single (writeMessageBegin_framed e m (of_decide_eq_true hname)))
      (ih e ids hp) (Appends.silent fun _ => assertNoPendingBoolWrite_ok _ hp)
      fun h => by rw [List.append_nil]; exact .message m (of_decide_eq_true hname) h
  | streamNil => exact fun e _ _ => Emits.nil .streamNil
  | streamCons hm _ ihm ihr =>
    exact fun e ids hp => Emits.seq (ihm e ids hp) (keepsFieldIds_of_wf hm ids) fun hmE =>
      (ihr e ids hp).mono fun hr => .streamCons hmE hr

/-! ## The round trip -/

/-- The compact codec's round trip over whole streams. From any encoder with no `Bool` field held
back, a well-formed stream is either written, leaving the encoder as it was but for the bytes
appended, and read back by every decoder without limits, with no `Bool` value held back and last
field id `0`: the reads return what was written and consume exactly those bytes. Or it is not,
and then the build is checked, the id of some field of the stream minus the id before it in its
struct does not fit in `i16`, and the encoder panics on that subtraction. A checked build writes
the stream exactly when every such difference fits. -/
theorem compact_roundTrip {ops : List WriteOp} (h : Wf compactLimits .stream ops)
    (overflowChecks : Bool) (e : TCompactOutputProtocol)
    (he : e.pendingWriteBoolFieldIdentifier = none) :
    ((overflowChecks = true → ∀ p ∈ fieldIdPairs [] ops, inI16 (p.2.toInt - p.1.toInt) = true) ∧
      ∃ bytes, runWrites (exec overflowChecks) ops e = .ok () { e with transport := e.transport ++ bytes } ∧
        ∀ d : TCompactInputProtocol, d.config = .noLimits → d.pendingReadBoolValue = none →
          d.lastReadFieldId = 0 → TCompactInputProtocol.ReadsBack overflowChecks ops bytes d d) ∨
    (overflowChecks = true ∧ (∃ p ∈ fieldIdPairs [] ops, inI16 (p.2.toInt - p.1.toInt) = false) ∧
      ∃ s, runWrites (exec overflowChecks) ops e = .error (.panic "attempt to subtract with overflow") s) := by
  rcases refines_of_wf h e [] he with ⟨hc, bytes, hE, ha⟩ | ⟨hoc, hfar, hp⟩
  · exact .inl ⟨hc, bytes, ha e.transport, fun d hc hp hl =>
      TCompactInputProtocol.sound_of_enc hE d ⟨hc, hp⟩ hl⟩
  · exact .inr ⟨hoc, hfar, hp e.transport⟩

/-- A call whose argument struct has a `Bool` field with a short header and an `i32` field with
a long one, in a checked build: the ids `1` and `20` are close, so it is written and read back. -/
theorem compact_roundTrip_ping : ∃ bytes,
    runWrites (exec true) [.messageBegin ⟨⟨[0x70, 0x69, 0x6E, 0x67], rfl⟩, .call, 1⟩,
        .structBegin, .fieldBegin ⟨none, .bool, some 1⟩, .bool true, .fieldEnd,
        .fieldBegin ⟨none, .i32, some 20⟩, .i32 7, .fieldEnd, .fieldStop, .structEnd,
        .messageEnd] (new []) = .ok () (new bytes) ∧
      TCompactInputProtocol.ReadsBack true [.messageBegin ⟨⟨[0x70, 0x69, 0x6E, 0x67], rfl⟩, .call, 1⟩,
        .structBegin, .fieldBegin ⟨none, .bool, some 1⟩, .bool true, .fieldEnd,
        .fieldBegin ⟨none, .i32, some 20⟩, .i32 7, .fieldEnd, .fieldStop, .structEnd,
        .messageEnd] bytes (TCompactInputProtocol.withConfig [] .noLimits)
        (TCompactInputProtocol.withConfig [] .noLimits) := by
  rcases compact_roundTrip (.streamCons (.message ⟨⟨[0x70, 0x69, 0x6E, 0x67], rfl⟩, .call, 1⟩ (by decide) (.valuesCons (by decide)
      (.struct (.fieldsCons none (by decide) (by decide) (.bool true)
        (.fieldsCons none (by decide) (by decide) (.i32 7) .fieldsNil))) .valuesNil)) .streamNil)
      true (new []) rfl with ⟨-, bytes, hw, hr⟩ | ⟨-, ⟨p, hp, hfar⟩, -⟩
  · exact ⟨bytes, hw, hr _ rfl rfl rfl⟩
  · have hclose : ∀ q ∈ fieldIdPairs [] [.messageBegin ⟨⟨[0x70, 0x69, 0x6E, 0x67], rfl⟩, .call, 1⟩,
        .structBegin, .fieldBegin ⟨none, .bool, some 1⟩, .bool true, .fieldEnd,
        .fieldBegin ⟨none, .i32, some 20⟩, .i32 7, .fieldEnd, .fieldStop, .structEnd,
        .messageEnd], inI16 (q.2.toInt - q.1.toInt) = true := by decide
    rw [hclose p hp] at hfar
    cases hfar

/-- A message whose one value is a byte string of `2 ^ 32` bytes. Its length is cast `as u32` to
`0`, so the string is written after the length prefix `[0]`; the decoder reads an empty string and
stops at the string's first byte. -/
theorem compact_long_bytes_read_empty :
    runWrites (exec false) [.messageBegin ⟨⟨[], rfl⟩, .call, 0⟩,
        .bytes (List.replicate (2 ^ 32) 0), .messageEnd] (new []) =
      .ok () (new ([0x82, 0x21, 0, 0, 0] ++ List.replicate (2 ^ 32) 0)) ∧
    runReads (TCompactInputProtocol.exec false) [.messageBegin, .bytes, .messageEnd]
        (TCompactInputProtocol.withConfig ([0x82, 0x21, 0, 0, 0] ++ List.replicate (2 ^ 32) 0)
          .noLimits) =
      .ok [.message ⟨⟨[], rfl⟩, .call, 0⟩, .bytes [], .unit]
        (TCompactInputProtocol.withConfig (List.replicate (2 ^ 32) 0) .noLimits) ∧
    ReadValue.bytes [] ≠ (WriteOp.bytes (List.replicate (2 ^ 32) 0)).readBack none false := by
  refine ⟨?_, ?_, fun h => ?_⟩
  · have h1 : exec false (.messageBegin ⟨⟨[], rfl⟩, .call, 0⟩) (new []) =
        .ok () (new [0x82, 0x21, 0, 0]) := rfl
    have h2 : exec false (.bytes (List.replicate (2 ^ 32) 0)) (new [0x82, 0x21, 0, 0]) =
        .ok () (new ([0x82, 0x21, 0, 0, 0] ++ List.replicate (2 ^ 32) 0)) := by
      show writeBytes _ _ = _
      rw [writeBytes_spec, List.length_replicate, Nat.mod_self]
      rfl
    rw [runWrites_cons_ok h1, runWrites_cons_ok h2]
    rfl
  · -- the list is never unfolded: each step rewrites it into the shape its reader expects
    have hv0 : encodeVarint 0 = [0] := rfl
    have hin : ([0x82, 0x21, 0, 0, 0] : List UInt8) ++ List.replicate (2 ^ 32) (0 : UInt8) =
        [compactProtocolId, (TMessageType.call.toU8 <<< 5) ||| compactVersion] ++ encodeVarint 0 ++
          encodeVarint 0 ++ [] ++ ((0 : UInt8) :: List.replicate (2 ^ 32) 0) := by
      simp only [List.append_assoc, List.cons_append, List.nil_append, List.append_nil, hv0]
      rfl
    have hrest : (0 : UInt8) :: List.replicate (2 ^ 32) 0 =
        encodeVarint ([] : List UInt8).length ++ [] ++ List.replicate (2 ^ 32) 0 := by
      simp only [List.length_nil, hv0, List.append_nil, List.singleton_append]
    have h1 : TCompactInputProtocol.exec false .messageBegin
        (TCompactInputProtocol.withConfig ([0x82, 0x21, 0, 0, 0] ++ List.replicate (2 ^ 32) 0)
          .noLimits) = .ok (.message ⟨⟨[], rfl⟩, .call, 0⟩)
        (TCompactInputProtocol.withConfig (0 :: List.replicate (2 ^ 32) 0) .noLimits) := by
      rw [hin]
      exact bind_of_ok (TCompactInputProtocol.readMessageBegin_spec
        (TCompactInputProtocol.withConfig [] .noLimits) _ ⟨⟨[], rfl⟩, .call, 0⟩ (by decide)
        (TCompactInputProtocol.Ready.stringFits ⟨rfl, rfl⟩ _))
    have h2 : TCompactInputProtocol.exec false .bytes
        (TCompactInputProtocol.withConfig (0 :: List.replicate (2 ^ 32) 0) .noLimits) =
        .ok (.bytes []) (TCompactInputProtocol.withConfig (List.replicate (2 ^ 32) 0) .noLimits) := by
      rw [hrest]
      exact bind_of_ok (TCompactInputProtocol.readBytes_spec
        (TCompactInputProtocol.withConfig [] .noLimits) _ [] (by decide)
        (TCompactInputProtocol.Ready.stringFits ⟨rfl, rfl⟩ _))
    exact runReads_cons_ok h1 (runReads_cons_ok h2 (runReads_singleton rfl))
  · have hlen := congrArg List.length (ReadValue.bytes.inj h)
    rw [List.length_nil, List.length_replicate] at hlen
    exact absurd hlen (by decide)

end TCompactOutputProtocol

end ThriftProtocol
