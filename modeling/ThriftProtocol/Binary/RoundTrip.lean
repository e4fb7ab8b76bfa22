import ThriftProtocol.Binary

/-!
# Round trip of the binary codec

What a `TBinaryInputProtocol` reads from the bytes a `TBinaryOutputProtocol` wrote, over every
well-formed stream.

* `ReadsBack strict ops`: the writes `ops`, made by an encoder with flag `strict`, append bytes
  that do not depend on what was written before, and every decoder that reads such an encoder
  (`Reads`) gets each written value back from those bytes and stops right after them.
* `readsBack_nil`, `readsBack_append`, `readsBack_singleton`: the property composes along a
  stream, so each operation is proved on its own from the spec lemmas of `Binary`.
* `readsBack_struct`: a struct, whose reads move the recursion depth up and back down.
* `readsBack_of_wf`: every well-formed stream reads back, by induction on `Wf`.

Decoders of both flags tell a version word from a name length by the sign bit of the first
byte, so a non-strict decoder reads both kinds of header, while a strict decoder refuses the
non-strict kind (`readMessageBegin_badVersion`).
-/

namespace ThriftProtocol

/-- What the binary codec carries: every wire type but `Utf7`, whose tag `0x0B` reads back as
`String`, and byte strings whose length fits the `i32` prefix. -/
def binaryLimits : StreamLimits := ⟨fun t => t != .utf7, fun n => decide (n < 2 ^ 31)⟩

namespace TBinaryOutputProtocol

/-- A decoder that reads what an encoder with flag `strict` writes: it has no limits, and it is
strict only if the encoder is. -/
structure Reads (strict : Bool) (d : TBinaryInputProtocol) : Prop where
  config_eq : d.config = .noLimits
  strict_imp : d.strict = true → strict = true

/-- The writes `ops` append the same bytes `out` to any transport, and every decoder that reads
the encoder, fed `out` and then anything, reads back each written value and leaves the rest. -/
def ReadsBack (strict : Bool) (ops : List WriteOp) : Prop :=
  ∃ out : List UInt8,
    (∀ transport, runWrites exec ops ⟨strict, transport⟩ = .ok () ⟨strict, transport ++ out⟩) ∧
    ∀ d, Reads strict d → ∀ (overflowChecks : Bool) (rest : List UInt8),
      runReads (TBinaryInputProtocol.exec overflowChecks) (ops.map WriteOp.toRead)
          { d with transport := out ++ rest } =
        .ok (ops.map (WriteOp.readBack (some 0) true)) { d with transport := rest }

variable {strict : Bool}

theorem Reads.stringFits {d : TBinaryInputProtocol} (hd : Reads strict d) (n : Nat) :
    d.config.StringFits n := by
  intro m hm; simp [hd.config_eq, TConfiguration.noLimits] at hm

theorem Reads.depthRoom {d : TBinaryInputProtocol} (hd : Reads strict d) : d.DepthRoom := by
  intro limit hl; simp [hd.config_eq, TConfiguration.noLimits] at hl

theorem readsBack_nil : ReadsBack strict [] :=
  ⟨[], fun _ => by simp, fun _ _ _ _ => by simp⟩

theorem readsBack_append {a b : List WriteOp} (ha : ReadsBack strict a)
    (hb : ReadsBack strict b) : ReadsBack strict (a ++ b) := by
  obtain ⟨oa, wa, ra⟩ := ha
  obtain ⟨ob, wb, rb⟩ := hb
  refine ⟨oa ++ ob, fun t => ?_, fun d hd oc rest => ?_⟩
  · rw [← List.append_assoc]; exact runWrites_append_ok (wa t) (wb _)
  · rw [List.map_append, List.map_append, List.append_assoc]
    exact runReads_append_ok (ra d hd oc _) (rb d hd oc rest)

/-- One operation reads back if its write appends `out` and its read takes exactly `out`. -/
theorem readsBack_singleton {op : WriteOp} (out : List UInt8)
    (hw : ∀ transport, exec op ⟨strict, transport⟩ = .ok () ⟨strict, transport ++ out⟩)
    (hr : ∀ d, Reads strict d → ∀ overflowChecks rest,
      TBinaryInputProtocol.exec overflowChecks op.toRead { d with transport := out ++ rest } =
        .ok (op.readBack (some 0) true) { d with transport := rest }) :
    ReadsBack strict [op] :=
  ⟨out, fun t => runWrites_singleton.mpr (hw t),
    fun d hd oc rest => runReads_singleton (hr d hd oc rest)⟩

/-- A write that touches neither transport reads back. -/
theorem readsBack_silent (op : WriteOp) (hw : exec op = pure ())
    (hr : ∀ overflowChecks, TBinaryInputProtocol.exec overflowChecks op.toRead = pure .unit)
    (hv : op.readBack (some 0) true = .unit) : ReadsBack strict [op] :=
  readsBack_singleton [] (fun t => by rw [hw, List.append_nil]; rfl)
    (fun d _ oc rest => by rw [hr, hv]; rfl)

/-! ## Values and headers -/

theorem readsBack_bytes (b : List UInt8) (hb : b.length < 2 ^ 31) :
    ReadsBack strict [.bytes b] :=
  readsBack_singleton (beBytes 4 b.length ++ b)
    (fun t => by rw [exec, writeBytes_spec, (length_i32 hb).2,
      List.append_assoc])
    (fun d hd _ rest =>
      bind_of_ok (TBinaryInputProtocol.readBytes_spec d rest b hb (hd.stringFits _)))

theorem readsBack_string (s : Utf8String) (hb : s.bytes.length < 2 ^ 31) :
    ReadsBack strict [.string s] :=
  readsBack_singleton (beBytes 4 s.bytes.length ++ s.bytes)
    (fun t => by rw [exec, writeString, writeBytes_spec,
      (length_i32 hb).2, List.append_assoc])
    (fun d hd _ rest =>
      bind_of_ok (TBinaryInputProtocol.readString_spec d rest s hb (hd.stringFits _)))

theorem readsBack_fieldBegin (name : Option String) {t : TType} (hs : t ≠ .stop)
    (hu : t ≠ .utf7) (id : BitVec 16) : ReadsBack strict [.fieldBegin ⟨name, t, some id⟩] :=
  readsBack_singleton (fieldTypeToU8 t :: beBytes 2 id.toNat)
    (fun tr => by rw [exec, writeFieldBegin_spec, List.append_assoc]; rfl)
    (fun d _ _ rest => bind_of_ok (TBinaryInputProtocol.readFieldBegin_spec d rest hs hu id))

theorem readsBack_listBegin {t : TType} (hu : t ≠ .utf7) {n : Nat} (hn : n < 2 ^ 31) :
    ReadsBack strict [.listBegin ⟨t, BitVec.ofNat 32 n⟩] :=
  readsBack_singleton (fieldTypeToU8 t :: beBytes 4 (BitVec.ofNat 32 n).toNat)
    (fun _ => by rw [exec, writeListBegin_spec]; simp)
    (fun d hd _ rest => bind_of_ok (TBinaryInputProtocol.readListBegin_spec d rest hu _
      (by rw [hd.config_eq]; exact checkContainerSize_noLimits (length_i32 hn).1 _)))

theorem readsBack_setBegin {t : TType} (hu : t ≠ .utf7) {n : Nat} (hn : n < 2 ^ 31) :
    ReadsBack strict [.setBegin ⟨t, BitVec.ofNat 32 n⟩] :=
  readsBack_singleton (fieldTypeToU8 t :: beBytes 4 (BitVec.ofNat 32 n).toNat)
    (fun _ => by rw [exec, writeSetBegin_spec]; simp)
    (fun d hd _ rest => bind_of_ok (TBinaryInputProtocol.readSetBegin_spec d rest hu _
      (by rw [hd.config_eq]; exact checkContainerSize_noLimits (length_i32 hn).1 _)))

theorem readsBack_mapBegin {k v : TType} (hk : k ≠ .utf7) (hv : v ≠ .utf7) {n : Nat}
    (hn : n < 2 ^ 31) : ReadsBack strict [.mapBegin ⟨some k, some v, BitVec.ofNat 32 n⟩] :=
  readsBack_singleton (fieldTypeToU8 k :: fieldTypeToU8 v :: beBytes 4 (BitVec.ofNat 32 n).toNat)
    (fun tr => by rw [exec, writeMapBegin_spec]; simp)
    (fun d hd _ rest => bind_of_ok (TBinaryInputProtocol.readMapBegin_spec d rest hk hv _
      (by rw [hd.config_eq]; exact checkContainerSize_noLimits (length_i32 hn).1 _)))

theorem readsBack_messageBegin (m : TMessageIdentifier) (hb : m.name.bytes.length < 2 ^ 31) :
    ReadsBack strict [.messageBegin m] := by
  cases strict
  case true =>
    exact readsBack_singleton ([0x80, 0x01, 0x00, m.messageType.toU8] ++
        beBytes 4 (BitVec.ofNat 32 m.name.bytes.length).toNat ++ m.name.bytes ++
        beBytes 4 m.sequenceNumber.toNat)
      (fun t => by rw [exec, writeMessageBegin_strict _ m rfl]; simp)
      (fun d hd _ rest => bind_of_ok
        (TBinaryInputProtocol.readMessageBegin_strictHeader d rest m hb (hd.stringFits _)))
  case false =>
    exact readsBack_singleton (beBytes 4 (BitVec.ofNat 32 m.name.bytes.length).toNat ++
        m.name.bytes ++ [m.messageType.toU8] ++ beBytes 4 m.sequenceNumber.toNat)
      (fun t => by rw [exec, writeMessageBegin_nonStrict _ m rfl]; simp)
      (fun d hd _ rest => bind_of_ok (TBinaryInputProtocol.readMessageBegin_nonStrictHeader d rest m
        (Bool.eq_false_iff.mpr fun h => Bool.false_ne_true (hd.strict_imp h)) hb))

/-! ## Structs -/

/-- A struct body read one level deeper reads back, and the struct as a whole leaves the depth
where it found it. -/
theorem readsBack_struct {body : List WriteOp} (h : ReadsBack strict body) :
    ReadsBack strict (.structBegin :: body ++ [.fieldStop, .structEnd]) := by
  obtain ⟨out, hw, hr⟩ := h
  refine ⟨out ++ [0], fun t => ?_, fun d hd oc rest => ?_⟩
  · rw [← List.append_assoc, List.cons_append, runWrites_cons_ok rfl]
    exact runWrites_append_ok (hw t) rfl
  · let d₁ : TBinaryInputProtocol := { d with recursionDepth := d.recursionDepth + 1 }
    have hbegin : TBinaryInputProtocol.exec oc .structBegin
        { d with transport := out ++ ([0] ++ rest) } =
        .ok .unit { d₁ with transport := out ++ ([0] ++ rest) } :=
      bind_of_ok (TBinaryInputProtocol.readStructBegin_spec _ hd.depthRoom)
    have hstop : runReads (TBinaryInputProtocol.exec oc) [.fieldBegin, .structEnd]
        { d₁ with transport := [0] ++ rest } =
        .ok [.field ⟨none, .stop, some 0⟩, .unit] { d with transport := rest } :=
      runReads_cons_ok (bind_of_ok (TBinaryInputProtocol.readFieldBegin_stop d₁ rest))
        (runReads_singleton (bind_of_ok
          (TBinaryInputProtocol.readStructEnd_spec _ oc (Nat.succ_pos d.recursionDepth))))
    rw [List.append_assoc]
    simp only [List.cons_append, List.map_cons, List.map_append]
    exact runReads_cons_ok hbegin (runReads_append_ok (hr d₁ ⟨hd.1, hd.2⟩ oc _) hstop)

/-! ## Whole streams -/

theorem readsBack_of_wf {sh : Shape} {ops : List WriteOp} (h : Wf binaryLimits sh ops) :
    ReadsBack strict ops := by
  induction h with
  | bool b =>
    exact readsBack_singleton [⟨if b then 1 else 0⟩] (fun _ => writeBool_spec _ b)
      (fun d _ _ rest => bind_of_ok (TBinaryInputProtocol.readBool_spec d rest b))
  | i8 i =>
    exact readsBack_singleton [⟨i⟩] (fun _ => rfl)
      (fun d _ _ rest => bind_of_ok (TBinaryInputProtocol.readI8_spec d rest i))
  | i16 i =>
    exact readsBack_singleton (beBytes 2 i.toNat) (fun _ => rfl)
      (fun d _ _ rest => bind_of_ok (TBinaryInputProtocol.readI16_spec d rest i))
  | i32 i =>
    exact readsBack_singleton (beBytes 4 i.toNat) (fun _ => rfl)
      (fun d _ _ rest => bind_of_ok (TBinaryInputProtocol.readI32_spec d rest i))
  | i64 i =>
    exact readsBack_singleton (beBytes 8 i.toNat) (fun _ => rfl)
      (fun d _ _ rest => bind_of_ok (TBinaryInputProtocol.readI64_spec d rest i))
  | double x =>
    exact readsBack_singleton (beBytes 8 x.toNat) (fun _ => rfl)
      (fun d _ _ rest => bind_of_ok (TBinaryInputProtocol.readDouble_spec d rest x))
  | string s h => exact readsBack_string s (of_decide_eq_true h)
  | bytes b h => exact readsBack_bytes b (of_decide_eq_true h)
  | uuid u =>
    exact readsBack_singleton u.bytes (fun _ => rfl)
      (fun d _ _ rest => bind_of_ok (TBinaryInputProtocol.readUuid_spec d rest u))
  | void => exact readsBack_nil
  | struct _ ih => exact readsBack_struct ih
  | list ht hn _ ih =>
    exact readsBack_append (readsBack_append (readsBack_listBegin (by simpa [binaryLimits] using ht) hn) ih)
      (readsBack_silent .listEnd rfl (fun _ => rfl) rfl)
  | set ht hn _ ih =>
    exact readsBack_append (readsBack_append (readsBack_setBegin (by simpa [binaryLimits] using ht) hn) ih)
      (readsBack_silent .setEnd rfl (fun _ => rfl) rfl)
  | map hk hv hn _ ih =>
    exact readsBack_append
      (readsBack_append (readsBack_mapBegin (by simpa [binaryLimits] using hk) (by simpa [binaryLimits] using hv) hn) ih)
      (readsBack_silent .mapEnd rfl (fun _ => rfl) rfl)
  | fieldsNil => exact readsBack_nil
  | fieldsCons name ht hs _ _ ihv ihr =>
    exact readsBack_append (readsBack_append (readsBack_fieldBegin name hs (by simpa [binaryLimits] using ht) _) ihv)
      (readsBack_append (readsBack_silent .fieldEnd rfl (fun _ => rfl) rfl) ihr)
  | elemsNil => exact readsBack_nil
  | elemsCons _ _ ihv ihr => exact readsBack_append ihv ihr
  | entriesNil => exact readsBack_nil
  | entriesCons _ _ _ ihk ihv ihr => exact readsBack_append (readsBack_append ihk ihv) ihr
  | valuesNil => exact readsBack_nil
  | valuesCons _ _ _ ihv ihr => exact readsBack_append ihv ihr
  | message m hname _ ih =>
    exact readsBack_append (readsBack_append (readsBack_messageBegin m (of_decide_eq_true hname)) ih)
      (readsBack_silent .messageEnd rfl (fun _ => rfl) rfl)
  | streamNil => exact readsBack_nil
  | streamCons _ _ ihm ihr => exact readsBack_append ihm ihr

/-- A strict decoder refuses the header of every message a non-strict encoder writes. -/
theorem writeMessageBegin_nonStrict_badVersion (m : TMessageIdentifier)
    (hb : m.name.bytes.length < 2 ^ 31) (transport : List UInt8) :
    ∃ out, writeMessageBegin m ⟨false, transport⟩ = .ok () ⟨false, transport ++ out⟩ ∧
      ∀ d : TBinaryInputProtocol, d.strict = true → ∀ rest, ∃ message s,
        TBinaryInputProtocol.readMessageBegin { d with transport := out ++ rest } =
          .error (protocolError .badVersion message) s := by
  refine ⟨beBytes 4 m.name.bytes.length ++ (m.name.bytes ++ m.messageType.toU8 ::
    beBytes 4 m.sequenceNumber.toNat), ?_, fun d hs rest => ?_⟩
  · rw [writeMessageBegin_nonStrict _ m rfl, (length_i32 hb).2]; simp
  · rw [List.append_assoc]
    exact ⟨_, _, TBinaryInputProtocol.readMessageBegin_badVersion d _ hs hb⟩

/-- The binary codec's round trip over whole streams, for an encoder of either flag and every
decoder without limits that is strict only if the encoder is; and a strict decoder refuses the
headers of a non-strict encoder. -/
theorem binary_roundTrip {ops : List WriteOp} (h : Wf binaryLimits .stream ops) (strict : Bool) :
    ReadsBack strict ops ∧
      ∀ m : TMessageIdentifier, m.name.bytes.length < 2 ^ 31 → ∀ transport,
        ∃ out, writeMessageBegin m ⟨false, transport⟩ = .ok () ⟨false, transport ++ out⟩ ∧
          ∀ d : TBinaryInputProtocol, d.strict = true → ∀ rest, ∃ message s,
            TBinaryInputProtocol.readMessageBegin { d with transport := out ++ rest } =
              .error (protocolError .badVersion message) s :=
  ⟨readsBack_of_wf h, writeMessageBegin_nonStrict_badVersion⟩

theorem binary_roundTrip_call :
    ReadsBack true [.messageBegin ⟨⟨[0x70, 0x69, 0x6E, 0x67], rfl⟩, .call, 1⟩, .structBegin,
        .fieldBegin ⟨none, .i32, some 1⟩, .i32 7, .fieldEnd, .fieldStop, .structEnd,
        .messageEnd] ∧
      ∀ m : TMessageIdentifier, m.name.bytes.length < 2 ^ 31 → ∀ transport,
        ∃ out, writeMessageBegin m ⟨false, transport⟩ = .ok () ⟨false, transport ++ out⟩ ∧
          ∀ d : TBinaryInputProtocol, d.strict = true → ∀ rest, ∃ message s,
            TBinaryInputProtocol.readMessageBegin { d with transport := out ++ rest } =
              .error (protocolError .badVersion message) s :=
  binary_roundTrip
    (.streamCons (.message _ (by decide) (.valuesCons (by decide)
      (.struct (.fieldsCons none (by decide) (by decide) (.i32 7) .fieldsNil)) .valuesNil))
      .streamNil) true

/-- A list whose element type is `Utf7` comes back as a list of `String`. -/
theorem binary_utf7_list_reads_string :
    runWrites exec [.messageBegin ⟨⟨[], rfl⟩, .call, 0⟩, .listBegin ⟨.utf7, 0⟩, .listEnd,
        .messageEnd] ⟨true, []⟩ =
      .ok () ⟨true, [0x80, 0x01, 0x00, 0x01, 0, 0, 0, 0, 0, 0, 0, 0, 0x0B, 0, 0, 0, 0]⟩ ∧
    runReads (TBinaryInputProtocol.exec false) [.messageBegin, .listBegin, .listEnd, .messageEnd]
        (TBinaryInputProtocol.withConfig
          [0x80, 0x01, 0x00, 0x01, 0, 0, 0, 0, 0, 0, 0, 0, 0x0B, 0, 0, 0, 0] true .noLimits) =
      .ok [.message ⟨⟨[], rfl⟩, .call, 0⟩, .list ⟨.string, 0⟩, .unit, .unit]
        (TBinaryInputProtocol.withConfig [] true .noLimits) ∧
    ReadValue.list ⟨.string, 0⟩ ≠ (WriteOp.listBegin ⟨.utf7, 0⟩).readBack (some 0) true :=
  ⟨rfl, rfl, by decide⟩

end TBinaryOutputProtocol

end ThriftProtocol
