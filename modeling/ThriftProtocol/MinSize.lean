import ThriftProtocol.Binary.RoundTrip
import ThriftProtocol.Compact.RoundTrip

/-!
# Minimum serialized sizes

`check_container_size` tests a declared count against the message budget by multiplying it with
`min_serialized_size` of the element type, the decoder's bound on the fewest bytes an element
takes. This module compares the bound with what the encoders write.

* `sizeFloor sh` — the fewest bytes a stream of shape `sh` takes, per codec: the codec's
  `min_serialized_size` for a value of every type but `Void`, whose one value writes nothing,
  and that per element for elements and entries;
* `TBinaryOutputProtocol.writes_sizeFloor`, `TCompactOutputProtocol.enc_sizeFloor` — every
  well-formed stream encodes to at least its floor, by induction on `Wf` and on `Enc`;
* `FitsBudget` — a container whose elements take at least the floor passes the budget test
  under every configuration whose budget its bytes fit;
* `encoders_meet_min_serialized_sizes` — both codecs, every type but `Void`;
  `binary_void_list_refused` — the binary codec carries `Void` elements, which write nothing
  while `min_serialized_size(Void)` is `1`.
-/

namespace ThriftProtocol

/-! ## The budget test -/

/-- The bytes `out` of `n` elements of at least `elementSize` bytes each: the budget test passes
on them under every configuration whose budget they fit. -/
structure FitsBudget (n elementSize : Nat) (out : List UInt8) : Prop where
  floor : n * elementSize ≤ out.length
  budget : ∀ config : TConfiguration,
    (∀ cap, config.maxMessageSize = some cap → out.length ≤ cap) →
      checkContainerSize.checkMessageBudget config n elementSize = .ok ()

theorem FitsBudget.of_floor {n elementSize : Nat} {out : List UInt8}
    (h : n * elementSize ≤ out.length) : FitsBudget n elementSize out := by
  refine ⟨h, fun config hcap => ?_⟩
  unfold checkContainerSize.checkMessageBudget
  split
  · rename_i cap hc
    rw [if_neg (Nat.not_lt.mpr (h.trans (hcap cap hc)))]
  · rfl

/-! ## The binary codec -/

namespace TBinaryOutputProtocol

/-- The writes `ops`, from an encoder with flag `strict`, append `out` to any transport. -/
def Writes (strict : Bool) (ops : List WriteOp) (out : List UInt8) : Prop :=
  ∀ transport, runWrites exec ops ⟨strict, transport⟩ = .ok () ⟨strict, transport ++ out⟩

section Writes

variable {strict : Bool} {a b : List WriteOp} {oa ob : List UInt8}

theorem Writes.nil : Writes strict [] [] := fun _ => by simp

theorem Writes.single {op : WriteOp} {out : List UInt8}
    (h : ∀ transport, exec op ⟨strict, transport⟩ = .ok () ⟨strict, transport ++ out⟩) :
    Writes strict [op] out :=
  fun t => runWrites_singleton.mpr (h t)

/-- A write that appends nothing. -/
theorem Writes.silent {op : WriteOp} (h : exec op = pure ()) : Writes strict [op] [] :=
  .single fun _ => by rw [h, List.append_nil]; rfl

theorem Writes.append (ha : Writes strict a oa) (hb : Writes strict b ob) :
    Writes strict (a ++ b) (oa ++ ob) := fun t => by
  rw [← List.append_assoc]; exact runWrites_append_ok (ha t) (hb _)

end Writes

/-- The fewest bytes the binary encoder writes for a value of type `t`. -/
def valueFloor (t : TType) : Nat :=
  if t = .void then 0 else TBinaryInputProtocol.minSerializedSize t

/-- The fewest bytes the binary encoder writes for a stream of shape `sh`. -/
def sizeFloor : Shape → Nat
  | .value t => valueFloor t
  | .elems t n => n * valueFloor t
  | .entries k v n => n * (valueFloor k + valueFloor v)
  | _ => 0

theorem valueFloor_of_ne {t : TType} (h : t ≠ .void) :
    valueFloor t = TBinaryInputProtocol.minSerializedSize t := if_neg h

/-- Every well-formed stream writes at least its floor. -/
theorem writes_sizeFloor (strict : Bool) {sh : Shape} {ops : List WriteOp}
    (h : Wf binaryLimits sh ops) : ∃ out, Writes strict ops out ∧ sizeFloor sh ≤ out.length := by
  induction h with
  | bool b => exact ⟨_, .single fun _ => writeBool_spec _ b, le_rfl⟩
  | i8 i => exact ⟨[⟨i⟩], .single fun _ => rfl, le_rfl⟩
  | i16 i => exact ⟨beBytes 2 i.toNat, .single fun _ => rfl, le_rfl⟩
  | i32 i => exact ⟨beBytes 4 i.toNat, .single fun _ => rfl, le_rfl⟩
  | i64 i => exact ⟨beBytes 8 i.toNat, .single fun _ => rfl, le_rfl⟩
  | double x => exact ⟨beBytes 8 x.toNat, .single fun _ => rfl, le_rfl⟩
  | string s _ =>
    exact ⟨_, .single fun _ => by rw [exec, writeString, writeBytes_spec, List.append_assoc],
      by simp [sizeFloor, valueFloor, TBinaryInputProtocol.minSerializedSize]⟩
  | bytes b _ =>
    exact ⟨_, .single fun _ => by rw [exec, writeBytes_spec, List.append_assoc],
      by simp [sizeFloor, valueFloor, TBinaryInputProtocol.minSerializedSize]⟩
  | uuid u => exact ⟨u.bytes, .single fun _ => rfl, by rw [u.length_bytes]; rfl⟩
  | void => exact ⟨[], .nil, le_rfl⟩
  | struct _ ih =>
    obtain ⟨out, hw, -⟩ := ih
    refine ⟨out ++ [0], fun t => ?_, by simp [sizeFloor, valueFloor, TBinaryInputProtocol.minSerializedSize]⟩
    rw [← List.append_assoc, List.cons_append, runWrites_cons_ok rfl]
    exact runWrites_append_ok (hw t) rfl
  | list _ _ _ ih =>
    obtain ⟨out, hw, -⟩ := ih
    exact ⟨_, ((Writes.single fun _ => by rw [exec, writeListBegin_spec, List.append_assoc]).append
      hw).append (.silent rfl), by simp [sizeFloor, valueFloor, TBinaryInputProtocol.minSerializedSize]; omega⟩
  | set _ _ _ ih =>
    obtain ⟨out, hw, -⟩ := ih
    exact ⟨_, ((Writes.single fun _ => by rw [exec, writeSetBegin_spec, List.append_assoc]).append
      hw).append (.silent rfl), by simp [sizeFloor, valueFloor, TBinaryInputProtocol.minSerializedSize]; omega⟩
  | map _ _ _ _ ih =>
    obtain ⟨out, hw, -⟩ := ih
    exact ⟨_, ((Writes.single fun _ => by
      rw [exec, writeMapBegin_spec, List.append_assoc, List.append_assoc]).append hw).append
      (.silent rfl), by simp [sizeFloor, valueFloor, TBinaryInputProtocol.minSerializedSize]; omega⟩
  | fieldsNil => exact ⟨[], .nil, le_rfl⟩
  | fieldsCons _ _ _ _ _ ihv ihr =>
    obtain ⟨ov, hv, -⟩ := ihv
    obtain ⟨or, hr, -⟩ := ihr
    exact ⟨_, ((Writes.single fun _ => by rw [exec, writeFieldBegin_spec, List.append_assoc]).append
      hv).append ((Writes.silent rfl : Writes strict [.fieldEnd] []).append hr), Nat.zero_le _⟩
  | elemsNil => exact ⟨[], .nil, by simp [sizeFloor]⟩
  | elemsCons _ _ ihv ihr =>
    obtain ⟨ov, hv, hfv⟩ := ihv
    obtain ⟨or, hr, hfr⟩ := ihr
    refine ⟨ov ++ or, hv.append hr, ?_⟩
    simp only [sizeFloor, List.length_append, Nat.succ_mul] at hfv hfr ⊢
    omega
  | entriesNil => exact ⟨[], .nil, by simp [sizeFloor]⟩
  | entriesCons _ _ _ ihk ihv ihr =>
    obtain ⟨ok, hk, hfk⟩ := ihk
    obtain ⟨ov, hv, hfv⟩ := ihv
    obtain ⟨or, hr, hfr⟩ := ihr
    refine ⟨ok ++ ov ++ or, (hk.append hv).append hr, ?_⟩
    simp only [sizeFloor, List.length_append, Nat.succ_mul] at hfk hfv hfr ⊢
    omega
  | valuesNil => exact ⟨[], .nil, Nat.zero_le _⟩
  | valuesCons _ _ _ ihv ihr =>
    obtain ⟨ov, hv, -⟩ := ihv
    obtain ⟨or, hr, -⟩ := ihr
    exact ⟨_, hv.append hr, Nat.zero_le _⟩
  | message m hname _ ih =>
    obtain ⟨out, hw, -⟩ := ih
    obtain ⟨om, hm, -⟩ : ReadsBack strict [.messageBegin m] :=
      readsBack_messageBegin m (of_decide_eq_true hname)
    exact ⟨_, (Writes.append hm hw).append (.silent rfl), Nat.zero_le _⟩
  | streamNil => exact ⟨[], .nil, Nat.zero_le _⟩
  | streamCons _ _ ihm ihr =>
    obtain ⟨om, hm, -⟩ := ihm
    obtain ⟨or, hr, -⟩ := ihr
    exact ⟨_, hm.append hr, Nat.zero_le _⟩

end TBinaryOutputProtocol

/-! ## The compact codec -/

theorem one_le_length_encodeVarint (n : Nat) : 1 ≤ (encodeVarint n).length :=
  List.length_pos.mpr (encodeVarint_ne_nil n)

theorem CollectionHeader.one_le_length {c : UInt8} {n : Nat} {hb : List UInt8}
    (h : CollectionHeader c n hb) : 1 ≤ hb.length := by
  cases h <;> simp

theorem MapHeader.one_le_length {ck cv : UInt8} {n : Nat} {hb : List UInt8}
    (h : MapHeader ck cv n hb) : 1 ≤ hb.length := by
  cases h <;> simp

namespace TCompactOutputProtocol

/-- The fewest bytes the compact encoder writes for a value of type `t`. -/
def valueFloor (t : TType) : Nat :=
  if t = .void then 0 else compactProtocolMinSerializedSize t

/-- The fewest bytes the compact encoder writes for a stream of shape `sh`. -/
def sizeFloor : Shape → Nat
  | .value t => valueFloor t
  | .elems t n => n * valueFloor t
  | .entries k v n => n * (valueFloor k + valueFloor v)
  | _ => 0

theorem valueFloor_of_ne {t : TType} (h : t ≠ .void) :
    valueFloor t = compactProtocolMinSerializedSize t := if_neg h

/-- Every compact encoding is at least its floor. -/
theorem enc_sizeFloor {overflowChecks : Bool} {sh : Shape} {ops : List WriteOp} {bs : List UInt8}
    (h : Enc overflowChecks sh ops bs) : sizeFloor sh ≤ bs.length := by
  induction h with
  | bool b => exact le_rfl
  | i8 i => exact le_rfl
  | i16 i => exact one_le_length_encodeVarint _
  | i32 i => exact one_le_length_encodeVarint _
  | i64 i => exact one_le_length_encodeVarint _
  | double x => exact le_rfl
  | string s _ =>
    simpa [sizeFloor, valueFloor, compactProtocolMinSerializedSize] using
      Nat.le_add_right_of_le (one_le_length_encodeVarint s.bytes.length)
  | bytes b _ =>
    simpa [sizeFloor, valueFloor, compactProtocolMinSerializedSize] using
      Nat.le_add_right_of_le (one_le_length_encodeVarint b.length)
  | uuid u => simp [sizeFloor, valueFloor, compactProtocolMinSerializedSize, u.length_bytes]
  | void => exact le_rfl
  | struct _ _ => simp [sizeFloor, valueFloor, compactProtocolMinSerializedSize]
  | list _ _ _ hh _ _ =>
    simpa [sizeFloor, valueFloor, compactProtocolMinSerializedSize] using
      Nat.le_add_right_of_le hh.one_le_length
  | set _ _ _ hh _ _ =>
    simpa [sizeFloor, valueFloor, compactProtocolMinSerializedSize] using
      Nat.le_add_right_of_le hh.one_le_length
  | map _ _ _ _ _ hh _ _ =>
    simpa [sizeFloor, valueFloor, compactProtocolMinSerializedSize] using
      Nat.le_add_right_of_le hh.one_le_length
  | elemsCons _ _ ihv ihr =>
    simp only [sizeFloor, List.length_append, Nat.succ_mul] at ihv ihr ⊢
    omega
  | entriesCons _ _ _ ihk ihv ihr =>
    simp only [sizeFloor, List.length_append, Nat.succ_mul] at ihk ihv ihr ⊢
    omega
  | elemsNil | entriesNil => simp [sizeFloor]
  | fieldsNil | fieldsCons | fieldsBool | valuesNil | valuesCons | message | streamNil
    | streamCons => exact Nat.zero_le _

end TCompactOutputProtocol

/-! ## Both codecs -/

/-- Every value of a type other than `Void`, and every run of such elements or entries, is at
least as long as `min_serialized_size` says, so the budget test passes on every container whose
elements fit the budget. The compact encoder writes them whenever, in a checked build, every
field's id minus the id before it in its struct fits in `i16`, and panics otherwise. -/
theorem encoders_meet_min_serialized_sizes :
    (∀ (strict : Bool) (t : TType) (ops : List WriteOp), t ≠ .void →
      Wf binaryLimits (.value t) ops → ∃ out, TBinaryOutputProtocol.Writes strict ops out ∧
        TBinaryInputProtocol.minSerializedSize t ≤ out.length) ∧
    (∀ (strict : Bool) (t : TType) (n : Nat) (ops : List WriteOp), t ≠ .void →
      Wf binaryLimits (.elems t n) ops → ∃ out, TBinaryOutputProtocol.Writes strict ops out ∧
        FitsBudget n (TBinaryInputProtocol.minSerializedSize t) out) ∧
    (∀ (strict : Bool) (k v : TType) (n : Nat) (ops : List WriteOp), k ≠ .void → v ≠ .void →
      Wf binaryLimits (.entries k v n) ops → ∃ out, TBinaryOutputProtocol.Writes strict ops out ∧
        FitsBudget n
          (TBinaryInputProtocol.minSerializedSize k + TBinaryInputProtocol.minSerializedSize v) out) ∧
    (∀ (overflowChecks : Bool) (t : TType) (ops : List WriteOp) (e : TCompactOutputProtocol),
      t ≠ .void → e.pendingWriteBoolFieldIdentifier = none → Wf compactLimits (.value t) ops →
      TCompactOutputProtocol.Emits overflowChecks [] ops e e fun out =>
        compactProtocolMinSerializedSize t ≤ out.length) ∧
    (∀ (overflowChecks : Bool) (t : TType) (n : Nat) (ops : List WriteOp)
      (e : TCompactOutputProtocol), t ≠ .void → e.pendingWriteBoolFieldIdentifier = none →
      Wf compactLimits (.elems t n) ops →
      TCompactOutputProtocol.Emits overflowChecks [] ops e e
        (FitsBudget n (compactProtocolMinSerializedSize t))) ∧
    (∀ (overflowChecks : Bool) (k v : TType) (n : Nat) (ops : List WriteOp)
      (e : TCompactOutputProtocol), k ≠ .void → v ≠ .void →
      e.pendingWriteBoolFieldIdentifier = none → Wf compactLimits (.entries k v n) ops →
      TCompactOutputProtocol.Emits overflowChecks [] ops e e
        (FitsBudget n (compactProtocolMinSerializedSize k + compactProtocolMinSerializedSize v))) := by
  refine ⟨fun strict t _ ht h => ?_, fun strict t n _ ht h => ?_, fun strict k v n _ hk hv h => ?_,
    fun _ t _ e ht hp h => ?_, fun _ t n _ e ht hp h => ?_, fun _ k v n _ e hk hv hp h => ?_⟩
  · obtain ⟨out, hw, hf⟩ := TBinaryOutputProtocol.writes_sizeFloor strict h
    exact ⟨out, hw, (TBinaryOutputProtocol.valueFloor_of_ne ht).symm.trans_le hf⟩
  · obtain ⟨out, hw, hf⟩ := TBinaryOutputProtocol.writes_sizeFloor strict h
    rw [TBinaryOutputProtocol.sizeFloor, TBinaryOutputProtocol.valueFloor_of_ne ht] at hf
    exact ⟨out, hw, .of_floor hf⟩
  · obtain ⟨out, hw, hf⟩ := TBinaryOutputProtocol.writes_sizeFloor strict h
    rw [TBinaryOutputProtocol.sizeFloor, TBinaryOutputProtocol.valueFloor_of_ne hk,
      TBinaryOutputProtocol.valueFloor_of_ne hv] at hf
    exact ⟨out, hw, .of_floor hf⟩
  · exact (TCompactOutputProtocol.refines_of_wf h e [] hp).mono fun hb =>
      (TCompactOutputProtocol.valueFloor_of_ne ht).symm.trans_le
        (TCompactOutputProtocol.enc_sizeFloor hb)
  · refine (TCompactOutputProtocol.refines_of_wf h e [] hp).mono fun hb => .of_floor ?_
    have hf := TCompactOutputProtocol.enc_sizeFloor hb
    rwa [TCompactOutputProtocol.sizeFloor, TCompactOutputProtocol.valueFloor_of_ne ht] at hf
  · refine (TCompactOutputProtocol.refines_of_wf h e [] hp).mono fun hb => .of_floor ?_
    have hf := TCompactOutputProtocol.enc_sizeFloor hb
    rwa [TCompactOutputProtocol.sizeFloor, TCompactOutputProtocol.valueFloor_of_ne hk,
      TCompactOutputProtocol.valueFloor_of_ne hv] at hf

/-- `n` values of type `Void`, which write nothing. -/
theorem wf_voids (L : StreamLimits) : ∀ n, Wf L (.elems .void n) []
  | 0 => .elemsNil
  | n + 1 => .elemsCons .void (wf_voids L n)

/-- The binary codec carries `Void` elements, which write nothing while
`min_serialized_size(Void)` is `1`: a list of six takes five bytes, and a decoder whose message
budget is those five bytes refuses it. -/
theorem binary_void_list_refused :
    Wf binaryLimits (.value .void) [] ∧ TBinaryOutputProtocol.Writes true [] [] ∧
      ([] : List UInt8).length < TBinaryInputProtocol.minSerializedSize .void ∧
    Wf binaryLimits (.value .list) [.listBegin ⟨.void, 6⟩, .listEnd] ∧
      TBinaryOutputProtocol.Writes true [.listBegin ⟨.void, 6⟩, .listEnd] [0x01, 0, 0, 0, 6] ∧
      TBinaryInputProtocol.readListBegin
          (TBinaryInputProtocol.withConfig [0x01, 0, 0, 0, 6] true ⟨some 5, none, none, none⟩) =
        .error (protocolError .sizeLimit
            "Container would require 6 bytes, exceeding message size limit of 5")
          (TBinaryInputProtocol.withConfig [] true ⟨some 5, none, none, none⟩) :=
  ⟨.void, .nil, by decide, .list (by decide) (by decide) (wf_voids binaryLimits 6),
    (TBinaryOutputProtocol.Writes.single fun _ => by
      rw [TBinaryOutputProtocol.exec, TBinaryOutputProtocol.writeListBegin_spec, List.append_assoc]; rfl :
      TBinaryOutputProtocol.Writes true [.listBegin ⟨.void, 6⟩] [0x01, 0, 0, 0, 6]).append
      (.silent rfl : TBinaryOutputProtocol.Writes true [.listEnd] []),
    rfl⟩

end ThriftProtocol
