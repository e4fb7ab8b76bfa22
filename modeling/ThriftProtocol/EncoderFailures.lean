import ThriftProtocol.Compact.Sessions

/-!
# The encoders' failures

Over whole sessions, what makes each encoder fail, given a transport that does not:

* a session that failed, failed at one of its writes (`runWrites_error_mem`);
* the binary encoder writes every value it is given; it fails only at a field that is not a stop
  field and has no id, which it refuses with a `ProtocolError` of kind `Unknown`, writing nothing,
  and at a map identifier without its key or value type, where it panics
  (`TBinaryOutputProtocol.exec_error`);
* every failure of the compact encoder is a panic (`TCompactOutputProtocol.exec_fails_panic`),
  and a field with no id is one of them (`TCompactOutputProtocol.writeFieldBegin_noId`).

So the same mistake of the application, a field without an id, is an `Err` the caller can handle
from the binary encoder and a panic from the compact one (`encoders_fail_only_on_misuse`).
-/

namespace ThriftProtocol

section Run

variable {σ : Type} {exec : WriteOp → EStateM Failure σ Unit}

/-- A session that failed, failed at one of its writes. -/
theorem runWrites_error_mem {ops : List WriteOp} {s s' : σ} {ε : Failure}
    (h : runWrites exec ops s = .error ε s') : ∃ op ∈ ops, ∃ s₀ s₁, exec op s₀ = .error ε s₁ := by
  induction ops generalizing s with
  | nil => cases h
  | cons op ops ih =>
    simp only [runWrites, bind, EStateM.bind] at h
    split at h
    · obtain ⟨op', hm, hop⟩ := ih h
      exact ⟨op', List.mem_cons_of_mem _ hm, hop⟩
    · cases h
      exact ⟨op, List.mem_cons_self _ _, _, _, ‹_›⟩

end Run

namespace TBinaryOutputProtocol

variable {P : Failure → Prop}

theorem confined_emit (bs : List UInt8) : Confined (fun _ => ()) P (emit bs) :=
  ⟨fun _ => rfl, fun _ _ _ h => by cases h⟩

theorem confined_writeBytes (b : List UInt8) : Confined (fun _ => ()) P (writeBytes b) :=
  (confined_emit _).bind fun _ => confined_emit _

/-- Every write but the begin of a field or of a map succeeds. -/
theorem confined_exec {op : WriteOp} (hf : ∀ f, op ≠ .fieldBegin f) (hm : ∀ m, op ≠ .mapBegin m) :
    Confined (fun _ => ()) P (exec op) := by
  cases op
  case fieldBegin f => exact absurd rfl (hf f)
  case mapBegin m => exact absurd rfl (hm m)
  case messageBegin m =>
    exact Confined.get_bind fun _ => .ite
      ((confined_emit _).bind fun _ => (confined_writeBytes _).bind fun _ => confined_emit _)
      ((confined_writeBytes _).bind fun _ => (confined_emit _).bind fun _ => confined_emit _)
  case bytes | string => exact confined_writeBytes _
  case bool b => exact .ite (confined_emit _) (confined_emit _)
  case listBegin | setBegin => exact (confined_emit _).bind fun _ => confined_emit _
  all_goals first | exact confined_emit _ | exact .pure _

/-- What a failed write of the binary encoder was: a field that is not a stop field and has no
id, refused with `Unknown`, or a map identifier without its key or its value type, a panic. -/
theorem exec_error {op : WriteOp} {s s' : TBinaryOutputProtocol} {ε : Failure}
    (h : exec op s = .error ε s') :
    (∃ f, op = .fieldBegin f ∧ f.id = none ∧ f.fieldType ≠ .stop ∧
      ε = protocolError .unknown s!"cannot write identifier {f.debug} without sequence number") ∨
    (∃ m, op = .mapBegin m ∧ m.keyType = none ∧
      ε = .panic "map identifier to write should contain key type") ∨
    (∃ m, op = .mapBegin m ∧ m.valueType = none ∧
      ε = .panic "map identifier to write should contain value type") := by
  by_cases hf : ∃ f, op = .fieldBegin f
  · obtain ⟨⟨name, t, id⟩, rfl⟩ := hf
    refine .inl ⟨_, rfl, ?_⟩
    cases id with
    | some k => cases h
    | none =>
      by_cases ht : t = .stop
      · subst ht; cases h
      · have hc : ((none : Option (BitVec 16)).isNone && t != .stop) = true := by simpa using ht
        change writeFieldBegin _ s = _ at h
        rw [writeFieldBegin, if_pos hc] at h
        cases h
        exact ⟨rfl, ht, rfl⟩
  by_cases hm : ∃ m, op = .mapBegin m
  · obtain ⟨⟨k, v, n⟩, rfl⟩ := hm
    refine .inr ?_
    cases k
    · cases h; exact .inl ⟨_, rfl, rfl, rfl⟩
    · cases v
      · cases h; exact .inr ⟨_, rfl, rfl, rfl⟩
      · cases h
  · have hc : Confined (fun _ => ()) (fun _ => False) (exec op) :=
      confined_exec (fun f e => hf ⟨f, e⟩) fun m e => hm ⟨m, e⟩
    exact (hc.fails _ _ _ h).elim

end TBinaryOutputProtocol

/-- The compact encoder panics on a field with no id whose type has a type nibble, writing
nothing. -/
theorem TCompactOutputProtocol.writeFieldBegin_noId (overflowChecks : Bool) (e : TCompactOutputProtocol)
    (name : Option String) {t : TType} {c : UInt8} (ht : typeToU8 t = .ok c) :
    writeFieldBegin overflowChecks ⟨name, t, none⟩ e =
      .error (.panic "non-stop field should have field id") e := by
  cases t <;> cases ht <;> rfl

/-- What makes each encoder fail, over every session: the binary encoder fails only at a field
that is not a stop field and has no id, which it refuses with an error and writes nothing, and at
a map identifier without its key or value type, where it panics; the compact encoder only ever
panics, a field with no id included. -/
theorem encoders_fail_only_on_misuse :
    (∀ ops s ε s', runWrites TBinaryOutputProtocol.exec ops s = .error ε s' →
      (∃ f, .fieldBegin f ∈ ops ∧ f.id = none ∧ f.fieldType ≠ .stop ∧
        ε = protocolError .unknown s!"cannot write identifier {f.debug} without sequence number") ∨
      (∃ m, .mapBegin m ∈ ops ∧ m.keyType = none ∧
        ε = .panic "map identifier to write should contain key type") ∨
      (∃ m, .mapBegin m ∈ ops ∧ m.valueType = none ∧
        ε = .panic "map identifier to write should contain value type")) ∧
    (∀ (s : TBinaryOutputProtocol) (name : Option String) (t : TType), t ≠ .stop →
      TBinaryOutputProtocol.writeFieldBegin ⟨name, t, none⟩ s =
        .error (protocolError .unknown
          s!"cannot write identifier {(TFieldIdentifier.mk name t none).debug} without sequence number") s) ∧
    (∀ overflowChecks ops e ε e',
      runWrites (TCompactOutputProtocol.exec overflowChecks) ops e = .error ε e' → ε.IsPanic) ∧
    (∀ overflowChecks (e : TCompactOutputProtocol) (name : Option String) (t : TType) (c : UInt8),
      typeToU8 t = .ok c →
      TCompactOutputProtocol.writeFieldBegin overflowChecks ⟨name, t, none⟩ e =
        .error (.panic "non-stop field should have field id") e) := by
  refine ⟨fun ops s ε s' h => ?_, fun s name t ht => ?_, fun overflowChecks ops e ε e' h => ?_,
    fun overflowChecks e name t c ht => TCompactOutputProtocol.writeFieldBegin_noId overflowChecks e name ht⟩
  · obtain ⟨op, hop, s₀, s₁, he⟩ := runWrites_error_mem h
    rcases TBinaryOutputProtocol.exec_error he with ⟨f, rfl, hf⟩ | ⟨m, rfl, hm⟩ | ⟨m, rfl, hm⟩
    · exact .inl ⟨f, hop, hf⟩
    · exact .inr (.inl ⟨m, hop, hm⟩)
    · exact .inr (.inr ⟨m, hop, hm⟩)
  · have hc : ((none : Option (BitVec 16)).isNone && t != .stop) = true := by simpa using ht
    rw [TBinaryOutputProtocol.writeFieldBegin, if_pos hc]
    rfl
  · obtain ⟨op, -, s₀, s₁, he⟩ := runWrites_error_mem h
    exact (TCompactOutputProtocol.exec_fails_panic overflowChecks op).fails _ _ _ he

/-- An `i32` field with no id: the binary encoder returns an error, the compact encoder panics. -/
theorem i32_field_without_id :
    (TType.i32 ≠ .stop ∧
      TBinaryOutputProtocol.writeFieldBegin ⟨none, .i32, none⟩ ⟨true, []⟩ =
        .error (protocolError .unknown
          s!"cannot write identifier {(TFieldIdentifier.mk none .i32 none).debug} without sequence number")
          ⟨true, []⟩) ∧
    (typeToU8 .i32 = .ok 0x05 ∧
      TCompactOutputProtocol.writeFieldBegin false ⟨none, .i32, none⟩ (TCompactOutputProtocol.new []) =
        .error (.panic "non-stop field should have field id") (TCompactOutputProtocol.new [])) :=
  ⟨⟨by decide, encoders_fail_only_on_misuse.2.1 _ none .i32 (by decide)⟩,
    ⟨rfl, encoders_fail_only_on_misuse.2.2.2 false _ none .i32 0x05 rfl⟩⟩

end ThriftProtocol
