import ThriftProtocol.Compact.Safety

/-!
# Struct scopes and the compact codec's field ids

The compact codec sends a field's id as the delta to the previous field of the same struct, so
each half keeps the last field id of the struct it is in, and a stack of the last ids of the
structs around it: `write_struct_begin` and `read_struct_begin` push the last id and start again
from `0`, `write_struct_end` and `read_struct_end` pop it back. This module proves that a struct
scope gives back the field-id state it found, on both halves.

* `keeps_exec_stack` (encoder), `TCompactInputProtocol.keeps_exec` (decoder) — every operation
  but a struct begin or end leaves the stack alone;
* `stack_of_nested`, `restores_of_body` — a run of a `Nested` sequence, one in which every struct
  opened is closed, leaves the stack as it found it; a struct begin and end around such a run
  return the last id too;
* `Balanced` — what a balanced message writes: its fields sit inside structs. From an encoder
  with no `Bool` field held back, a run of it leaves the field ids and holds none back
  (`fieldState_of_balanced`); every well-formed stream is balanced (`scoped_of_wf`), and a
  message of a well-formed stream begins only where a message may (`Wf.stream_prefix`);
* `compact_struct_scopes_restore_fieldIds` — the frame law of both halves, and its consequence:
  over a well-formed stream from a new encoder, `last_write_field_id` is `0` at every
  `write_message_begin`, as `last_read_field_id` is after every `read_message_begin`.
-/

namespace ThriftProtocol

/-- The writes that leave the compact encoder's field ids alone outside every struct: all but
struct begins and ends, and field begins. -/
def WriteOp.outsideStructs : WriteOp → Bool
  | .structBegin | .structEnd | .fieldBegin _ => false
  | _ => true

/-- What a balanced message writes between `write_message_begin` and `write_message_end`: every
struct it opens it closes, and its fields sit inside structs. -/
inductive Balanced : List WriteOp → Prop
  | nil : Balanced []
  | cons {op ops} (hop : op.outsideStructs = true) (h : Balanced ops) : Balanced (op :: ops)
  | struct {body ops} (hbody : Nested .structBegin .structEnd body) (h : Balanced ops) :
      Balanced (.structBegin :: body ++ .structEnd :: ops)

namespace Balanced

theorem append {xs ys : List WriteOp} (hx : Balanced xs) (hy : Balanced ys) :
    Balanced (xs ++ ys) := by
  induction hx with
  | nil => exact hy
  | cons hop _ ih => exact .cons hop ih
  | struct hbody _ ih => simpa only [List.cons_append, List.append_assoc] using .struct hbody ih

/-- A balanced run is well nested: the fields of a struct may hold one as a field's value. -/
theorem nested {xs : List WriteOp} (h : Balanced xs) : Nested .structBegin .structEnd xs := by
  induction h with
  | nil => exact .nil
  | @cons op _ hop _ ih =>
    exact .cons (fun h => by subst h; cases hop) (fun h => by subst h; cases hop) ih
  | struct hbody _ ih => exact .scope hbody ih

end Balanced

/-! ## Well-formed streams are balanced -/

/-- The shape of the writes of a well-formed stream: the fields of a struct are nested, every
other part is balanced. -/
def Scoped : Shape → List WriteOp → Prop
  | .fields _, ops => Nested .structBegin .structEnd ops
  | _, ops => Balanced ops

theorem scoped_of_wf {L : StreamLimits} {sh : Shape} {ops : List WriteOp} (h : Wf L sh ops) :
    Scoped sh ops := by
  induction h with
  | bool | i8 | i16 | i32 | i64 | double | string | bytes | uuid => exact Balanced.cons rfl .nil
  | void | elemsNil | entriesNil | valuesNil | streamNil => exact Balanced.nil
  | fieldsNil => exact Nested.nil
  | @struct body _ ih =>
    rw [show (WriteOp.structBegin :: body) ++ [.fieldStop, .structEnd] =
      (.structBegin :: (body ++ [.fieldStop])) ++ [.structEnd] by simp]
    exact Balanced.struct ((ih : Nested _ _ _).append (.cons nofun nofun .nil)) .nil
  | list _ _ _ ih | set _ _ _ ih | map _ _ _ _ ih | message _ _ _ ih =>
    exact Balanced.cons rfl ((ih : Balanced _).append (.cons rfl .nil))
  | fieldsCons _ _ _ _ _ ihv ihr =>
    exact Nested.cons nofun nofun ((Balanced.nested ihv).append (.cons nofun nofun ihr))
  | elemsCons _ _ ihv ihr | valuesCons _ _ _ ihv ihr | streamCons _ _ ihv ihr =>
    exact (ihv : Balanced _).append ihr
  | entriesCons _ _ _ ihk ihv ihr => exact ((ihk : Balanced _).append ihv).append ihr

/-- A value, a struct's fields, a container's elements or a message's values hold no
`write_message_begin`. -/
theorem messageBegin_not_mem {L : StreamLimits} {sh : Shape} {ops : List WriteOp}
    (h : Wf L sh ops) (hm : sh ≠ .message) (hs : sh ≠ .stream) (m : TMessageIdentifier) :
    .messageBegin m ∉ ops := by
  induction h <;> simp_all

/-- In a well-formed stream, a message begins only after whole messages. -/
theorem Wf.stream_prefix {L : StreamLimits} {ops pre post : List WriteOp}
    {m : TMessageIdentifier} (h : Wf L .stream ops) (hs : ops = pre ++ .messageBegin m :: post) :
    Wf L .stream pre := by
  generalize hsh : Shape.stream = sh at h
  induction h generalizing pre with
  | streamNil => simp at hs
  | @streamCons msg r hm _ _ ihr =>
    rcases List.append_eq_append_iff.mp hs with ⟨a, rfl, hr⟩ | ⟨c, hmsg, hc⟩
    · exact .streamCons hm (ihr hr hsh)
    · cases c with
      | nil => rw [List.append_nil] at hmsg; subst hmsg; simpa using Wf.streamCons hm .streamNil
      | cons x c =>
        obtain ⟨rfl, -⟩ := List.cons.inj hc
        cases hm with
        | @message body m₀ _ hbody =>
          cases pre with
          | nil => exact .streamNil
          | cons y pre =>
            simp only [List.cons_append, List.cons.injEq] at hmsg
            have hmem : WriteOp.messageBegin m ∈ body ++ [.messageEnd] := by
              rw [hmsg.2]; exact List.mem_append_right pre (List.mem_cons_self _ c)
            simp only [List.mem_append, List.mem_singleton] at hmem
            exact absurd (hmem.resolve_right nofun) (messageBegin_not_mem hbody nofun nofun m)
  | _ => cases hsh

/-! ## The encoder -/

namespace TCompactOutputProtocol

variable {β : Type} {F : TCompactOutputProtocol → β} {overflowChecks : Bool}
  {e e' : TCompactOutputProtocol}

/-- The part `F` of the encoder's state does not involve the transport. -/
def OffTransport (F : TCompactOutputProtocol → β) : Prop :=
  ∀ e t, F { e with transport := t } = F e

/-- The encoder's state but its transport: the field ids and the `Bool` field held back. -/
def fieldState (e : TCompactOutputProtocol) :
    BitVec 16 × List (BitVec 16) × Option TFieldIdentifier :=
  (e.lastWriteFieldId, e.writeFieldIdStack, e.pendingWriteBoolFieldIdentifier)

section Frames

variable (hF : OffTransport F)
include hF

theorem keeps_emit (bs : List UInt8) : Keeps F (emit bs) := fun e => hF e _

theorem keeps_writeByte (b : UInt8) : Keeps F (writeByte b) := keeps_emit hF [b]

theorem keeps_writeBytes (b : List UInt8) : Keeps F (writeBytes b) :=
  (keeps_emit hF _).bind fun _ => keeps_emit hF _

theorem keeps_writeListSetBegin (t : TType) (n : BitVec 32) : Keeps F (writeListSetBegin t n) :=
  (Keeps.ofExcept _).bind fun _ =>
    Keeps.ite (keeps_writeByte hF _) ((keeps_writeByte hF _).bind fun _ => keeps_emit hF _)

theorem keeps_writeMessageBegin (m : TMessageIdentifier) : Keeps F (writeMessageBegin m) :=
  (keeps_writeByte hF _).bind fun _ => (keeps_writeByte hF _).bind fun _ =>
    (keeps_emit hF _).bind fun _ => keeps_writeBytes hF _

theorem keeps_writeMapBegin (m : TMapIdentifier) : Keeps F (writeMapBegin m) :=
  Keeps.ite (keeps_writeByte hF _) ((keeps_emit hF _).bind fun _ =>
    (Keeps.expect _ _).bind fun _ => (Keeps.ofExcept _).bind fun _ =>
      (Keeps.expect _ _).bind fun _ => (Keeps.ofExcept _).bind fun _ => keeps_writeByte hF _)

/-- Every write that leaves the field ids alone outside every struct, `write_bool` apart, moves
only the transport. -/
theorem keeps_exec_of_offTransport (overflowChecks : Bool) {op : WriteOp}
    (hop : op.outsideStructs = true) (hb : ∀ b, op ≠ .bool b) : Keeps F (exec overflowChecks op) := by
  have hassert : Keeps F assertNoPendingBoolWrite := fun e => by
    unfold assertNoPendingBoolWrite; split <;> rfl
  cases op
  case structBegin | structEnd | fieldBegin => cases hop
  case bool b => exact absurd rfl (hb b)
  case messageBegin m => exact keeps_writeMessageBegin hF m
  case messageEnd | fieldEnd => exact hassert
  case fieldStop =>
    exact hassert.bind fun _ => (Keeps.ofExcept _).bind fun _ => keeps_writeByte hF _
  case bytes b | string s | uuid u => exact keeps_writeBytes hF _
  case i8 i | byte b => exact keeps_writeByte hF _
  case i16 i | i32 i | i64 i | double x => exact keeps_emit hF _
  case listBegin l | setBegin l => exact keeps_writeListSetBegin hF _ _
  case mapBegin m => exact keeps_writeMapBegin hF m
  case listEnd | setEnd | mapEnd => exact Keeps.pure ()

end Frames

theorem offTransport_stack : OffTransport (·.writeFieldIdStack) := fun _ _ => rfl

theorem offTransport_fieldState : OffTransport fieldState := fun _ _ => rfl

theorem keeps_writeFieldHeader_stack (overflowChecks : Bool) (c : UInt8) (id : BitVec 16) :
    Keeps (·.writeFieldIdStack) (writeFieldHeader overflowChecks c id) := by
  unfold writeFieldHeader
  refine Keeps.get_bind fun _ => (Keeps.subI16 _ _ _).bind fun _ => ?_
  dsimp only
  split
  · exact (keeps_writeByte offTransport_stack _).bind fun _ => Keeps.modify (by intro; rfl)
  · exact (keeps_writeByte offTransport_stack _).bind fun _ =>
      (keeps_emit offTransport_stack _).bind fun _ => Keeps.modify (by intro; rfl)

/-- Every write but a struct begin or end leaves the stack of saved field ids alone. -/
theorem keeps_exec_stack (overflowChecks : Bool) {op : WriteOp} (hb : op ≠ .structBegin)
    (he : op ≠ .structEnd) : Keeps (·.writeFieldIdStack) (exec overflowChecks op) := by
  cases op
  case structBegin => exact absurd rfl hb
  case structEnd => exact absurd rfl he
  case fieldBegin f =>
    show Keeps _ (writeFieldBegin overflowChecks f)
    unfold writeFieldBegin
    split
    · intro s; dsimp only; split <;> rfl
    · exact (Keeps.ofExcept _).bind fun _ => (Keeps.expect _ _).bind fun _ =>
        keeps_writeFieldHeader_stack _ _ _
  case bool b =>
    refine Keeps.get_set_bind (fun _ => rfl) fun s => ?_
    split
    · exact (Keeps.expect _ _).bind fun _ => keeps_writeFieldHeader_stack _ _ _
    · exact Keeps.ite (keeps_writeByte offTransport_stack _) (keeps_writeByte offTransport_stack _)
  all_goals exact keeps_exec_of_offTransport offTransport_stack overflowChecks rfl fun _ => nofun

/-- A write outside every struct, from an encoder with no `Bool` field held back, moves only the
transport. -/
theorem fieldState_of_outsideStructs {op : WriteOp} (hop : op.outsideStructs = true)
    (hp : e.pendingWriteBoolFieldIdentifier = none) (h : exec overflowChecks op e = .ok () e') :
    fieldState e' = fieldState e := by
  cases op
  case bool b =>
    rw [exec, writeBool_plain e overflowChecks hp b] at h
    cases h; rfl
  all_goals exact (keeps_exec_of_offTransport offTransport_fieldState overflowChecks hop
    fun _ => nofun).of_ok h

/-- `write_struct_end` succeeds only with no `Bool` field held back, and pops the last id. -/
theorem writeStructEnd_inv (h : writeStructEnd e = .ok () e') :
    e.writeFieldIdStack = e'.lastWriteFieldId :: e'.writeFieldIdStack ∧
      e'.pendingWriteBoolFieldIdentifier = none := by
  obtain ⟨l, st, p, t⟩ := e
  cases p with
  | some f => cases h
  | none =>
    cases st with
    | nil => cases h
    | cons last st => cases h; exact ⟨rfl, rfl⟩

/-- A struct scope whose body leaves the stack alone gives back the last id and the stack, and
holds no `Bool` field back. -/
theorem restores_of_body {body : List WriteOp}
    (hbody : ∀ {e e'}, runWrites (exec overflowChecks) body e = .ok () e' →
      e'.writeFieldIdStack = e.writeFieldIdStack)
    (h : runWrites (exec overflowChecks) (.structBegin :: body ++ [.structEnd]) e = .ok () e') :
    e'.lastWriteFieldId = e.lastWriteFieldId ∧ e'.writeFieldIdStack = e.writeFieldIdStack ∧
      e'.pendingWriteBoolFieldIdentifier = none := by
  rw [List.cons_append, runWrites_cons_ok (writeStructBegin_spec e)] at h
  obtain ⟨e₁, h₁, h₂⟩ := runWrites_append_inv h
  obtain ⟨hs, hp⟩ := writeStructEnd_inv (runWrites_singleton.mp h₂)
  rw [hbody h₁] at hs
  exact ⟨(List.cons.inj hs).1.symm, (List.cons.inj hs).2.symm, hp⟩

/-- A run of a nested sequence leaves the stack of saved field ids as it found it. -/
theorem stack_of_nested {ops : List WriteOp} (h : Nested .structBegin .structEnd ops) :
    ∀ {e e'}, runWrites (exec overflowChecks) ops e = .ok () e' →
      e'.writeFieldIdStack = e.writeFieldIdStack := by
  induction h with
  | nil => intro e e' h; cases h; rfl
  | @cons op _ hb he _ ih =>
    intro e e' h
    obtain ⟨e₁, h₁, h₂⟩ := runWrites_cons_inv h
    exact (ih h₂).trans ((keeps_exec_stack overflowChecks hb he).of_ok h₁)
  | @scope body xs _ _ ihb ihr =>
    intro e e' h
    rw [show WriteOp.structBegin :: body ++ .structEnd :: xs =
      (.structBegin :: body ++ [.structEnd]) ++ xs by simp] at h
    obtain ⟨e₁, h₁, h₂⟩ := runWrites_append_inv h
    exact (ihr h₂).trans (restores_of_body ihb h₁).2.1

/-- A run of a balanced sequence, from an encoder with no `Bool` field held back, leaves the
field ids and holds none back. -/
theorem fieldState_of_balanced {ops : List WriteOp} (h : Balanced ops) :
    ∀ {e e'}, e.pendingWriteBoolFieldIdentifier = none →
      runWrites (exec overflowChecks) ops e = .ok () e' → fieldState e' = fieldState e := by
  induction h with
  | nil => intro e e' _ h; cases h; rfl
  | @cons op _ hop _ ih =>
    intro e e' hp h
    obtain ⟨e₁, h₁, h₂⟩ := runWrites_cons_inv h
    have h₁ := fieldState_of_outsideStructs hop hp h₁
    exact (ih (by rw [← hp]; exact congrArg (·.2.2) h₁) h₂).trans h₁
  | @struct body xs hbody _ ih =>
    intro e e' hp h
    rw [show WriteOp.structBegin :: body ++ .structEnd :: xs =
      (.structBegin :: body ++ [.structEnd]) ++ xs by simp] at h
    obtain ⟨e₁, h₁, h₂⟩ := runWrites_append_inv h
    obtain ⟨hl, hs, hp₁⟩ := restores_of_body (stack_of_nested hbody) h₁
    refine (ih hp₁ h₂).trans ?_
    simp only [fieldState, hl, hs, hp₁, hp]

end TCompactOutputProtocol

/-! ## The decoder -/

namespace TCompactInputProtocol

variable {overflowChecks : Bool} {d d' : TCompactInputProtocol} {v : ReadValue}

theorem checkRecursionDepth_ok {u : Unit} (h : checkRecursionDepth d = .ok u d') : d' = d := by
  unfold checkRecursionDepth at h
  split at h
  · split at h <;> cases h; rfl
  · cases h; rfl

/-- `read_struct_begin` pushes the last id. -/
theorem exec_structBegin_inv (h : exec overflowChecks .structBegin d = .ok v d') :
    d'.readFieldIdStack = d.lastReadFieldId :: d.readFieldIdStack := by
  obtain ⟨_, d₁, h₁, h⟩ := bind_eq_ok h
  cases h
  obtain ⟨_, d₂, h₂, h₁⟩ := bind_eq_ok h₁
  cases checkRecursionDepth_ok h₂
  cases h₁; rfl

/-- `read_struct_end` succeeds only with a saved id, which it pops. -/
theorem exec_structEnd_inv (h : exec overflowChecks .structEnd d = .ok v d') :
    d.readFieldIdStack = d'.lastReadFieldId :: d'.readFieldIdStack := by
  obtain ⟨_, d₁, h₁, h⟩ := bind_eq_ok h
  cases h
  unfold readStructEnd at h₁
  rw [get_bind] at h₁
  obtain ⟨_, _, -, h₁⟩ := bind_eq_ok h₁
  obtain ⟨_, _, -, h₁⟩ := bind_eq_ok h₁
  cases hs : d.readFieldIdStack with
  | nil => simp only [hs, List.head?, expect] at h₁; cases h₁
  | cons last st => simp only [hs, List.head?, List.tail, expect] at h₁; cases h₁; rfl

/-- `read_message_begin` starts the message's fields from id `0`. -/
theorem readMessageBegin_lastReadFieldId {m : TMessageIdentifier}
    (h : readMessageBegin d = .ok m d') : d'.lastReadFieldId = 0 := by
  unfold readMessageBegin at h
  obtain ⟨_, _, -, h⟩ := bind_eq_ok h
  dsimp only at h
  split at h
  · obtain ⟨_, _, h₀, -⟩ := bind_eq_ok h; cases h₀
  iterate 2 obtain ⟨_, _, -, h⟩ := bind_eq_ok h
  split at h
  · obtain ⟨_, _, h₀, -⟩ := bind_eq_ok h; cases h₀
  iterate 4 obtain ⟨_, _, -, h⟩ := bind_eq_ok h
  obtain ⟨_, _, h₀, h⟩ := bind_eq_ok h
  cases h₀; cases h; rfl

/-- A struct scope whose body leaves the stack alone gives back the last id and the stack. -/
theorem restores_of_body {body : List ReadOp}
    (hbody : ∀ {d d' vs}, runReads (exec overflowChecks) body d = .ok vs d' →
      d'.readFieldIdStack = d.readFieldIdStack) {vs : List ReadValue}
    (h : runReads (exec overflowChecks) (.structBegin :: body ++ [.structEnd]) d = .ok vs d') :
    d'.lastReadFieldId = d.lastReadFieldId ∧ d'.readFieldIdStack = d.readFieldIdStack := by
  obtain ⟨_, d₁, _, h₁, h⟩ := runReads_cons_inv h
  obtain ⟨d₂, _, _, h₂, h⟩ := runReads_append_inv h
  obtain ⟨_, _, _, h₃, h⟩ := runReads_cons_inv h
  cases h
  have hs := exec_structEnd_inv h₃
  rw [hbody h₂, exec_structBegin_inv h₁] at hs
  exact ⟨(List.cons.inj hs).1.symm, (List.cons.inj hs).2.symm⟩

/-- A run of a nested sequence leaves the stack of saved field ids as it found it. -/
theorem stack_of_nested {ops : List ReadOp} (h : Nested .structBegin .structEnd ops) :
    ∀ {d d' vs}, runReads (exec overflowChecks) ops d = .ok vs d' →
      d'.readFieldIdStack = d.readFieldIdStack := by
  induction h with
  | nil => intro d d' vs h; cases h; rfl
  | cons hb he _ ih =>
    intro d d' vs h
    obtain ⟨_, d₁, _, h₁, h₂⟩ := runReads_cons_inv h
    exact (ih h₂).trans (congrArg (·.2.2) ((keeps_exec overflowChecks hb he).of_ok h₁))
  | @scope body xs _ _ ihb ihr =>
    intro d d' vs h
    rw [show ReadOp.structBegin :: body ++ .structEnd :: xs =
      (.structBegin :: body ++ [.structEnd]) ++ xs by simp] at h
    obtain ⟨d₁, _, _, h₁, h₂⟩ := runReads_append_inv h
    exact (ihr h₂).trans (restores_of_body ihb h₁).2

end TCompactInputProtocol

/-! ## The frame law -/

/-- Struct scopes restore the compact codec's field-id state: on the encoder, and on the decoder
for every input it accepts, the last id and the stack after a struct end are those before the
matching begin, whatever the well-nested operations between them. Over a well-formed stream from
a new encoder, `last_write_field_id` is therefore `0` at every `write_message_begin`, as
`read_message_begin` sets `last_read_field_id` to `0`. -/
theorem compact_struct_scopes_restore_fieldIds :
    (∀ (overflowChecks : Bool) (body : List WriteOp) (e e' : TCompactOutputProtocol),
      Nested .structBegin .structEnd body →
      runWrites (TCompactOutputProtocol.exec overflowChecks) (.structBegin :: body ++ [.structEnd])
          e = .ok () e' →
      e'.lastWriteFieldId = e.lastWriteFieldId ∧ e'.writeFieldIdStack = e.writeFieldIdStack) ∧
    (∀ (overflowChecks : Bool) (body : List ReadOp) (d d' : TCompactInputProtocol)
      (vs : List ReadValue), Nested .structBegin .structEnd body →
      runReads (TCompactInputProtocol.exec overflowChecks) (.structBegin :: body ++ [.structEnd])
          d = .ok vs d' →
      d'.lastReadFieldId = d.lastReadFieldId ∧ d'.readFieldIdStack = d.readFieldIdStack) ∧
    (∀ (L : StreamLimits) (overflowChecks : Bool) (ops pre post : List WriteOp)
      (m : TMessageIdentifier) (t : List UInt8) (e' : TCompactOutputProtocol),
      Wf L .stream ops → ops = pre ++ .messageBegin m :: post →
      runWrites (TCompactOutputProtocol.exec overflowChecks) pre (TCompactOutputProtocol.new t) =
        .ok () e' →
      e'.lastWriteFieldId = 0 ∧ e'.writeFieldIdStack = []) ∧
    (∀ (d d' : TCompactInputProtocol) (m : TMessageIdentifier),
      TCompactInputProtocol.readMessageBegin d = .ok m d' → d'.lastReadFieldId = 0) := by
  refine ⟨fun _ _ _ _ hb h => ?_, fun _ _ _ _ _ hb h =>
    TCompactInputProtocol.restores_of_body (TCompactInputProtocol.stack_of_nested hb) h,
    fun _ _ _ _ _ _ _ _ hw hs h => ?_, fun _ _ _ h =>
    TCompactInputProtocol.readMessageBegin_lastReadFieldId h⟩
  · obtain ⟨hl, hs, -⟩ := TCompactOutputProtocol.restores_of_body
      (TCompactOutputProtocol.stack_of_nested hb) h
    exact ⟨hl, hs⟩
  · have h := TCompactOutputProtocol.fieldState_of_balanced
      (scoped_of_wf (hw.stream_prefix hs) : Balanced _) rfl h
    simp only [TCompactOutputProtocol.fieldState, TCompactOutputProtocol.new, Prod.mk.injEq] at h
    exact ⟨h.1, h.2.1⟩

/-- A struct whose field `7` holds a struct with a field `3`, written in a checked build from an
encoder whose last id is `5` above a saved `9`: both come back after the outer struct's end. -/
theorem compact_inner_struct_keeps_field_ids :
    ∃ e', runWrites (TCompactOutputProtocol.exec true)
        (.structBegin :: [.fieldBegin ⟨none, .struct, some 7⟩, .structBegin,
          .fieldBegin ⟨none, .i08, some 3⟩, .i8 2, .fieldEnd, .fieldStop, .structEnd, .fieldEnd,
          .fieldStop] ++ [.structEnd]) ⟨5, [9], none, []⟩ = .ok () e' ∧
      e'.lastWriteFieldId = 5 ∧ e'.writeFieldIdStack = [9] :=
  ⟨_, rfl, compact_struct_scopes_restore_fieldIds.1 true
    [.fieldBegin ⟨none, .struct, some 7⟩, .structBegin, .fieldBegin ⟨none, .i08, some 3⟩, .i8 2,
      .fieldEnd, .fieldStop, .structEnd, .fieldEnd, .fieldStop]
    ⟨5, [9], none, []⟩ _
    (.cons nofun nofun (@Nested.scope WriteOp .structBegin .structEnd
      [.fieldBegin ⟨none, .i08, some 3⟩, .i8 2, .fieldEnd, .fieldStop] [.fieldEnd, .fieldStop]
      (.cons nofun nofun (.cons nofun nofun (.cons nofun nofun (.cons nofun nofun .nil))))
      (.cons nofun nofun (.cons nofun nofun .nil)))) rfl⟩

end ThriftProtocol
