import ThriftProtocol.Compact.Scopes
import ThriftProtocol.Streaming

/-!
# The compact encoder over whole sessions

The compact encoder carries state from one write to the next: the last field id, the stack of
the ids of the enclosing structs, and a `Bool` field held back until `write_bool` gives its value.
What that state does over a whole session:

* A `Bool` field is never dropped. Once `write_field_begin` holds one back, every write but
  `write_bool` and the five that check for one keeps it (`keeps_exec_pending`), and each of those
  five panics on it (`checksPendingBool_panics`); every failure of the encoder is a panic
  (`exec_fails_panic`). So a session that begins a `Bool` field and reaches a field end, a field
  stop, a struct end, a message end or another `Bool` field before a `write_bool` panics,
  whatever lies between (`panics_of_pending`, `compact_pending_bool_never_dropped`).
* Messages are independent. A well-formed message leaves the encoder as fresh as it found it
  (`fresh_of_message`), and no write looks at what was written before it (`Streaming`); so a
  stream of well-formed messages on one encoder writes what a fresh encoder for each message
  writes, and fails where it fails (`runFresh`, `compact_messages_encode_independently`).
-/

namespace ThriftProtocol

/-- A failure that is a panic. -/
def Failure.IsPanic : Failure → Prop
  | .panic _ => True
  | _ => False

/-- The writes that leave a `Bool` field held back by the compact encoder held back: all but
`write_bool`, and the begin of a `Bool` field and the four ends that check for one. -/
def WriteOp.keepsPendingBool : WriteOp → Bool
  | .bool _ | .fieldEnd | .fieldStop | .structEnd | .messageEnd => false
  | .fieldBegin f => f.fieldType != .bool
  | _ => true

/-- The writes of the compact encoder that check for a `Bool` field held back. -/
def WriteOp.checksPendingBool : WriteOp → Bool
  | .fieldEnd | .fieldStop | .structEnd | .messageEnd => true
  | .fieldBegin f => f.fieldType == .bool
  | _ => false

namespace TCompactOutputProtocol

variable {overflowChecks : Bool} {e e' : TCompactOutputProtocol}

/-! ## Failures are panics -/

section Panics

variable {α : Type}

/-- The computation fails only by panicking. -/
def PanicsOnly (x : EStateM Failure TCompactOutputProtocol α) : Prop :=
  Confined (fun _ => ()) Failure.IsPanic x

theorem panicsOnly_emit (bs : List UInt8) : PanicsOnly (emit bs) :=
  ⟨fun _ => rfl, fun _ _ _ h => by cases h⟩

theorem panicsOnly_expect (o : Option α) (message : String) :
    PanicsOnly (expect o message : EStateM Failure TCompactOutputProtocol α) := by
  cases o
  · exact .throw trivial
  · exact .pure _

theorem panicsOnly_typeToU8 (t : TType) :
    PanicsOnly (ofExcept (typeToU8 t) : EStateM Failure TCompactOutputProtocol UInt8) :=
  .ofExcept fun _ h => by unfold typeToU8 at h; split at h <;> cases h <;> trivial

theorem panicsOnly_collectionTypeToU8 (t : TType) :
    PanicsOnly (ofExcept (collectionTypeToU8 t) : EStateM Failure TCompactOutputProtocol UInt8) := by
  unfold collectionTypeToU8
  split
  · exact .pure _
  · exact panicsOnly_typeToU8 _

theorem panicsOnly_assertNoPendingBoolWrite : PanicsOnly assertNoPendingBoolWrite :=
  ⟨fun _ => rfl, fun _ _ _ h => by unfold assertNoPendingBoolWrite at h; split at h <;> cases h; trivial⟩

theorem panicsOnly_writeFieldHeader (overflowChecks : Bool) (c : UInt8) (id : BitVec 16) :
    PanicsOnly (writeFieldHeader overflowChecks c id) := by
  refine Confined.get_bind fun _ =>
    Confined.bind (Confined.ite (.throw trivial) (.pure _)) fun _ => ?_
  dsimp only
  split
  · exact (panicsOnly_emit _).bind fun _ => .modify fun _ => rfl
  · exact (panicsOnly_emit _).bind fun _ => (panicsOnly_emit _).bind fun _ =>
      .modify fun _ => rfl

/-- Every failure of the compact encoder is a panic: it has no error of its own to return. -/
theorem exec_fails_panic (overflowChecks : Bool) (op : WriteOp) :
    PanicsOnly (exec overflowChecks op) := by
  cases op
  case messageBegin m =>
    exact (panicsOnly_emit _).bind fun _ => (panicsOnly_emit _).bind fun _ =>
      (panicsOnly_emit _).bind fun _ => (panicsOnly_emit _).bind fun _ => panicsOnly_emit _
  case messageEnd | fieldEnd => exact panicsOnly_assertNoPendingBoolWrite
  case structBegin => exact .modify fun _ => rfl
  case structEnd =>
    exact panicsOnly_assertNoPendingBoolWrite.bind fun _ => Confined.get_bind fun _ =>
      (panicsOnly_expect _ _).bind fun _ => ⟨fun _ => rfl, fun _ _ _ h => by cases h⟩
  case fieldBegin f =>
    show PanicsOnly (writeFieldBegin overflowChecks f)
    unfold writeFieldBegin
    split
    · exact ⟨fun _ => rfl, fun _ _ _ h => by split at h <;> cases h; trivial⟩
    · exact (panicsOnly_typeToU8 _).bind fun _ => (panicsOnly_expect _ _).bind fun _ =>
        panicsOnly_writeFieldHeader _ _ _
  case fieldStop =>
    exact panicsOnly_assertNoPendingBoolWrite.bind fun _ => (panicsOnly_typeToU8 _).bind fun _ =>
      panicsOnly_emit _
  case bool b =>
    refine Confined.get_set_bind (fun _ => rfl) fun s => ?_
    split
    · exact (panicsOnly_expect _ _).bind fun _ => panicsOnly_writeFieldHeader _ _ _
    · exact .ite (panicsOnly_emit _) (panicsOnly_emit _)
  case bytes | string | uuid => exact (panicsOnly_emit _).bind fun _ => panicsOnly_emit _
  case listBegin | setBegin =>
    exact (panicsOnly_collectionTypeToU8 _).bind fun _ =>
      .ite (panicsOnly_emit _) ((panicsOnly_emit _).bind fun _ => panicsOnly_emit _)
  case mapBegin =>
    exact .ite (panicsOnly_emit _) ((panicsOnly_emit _).bind fun _ =>
      (panicsOnly_expect _ _).bind fun _ => (panicsOnly_collectionTypeToU8 _).bind fun _ =>
        (panicsOnly_expect _ _).bind fun _ => (panicsOnly_collectionTypeToU8 _).bind fun _ =>
          panicsOnly_emit _)
  case i8 | i16 | i32 | i64 | double | byte => exact panicsOnly_emit _
  all_goals exact .pure _

end Panics

/-! ## The `Bool` field held back -/

theorem offTransport_pending : OffTransport (·.pendingWriteBoolFieldIdentifier) := fun _ _ => rfl

theorem keeps_writeFieldHeader_pending (overflowChecks : Bool) (c : UInt8) (id : BitVec 16) :
    Keeps (·.pendingWriteBoolFieldIdentifier) (writeFieldHeader overflowChecks c id) := by
  refine Keeps.get_bind fun _ => (Keeps.subI16 _ _ _).bind fun _ => ?_
  dsimp only
  split
  · exact (keeps_writeByte offTransport_pending _).bind fun _ => Keeps.modify (by intro; rfl)
  · exact (keeps_writeByte offTransport_pending _).bind fun _ =>
      (keeps_emit offTransport_pending _).bind fun _ => Keeps.modify (by intro; rfl)

/-- Every write but `write_bool` and the five that check for a held-back `Bool` field leaves the
held-back field as it is. -/
theorem keeps_exec_pending (overflowChecks : Bool) {op : WriteOp}
    (hop : op.keepsPendingBool = true) :
    Keeps (·.pendingWriteBoolFieldIdentifier) (exec overflowChecks op) := by
  cases op
  case structBegin => exact Keeps.modify (by intro; rfl)
  case fieldBegin f =>
    show Keeps _ (writeFieldBegin overflowChecks f)
    unfold writeFieldBegin
    split
    · rename_i hf
      simp [WriteOp.keepsPendingBool, hf] at hop
    · exact (Keeps.ofExcept _).bind fun _ => (Keeps.expect _ _).bind fun _ =>
        keeps_writeFieldHeader_pending _ _ _
  case bool | fieldEnd | fieldStop | structEnd | messageEnd => cases hop
  all_goals exact keeps_exec_of_offTransport offTransport_pending overflowChecks rfl fun _ => nofun

/-- With a `Bool` field held back, each write that checks for one panics, changing nothing. -/
theorem checksPendingBool_panics {c : WriteOp} (hc : c.checksPendingBool = true)
    {f : TFieldIdentifier} (hp : e.pendingWriteBoolFieldIdentifier = some f) :
    ∃ msg, exec overflowChecks c e = .error (.panic msg) e := by
  have hassert : assertNoPendingBoolWrite e = .error (.panic s!"pending bool field {f.debug} not written") e := by
    simp only [assertNoPendingBoolWrite, hp]
  cases c
  case fieldEnd | messageEnd => exact ⟨_, hassert⟩
  case fieldStop | structEnd => exact ⟨_, bind_of_error hassert⟩
  case fieldBegin g =>
    obtain ⟨name, t, id⟩ := g
    obtain rfl : t = .bool := by simpa [WriteOp.checksPendingBool] using hc
    have h : exec overflowChecks (.fieldBegin ⟨name, .bool, id⟩) e =
        writeFieldBegin overflowChecks ⟨name, .bool, id⟩ e := rfl
    simp only [writeFieldBegin, hp, Option.isSome_some, if_true] at h
    exact ⟨_, h⟩
  all_goals cases hc

/-- From an encoder holding a `Bool` field back, writes that keep it, then one that checks for it,
panic. -/
theorem panics_of_pending {f : TFieldIdentifier} {c : WriteOp} (hc : c.checksPendingBool = true) :
    ∀ {mid : List WriteOp} {e : TCompactOutputProtocol},
      (∀ op ∈ mid, op.keepsPendingBool = true) → e.pendingWriteBoolFieldIdentifier = some f →
      ∃ msg e', runWrites (exec overflowChecks) (mid ++ [c]) e = .error (.panic msg) e'
  | [], e, _, hp => by
    obtain ⟨msg, h⟩ := checksPendingBool_panics hc hp
    exact ⟨msg, e, runWrites_singleton_error h⟩
  | op :: mid, e, hmid, hp => by
    cases h : exec overflowChecks op e with
    | ok _ e₁ =>
      rw [List.cons_append, runWrites_cons_ok h]
      have hkeep := (keeps_exec_pending overflowChecks (hmid op (List.mem_cons_self _ _))).of_ok h
      exact panics_of_pending hc (fun op' h' => hmid op' (List.mem_cons_of_mem _ h')) (hkeep.trans hp)
    | error ε e₁ =>
      obtain ⟨msg, rfl⟩ : ∃ msg, ε = .panic msg := by
        have := (exec_fails_panic overflowChecks op).fails _ _ _ h
        cases ε <;> first | exact absurd this id | exact ⟨_, rfl⟩
      exact ⟨msg, e₁, by simp only [List.cons_append, runWrites, bind, EStateM.bind, h]⟩

/-- A `Bool` field is never dropped: from any encoder state, in any build, a session that begins
a `Bool` field, then makes any writes but `write_bool` and the five that check for a held-back
field, then makes one of those five, panics. -/
theorem compact_pending_bool_never_dropped (overflowChecks : Bool) (e : TCompactOutputProtocol)
    (f : TFieldIdentifier) (mid : List WriteOp) (c : WriteOp) (hf : f.fieldType = .bool)
    (hmid : ∀ op ∈ mid, op.keepsPendingBool = true) (hc : c.checksPendingBool = true) :
    ∃ msg e', runWrites (exec overflowChecks) (.fieldBegin f :: mid ++ [c]) e =
      .error (.panic msg) e' := by
  obtain ⟨name, t, id⟩ := f
  obtain rfl : t = .bool := hf
  cases hp : e.pendingWriteBoolFieldIdentifier with
  | some g =>
    obtain ⟨msg, h⟩ := checksPendingBool_panics
      (show (WriteOp.fieldBegin ⟨name, .bool, id⟩).checksPendingBool = true from rfl) hp
    refine ⟨msg, e, ?_⟩
    rw [List.cons_append, ← List.singleton_append]
    exact runWrites_append_error (runWrites_singleton_error h)
  | none =>
    have hb : exec overflowChecks (.fieldBegin ⟨name, .bool, id⟩) e =
        .ok () { e with pendingWriteBoolFieldIdentifier := some ⟨name, .bool, id⟩ } := by
      simp [exec, writeFieldBegin, hp]
    rw [List.cons_append, runWrites_cons_ok hb]
    exact panics_of_pending hc hmid rfl

theorem compact_pending_bool_never_dropped_i8 :
    (⟨none, .bool, some 1⟩ : TFieldIdentifier).fieldType = .bool ∧
      (∀ op ∈ [WriteOp.i8 0, .structBegin, .fieldBegin ⟨none, .i32, some 1⟩],
        op.keepsPendingBool = true) ∧ WriteOp.fieldEnd.checksPendingBool = true ∧
      ∃ msg e', runWrites (exec true) (.fieldBegin ⟨none, .bool, some 1⟩ ::
        [WriteOp.i8 0, .structBegin, .fieldBegin ⟨none, .i32, some 1⟩] ++ [.fieldEnd]) (new []) =
        .error (.panic msg) e' :=
  ⟨rfl, by decide, rfl, compact_pending_bool_never_dropped true (new []) ⟨none, .bool, some 1⟩
    [.i8 0, .structBegin, .fieldBegin ⟨none, .i32, some 1⟩] .fieldEnd rfl (by decide) rfl⟩

/-! ## Messages are independent -/

/-- A well-formed message run from a fresh encoder leaves a fresh encoder: the last id `0`, no id
saved, no `Bool` field held back. -/
theorem fresh_of_message {L : StreamLimits} {m : List WriteOp} (hm : Wf L .message m)
    {t : List UInt8} (h : runWrites (exec overflowChecks) m (new t) = .ok () e) :
    ∃ out, e = new out := by
  have hs := fieldState_of_balanced (scoped_of_wf hm : Balanced m) rfl h
  obtain ⟨l, st, p, out⟩ := e
  simp only [fieldState, new, Prod.mk.injEq] at hs
  obtain ⟨rfl, rfl, rfl⟩ := hs
  exact ⟨out, rfl⟩

/-- Each message of a stream run on a fresh encoder of its own, one after another, with their
output joined after `t`: what a stream of messages on one encoder is to write. -/
def runFresh (overflowChecks : Bool) : List (List WriteOp) → List UInt8 →
    EStateM.Result Failure TCompactOutputProtocol Unit
  | [], t => .ok () (new t)
  | m :: ms, t =>
    match runWrites (exec overflowChecks) m (new []) with
    | .ok () e => runFresh overflowChecks ms (t ++ e.transport)
    | .error ε e => .error ε (under e t)

/-- A message on an encoder that has written `t` before it does what it does on a fresh one. -/
theorem runWrites_new (ops : List WriteOp) (t : List UInt8) :
    runWrites (exec overflowChecks) ops (new t) =
      fed under (runWrites (exec overflowChecks) ops (new [])) t := by
  rw [show new t = under (new []) t by simp [new, under]]
  exact oblivious_runWrites (oblivious_exec _ overflowChecks) ops _ t (avoids_false _)

/-- Messages are independent: on one compact encoder, in any build, a stream of well-formed
messages writes what a fresh encoder for each message writes, one after another, and fails with
the failure and the state of the first message that fails on a fresh encoder. -/
theorem compact_messages_encode_independently (L : StreamLimits) (overflowChecks : Bool)
    (ms : List (List WriteOp)) (t : List UInt8) (hms : ∀ m ∈ ms, Wf L .message m) :
    runWrites (exec overflowChecks) ms.flatten (new t) = runFresh overflowChecks ms t := by
  induction ms generalizing t with
  | nil => rfl
  | cons m ms ih =>
    have hrun : runWrites (exec overflowChecks) m (new t) =
        fed under (runWrites (exec overflowChecks) m (new [])) t := runWrites_new m t
    rw [List.flatten_cons, runFresh]
    cases h : runWrites (exec overflowChecks) m (new []) with
    | ok _ e =>
      rw [h] at hrun
      obtain ⟨out, rfl⟩ := fresh_of_message (hms m (List.mem_cons_self _ _)) h
      rw [runWrites_append_of_ok hrun]
      exact ih (t ++ out) fun m' h' => hms m' (List.mem_cons_of_mem _ h')
    | error ε e =>
      rw [h] at hrun
      exact runWrites_append_error hrun

/-- Two messages, a call whose argument struct has one field and a reply with no value. -/
theorem compact_two_messages_independent :
    (∀ m ∈ [[WriteOp.messageBegin ⟨⟨[0x61], rfl⟩, .call, 1⟩, .structBegin,
        .fieldBegin ⟨none, .i08, some 3⟩, .i8 5, .fieldEnd, .fieldStop, .structEnd, .messageEnd],
        [.messageBegin ⟨⟨[0x62], rfl⟩, .reply, 1⟩, .messageEnd]],
      Wf ⟨fun _ => true, fun _ => true⟩ .message m) ∧
    runWrites (exec true) [[WriteOp.messageBegin ⟨⟨[0x61], rfl⟩, .call, 1⟩, .structBegin,
        .fieldBegin ⟨none, .i08, some 3⟩, .i8 5, .fieldEnd, .fieldStop, .structEnd, .messageEnd],
        [.messageBegin ⟨⟨[0x62], rfl⟩, .reply, 1⟩, .messageEnd]].flatten (new []) =
      runFresh true [[WriteOp.messageBegin ⟨⟨[0x61], rfl⟩, .call, 1⟩, .structBegin,
        .fieldBegin ⟨none, .i08, some 3⟩, .i8 5, .fieldEnd, .fieldStop, .structEnd, .messageEnd],
        [.messageBegin ⟨⟨[0x62], rfl⟩, .reply, 1⟩, .messageEnd]] [] := by
  have hms : ∀ m ∈ [[WriteOp.messageBegin ⟨⟨[0x61], rfl⟩, .call, 1⟩, .structBegin,
      .fieldBegin ⟨none, .i08, some 3⟩, .i8 5, .fieldEnd, .fieldStop, .structEnd, .messageEnd],
      [.messageBegin ⟨⟨[0x62], rfl⟩, .reply, 1⟩, .messageEnd]],
      Wf ⟨fun _ => true, fun _ => true⟩ .message m := by
    intro m hm
    simp only [List.mem_cons, List.mem_singleton, List.not_mem_nil, or_false] at hm
    rcases hm with rfl | rfl
    · exact .message _ rfl (.valuesCons rfl (.struct (.fieldsCons none rfl (by decide) (.i8 5)
        .fieldsNil)) .valuesNil)
    · exact .message _ rfl .valuesNil
  exact ⟨hms, compact_messages_encode_independently _ true _ [] hms⟩

end TCompactOutputProtocol

end ThriftProtocol
