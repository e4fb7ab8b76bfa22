import ThriftProtocol.Binary
import ThriftProtocol.Session

/-!
# The binary decoder's guards

What `TBinaryInputProtocol` checks, over every input and every session:

* every read but `read_struct_begin` and `read_struct_end` moves only the transport, whether it
  succeeds or fails, and fails only with one of the crate's errors (`confined_exec`);
* over a session, the depth counts the open structs and stays within the recursion limit, and
  `read_struct_begin` fails with `DepthLimit`, changing nothing, exactly when the limit is
  reached (`depthInv_of_reachable`, `structBegin_cases`); under a limit `c`, `c` nested structs
  are entered and the next is refused (`nested_structBegins`);
* no read of a session that closes only open structs panics, in any build and under any
  configuration (`exec_isError`);
* a list, set or map header comes back only after `check_container_size` accepted its count
  (`readListSetBegin_checked`, `readMapBegin_checked`);
* `read_bytes` refuses a negative length and a length above `max_string_size` having read only
  the length (`readBytes_negative`, `readBytes_sizeLimit`), but the non-strict branch of
  `read_message_begin` takes the name's length from the first four bytes and never consults
  `max_string_size` (`binary_nonStrict_name_unchecked`).
-/

namespace ThriftProtocol

namespace TBinaryInputProtocol

/-! ## Frames -/

/-- What only `read_struct_begin` and `read_struct_end` change: all but the transport. -/
def frame (d : TBinaryInputProtocol) : Bool × TConfiguration × Nat :=
  (d.strict, d.config, d.recursionDepth)

theorem fieldTypeFromU8_isError {b : UInt8} {ε : Failure} (h : fieldTypeFromU8 b = .error ε) :
    ε.IsError := by
  unfold fieldTypeFromU8 at h; split at h <;> cases h; trivial

/-- A read on the transport moves only the transport and fails only with the crate's errors. -/
theorem confined_io {α : Type} {r : Reader α} (hr : ReadsSafely r) :
    Confined frame Failure.IsError (io r) :=
  .transport (by intro _ _; rfl) hr

theorem confined_readByte : Confined frame Failure.IsError readByte := confined_io readU8_safe

theorem confined_readI8 : Confined frame Failure.IsError readI8 :=
  (confined_io readU8_safe).bind fun _ => .pure _

theorem confined_readI16 : Confined frame Failure.IsError readI16 :=
  (confined_io (readBE_safe _)).bind fun _ => .pure _

theorem confined_readI32 : Confined frame Failure.IsError readI32 :=
  (confined_io (readBE_safe _)).bind fun _ => .pure _

theorem confined_readI64 : Confined frame Failure.IsError readI64 :=
  (confined_io (readBE_safe _)).bind fun _ => .pure _

theorem confined_readDouble : Confined frame Failure.IsError readDouble :=
  (confined_io (readBE_safe _)).bind fun _ => .pure _

theorem confined_readBytes : Confined frame Failure.IsError readBytes := by
  refine confined_readI32.bind fun _ => ?_
  dsimp only
  split <;> refine Confined.bind (by first | exact .throw trivial | exact .pure _) fun _ =>
    Confined.get_bind fun _ => ?_ <;> split <;> (try split) <;>
    exact Confined.bind (by first | exact .throw trivial | exact .pure _) fun _ =>
      confined_io (readExact_safe _)

theorem confined_readString : Confined frame Failure.IsError readString :=
  confined_readBytes.bind fun _ => .ofExcept fun _ => fromUtf8_isError

theorem confined_readMessageBegin : Confined frame Failure.IsError readMessageBegin := by
  refine (confined_io (readExact_safe _)).bind fun _ => ?_
  dsimp only
  split
  · split
    · exact .throw trivial
    · exact (Confined.ofExcept fun _ => tryFrom_isError).bind fun _ =>
        confined_readString.bind fun _ => confined_readI32.bind fun _ => .pure _
  · refine Confined.get_bind fun _ => ?_
    split
    · exact .throw trivial
    · exact (confined_io (readExact_safe _)).bind fun _ =>
        (Confined.ofExcept fun _ => fromUtf8_isError).bind fun _ => confined_readByte.bind fun _ =>
          (Confined.ofExcept fun _ => tryFrom_isError).bind fun _ =>
            confined_readI32.bind fun _ => .pure _

theorem confined_readFieldBegin : Confined frame Failure.IsError readFieldBegin := by
  refine confined_readByte.bind fun _ =>
    (Confined.ofExcept fun _ => fieldTypeFromU8_isError).bind fun _ => ?_
  dsimp only
  split <;> exact Confined.bind (by first | exact .pure _ | exact confined_readI16) fun _ => .pure _

theorem confined_readListSetBegin : Confined frame Failure.IsError readListSetBegin :=
  confined_readByte.bind fun _ => (Confined.ofExcept fun _ => fieldTypeFromU8_isError).bind fun _ =>
    confined_readI32.bind fun _ => Confined.get_bind fun _ =>
      (Confined.ofExcept fun _ => checkContainerSize_isError).bind fun _ => .pure _

theorem confined_readMapBegin : Confined frame Failure.IsError readMapBegin :=
  confined_readByte.bind fun _ => (Confined.ofExcept fun _ => fieldTypeFromU8_isError).bind fun _ =>
    confined_readByte.bind fun _ => (Confined.ofExcept fun _ => fieldTypeFromU8_isError).bind fun _ =>
      confined_readI32.bind fun _ => Confined.get_bind fun _ =>
        (Confined.ofExcept fun _ => checkContainerSize_isError).bind fun _ => .pure _

/-- Every read but `read_struct_begin` and `read_struct_end` moves only the transport, and fails
only with one of the crate's errors. -/
theorem confined_exec (overflowChecks : Bool) {op : ReadOp} (hb : op ≠ .structBegin)
    (he : op ≠ .structEnd) : Confined frame Failure.IsError (exec overflowChecks op) := by
  cases op
  case structBegin => exact absurd rfl hb
  case structEnd => exact absurd rfl he
  case messageBegin => exact confined_readMessageBegin.bind fun _ => .pure _
  case fieldBegin => exact confined_readFieldBegin.bind fun _ => .pure _
  case bytes => exact confined_readBytes.bind fun _ => .pure _
  case bool => exact (confined_readI8.bind fun _ => .pure _).bind fun _ => .pure _
  case i8 => exact confined_readI8.bind fun _ => .pure _
  case i16 => exact confined_readI16.bind fun _ => .pure _
  case i32 => exact confined_readI32.bind fun _ => .pure _
  case i64 => exact confined_readI64.bind fun _ => .pure _
  case double => exact confined_readDouble.bind fun _ => .pure _
  case string => exact confined_readString.bind fun _ => .pure _
  case uuid => exact (confined_io readUuidBytes_safe).bind fun _ => .pure _
  case listBegin =>
    exact (confined_readListSetBegin.bind fun _ => .pure _).bind fun _ => .pure _
  case setBegin =>
    exact (confined_readListSetBegin.bind fun _ => .pure _).bind fun _ => .pure _
  case mapBegin => exact confined_readMapBegin.bind fun _ => .pure _
  case byte => exact confined_readByte.bind fun _ => .pure _
  all_goals exact .pure _

/-! ## Sessions -/

variable {overflowChecks : Bool} {limit : Option Nat} {c n : Nat} {d d' : TBinaryInputProtocol}

/-- A decoder that has entered no struct, with recursion limit `limit` (`none`: no limit). -/
def Fresh (limit : Option Nat) (d : TBinaryInputProtocol) : Prop :=
  d.recursionDepth = 0 ∧ d.config.maxRecursionDepth = limit

/-- The invariant of a session with `n` structs open, under the recursion limit `limit`: the
depth counts the open structs and stays within the limit. -/
structure DepthInv (limit : Option Nat) (d : TBinaryInputProtocol) (n : Nat) : Prop where
  limit_eq : d.config.maxRecursionDepth = limit
  depth_eq : d.recursionDepth = n
  le_limit : ∀ c, limit = some c → n ≤ c

theorem DepthInv.of_frame (hi : DepthInv limit d n) (h : frame d' = frame d) :
    DepthInv limit d' n := by
  simp only [frame, Prod.mk.injEq] at h
  exact ⟨h.2.1 ▸ hi.limit_eq, h.2.2 ▸ hi.depth_eq, hi.le_limit⟩

/-- What `read_struct_begin` does under the invariant: it enters one more struct while the
limit allows, and otherwise fails with `DepthLimit`, changing nothing. -/
theorem structBegin_cases (overflowChecks : Bool) (hi : DepthInv limit d n) :
    (exec overflowChecks .structBegin d = .ok .unit { d with recursionDepth := n + 1 } ∧
      ∀ c, limit = some c → n < c) ∨
    (limit = some n ∧ exec overflowChecks .structBegin d =
      .error (protocolError .depthLimit s!"Maximum recursion depth {n} exceeded") d) := by
  obtain ⟨hlim, rfl, hle⟩ := hi
  by_cases h : limit = some d.recursionDepth
  · refine .inr ⟨h, ?_⟩
    simp only [exec, readStructBegin, bind, EStateM.bind, checkRecursionDepth, hlim, h, le_refl,
      if_true]
  · have hlt : ∀ c, limit = some c → d.recursionDepth < c := fun c hc =>
      Nat.lt_of_le_of_ne (hle c hc) fun he => h (he ▸ hc)
    exact .inl ⟨bind_of_ok (readStructBegin_spec d fun c hc => hlt c (hlim ▸ hc)), hlt⟩

/-- `read_struct_begin` under the limit `c`: with `c` structs open it fails with `DepthLimit`
and changes nothing; otherwise it enters one more. -/
theorem structBegin_of_depthInv (overflowChecks : Bool) (hi : DepthInv (some c) d n) :
    exec overflowChecks .structBegin d =
      if n = c then .error (protocolError .depthLimit s!"Maximum recursion depth {c} exceeded") d
      else .ok .unit { d with recursionDepth := n + 1 } := by
  rcases structBegin_cases overflowChecks hi with ⟨h, hlt⟩ | ⟨hc, h⟩
  · rw [h, if_neg (Nat.ne_of_lt (hlt c rfl))]
  · cases Option.some.inj hc; rw [h, if_pos rfl]

theorem structEnd_of_depthInv (overflowChecks : Bool) (hi : DepthInv limit d n) (hn : 0 < n) :
    exec overflowChecks .structEnd d = .ok .unit { d with recursionDepth := n - 1 } := by
  rw [← hi.depth_eq]
  exact bind_of_ok (readStructEnd_spec d overflowChecks (hi.depth_eq ▸ hn))

/-- Every state of a session keeps the invariant: the depth counts the open structs and stays
within the limit. -/
theorem depthInv_of_reachable (h : Reachable (exec overflowChecks) (Fresh limit) d n) :
    DepthInv limit d n := by
  induction h with
  | init h => exact ⟨h.2, h.1, fun _ _ => Nat.zero_le _⟩
  | @ok s s' n op v _ hend hr ih =>
    by_cases hb : op = .structBegin
    · subst hb
      rcases structBegin_cases overflowChecks ih with ⟨h, hlt⟩ | ⟨-, h⟩ <;> rw [h] at hr <;>
        cases hr
      exact ⟨ih.limit_eq, rfl, hlt⟩
    by_cases he : op = .structEnd
    · subst he
      rw [structEnd_of_depthInv _ ih (hend rfl)] at hr
      cases hr
      exact ⟨ih.limit_eq, rfl, fun c hc => (Nat.sub_le n 1).trans (ih.le_limit c hc)⟩
    rw [openAfter_of_ne hb he]
    exact ih.of_frame ((confined_exec _ hb he).keeps.of_ok hr)
  | @error s s' n op ε _ hend hr ih =>
    by_cases hb : op = .structBegin
    · subst hb
      rcases structBegin_cases overflowChecks ih with ⟨h, -⟩ | ⟨-, h⟩ <;> rw [h] at hr <;>
        cases hr
      exact ih
    by_cases he : op = .structEnd
    · subst he
      rw [structEnd_of_depthInv _ ih (hend rfl)] at hr
      cases hr
    exact ih.of_frame ((confined_exec _ hb he).keeps.of_error hr)

/-- `k` more structs can be entered while the depth stays within the limit. -/
theorem structBegins_ok (overflowChecks : Bool) (hc : d.config.maxRecursionDepth = some c) (k : Nat)
    (hk : d.recursionDepth + k ≤ c) :
    runReads (exec overflowChecks) (List.replicate k .structBegin) d =
      .ok (List.replicate k .unit) { d with recursionDepth := d.recursionDepth + k } := by
  induction k generalizing d with
  | zero => rfl
  | succ k ih =>
    have h1 := structBegin_of_depthInv overflowChecks ⟨hc, rfl, fun _ h => by cases h; omega⟩
    rw [if_neg (by omega)] at h1
    have h2 := ih (d := { d with recursionDepth := d.recursionDepth + 1 }) hc (by simp; omega)
    rw [List.replicate_succ, List.replicate_succ, runReads_cons_ok h1 h2]
    simp only [Nat.add_assoc, Nat.add_comm 1 k]

/-- From a fresh decoder, `c` nested structs are entered and the next one is refused. -/
theorem nested_structBegins (overflowChecks : Bool) (h : Fresh (some c) d) :
    ∃ d', runReads (exec overflowChecks) (List.replicate c .structBegin) d =
        .ok (List.replicate c .unit) d' ∧
      exec overflowChecks .structBegin d' =
        .error (protocolError .depthLimit s!"Maximum recursion depth {c} exceeded") d' := by
  have hi : DepthInv (some c) { d with recursionDepth := d.recursionDepth + c } c :=
    ⟨h.2, by simp [h.1], fun _ hc => (Option.some.inj hc).le⟩
  exact ⟨_, structBegins_ok overflowChecks h.2 c (by rw [h.1, Nat.zero_add]),
    by rw [structBegin_of_depthInv _ hi, if_pos rfl]⟩

/-! ## Container headers -/

/-- A list or set header comes back only with a count `check_container_size` accepted, under
the decoder's configuration. -/
theorem readListSetBegin_checked {t : TType} {size : BitVec 32}
    (h : readListSetBegin d = .ok (t, size) d') :
    checkContainerSize d.config size (minSerializedSize t) = .ok () := by
  obtain ⟨_, d₁, h₁, h⟩ := bind_eq_ok h
  obtain ⟨_, d₂, h₂, h⟩ := bind_eq_ok h
  obtain ⟨_, d₃, h₃, h⟩ := bind_eq_ok h
  rw [get_bind] at h
  obtain ⟨_, _, h₄, h⟩ := bind_eq_ok h
  cases h
  have hcfg : frame d₃ = frame d :=
    (confined_readI32.keeps.of_ok h₃).trans (((Keeps.ofExcept _).of_ok h₂).trans
      (confined_readByte.keeps.of_ok h₁))
  simp only [frame, Prod.mk.injEq] at hcfg
  rw [← hcfg.2.1]
  exact ofExcept_eq_ok h₄

theorem readMapBegin_checked {m : TMapIdentifier} (h : readMapBegin d = .ok m d') :
    ∃ k v, m.keyType = some k ∧ m.valueType = some v ∧
      checkContainerSize d.config m.size (minSerializedSize k + minSerializedSize v) = .ok () := by
  obtain ⟨_, d₁, h₁, h⟩ := bind_eq_ok h
  obtain ⟨k, d₂, h₂, h⟩ := bind_eq_ok h
  obtain ⟨_, d₃, h₃, h⟩ := bind_eq_ok h
  obtain ⟨v, d₄, h₄, h⟩ := bind_eq_ok h
  obtain ⟨_, d₅, h₅, h⟩ := bind_eq_ok h
  rw [get_bind] at h
  obtain ⟨_, _, h₆, h⟩ := bind_eq_ok h
  cases h
  have hcfg : frame d₅ = frame d :=
    (confined_readI32.keeps.of_ok h₅).trans (((Keeps.ofExcept _).of_ok h₄).trans
      ((confined_readByte.keeps.of_ok h₃).trans
        (((Keeps.ofExcept _).of_ok h₂).trans (confined_readByte.keeps.of_ok h₁))))
  simp only [frame, Prod.mk.injEq] at hcfg
  exact ⟨k, v, rfl, rfl, hcfg.2.1 ▸ ofExcept_eq_ok h₆⟩

theorem readListBegin_checked {l : TListIdentifier} (h : readListBegin d = .ok l d') :
    checkContainerSize d.config l.size (minSerializedSize l.elementType) = .ok () := by
  obtain ⟨⟨_, _⟩, _, h₁, h⟩ := bind_eq_ok h
  cases h
  exact readListSetBegin_checked h₁

theorem readSetBegin_checked {l : TSetIdentifier} (h : readSetBegin d = .ok l d') :
    checkContainerSize d.config l.size (minSerializedSize l.elementType) = .ok () := by
  obtain ⟨⟨_, _⟩, _, h₁, h⟩ := bind_eq_ok h
  cases h
  exact readListSetBegin_checked h₁

/-- A negative count in a list or set header is refused with `NegativeSize`. -/
theorem readListSetBegin_negative (rest : List UInt8) {t : TType} (hu : t ≠ .utf7) {size : BitVec 32}
    (hn : size.toInt < 0) :
    readListSetBegin { d with transport := fieldTypeToU8 t :: beBytes 4 size.toNat ++ rest } =
      .error (protocolError .negativeSize s!"Negative container size: {size.toInt}")
        { d with transport := rest } := by
  rw [List.cons_append, readListSetBegin, bind_of_ok (readByte_spec d _ _),
    fieldTypeFromU8_fieldTypeToU8 hu]
  simp only [bind_of_ok (ofExcept_ok _ _), bind_of_ok (readI32_spec d _ _)]
  simp only [bind, EStateM.bind, get, getThe, MonadStateOf.get, EStateM.get,
    checkContainerSize_negative hn, ofExcept, throw, throwThe, MonadExceptOf.throw, EStateM.throw]

theorem readMapBegin_negative (rest : List UInt8) {k v : TType} (hk : k ≠ .utf7) (hv : v ≠ .utf7)
    {size : BitVec 32} (hn : size.toInt < 0) :
    readMapBegin
        { d with transport := fieldTypeToU8 k :: fieldTypeToU8 v :: beBytes 4 size.toNat ++ rest } =
      .error (protocolError .negativeSize s!"Negative container size: {size.toInt}")
        { d with transport := rest } := by
  rw [List.cons_append, List.cons_append, readMapBegin, bind_of_ok (readByte_spec d _ _),
    fieldTypeFromU8_fieldTypeToU8 hk]
  simp only [bind_of_ok (ofExcept_ok _ _), bind_of_ok (readByte_spec d _ _),
    fieldTypeFromU8_fieldTypeToU8 hv, bind_of_ok (readI32_spec d _ _)]
  simp only [bind, EStateM.bind, get, getThe, MonadStateOf.get, EStateM.get,
    checkContainerSize_negative hn, ofExcept, throw, throwThe, MonadExceptOf.throw, EStateM.throw]

/-! ## Byte strings -/

/-- `read_bytes` refuses a negative length, having read only the length. -/
theorem readBytes_negative (rest : List UInt8) {x : BitVec 32} (hn : x.toInt < 0) :
    readBytes { d with transport := beBytes 4 x.toNat ++ rest } =
      .error (protocolError .negativeSize s!"Negative byte array size: {x.toInt}")
        { d with transport := rest } := by
  rw [readBytes, bind_of_ok (readI32_spec d rest x)]
  dsimp only
  rw [if_pos hn]
  rfl

/-- `read_bytes` refuses a length above `max_string_size`, having read only the length. -/
theorem readBytes_sizeLimit (rest : List UInt8) {x : BitVec 32} (hn : 0 ≤ x.toInt) {m : Nat}
    (hm : d.config.maxStringSize = some m) (hlt : m < x.toNat) :
    readBytes { d with transport := beBytes 4 x.toNat ++ rest } =
      .error (protocolError .sizeLimit
          s!"Byte array size {x.toInt} exceeds maximum allowed size of {m}")
        { d with transport := rest } := by
  rw [readBytes, bind_of_ok (readI32_spec d rest x)]
  dsimp only
  rw [if_neg (Int.not_lt.mpr hn), pure_bind_apply, get_bind]
  simp only [hm, i32AsUsize_of_nonneg hn, if_pos hlt]
  rfl

/-- The non-strict branch of `read_message_begin` reads a name of any length below `2 ^ 31`
whatever `max_string_size` is: here a one-byte name under a limit of zero bytes. -/
theorem binary_nonStrict_name_unchecked :
    readMessageBegin
        (withConfig [0, 0, 0, 1, 0x61, 1, 0, 0, 0, 0] false ⟨none, none, some 0, none⟩) =
      .ok ⟨⟨[0x61], rfl⟩, .call, 0⟩ (withConfig [] false ⟨none, none, some 0, none⟩) :=
  readMessageBegin_nonStrictHeader (withConfig [] false ⟨none, none, some 0, none⟩) []
    ⟨⟨[0x61], rfl⟩, .call, 0⟩ rfl (by decide)

end TBinaryInputProtocol

end ThriftProtocol
