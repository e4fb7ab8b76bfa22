import ThriftProtocol.Compact.Spec
import ThriftProtocol.Session

/-!
# The compact decoder's guards

What `TCompactInputProtocol` checks, over every input and every session:

* every read but `read_struct_begin` and `read_struct_end` leaves the configuration, the depth
  and the stack of field ids alone, whether it succeeds or fails (`keeps_exec`), and every read
  but `read_field_begin` fails only with one of the crate's errors (`confined_exec`);
* over a session, the depth and the length of the field-id stack both count the open structs
  and stay within the recursion limit, and `read_struct_begin` fails with `DepthLimit`, changing
  nothing, exactly when the limit is reached (`depthInv_of_reachable`, `structBegin_cases`);
  under a limit `c`, `c` nested structs are entered and the next is refused
  (`nested_structBegins`);
* in a session that closes only open structs, the only panic is that of the `i16` addition of
  `read_field_begin` in a checked build (`exec_fails`), and the input reaches it: a long header
  for field `32767`, then a short one with delta `1` (`compact_fieldId_add_overflow`);
* a list, set or map header comes back only after `check_container_size` accepted its count,
  except the empty map, whose header is the count `0` alone (`readListSetBegin_checked`,
  `readMapBegin_checked`), and `read_bytes` refuses a length above `max_string_size` having read
  only the length (`readBytes_sizeLimit`).
-/

namespace ThriftProtocol

namespace TCompactInputProtocol

/-! ## Frames -/

/-- What only `read_struct_begin` and `read_struct_end` change. -/
def frame (d : TCompactInputProtocol) : TConfiguration × Nat × List (BitVec 16) :=
  (d.config, d.recursionDepth, d.readFieldIdStack)

/-- How a read of the compact decoder can fail: with one of the crate's errors, or, in a checked
build, with the panic of the `i16` addition of `read_field_begin`. -/
def ReadFailure (overflowChecks : Bool) (ε : Failure) : Prop :=
  ε.IsError ∨ (overflowChecks = true ∧ ε = .panic "attempt to add with overflow")

theorem u8ToType_isError {b : UInt8} {ε : Failure} (h : u8ToType b = .error ε) : ε.IsError := by
  unfold u8ToType at h; split at h <;> cases h; trivial

theorem collectionU8ToType_isError {b : UInt8} {ε : Failure} (h : collectionU8ToType b = .error ε) :
    ε.IsError := by
  unfold collectionU8ToType at h; split at h <;> first | cases h | exact u8ToType_isError h

/-- A read on the transport moves only the transport and fails only with the crate's errors. -/
theorem confined_io {α : Type} {r : Reader α} (hr : ReadsSafely r) :
    Confined frame Failure.IsError (io r) :=
  .transport (by intro _ _; rfl) hr

theorem confined_readByte : Confined frame Failure.IsError readByte := confined_io readU8_safe

theorem confined_readBytes : Confined frame Failure.IsError readBytes := by
  refine (confined_io (readVarintUnsigned_safe _)).bind fun _ => Confined.get_bind fun _ => ?_
  dsimp only
  split <;> (try split) <;>
    exact Confined.bind (by first | exact .throw trivial | exact .pure _) fun _ =>
      confined_io (readExact_safe _)

theorem confined_readString : Confined frame Failure.IsError readString :=
  confined_readBytes.bind fun _ => .ofExcept fun _ => fromUtf8_isError

theorem confined_readMessageBegin : Confined frame Failure.IsError readMessageBegin := by
  refine confined_readByte.bind fun _ => ?_
  dsimp only
  split <;> refine Confined.bind (by first | exact .throw trivial | exact .pure _) fun _ =>
    confined_readByte.bind fun _ => ?_ <;> dsimp only <;> split <;>
    exact Confined.bind (by first | exact .throw trivial | exact .pure _) fun _ =>
      (Confined.ofExcept fun _ => tryFrom_isError).bind fun _ =>
        (confined_io (readVarintUnsigned_safe _)).bind fun _ => confined_readString.bind fun _ =>
          (Confined.modify (by intro; rfl)).bind fun _ => .pure _

theorem confined_readFieldTypeNibble (nibble : UInt8) :
    Confined frame Failure.IsError (readFieldTypeNibble nibble) := by
  unfold readFieldTypeNibble
  split
  · exact (Confined.modify (by intro; rfl)).bind fun _ => .pure _
  · exact (Confined.modify (by intro; rfl)).bind fun _ => .pure _
  · exact .ofExcept fun _ => u8ToType_isError

theorem confined_updateLastReadFieldId (overflowChecks : Bool) (fieldDelta : UInt8) :
    Confined frame (ReadFailure overflowChecks) (updateLastReadFieldId overflowChecks fieldDelta) :=
  Confined.ite
    (Confined.get_bind fun _ => ((Confined.addI16 _ _ _).mono fun _ => .inr).bind fun _ =>
      Confined.modify (by intro; rfl))
    (((confined_io (readVarintSigned_safe _)).mono fun _ => .inl).bind fun _ =>
      Confined.modify (by intro; rfl))

theorem confined_readFieldBegin (overflowChecks : Bool) :
    Confined frame (ReadFailure overflowChecks) (readFieldBegin overflowChecks) := by
  refine (confined_readByte.mono fun _ => .inl).bind fun _ =>
    ((confined_readFieldTypeNibble _).mono fun _ => .inl).bind fun _ => ?_
  dsimp only
  split
  · exact .pure _
  · exact (confined_updateLastReadFieldId _ _).bind fun _ => Confined.get_bind fun _ => .pure _

theorem confined_readBool : Confined frame Failure.IsError readBool := by
  refine Confined.get_set_bind (fun _ => rfl) fun s => ?_
  split
  · exact .pure _
  · refine confined_readByte.bind fun _ => ?_
    split <;> first | exact .pure _ | exact .throw trivial

theorem confined_readListSetBegin : Confined frame Failure.IsError readListSetBegin := by
  refine confined_readByte.bind fun _ =>
    (Confined.ofExcept fun _ => collectionU8ToType_isError).bind fun _ => ?_
  dsimp only
  split <;>
    exact Confined.bind (by first | exact .pure _ | exact confined_io (readVarintUnsigned_safe _))
      fun _ => Confined.get_bind fun _ =>
        (Confined.ofExcept fun _ => checkContainerSize_isError).bind fun _ => .pure _

theorem confined_readMapBegin : Confined frame Failure.IsError readMapBegin :=
  (confined_io (readVarintUnsigned_safe _)).bind fun _ => Confined.ite (.pure _)
    (confined_readByte.bind fun _ =>
      (Confined.ofExcept fun _ => collectionU8ToType_isError).bind fun _ =>
        (Confined.ofExcept fun _ => collectionU8ToType_isError).bind fun _ =>
          Confined.get_bind fun _ =>
            (Confined.ofExcept fun _ => checkContainerSize_isError).bind fun _ => .pure _)

/-- Every read but `read_struct_begin`, `read_struct_end` and `read_field_begin` leaves the
configuration, the depth and the field-id stack alone, and fails only with one of the crate's
errors. -/
theorem confined_exec (overflowChecks : Bool) {op : ReadOp} (hb : op ≠ .structBegin)
    (he : op ≠ .structEnd) (hf : op ≠ .fieldBegin) :
    Confined frame Failure.IsError (exec overflowChecks op) := by
  cases op
  case structBegin => exact absurd rfl hb
  case structEnd => exact absurd rfl he
  case fieldBegin => exact absurd rfl hf
  case messageBegin => exact confined_readMessageBegin.bind fun _ => .pure _
  case bytes => exact confined_readBytes.bind fun _ => .pure _
  case bool => exact confined_readBool.bind fun _ => .pure _
  case i8 => exact (confined_readByte.bind fun _ => .pure _).bind fun _ => .pure _
  case i16 => exact (confined_io (readVarintSigned_safe _)).bind fun _ => .pure _
  case i32 => exact (confined_io (readVarintSigned_safe _)).bind fun _ => .pure _
  case i64 => exact (confined_io (readVarintSigned_safe _)).bind fun _ => .pure _
  case double =>
    exact ((confined_io (readLE_safe _)).bind fun _ => .pure _).bind fun _ => .pure _
  case string => exact confined_readString.bind fun _ => .pure _
  case uuid =>
    exact (confined_readBytes.bind fun _ => .ofExcept fun _ => fromSlice_isError).bind fun _ =>
      .pure _
  case listBegin =>
    exact (confined_readListSetBegin.bind fun _ => .pure _).bind fun _ => .pure _
  case setBegin =>
    exact (confined_readListSetBegin.bind fun _ => .pure _).bind fun _ => .pure _
  case mapBegin => exact confined_readMapBegin.bind fun _ => .pure _
  case byte => exact confined_readByte.bind fun _ => .pure _
  all_goals exact .pure _

/-- Every read but `read_struct_begin` and `read_struct_end` leaves the configuration, the depth
and the field-id stack alone. -/
theorem keeps_exec (overflowChecks : Bool) {op : ReadOp} (hb : op ≠ .structBegin)
    (he : op ≠ .structEnd) : Keeps frame (exec overflowChecks op) := by
  by_cases hf : op = .fieldBegin
  · subst hf; exact ((confined_readFieldBegin _).bind fun _ => .pure _).keeps
  · exact (confined_exec _ hb he hf).keeps

/-! ## Sessions -/

variable {overflowChecks : Bool} {limit : Option Nat} {c n : Nat} {d d' : TCompactInputProtocol}

/-- A decoder that has entered no struct, with recursion limit `limit` (`none`: no limit). -/
def Fresh (limit : Option Nat) (d : TCompactInputProtocol) : Prop :=
  d.recursionDepth = 0 ∧ d.readFieldIdStack = [] ∧ d.config.maxRecursionDepth = limit

/-- The invariant of a session with `n` structs open, under the recursion limit `limit`: the
depth and the stack of saved field ids both count the open structs, within the limit. -/
structure DepthInv (limit : Option Nat) (d : TCompactInputProtocol) (n : Nat) : Prop where
  limit_eq : d.config.maxRecursionDepth = limit
  depth_eq : d.recursionDepth = n
  stack_length : d.readFieldIdStack.length = n
  le_limit : ∀ c, limit = some c → n ≤ c

theorem DepthInv.of_frame (hi : DepthInv limit d n) (h : frame d' = frame d) :
    DepthInv limit d' n := by
  simp only [frame, Prod.mk.injEq] at h
  exact ⟨h.1 ▸ hi.limit_eq, h.2.1 ▸ hi.depth_eq, h.2.2 ▸ hi.stack_length, hi.le_limit⟩

/-- What `read_struct_begin` does under the invariant: it enters one more struct, saving the
last field id, while the limit allows, and otherwise fails with `DepthLimit`, changing
nothing. -/
theorem structBegin_cases (overflowChecks : Bool) (hi : DepthInv limit d n) :
    (exec overflowChecks .structBegin d = .ok .unit { d with
        recursionDepth := n + 1
        readFieldIdStack := d.lastReadFieldId :: d.readFieldIdStack
        lastReadFieldId := 0 } ∧ ∀ c, limit = some c → n < c) ∨
    (limit = some n ∧ exec overflowChecks .structBegin d =
      .error (protocolError .depthLimit s!"Maximum recursion depth {n} exceeded") d) := by
  obtain ⟨hlim, rfl, -, hle⟩ := hi
  by_cases h : limit = some d.recursionDepth
  · refine .inr ⟨h, ?_⟩
    simp only [exec, readStructBegin, bind, EStateM.bind, checkRecursionDepth, hlim, h, le_refl,
      if_true]
  · have hlt : ∀ c, limit = some c → d.recursionDepth < c := fun c hc =>
      Nat.lt_of_le_of_ne (hle c hc) fun he => h (he ▸ hc)
    exact .inl ⟨bind_of_ok (readStructBegin_spec d fun c hc => hlt c (hlim ▸ hc)), hlt⟩

/-- `read_struct_begin` under the limit `c`: with `c` structs open it fails with `DepthLimit`
and changes nothing; otherwise it enters one more and saves the last field id. -/
theorem structBegin_of_depthInv (overflowChecks : Bool) (hi : DepthInv (some c) d n) :
    exec overflowChecks .structBegin d =
      if n = c then .error (protocolError .depthLimit s!"Maximum recursion depth {c} exceeded") d
      else .ok .unit { d with
        recursionDepth := n + 1
        readFieldIdStack := d.lastReadFieldId :: d.readFieldIdStack
        lastReadFieldId := 0 } := by
  rcases structBegin_cases overflowChecks hi with ⟨h, hlt⟩ | ⟨hc, h⟩
  · rw [h, if_neg (Nat.ne_of_lt (hlt c rfl))]
  · cases Option.some.inj hc; rw [h, if_pos rfl]

/-- `read_struct_end` with a struct open: the saved field id comes back. -/
theorem structEnd_of_depthInv (overflowChecks : Bool) (hi : DepthInv limit d n) (hn : 0 < n) :
    ∃ last stack, d.readFieldIdStack = last :: stack ∧
      exec overflowChecks .structEnd d = .ok .unit { d with
        recursionDepth := n - 1
        lastReadFieldId := last
        readFieldIdStack := stack } := by
  obtain ⟨last, stack, hs⟩ := List.exists_cons_of_length_pos (hi.stack_length ▸ hn)
  refine ⟨last, stack, hs, ?_⟩
  rw [← hi.depth_eq]
  exact bind_of_ok (readStructEnd_spec d overflowChecks (hi.depth_eq ▸ hn) hs)

/-- Every state of a session keeps the invariant. -/
theorem depthInv_of_reachable (h : Reachable (exec overflowChecks) (Fresh limit) d n) :
    DepthInv limit d n := by
  induction h with
  | init h => exact ⟨h.2.2, h.1, by rw [h.2.1]; rfl, fun _ _ => Nat.zero_le _⟩
  | @ok s s' n op v _ hend hr ih =>
    by_cases hb : op = .structBegin
    · subst hb
      rcases structBegin_cases overflowChecks ih with ⟨h, hlt⟩ | ⟨-, h⟩ <;> rw [h] at hr <;>
        cases hr
      exact ⟨ih.limit_eq, rfl, congrArg (· + 1) ih.stack_length, hlt⟩
    by_cases he : op = .structEnd
    · subst he
      obtain ⟨last, stack, hs, hend'⟩ := structEnd_of_depthInv _ ih (hend rfl)
      rw [hend'] at hr
      cases hr
      have hlen := ih.stack_length
      rw [hs, List.length_cons] at hlen
      exact ⟨ih.limit_eq, rfl, show stack.length = n - 1 by omega,
        fun c hc => (Nat.sub_le n 1).trans (ih.le_limit c hc)⟩
    rw [openAfter_of_ne hb he]
    exact ih.of_frame ((keeps_exec _ hb he).of_ok hr)
  | @error s s' n op ε _ hend hr ih =>
    by_cases hb : op = .structBegin
    · subst hb
      rcases structBegin_cases overflowChecks ih with ⟨h, -⟩ | ⟨-, h⟩ <;> rw [h] at hr <;>
        cases hr
      exact ih
    by_cases he : op = .structEnd
    · subst he
      obtain ⟨_, _, _, hend'⟩ := structEnd_of_depthInv _ ih (hend rfl)
      rw [hend'] at hr
      cases hr
    exact ih.of_frame ((keeps_exec _ hb he).of_error hr)

/-- From `n` open structs, `k` more can be entered while the limit allows. -/
theorem structBegins_ok (overflowChecks : Bool) (k : Nat) (hi : DepthInv (some c) d n)
    (hk : n + k ≤ c) :
    ∃ d', runReads (exec overflowChecks) (List.replicate k .structBegin) d =
      .ok (List.replicate k .unit) d' ∧ DepthInv (some c) d' (n + k) := by
  induction k generalizing d n with
  | zero => exact ⟨d, rfl, hi⟩
  | succ k ih =>
    have h1 := structBegin_of_depthInv overflowChecks hi
    rw [if_neg (by omega)] at h1
    have hi1 : DepthInv (some c) { d with
        recursionDepth := n + 1
        readFieldIdStack := d.lastReadFieldId :: d.readFieldIdStack
        lastReadFieldId := 0 } (n + 1) :=
      ⟨hi.limit_eq, rfl, congrArg (· + 1) hi.stack_length, fun _ h => by cases h; omega⟩
    obtain ⟨d', h2, hi'⟩ := ih hi1 (by omega)
    refine ⟨d', ?_, by rwa [Nat.add_right_comm] at hi'⟩
    rw [List.replicate_succ, List.replicate_succ, runReads_cons_ok h1 h2]

/-- From a fresh decoder, `c` nested structs are entered and the next one is refused. -/
theorem nested_structBegins (overflowChecks : Bool) (h : Fresh (some c) d) :
    ∃ d', runReads (exec overflowChecks) (List.replicate c .structBegin) d =
        .ok (List.replicate c .unit) d' ∧
      exec overflowChecks .structBegin d' =
        .error (protocolError .depthLimit s!"Maximum recursion depth {c} exceeded") d' := by
  have hi₀ : DepthInv (some c) d 0 :=
    depthInv_of_reachable (.init h : Reachable (exec overflowChecks) (Fresh (some c)) d 0)
  obtain ⟨d', hrun, hi⟩ := structBegins_ok overflowChecks c hi₀ (Nat.zero_add c).le
  exact ⟨d', hrun, by rw [structBegin_of_depthInv _ hi, if_pos (Nat.zero_add c)]⟩

/-! ## Container headers -/

/-- A list or set header comes back only with a count `check_container_size` accepted. -/
theorem readListSetBegin_checked {t : TType} {size : BitVec 32}
    (h : readListSetBegin d = .ok (t, size) d') :
    checkContainerSize d.config size (compactProtocolMinSerializedSize t) = .ok () := by
  obtain ⟨_, d₁, h₁, h⟩ := bind_eq_ok h
  obtain ⟨_, d₂, h₂, h⟩ := bind_eq_ok h
  have hcfg₂ : frame d₂ = frame d :=
    ((Keeps.ofExcept _).of_ok h₂).trans (confined_readByte.keeps.of_ok h₁)
  dsimp only at h
  split at h <;>
  · obtain ⟨_, d₃, h₃, h⟩ := bind_eq_ok h
    rw [get_bind] at h
    obtain ⟨_, _, h₄, h⟩ := bind_eq_ok h
    cases h
    have hcfg : frame d₃ = frame d :=
      ((by first | exact Keeps.pure _ | exact (confined_io (readVarintUnsigned_safe _)).keeps :
        Keeps frame _).of_ok h₃).trans hcfg₂
    exact (show d₃.config = d.config from congrArg Prod.fst hcfg) ▸ ofExcept_eq_ok h₄

/-- A map header comes back either empty, with no key and value types, or with both types and
a count `check_container_size` accepted. -/
theorem readMapBegin_checked {m : TMapIdentifier} (h : readMapBegin d = .ok m d') :
    (m.size = 0 ∧ m.keyType = none ∧ m.valueType = none) ∨
      ∃ k v, m.keyType = some k ∧ m.valueType = some v ∧
        checkContainerSize d.config m.size
          (compactProtocolMinSerializedSize k + compactProtocolMinSerializedSize v) = .ok () := by
  obtain ⟨_, d₁, h₁, h⟩ := bind_eq_ok h
  split at h
  · cases h; exact .inl ⟨rfl, rfl, rfl⟩
  obtain ⟨_, d₂, h₂, h⟩ := bind_eq_ok h
  obtain ⟨k, d₃, h₃, h⟩ := bind_eq_ok h
  obtain ⟨v, d₄, h₄, h⟩ := bind_eq_ok h
  rw [get_bind] at h
  obtain ⟨_, _, h₅, h⟩ := bind_eq_ok h
  cases h
  have hcfg : frame d₄ = frame d :=
    ((Keeps.ofExcept _).of_ok h₄).trans (((Keeps.ofExcept _).of_ok h₃).trans
      ((confined_readByte.keeps.of_ok h₂).trans
        ((confined_io (readVarintUnsigned_safe _)).keeps.of_ok h₁)))
  exact .inr ⟨k, v, rfl, rfl, (show d₄.config = d.config from congrArg Prod.fst hcfg) ▸ ofExcept_eq_ok h₅⟩

theorem readListBegin_checked {l : TListIdentifier} (h : readListBegin d = .ok l d') :
    checkContainerSize d.config l.size (compactProtocolMinSerializedSize l.elementType) = .ok () := by
  obtain ⟨⟨_, _⟩, _, h₁, h⟩ := bind_eq_ok h
  cases h
  exact readListSetBegin_checked h₁

theorem readSetBegin_checked {l : TSetIdentifier} (h : readSetBegin d = .ok l d') :
    checkContainerSize d.config l.size (compactProtocolMinSerializedSize l.elementType) = .ok () := by
  obtain ⟨⟨_, _⟩, _, h₁, h⟩ := bind_eq_ok h
  cases h
  exact readListSetBegin_checked h₁

/-- A long list or set header whose varint count, any the reader accepts, is negative as an `i32`
is refused with `NegativeSize`. -/
theorem readListSetBegin_negative (rest : List UInt8) {c : UInt8} {t : TType}
    (hc : collectionU8ToType c = .ok t) (hc16 : c.toNat < 16) {input : List UInt8} {x : BitVec 32}
    (hx : readVarintUnsigned 32 input = .ok x rest) (hn : x.toInt < 0) :
    readListSetBegin { d with transport := shortHeader 15 c :: input } =
      .error (protocolError .negativeSize s!"Negative container size: {x.toInt}")
        { d with transport := rest } := by
  rw [readListSetBegin_long_eq d rest hc hc16 hx, checkContainerSize_negative hn]; rfl

/-- So is a map count that is negative as an `i32`, before valid key and value types. -/
theorem readMapBegin_negative (rest : List UInt8) {ck cv : UInt8} {k v : TType}
    (hk : collectionU8ToType ck = .ok k) (hv : collectionU8ToType cv = .ok v) (hck : ck.toNat < 16)
    (hcv : cv.toNat < 16) {input : List UInt8} {x : BitVec 32}
    (hx : readVarintUnsigned 32 input = .ok x (shortHeader ck.toNat cv :: rest)) (hn : x.toInt < 0) :
    readMapBegin { d with transport := input } =
      .error (protocolError .negativeSize s!"Negative container size: {x.toInt}")
        { d with transport := rest } := by
  have hx0 : x ≠ 0 := by rintro rfl; exact absurd hn (by decide)
  rw [readMapBegin_eq d rest hk hv hck hcv hx hx0, checkContainerSize_negative hn]; rfl

/-! ## Byte strings -/

/-- `read_bytes` refuses a length above `max_string_size`, having read only the length. -/
theorem readBytes_sizeLimit (rest : List UInt8) {x : BitVec 32} {m : Nat}
    (hm : d.config.maxStringSize = some m) (hlt : m < x.toNat) :
    readBytes { d with transport := encodeVarint x.toNat ++ rest } =
      .error (protocolError .sizeLimit
          s!"Byte array size {x.toNat} exceeds maximum allowed size of {m}")
        { d with transport := rest } := by
  rw [readBytes, bind_of_ok (readU32_spec d rest x), get_bind]
  simp only [hm, if_pos hlt]
  rfl

/-! ## Field ids -/

/-- `read_field_begin` adds the delta of a short header to the last field id with `i16`'s
addition: after a long header for field `32767`, a short header with delta `1` panics in a
checked build. -/
theorem compact_fieldId_add_overflow :
    runReads (exec true) [.structBegin, .fieldBegin, .i32, .fieldEnd, .fieldBegin]
        (withConfig [0x05, 0xFE, 0xFF, 0x03, 0x00, 0x15] .noLimits) =
      .error (.panic "attempt to add with overflow") ⟨32767, [0], none, [], .noLimits, 1⟩ := by
  rfl

end TCompactInputProtocol

end ThriftProtocol
