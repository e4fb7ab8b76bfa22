import ThriftProtocol.Binary.Safety
import ThriftProtocol.Compact.Safety

/-!
# The decoders' guards, side by side

The two decoders check the same things of their input in different places; this module states
each guard once for both, from the per-codec results of `Binary/Safety.lean` and
`Compact/Safety.lean`.

* `decoders_depth_guard` — over every session that closes only open structs, the depth counts
  the open structs (and, in the compact decoder, so does the stack of saved field ids), never
  passes the limit `c`, and `read_struct_begin` is refused exactly when `c` structs are open;
  from a fresh decoder, `c` nested structs are entered and the next one is refused.
* `decoders_panic_only_on_field_id_overflow` — over the same sessions, under every
  configuration, the binary decoder never panics, and the compact decoder panics only on the
  `i16` addition of `read_field_begin`, in a checked build.
* `decoders_validate_container_counts` — every list, set or map header a decoder returns carries
  a count that `check_container_size` accepted, except the compact decoder's empty map; a
  well-typed header with a negative count, a compact count being any varint the decoder
  accepts, is refused with `NegativeSize`; `container_type_read_before_count` — the types come
  first, so a header whose type is not one fails with `InvalidData` whatever its count.
* `decoders_unmatched_struct_end` — what the depth guard does when the application closes a
  struct it never opened: the compact decoder panics in every build, the binary one in a checked
  build; in an unchecked build the binary decoder's depth wraps to `2 ^ 64 - 1`, and from then on,
  until a struct is closed, every `read_struct_begin` under a limit is refused.
-/

namespace ThriftProtocol

/-- The recursion-depth guard of both decoders, under the limit `c`. -/
theorem decoders_depth_guard (overflowChecks : Bool) (c : Nat) :
    (∀ d n, Reachable (TBinaryInputProtocol.exec overflowChecks) (TBinaryInputProtocol.Fresh (some c)) d n →
      d.recursionDepth = n ∧ n ≤ c ∧
        TBinaryInputProtocol.exec overflowChecks .structBegin d =
          if n = c then .error (protocolError .depthLimit s!"Maximum recursion depth {c} exceeded") d
          else .ok .unit { d with recursionDepth := n + 1 }) ∧
    (∀ d n,
      Reachable (TCompactInputProtocol.exec overflowChecks) (TCompactInputProtocol.Fresh (some c)) d n →
      d.recursionDepth = n ∧ d.readFieldIdStack.length = n ∧ n ≤ c ∧
        TCompactInputProtocol.exec overflowChecks .structBegin d =
          if n = c then .error (protocolError .depthLimit s!"Maximum recursion depth {c} exceeded") d
          else .ok .unit { d with
            recursionDepth := n + 1
            readFieldIdStack := d.lastReadFieldId :: d.readFieldIdStack
            lastReadFieldId := 0 }) ∧
    (∀ d, TBinaryInputProtocol.Fresh (some c) d → ∃ d',
      runReads (TBinaryInputProtocol.exec overflowChecks) (List.replicate c .structBegin) d =
        .ok (List.replicate c .unit) d' ∧
      TBinaryInputProtocol.exec overflowChecks .structBegin d' =
        .error (protocolError .depthLimit s!"Maximum recursion depth {c} exceeded") d') ∧
    (∀ d, TCompactInputProtocol.Fresh (some c) d → ∃ d',
      runReads (TCompactInputProtocol.exec overflowChecks) (List.replicate c .structBegin) d =
        .ok (List.replicate c .unit) d' ∧
      TCompactInputProtocol.exec overflowChecks .structBegin d' =
        .error (protocolError .depthLimit s!"Maximum recursion depth {c} exceeded") d') := by
  refine ⟨fun d n h => ?_, fun d n h => ?_, fun _ h => TBinaryInputProtocol.nested_structBegins _ h,
    fun _ h => TCompactInputProtocol.nested_structBegins _ h⟩
  · have hi := TBinaryInputProtocol.depthInv_of_reachable h
    exact ⟨hi.depth_eq, hi.le_limit c rfl, TBinaryInputProtocol.structBegin_of_depthInv _ hi⟩
  · have hi := TCompactInputProtocol.depthInv_of_reachable h
    exact ⟨hi.depth_eq, hi.stack_length, hi.le_limit c rfl,
      TCompactInputProtocol.structBegin_of_depthInv _ hi⟩

/-- Under the limit `1`, a compact decoder that has entered one struct refuses the next. -/
theorem compact_limit_one_refuses_second_struct :
    TCompactInputProtocol.exec false .structBegin ⟨0, [0], none, [], ⟨none, none, none, some 1⟩, 1⟩ =
      .error (protocolError .depthLimit "Maximum recursion depth 1 exceeded")
        ⟨0, [0], none, [], ⟨none, none, none, some 1⟩, 1⟩ := by
  have h := ((decoders_depth_guard false 1).2.1 _ 1
    (@Reachable.ok _ _ _ (TCompactInputProtocol.withConfig [] ⟨none, none, none, some 1⟩) _ 0
      .structBegin .unit (.init ⟨rfl, rfl, rfl⟩) (fun h => by cases h) rfl)).2.2.2
  rwa [if_pos rfl] at h

/-- The container-count guard of both decoders: what a returned header's count satisfies, and
the refusal of a negative count. -/
theorem decoders_validate_container_counts :
    (∀ (d d' : TBinaryInputProtocol) (l : TListIdentifier),
      TBinaryInputProtocol.readListBegin d = .ok l d' →
      CountChecked d.config l.size (TBinaryInputProtocol.minSerializedSize l.elementType)) ∧
    (∀ (d d' : TBinaryInputProtocol) (l : TSetIdentifier),
      TBinaryInputProtocol.readSetBegin d = .ok l d' →
      CountChecked d.config l.size (TBinaryInputProtocol.minSerializedSize l.elementType)) ∧
    (∀ (d d' : TBinaryInputProtocol) (m : TMapIdentifier),
      TBinaryInputProtocol.readMapBegin d = .ok m d' →
      ∃ k v, m.keyType = some k ∧ m.valueType = some v ∧ CountChecked d.config m.size
        (TBinaryInputProtocol.minSerializedSize k + TBinaryInputProtocol.minSerializedSize v)) ∧
    (∀ (d d' : TCompactInputProtocol) (l : TListIdentifier),
      TCompactInputProtocol.readListBegin d = .ok l d' →
      CountChecked d.config l.size (compactProtocolMinSerializedSize l.elementType)) ∧
    (∀ (d d' : TCompactInputProtocol) (l : TSetIdentifier),
      TCompactInputProtocol.readSetBegin d = .ok l d' →
      CountChecked d.config l.size (compactProtocolMinSerializedSize l.elementType)) ∧
    (∀ (d d' : TCompactInputProtocol) (m : TMapIdentifier),
      TCompactInputProtocol.readMapBegin d = .ok m d' →
      (m.size = 0 ∧ m.keyType = none ∧ m.valueType = none) ∨
        ∃ k v, m.keyType = some k ∧ m.valueType = some v ∧ CountChecked d.config m.size
          (compactProtocolMinSerializedSize k + compactProtocolMinSerializedSize v)) ∧
    (∀ (d : TBinaryInputProtocol) (rest : List UInt8) (t : TType) (x : BitVec 32), t ≠ .utf7 →
      x.toInt < 0 →
      TBinaryInputProtocol.readListBegin
          { d with transport := fieldTypeToU8 t :: beBytes 4 x.toNat ++ rest } =
        .error (protocolError .negativeSize s!"Negative container size: {x.toInt}")
          { d with transport := rest } ∧
      TBinaryInputProtocol.readSetBegin
          { d with transport := fieldTypeToU8 t :: beBytes 4 x.toNat ++ rest } =
        .error (protocolError .negativeSize s!"Negative container size: {x.toInt}")
          { d with transport := rest }) ∧
    (∀ (d : TBinaryInputProtocol) (rest : List UInt8) (k v : TType) (x : BitVec 32), k ≠ .utf7 →
      v ≠ .utf7 → x.toInt < 0 →
      TBinaryInputProtocol.readMapBegin
          { d with transport := fieldTypeToU8 k :: fieldTypeToU8 v :: beBytes 4 x.toNat ++ rest } =
        .error (protocolError .negativeSize s!"Negative container size: {x.toInt}")
          { d with transport := rest }) ∧
    (∀ (d : TCompactInputProtocol) (input rest : List UInt8) (c : UInt8) (t : TType)
      (x : BitVec 32), collectionU8ToType c = .ok t → c.toNat < 16 →
      readVarintUnsigned 32 input = .ok x rest → x.toInt < 0 →
      TCompactInputProtocol.readListBegin { d with transport := shortHeader 15 c :: input } =
        .error (protocolError .negativeSize s!"Negative container size: {x.toInt}")
          { d with transport := rest } ∧
      TCompactInputProtocol.readSetBegin { d with transport := shortHeader 15 c :: input } =
        .error (protocolError .negativeSize s!"Negative container size: {x.toInt}")
          { d with transport := rest }) ∧
    (∀ (d : TCompactInputProtocol) (input rest : List UInt8) (ck cv : UInt8) (k v : TType)
      (x : BitVec 32), collectionU8ToType ck = .ok k → collectionU8ToType cv = .ok v →
      ck.toNat < 16 → cv.toNat < 16 → readVarintUnsigned 32 input = .ok x (shortHeader ck.toNat cv :: rest) →
      x.toInt < 0 →
      TCompactInputProtocol.readMapBegin { d with transport := input } =
        .error (protocolError .negativeSize s!"Negative container size: {x.toInt}")
          { d with transport := rest }) := by
  refine ⟨fun _ _ _ h => .of_accepted (TBinaryInputProtocol.readListBegin_checked h),
    fun _ _ _ h => .of_accepted (TBinaryInputProtocol.readSetBegin_checked h),
    fun _ _ _ h => ?_,
    fun _ _ _ h => .of_accepted (TCompactInputProtocol.readListBegin_checked h),
    fun _ _ _ h => .of_accepted (TCompactInputProtocol.readSetBegin_checked h),
    fun _ _ _ h => ?_,
    fun _ rest _ _ hu hn => ?_,
    fun _ rest _ _ _ hk hv hn => TBinaryInputProtocol.readMapBegin_negative rest hk hv hn,
    fun _ _ rest _ _ _ hc hc16 hx hn => ?_,
    fun _ _ rest _ _ _ _ _ hk hv hck hcv hx hn =>
      TCompactInputProtocol.readMapBegin_negative rest hk hv hck hcv hx hn⟩
  · obtain ⟨k, v, hk, hv, hc⟩ := TBinaryInputProtocol.readMapBegin_checked h
    exact ⟨k, v, hk, hv, .of_accepted hc⟩
  · obtain h0 | ⟨k, v, hk, hv, hc⟩ := TCompactInputProtocol.readMapBegin_checked h
    · exact .inl h0
    · exact .inr ⟨k, v, hk, hv, .of_accepted hc⟩
  · exact ⟨bind_of_error (TBinaryInputProtocol.readListSetBegin_negative rest hu hn),
      bind_of_error (TBinaryInputProtocol.readListSetBegin_negative rest hu hn)⟩
  · exact ⟨bind_of_error (TCompactInputProtocol.readListSetBegin_negative rest hc hc16 hx hn),
      bind_of_error (TCompactInputProtocol.readListSetBegin_negative rest hc hc16 hx hn)⟩

/-- Both decoders read a container's types before its count: a header whose count is negative
but whose type byte or nibble is not a type fails with `InvalidData`, and a compact map header
with a count and no type byte fails at the end of the input; with a valid type byte, the same
count `-1` is refused with `NegativeSize`. -/
theorem container_type_read_before_count :
    TBinaryInputProtocol.readListBegin
        (TBinaryInputProtocol.withConfig [0x05, 0xFF, 0xFF, 0xFF, 0xFF] true .noLimits) =
      .error (protocolError .invalidData "cannot convert 5 to TType")
        (TBinaryInputProtocol.withConfig [0xFF, 0xFF, 0xFF, 0xFF] true .noLimits) ∧
    TCompactInputProtocol.readListBegin
        (TCompactInputProtocol.withConfig [0xFE, 0xFF, 0xFF, 0xFF, 0xFF, 0x0F] .noLimits) =
      .error (protocolError .invalidData "cannot convert 14 into TType")
        (TCompactInputProtocol.withConfig [0xFF, 0xFF, 0xFF, 0xFF, 0x0F] .noLimits) ∧
    TCompactInputProtocol.readMapBegin
        (TCompactInputProtocol.withConfig [0xFF, 0xFF, 0xFF, 0xFF, 0x0F, 0xE5] .noLimits) =
      .error (protocolError .invalidData "cannot convert 14 into TType")
        (TCompactInputProtocol.withConfig [] .noLimits) ∧
    TCompactInputProtocol.readMapBegin
        (TCompactInputProtocol.withConfig [0xFF, 0xFF, 0xFF, 0xFF, 0x0F] .noLimits) =
      .error (.transport .endOfFile "failed to fill whole buffer")
        (TCompactInputProtocol.withConfig [] .noLimits) ∧
    TCompactInputProtocol.readMapBegin
        (TCompactInputProtocol.withConfig [0xFF, 0xFF, 0xFF, 0xFF, 0x0F, 0x55] .noLimits) =
      .error (protocolError .negativeSize "Negative container size: -1")
        (TCompactInputProtocol.withConfig [] .noLimits) :=
  ⟨rfl, rfl, rfl, rfl, rfl⟩

/-! ## Unmatched struct ends

The sessions above close only open structs. Here the application closes one more: from a state
with no struct open, `read_struct_end` subtracts from a depth of `0`. -/

namespace TBinaryInputProtocol

variable {c : Nat} {d : TBinaryInputProtocol}

/-- With no struct open, `read_struct_end` panics in a checked build and wraps the depth
otherwise. -/
theorem structEnd_unmatched (overflowChecks : Bool) (hd : d.recursionDepth = 0) :
    exec overflowChecks .structEnd d =
      if overflowChecks then .error (.panic "attempt to subtract with overflow") d
      else .ok .unit { d with recursionDepth := 2 ^ 64 - 1 } := by
  cases overflowChecks <;>
    simp only [exec, readStructEnd, decUsize, hd, bind, EStateM.bind, get, getThe, MonadStateOf.get,
      EStateM.get, set, EStateM.set, ↓reduceIte, throw, throwThe, MonadExceptOf.throw, EStateM.throw,
      pure, EStateM.pure, Bool.false_eq_true]

/-- At or past the limit, `read_struct_begin` is refused and changes nothing. -/
theorem structBegin_refused (overflowChecks : Bool) (hc : d.config.maxRecursionDepth = some c)
    (hle : c ≤ d.recursionDepth) :
    exec overflowChecks .structBegin d =
      .error (protocolError .depthLimit s!"Maximum recursion depth {c} exceeded") d := by
  simp only [exec, readStructBegin, bind, EStateM.bind, checkRecursionDepth, hc, if_pos hle]

/-- Once the depth is at or past the limit, it stays there until a struct is closed, so a run
that closes none and succeeds opens none. -/
theorem structBegin_absent (overflowChecks : Bool) (hc : d.config.maxRecursionDepth = some c)
    (hle : c ≤ d.recursionDepth) {ops : List ReadOp} {vs : List ReadValue} {d' : TBinaryInputProtocol}
    (he : .structEnd ∉ ops) (h : runReads (exec overflowChecks) ops d = .ok vs d') :
    .structBegin ∉ ops := by
  induction ops generalizing d vs with
  | nil => exact List.not_mem_nil _
  | cons op ops ih =>
    obtain ⟨v, d₁, vs', hop, hrest⟩ := runReads_cons_inv h
    have hne : op ≠ .structEnd := fun h => he (h ▸ List.mem_cons_self _ _)
    have hb : op ≠ .structBegin := by
      rintro rfl
      rw [structBegin_refused overflowChecks hc hle] at hop
      cases hop
    have hf := (confined_exec overflowChecks hb hne).keeps.of_ok hop
    simp only [frame, Prod.mk.injEq] at hf
    exact List.not_mem_cons_of_ne_of_not_mem (Ne.symm hb)
      (ih (hf.2.1 ▸ hc) (hf.2.2 ▸ hle) (fun h => he (List.mem_cons_of_mem _ h)) hrest)

end TBinaryInputProtocol

/-- With no struct open, the compact decoder's `read_struct_end` panics: on the subtraction in a
checked build, and otherwise on the empty stack of saved field ids, after the depth has wrapped. -/
theorem TCompactInputProtocol.structEnd_unmatched (overflowChecks : Bool) {d : TCompactInputProtocol}
    (hd : d.recursionDepth = 0) (hs : d.readFieldIdStack = []) :
    exec overflowChecks .structEnd d =
      if overflowChecks then .error (.panic "attempt to subtract with overflow") d
      else .error (.panic "should have previous field ids") { d with recursionDepth := 2 ^ 64 - 1 } := by
  cases overflowChecks <;>
    simp only [exec, readStructEnd, decUsize, hd, hs, bind, EStateM.bind, get, getThe,
      MonadStateOf.get, EStateM.get, set, EStateM.set, ↓reduceIte, expect, List.head?_nil, throw,
      throwThe, MonadExceptOf.throw, EStateM.throw, pure, EStateM.pure, Bool.false_eq_true]

/-- A `read_struct_end` with no struct open, from any state of a session, in each decoder and
build; under a limit, a binary session that has wrapped its depth so refuses every struct until it
closes one. -/
theorem decoders_unmatched_struct_end (overflowChecks : Bool) (limit : Option Nat) :
    (∀ d, Reachable (TBinaryInputProtocol.exec overflowChecks) (TBinaryInputProtocol.Fresh limit) d 0 →
      TBinaryInputProtocol.exec overflowChecks .structEnd d =
        if overflowChecks then .error (.panic "attempt to subtract with overflow") d
        else .ok .unit { d with recursionDepth := 2 ^ 64 - 1 }) ∧
    (∀ c d, limit = some c → c < 2 ^ 64 →
      Reachable (TBinaryInputProtocol.exec overflowChecks) (TBinaryInputProtocol.Fresh limit) d 0 →
      ∀ ops vs d', .structEnd ∉ ops →
        runReads (TBinaryInputProtocol.exec overflowChecks) (.structEnd :: ops) d = .ok vs d' →
        .structBegin ∉ ops) ∧
    (∀ d, Reachable (TCompactInputProtocol.exec overflowChecks) (TCompactInputProtocol.Fresh limit) d 0 →
      TCompactInputProtocol.exec overflowChecks .structEnd d =
        if overflowChecks then .error (.panic "attempt to subtract with overflow") d
        else .error (.panic "should have previous field ids")
          { d with recursionDepth := 2 ^ 64 - 1 }) := by
  refine ⟨fun d h => ?_, fun c d hc hlt h ops vs d' he hr => ?_, fun d h => ?_⟩
  · exact TBinaryInputProtocol.structEnd_unmatched _ (TBinaryInputProtocol.depthInv_of_reachable h).depth_eq
  · have hi := TBinaryInputProtocol.depthInv_of_reachable h
    obtain ⟨v, d₁, vs', hend, hrest⟩ := runReads_cons_inv hr
    rw [TBinaryInputProtocol.structEnd_unmatched _ hi.depth_eq] at hend
    cases overflowChecks <;> cases hend
    refine @TBinaryInputProtocol.structBegin_absent c _ false ?_ ?_ _ _ _ he hrest
    · exact hi.limit_eq.trans hc
    · show c ≤ 2 ^ 64 - 1; omega
  · have hi := TCompactInputProtocol.depthInv_of_reachable h
    exact TCompactInputProtocol.structEnd_unmatched _ hi.depth_eq
      (List.length_eq_zero.mp hi.stack_length)

/-- Under the limit `64`, an unchecked binary session that closes a struct it never opened cannot
open the next one. -/
theorem binary_unmatched_struct_end_limit_64 :
    ∀ vs d', runReads (TBinaryInputProtocol.exec false) [.structEnd, .structBegin]
      (TBinaryInputProtocol.withConfig [] true ⟨none, none, none, some 64⟩) ≠ .ok vs d' :=
  fun vs d' h => (decoders_unmatched_struct_end false (some 64)).2.1 64 _ rfl (by decide)
    (.init ⟨rfl, rfl⟩) [.structBegin] vs d' (by decide) h (List.mem_singleton_self _)

end ThriftProtocol
