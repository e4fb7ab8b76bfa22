import ThriftProtocol.Binary
import ThriftProtocol.Compact

/-!
# Streaming

A codec half talks to a stream: a decoder takes bytes from the front of what it has not read
yet, an encoder adds bytes at the end of what it has written. On a connection the bytes of the
next message follow those of this one, and two properties make the halves usable there.

* No read looks ahead. With more bytes after the unread input, a read returns what it returned,
  or fails as it failed unless it ran out of input, and leaves the extra bytes unread. Proved
  once for each construct the codecs are written with (`Oblivious`), then for the reads of the
  transports (`noLookahead_readExact`, `noLookahead_readVarintGroups`), for every operation of
  both decoders (`TBinaryInputProtocol.noLookahead_exec`, `TCompactInputProtocol.noLookahead_exec`)
  and, by induction over the operations, for every session (`oblivious_runReads`,
  `decoders_never_read_ahead`).
* No write of the compact encoder looks back. With other bytes written before the output, a
  write does what it did, its bytes follow those, and a failure is the same failure
  (`TCompactOutputProtocol.oblivious_exec`, `oblivious_runWrites`); the independence of messages
  in `Compact/Sessions.lean` rests on it.

Both are stated with `fed`, which adds bytes to the state a result leaves: after the unread
input of a decoder (`feed`), before the output of an encoder (`under`).
-/

namespace ThriftProtocol

/-- A read that failed because its input ended: the `EndOfFile` of `read_exact` and of
`read_varint`. -/
def Failure.EndOfInput : Failure → Prop
  | .transport .endOfFile _ => True
  | _ => False

/-! ## Computations that ignore added bytes -/

section Oblivious

variable {σ α β : Type} (P : Failure → Prop) (feed : σ → List UInt8 → σ)

/-- A result that is not a failure satisfying `P`. -/
def Avoids : EStateM.Result Failure σ α → Prop
  | .ok _ _ => True
  | .error ε _ => ¬ P ε

/-- A result with `extra` given to the state it leaves. -/
def fed (r : EStateM.Result Failure σ α) (extra : List UInt8) : EStateM.Result Failure σ α :=
  match r with
  | .ok a s => .ok a (feed s extra)
  | .error ε s => .error ε (feed s extra)

/-- `x` ignores the bytes `feed` adds to a state: unless it fails with a failure satisfying `P`,
from a state given `extra` it does what it did, and the state it leaves has `extra` too. A
decoder's `feed` puts bytes after its unread input and `P` is running out of input; an
encoder's puts bytes before its output and `P` is nothing. -/
def Oblivious (x : EStateM Failure σ α) : Prop :=
  ∀ s extra, Avoids P (x s) → x (feed s extra) = fed feed (x s) extra

variable {P feed}

theorem Oblivious.pure (a : α) : Oblivious P feed (Pure.pure a : EStateM Failure σ α) :=
  fun _ _ _ => rfl

theorem Oblivious.throw (ε : Failure) : Oblivious P feed (throw ε : EStateM Failure σ α) :=
  fun _ _ _ => rfl

theorem Oblivious.bind {x : EStateM Failure σ α} {k : α → EStateM Failure σ β}
    (hx : Oblivious P feed x) (hk : ∀ a, Oblivious P feed (k a)) :
    Oblivious P feed (x >>= k) := by
  intro s extra h
  simp only [Bind.bind, EStateM.bind] at h ⊢
  cases hs : x s with
  | ok a s₁ =>
    rw [hs] at h
    rw [hx s extra (by rw [hs]; trivial), hs]
    exact hk a s₁ extra h
  | error ε s₁ =>
    rw [hs] at h
    rw [hx s extra (by rw [hs]; exact h), hs]
    rfl

/-- Read the state and go on with what does not depend on the bytes `feed` adds. -/
theorem Oblivious.get_bind {k : σ → EStateM Failure σ α} (hk : ∀ s, Oblivious P feed (k s))
    (hfeed : ∀ s extra, k (feed s extra) = k s) : Oblivious P feed (get >>= k) :=
  fun s extra h => by
    show k (feed s extra) (feed s extra) = _
    rw [hfeed]
    exact hk s s extra h

/-- Read the state, store a changed copy of it, and go on: `read_bool`'s shape. -/
theorem Oblivious.get_set_bind {g : σ → σ} {k : σ → EStateM Failure σ α}
    (hg : ∀ s extra, g (feed s extra) = feed (g s) extra) (hk : ∀ s, Oblivious P feed (k s))
    (hfeed : ∀ s extra, k (feed s extra) = k s) :
    Oblivious P feed (get >>= fun s => set (g s) >>= fun _ => k s) :=
  fun s extra h => by
    show k (feed s extra) (g (feed s extra)) = _
    rw [hfeed, hg]
    exact hk s (g s) extra h

theorem Oblivious.modify {g : σ → σ} (hg : ∀ s extra, g (feed s extra) = feed (g s) extra) :
    Oblivious P feed (modify g : EStateM Failure σ PUnit) :=
  fun s extra _ => by
    show EStateM.Result.ok _ (g (feed s extra)) = _
    rw [hg]; rfl

theorem Oblivious.ite {c : Prop} [Decidable c] {x y : EStateM Failure σ α}
    (hx : Oblivious P feed x) (hy : Oblivious P feed y) :
    Oblivious P feed (if c then x else y) := by
  split <;> assumption

theorem Oblivious.ofExcept (e : Except Failure α) :
    Oblivious P feed (ofExcept e : EStateM Failure σ α) := by
  cases e <;> exact fun _ _ _ => rfl

theorem Oblivious.expect (o : Option α) (message : String) :
    Oblivious P feed (expect o message : EStateM Failure σ α) := by
  cases o <;> exact fun _ _ _ => rfl

theorem Oblivious.addI16 (overflowChecks : Bool) (a b : BitVec 16) :
    Oblivious P feed (addI16 overflowChecks a b : EStateM Failure σ (BitVec 16)) :=
  .ite (.throw _) (.pure _)

theorem Oblivious.subI16 (overflowChecks : Bool) (a b : BitVec 16) :
    Oblivious P feed (subI16 overflowChecks a b : EStateM Failure σ (BitVec 16)) :=
  .ite (.throw _) (.pure _)

/-- A read on the transport field of a codec half ignores added input as the read does. -/
theorem Oblivious.transport {get : σ → List UInt8} {set : σ → List UInt8 → σ}
    (hget : ∀ s extra, get (feed s extra) = get s ++ extra)
    (hset : ∀ s t extra, set (feed s extra) (t ++ extra) = feed (set s t) extra)
    {r : Reader α} (hr : Oblivious P (· ++ ·) r) : Oblivious P feed (onTransport get set r) := by
  intro s extra h
  unfold onTransport at h ⊢
  rw [hget]
  cases hs : r (get s) with
  | ok a t =>
    rw [hr _ extra (by rw [hs]; trivial), hs]
    exact congrArg _ (hset s t extra)
  | error ε t =>
    rw [hs] at h
    rw [hr _ extra (by rw [hs]; exact h), hs]
    exact congrArg _ (hset s t extra)

/-- A session ignores added bytes as its operations do. -/
theorem oblivious_runReads {read : ReadOp → EStateM Failure σ ReadValue}
    (h : ∀ op, Oblivious P feed (read op)) : ∀ ops, Oblivious P feed (runReads read ops)
  | [] => .pure _
  | op :: ops => (h op).bind fun _ => (oblivious_runReads h ops).bind fun _ => .pure _

theorem oblivious_runWrites {exec : WriteOp → EStateM Failure σ Unit}
    (h : ∀ op, Oblivious P feed (exec op)) : ∀ ops, Oblivious P feed (runWrites exec ops)
  | [] => .pure _
  | op :: ops => (h op).bind fun _ => oblivious_runWrites h ops

end Oblivious

/-! ## The transports' reads -/

theorem noLookahead_readExact (n : Nat) : Oblivious Failure.EndOfInput (· ++ ·) (readExact n) := by
  intro input extra h
  by_cases hn : n ≤ input.length
  · rw [readExact_of_le hn, readExact_of_le (by simp only [List.length_append]; omega),
      List.take_append_of_le_length hn, List.drop_append_of_le_length hn]
    rfl
  · rw [readExact_of_lt (by omega)] at h
    exact absurd trivial h

theorem noLookahead_readU8 : Oblivious Failure.EndOfInput (· ++ ·) readU8
  | [], _, h => absurd trivial h
  | _ :: _, _, _ => rfl

theorem noLookahead_readUuidBytes : Oblivious Failure.EndOfInput (· ++ ·) readUuidBytes := by
  intro input extra h
  unfold readUuidBytes at h ⊢
  split at h
  · rename_i hn
    rw [dif_pos (by simp only [List.length_append]; omega), dif_pos hn]
    simp only [fed, List.take_append_of_le_length hn, List.drop_append_of_le_length hn]
  · exact absurd trivial h

theorem noLookahead_readLE (n : Nat) : Oblivious Failure.EndOfInput (· ++ ·) (readLE n) :=
  (noLookahead_readExact n).bind fun _ => .pure _

theorem noLookahead_readBE (n : Nat) : Oblivious Failure.EndOfInput (· ++ ·) (readBE n) :=
  (noLookahead_readExact n).bind fun _ => .pure _

theorem noLookahead_readVarintGroups : ∀ k, Oblivious Failure.EndOfInput (· ++ ·) (readVarintGroups k)
  | 0, [], _, h => absurd trivial h
  | 0, _ :: _, _, _ => rfl
  | _ + 1, [], _, h => absurd trivial h
  | k + 1, b :: rest, extra, h => by
    simp only [readVarintGroups, List.cons_append] at h ⊢
    split
    · rfl
    · rename_i hb
      rw [if_neg hb] at h
      cases hr : readVarintGroups k rest with
      | ok v r =>
        rw [noLookahead_readVarintGroups k rest extra (by rw [hr]; trivial), hr]
        rfl
      | error ε r =>
        rw [hr] at h
        rw [noLookahead_readVarintGroups k rest extra (by rw [hr]; exact h), hr]
        rfl

theorem noLookahead_readVarintUnsigned (w : Nat) : Oblivious Failure.EndOfInput (· ++ ·) (readVarintUnsigned w) :=
  ((noLookahead_readVarintGroups _).bind fun _ => .pure _).bind fun _ => .pure _

theorem noLookahead_readVarintSigned (w : Nat) : Oblivious Failure.EndOfInput (· ++ ·) (readVarintSigned w) :=
  ((noLookahead_readVarintGroups _).bind fun _ => .pure _).bind fun _ => .pure _

/-! ## The binary decoder -/

namespace TBinaryInputProtocol

/-- The decoder with `extra` after its unread input. -/
def feed (d : TBinaryInputProtocol) (extra : List UInt8) : TBinaryInputProtocol :=
  { d with transport := d.transport ++ extra }

theorem noLookahead_io {α : Type} {r : Reader α} (hr : Oblivious Failure.EndOfInput (· ++ ·) r) :
    Oblivious Failure.EndOfInput feed (io r) :=
  .transport (fun _ _ => rfl) (fun _ _ _ => rfl) hr

theorem noLookahead_readByte : Oblivious Failure.EndOfInput feed readByte := noLookahead_io noLookahead_readU8

theorem noLookahead_readI8 : Oblivious Failure.EndOfInput feed readI8 :=
  (noLookahead_io noLookahead_readU8).bind fun _ => .pure _

/-- `read_i16`, `read_i32`, `read_i64` and `read_double`: big-endian bytes, then the value. -/
theorem noLookahead_readInt {n w : Nat} :
    Oblivious Failure.EndOfInput feed (do let v ← io (readBE n); pure (BitVec.ofNat w v)) :=
  (noLookahead_io (ThriftProtocol.noLookahead_readBE n)).bind fun _ => .pure _

theorem noLookahead_readBytes : Oblivious Failure.EndOfInput feed readBytes := by
  refine noLookahead_readInt.bind fun _ => ?_
  dsimp only
  split <;> refine Oblivious.bind (by first | exact .throw _ | exact .pure _) fun _ =>
    Oblivious.get_bind (fun _ => ?_) (by intros; rfl) <;> split <;> (try split) <;>
    exact Oblivious.bind (by first | exact .throw _ | exact .pure _) fun _ =>
      noLookahead_io (noLookahead_readExact _)

theorem noLookahead_readString : Oblivious Failure.EndOfInput feed readString :=
  noLookahead_readBytes.bind fun _ => .ofExcept _

theorem noLookahead_readMessageBegin : Oblivious Failure.EndOfInput feed readMessageBegin := by
  refine (noLookahead_io (noLookahead_readExact _)).bind fun _ => ?_
  dsimp only
  split
  · exact .ite (.throw _) ((Oblivious.ofExcept _).bind fun _ =>
      noLookahead_readString.bind fun _ => noLookahead_readInt.bind fun _ => .pure _)
  · refine Oblivious.get_bind (fun _ => .ite (.throw _) ?_) (by intros; rfl)
    exact (noLookahead_io (noLookahead_readExact _)).bind fun _ =>
      (Oblivious.ofExcept _).bind fun _ => noLookahead_readByte.bind fun _ =>
        (Oblivious.ofExcept _).bind fun _ => noLookahead_readInt.bind fun _ => .pure _

theorem noLookahead_checkRecursionDepth : Oblivious Failure.EndOfInput feed checkRecursionDepth := by
  intro d extra _
  unfold checkRecursionDepth
  dsimp only [feed]
  split <;> (try split) <;> rfl

theorem noLookahead_readStructEnd (overflowChecks : Bool) :
    Oblivious Failure.EndOfInput feed (readStructEnd overflowChecks) := by
  intro d extra _
  show (decUsize overflowChecks d.recursionDepth >>= fun depth =>
      set ({ feed d extra with recursionDepth := depth } : TBinaryInputProtocol)) (feed d extra) =
    fed feed ((decUsize overflowChecks d.recursionDepth >>= fun depth =>
      set ({ d with recursionDepth := depth } : TBinaryInputProtocol)) d) extra
  unfold decUsize
  split <;> (try split) <;> rfl

theorem noLookahead_readFieldBegin : Oblivious Failure.EndOfInput feed readFieldBegin := by
  refine noLookahead_readByte.bind fun _ => (Oblivious.ofExcept _).bind fun _ => ?_
  dsimp only
  split <;> exact Oblivious.bind (by first | exact .pure _ | exact noLookahead_readInt)
    fun _ => .pure _

theorem noLookahead_readListSetBegin : Oblivious Failure.EndOfInput feed readListSetBegin :=
  noLookahead_readByte.bind fun _ => (Oblivious.ofExcept _).bind fun _ =>
    noLookahead_readInt.bind fun _ => Oblivious.get_bind
      (fun _ => (Oblivious.ofExcept _).bind fun _ => .pure _) (by intros; rfl)

theorem noLookahead_readMapBegin : Oblivious Failure.EndOfInput feed readMapBegin :=
  noLookahead_readByte.bind fun _ => (Oblivious.ofExcept _).bind fun _ =>
    noLookahead_readByte.bind fun _ => (Oblivious.ofExcept _).bind fun _ =>
      noLookahead_readInt.bind fun _ => Oblivious.get_bind
        (fun _ => (Oblivious.ofExcept _).bind fun _ => .pure _) (by intros; rfl)

/-- No read of the binary decoder looks ahead. -/
theorem noLookahead_exec (overflowChecks : Bool) (op : ReadOp) :
    Oblivious Failure.EndOfInput feed (exec overflowChecks op) := by
  cases op
  case messageBegin => exact noLookahead_readMessageBegin.bind fun _ => .pure _
  case structBegin =>
    exact (noLookahead_checkRecursionDepth.bind fun _ => .modify (by intros; rfl)).bind
      fun _ => .pure _
  case structEnd => exact (noLookahead_readStructEnd _).bind fun _ => .pure _
  case fieldBegin => exact noLookahead_readFieldBegin.bind fun _ => .pure _
  case bytes => exact noLookahead_readBytes.bind fun _ => .pure _
  case bool => exact (noLookahead_readI8.bind fun _ => .pure _).bind fun _ => .pure _
  case i8 => exact noLookahead_readI8.bind fun _ => .pure _
  case i16 | i32 | i64 | double => exact noLookahead_readInt.bind fun _ => .pure _
  case string => exact noLookahead_readString.bind fun _ => .pure _
  case uuid => exact (noLookahead_io noLookahead_readUuidBytes).bind fun _ => .pure _
  case listBegin | setBegin =>
    exact (noLookahead_readListSetBegin.bind fun _ => .pure _).bind fun _ => .pure _
  case mapBegin => exact noLookahead_readMapBegin.bind fun _ => .pure _
  case byte => exact noLookahead_readByte.bind fun _ => .pure _
  all_goals exact .pure _

end TBinaryInputProtocol

/-! ## The compact decoder -/

namespace TCompactInputProtocol

/-- The decoder with `extra` after its unread input. -/
def feed (d : TCompactInputProtocol) (extra : List UInt8) : TCompactInputProtocol :=
  { d with transport := d.transport ++ extra }

theorem noLookahead_io {α : Type} {r : Reader α} (hr : Oblivious Failure.EndOfInput (· ++ ·) r) :
    Oblivious Failure.EndOfInput feed (io r) :=
  .transport (fun _ _ => rfl) (fun _ _ _ => rfl) hr

theorem noLookahead_readByte : Oblivious Failure.EndOfInput feed readByte := noLookahead_io noLookahead_readU8

theorem noLookahead_readBytes : Oblivious Failure.EndOfInput feed readBytes := by
  refine (noLookahead_io (noLookahead_readVarintUnsigned _)).bind fun _ =>
    Oblivious.get_bind (fun _ => ?_) (by intros; rfl)
  dsimp only
  split <;> (try split) <;>
    exact Oblivious.bind (by first | exact .throw _ | exact .pure _) fun _ =>
      noLookahead_io (noLookahead_readExact _)

theorem noLookahead_readString : Oblivious Failure.EndOfInput feed readString :=
  noLookahead_readBytes.bind fun _ => .ofExcept _

theorem noLookahead_readMessageBegin : Oblivious Failure.EndOfInput feed readMessageBegin := by
  refine noLookahead_readByte.bind fun _ => ?_
  dsimp only
  split <;> refine Oblivious.bind (by first | exact .throw _ | exact .pure _) fun _ =>
    noLookahead_readByte.bind fun _ => ?_ <;> dsimp only <;> split <;>
    exact Oblivious.bind (by first | exact .throw _ | exact .pure _) fun _ =>
      (Oblivious.ofExcept _).bind fun _ =>
        (noLookahead_io (noLookahead_readVarintUnsigned _)).bind fun _ =>
          noLookahead_readString.bind fun _ => (Oblivious.modify (by intros; rfl)).bind fun _ =>
            .pure _

theorem noLookahead_checkRecursionDepth : Oblivious Failure.EndOfInput feed checkRecursionDepth := by
  intro d extra _
  unfold checkRecursionDepth
  dsimp only [feed]
  split <;> (try split) <;> rfl

theorem noLookahead_readStructEnd (overflowChecks : Bool) :
    Oblivious Failure.EndOfInput feed (readStructEnd overflowChecks) := by
  intro d extra _
  simp only [readStructEnd, get_bind]
  dsimp only [feed]
  by_cases h₀ : d.recursionDepth = 0
  · cases overflowChecks <;> simp only [decUsize, if_pos h₀, ↓reduceIte, Bool.false_eq_true] <;>
      cases d.readFieldIdStack.head? <;> rfl
  · simp only [decUsize, if_neg h₀]
    cases d.readFieldIdStack.head? <;> rfl

theorem noLookahead_readFieldBegin (overflowChecks : Bool) :
    Oblivious Failure.EndOfInput feed (readFieldBegin overflowChecks) := by
  refine noLookahead_readByte.bind fun _ => Oblivious.bind ?_ fun _ => ?_
  · unfold readFieldTypeNibble
    split
    all_goals first
      | exact (Oblivious.modify (by intros; rfl)).bind fun _ => .pure _
      | exact .ofExcept _
  · dsimp only
    split
    · exact .pure _
    · refine Oblivious.bind ?_ fun _ => Oblivious.get_bind (fun _ => .pure _) (by intros; rfl)
      exact .ite (Oblivious.get_bind (fun _ => (Oblivious.addI16 _ _ _).bind fun _ =>
          .modify (by intros; rfl)) (by intros; rfl))
        ((noLookahead_io (noLookahead_readVarintSigned _)).bind fun _ => .modify (by intros; rfl))

theorem noLookahead_readBool : Oblivious Failure.EndOfInput feed readBool := by
  refine Oblivious.get_set_bind (fun _ _ => rfl) (fun s => ?_) (by intros; rfl)
  split
  · exact .pure _
  · refine noLookahead_readByte.bind fun _ => ?_
    split <;> first | exact .pure _ | exact .throw _

theorem noLookahead_readListSetBegin : Oblivious Failure.EndOfInput feed readListSetBegin := by
  refine noLookahead_readByte.bind fun _ => (Oblivious.ofExcept _).bind fun _ => ?_
  dsimp only
  split <;>
    exact Oblivious.bind
      (by first | exact .pure _ | exact noLookahead_io (noLookahead_readVarintUnsigned _))
      fun _ => Oblivious.get_bind (fun _ => (Oblivious.ofExcept _).bind fun _ => .pure _)
        (by intros; rfl)

theorem noLookahead_readMapBegin : Oblivious Failure.EndOfInput feed readMapBegin :=
  (noLookahead_io (noLookahead_readVarintUnsigned _)).bind fun _ => .ite (.pure _)
    (noLookahead_readByte.bind fun _ => (Oblivious.ofExcept _).bind fun _ =>
      (Oblivious.ofExcept _).bind fun _ => Oblivious.get_bind
        (fun _ => (Oblivious.ofExcept _).bind fun _ => .pure _) (by intros; rfl))

/-- No read of the compact decoder looks ahead. -/
theorem noLookahead_exec (overflowChecks : Bool) (op : ReadOp) :
    Oblivious Failure.EndOfInput feed (exec overflowChecks op) := by
  cases op
  case messageBegin => exact noLookahead_readMessageBegin.bind fun _ => .pure _
  case structBegin =>
    exact (noLookahead_checkRecursionDepth.bind fun _ => .modify (by intros; rfl)).bind
      fun _ => .pure _
  case structEnd => exact (noLookahead_readStructEnd _).bind fun _ => .pure _
  case fieldBegin => exact (noLookahead_readFieldBegin _).bind fun _ => .pure _
  case bytes => exact noLookahead_readBytes.bind fun _ => .pure _
  case bool => exact noLookahead_readBool.bind fun _ => .pure _
  case i8 => exact (noLookahead_readByte.bind fun _ => .pure _).bind fun _ => .pure _
  case i16 | i32 | i64 =>
    exact (noLookahead_io (noLookahead_readVarintSigned _)).bind fun _ => .pure _
  case double =>
    exact ((noLookahead_io (noLookahead_readLE _)).bind fun _ => .pure _).bind fun _ => .pure _
  case string => exact noLookahead_readString.bind fun _ => .pure _
  case uuid =>
    exact (noLookahead_readBytes.bind fun _ => .ofExcept _).bind fun _ => .pure _
  case listBegin | setBegin =>
    exact (noLookahead_readListSetBegin.bind fun _ => .pure _).bind fun _ => .pure _
  case mapBegin => exact noLookahead_readMapBegin.bind fun _ => .pure _
  case byte => exact noLookahead_readByte.bind fun _ => .pure _
  all_goals exact .pure _

end TCompactInputProtocol

/-! ## The compact encoder -/

namespace TCompactOutputProtocol

variable {P : Failure → Prop}

/-- The encoder with `pre` written before its output. -/
def under (e : TCompactOutputProtocol) (pre : List UInt8) : TCompactOutputProtocol :=
  { e with transport := pre ++ e.transport }

theorem oblivious_emit (bs : List UInt8) : Oblivious P under (emit bs) :=
  fun _ _ _ => by simp only [emit, fed, under, List.append_assoc]

theorem oblivious_writeBytes (b : List UInt8) : Oblivious P under (writeBytes b) :=
  (oblivious_emit _).bind fun _ => oblivious_emit _

theorem oblivious_assertNoPendingBoolWrite : Oblivious P under assertNoPendingBoolWrite := by
  intro e pre _
  unfold assertNoPendingBoolWrite
  dsimp only [under]
  split <;> rfl

theorem oblivious_writeFieldHeader (overflowChecks : Bool) (fieldType : UInt8)
    (fieldId : BitVec 16) : Oblivious P under (writeFieldHeader overflowChecks fieldType fieldId) := by
  refine Oblivious.get_bind (fun _ => (Oblivious.subI16 _ _ _).bind fun _ => ?_) (by intros; rfl)
  dsimp only
  split
  · exact (oblivious_emit _).bind fun _ => .modify (by intros; rfl)
  · exact (oblivious_emit _).bind fun _ => (oblivious_emit _).bind fun _ =>
      .modify (by intros; rfl)

theorem oblivious_writeListSetBegin (elementType : TType) (elementCount : BitVec 32) :
    Oblivious P under (writeListSetBegin elementType elementCount) :=
  (Oblivious.ofExcept _).bind fun _ =>
    .ite (oblivious_emit _) ((oblivious_emit _).bind fun _ => oblivious_emit _)

theorem oblivious_writeStructEnd : Oblivious P under writeStructEnd := by
  refine oblivious_assertNoPendingBoolWrite.bind fun _ => ?_
  intro e pre _
  simp only [get_bind]
  dsimp only [under]
  cases e.writeFieldIdStack.head? <;> rfl

theorem oblivious_writeFieldBegin (overflowChecks : Bool) (identifier : TFieldIdentifier) :
    Oblivious P under (writeFieldBegin overflowChecks identifier) := by
  unfold writeFieldBegin
  split
  · intro e pre _
    dsimp only [under]
    split <;> rfl
  · exact (Oblivious.ofExcept _).bind fun _ => (Oblivious.expect _ _).bind fun _ =>
      oblivious_writeFieldHeader _ _ _

theorem oblivious_writeBool (overflowChecks : Bool) (b : Bool) :
    Oblivious P under (writeBool overflowChecks b) := by
  refine Oblivious.get_set_bind (by intros; rfl) (fun s => ?_) (by intros; rfl)
  split
  · exact (Oblivious.expect _ _).bind fun _ => oblivious_writeFieldHeader _ _ _
  · exact .ite (oblivious_emit _) (oblivious_emit _)

/-- No write of the compact encoder looks at what was written before it. -/
theorem oblivious_exec (P : Failure → Prop) (overflowChecks : Bool) (op : WriteOp) :
    Oblivious P under (exec overflowChecks op) := by
  cases op
  case messageBegin m =>
    exact (oblivious_emit _).bind fun _ => (oblivious_emit _).bind fun _ =>
      (oblivious_emit _).bind fun _ => oblivious_writeBytes _
  case messageEnd | fieldEnd => exact oblivious_assertNoPendingBoolWrite
  case structBegin => exact .modify (by intros; rfl)
  case structEnd => exact oblivious_writeStructEnd
  case fieldBegin f => exact oblivious_writeFieldBegin _ _
  case fieldStop =>
    exact oblivious_assertNoPendingBoolWrite.bind fun _ => (Oblivious.ofExcept _).bind fun _ =>
      oblivious_emit _
  case bytes | string | uuid => exact oblivious_writeBytes _
  case bool => exact oblivious_writeBool _ _
  case listBegin | setBegin => exact oblivious_writeListSetBegin _ _
  case mapBegin =>
    exact .ite (oblivious_emit _) ((oblivious_emit _).bind fun _ =>
      (Oblivious.expect _ _).bind fun _ => (Oblivious.ofExcept _).bind fun _ =>
        (Oblivious.expect _ _).bind fun _ => (Oblivious.ofExcept _).bind fun _ => oblivious_emit _)
  case i8 | i16 | i32 | i64 | double | byte => exact oblivious_emit _
  all_goals exact .pure _

end TCompactOutputProtocol

/-! ## Sessions -/

theorem avoids_false {σ α : Type} : ∀ r : EStateM.Result Failure σ α, Avoids (fun _ => False) r
  | .ok _ _ => trivial
  | .error _ _ => id

/-- Neither decoder reads ahead, in any session and any build: given more bytes after its
input, a session returns the values it returned, or fails as it failed unless it ran out of
input, and leaves the extra bytes unread. -/
theorem decoders_never_read_ahead :
    (∀ (overflowChecks : Bool) (ops : List ReadOp) (d : TBinaryInputProtocol)
      (extra : List UInt8),
      Avoids Failure.EndOfInput (runReads (TBinaryInputProtocol.exec overflowChecks) ops d) →
      runReads (TBinaryInputProtocol.exec overflowChecks) ops
          { d with transport := d.transport ++ extra } =
        fed TBinaryInputProtocol.feed
          (runReads (TBinaryInputProtocol.exec overflowChecks) ops d) extra) ∧
    (∀ (overflowChecks : Bool) (ops : List ReadOp) (d : TCompactInputProtocol)
      (extra : List UInt8),
      Avoids Failure.EndOfInput (runReads (TCompactInputProtocol.exec overflowChecks) ops d) →
      runReads (TCompactInputProtocol.exec overflowChecks) ops
          { d with transport := d.transport ++ extra } =
        fed TCompactInputProtocol.feed
          (runReads (TCompactInputProtocol.exec overflowChecks) ops d) extra) :=
  ⟨fun overflowChecks => oblivious_runReads (TBinaryInputProtocol.noLookahead_exec overflowChecks),
    fun overflowChecks => oblivious_runReads (TCompactInputProtocol.noLookahead_exec overflowChecks)⟩

/-- An `i8` read from a compact decoder holding `[5]`: with `[7]` after it, the read returns the
same value and leaves the `7` unread. -/
theorem compact_i8_leaves_next_byte :
    Avoids Failure.EndOfInput (runReads (TCompactInputProtocol.exec true) [.i8]
      (TCompactInputProtocol.withConfig [5] .noLimits)) ∧
    runReads (TCompactInputProtocol.exec true) [.i8]
        (TCompactInputProtocol.withConfig [5, 7] .noLimits) =
      .ok [.i8 5] (TCompactInputProtocol.withConfig [7] .noLimits) := by
  have h : Avoids Failure.EndOfInput (runReads (TCompactInputProtocol.exec true) [.i8]
      (TCompactInputProtocol.withConfig [5] .noLimits)) := trivial
  exact ⟨h, decoders_never_read_ahead.2 true [.i8] _ [7] h⟩

end ThriftProtocol
