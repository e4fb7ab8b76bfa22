import ThriftProtocol.Stream

/-!
# Decoder sessions

An application drives a decoder by one read operation after another. A read that fails returns
an error and leaves the decoder in some state, and nothing stops the application from going on;
so the results about whole sessions quantify over every operation, the failed ones included.

* `after` — the state a read leaves, whether it succeeded or failed;
* `Keeps f x` — the computation `x` never changes the part `f` of the state, with one lemma for
  each construct the decoders are written with, so that a decoder's frame lemmas follow its
  definitions;
* `Confined f P x` — `x` keeps `f` and every failure of it satisfies `P`, with the same
  constructs; the transports' reads and the conversions the decoders use fail only with the
  crate's errors (`ReadsSafely`, `checkContainerSize_isError`), never by a panic;
* `CountChecked` — what a container count `check_container_size` accepted satisfies;
* `Reachable` — the states a decoder reaches from a fresh one, counting the structs open, where
  every `read_struct_end` closes a struct that an earlier `read_struct_begin` opened.
-/

namespace ThriftProtocol

/-! ## Frames -/

section Keeps

variable {σ α β γ : Type}

/-- The state a result leaves, whether the operation succeeded or failed. -/
def after : EStateM.Result Failure σ α → σ
  | .ok _ s => s
  | .error _ s => s

/-- The computation `x` leaves the part `f` of the state as it was, whether it succeeds or
fails. -/
def Keeps (f : σ → β) (x : EStateM Failure σ α) : Prop :=
  ∀ s, f (after (x s)) = f s

variable {f : σ → β}

theorem Keeps.pure (a : α) : Keeps f (Pure.pure a : EStateM Failure σ α) := fun _ => rfl

theorem Keeps.throw (e : Failure) : Keeps f (throw e : EStateM Failure σ α) := fun _ => rfl

theorem Keeps.bind {x : EStateM Failure σ α} {k : α → EStateM Failure σ γ} (hx : Keeps f x)
    (hk : ∀ a, Keeps f (k a)) : Keeps f (x >>= k) := fun s => by
  have h := hx s
  simp only [Bind.bind, EStateM.bind]
  cases hs : x s with
  | ok a s' => rw [hs] at h; exact (hk a s').trans h
  | error e s' => rw [hs] at h; exact h

theorem Keeps.get_bind {k : σ → EStateM Failure σ α} (hk : ∀ s, Keeps f (k s)) :
    Keeps f (get >>= k) := fun s => hk s s

/-- Read the state, store a changed copy of it, and go on: `read_bool`'s shape. -/
theorem Keeps.get_set_bind {g : σ → σ} {k : σ → EStateM Failure σ α} (hg : ∀ s, f (g s) = f s)
    (hk : ∀ s, Keeps f (k s)) : Keeps f (get >>= fun s => set (g s) >>= fun _ => k s) :=
  fun s => (hk s (g s)).trans (hg s)

theorem Keeps.modify {g : σ → σ} (hg : ∀ s, f (g s) = f s) :
    Keeps f (modify g : EStateM Failure σ PUnit) := hg

theorem Keeps.ite {c : Prop} [Decidable c] {x y : EStateM Failure σ α} (hx : Keeps f x)
    (hy : Keeps f y) : Keeps f (if c then x else y) := by
  split <;> assumption

theorem Keeps.ofExcept (e : Except Failure α) : Keeps f (ofExcept e : EStateM Failure σ α) := by
  cases e <;> exact fun _ => rfl

theorem Keeps.expect (o : Option α) (message : String) :
    Keeps f (expect o message : EStateM Failure σ α) := by
  cases o <;> exact fun _ => rfl

theorem Keeps.transport {α : Type} {get : σ → List UInt8} {set : σ → List UInt8 → σ}
    (hset : ∀ s t, f (set s t) = f s) (r : Reader α) : Keeps f (onTransport get set r) :=
  fun s => by
    unfold ThriftProtocol.onTransport
    split <;> exact hset _ _

/-- On success, the state the computation leaves has the same part `f`. -/
theorem Keeps.of_ok {x : EStateM Failure σ α} (h : Keeps f x) {s s' : σ} {a : α}
    (hx : x s = .ok a s') : f s' = f s := by
  have := h s; rwa [hx] at this

/-- On failure, too. -/
theorem Keeps.of_error {x : EStateM Failure σ α} (h : Keeps f x) {s s' : σ} {e : Failure}
    (hx : x s = .error e s') : f s' = f s := by
  have := h s; rwa [hx] at this

theorem Keeps.addI16 (overflowChecks : Bool) (a b : BitVec 16) :
    Keeps f (addI16 overflowChecks a b : EStateM Failure σ (BitVec 16)) :=
  Keeps.ite (Keeps.throw _) (Keeps.pure _)

theorem Keeps.subI16 (overflowChecks : Bool) (a b : BitVec 16) :
    Keeps f (subI16 overflowChecks a b : EStateM Failure σ (BitVec 16)) :=
  Keeps.ite (Keeps.throw _) (Keeps.pure _)

end Keeps

/-! ## Failures -/

section Confined

variable {σ α β γ : Type} {f : σ → β} {P Q : Failure → Prop}

/-- The computation `x` leaves the part `f` of the state as it was, and every failure of it
satisfies `P`. -/
structure Confined (f : σ → β) (P : Failure → Prop) (x : EStateM Failure σ α) : Prop where
  keeps : Keeps f x
  fails : ∀ s ε s', x s = .error ε s' → P ε

theorem Confined.pure (a : α) : Confined f P (Pure.pure a : EStateM Failure σ α) :=
  ⟨.pure a, fun _ _ _ h => by cases h⟩

theorem Confined.throw {ε : Failure} (h : P ε) : Confined f P (throw ε : EStateM Failure σ α) :=
  ⟨.throw ε, fun _ _ _ h' => by cases h'; exact h⟩

theorem Confined.bind {x : EStateM Failure σ α} {k : α → EStateM Failure σ γ}
    (hx : Confined f P x) (hk : ∀ a, Confined f P (k a)) : Confined f P (x >>= k) := by
  refine ⟨hx.keeps.bind fun a => (hk a).keeps, fun s ε s' h => ?_⟩
  simp only [Bind.bind, EStateM.bind] at h
  split at h
  · exact (hk _).fails _ _ _ h
  · cases h; exact hx.fails _ _ _ ‹_›

theorem Confined.get_bind {k : σ → EStateM Failure σ α} (hk : ∀ s, Confined f P (k s)) :
    Confined f P (get >>= k) :=
  ⟨.get_bind fun s => (hk s).keeps, fun s => (hk s).fails s⟩

theorem Confined.get_set_bind {g : σ → σ} {k : σ → EStateM Failure σ α}
    (hg : ∀ s, f (g s) = f s) (hk : ∀ s, Confined f P (k s)) :
    Confined f P (get >>= fun s => set (g s) >>= fun _ => k s) :=
  ⟨.get_set_bind hg fun s => (hk s).keeps, fun s => (hk s).fails (g s)⟩

theorem Confined.modify {g : σ → σ} (hg : ∀ s, f (g s) = f s) :
    Confined f P (modify g : EStateM Failure σ PUnit) :=
  ⟨.modify hg, fun _ _ _ h => by cases h⟩

theorem Confined.ite {c : Prop} [Decidable c] {x y : EStateM Failure σ α} (hx : Confined f P x)
    (hy : Confined f P y) : Confined f P (if c then x else y) := by
  split <;> assumption

theorem Confined.ofExcept {e : Except Failure α} (h : ∀ ε, e = .error ε → P ε) :
    Confined f P (ofExcept e : EStateM Failure σ α) := by
  refine ⟨.ofExcept e, fun _ _ _ h' => ?_⟩
  cases e with
  | ok a => cases h'
  | error ε => cases h'; exact h _ rfl

theorem Confined.transport {get : σ → List UInt8} {set : σ → List UInt8 → σ}
    (hset : ∀ s t, f (set s t) = f s) {r : Reader α} {g : List UInt8 → γ} (hr : Confined g P r) :
    Confined f P (onTransport get set r) := by
  refine ⟨.transport hset r, fun s ε s' h => ?_⟩
  unfold ThriftProtocol.onTransport at h
  split at h
  · cases h
  · cases h; exact hr.fails _ _ _ ‹_›

theorem Confined.mono {x : EStateM Failure σ α} (h : Confined f P x) (hPQ : ∀ ε, P ε → Q ε) :
    Confined f Q x :=
  ⟨h.keeps, fun s ε s' hx => hPQ ε (h.fails s ε s' hx)⟩

/-- The `i16` addition fails only by its panic, and only in a checked build. -/
theorem Confined.addI16 (overflowChecks : Bool) (a b : BitVec 16) :
    Confined f (fun ε => overflowChecks = true ∧ ε = .panic "attempt to add with overflow")
      (addI16 overflowChecks a b : EStateM Failure σ (BitVec 16)) := by
  refine ⟨.addI16 overflowChecks a b, fun _ _ _ h => ?_⟩
  unfold ThriftProtocol.addI16 at h
  split at h
  · cases h; exact ⟨((Bool.and_eq_true _ _).mp ‹_›).1, rfl⟩
  · cases h

end Confined

/-! ## Transports and conversions fail only with errors -/

section Errors

/-- A read on a transport whose every failure is one of the crate's errors. -/
def ReadsSafely {α : Type} (r : Reader α) : Prop := Confined (fun _ => ()) Failure.IsError r

theorem readExact_safe (n : Nat) : ReadsSafely (readExact n) :=
  ⟨fun _ => rfl, fun _ _ _ h => by unfold readExact at h; split at h <;> cases h; trivial⟩

theorem readU8_safe : ReadsSafely readU8 :=
  ⟨fun _ => rfl, fun _ _ _ h => by unfold readU8 at h; split at h <;> cases h; trivial⟩

theorem readUuidBytes_safe : ReadsSafely readUuidBytes :=
  ⟨fun _ => rfl, fun _ _ _ h => by unfold readUuidBytes at h; split at h <;> cases h; trivial⟩

theorem readLE_safe (n : Nat) : ReadsSafely (readLE n) :=
  (readExact_safe n).bind fun _ => .pure _

theorem readBE_safe (n : Nat) : ReadsSafely (readBE n) :=
  (readExact_safe n).bind fun _ => .pure _

theorem readVarintGroups_safe : ∀ k, ReadsSafely (readVarintGroups k)
  | 0 => ⟨fun _ => rfl, fun _ _ _ h => by
      simp only [readVarintGroups] at h; split at h <;> cases h <;> trivial⟩
  | k + 1 => ⟨fun _ => rfl, fun _ _ _ h => by
      simp only [readVarintGroups] at h
      split at h
      · cases h; trivial
      · split at h
        · cases h
        · split at h
          · cases h
          · cases h; exact (readVarintGroups_safe k).fails _ _ _ ‹_›⟩

theorem readVarintUnsigned_safe (w : Nat) : ReadsSafely (readVarintUnsigned w) :=
  ((readVarintGroups_safe _).bind fun _ => .pure _).bind fun _ => .pure _

theorem readVarintSigned_safe (w : Nat) : ReadsSafely (readVarintSigned w) :=
  ((readVarintGroups_safe _).bind fun _ => .pure _).bind fun _ => .pure _

variable {ε : Failure}

theorem tryFrom_isError {b : UInt8} (h : TMessageType.tryFrom b = .error ε) : ε.IsError := by
  unfold TMessageType.tryFrom at h; split at h <;> cases h; trivial

theorem fromUtf8_isError {bs : List UInt8} (h : Utf8String.fromUtf8 bs = .error ε) : ε.IsError := by
  unfold Utf8String.fromUtf8 at h; split at h <;> cases h; trivial

theorem fromSlice_isError {bs : List UInt8} (h : Uuid.fromSlice bs = .error ε) : ε.IsError := by
  unfold Uuid.fromSlice at h; split at h <;> cases h; trivial

theorem checkContainerSize_isError {config : TConfiguration} {x : BitVec 32} {elementSize : Nat}
    (h : checkContainerSize config x elementSize = .error ε) : ε.IsError := by
  simp only [checkContainerSize, checkContainerSize.checkMessageBudget] at h
  repeat' (first | split_ifs at h | split at h)
  all_goals cases h <;> trivial

end Errors

/-- A bind that succeeded: both parts succeeded. -/
theorem bind_eq_ok {σ α β : Type} {x : EStateM Failure σ α} {k : α → EStateM Failure σ β}
    {s s' : σ} {b : β} (h : (x >>= k) s = .ok b s') : ∃ a s₁, x s = .ok a s₁ ∧ k a s₁ = .ok b s' := by
  simp only [Bind.bind, EStateM.bind] at h
  split at h
  · exact ⟨_, _, ‹_›, h⟩
  · cases h

/-- A lifted `Except` that succeeded was a success. -/
theorem ofExcept_eq_ok {σ α : Type} {e : Except Failure α} {s s' : σ} {a : α}
    (h : (ofExcept e : EStateM Failure σ α) s = .ok a s') : e = .ok a := by
  cases e with
  | ok b => cases h; rfl
  | error ε => cases h

/-! ## Container sizes -/

section ContainerSize

variable {config : TConfiguration} {x : BitVec 32} {elementSize : Nat}

/-- A negative count is refused as such. -/
theorem checkContainerSize_negative (h : x.toInt < 0) :
    checkContainerSize config x elementSize =
      .error (protocolError .negativeSize s!"Negative container size: {x.toInt}") := by
  simp [checkContainerSize, h]

/-- A count `check_container_size` accepts is not negative. -/
theorem checkContainerSize_nonneg (h : checkContainerSize config x elementSize = .ok ()) :
    0 ≤ x.toInt := by
  by_contra hneg
  rw [checkContainerSize_negative (Int.not_le.mp hneg)] at h
  cases h

/-- A count `check_container_size` accepts is within `max_container_size`. -/
theorem checkContainerSize_le_cap (h : checkContainerSize config x elementSize = .ok ()) {cap : Nat}
    (hcap : config.maxContainerSize = some cap) : x.toNat ≤ cap := by
  have hn := checkContainerSize_nonneg h
  simp only [checkContainerSize, Int.not_lt.mpr hn, if_false, hcap] at h
  by_contra hlt
  rw [if_pos (by omega)] at h
  cases h

/-- What a decoder has established about a container count it returned:
`check_container_size` accepted it, so it is not negative and within `max_container_size`. -/
structure CountChecked (config : TConfiguration) (x : BitVec 32) (elementSize : Nat) : Prop where
  accepted : checkContainerSize config x elementSize = .ok ()
  nonneg : 0 ≤ x.toInt
  le_cap : ∀ cap, config.maxContainerSize = some cap → x.toNat ≤ cap

theorem CountChecked.of_accepted (h : checkContainerSize config x elementSize = .ok ()) :
    CountChecked config x elementSize :=
  ⟨h, checkContainerSize_nonneg h, fun _ => checkContainerSize_le_cap h⟩

end ContainerSize

/-! ## Sessions -/

/-- The structs open after a read that succeeded: `read_struct_begin` opens one and
`read_struct_end` closes one. -/
def openAfter : ReadOp → Nat → Nat
  | .structBegin, n => n + 1
  | .structEnd, n => n - 1
  | _, n => n

theorem openAfter_of_ne {op : ReadOp} (hb : op ≠ .structBegin) (he : op ≠ .structEnd) (n : Nat) :
    openAfter op n = n := by
  cases op <;> first | rfl | exact absurd rfl hb | exact absurd rfl he

/-- The states a decoder reaches from a state with `init` by read operations, each of which may
succeed or fail, where every `read_struct_end` closes a struct that is open; `n` is the number
of open structs. -/
inductive Reachable {σ : Type} (exec : ReadOp → EStateM Failure σ ReadValue) (init : σ → Prop) :
    σ → Nat → Prop
  | init {s : σ} (h : init s) : Reachable exec init s 0
  | ok {s s' : σ} {n : Nat} {op : ReadOp} {v : ReadValue} (h : Reachable exec init s n)
      (hend : op = .structEnd → 0 < n) (hr : exec op s = .ok v s') :
      Reachable exec init s' (openAfter op n)
  | error {s s' : σ} {n : Nat} {op : ReadOp} {ε : Failure} (h : Reachable exec init s n)
      (hend : op = .structEnd → 0 < n) (hr : exec op s = .error ε s') :
      Reachable exec init s' n

end ThriftProtocol
