import ThriftProtocol.Transport

/-!
# Operation streams

Both codecs expose the same two flat interfaces, `TOutputProtocol` and `TInputProtocol`: an
application drives an encoder by a sequence of `write_*` calls and a decoder by the matching
sequence of `read_*` calls. This file fixes that vocabulary once for both codecs:

* `WriteOp`, `ReadOp` and `ReadValue` — the operations, with their arguments and results;
* `runWrites`, `runReads` — a sequence of operations run on a codec half, stopping at the first
  failure as a caller using `?` does;
* `Wf` — the grammar of *well-formed* streams: messages whose bodies are values, structs whose
  fields each carry an id and end in a stop field, containers with exactly as many elements as
  their header declares. The grammar is parameterised by `StreamLimits`, the wire types and
  byte-string lengths a codec can carry.

The round-trip theorems of both codecs quantify over `Wf`; what a decoder returns for each
write is `WriteOp.readBack`.
-/

namespace ThriftProtocol

/-! ## Operations -/

/-- The operations of `TOutputProtocol` that write to the transport, with their arguments
(`write_struct_begin`'s identifier is ignored by both encoders and left out). -/
inductive WriteOp where
  | messageBegin (identifier : TMessageIdentifier)
  | messageEnd
  | structBegin
  | structEnd
  | fieldBegin (identifier : TFieldIdentifier)
  | fieldEnd
  | fieldStop
  | bytes (b : List UInt8)
  | bool (b : Bool)
  | i8 (i : BitVec 8)
  | i16 (i : BitVec 16)
  | i32 (i : BitVec 32)
  | i64 (i : BitVec 64)
  | double (d : BitVec 64)
  | string (s : Utf8String)
  | uuid (u : Uuid)
  | listBegin (identifier : TListIdentifier)
  | listEnd
  | setBegin (identifier : TSetIdentifier)
  | setEnd
  | mapBegin (identifier : TMapIdentifier)
  | mapEnd
  | byte (b : UInt8)
  deriving DecidableEq, Repr

/-- The operations of `TInputProtocol`. -/
inductive ReadOp where
  | messageBegin | messageEnd | structBegin | structEnd | fieldBegin | fieldEnd
  | bytes | bool | i8 | i16 | i32 | i64 | double | string | uuid
  | listBegin | listEnd | setBegin | setEnd | mapBegin | mapEnd | byte
  deriving DecidableEq, Repr

/-- What a read operation returns (`read_struct_begin`'s `Ok(None)` is `unit`). -/
inductive ReadValue where
  | unit
  | message (identifier : TMessageIdentifier)
  | field (identifier : TFieldIdentifier)
  | list (identifier : TListIdentifier)
  | set (identifier : TSetIdentifier)
  | map (identifier : TMapIdentifier)
  | bytes (b : List UInt8)
  | bool (b : Bool)
  | i8 (i : BitVec 8)
  | i16 (i : BitVec 16)
  | i32 (i : BitVec 32)
  | i64 (i : BitVec 64)
  | double (d : BitVec 64)
  | string (s : Utf8String)
  | uuid (u : Uuid)
  | byte (b : UInt8)
  deriving DecidableEq, Repr

/-- The read an application issues for each write; a stop field is read by `read_field_begin`. -/
def WriteOp.toRead : WriteOp → ReadOp
  | .messageBegin _ => .messageBegin | .messageEnd => .messageEnd
  | .structBegin => .structBegin | .structEnd => .structEnd
  | .fieldBegin _ => .fieldBegin | .fieldEnd => .fieldEnd | .fieldStop => .fieldBegin
  | .bytes _ => .bytes | .bool _ => .bool | .i8 _ => .i8 | .i16 _ => .i16 | .i32 _ => .i32
  | .i64 _ => .i64 | .double _ => .double | .string _ => .string | .uuid _ => .uuid
  | .listBegin _ => .listBegin | .listEnd => .listEnd | .setBegin _ => .setBegin
  | .setEnd => .setEnd | .mapBegin _ => .mapBegin | .mapEnd => .mapEnd | .byte _ => .byte

/-- The value the matching read returns for a write. Field names are never sent, so they come
back `None`; the codecs differ in the id a stop field comes back with (`stopId`) and in whether
an empty map comes back with its key and value types (`emptyMapKeepsTypes`). -/
def WriteOp.readBack (stopId : Option (BitVec 16)) (emptyMapKeepsTypes : Bool) :
    WriteOp → ReadValue
  | .messageBegin m => .message m
  | .fieldBegin f => .field { f with name := none }
  | .fieldStop => .field ⟨none, .stop, stopId⟩
  | .bytes b => .bytes b
  | .bool b => .bool b
  | .i8 i => .i8 i
  | .i16 i => .i16 i
  | .i32 i => .i32 i
  | .i64 i => .i64 i
  | .double d => .double d
  | .string s => .string s
  | .uuid u => .uuid u
  | .listBegin l => .list l
  | .setBegin s => .set s
  | .mapBegin m =>
    if emptyMapKeepsTypes || m.size != 0 then .map m else .map ⟨none, none, 0⟩
  | .byte b => .byte b
  | _ => .unit

/-! ## Running a stream -/

section Run

variable {σ : Type}

/-- Run writes one after another, stopping at the first failure. -/
def runWrites (exec : WriteOp → EStateM Failure σ Unit) : List WriteOp → EStateM Failure σ Unit
  | [] => pure ()
  | op :: ops => do exec op; runWrites exec ops

/-- Run reads one after another, collecting their results, stopping at the first failure. -/
def runReads (exec : ReadOp → EStateM Failure σ ReadValue) :
    List ReadOp → EStateM Failure σ (List ReadValue)
  | [] => pure []
  | op :: ops => do
    let v ← exec op
    let vs ← runReads exec ops
    pure (v :: vs)

variable {exec : WriteOp → EStateM Failure σ Unit} {read : ReadOp → EStateM Failure σ ReadValue}

@[simp] theorem runWrites_nil (s : σ) : runWrites exec [] s = .ok () s := rfl

theorem runWrites_cons_ok {op : WriteOp} {ops : List WriteOp} {s s' : σ}
    (h : exec op s = .ok () s') : runWrites exec (op :: ops) s = runWrites exec ops s' := by
  simp only [runWrites, bind, EStateM.bind, h]

theorem runWrites_append_of_ok {a b : List WriteOp} {s s₁ : σ}
    (ha : runWrites exec a s = .ok () s₁) : runWrites exec (a ++ b) s = runWrites exec b s₁ := by
  induction a generalizing s with
  | nil => cases ha; rfl
  | cons op a ih =>
    simp only [runWrites, bind, EStateM.bind] at ha
    split at ha
    · rename_i s' hop
      rw [List.cons_append, runWrites_cons_ok hop]; exact ih ha
    · cases ha

theorem runWrites_append_ok {a b : List WriteOp} {s s₁ s₂ : σ}
    (ha : runWrites exec a s = .ok () s₁) (hb : runWrites exec b s₁ = .ok () s₂) :
    runWrites exec (a ++ b) s = .ok () s₂ :=
  (runWrites_append_of_ok ha).trans hb

/-- A stream that ran to completion ran its two halves to completion. -/
theorem runWrites_append_inv {a b : List WriteOp} {s s₂ : σ}
    (h : runWrites exec (a ++ b) s = .ok () s₂) :
    ∃ s₁, runWrites exec a s = .ok () s₁ ∧ runWrites exec b s₁ = .ok () s₂ := by
  induction a generalizing s with
  | nil => exact ⟨s, rfl, h⟩
  | cons op a ih =>
    simp only [List.cons_append, runWrites, bind, EStateM.bind] at h
    split at h
    · rename_i s' hop
      obtain ⟨s₁, h₁, h₂⟩ := ih h
      exact ⟨s₁, by rw [runWrites_cons_ok hop]; exact h₁, h₂⟩
    · cases h

/-- A write that succeeded, then the writes after it. -/
theorem runWrites_cons_inv {op : WriteOp} {ops : List WriteOp} {s s₂ : σ}
    (h : runWrites exec (op :: ops) s = .ok () s₂) :
    ∃ s₁, exec op s = .ok () s₁ ∧ runWrites exec ops s₁ = .ok () s₂ := by
  simp only [runWrites, bind, EStateM.bind] at h
  split at h
  · exact ⟨_, ‹_›, h⟩
  · cases h

theorem runWrites_singleton {op : WriteOp} {s s' : σ} :
    runWrites exec [op] s = .ok () s' ↔ exec op s = .ok () s' := by
  simp only [runWrites, bind, EStateM.bind, pure, EStateM.pure]
  split <;> simp_all

theorem runWrites_singleton_error {op : WriteOp} {s s' : σ} {ε : Failure}
    (h : exec op s = .error ε s') : runWrites exec [op] s = .error ε s' := by
  simp only [runWrites, bind, EStateM.bind, h]

theorem runWrites_append_error {a b : List WriteOp} {s s' : σ} {ε : Failure}
    (h : runWrites exec a s = .error ε s') : runWrites exec (a ++ b) s = .error ε s' := by
  induction a generalizing s with
  | nil => cases h
  | cons op a ih =>
    simp only [runWrites, bind, EStateM.bind] at h
    split at h
    · rename_i s₁ hop
      rw [List.cons_append, runWrites_cons_ok hop]; exact ih h
    · rename_i s₁ hop
      simp only [List.cons_append, runWrites, bind, EStateM.bind, hop]; exact h

@[simp] theorem runReads_nil (s : σ) : runReads read [] s = .ok [] s := rfl

theorem runReads_append_ok {a b : List ReadOp} {va vb : List ReadValue} {s s₁ s₂ : σ}
    (ha : runReads read a s = .ok va s₁) (hb : runReads read b s₁ = .ok vb s₂) :
    runReads read (a ++ b) s = .ok (va ++ vb) s₂ := by
  induction a generalizing s va with
  | nil => cases ha; exact hb
  | cons op a ih =>
    simp only [runReads, bind, EStateM.bind, pure, EStateM.pure] at ha
    split at ha
    · rename_i v s' hop
      split at ha
      · rename_i vs s'' hrest
        cases ha
        rw [List.cons_append]
        simp only [runReads, bind, EStateM.bind, hop, ih hrest, pure, EStateM.pure,
          List.cons_append]
      · cases ha
    · cases ha

theorem runReads_singleton {op : ReadOp} {v : ReadValue} {s s' : σ}
    (h : read op s = .ok v s') : runReads read [op] s = .ok [v] s' := by
  simp only [runReads, bind, EStateM.bind, h, pure, EStateM.pure]

theorem runReads_cons_ok {op : ReadOp} {ops : List ReadOp} {v : ReadValue} {vs : List ReadValue}
    {s s₁ s₂ : σ} (h : read op s = .ok v s₁) (hs : runReads read ops s₁ = .ok vs s₂) :
    runReads read (op :: ops) s = .ok (v :: vs) s₂ :=
  runReads_append_ok (runReads_singleton h) hs

/-- A read that succeeded, then the reads after it. -/
theorem runReads_cons_inv {op : ReadOp} {ops : List ReadOp} {vs : List ReadValue} {s s₂ : σ}
    (h : runReads read (op :: ops) s = .ok vs s₂) :
    ∃ v s₁ vs', read op s = .ok v s₁ ∧ runReads read ops s₁ = .ok vs' s₂ := by
  simp only [runReads, bind, EStateM.bind, pure, EStateM.pure] at h
  split at h
  · split at h
    · cases h; exact ⟨_, _, _, ‹_›, ‹_›⟩
    · cases h
  · cases h

/-- A session that ran to completion ran its two halves to completion. -/
theorem runReads_append_inv {a b : List ReadOp} {vs : List ReadValue} {s s₂ : σ}
    (h : runReads read (a ++ b) s = .ok vs s₂) :
    ∃ s₁ va vb, runReads read a s = .ok va s₁ ∧ runReads read b s₁ = .ok vb s₂ := by
  induction a generalizing s vs with
  | nil => exact ⟨s, [], vs, rfl, h⟩
  | cons op a ih =>
    obtain ⟨v, s', vs', hop, hrest⟩ := runReads_cons_inv h
    obtain ⟨s₁, va, vb, h₁, h₂⟩ := ih hrest
    exact ⟨s₁, v :: va, vb, runReads_cons_ok hop h₁, h₂⟩

end Run

/-! ## Well-formed streams -/

/-- What a codec can carry: the wire types allowed for fields, container elements and top-level
values, and the byte-string lengths (message names included) it can frame. -/
structure StreamLimits where
  typeOk : TType → Bool
  lenOk : Nat → Bool

/-- The grammatical categories of a stream. `fields prev` is a run of fields following a field
with id `prev` in the same struct (`0` at struct start); `elems t n` is `n` values of type `t`;
`entries k v n` is `n` key-value pairs. -/
inductive Shape where
  | value (t : TType)
  | fields (prev : BitVec 16)
  | elems (t : TType) (n : Nat)
  | entries (k v : TType) (n : Nat)
  | values
  | message
  | stream

/-- Well-formed write streams. A value of type `void` writes nothing; there are no values of
type `stop` (a list of stops is empty). Fields are written with an id, never with type `stop`,
and a struct ends with `write_field_stop`. Container sizes are the element counts, which fit an
`i32`. -/
inductive Wf (L : StreamLimits) : Shape → List WriteOp → Prop
  | bool (b : Bool) : Wf L (.value .bool) [.bool b]
  | i8 (i : BitVec 8) : Wf L (.value .i08) [.i8 i]
  | i16 (i : BitVec 16) : Wf L (.value .i16) [.i16 i]
  | i32 (i : BitVec 32) : Wf L (.value .i32) [.i32 i]
  | i64 (i : BitVec 64) : Wf L (.value .i64) [.i64 i]
  | double (d : BitVec 64) : Wf L (.value .double) [.double d]
  | string (s : Utf8String) (h : L.lenOk s.bytes.length) : Wf L (.value .string) [.string s]
  | bytes (b : List UInt8) (h : L.lenOk b.length) : Wf L (.value .string) [.bytes b]
  | uuid (u : Uuid) : Wf L (.value .uuid) [.uuid u]
  | void : Wf L (.value .void) []
  | struct {body} (h : Wf L (.fields 0) body) :
      Wf L (.value .struct) (.structBegin :: body ++ [.fieldStop, .structEnd])
  | list {t n body} (ht : L.typeOk t) (hn : n < 2 ^ 31) (h : Wf L (.elems t n) body) :
      Wf L (.value .list) (.listBegin ⟨t, BitVec.ofNat 32 n⟩ :: body ++ [.listEnd])
  | set {t n body} (ht : L.typeOk t) (hn : n < 2 ^ 31) (h : Wf L (.elems t n) body) :
      Wf L (.value .set) (.setBegin ⟨t, BitVec.ofNat 32 n⟩ :: body ++ [.setEnd])
  | map {k v n body} (hk : L.typeOk k) (hv : L.typeOk v) (hn : n < 2 ^ 31)
      (h : Wf L (.entries k v n) body) :
      Wf L (.value .map) (.mapBegin ⟨some k, some v, BitVec.ofNat 32 n⟩ :: body ++ [.mapEnd])
  | fieldsNil {prev} : Wf L (.fields prev) []
  | fieldsCons {prev t id v r} (name : Option String) (ht : L.typeOk t) (hs : t ≠ .stop)
      (hv : Wf L (.value t) v) (hr : Wf L (.fields id) r) :
      Wf L (.fields prev) (.fieldBegin ⟨name, t, some id⟩ :: v ++ .fieldEnd :: r)
  | elemsNil {t} : Wf L (.elems t 0) []
  | elemsCons {t n v r} (hv : Wf L (.value t) v) (hr : Wf L (.elems t n) r) :
      Wf L (.elems t (n + 1)) (v ++ r)
  | entriesNil {k v} : Wf L (.entries k v 0) []
  | entriesCons {k v n kv vv r} (hk : Wf L (.value k) kv) (hv : Wf L (.value v) vv)
      (hr : Wf L (.entries k v n) r) : Wf L (.entries k v (n + 1)) (kv ++ vv ++ r)
  | valuesNil : Wf L .values []
  | valuesCons {t v r} (ht : L.typeOk t) (hv : Wf L (.value t) v) (hr : Wf L .values r) :
      Wf L .values (v ++ r)
  | message {body} (m : TMessageIdentifier) (hname : L.lenOk m.name.bytes.length)
      (h : Wf L .values body) : Wf L .message (.messageBegin m :: body ++ [.messageEnd])
  | streamNil : Wf L .stream []
  | streamCons {m r} (hm : Wf L .message m) (hr : Wf L .stream r) : Wf L .stream (m ++ r)

/-! ## Well-nested sequences -/

/-- Sequences in which every `b` is closed by a later `e` and every `e` closes an earlier `b`: the
struct begins and ends of a session on either interface, whatever else it holds. -/
inductive Nested {α : Type} (b e : α) : List α → Prop
  | nil : Nested b e []
  | cons {x xs} (hb : x ≠ b) (he : x ≠ e) (h : Nested b e xs) : Nested b e (x :: xs)
  | scope {body xs} (hbody : Nested b e body) (h : Nested b e xs) :
      Nested b e (b :: body ++ e :: xs)

theorem Nested.append {α : Type} {b e : α} {xs ys : List α} (hx : Nested b e xs)
    (hy : Nested b e ys) : Nested b e (xs ++ ys) := by
  induction hx with
  | nil => exact hy
  | cons hb he _ ih => exact .cons hb he ih
  | scope hbody _ _ ih => simpa only [List.cons_append, List.append_assoc] using .scope hbody ih

end ThriftProtocol
