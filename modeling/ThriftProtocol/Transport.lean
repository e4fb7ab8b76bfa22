import ThriftProtocol.Types

/-!
# Transports, byte order and varints

The codecs talk to their transport through three external crates: `std::io` (`read_exact`,
`write_all`), `byteorder` (fixed-width big- and little-endian integers) and `integer_encoding`
(varints). This file models what the codecs rely on from each, over an in-memory transport:

* a read transport is the list of bytes not yet read, and a read past its end fails with
  `EndOfFile` after consuming what was left (what `read_exact` does on a byte buffer);
* a write transport is the list of bytes written so far, and writes never fail.

Results:
* `readExact_append`, `readLE_append`, `readBE_append`: fixed-width reads give back what was
  written, at any offset and with any trailing bytes.
* `readVarint_encodeVarint`: `read_varint` decodes `write_varint`'s output whenever the value fits
  the reader's byte budget (five bytes for `u32` and `i32`, three for `i16`, ten for `i64`).
* `unzigzag_zigzag`: zig-zag decoding inverts zig-zag encoding on every integer.
-/

namespace ThriftProtocol

/-- A read transport: the state is the list of bytes not yet read. -/
abbrev Reader := EStateM Failure (List UInt8)

/-- The error `read_exact` reports when the input ends first. -/
def fillEof : Failure := .transport .endOfFile "failed to fill whole buffer"

/-- `read_exact` into a buffer of `n` bytes. -/
def readExact (n : Nat) : Reader (List UInt8) := fun input =>
  if n ≤ input.length then .ok (input.take n) (input.drop n) else .error fillEof []

theorem readExact_append (bs rest : List UInt8) :
    readExact bs.length (bs ++ rest) = .ok bs rest := by
  simp [readExact]

theorem readExact_of_lt {n : Nat} {input : List UInt8} (h : input.length < n) :
    readExact n input = .error fillEof [] := by
  simp [readExact, Nat.not_le.mpr h]

theorem readExact_of_le {n : Nat} {input : List UInt8} (h : n ≤ input.length) :
    readExact n input = .ok (input.take n) (input.drop n) := by
  simp [readExact, h]

/-- `read_u8` (and `read_exact` into a one-byte buffer). -/
def readU8 : Reader UInt8 := fun input =>
  match input with
  | b :: rest => .ok b rest
  | [] => .error fillEof []

@[simp] theorem readU8_cons (b : UInt8) (rest : List UInt8) : readU8 (b :: rest) = .ok b rest :=
  rfl

/-- `read_exact` into a `[u8; 16]`, then `Uuid::from_bytes`. -/
def readUuidBytes : Reader Uuid := fun input =>
  if h : 16 ≤ input.length then .ok ⟨input.take 16, by simp; omega⟩ (input.drop 16)
  else .error fillEof []

theorem readUuidBytes_append (u : Uuid) (rest : List UInt8) :
    readUuidBytes (u.bytes ++ rest) = .ok u rest := by
  have h := u.length_bytes
  simp [readUuidBytes, h]

/-- Run a transport operation on the transport field of a codec half. -/
def onTransport {σ α : Type} (get : σ → List UInt8) (set : σ → List UInt8 → σ)
    (r : Reader α) : EStateM Failure σ α := fun s =>
  match r (get s) with
  | .ok a t => .ok a (set s t)
  | .error e t => .error e (set s t)

/-! ## Byte order -/

/-- The `n` low bytes of `x`, least significant first. -/
def leBytes : Nat → Nat → List UInt8
  | 0, _ => []
  | n + 1, x => (x % 256).toUInt8 :: leBytes n (x / 256)

/-- The number whose little-endian bytes are `bs`. -/
def leNat : List UInt8 → Nat
  | [] => 0
  | b :: bs => b.toNat + 256 * leNat bs

/-- The `n` low bytes of `x`, most significant first. -/
def beBytes (n x : Nat) : List UInt8 := (leBytes n x).reverse

/-- The number whose big-endian bytes are `bs`. -/
def beNat (bs : List UInt8) : Nat := leNat bs.reverse

@[simp] theorem length_leBytes (n x : Nat) : (leBytes n x).length = n := by
  induction n generalizing x <;> simp [leBytes, *]

@[simp] theorem length_beBytes (n x : Nat) : (beBytes n x).length = n := by
  simp [beBytes]

theorem toNat_toUInt8_of_lt {n : Nat} (h : n < 256) : n.toUInt8.toNat = n :=
  UInt8.toNat_ofNat_of_lt h

/-- The order on bytes is the order on their values. -/
theorem UInt8.lt_iff_toNat_lt {a b : UInt8} : a < b ↔ a.toNat < b.toNat := Iff.rfl

theorem leNat_leBytes (n x : Nat) : leNat (leBytes n x) = x % 256 ^ n := by
  induction n generalizing x with
  | zero => simp [leBytes, leNat, Nat.mod_one]
  | succ n ih =>
    rw [leBytes, leNat, toNat_toUInt8_of_lt (Nat.mod_lt _ (by decide)), ih, Nat.pow_succ,
      Nat.mul_comm (256 ^ n), Nat.mod_mul]

theorem beNat_beBytes (n x : Nat) : beNat (beBytes n x) = x % 256 ^ n := by
  simp [beNat, beBytes, leNat_leBytes]

theorem leNat_lt : ∀ bs : List UInt8, leNat bs < 256 ^ bs.length
  | [] => by simp [leNat]
  | b :: bs => by
    have := leNat_lt bs
    have : b.toNat < 256 := UInt8.toNat_lt_size b
    simp only [leNat, List.length_cons, Nat.pow_succ]
    omega

/-- A byte below `0x80` has its sign bit clear. -/
theorem signBit_of_lt : ∀ a : Fin 128, ((a.val.toUInt8) &&& 0x80 != 0) = false := by decide

theorem beBytes_four_headD (n : Nat) : (beBytes 4 n).headD 0 = (n / 2 ^ 24 % 256).toUInt8 := by
  simp [beBytes, leBytes, Nat.div_div_eq_div_mul]

/-- The big-endian bytes of a non-negative `i32` start with a byte whose sign bit is clear. -/
theorem beBytes_four_signBit {n : Nat} (h : n < 2 ^ 31) :
    ((beBytes 4 n).headD 0 &&& 0x80 != 0) = false := by
  rw [beBytes_four_headD, Nat.mod_eq_of_lt (by omega)]
  exact signBit_of_lt ⟨n / 2 ^ 24, by omega⟩

/-- Read `n` bytes as a little-endian number. -/
def readLE (n : Nat) : Reader Nat := do
  let bs ← readExact n
  pure (leNat bs)

/-- Read `n` bytes as a big-endian number. -/
def readBE (n : Nat) : Reader Nat := do
  let bs ← readExact n
  pure (beNat bs)

theorem readLE_append (n x : Nat) (rest : List UInt8) :
    readLE n (leBytes n x ++ rest) = .ok (x % 256 ^ n) rest := by
  have := readExact_append (leBytes n x) rest
  simp only [length_leBytes] at this
  simp [readLE, bind, EStateM.bind, this, leNat_leBytes, pure, EStateM.pure]

theorem readBE_append (n x : Nat) (rest : List UInt8) :
    readBE n (beBytes n x ++ rest) = .ok (x % 256 ^ n) rest := by
  have := readExact_append (beBytes n x) rest
  simp only [length_beBytes] at this
  simp [readBE, bind, EStateM.bind, this, beNat_beBytes, pure, EStateM.pure]

/-- A bit vector read back from its bytes modulo a multiple of its range is itself. -/
theorem BitVec.ofNat_toNat_mod {w : Nat} (x : BitVec w) {m : Nat} (h : 2 ^ w ∣ m) :
    BitVec.ofNat w (x.toNat % m) = x := by
  apply BitVec.eq_of_toNat_eq
  rw [BitVec.toNat_ofNat, Nat.mod_mod_of_dvd _ h, Nat.mod_eq_of_lt x.isLt]

/-! ## Varints

`integer_encoding` writes LEB128: seven bits per byte, low group first, the continuation bit
`0x80` on every byte but the last. Signed values are first mapped to unsigned ones by zig-zag
(`(n << 1) ^ (n >> 63)` on the value widened to `i64`). Its reader (`VarIntProcessor`) takes bytes
until one without the continuation bit, refusing a byte beyond the type's budget
(`varint_max_size`, `(bits + 7) / 7`), decodes the groups as a `u64` and casts the result to
the requested type with `as`, which truncates. -/

/-- LEB128 of `n` in at most `fuel + 1` groups. -/
def encodeVarintFuel : Nat → Nat → List UInt8
  | 0, n => [n.toUInt8]
  | fuel + 1, n =>
    if n < 128 then [n.toUInt8] else (n % 128 + 128).toUInt8 :: encodeVarintFuel fuel (n / 128)

/-- `write_varint` of an unsigned value. The value itself bounds its number of groups. -/
def encodeVarint (n : Nat) : List UInt8 := encodeVarintFuel n n

/-- The error for input ending inside a varint. -/
def varintEof : Failure := .transport .endOfFile "Reached EOF"

/-- The error for a varint longer than its budget. -/
def varintUnterminated : Failure := .transport .unknown "Unterminated varint"

/-- `read_varint` with a budget of `maxSize` bytes, before the cast: the sum of the groups. -/
def readVarintGroups : Nat → Reader Nat
  | 0 => fun input => match input with
    | [] => .error varintEof []
    | _ :: rest => .error varintUnterminated rest
  | k + 1 => fun input => match input with
    | [] => .error varintEof []
    | b :: rest =>
      if b < 0x80 then .ok b.toNat rest
      else match readVarintGroups k rest with
        | .ok v r => .ok (b.toNat % 128 + 128 * v) r
        | .error e r => .error e r

/-- `read_varint` decoding a `u64`. -/
def readVarint (maxSize : Nat) : Reader Nat := do
  let v ← readVarintGroups maxSize
  pure (v % 2 ^ 64)

/-- The zig-zag image of an integer. -/
def zigzag (x : Int) : Nat := if 0 ≤ x then (2 * x).toNat else (-2 * x - 1).toNat

/-- The integer with zig-zag image `n`. -/
def unzigzag (n : Nat) : Int := if n % 2 = 0 then n / 2 else -((n : Int) / 2) - 1

@[simp] theorem unzigzag_zigzag (x : Int) : unzigzag (zigzag x) = x := by
  unfold zigzag unzigzag
  split <;> split <;> omega

theorem zigzag_lt {w : Nat} (x : BitVec w) : zigzag x.toInt < 2 ^ w := by
  have := x.isLt
  rw [BitVec.toInt_eq_toNat_cond]
  unfold zigzag
  split <;> split <;> omega

/-- Enough fuel gives the same groups. -/
theorem encodeVarintFuel_congr : ∀ (f g n : Nat), n ≤ f → n ≤ g →
    encodeVarintFuel f n = encodeVarintFuel g n
  | 0, g, n, hf, _ => by
    obtain rfl : n = 0 := by omega
    cases g <;> rfl
  | f + 1, 0, n, _, hg => by
    obtain rfl : n = 0 := by omega
    rfl
  | f + 1, g + 1, n, hf, hg => by
    simp only [encodeVarintFuel]
    split
    · rfl
    · rw [encodeVarintFuel_congr f g (n / 128) (by omega) (by omega)]

theorem encodeVarint_eq (n : Nat) : encodeVarint n =
    if n < 128 then [n.toUInt8] else (n % 128 + 128).toUInt8 :: encodeVarint (n / 128) := by
  unfold encodeVarint
  cases n with
  | zero => rfl
  | succ m =>
    simp only [encodeVarintFuel]
    split
    · rfl
    · rw [encodeVarintFuel_congr m ((m + 1) / 128) _ (by omega) le_rfl]

theorem encodeVarint_ne_nil (n : Nat) : encodeVarint n ≠ [] := by
  rw [encodeVarint_eq]; split <;> simp

theorem readVarintGroups_last {b : UInt8} (h : b < 0x80) (k : Nat) (rest : List UInt8) :
    readVarintGroups (k + 1) (b :: rest) = .ok b.toNat rest := by
  simp only [readVarintGroups, h, if_true]

theorem readVarintGroups_more {b : UInt8} (h : ¬ b < 0x80) {k v : Nat} {rest r : List UInt8}
    (hr : readVarintGroups k rest = .ok v r) :
    readVarintGroups (k + 1) (b :: rest) = .ok (b.toNat % 128 + 128 * v) r := by
  simp only [readVarintGroups, h, if_false, hr]

theorem readVarintGroups_encodeVarint (k : Nat) :
    ∀ n, n < 128 ^ (k + 1) → ∀ rest, readVarintGroups (k + 1) (encodeVarint n ++ rest) = .ok n rest := by
  induction k with
  | zero =>
    intro n h rest
    have hn : n < 128 := by simpa using h
    rw [encodeVarint_eq, if_pos hn, List.singleton_append, readVarintGroups_last (by
      rw [UInt8.lt_iff_toNat_lt, toNat_toUInt8_of_lt (by omega)]; exact hn),
      toNat_toUInt8_of_lt (by omega)]
  | succ k ih =>
    intro n h rest
    rw [encodeVarint_eq]
    split
    · rename_i hn
      rw [List.singleton_append, readVarintGroups_last (by
        rw [UInt8.lt_iff_toNat_lt, toNat_toUInt8_of_lt (by omega)]; exact hn),
        toNat_toUInt8_of_lt (by omega)]
    · rename_i hn
      have hb : ((n % 128 + 128).toUInt8).toNat = n % 128 + 128 := toNat_toUInt8_of_lt (by omega)
      rw [List.cons_append, readVarintGroups_more (by rw [UInt8.lt_iff_toNat_lt, hb]; exact Nat.not_lt.mpr (Nat.le_add_left 128 _))
        (ih (n / 128) (by rw [Nat.pow_succ] at h; omega) rest), hb]
      congr 1; omega

theorem readVarint_encodeVarint {k n : Nat} (h : n < 128 ^ (k + 1)) (hn : n < 2 ^ 64)
    (rest : List UInt8) : readVarint (k + 1) (encodeVarint n ++ rest) = .ok n rest := by
  simp only [readVarint, bind, EStateM.bind, readVarintGroups_encodeVarint k n h rest, pure,
    EStateM.pure, Nat.mod_eq_of_lt hn]

/-- `x as T` from an `i64` to a signed `T` of `w` bits keeps every value of `T`. -/
theorem BitVec.ofInt_toInt {w : Nat} (x : BitVec w) : BitVec.ofInt w x.toInt = x := by
  apply BitVec.eq_of_toNat_eq
  have := x.isLt
  have h : ((x.toNat : Int) % (2 ^ w : Nat)).toNat = x.toNat := by
    rw [Int.emod_eq_of_lt (by omega) (by omega)]; simp
  rw [BitVec.toNat_ofInt, BitVec.toInt_eq_toNat_cond]
  split
  · exact h
  · rw [Int.sub_emod, Int.emod_self, sub_zero, Int.emod_emod]; exact h

/-- `varint_max_size` of a type of `w` bits: the bytes its longest varint takes. -/
def varintMaxSize (w : Nat) : Nat := (w + 7) / 7

/-- `read_varint::<T>()` for an unsigned `T` of `w` bits: the `u64` cast with `as`. -/
def readVarintUnsigned (w : Nat) : Reader (BitVec w) := do
  let v ← readVarint (varintMaxSize w)
  pure (BitVec.ofNat w v)

/-- `read_varint::<T>()` for a signed `T` of `w` bits: the `u64` zig-zag decoded as an `i64`,
then cast with `as`. -/
def readVarintSigned (w : Nat) : Reader (BitVec w) := do
  let v ← readVarint (varintMaxSize w)
  pure (BitVec.ofInt w (unzigzag v))

/-- Every value of a `w`-bit type fits the byte budget of its varint. -/
theorem lt_varintBudget {w n : Nat} (h : n < 2 ^ w) : n < 128 ^ (w / 7 + 1) :=
  calc n < 2 ^ w := h
    _ ≤ 2 ^ (7 * (w / 7 + 1)) := Nat.pow_le_pow_right (by decide) (by omega)
    _ = 128 ^ (w / 7 + 1) := by rw [Nat.pow_mul]

theorem readVarintUnsigned_encodeVarint {w : Nat} (hw : w ≤ 64) (x : BitVec w)
    (rest : List UInt8) : readVarintUnsigned w (encodeVarint x.toNat ++ rest) = .ok x rest := by
  have hx := x.isLt
  have hr := @readVarint_encodeVarint (w / 7) x.toNat (lt_varintBudget hx)
    (lt_of_lt_of_le hx (Nat.pow_le_pow_right (by decide) hw)) rest
  rw [readVarintUnsigned, varintMaxSize, show (w + 7) / 7 = w / 7 + 1 by omega, bind_of_ok hr]
  simp [pure, EStateM.pure]

theorem readVarintSigned_encodeVarint {w : Nat} (hw : w ≤ 64) (x : BitVec w)
    (rest : List UInt8) :
    readVarintSigned w (encodeVarint (zigzag x.toInt) ++ rest) = .ok x rest := by
  have hx := zigzag_lt x
  have hr := @readVarint_encodeVarint (w / 7) (zigzag x.toInt) (lt_varintBudget hx)
    (lt_of_lt_of_le hx (Nat.pow_le_pow_right (by decide) hw)) rest
  rw [readVarintSigned, varintMaxSize, show (w + 7) / 7 = w / 7 + 1 by omega, bind_of_ok hr]
  simp only [pure, EStateM.pure, unzigzag_zigzag, BitVec.ofInt_toInt]

end ThriftProtocol
