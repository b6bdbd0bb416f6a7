import Mathlib.Data.Nat.Digits.Defs
import Mathlib.Data.List.Basic

/-!
# Blocks of memory, and integers in them

A block is the list of its cells.  `load` and `store` access a range of cells and fail outside the
block; `memcpy` between two blocks is a `load` from one and a `store` to the other.  What a block
has at an offset is the relation `Holds`, and the lemmas about it are the rules by which a layout
is checked: a store puts its data there and leaves alone what lies before it, and a range of a
range is a range.

The second half reads and writes integers of fixed width, least significant byte first.
-/

namespace SelfTestCode

/-! ## Ranges of a block -/

section Block

variable {α : Type*}

/-- The `n` cells from `off` on, if the block has them. -/
def load (m : List α) (off n : ℕ) : Option (List α) :=
  if off + n ≤ m.length then some ((m.drop off).take n) else none

/-- The block after `data` is written from `off` on, if it fits. -/
def store (m : List α) (off : ℕ) (data : List α) : Option (List α) :=
  if off + data.length ≤ m.length then
    some (m.take off ++ (data ++ m.drop (off + data.length)))
  else none

/-- `data` stands in the block from `off` on. -/
def Holds (m : List α) (off : ℕ) (data : List α) : Prop :=
  ∃ pre post, m = pre ++ (data ++ post) ∧ pre.length = off

variable {m m' data : List α} {off n : ℕ}

lemma Holds.le_length (h : Holds m off data) : off + data.length ≤ m.length := by
  obtain ⟨pre, post, rfl, rfl⟩ := h
  rw [List.length_append, List.length_append]
  omega

lemma load_eq_some_iff : load m off n = some data ↔ Holds m off data ∧ data.length = n := by
  constructor
  · intro h
    unfold load at h
    split at h
    · rename_i hle
      obtain rfl := Option.some.inj h
      refine ⟨⟨m.take off, (m.drop off).drop n, ?_, ?_⟩, ?_⟩
      · rw [List.take_append_drop, List.take_append_drop]
      · rw [List.length_take]
        omega
      · rw [List.length_take, List.length_drop]
        omega
    · cases h
  · rintro ⟨⟨pre, post, rfl, rfl⟩, rfl⟩
    rw [load, if_pos (by simp), List.drop_left, List.take_left]

lemma Holds.load (h : Holds m off data) : load m off data.length = some data :=
  load_eq_some_iff.mpr ⟨h, rfl⟩

lemma load_eq_none_iff : load m off n = none ↔ m.length < off + n := by
  rw [SelfTestCode.load]
  split <;> simp <;> omega

lemma exists_load (h : off + n ≤ m.length) : ∃ data, load m off n = some data :=
  ⟨_, if_pos h⟩

lemma exists_store (h : off + data.length ≤ m.length) : ∃ m', store m off data = some m' :=
  ⟨_, if_pos h⟩

/-- What a store does, from the two parts of the block it leaves alone. -/
lemma store_eq_some_iff : store m off data = some m' ↔
    ∃ pre old post, m = pre ++ (old ++ post) ∧ pre.length = off ∧ old.length = data.length ∧
      m' = pre ++ (data ++ post) := by
  constructor
  · intro h
    unfold store at h
    split at h
    · rename_i hle
      refine ⟨m.take off, (m.drop off).take data.length, m.drop (off + data.length), ?_, ?_, ?_, ?_⟩
      · rw [← List.drop_drop, List.take_append_drop, List.take_append_drop]
      · rw [List.length_take]
        omega
      · rw [List.length_take, List.length_drop]
        omega
      · exact (Option.some.inj h).symm
    · cases h
  · rintro ⟨pre, old, post, rfl, rfl, hold, rfl⟩
    have hfit : pre.length + data.length ≤ (pre ++ (old ++ post)).length := by
      rw [List.length_append, List.length_append]
      omega
    rw [store, if_pos hfit, List.take_left, ← List.drop_drop, List.drop_left, ← hold,
      List.drop_left]

lemma store_length (h : store m off data = some m') : m'.length = m.length := by
  obtain ⟨pre, old, post, rfl, -, hold, rfl⟩ := store_eq_some_iff.mp h
  simp only [List.length_append, hold]

lemma Holds.of_store (h : store m off data = some m') : Holds m' off data := by
  obtain ⟨pre, old, post, -, hpre, -, rfl⟩ := store_eq_some_iff.mp h
  exact ⟨pre, post, rfl, hpre⟩

/-- A range of a range. -/
lemma Holds.trans (h : Holds m off data) {i : ℕ} {inner : List α} (hi : Holds data i inner) :
    Holds m (off + i) inner := by
  obtain ⟨pre, post, rfl, rfl⟩ := h
  obtain ⟨pre', post', rfl, rfl⟩ := hi
  refine ⟨pre ++ pre', post' ++ post, ?_, List.length_append⟩
  simp only [List.append_assoc]

lemma holds_left (a b : List α) : Holds (a ++ b) 0 a := ⟨[], b, rfl, rfl⟩

lemma holds_right (a b : List α) : Holds (a ++ b) a.length b :=
  ⟨a, [], by rw [List.append_nil], rfl⟩

lemma holds_self (a : List α) : Holds a 0 a := ⟨[], [], (List.append_nil a).symm, rfl⟩

lemma Holds.left {a b : List α} (h : Holds m off (a ++ b)) : Holds m off a :=
  h.trans (holds_left a b)

lemma Holds.right {a b : List α} (h : Holds m off (a ++ b)) : Holds m (off + a.length) b :=
  h.trans (holds_right a b)

lemma Holds.append {a b : List α} (ha : Holds m off a) (hb : Holds m (off + a.length) b) :
    Holds m off (a ++ b) := by
  obtain ⟨pre, post, rfl, rfl⟩ := ha
  obtain ⟨pre', post', heq, hlen⟩ := hb
  rw [← List.append_assoc] at heq
  obtain ⟨hpre, hpost⟩ := List.append_inj heq (by rw [List.length_append, hlen])
  refine ⟨pre, post', ?_, rfl⟩
  rw [hpost, List.append_assoc]

lemma Holds.unique {a b : List α} (ha : Holds m off a) (hb : Holds m off b)
    (hlen : a.length = b.length) : a = b := by
  have hla := ha.load
  rw [hlen, hb.load] at hla
  exact (Option.some.inj hla).symm

/-- A range that lies inside another. -/
lemma Holds.inside {inner : List α} {i : ℕ} (h : Holds m off data)
    (hi : Holds m (off + i) inner) (hle : i + inner.length ≤ data.length) : Holds data i inner := by
  obtain ⟨pre, post, rfl, rfl⟩ := h
  have hload := hi.load
  rw [SelfTestCode.load, if_pos hi.le_length, ← List.drop_drop, List.drop_left,
    List.drop_append_of_le_length (by omega), List.take_append_of_le_length] at hload
  · apply (load_eq_some_iff.mp _).1
    · exact inner.length
    · rw [SelfTestCode.load, if_pos hle]
      exact hload
  · rw [List.length_drop]
    omega

/-- What stands in a block stands in a longer one. -/
lemma Holds.extend (h : Holds m off data) (rest : List α) : Holds (m ++ rest) off data := by
  have htrans := (holds_left m rest).trans h
  rwa [Nat.zero_add] at htrans

/-- A store leaves what lies before it. -/
lemma Holds.store_after {old : List α} {i : ℕ} (h : Holds m i old)
    (hs : store m off data = some m') (hle : i + old.length ≤ off) : Holds m' i old := by
  obtain ⟨pre, gone, post, rfl, rfl, -, rfl⟩ := store_eq_some_iff.mp hs
  obtain ⟨pre', post', heq, rfl⟩ := h
  -- the range is a part of what lies before the store
  have hcut : pre.take (pre' ++ old).length = pre' ++ old := by
    have htake := congrArg (List.take (pre' ++ old).length) heq
    rw [List.take_append_of_le_length (by rw [List.length_append]; omega), ← List.append_assoc,
      List.take_left] at htake
    exact htake
  have hsplit := List.take_append_drop (pre' ++ old).length pre
  rw [hcut] at hsplit
  refine ⟨pre', pre.drop (pre' ++ old).length ++ (data ++ post), ?_, rfl⟩
  nth_rewrite 1 [← hsplit]
  simp only [List.append_assoc]

end Block

/-! ## Integers -/

/-- The lowest `w` bytes of a number. -/
def leBytes : ℕ → ℕ → List UInt8
  | 0, _ => []
  | w + 1, n => UInt8.ofNat n :: leBytes w (n / 256)

def ofLeBytes (bytes : List UInt8) : ℕ := Nat.ofDigits 256 (bytes.map UInt8.toNat)

@[simp] lemma length_leBytes (w n : ℕ) : (leBytes w n).length = w := by
  induction w generalizing n with
  | zero => rfl
  | succ w ih => rw [leBytes, List.length_cons, ih]

lemma ofLeBytes_leBytes (w n : ℕ) : ofLeBytes (leBytes w n) = n % 256 ^ w := by
  induction w generalizing n with
  | zero => rw [pow_zero, Nat.mod_one]; rfl
  | succ w ih =>
    rw [leBytes, ofLeBytes, List.map_cons, Nat.ofDigits_cons]
    change (UInt8.ofNat n).toNat + 256 * ofLeBytes (leBytes w (n / 256)) = _
    rw [ih, pow_succ', Nat.mod_mul, UInt8.toNat_ofNat']

/-- An `int` in memory. -/
def encodeInt32 (x : Int32) : List UInt8 := leBytes 4 x.toUInt32.toNat

def decodeInt32 (bytes : List UInt8) : Int32 := (UInt32.ofNat (ofLeBytes bytes)).toInt32

/-- An `int64_t` in memory. -/
def encodeInt64 (x : Int64) : List UInt8 := leBytes 8 x.toUInt64.toNat

def decodeInt64 (bytes : List UInt8) : Int64 := (UInt64.ofNat (ofLeBytes bytes)).toInt64

@[simp] lemma length_encodeInt32 (x : Int32) : (encodeInt32 x).length = 4 := length_leBytes 4 _

@[simp] lemma length_encodeInt64 (x : Int64) : (encodeInt64 x).length = 8 := length_leBytes 8 _

@[simp] lemma decodeInt32_encodeInt32 (x : Int32) : decodeInt32 (encodeInt32 x) = x := by
  rw [decodeInt32, encodeInt32, ofLeBytes_leBytes, Nat.mod_eq_of_lt (by exact x.toUInt32.toNat_lt),
    UInt32.ofNat_toNat]
  rfl

@[simp] lemma decodeInt64_encodeInt64 (x : Int64) : decodeInt64 (encodeInt64 x) = x := by
  rw [decodeInt64, encodeInt64, ofLeBytes_leBytes, Nat.mod_eq_of_lt (by exact x.toUInt64.toNat_lt),
    UInt64.ofNat_toNat]
  rfl

def loadInt32 (m : List UInt8) (off : ℕ) : Option Int32 := (load m off 4).map decodeInt32

def loadInt64 (m : List UInt8) (off : ℕ) : Option Int64 := (load m off 8).map decodeInt64

lemma Holds.loadInt32 {m : List UInt8} {off : ℕ} {x : Int32} (h : Holds m off (encodeInt32 x)) :
    loadInt32 m off = some x := by
  have hload := h.load
  rw [length_encodeInt32] at hload
  rw [SelfTestCode.loadInt32, hload, Option.map_some, decodeInt32_encodeInt32]

lemma Holds.loadInt64 {m : List UInt8} {off : ℕ} {x : Int64} (h : Holds m off (encodeInt64 x)) :
    loadInt64 m off = some x := by
  have hload := h.load
  rw [length_encodeInt64] at hload
  rw [SelfTestCode.loadInt64, hload, Option.map_some, decodeInt64_encodeInt64]

/-- Consecutive `int`s. -/
def encodeInts (xs : List Int32) : List UInt8 := xs.flatMap encodeInt32

@[simp] lemma length_encodeInts (xs : List Int32) : (encodeInts xs).length = 4 * xs.length := by
  induction xs with
  | nil => rfl
  | cons x xs ih =>
    rw [encodeInts, List.flatMap_cons, List.length_append, length_encodeInt32, List.length_cons]
    change 4 + (encodeInts xs).length = _
    rw [ih]
    omega

lemma Holds.loadInts {m : List UInt8} {off : ℕ} {xs : List Int32} (h : Holds m off (encodeInts xs))
    (i : ℕ) {x : Int32} (hx : xs[i]? = some x) :
    SelfTestCode.loadInt32 m (off + 4 * i) = some x := by
  induction xs generalizing off i with
  | nil => cases hx
  | cons y ys ih =>
    have hsplit : Holds m off (encodeInt32 y ++ encodeInts ys) := h
    cases i with
    | zero =>
      obtain rfl : y = x := Option.some.inj hx
      exact hsplit.left.loadInt32
    | succ i =>
      have hrest := hsplit.right
      rw [length_encodeInt32] at hrest
      rw [show off + 4 * (i + 1) = off + 4 + 4 * i by omega]
      exact ih hrest i hx

end SelfTestCode
