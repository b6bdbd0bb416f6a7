import Mathlib.Data.List.Rotate

/-!
# Ring buffers

A ring is a list of cells with two indices: `head`, the oldest entry, and `tail`, the cell the
next entry goes to.  One cell always stays free, so that `head = tail` means empty.  `contents`
is the queue a ring stands for: the entries from `head` on, in order of arrival.

`push` and `pop` are the bare updates; what they do to `contents` is `contents_push` (when the
ring is not full) and `contents_pop` (when it is not empty).  A program that stores the three
parts in fields of its own builds a `Ring` from them and uses these rules.

A queue may also be kept as its oldest cell and the number of its entries.  It is a `window` of
the buffer, and the rules for it are `window_set` and `window_succ`; those of the rings are
derived from them.

`Fifo` is the bounded queue that such a buffer is for: a list, from which the oldest entry is taken,
and which refuses entries when it holds as many as it may.  `Fifo.run_accepted` says of a whole run
that nothing is lost, repeated or reordered, and `Fifo.simulates` transports a run to an
implementation whose steps agree with it.
-/

namespace SelfTestCode

/-! ## Windows -/

section Window

variable {α : Type*} {buf : List α} {head n : ℕ}

/-- The `n` cells from `head` on, around the end of the buffer. -/
def window (buf : List α) (head n : ℕ) : List α := (buf.rotate head).take n

lemma length_window (hn : n ≤ buf.length) : (window buf head n).length = n := by
  rw [window, List.length_take, List.length_rotate]
  exact Nat.min_eq_left hn

lemma getElem?_window (hn : n ≤ buf.length) (i : ℕ) :
    (window buf head n)[i]? = if i < n then buf[(head + i) % buf.length]? else none := by
  rw [window, List.getElem?_take]
  split
  · rename_i hi
    rw [List.getElem?_rotate (hi.trans_le hn), Nat.add_comm]
  · rfl

lemma mod_of_lt_two_mul {a n : ℕ} (h : a < 2 * n) : a % n = if a < n then a else a - n := by
  split
  · exact Nat.mod_eq_of_lt ‹_›
  · rw [Nat.mod_eq_sub_mod (by omega), Nat.mod_eq_of_lt (by omega)]

/-- A write to the first cell behind a window makes it longer. -/
lemma window_set (hhead : head < buf.length) (hn : n < buf.length) (a : α) :
    window (buf.set ((head + n) % buf.length) a) head (n + 1) = window buf head n ++ [a] := by
  apply List.ext_getElem?
  intro i
  have hlt : (head + n) % buf.length < buf.length := Nat.mod_lt _ (by omega)
  have hlength : (window buf head n).length = n := length_window hn.le
  rw [getElem?_window (by rw [List.length_set]; exact hn), List.length_set]
  rcases lt_trichotomy i n with hi | hi | hi
  · -- an older cell is not the one that is written
    have hne : (head + n) % buf.length ≠ (head + i) % buf.length := by
      rw [mod_of_lt_two_mul (by omega), mod_of_lt_two_mul (by omega)]
      split <;> split <;> omega
    rw [if_pos (by omega), List.getElem?_set_ne hne,
      List.getElem?_append_left (by rw [hlength]; exact hi), getElem?_window hn.le, if_pos hi]
  · subst hi
    rw [if_pos (by omega), List.getElem?_set_self hlt,
      List.getElem?_append_right (by rw [hlength]), hlength]
    simp
  · rw [if_neg (by omega), List.getElem?_eq_none]
    rw [List.length_append, hlength, List.length_singleton]
    omega

/-- The first cell of a window, and the rest. -/
lemma window_succ (hhead : head < buf.length) (hn : n < buf.length) :
    window buf head (n + 1)
      = buf.get ⟨head, hhead⟩ :: window buf ((head + 1) % buf.length) n := by
  apply List.ext_getElem?
  intro i
  cases i with
  | zero =>
    rw [getElem?_window hn, if_pos (Nat.succ_pos n), Nat.add_zero, Nat.mod_eq_of_lt hhead,
      List.getElem?_cons_zero, List.getElem?_eq_getElem hhead]
    rfl
  | succ i =>
    rw [getElem?_window hn, List.getElem?_cons_succ, getElem?_window hn.le, Nat.mod_add_mod,
      Nat.add_right_comm, Nat.add_assoc]
    by_cases hi : i < n
    · rw [if_pos hi, if_pos (by omega)]
    · rw [if_neg hi, if_neg (by omega)]

end Window

/-! ## Rings -/

/-- Cells and two indices into them. -/
structure Ring (α : Type*) where
  buf : List α
  head : ℕ
  tail : ℕ
  head_lt : head < buf.length
  tail_lt : tail < buf.length

namespace Ring

variable {α : Type*} (r : Ring α)

/-- The number of cells. -/
def cells : ℕ := r.buf.length

/-- The number of entries. -/
def size : ℕ := (r.tail + r.cells - r.head) % r.cells

/-- The entries, oldest first. -/
def contents : List α := (r.buf.rotate r.head).take r.size

/-- Only the free cell is left. -/
def Full : Prop := (r.tail + 1) % r.cells = r.head

/-- Write an entry to the cell at `tail`. -/
def push (a : α) : Ring α where
  buf := r.buf.set r.tail a
  head := r.head
  tail := (r.tail + 1) % r.cells
  head_lt := by rw [List.length_set]; exact r.head_lt
  tail_lt := by rw [List.length_set]; exact Nat.mod_lt _ (Nat.zero_lt_of_lt r.head_lt)

/-- Give up the entry at `head`. -/
def pop : Ring α where
  buf := r.buf
  head := (r.head + 1) % r.cells
  tail := r.tail
  head_lt := Nat.mod_lt _ (Nat.zero_lt_of_lt r.head_lt)
  tail_lt := r.tail_lt

/-! ## Indices -/

lemma size_eq : r.size = if r.head ≤ r.tail then r.tail - r.head
    else r.tail + r.cells - r.head := by
  have hh : r.head < r.cells := r.head_lt
  have ht : r.tail < r.cells := r.tail_lt
  rw [size, mod_of_lt_two_mul (by omega)]
  split <;> split <;> omega

lemma size_lt : r.size < r.cells := Nat.mod_lt _ (Nat.zero_lt_of_lt r.head_lt)

lemma size_eq_zero_iff : r.size = 0 ↔ r.tail = r.head := by
  have hh : r.head < r.cells := r.head_lt
  have ht : r.tail < r.cells := r.tail_lt
  rw [size_eq]
  split <;> omega

lemma full_iff : r.Full ↔ r.size + 1 = r.cells := by
  have hh : r.head < r.cells := r.head_lt
  have ht : r.tail < r.cells := r.tail_lt
  rw [Full, mod_of_lt_two_mul (by omega), size_eq]
  split <;> split <;> omega

lemma cells_push (a : α) : (r.push a).cells = r.cells := List.length_set

lemma size_push (a : α) (h : ¬ r.Full) : (r.push a).size = r.size + 1 := by
  have hh : r.head < r.cells := r.head_lt
  have ht : r.tail < r.cells := r.tail_lt
  have htail : (r.push a).tail = (r.tail + 1) % r.cells := rfl
  have hhead : (r.push a).head = r.head := rfl
  rw [Full] at h
  rw [size_eq, size_eq, cells_push, htail, hhead]
  rw [mod_of_lt_two_mul (by omega)] at h ⊢
  split_ifs at h ⊢ <;> omega

lemma size_pop (h : r.tail ≠ r.head) : r.pop.size + 1 = r.size := by
  have hh : r.head < r.cells := r.head_lt
  have ht : r.tail < r.cells := r.tail_lt
  have htail : r.pop.tail = r.tail := rfl
  have hhead : r.pop.head = (r.head + 1) % r.cells := rfl
  have hcells : r.pop.cells = r.cells := rfl
  rw [size_eq, size_eq, hcells, htail, hhead, mod_of_lt_two_mul (by omega)]
  split <;> split <;> split <;> omega

/-- The cell at `tail` is the first behind the entries. -/
lemma add_size_mod : (r.head + r.size) % r.cells = r.tail := by
  have hh : r.head < r.cells := r.head_lt
  have ht : r.tail < r.cells := r.tail_lt
  have hsize := r.size_eq
  have hlt := r.size_lt
  rw [mod_of_lt_two_mul (by omega)]
  split at hsize <;> split <;> omega

/-! ## Contents -/

@[simp] lemma length_contents : r.contents.length = r.size := length_window r.size_lt.le

/-- A pushed entry is the newest. -/
theorem contents_push (a : α) (h : ¬ r.Full) : (r.push a).contents = r.contents ++ [a] := by
  have hset : (r.push a).contents
      = window (r.buf.set r.tail a) r.head ((r.push a).size) := rfl
  have htail : r.tail = (r.head + r.size) % r.buf.length := r.add_size_mod.symm
  rw [hset, size_push r a h, htail, window_set r.head_lt r.size_lt]
  rfl

/-- The entry at `head` is the oldest. -/
theorem contents_pop (h : r.tail ≠ r.head) :
    r.contents = r.buf.get ⟨r.head, r.head_lt⟩ :: r.pop.contents := by
  have hsize := r.size_pop h
  have hlt : r.pop.size < r.buf.length := r.pop.size_lt
  have hcontents : r.contents = window r.buf r.head r.size := rfl
  rw [hcontents, ← hsize, window_succ r.head_lt hlt]
  rfl

end Ring

/-! ## Bounded queues -/

namespace Fifo

inductive Op (α : Type*)
  | push (a : α)
  | pop

/-- Whether an entry was accepted, or the entry that was taken. -/
inductive Answer (α : Type*)
  | pushed (accepted : Bool)
  | popped (entry : Option α)

section Runs

variable {α σ : Type*} (capacity : ℕ)

/-- One operation on a queue that holds at most `capacity` entries. -/
def step (q : List α) : Op α → Answer α × List α
  | .push a => if q.length = capacity then (.pushed false, q) else (.pushed true, q ++ [a])
  | .pop => (.popped q.head?, q.tail)

/-- The answers of a sequence of operations, and the state after it. -/
def run (step : σ → Op α → Answer α × σ) : σ → List (Op α) → List (Answer α) × σ
  | s, [] => ([], s)
  | s, op :: ops =>
    let rest := run step (step s op).2 ops
    ((step s op).1 :: rest.1, rest.2)

/-- The entries that were accepted, in their order. -/
def accepted : List (Op α) → List (Answer α) → List α
  | .push a :: ops, .pushed true :: answers => a :: accepted ops answers
  | _ :: ops, _ :: answers => accepted ops answers
  | _, _ => []

/-- The entries that were taken, in their order. -/
def taken : List (Answer α) → List α
  | [] => []
  | .popped (some a) :: answers => a :: taken answers
  | _ :: answers => taken answers

/-- What is taken and what is left is what was there and what was accepted. -/
lemma run_accepted (q : List α) (ops : List (Op α)) :
    taken (run (step capacity) q ops).1 ++ (run (step capacity) q ops).2
      = q ++ accepted ops (run (step capacity) q ops).1 := by
  induction ops generalizing q with
  | nil => simp [run, taken, accepted]
  | cons op ops ih =>
    have hrest := ih (step capacity q op).2
    cases op with
    | push a =>
      rw [run, step]
      rw [step] at hrest
      split at hrest
      · rename_i hfull
        rw [if_pos hfull]
        exact hrest
      · rename_i hroom
        rw [if_neg hroom]
        rw [List.append_assoc] at hrest
        exact hrest
    | pop =>
      cases q with
      | nil => exact hrest
      | cons a q => exact congrArg (a :: ·) hrest

lemma length_run_le {q : List α} (h : q.length ≤ capacity) (ops : List (Op α)) :
    (run (step capacity) q ops).2.length ≤ capacity := by
  induction ops generalizing q with
  | nil => exact h
  | cons op ops ih =>
    refine ih ?_
    cases op with
    | push a =>
      rw [step]
      split
      · exact h
      · rw [List.length_append, List.length_singleton]
        omega
    | pop =>
      rw [step, List.length_tail]
      omega

/-- An implementation whose steps keep an invariant, and agree with those of the queue that its
state stands for, agrees with it in every run. -/
lemma simulates {Inv : σ → Prop} {contents : σ → List α} {impl : σ → Op α → Answer α × σ}
    (hstep : ∀ s op, Inv s → Inv (impl s op).2 ∧
      ((impl s op).1, contents (impl s op).2) = step capacity (contents s) op)
    {s : σ} (h : Inv s) (ops : List (Op α)) :
    Inv (run impl s ops).2 ∧ (run impl s ops).1 = (run (step capacity) (contents s) ops).1 ∧
      contents (run impl s ops).2 = (run (step capacity) (contents s) ops).2 := by
  induction ops generalizing s with
  | nil => exact ⟨h, rfl, rfl⟩
  | cons op ops ih =>
    obtain ⟨hinv, hagree⟩ := hstep s op h
    obtain ⟨hinv', hanswers, hcontents⟩ := ih hinv
    rw [run, run, ← hagree]
    exact ⟨hinv', congrArg _ hanswers, hcontents⟩

end Runs

end Fifo

end SelfTestCode
