import Mathlib.Data.List.Nodup

/-!
# Doubly linked nodes

A heap of nodes gives every node its two links.  `Linked links p xs q` says that the nodes `xs` are
linked in this order, both ways, with `p` before the first and `q` behind the last.  Such a sequence
is determined by its first node once nothing is behind the last (`Linked.eq_of_head?`), and so no
node is in it twice (`Linked.nodup`).

The rules for a program that changes links are `linked_append`, to take a sequence apart at the
place of the change, `Linked.congr`, for the parts that are not touched, and one rule for each end:
`Linked.setNext_last` and `Linked.setPrev_first`.
-/

namespace SelfTestCode

/-- The links of a node; `none` is the null pointer. -/
structure Links (P : Type*) where
  prev : Option P
  next : Option P
  deriving DecidableEq

namespace Links

variable {P : Type*}

/-- The nodes are linked in this order, between `p` and `q`. -/
def Linked (links : P → Links P) : Option P → List P → Option P → Prop
  | _, [], _ => True
  | p, x :: xs, q =>
    (links x).prev = p ∧ (links x).next = xs.head?.or q ∧ Linked links (some x) xs q

section Rules

variable {links links' : P → Links P} {p q : Option P} {x : P} {xs ys : List P}

/-- Only the links of the nodes themselves matter. -/
lemma Linked.congr (h : Linked links p xs q) (heq : ∀ x ∈ xs, links' x = links x) :
    Linked links' p xs q := by
  induction xs generalizing p with
  | nil => trivial
  | cons x xs ih =>
    obtain ⟨hprev, hnext, hrest⟩ := h
    refine ⟨?_, ?_, ih hrest fun y hy => heq y (List.mem_cons_of_mem x hy)⟩
    · rw [heq x List.mem_cons_self, hprev]
    · rw [heq x List.mem_cons_self, hnext]

/-- A sequence is linked if its two parts are, each with the other's end behind its own. -/
lemma linked_append : Linked links p (xs ++ ys) q ↔
    Linked links p xs (ys.head?.or q) ∧ Linked links (xs.getLast?.or p) ys q := by
  induction xs generalizing p with
  | nil => simp [Linked]
  | cons x xs ih =>
    have hlast : (x :: xs).getLast?.or p = xs.getLast?.or (some x) := by
      cases hlast : xs.getLast? <;> simp [List.getLast?_cons, hlast]
    rw [List.cons_append, Linked, Linked, ih, hlast, List.head?_append, Option.or_assoc]
    tauto

/-- With nothing behind the last node, the first one determines the sequence. -/
lemma Linked.eq_of_head? {p' : Option P} (hxs : Linked links p xs none)
    (hys : Linked links p' ys none) (hhead : xs.head? = ys.head?) : xs = ys := by
  induction xs generalizing p p' ys with
  | nil => exact (List.head?_eq_none_iff.mp hhead.symm).symm
  | cons x xs ih =>
    cases ys with
    | nil => cases hhead
    | cons y ys =>
      obtain rfl : x = y := Option.some.inj hhead
      obtain ⟨-, hnext, hrest⟩ := hxs
      obtain ⟨-, hnext', hrest'⟩ := hys
      rw [Option.or_none] at hnext hnext'
      rw [ih hrest hrest' (hnext.symm.trans hnext')]

/-- No node is in a sequence twice: the parts from its two places on would be the same. -/
lemma Linked.nodup (h : Linked links p xs none) : xs.Nodup := by
  induction xs generalizing p with
  | nil => exact List.nodup_nil
  | cons x xs ih =>
    refine List.nodup_cons.mpr ⟨fun hx => ?_, ih h.2.2⟩
    obtain ⟨as, bs, hsplit⟩ := List.append_of_mem hx
    have htail : Linked links (as.getLast?.or (some x)) (x :: bs) none := by
      have hrest := h.2.2
      rw [hsplit, linked_append] at hrest
      exact hrest.2
    have hlength := congrArg List.length (h.eq_of_head? htail rfl)
    rw [hsplit] at hlength
    simp only [List.length_cons, List.length_append] at hlength
    omega

end Rules

/-! ## Updates -/

section Updates

variable [DecidableEq P] (links : P → Links P) {p q : Option P} {x : P} {xs : List P}

/-- `x->next = v`. -/
def setNext (x : P) (v : Option P) : P → Links P :=
  Function.update links x { links x with next := v }

/-- `x->prev = v`. -/
def setPrev (x : P) (v : Option P) : P → Links P :=
  Function.update links x { links x with prev := v }

@[simp] lemma setNext_self (v : Option P) : setNext links x v x = ⟨(links x).prev, v⟩ :=
  Function.update_self ..

@[simp] lemma setPrev_self (v : Option P) : setPrev links x v x = ⟨v, (links x).next⟩ :=
  Function.update_self ..

lemma setNext_of_ne {y : P} (h : y ≠ x) (v : Option P) : setNext links x v y = links y :=
  Function.update_of_ne h ..

lemma setPrev_of_ne {y : P} (h : y ≠ x) (v : Option P) : setPrev links x v y = links y :=
  Function.update_of_ne h ..

variable {links}

lemma Linked.setNext_of_notMem (h : Linked links p xs q) (hx : x ∉ xs) (v : Option P) :
    Linked (setNext links x v) p xs q :=
  h.congr fun _ hy => setNext_of_ne links (ne_of_mem_of_not_mem hy hx) v

lemma Linked.setPrev_of_notMem (h : Linked links p xs q) (hx : x ∉ xs) (v : Option P) :
    Linked (setPrev links x v) p xs q :=
  h.congr fun _ hy => setPrev_of_ne links (ne_of_mem_of_not_mem hy hx) v

/-- What is behind a sequence is written to the last node's `next`. -/
lemma Linked.setNext_last (h : Linked links p (xs ++ [x]) q) (hx : x ∉ xs) (v : Option P) :
    Linked (setNext links x v) p (xs ++ [x]) v := by
  rw [linked_append] at h ⊢
  refine ⟨h.1.setNext_of_notMem hx v, ?_, ?_, trivial⟩
  · rw [setNext_self]
    exact h.2.1
  · rw [setNext_self]
    rfl

/-- What is before a sequence is written to the first node's `prev`. -/
lemma Linked.setPrev_first (h : Linked links p (x :: xs) q) (hx : x ∉ xs) (v : Option P) :
    Linked (setPrev links x v) v (x :: xs) q := by
  obtain ⟨-, hnext, hrest⟩ := h
  refine ⟨?_, ?_, hrest.setPrev_of_notMem hx v⟩
  · rw [setPrev_self]
  · rw [setPrev_self]
    exact hnext

end Updates

end Links

end SelfTestCode
