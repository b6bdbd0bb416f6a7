import Mathlib.Data.List.Infix

/-!
# Messages in a byte stream

A stream carries messages one after the other and is cut into pieces that know nothing of them: a
read may end inside a message or hold several.  A `Framing` is a printer of messages and a reader
that takes one message off the front of a text, with the two facts an incremental reader rests on:
what was printed is read back whatever stands behind it, and a message that has been read does not
change when more text arrives.

`drain` reads as long as a whole message is there.  `drain_of_prefix` is the rule for it: from any
prefix of a printed list of messages it takes the messages that are complete, in order, and leaves
an incomplete one.  `Framing.Held` is the invariant of a reader that is fed piece by piece, and
`Held.feed` says that every piece keeps it.
-/

namespace SelfTestCode

/-- Messages of type `V` printed as texts over `α`. -/
structure Framing (α V : Type*) where
  /-- The messages that can be printed. -/
  Valid : V → Prop
  encode : V → List α
  /-- The first message of a text and what is behind it; `none` when it is not complete. -/
  read : List α → Option (V × List α)
  read_encode : ∀ {v : V}, Valid v → ∀ rest, read (encode v ++ rest) = some (v, rest)
  read_append : ∀ {text rest : List α} {v : V}, read text = some (v, rest) →
    ∀ more, read (text ++ more) = some (v, rest ++ more)
  length_lt_of_read : ∀ {text rest : List α} {v : V}, read text = some (v, rest) →
    rest.length < text.length

namespace Framing

variable {α V : Type*} (F : Framing α V)

/-- The messages of a list, printed one after the other. -/
def encodeAll (vs : List V) : List α := (vs.map F.encode).flatten

@[simp] lemma encodeAll_nil : F.encodeAll [] = [] := rfl

@[simp] lemma encodeAll_cons (v : V) (vs : List V) :
    F.encodeAll (v :: vs) = F.encode v ++ F.encodeAll vs := rfl

@[simp] lemma encodeAll_append (vs ws : List V) :
    F.encodeAll (vs ++ ws) = F.encodeAll vs ++ F.encodeAll ws := by
  simp [encodeAll]

/-- Read at most `n` messages. -/
def drainUpTo : ℕ → List α → List V × List α
  | 0, text => ([], text)
  | n + 1, text =>
    match F.read text with
    | none => ([], text)
    | some (v, rest) => (v :: (drainUpTo n rest).1, (drainUpTo n rest).2)

/-- Read all messages that are complete; there are no more than characters. -/
def drain (text : List α) : List V × List α := F.drainUpTo text.length text

/-! ## Complete and incomplete messages -/

variable {F}

lemma read_nil : F.read [] = none := by
  cases h : F.read [] with
  | none => rfl
  | some found => exact absurd (F.length_lt_of_read h) (Nat.not_lt_zero _)

lemma length_encode_pos {v : V} (hv : F.Valid v) : 0 < (F.encode v).length := by
  have hread := F.read_encode hv []
  rw [List.append_nil] at hread
  exact (Nat.zero_le _).trans_lt (F.length_lt_of_read hread)

/-- Less than a whole message is not read. -/
lemma read_eq_none_of_prefix {v : V} (hv : F.Valid v) {text rest : List α}
    (h : text <+: F.encode v ++ rest) (hlt : text.length < (F.encode v).length) :
    F.read text = none := by
  cases hread : F.read text with
  | none => rfl
  | some found =>
    obtain ⟨more, hmore⟩ := h
    have happ := F.read_append hread more
    rw [hmore, F.read_encode hv rest] at happ
    -- the rest that was read would have to be longer than what is there
    have hrest : rest = found.2 ++ more := congrArg Prod.snd (Option.some.inj happ)
    have hlen := congrArg List.length hmore
    rw [hrest] at hlen
    simp only [List.length_append] at hlen
    omega

/-- What is read off the front of a printed list is its first message. -/
lemma read_of_prefix {vs : List V} (hvs : ∀ v ∈ vs, F.Valid v) {text rest : List α} {v : V}
    (h : text <+: F.encodeAll vs) (hread : F.read text = some (v, rest)) :
    ∃ later, vs = v :: later ∧ text = F.encode v ++ rest ∧ rest <+: F.encodeAll later := by
  cases vs with
  | nil =>
    obtain rfl : text = [] := List.prefix_nil.mp h
    rw [read_nil] at hread
    exact absurd hread (by simp)
  | cons u later =>
    have hu : F.Valid u := hvs u (by simp)
    rw [encodeAll_cons] at h
    by_cases hlen : text.length < (F.encode u).length
    · have hnone := read_eq_none_of_prefix hu h hlen
      rw [hnone] at hread
      exact absurd hread (by simp)
    · obtain ⟨tail, rfl⟩ : F.encode u <+: text :=
        List.prefix_of_prefix_length_le (List.prefix_append _ _) h (by omega)
      rw [F.read_encode hu] at hread
      obtain ⟨rfl, rfl⟩ := Prod.mk.inj (Option.some.inj hread)
      exact ⟨later, rfl, rfl, (List.prefix_append_right_inj _).mp h⟩

/-! ## Reading what is complete -/

lemma drainUpTo_of_none {text : List α} (h : F.read text = none) (n : ℕ) :
    F.drainUpTo n text = ([], text) := by
  cases n with
  | zero => rfl
  | succ n => rw [drainUpTo, h]

lemma drainUpTo_encode {v : V} (hv : F.Valid v) (n : ℕ) (rest : List α) :
    F.drainUpTo (n + 1) (F.encode v ++ rest) =
      (v :: (F.drainUpTo n rest).1, (F.drainUpTo n rest).2) := by
  rw [drainUpTo, F.read_encode hv rest]

private lemma drainUpTo_of_prefix {vs : List V} (hvs : ∀ v ∈ vs, F.Valid v) :
    ∀ {n : ℕ} {text : List α}, text.length ≤ n → text <+: F.encodeAll vs →
      ∃ j, (F.drainUpTo n text).1 = vs.take j ∧
        text = F.encodeAll (vs.take j) ++ (F.drainUpTo n text).2 ∧
        F.read (F.drainUpTo n text).2 = none := by
  induction vs with
  | nil =>
    intro n text _ hpre
    obtain rfl : text = [] := List.prefix_nil.mp hpre
    rw [drainUpTo_of_none read_nil]
    exact ⟨0, rfl, rfl, read_nil⟩
  | cons v vs ih =>
    intro n text hn hpre
    have hv : F.Valid v := hvs v (by simp)
    rw [encodeAll_cons] at hpre
    by_cases hlen : text.length < (F.encode v).length
    · have hnone := read_eq_none_of_prefix hv hpre hlen
      rw [drainUpTo_of_none hnone]
      exact ⟨0, rfl, rfl, hnone⟩
    · obtain ⟨rest, rfl⟩ : F.encode v <+: text :=
        List.prefix_of_prefix_length_le (List.prefix_append _ _) hpre (by omega)
      have hpos := length_encode_pos hv
      rw [List.length_append] at hn
      obtain ⟨m, rfl⟩ : ∃ m, n = m + 1 := ⟨n - 1, by omega⟩
      have hrest : rest <+: F.encodeAll vs := (List.prefix_append_right_inj _).mp hpre
      have hlen : rest.length ≤ m := by omega
      obtain ⟨j, htaken, htext, hread⟩ := ih (fun u hu => hvs u (by simp [hu])) hlen hrest
      rw [drainUpTo_encode hv]
      refine ⟨j + 1, ?_, ?_, hread⟩
      · rw [List.take_succ_cons, htaken]
      · rw [List.take_succ_cons, encodeAll_cons, List.append_assoc, ← htext]

/-- From a prefix of a printed list `drain` takes the messages that are complete and leaves a text
that holds no whole message. -/
theorem drain_of_prefix {vs : List V} (hvs : ∀ v ∈ vs, F.Valid v) {text : List α}
    (h : text <+: F.encodeAll vs) :
    ∃ j, (F.drain text).1 = vs.take j ∧ text = F.encodeAll (vs.take j) ++ (F.drain text).2 ∧
      F.read (F.drain text).2 = none :=
  drainUpTo_of_prefix hvs le_rfl h

/-! ## Readers that are fed piece by piece -/

variable (F) in
/-- A reader that has taken the messages `taken` off the text `seen` and holds `left` back. -/
structure Held (seen : List α) (taken : List V) (left : List α) : Prop where
  seen_eq : seen = F.encodeAll taken ++ left
  read_left : F.read left = none

lemma Held.nil : F.Held [] [] [] := ⟨rfl, read_nil⟩

/-- One more piece: the complete messages are taken, in order. -/
theorem Held.feed {seen piece left : List α} {taken vs : List V} (hvs : ∀ v ∈ vs, F.Valid v)
    (h : F.Held seen taken left) (htaken : taken <+: vs)
    (hpre : seen ++ piece <+: F.encodeAll vs) :
    F.Held (seen ++ piece) (taken ++ (F.drain (left ++ piece)).1) (F.drain (left ++ piece)).2 ∧
      taken ++ (F.drain (left ++ piece)).1 <+: vs := by
  obtain ⟨later, rfl⟩ := htaken
  rw [h.seen_eq, List.append_assoc, encodeAll_append] at hpre
  obtain ⟨j, hdrained, htext, hread⟩ := drain_of_prefix
    (fun v hv => hvs v (List.mem_append_right _ hv)) ((List.prefix_append_right_inj _).mp hpre)
  constructor
  · refine ⟨?_, hread⟩
    rw [h.seen_eq, List.append_assoc, hdrained, encodeAll_append, List.append_assoc, ← htext]
  · rw [hdrained]
    exact (List.prefix_append_right_inj _).mpr (List.take_prefix j later)

/-- A reader that has seen all of a printed list has taken all of it. -/
theorem Held.complete {taken vs : List V} {left : List α} (hvs : ∀ v ∈ vs, F.Valid v)
    (h : F.Held (F.encodeAll vs) taken left) (htaken : taken <+: vs) : taken = vs ∧ left = [] := by
  obtain ⟨later, rfl⟩ := htaken
  have hleft : F.encodeAll later = left := by
    have hseen := h.seen_eq
    rw [encodeAll_append] at hseen
    exact List.append_cancel_left hseen
  cases later with
  | nil => exact ⟨(List.append_nil _).symm, hleft.symm⟩
  | cons v later =>
    have hread := F.read_encode (hvs v (by simp)) (F.encodeAll later)
    rw [← encodeAll_cons, hleft, h.read_left] at hread
    exact absurd hread (by simp)

end Framing

end SelfTestCode
