import Mathlib.Algebra.Order.Group.Nat

/-!
# Numerals in texts

A numeral is read off the front of a text as its longest prefix of digits.  The rule for a reader of
printed numbers is `readNat_toDigits`: what `Nat.toDigits` prints in a base up to ten is read back,
and the text behind it is left, if that does not go on with a digit.  `intChars` and
`readInt_intChars` are the same for integers with a sign.
-/

namespace SelfTestCode.Numeral

/-- The value of a digit, in bases up to sixteen. -/
def digitValue (c : Char) : Option ℕ :=
  if c.isDigit then some (c.toNat - 48)
  else if 'a' ≤ c ∧ c ≤ 'f' then some (c.toNat - 87)
  else if 'A' ≤ c ∧ c ≤ 'F' then some (c.toNat - 55)
  else none

/-- A digit of the base. -/
def isDigitIn (base : ℕ) (c : Char) : Bool :=
  match digitValue c with
  | some d => d < base
  | none => false

/-- The number that digits stand for, the most significant one first. -/
def ofDigits (base : ℕ) (digits : List Char) : ℕ :=
  digits.foldl (fun n c => base * n + (digitValue c).getD 0) 0

/-- The numeral at the front of a text, and the text behind it. -/
def readNat (base : ℕ) (text : List Char) : Option (ℕ × List Char) :=
  match text.takeWhile (isDigitIn base) with
  | [] => none
  | digits => some (ofDigits base digits, text.dropWhile (isDigitIn base))

/-- An integer with a minus sign, if it is negative. -/
def readInt : List Char → Option (ℤ × List Char)
  | '-' :: text => (readNat 10 text).map fun r => (-(r.1 : ℤ), r.2)
  | text => (readNat 10 text).map fun r => ((r.1 : ℤ), r.2)

/-- An integer in decimal notation. -/
def intChars (z : ℤ) : List Char :=
  if z < 0 then '-' :: Nat.toDigits 10 z.natAbs else Nat.toDigits 10 z.natAbs

/-- The text does not go on with a digit. -/
def Ends (base : ℕ) (text : List Char) : Prop := ∀ c ∈ text.head?, isDigitIn base c = false

/-! ## Digits -/

section Digits

variable {base n : ℕ}

lemma digitValue_digitChar {d : ℕ} (hd : d < 10) : digitValue d.digitChar = some d := by
  have hdigit : d.digitChar.isDigit = true := by simp [hd]
  rw [digitValue, if_pos hdigit, Nat.toNat_digitChar_sub_48_of_lt_ten hd]

/-- The printed digits are digits of the base. -/
lemma isDigitIn_of_mem_toDigits (hbase : 1 < base) (hten : base ≤ 10) {c : Char}
    (hc : c ∈ Nat.toDigits base n) : isDigitIn base c = true := by
  have hdigit : ∀ d < base, isDigitIn base d.digitChar = true := by
    intro d hd
    rw [isDigitIn, digitValue_digitChar (hd.trans_le hten)]
    exact decide_eq_true hd
  induction n using Nat.strongRecOn with
  | ind n ih =>
    rw [Nat.toDigits_eq_if hbase] at hc
    split at hc
    · rename_i hlt
      rw [List.mem_singleton.mp hc]
      exact hdigit n hlt
    · rename_i hge
      rcases List.mem_append.mp hc with hc | hc
      · exact ih (n / base) (Nat.div_lt_self (by omega) hbase) hc
      · rw [List.mem_singleton.mp hc]
        exact hdigit _ (Nat.mod_lt n (by omega))

/-- They have the value that was printed. -/
lemma ofDigits_toDigits (hbase : 1 < base) (hten : base ≤ 10) :
    ofDigits base (Nat.toDigits base n) = n := by
  induction n using Nat.strongRecOn with
  | ind n ih =>
    rw [Nat.toDigits_eq_if hbase]
    split
    · rename_i hlt
      simp [ofDigits, digitValue_digitChar (hlt.trans_le hten)]
    · have hmod : n % base < base := Nat.mod_lt n (by omega)
      rw [ofDigits, List.foldl_append, ← ofDigits, ih (n / base) (Nat.div_lt_self (by omega) hbase)]
      simp only [List.foldl_cons, List.foldl_nil, digitValue_digitChar (hmod.trans_le hten),
        Option.getD_some]
      exact Nat.div_add_mod n base

/-- Only zero starts with a zero. -/
lemma head?_toDigits_ne (hn : n ≠ 0) : (Nat.toDigits 10 n).head? ≠ some '0' := by
  induction n using Nat.strongRecOn with
  | ind n ih =>
    rw [Nat.toDigits_eq_if (by decide)]
    split
    · rename_i hlt
      intro hhead
      have hvalue := digitValue_digitChar hlt
      rw [Option.some.inj hhead] at hvalue
      exact hn (Option.some.inj hvalue).symm
    · rename_i hge
      have hdiv : n / 10 ≠ 0 := by omega
      have hrest := ih (n / 10) (by omega) hdiv
      rw [List.head?_append]
      cases hdigits : (Nat.toDigits 10 (n / 10)).head? with
      | none => exact absurd (List.head?_eq_none_iff.mp hdigits) Nat.toDigits_ne_nil
      | some d =>
        rw [hdigits] at hrest
        exact hrest

end Digits

/-! ## Reading back -/

section Reading

variable {base : ℕ} {rest : List Char}

lemma Ends.takeWhile (h : Ends base rest) : rest.takeWhile (isDigitIn base) = [] := by
  cases rest with
  | nil => rfl
  | cons c rest => exact List.takeWhile_cons_of_neg (by simp [h c rfl])

lemma Ends.dropWhile (h : Ends base rest) : rest.dropWhile (isDigitIn base) = rest := by
  cases rest with
  | nil => rfl
  | cons c rest => exact List.dropWhile_cons_of_neg (by simp [h c rfl])

/-- A printed number is read back, with nothing of what is behind it. -/
lemma readNat_toDigits (hbase : 1 < base) (hten : base ≤ 10) (h : Ends base rest) (n : ℕ) :
    readNat base (Nat.toDigits base n ++ rest) = some (n, rest) := by
  have hall : ∀ c ∈ Nat.toDigits base n, isDigitIn base c = true := fun c hc =>
    isDigitIn_of_mem_toDigits hbase hten hc
  have htake : (Nat.toDigits base n ++ rest).takeWhile (isDigitIn base) = Nat.toDigits base n := by
    rw [List.takeWhile_append_of_pos hall, h.takeWhile, List.append_nil]
  have hdrop : (Nat.toDigits base n ++ rest).dropWhile (isDigitIn base) = rest := by
    rw [List.dropWhile_append_of_pos hall, h.dropWhile]
  rw [readNat, htake, hdrop]
  cases hdigits : Nat.toDigits base n with
  | nil => exact absurd hdigits Nat.toDigits_ne_nil
  | cons d ds =>
    dsimp only
    rw [← hdigits, ofDigits_toDigits hbase hten]

/-- A numeral does not start with a sign. -/
lemma readInt_of_readNat {text : List Char} {n : ℕ} (h : readNat 10 text = some (n, rest)) :
    readInt text = some ((n : ℤ), rest) := by
  rw [readInt]
  · rw [h]
    rfl
  · rintro text' rfl
    exact absurd h (by simp [readNat, isDigitIn, digitValue])

lemma readInt_intChars (h : Ends 10 rest) (z : ℤ) :
    readInt (intChars z ++ rest) = some (z, rest) := by
  have hread := readNat_toDigits (by decide) (by decide) h z.natAbs
  rw [intChars]
  split
  · rw [List.cons_append, readInt, hread]
    have hneg : (-(z.natAbs : ℤ)) = z := by omega
    exact congrArg (fun z => some (z, rest)) hneg
  · rw [readInt_of_readNat hread]
    have hpos : (z.natAbs : ℤ) = z := by omega
    rw [hpos]

end Reading

end SelfTestCode.Numeral
