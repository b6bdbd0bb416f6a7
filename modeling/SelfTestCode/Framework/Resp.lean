import SelfTestCode.Framework.Framing
import SelfTestCode.Framework.Numerals
import Mathlib.Data.List.TakeWhile

/-!
# The redis serialization protocol

A value is printed with a character for its kind in front: a status, an error and an integer are
lines, a bulk string is its length in a line and then its bytes, an array its length in a line and
then its elements.  A request is an array of bulk strings.

`resp` is the framing of the values: a printed value is read back whatever follows it
(`decode_encode`), and what has been read stays as it is when more arrives (`decode_append`).
A line ends at the first carriage return, so the texts of statuses and errors must not hold one
(`Value.Valid`); bulk strings hold any bytes.
-/

namespace SelfTestCode.Resp

/-- The end of a line. -/
def crlf : List Char := ['\r', '\n']

/-- A text as a line. -/
def line (s : List Char) : List Char := s ++ crlf

/-- A value of the protocol. -/
inductive Value
  | status (s : List Char)
  | error (s : List Char)
  | integer (n : ℤ)
  | bulk (s : List Char)
  /-- The bulk string of length `-1`. -/
  | null
  | array (vs : List Value)

namespace Value

mutual

/-- A value as the server sends it. -/
def encode : Value → List Char
  | .status s => '+' :: line s
  | .error s => '-' :: line s
  | .integer n => ':' :: line (Numeral.intChars n)
  | .bulk s => '$' :: (line (Numeral.intChars s.length) ++ line s)
  | .null => '$' :: line (Numeral.intChars (-1))
  | .array vs => '*' :: (line (Numeral.intChars vs.length) ++ encodeList vs)

/-- The elements of an array, one after the other. -/
def encodeList : List Value → List Char
  | [] => []
  | v :: vs => encode v ++ encodeList vs

end

mutual

/-- How deep arrays are nested. -/
def depth : Value → ℕ
  | .array vs => depthList vs + 1
  | _ => 1

def depthList : List Value → ℕ
  | [] => 0
  | v :: vs => max (depth v) (depthList vs)

end

mutual

/-- Texts that are printed as a line hold no carriage return. -/
def Valid : Value → Prop
  | .status s => '\r' ∉ s
  | .error s => '\r' ∉ s
  | .array vs => ValidList vs
  | _ => True

def ValidList : List Value → Prop
  | [] => True
  | v :: vs => Valid v ∧ ValidList vs

end

end Value

/-! ## Reading -/

/-- The line at the front of a text. -/
def readLine (text : List Char) : Option (List Char × List Char) :=
  match text.dropWhile (· ≠ '\r') with
  | '\r' :: '\n' :: rest => some (text.takeWhile (· ≠ '\r'), rest)
  | _ => none

/-- A line that holds an integer and nothing else. -/
def readCount (text : List Char) : Option (ℤ × List Char) :=
  (readLine text).bind fun l =>
    match Numeral.readInt l.1 with
    | some (n, []) => some (n, l.2)
    | _ => none

/-- `n` bytes and the end of a line. -/
def readBytes (n : ℕ) (text : List Char) : Option (List Char × List Char) :=
  if n + 2 ≤ text.length then
    if (text.drop n).take 2 = crlf then some (text.take n, text.drop (n + 2)) else none
  else none

/-- `n` values, with a reader for one of them. -/
def readMany (read : List Char → Option (Value × List Char)) :
    ℕ → List Char → Option (List Value × List Char)
  | 0, text => some ([], text)
  | n + 1, text =>
    (read text).bind fun first =>
      (readMany read n first.2).map fun later => (first.1 :: later.1, later.2)

/-- What stands behind the character for the kind, with a reader for the elements of an array. -/
def readBody (read : List Char → Option (Value × List Char)) (kind : Char) (text : List Char) :
    Option (Value × List Char) :=
  match kind with
  | '+' => (readLine text).map fun l => (.status l.1, l.2)
  | '-' => (readLine text).map fun l => (.error l.1, l.2)
  | ':' => (readCount text).map fun l => (.integer l.1, l.2)
  | '$' => (readCount text).bind fun l =>
      if l.1 = -1 then some (.null, l.2)
      else if 0 ≤ l.1 then (readBytes l.1.toNat l.2).map fun b => (.bulk b.1, b.2)
      else none
  | '*' => (readCount text).bind fun l =>
      if 0 ≤ l.1 then (readMany read l.1.toNat l.2).map fun vs => (.array vs.1, vs.2) else none
  | _ => none

/-- The value at the front of a text, with arrays nested at most `fuel` deep. -/
def decode : ℕ → List Char → Option (Value × List Char)
  | 0, _ => none
  | _ + 1, [] => none
  | fuel + 1, kind :: text => readBody (decode fuel) kind text

/-! ## What was printed is read back -/

section ReadBack

variable {rest : List Char}

lemma readLine_line {s : List Char} (hs : '\r' ∉ s) :
    readLine (line s ++ rest) = some (s, rest) := by
  have hall : ∀ c ∈ s, decide (c ≠ '\r') = true := by
    intro c hc
    exact decide_eq_true (fun h => hs (h ▸ hc))
  have htext : line s ++ rest = s ++ '\r' :: '\n' :: rest := by simp [line, crlf]
  rw [htext, readLine, List.dropWhile_append_of_pos hall, List.takeWhile_append_of_pos hall]
  simp

lemma cr_notMem_intChars (n : ℤ) : '\r' ∉ Numeral.intChars n := by
  have hdigits : ∀ m : ℕ, '\r' ∉ Nat.toDigits 10 m := by
    intro m h
    have hdigit := Numeral.isDigitIn_of_mem_toDigits (by decide) (by decide) h
    exact absurd hdigit (by decide)
  rw [Numeral.intChars]
  split
  · rw [List.mem_cons, not_or]
    exact ⟨by decide, hdigits _⟩
  · exact hdigits _

lemma readCount_line (n : ℤ) : readCount (line (Numeral.intChars n) ++ rest) = some (n, rest) := by
  have hread : Numeral.readInt (Numeral.intChars n) = some (n, []) := by
    have hends : Numeral.Ends 10 [] := by simp [Numeral.Ends]
    have h := Numeral.readInt_intChars hends n
    rwa [List.append_nil] at h
  rw [readCount, readLine_line (cr_notMem_intChars n), Option.bind_some]
  simp only [hread]

lemma readBytes_line (s : List Char) : readBytes s.length (line s ++ rest) = some (s, rest) := by
  have hlen : s.length + 2 ≤ (line s ++ rest).length := by
    simp only [line, crlf, List.length_append, List.length_cons, List.length_nil]
    omega
  have hdrop : (line s ++ rest).drop s.length = crlf ++ rest := by
    simp [line, List.append_assoc]
  have hrest : (line s ++ rest).drop (s.length + 2) = rest := by
    rw [← List.drop_drop, hdrop]
    rfl
  have htake : (line s ++ rest).take s.length = s := by
    simp [line, List.append_assoc]
  have hcrlf : (crlf ++ rest).take 2 = crlf := rfl
  rw [readBytes, if_pos hlen, hdrop, hrest, htake, hcrlf, if_pos rfl]

lemma readMany_encodeList {read : List Char → Option (Value × List Char)} {vs : List Value}
    (h : ∀ v ∈ vs, ∀ rest, read (v.encode ++ rest) = some (v, rest)) :
    readMany read vs.length (Value.encodeList vs ++ rest) = some (vs, rest) := by
  induction vs with
  | nil => rfl
  | cons v vs ih =>
    have hlater := ih fun u hu => h u (by simp [hu])
    rw [List.length_cons, readMany, Value.encodeList, List.append_assoc, h v (by simp),
      Option.bind_some, hlater]
    rfl

lemma Value.validList_iff {vs : List Value} : Value.ValidList vs ↔ ∀ v ∈ vs, v.Valid := by
  induction vs with
  | nil => simp [Value.ValidList]
  | cons v vs ih => simp [Value.ValidList, ih]

lemma Value.depth_le_depthList {v : Value} {vs : List Value} (h : v ∈ vs) :
    v.depth ≤ Value.depthList vs := by
  induction vs with
  | nil => simp at h
  | cons u us ih =>
    rw [Value.depthList]
    rcases List.mem_cons.mp h with rfl | h
    · exact le_max_left _ _
    · exact (ih h).trans (le_max_right _ _)

/-- A printed value is read back, with nothing of what is behind it. -/
theorem decode_encode {fuel : ℕ} {v : Value} (hv : v.Valid) (hfuel : v.depth ≤ fuel)
    (rest : List Char) : decode fuel (v.encode ++ rest) = some (v, rest) := by
  induction fuel generalizing v rest with
  | zero => cases v <;> simp [Value.depth] at hfuel
  | succ fuel ih =>
    cases v with
    | status s => simp [Value.encode, decode, readBody, readLine_line (show '\r' ∉ s from hv)]
    | error s => simp [Value.encode, decode, readBody, readLine_line (show '\r' ∉ s from hv)]
    | integer n => simp [Value.encode, decode, readBody, readCount_line]
    | bulk s =>
      have hne : ¬ ((s.length : ℤ) = -1) := by omega
      simp [Value.encode, decode, readBody, List.append_assoc, readCount_line, hne, readBytes_line]
    | null => simp [Value.encode, decode, readBody, readCount_line]
    | array vs =>
      have hdepth : Value.depthList vs ≤ fuel := by
        rw [Value.depth] at hfuel
        omega
      have hmany : readMany (decode fuel) vs.length (Value.encodeList vs ++ rest) =
          some (vs, rest) :=
        readMany_encodeList fun u hu rest =>
          ih (Value.validList_iff.mp hv u hu) ((Value.depth_le_depthList hu).trans hdepth) rest
      simp [Value.encode, decode, readBody, List.append_assoc, readCount_line, hmany]

end ReadBack

/-! ## More text changes nothing -/

section Append

variable {text rest : List Char}

lemma readLine_eq_some {s : List Char} (h : readLine text = some (s, rest)) :
    '\r' ∉ s ∧ text = line s ++ rest := by
  rw [readLine] at h
  split at h
  · rename_i found hdrop
    simp only [Option.some.injEq, Prod.mk.injEq] at h
    obtain ⟨rfl, rfl⟩ := h
    have hsplit := List.takeWhile_append_dropWhile (p := fun c => decide (c ≠ '\r')) (l := text)
    constructor
    · intro hmem
      have hne := List.mem_takeWhile_imp hmem
      simp at hne
    · rw [hdrop] at hsplit
      simpa [line, crlf] using hsplit.symm
  · exact absurd h (by simp)

lemma readLine_append {s : List Char} (h : readLine text = some (s, rest)) (more : List Char) :
    readLine (text ++ more) = some (s, rest ++ more) := by
  obtain ⟨hs, rfl⟩ := readLine_eq_some h
  rw [List.append_assoc]
  exact readLine_line hs

lemma readCount_eq_some {n : ℤ} (h : readCount text = some (n, rest)) :
    ∃ s, readLine text = some (s, rest) ∧ Numeral.readInt s = some (n, []) := by
  rw [readCount, Option.bind_eq_some_iff] at h
  obtain ⟨⟨s, behind⟩, hline, hint⟩ := h
  dsimp only at hint
  split at hint
  · rename_i m hread
    simp only [Option.some.injEq, Prod.mk.injEq] at hint
    obtain ⟨rfl, rfl⟩ := hint
    exact ⟨s, hline, hread⟩
  · exact absurd hint (by simp)

lemma readCount_append {n : ℤ} (h : readCount text = some (n, rest)) (more : List Char) :
    readCount (text ++ more) = some (n, rest ++ more) := by
  obtain ⟨s, hline, hint⟩ := readCount_eq_some h
  rw [readCount, readLine_append hline more, Option.bind_some]
  simp only [hint]

lemma readBytes_append {n : ℕ} {s : List Char} (h : readBytes n text = some (s, rest))
    (more : List Char) : readBytes n (text ++ more) = some (s, rest ++ more) := by
  rw [readBytes] at h
  split at h
  · rename_i hlen
    split at h
    · rename_i hcrlf
      simp only [Option.some.injEq, Prod.mk.injEq] at h
      obtain ⟨rfl, rfl⟩ := h
      have htake : ((text ++ more).drop n).take 2 = (text.drop n).take 2 := by
        rw [List.drop_append_of_le_length (by omega),
          List.take_append_of_le_length (by rw [List.length_drop]; omega)]
      rw [readBytes, if_pos (by rw [List.length_append]; omega), htake, if_pos hcrlf,
        List.take_append_of_le_length (by omega), List.drop_append_of_le_length hlen]
    · exact absurd h (by simp)
  · exact absurd h (by simp)

lemma readMany_append {read read' : List Char → Option (Value × List Char)}
    (hread : ∀ {text rest : List Char} {v : Value}, read text = some (v, rest) →
      ∀ more, read' (text ++ more) = some (v, rest ++ more)) {n : ℕ} {vs : List Value}
    (h : readMany read n text = some (vs, rest)) (more : List Char) :
    readMany read' n (text ++ more) = some (vs, rest ++ more) := by
  induction n generalizing text vs with
  | zero =>
    simp only [readMany, Option.some.injEq, Prod.mk.injEq] at h ⊢
    obtain ⟨rfl, rfl⟩ := h
    exact ⟨rfl, rfl⟩
  | succ n ih =>
    rw [readMany, Option.bind_eq_some_iff] at h
    obtain ⟨⟨v, behind⟩, hfirst, hlater⟩ := h
    rw [Option.map_eq_some_iff] at hlater
    obtain ⟨⟨us, behind'⟩, hlater, heq⟩ := hlater
    simp only [Prod.mk.injEq] at heq
    obtain ⟨rfl, rfl⟩ := heq
    rw [readMany, hread hfirst more, Option.bind_some, ih hlater]
    rfl

lemma readBody_append {read read' : List Char → Option (Value × List Char)}
    (hread : ∀ {text rest : List Char} {v : Value}, read text = some (v, rest) →
      ∀ more, read' (text ++ more) = some (v, rest ++ more)) {kind : Char} {v : Value}
    (h : readBody read kind text = some (v, rest)) (more : List Char) :
    readBody read' kind (text ++ more) = some (v, rest ++ more) := by
  unfold readBody at h ⊢
  split at h
  -- a status, an error and an integer are lines
  · obtain ⟨l, hl, heq⟩ := Option.map_eq_some_iff.mp h
    obtain ⟨rfl, rfl⟩ := Prod.mk.inj heq
    simp only [readLine_append hl more, Option.map_some]
  · obtain ⟨l, hl, heq⟩ := Option.map_eq_some_iff.mp h
    obtain ⟨rfl, rfl⟩ := Prod.mk.inj heq
    simp only [readLine_append hl more, Option.map_some]
  · obtain ⟨l, hl, heq⟩ := Option.map_eq_some_iff.mp h
    obtain ⟨rfl, rfl⟩ := Prod.mk.inj heq
    simp only [readCount_append hl more, Option.map_some]
  -- a bulk string, or the null one
  · obtain ⟨l, hl, heq⟩ := Option.bind_eq_some_iff.mp h
    simp only [readCount_append hl more, Option.bind_some]
    split at heq
    · rename_i hnull
      obtain ⟨rfl, rfl⟩ := Prod.mk.inj (Option.some.inj heq)
      rw [if_pos hnull]
    · rename_i hnull
      rw [if_neg hnull]
      split at heq
      · rename_i hpos
        obtain ⟨b, hb, heq⟩ := Option.map_eq_some_iff.mp heq
        obtain ⟨rfl, rfl⟩ := Prod.mk.inj heq
        rw [if_pos hpos, readBytes_append hb more, Option.map_some]
      · exact absurd heq (by simp)
  -- an array
  · obtain ⟨l, hl, heq⟩ := Option.bind_eq_some_iff.mp h
    simp only [readCount_append hl more, Option.bind_some]
    split at heq
    · rename_i hpos
      obtain ⟨vs, hvs, heq⟩ := Option.map_eq_some_iff.mp heq
      obtain ⟨rfl, rfl⟩ := Prod.mk.inj heq
      rw [if_pos hpos, readMany_append hread hvs more, Option.map_some]
    · exact absurd heq (by simp)
  · exact absurd h (by simp)

/-- A value that has been read is read the same way when more text follows. -/
theorem decode_append {fuel fuel' : ℕ} (hfuel : fuel ≤ fuel') {v : Value}
    (h : decode fuel text = some (v, rest)) (more : List Char) :
    decode fuel' (text ++ more) = some (v, rest ++ more) := by
  induction fuel generalizing fuel' text rest v more with
  | zero => simp [decode] at h
  | succ fuel ih =>
    obtain ⟨m, rfl⟩ : ∃ m, fuel' = m + 1 := ⟨fuel' - 1, by omega⟩
    cases text with
    | nil => simp [decode] at h
    | cons kind text =>
      rw [decode] at h
      rw [List.cons_append, decode]
      exact readBody_append (fun hread more => ih (by omega) hread more) h more

end Append

/-! ## The framing -/

lemma length_lt_of_readLine {text s rest : List Char} (h : readLine text = some (s, rest)) :
    rest.length < text.length := by
  obtain ⟨-, rfl⟩ := readLine_eq_some h
  simp only [line, crlf, List.length_append, List.length_cons, List.length_nil]
  omega

lemma length_lt_of_readCount {text rest : List Char} {n : ℤ} (h : readCount text = some (n, rest)) :
    rest.length < text.length := by
  obtain ⟨s, hline, -⟩ := readCount_eq_some h
  exact length_lt_of_readLine hline

lemma length_le_of_readBytes {n : ℕ} {text s rest : List Char}
    (h : readBytes n text = some (s, rest)) : rest.length ≤ text.length := by
  rw [readBytes] at h
  split at h
  · split at h
    · rw [← (Prod.mk.inj (Option.some.inj h)).2, List.length_drop]
      omega
    · exact absurd h (by simp)
  · exact absurd h (by simp)

lemma length_le_of_readMany {read : List Char → Option (Value × List Char)}
    (hread : ∀ {text rest : List Char} {v : Value}, read text = some (v, rest) →
      rest.length < text.length) {n : ℕ} {text rest : List Char} {vs : List Value}
    (h : readMany read n text = some (vs, rest)) : rest.length ≤ text.length := by
  induction n generalizing text vs with
  | zero =>
    simp only [readMany, Option.some.injEq, Prod.mk.injEq] at h
    rw [h.2]
  | succ n ih =>
    rw [readMany, Option.bind_eq_some_iff] at h
    obtain ⟨⟨v, behind⟩, hfirst, hlater⟩ := h
    obtain ⟨later, hmany, heq⟩ := Option.map_eq_some_iff.mp hlater
    obtain ⟨-, rfl⟩ := Prod.mk.inj heq
    exact (ih hmany).trans (hread hfirst).le

lemma length_lt_of_readBody {read : List Char → Option (Value × List Char)}
    (hread : ∀ {text rest : List Char} {v : Value}, read text = some (v, rest) →
      rest.length < text.length) {kind : Char} {text rest : List Char} {v : Value}
    (h : readBody read kind text = some (v, rest)) : rest.length < text.length := by
  unfold readBody at h
  split at h
  · obtain ⟨l, hl, heq⟩ := Option.map_eq_some_iff.mp h
    obtain ⟨-, rfl⟩ := Prod.mk.inj heq
    exact length_lt_of_readLine hl
  · obtain ⟨l, hl, heq⟩ := Option.map_eq_some_iff.mp h
    obtain ⟨-, rfl⟩ := Prod.mk.inj heq
    exact length_lt_of_readLine hl
  · obtain ⟨l, hl, heq⟩ := Option.map_eq_some_iff.mp h
    obtain ⟨-, rfl⟩ := Prod.mk.inj heq
    exact length_lt_of_readCount hl
  · obtain ⟨l, hl, heq⟩ := Option.bind_eq_some_iff.mp h
    have hlen := length_lt_of_readCount hl
    split at heq
    · obtain ⟨-, rfl⟩ := Prod.mk.inj (Option.some.inj heq)
      exact hlen
    · split at heq
      · obtain ⟨b, hb, heq⟩ := Option.map_eq_some_iff.mp heq
        obtain ⟨-, rfl⟩ := Prod.mk.inj heq
        exact (length_le_of_readBytes hb).trans_lt hlen
      · exact absurd heq (by simp)
  · obtain ⟨l, hl, heq⟩ := Option.bind_eq_some_iff.mp h
    have hlen := length_lt_of_readCount hl
    split at heq
    · obtain ⟨vs, hvs, heq⟩ := Option.map_eq_some_iff.mp heq
      obtain ⟨-, rfl⟩ := Prod.mk.inj heq
      exact (length_le_of_readMany hread hvs).trans_lt hlen
    · exact absurd heq (by simp)
  · exact absurd h (by simp)

/-- A value takes at least one character. -/
lemma length_lt_of_decode {fuel : ℕ} {text rest : List Char} {v : Value}
    (h : decode fuel text = some (v, rest)) : rest.length < text.length := by
  induction fuel generalizing text rest v with
  | zero => simp [decode] at h
  | succ fuel ih =>
    cases text with
    | nil => simp [decode] at h
    | cons kind text =>
      rw [decode] at h
      exact (length_lt_of_readBody (fun hread => ih hread) h).trans (Nat.lt_succ_self _)

mutual

/-- An array is printed with more characters than it is nested deep. -/
lemma Value.depth_le_length_encode : ∀ v : Value, v.depth ≤ v.encode.length
  | .status s => by simp [Value.depth, Value.encode]
  | .error s => by simp [Value.depth, Value.encode]
  | .integer n => by simp [Value.depth, Value.encode]
  | .bulk s => by simp [Value.depth, Value.encode]
  | .null => by simp [Value.depth, Value.encode]
  | .array vs => by
    have h := Value.depthList_le_length_encodeList vs
    simp only [Value.depth, Value.encode, List.length_cons, List.length_append]
    omega

lemma Value.depthList_le_length_encodeList :
    ∀ vs : List Value, Value.depthList vs ≤ (Value.encodeList vs).length
  | [] => by simp [Value.depthList]
  | v :: vs => by
    have hv := Value.depth_le_length_encode v
    have hvs := Value.depthList_le_length_encodeList vs
    simp only [Value.depthList, Value.encodeList, List.length_append]
    omega

end

/-- The values of the protocol as messages of a stream. -/
def resp : Framing Char Value where
  Valid := Value.Valid
  encode := Value.encode
  read text := decode text.length text
  read_encode := by
    intro v hv rest
    apply decode_encode hv
    rw [List.length_append]
    exact (Value.depth_le_length_encode v).trans (Nat.le_add_right _ _)
  read_append := by
    intro text rest v h more
    apply decode_append _ h more
    rw [List.length_append]
    exact Nat.le_add_right _ _
  length_lt_of_read := fun h => length_lt_of_decode h

@[simp] lemma resp_encode (v : Value) : resp.encode v = v.encode := rfl

/-- A request: the array of its arguments. -/
def request (argv : List (List Char)) : Value := .array (argv.map .bulk)

end SelfTestCode.Resp
