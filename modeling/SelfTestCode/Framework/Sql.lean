import Mathlib.Data.List.Basic
import SelfTestCode.Framework.Numerals

/-!
# Reading SQL

The part of SQL that programs write with string formatting: identifiers, integer and string
literals, comma lists, conjunctions of equations, and the statements made of them.  A reader takes
what it reads off the front of a text and leaves the rest.  Between tokens there may be blanks.  A
string literal stands between quotes, and a doubled quote in it is one quote.

The rule for texts built from items and separators is `readList_iff`: the list is read back if every
item is, and only then.  For literals this is `Literal.Plain`: a string may stand between quotes as
it is if it has no quote in it.  `Stops` is what has to follow a token for it to end there.
-/

namespace SelfTestCode.Sql

open Numeral

/-! ## Tokens -/

inductive Literal
  | integer (z : ℤ)
  | string (s : List Char)
  deriving DecidableEq

def isBlank (c : Char) : Bool :=
  c == ' ' || c == '\t' || c == '\n' || c == '\x0c' || c == '\r'

def skipBlanks (text : List Char) : List Char := text.dropWhile isBlank

def isIdentStart (c : Char) : Bool := c.isAlpha || c == '_'

def isIdentChar (c : Char) : Bool := c.isAlphanum || c == '_'

/-- A column or table name that needs no quotes. -/
def isIdent : List Char → Bool
  | [] => false
  | c :: cs => isIdentStart c && cs.all isIdentChar

def readIdent (text : List Char) : Option (List Char × List Char) :=
  let text := skipBlanks text
  let name := text.takeWhile isIdentChar
  if isIdent name then some (name, text.dropWhile isIdentChar) else none

/-- A string literal behind its opening quote. -/
def readString : List Char → Option (List Char × List Char)
  | [] => none
  | c :: text =>
    if c = '\'' then
      match text with
      | [] => some ([], [])
      | c' :: text' =>
        if c' = '\'' then (readString text').map fun r => ('\'' :: r.1, r.2)
        else some ([], text)
    else (readString text).map fun r => (c :: r.1, r.2)

def readLiteral (text : List Char) : Option (Literal × List Char) :=
  match skipBlanks text with
  | '\'' :: text => (readString text).map fun r => (.string r.1, r.2)
  | text => (readInt text).map fun r => (.integer r.1, r.2)

/-- A token of one character. -/
def readChar (c : Char) (text : List Char) : Option (List Char) :=
  match skipBlanks text with
  | [] => none
  | c' :: text => if c' = c then some text else none

/-- A keyword, in capital or small letters. -/
def readKeyword (keyword : List Char) (text : List Char) : Option (List Char) :=
  match readIdent text with
  | none => none
  | some (word, text) => if word.map Char.toLower = keyword then some text else none

/-- `column = literal`. -/
def readEquation (text : List Char) : Option ((List Char × Literal) × List Char) := do
  let (column, text) ← readIdent text
  let text ← readChar '=' text
  let (value, text) ← readLiteral text
  return ((column, value), text)

/-- The printed form of a literal. -/
def Literal.print : Literal → List Char
  | .integer z => intChars z
  | .string s => '\'' :: (s ++ ['\''])

/-! ## Lists -/

/-- One item after the other, as long as separators follow. -/
def readList {α : Type*} (readItem : List Char → Option (α × List Char))
    (readSep : List Char → Option (List Char)) : ℕ → List Char → Option (List α × List Char)
  | 0, _ => none
  | fuel + 1, text => do
    let (item, text) ← readItem text
    match readSep text with
    | none => return ([item], text)
    | some text =>
      let (items, text) ← readList readItem readSep fuel text
      return (item :: items, text)

def readCommas {α : Type*} (readItem : List Char → Option (α × List Char)) (text : List Char) :
    Option (List α × List Char) :=
  readList readItem (readChar ',') text.length text

/-- Equations with `and` between them. -/
def readConjunction (text : List Char) : Option (List (List Char × Literal) × List Char) :=
  readList readEquation (readKeyword "and".toList) text.length text

/-- A text that is a list and nothing more; the empty text is the empty list. -/
def readAll {α : Type*} (read : List Char → Option (List α × List Char)) (text : List Char) :
    Option (List α) :=
  if text = [] then some []
  else match read text with
    | some (items, []) => some items
    | _ => none

/-! ## Statements -/

inductive Statement
  | insert (table : List Char) (columns : List (List Char)) (values : List Literal)
  | update (table : List Char) (sets conds : List (List Char × Literal))
  | delete (table : List Char) (conds : List (List Char × Literal))
  | select (columns : List (List Char)) (table : List Char) (conds : List (List Char × Literal))
  /-- `SELECT .. LIMIT offset,number`. -/
  | page (columns : List (List Char)) (table : List Char) (offset number : Literal)
  deriving DecidableEq

/-- `INTO table(columns) VALUES(values)`. -/
def readInsert (text : List Char) : Option (Statement × List Char) := do
  let text ← readKeyword "into".toList text
  let (table, text) ← readIdent text
  let text ← readChar '(' text
  let (columns, text) ← readCommas readIdent text
  let text ← readChar ')' text
  let text ← readKeyword "values".toList text
  let text ← readChar '(' text
  let (values, text) ← readCommas readLiteral text
  let text ← readChar ')' text
  return (.insert table columns values, text)

/-- `table SET assignments WHERE conditions`. -/
def readUpdate (text : List Char) : Option (Statement × List Char) := do
  let (table, text) ← readIdent text
  let text ← readKeyword "set".toList text
  let (sets, text) ← readCommas readEquation text
  let text ← readKeyword "where".toList text
  let (conds, text) ← readConjunction text
  return (.update table sets conds, text)

/-- `FROM table WHERE conditions`. -/
def readDelete (text : List Char) : Option (Statement × List Char) := do
  let text ← readKeyword "from".toList text
  let (table, text) ← readIdent text
  let text ← readKeyword "where".toList text
  let (conds, text) ← readConjunction text
  return (.delete table conds, text)

/-- `columns FROM table WHERE conditions`, or with `LIMIT`. -/
def readSelect (text : List Char) : Option (Statement × List Char) := do
  let (columns, text) ← readCommas readIdent text
  let text ← readKeyword "from".toList text
  let (table, text) ← readIdent text
  match readKeyword "where".toList text with
  | some text =>
    let (conds, text) ← readConjunction text
    return (.select columns table conds, text)
  | none =>
    let text ← readKeyword "limit".toList text
    let (offset, text) ← readLiteral text
    let text ← readChar ',' text
    let (number, text) ← readLiteral text
    return (.page columns table offset number, text)

/-- What follows the first word of a statement. -/
def readBody (word : List Char) : List Char → Option (Statement × List Char) :=
  if word = "insert".toList then readInsert
  else if word = "update".toList then readUpdate
  else if word = "delete".toList then readDelete
  else if word = "select".toList then readSelect
  else fun _ => none

/-- A statement with the semicolon behind it, and nothing more.  SQL has more than these forms: for
a statement with another one, such as a condition with `OR`, there is no answer either. -/
def readStatement (text : List Char) : Option Statement := do
  let (word, text) ← readIdent text
  let (statement, text) ← readBody (word.map Char.toLower) text
  let text ← readChar ';' text
  if skipBlanks text = [] then some statement else none

/-! ## Reading tokens back -/

/-- A name, a number or a string literal ends before such a text. -/
def Stops (rest : List Char) : Prop := ∀ c ∈ rest.head?, isIdentChar c = false ∧ c ≠ '\''

section Tokens

variable {rest : List Char} {name : List Char}

@[simp] lemma stops_nil : Stops [] := by
  intro c hc
  cases hc

lemma stops_cons {c : Char} (hc : isIdentChar c = false ∧ c ≠ '\'') : Stops (c :: rest) := by
  rintro _ ⟨rfl⟩
  exact hc

lemma isIdentChar_of_isIdentStart {c : Char} (h : isIdentStart c = true) :
    isIdentChar c = true := by
  rw [isIdentStart, Bool.or_eq_true] at h
  rw [isIdentChar, Bool.or_eq_true]
  exact h.imp_left fun halpha => by rw [Char.isAlphanum, halpha, Bool.true_or]

lemma isIdent_iff : isIdent name = true ↔
    ∃ c cs, name = c :: cs ∧ isIdentStart c = true ∧ ∀ d ∈ cs, isIdentChar d = true := by
  cases name with
  | nil => simp [isIdent]
  | cons c cs => simp [isIdent]

/-- A letter or an underscore is not a blank. -/
lemma not_isBlank_of_isIdentChar {c : Char} (h : isIdentChar c = true) : isBlank c = false := by
  by_contra hblank
  simp only [isBlank, Bool.not_eq_false, Bool.or_eq_true, beq_iff_eq] at hblank
  rcases hblank with (((rfl | rfl) | rfl) | rfl) | rfl <;> exact absurd h (by decide)

lemma skipBlanks_of_not_isBlank {c : Char} (h : isBlank c = false) :
    skipBlanks (c :: rest) = c :: rest :=
  List.dropWhile_cons_of_neg (by simp [h])

lemma skipBlanks_space : skipBlanks (' ' :: rest) = skipBlanks rest :=
  List.dropWhile_cons_of_pos (by decide)

lemma Stops.takeWhile_ident (h : Stops rest) : rest.takeWhile isIdentChar = [] := by
  cases rest with
  | nil => rfl
  | cons c rest => exact List.takeWhile_cons_of_neg (by simp [(h c rfl).1])

lemma Stops.dropWhile_ident (h : Stops rest) : rest.dropWhile isIdentChar = rest := by
  cases rest with
  | nil => rfl
  | cons c rest => exact List.dropWhile_cons_of_neg (by simp [(h c rfl).1])

/-- A name is read back. -/
lemma readIdent_append (hname : isIdent name = true) (h : Stops rest) :
    readIdent (name ++ rest) = some (name, rest) := by
  obtain ⟨c, cs, hcons, hstart, hcs⟩ := isIdent_iff.mp hname
  have hall : ∀ d ∈ name, isIdentChar d = true := by
    rw [hcons]
    intro d hd
    rcases List.mem_cons.mp hd with rfl | hd
    · exact isIdentChar_of_isIdentStart hstart
    · exact hcs d hd
  have hskip : skipBlanks (name ++ rest) = name ++ rest := by
    rw [hcons, List.cons_append]
    exact skipBlanks_of_not_isBlank
      (not_isBlank_of_isIdentChar (isIdentChar_of_isIdentStart hstart))
  have htake : (name ++ rest).takeWhile isIdentChar = name := by
    rw [List.takeWhile_append_of_pos hall, h.takeWhile_ident, List.append_nil]
  have hdrop : (name ++ rest).dropWhile isIdentChar = rest := by
    rw [List.dropWhile_append_of_pos hall, h.dropWhile_ident]
  simp only [readIdent, hskip, htake, hname, if_true, hdrop]

lemma readIdent_space (text : List Char) : readIdent (' ' :: text) = readIdent text := by
  rw [readIdent, readIdent, skipBlanks_space]

lemma readLiteral_space (text : List Char) : readLiteral (' ' :: text) = readLiteral text := by
  rw [readLiteral, readLiteral, skipBlanks_space]

lemma readEquation_space (text : List Char) : readEquation (' ' :: text) = readEquation text := by
  rw [readEquation, readEquation, readIdent_space]

end Tokens

/-! ## String literals -/

/-- The string with its quotes doubled. -/
def escape (s : List Char) : List Char := s.flatMap fun c => if c = '\'' then ['\'', '\''] else [c]

section Strings

variable {s text rest : List Char}

lemma escape_cons_quote : escape ('\'' :: s) = '\'' :: '\'' :: escape s := rfl

lemma escape_cons_of_ne {c : Char} (hc : c ≠ '\'') : escape (c :: s) = c :: escape s := by
  rw [escape, List.flatMap_cons, if_neg hc]
  rfl

/-- What is read as `s` is the literal of `s` as SQL has it. -/
lemma eq_escape_of_readString (h : readString text = some (s, rest)) :
    text = escape s ++ '\'' :: rest := by
  fun_induction readString text generalizing s with
  | case1 => cases h
  | case2 =>
    obtain ⟨rfl, rfl⟩ := Prod.mk.inj (Option.some.inj h)
    rfl
  | case3 text' ih =>
    obtain ⟨⟨s', rest'⟩, hread, heq⟩ := Option.map_eq_some_iff.mp h
    obtain ⟨rfl, rfl⟩ := Prod.mk.inj heq
    rw [escape_cons_quote, ih hread]
    rfl
  | case4 c' text' hne =>
    obtain ⟨rfl, rfl⟩ := Prod.mk.inj (Option.some.inj h)
    rfl
  | case5 c text hne ih =>
    obtain ⟨⟨s', rest'⟩, hread, heq⟩ := Option.map_eq_some_iff.mp h
    obtain ⟨rfl, rfl⟩ := Prod.mk.inj heq
    rw [escape_cons_of_ne hne, ih hread]
    rfl

lemma readString_cons_of_ne {c : Char} (hc : c ≠ '\'') :
    readString (c :: text) = (readString text).map fun r => (c :: r.1, r.2) := by
  rw [readString.eq_def]
  exact if_neg hc

/-- A quote ends the literal, if no other follows. -/
lemma readString_quote (h : Stops rest) : readString ('\'' :: rest) = some ([], rest) := by
  rw [readString.eq_def]
  cases rest with
  | nil => rfl
  | cons c rest => exact if_neg (h c rfl).2

/-- A string without quotes is read back from between quotes. -/
lemma readString_append (hs : '\'' ∉ s) (h : Stops rest) :
    readString (s ++ '\'' :: rest) = some (s, rest) := by
  induction s with
  | nil => exact readString_quote h
  | cons c s ih =>
    rw [List.mem_cons, not_or] at hs
    rw [List.cons_append, readString_cons_of_ne (Ne.symm hs.1), ih hs.2]
    rfl

/-- For each quote that is doubled one is missing at the end. -/
lemma escape_append_ne (h : Stops rest) (k : ℕ) (rest' : List Char) :
    List.replicate (k + 1) '\'' ++ (escape s ++ '\'' :: rest') ≠ s ++ '\'' :: rest := by
  induction s generalizing k with
  | nil =>
    intro heq
    rw [List.replicate_succ, List.cons_append] at heq
    have hrest : List.replicate k '\'' ++ '\'' :: rest' = rest := (List.cons.inj heq).2
    have hhead : rest.head? = some '\'' := by
      rw [← hrest]
      cases k <;> rfl
    exact (h '\'' hhead).2 rfl
  | cons c s ih =>
    intro heq
    rw [List.replicate_succ, List.cons_append, List.cons_append] at heq
    obtain ⟨rfl, heq⟩ := List.cons.inj heq
    refine ih (k + 1) ?_
    rw [← heq, escape_cons_quote, List.replicate_succ', List.replicate_succ']
    simp

/-- A string that is read back from between quotes has no quote in it. -/
lemma not_mem_of_readString (h : Stops rest) {rest' : List Char}
    (hread : readString (s ++ '\'' :: rest) = some (s, rest')) : '\'' ∉ s := by
  have heq := eq_escape_of_readString hread
  clear hread
  induction s with
  | nil => simp
  | cons c s ih =>
    by_cases hc : c = '\''
    · subst hc
      rw [escape_cons_quote] at heq
      exact absurd (List.cons.inj heq).2.symm (escape_append_ne h 0 rest')
    · rw [escape_cons_of_ne hc] at heq
      rw [List.mem_cons, not_or]
      exact ⟨Ne.symm hc, ih (List.cons.inj heq).2⟩

end Strings

/-! ## Literals and equations -/

/-- A literal whose printed form is the one of SQL. -/
def Literal.Plain : Literal → Prop
  | .integer _ => True
  | .string s => '\'' ∉ s

instance : DecidablePred Literal.Plain
  | .integer _ => isTrue trivial
  | .string s => inferInstanceAs (Decidable ('\'' ∉ s))

section Literals

variable {rest rest' : List Char} {value : Literal} {name : List Char}

lemma isIdentChar_of_isDigitIn {c : Char} (h : isDigitIn 10 c = true) : isIdentChar c = true := by
  have hdigit : c.isDigit = true := by
    by_contra hdigit
    rw [isDigitIn, digitValue, if_neg hdigit] at h
    split_ifs at h with hlower hupper
    · have hle : 'a'.toNat ≤ c.toNat := hlower.1
      have ha : 'a'.toNat = 97 := rfl
      simp only [decide_eq_true_eq] at h
      omega
    · have hle : 'A'.toNat ≤ c.toNat := hupper.1
      have ha : 'A'.toNat = 65 := rfl
      simp only [decide_eq_true_eq] at h
      omega
  rw [isIdentChar, Char.isAlphanum, hdigit]
  simp

lemma Stops.ends (h : Stops rest) : Ends 10 rest := by
  intro c hc
  by_contra hdigit
  have hident := isIdentChar_of_isDigitIn (by simpa using hdigit)
  rw [(h c hc).1] at hident
  cases hident

/-- A printed integer starts with a sign or a digit. -/
lemma intChars_eq_cons (z : ℤ) : ∃ c cs, intChars z = c :: cs ∧ isBlank c = false ∧ c ≠ '\'' := by
  rw [intChars]
  split
  · exact ⟨'-', _, rfl, by decide, by decide⟩
  · obtain ⟨c, cs, hcons⟩ := List.exists_cons_of_ne_nil
      (Nat.toDigits_ne_nil (n := z.natAbs) (b := 10))
    have hmem : c ∈ Nat.toDigits 10 z.natAbs := by
      rw [hcons]
      exact List.mem_cons_self
    have hdigit : c.isDigit = true := Nat.isDigit_of_mem_toDigits (by decide) (by decide) hmem
    refine ⟨c, cs, hcons, not_isBlank_of_isIdentChar ?_, ?_⟩
    · rw [isIdentChar, Char.isAlphanum, hdigit]
      simp
    · rintro rfl
      cases hdigit

lemma Literal.print_ne_nil (v : Literal) : v.print ≠ [] := by
  cases v with
  | integer z =>
    obtain ⟨c, cs, hcons, -⟩ := intChars_eq_cons z
    rw [Literal.print, hcons]
    exact List.cons_ne_nil c cs
  | string s => exact List.cons_ne_nil _ _

lemma readLiteral_integer (z : ℤ) (h : Stops rest) :
    readLiteral (intChars z ++ rest) = some (.integer z, rest) := by
  obtain ⟨c, cs, hcons, hblank, hquote⟩ := intChars_eq_cons z
  have hskip : skipBlanks (intChars z ++ rest) = intChars z ++ rest := by
    rw [hcons, List.cons_append]
    exact skipBlanks_of_not_isBlank hblank
  rw [readLiteral, hskip]
  split
  · rename_i heq
    rw [hcons] at heq
    exact absurd (List.cons.inj heq).1 hquote
  · rw [readInt_intChars h.ends]
    rfl

lemma readLiteral_quote (text : List Char) :
    readLiteral ('\'' :: text) = (readString text).map fun r => (.string r.1, r.2) := rfl

/-- A plain literal is read back. -/
lemma Literal.Plain.read (hvalue : value.Plain) (h : Stops rest) :
    readLiteral (value.print ++ rest) = some (value, rest) := by
  cases value with
  | integer z => exact readLiteral_integer z h
  | string s =>
    rw [Literal.print, List.cons_append, readLiteral_quote, List.append_assoc,
      List.singleton_append, readString_append hvalue h]
    rfl

/-- Only a plain literal is read back. -/
lemma plain_of_readLiteral (h : Stops rest)
    (hread : readLiteral (value.print ++ rest) = some (value, rest')) : value.Plain := by
  cases value with
  | integer z => trivial
  | string s =>
    rw [Literal.print, List.cons_append, readLiteral_quote, List.append_assoc,
      List.singleton_append] at hread
    obtain ⟨⟨s', rest''⟩, hstring, heq⟩ := Option.map_eq_some_iff.mp hread
    obtain ⟨hliteral, -⟩ := Prod.mk.inj heq
    obtain rfl : s' = s := Literal.string.inj hliteral
    exact not_mem_of_readString h hstring

/-- The value of an equation is what is read behind the sign. -/
lemma readEquation_append (hname : isIdent name = true) (text : List Char) :
    readEquation (name ++ '=' :: text)
      = (readLiteral text).map fun r => ((name, r.1), r.2) := by
  have hident : readIdent (name ++ '=' :: text) = some (name, '=' :: text) :=
    readIdent_append hname (stops_cons (by decide))
  have hchar : readChar '=' ('=' :: text) = some text := rfl
  simp only [readEquation, hident, hchar, Option.bind_eq_bind, Option.bind_some]
  cases readLiteral text <;> rfl

end Literals

/-! ## Reading lists back -/

section Lists

variable {α : Type*} {readItem : List Char → Option (α × List Char)}
  {readSep : List Char → Option (List Char)} {stop : List Char}

/-- What a list was read from. -/
lemma readList_eq_some {fuel : ℕ} {text : List Char} {a : α} {items : List α}
    (h : readList readItem readSep (fuel + 1) text = some (a :: items, stop)) :
    ∃ rest, readItem text = some (a, rest) ∧
      ∀ text', readSep rest = some text' →
        readList readItem readSep fuel text' = some (items, stop) := by
  rw [readList] at h
  obtain ⟨⟨a', rest⟩, hread, hrest⟩ := Option.bind_eq_some_iff.mp h
  dsimp only at hrest
  cases hsep : readSep rest with
  | none =>
    rw [hsep] at hrest
    obtain ⟨hcons, -⟩ := Prod.mk.inj (Option.some.inj hrest)
    obtain ⟨rfl, -⟩ := List.cons.inj hcons
    refine ⟨rest, hread, fun text' htext' => ?_⟩
    rw [hsep] at htext'
    cases htext'
  | some text =>
    rw [hsep] at hrest
    obtain ⟨⟨items', stop'⟩, hitems, hcons⟩ := Option.bind_eq_some_iff.mp hrest
    obtain ⟨hlist, rfl⟩ := Prod.mk.inj (Option.some.inj hcons)
    obtain ⟨rfl, rfl⟩ := List.cons.inj hlist
    refine ⟨rest, hread, fun text' htext' => ?_⟩
    rw [hsep] at htext'
    rw [← Option.some.inj htext', hitems]

/-- A list of items is read back if each item is, and only then.  `body` is an item as it stands
behind a separator, and `link` the two together. -/
lemma readList_iff (Good : α → Prop) (body link : α → List Char)
    (hgood : ∀ a rest, Good a → Stops rest → readItem (body a ++ rest) = some (a, rest))
    (hbad : ∀ a rest rest', Stops rest → readItem (body a ++ rest) = some (a, rest') → Good a)
    (hlink : ∀ a rest, readSep (link a ++ rest) = some (body a ++ rest))
    (hstops : ∀ a rest, Stops (link a ++ rest)) (hstop : Stops stop) (hend : readSep stop = none)
    {fuel : ℕ} {items : List α} (hfuel : items.length < fuel) (a : α) :
    readList readItem readSep fuel (body a ++ (items.flatMap link ++ stop))
        = some (a :: items, stop) ↔ ∀ b ∈ a :: items, Good b := by
  induction items generalizing a fuel with
  | nil =>
    obtain ⟨fuel, rfl⟩ : ∃ m, fuel = m + 1 := ⟨fuel - 1, by rw [List.length_nil] at hfuel; omega⟩
    rw [List.flatMap_nil, List.nil_append, List.forall_mem_singleton]
    constructor
    · intro h
      obtain ⟨rest, hread, -⟩ := readList_eq_some h
      exact hbad a stop rest hstop hread
    · intro ha
      rw [readList, hgood a stop ha hstop, Option.bind_eq_bind, Option.bind_some]
      dsimp only
      rw [hend]
      rfl
  | cons b items ih =>
    obtain ⟨fuel, rfl⟩ : ∃ m, fuel = m + 1 := ⟨fuel - 1, by rw [List.length_cons] at hfuel; omega⟩
    have ih := ih (by rw [List.length_cons] at hfuel; omega : items.length < fuel) b
    have hrest : (b :: items).flatMap link ++ stop
        = link b ++ (items.flatMap link ++ stop) := by
      rw [List.flatMap_cons, List.append_assoc]
    have hstops' := hstops b (items.flatMap link ++ stop)
    rw [hrest, List.forall_mem_cons, ← ih]
    constructor
    · intro h
      obtain ⟨rest, hread, hitems⟩ := readList_eq_some h
      have ha := hbad a _ rest hstops' hread
      rw [hgood a _ ha hstops'] at hread
      obtain ⟨-, rfl⟩ := Prod.mk.inj (Option.some.inj hread)
      exact ⟨ha, hitems _ (hlink b _)⟩
    · rintro ⟨ha, hitems⟩
      rw [readList, hgood a _ ha hstops', Option.bind_eq_bind, Option.bind_some]
      dsimp only
      rw [hlink]
      dsimp only
      rw [hitems]
      rfl

/-- The first item may be written in another way. -/
lemma readList_congr {text text' : List Char} (h : readItem text = readItem text') (fuel : ℕ) :
    readList readItem readSep fuel text = readList readItem readSep fuel text' := by
  cases fuel with
  | zero => rfl
  | succ fuel => rw [readList, readList, h]

/-- There are not more items than characters. -/
lemma length_lt_of_flatMap {first : List Char} {link : α → List Char} (hfirst : first ≠ [])
    (hlink : ∀ a, link a ≠ []) (items : List α) :
    items.length < (first ++ (items.flatMap link ++ stop)).length := by
  have hitems : items.length ≤ (items.flatMap link).length := by
    induction items with
    | nil => exact le_rfl
    | cons a items ih =>
      have hpos := List.length_pos_of_ne_nil (hlink a)
      rw [List.flatMap_cons, List.length_append, List.length_cons]
      omega
  have hpos := List.length_pos_of_ne_nil hfirst
  rw [List.length_append, List.length_append]
  omega

end Lists

/-! ## Printed lists -/

/-- `column=literal`. -/
def printEquation (e : List Char × Literal) : List Char := e.1 ++ '=' :: e.2.print

/-- A text with a blank before it, or without. -/
def spaced (blank : Bool) (text : List Char) : List Char := if blank then ' ' :: text else text

/-- Items in a text, the first one without its separator. -/
def printList {α : Type*} (first link : α → List Char) : List α → List Char
  | [] => []
  | a :: items => first a ++ items.flatMap link

/-- Names with commas between them. -/
def printNames : List (List Char) → List Char := printList id fun n => ',' :: n

/-- Literals with commas between them, and blanks behind some of the commas. -/
def printLiterals (blank : Literal → Bool) : List Literal → List Char :=
  printList Literal.print fun v => ',' :: spaced (blank v) v.print

/-- Equations with commas between them. -/
def printAssignments : List (List Char × Literal) → List Char :=
  printList printEquation fun e => ',' :: printEquation e

/-- Equations with ` and ` between them. -/
def printConjunction : List (List Char × Literal) → List Char :=
  printList printEquation fun e => " and ".toList ++ printEquation e

/-- A character is in a printed list exactly if it is in an item, where no separator has it. -/
lemma mem_printList {α : Type*} {first link : α → List Char} {c : Char}
    (hlink : ∀ a, c ∈ link a ↔ c ∈ first a) (items : List α) :
    c ∈ printList first link items ↔ ∃ a ∈ items, c ∈ first a := by
  cases items with
  | nil => simp [printList]
  | cons a items => simp [printList, hlink]

section Printed

variable {rest rest' stop : List Char}

lemma isIdent_of_readIdent {text name : List Char} (h : readIdent text = some (name, rest)) :
    isIdent name = true := by
  simp only [readIdent] at h
  split at h
  · rename_i hident
    obtain ⟨rfl, -⟩ := Prod.mk.inj (Option.some.inj h)
    exact hident
  · cases h

/-- An equation is read back exactly if its column is a name and its value is plain. -/
lemma readEquation_print {e : List Char × Literal} (hname : isIdent e.1 = true)
    (hvalue : e.2.Plain) (h : Stops rest) :
    readEquation (printEquation e ++ rest) = some (e, rest) := by
  rw [printEquation, List.append_assoc, List.cons_append, readEquation_append hname, hvalue.read h]
  rfl

lemma of_readEquation_print {e : List Char × Literal} (h : Stops rest)
    (hread : readEquation (printEquation e ++ rest) = some (e, rest')) :
    isIdent e.1 = true ∧ e.2.Plain := by
  have hname : isIdent e.1 = true := by
    rw [readEquation] at hread
    obtain ⟨⟨name, text⟩, hident, hrest⟩ := Option.bind_eq_some_iff.mp hread
    obtain ⟨text', -, hrest⟩ := Option.bind_eq_some_iff.mp hrest
    obtain ⟨⟨value, text''⟩, -, heq⟩ := Option.bind_eq_some_iff.mp hrest
    rw [← (Prod.mk.inj (Option.some.inj heq)).1]
    exact isIdent_of_readIdent hident
  rw [printEquation, List.append_assoc, List.cons_append, readEquation_append hname] at hread
  obtain ⟨⟨value, text⟩, hliteral, heq⟩ := Option.map_eq_some_iff.mp hread
  have hvalue : value = e.2 := congrArg Prod.snd (Prod.mk.inj heq).1
  rw [hvalue] at hliteral
  exact ⟨hname, plain_of_readLiteral h hliteral⟩

lemma printEquation_ne_nil (e : List Char × Literal) : printEquation e ≠ [] := by
  simp [printEquation]

lemma readIdent_spaced (blank : Bool) (text : List Char) :
    readIdent (spaced blank text) = readIdent text := by
  cases blank with
  | false => rfl
  | true => exact readIdent_space text

lemma readEquation_spaced (blank : Bool) (text : List Char) :
    readEquation (spaced blank text) = readEquation text := by
  rw [readEquation, readEquation, readIdent_spaced]

lemma readLiteral_spaced (blank : Bool) (text : List Char) :
    readLiteral (spaced blank text ++ rest) = readLiteral (text ++ rest) := by
  cases blank with
  | false => rfl
  | true => exact readLiteral_space _

lemma length_le_spaced (blank : Bool) (text : List Char) :
    text.length ≤ (spaced blank text).length := by
  cases blank with
  | false => exact le_rfl
  | true => exact Nat.le_succ _

lemma readConjunction_iff (blank : Bool) {items : List (List Char × Literal)} (hne : items ≠ [])
    (hstop : Stops stop) (hend : readKeyword "and".toList stop = none) :
    readConjunction (spaced blank (printConjunction items ++ stop)) = some (items, stop) ↔
      ∀ e ∈ items, isIdent e.1 = true ∧ e.2.Plain := by
  obtain ⟨e, items, rfl⟩ := List.exists_cons_of_ne_nil hne
  have hlength := length_le_spaced blank (printConjunction (e :: items) ++ stop)
  rw [readConjunction, readList_congr ((readEquation_spaced blank _).trans
    (readEquation_space _).symm)]
  rw [printConjunction, printList, List.append_assoc] at hlength ⊢
  refine readList_iff _ (fun e => ' ' :: printEquation e)
    (fun e => " and ".toList ++ printEquation e) ?_ ?_ ?_ ?_ hstop hend ?_ e
  · intro e rest he hrest
    rw [List.cons_append, readEquation_space, readEquation_print he.1 he.2 hrest]
  · intro e rest rest' hrest hread
    rw [List.cons_append, readEquation_space] at hread
    exact of_readEquation_print hrest hread
  · intro e rest
    rfl
  · intro e rest
    exact stops_cons (by decide)
  · exact (length_lt_of_flatMap (printEquation_ne_nil e) (by simp) items).trans_le hlength

lemma readAssignments_iff (blank : Bool) {items : List (List Char × Literal)} (hne : items ≠ [])
    (hstop : Stops stop) (hend : readChar ',' stop = none) :
    readCommas readEquation (spaced blank (printAssignments items ++ stop)) = some (items, stop) ↔
      ∀ e ∈ items, isIdent e.1 = true ∧ e.2.Plain := by
  obtain ⟨e, items, rfl⟩ := List.exists_cons_of_ne_nil hne
  have hlength := length_le_spaced blank (printAssignments (e :: items) ++ stop)
  rw [readCommas, readList_congr (readEquation_spaced blank _)]
  rw [printAssignments, printList, List.append_assoc] at hlength ⊢
  refine readList_iff _ printEquation (fun e => ',' :: printEquation e) ?_ ?_ ?_ ?_ hstop hend ?_ e
  · intro e rest he hrest
    exact readEquation_print he.1 he.2 hrest
  · intro e rest rest' hrest hread
    exact of_readEquation_print hrest hread
  · intro e rest
    rfl
  · intro e rest
    exact stops_cons (by decide)
  · exact (length_lt_of_flatMap (printEquation_ne_nil e) (by simp) items).trans_le hlength

lemma readNames_print (blank : Bool) {names : List (List Char)} (hne : names ≠ [])
    (hnames : ∀ n ∈ names, isIdent n = true) (hstop : Stops stop)
    (hend : readChar ',' stop = none) :
    readCommas readIdent (spaced blank (printNames names ++ stop)) = some (names, stop) := by
  obtain ⟨name, names, rfl⟩ := List.exists_cons_of_ne_nil hne
  have hname : name ≠ [] := by
    rintro rfl
    exact absurd (hnames [] List.mem_cons_self) (by decide)
  have hlength := length_le_spaced blank (printNames (name :: names) ++ stop)
  rw [readCommas, readList_congr (readIdent_spaced blank _)]
  rw [printNames, printList, List.append_assoc] at hlength ⊢
  refine (readList_iff (isIdent · = true) id (fun n => ',' :: n) ?_ ?_ ?_ ?_ hstop hend ?_
    name).mpr hnames
  · intro n rest hn hrest
    exact readIdent_append hn hrest
  · intro n rest rest' hrest hread
    exact isIdent_of_readIdent hread
  · intro n rest
    rfl
  · intro n rest
    exact stops_cons (by decide)
  · exact (length_lt_of_flatMap hname (by simp) names).trans_le hlength

lemma readLiterals_iff (blank : Literal → Bool) {values : List Literal} (hne : values ≠ [])
    (hstop : Stops stop) (hend : readChar ',' stop = none) :
    readCommas readLiteral (printLiterals blank values ++ stop) = some (values, stop) ↔
      ∀ v ∈ values, v.Plain := by
  obtain ⟨value, values, rfl⟩ := List.exists_cons_of_ne_nil hne
  rw [printLiterals, printList, List.append_assoc, readCommas,
    readList_congr (readLiteral_spaced (blank value) value.print).symm]
  refine readList_iff _ (fun v => spaced (blank v) v.print)
    (fun v => ',' :: spaced (blank v) v.print) ?_ ?_ ?_ ?_ hstop hend ?_ value
  · intro v rest hv hrest
    rw [readLiteral_spaced, hv.read hrest]
  · intro v rest rest' hrest hread
    rw [readLiteral_spaced] at hread
    exact plain_of_readLiteral hrest hread
  · intro v rest
    rfl
  · intro v rest
    exact stops_cons (by decide)
  · exact length_lt_of_flatMap value.print_ne_nil (by simp) values

lemma readAll_eq_some_iff {α : Type*} {read : List Char → Option (List α × List Char)}
    {text : List Char} {items : List α} (hne : text ≠ []) :
    readAll read text = some items ↔ read text = some (items, []) := by
  rw [readAll, if_neg hne]
  constructor
  · intro h
    split at h
    · rename_i items' heq
      rw [heq, Option.some.inj h]
    · cases h
  · intro h
    rw [h]

/-- A whole text is read back as the list that it was printed from, if a list in front of the end
is. -/
lemma readAll_print_iff {α : Type*} {read : List Char → Option (List α × List Char)}
    {first link : α → List Char} {items : List α} {P : α → Prop}
    (hfirst : ∀ a ∈ items, first a ≠ [])
    (hread : items ≠ [] →
      (read (printList first link items ++ []) = some (items, []) ↔ ∀ a ∈ items, P a)) :
    readAll read (printList first link items) = some items ↔ ∀ a ∈ items, P a := by
  cases items with
  | nil => exact iff_of_true rfl (by simp)
  | cons a items =>
    have hne : printList first link (a :: items) ≠ [] := fun hnil =>
      hfirst a List.mem_cons_self (List.append_eq_nil_iff.mp hnil).1
    rw [readAll_eq_some_iff hne, ← hread (List.cons_ne_nil a items), List.append_nil]

/-- A whole text of equations with `and` between them. -/
lemma readAll_conjunction_iff {items : List (List Char × Literal)} :
    readAll readConjunction (printConjunction items) = some items ↔
      ∀ e ∈ items, isIdent e.1 = true ∧ e.2.Plain :=
  readAll_print_iff (fun e _ => printEquation_ne_nil e)
    fun hne => readConjunction_iff false hne stops_nil rfl

/-- A whole text of assignments. -/
lemma readAll_assignments_iff {items : List (List Char × Literal)} :
    readAll (readCommas readEquation) (printAssignments items) = some items ↔
      ∀ e ∈ items, isIdent e.1 = true ∧ e.2.Plain :=
  readAll_print_iff (fun e _ => printEquation_ne_nil e)
    fun hne => readAssignments_iff false hne stops_nil rfl

/-- A whole text of names. -/
lemma readAll_names {names : List (List Char)} (hnames : ∀ n ∈ names, isIdent n = true) :
    readAll (readCommas readIdent) (printNames names) = some names := by
  have hfirst : ∀ n ∈ names, id n ≠ [] := by
    rintro n hn rfl
    exact absurd (hnames [] hn) (by decide)
  refine (readAll_print_iff hfirst fun hne => ?_).mpr hnames
  exact iff_of_true (readNames_print false hne hnames stops_nil rfl) hnames

/-- A whole text of literals. -/
lemma readAll_literals_iff {blank : Literal → Bool} {values : List Literal} :
    readAll (readCommas readLiteral) (printLiterals blank values) = some values ↔
      ∀ v ∈ values, v.Plain :=
  readAll_print_iff (fun v _ => v.print_ne_nil)
    fun hne => readLiterals_iff blank hne stops_nil rfl

end Printed

/-! ## Printed statements -/

section Statements

variable {table : List Char} {names : List (List Char)} {values : List Literal}
  {sets conds : List (List Char × Literal)}

/-- A name behind a blank. -/
lemma readIdent_space_append (htable : isIdent table = true) {rest : List Char} (h : Stops rest) :
    readIdent (' ' :: (table ++ rest)) = some (table, rest) := by
  rw [readIdent_space, readIdent_append htable h]

/-- The first word of a statement says what it is. -/
lemma readStatement_eq {word text : List Char} {statement : Statement}
    (hword : readIdent (word ++ ' ' :: text) = some (word, ' ' :: text))
    (h : readBody (word.map Char.toLower) (' ' :: text) = some (statement, ";".toList)) :
    readStatement (word ++ ' ' :: text) = some statement := by
  simp only [readStatement, hword, Option.bind_eq_bind, Option.bind_some, h]
  rfl

lemma readBody_insert : readBody ("INSERT".toList.map Char.toLower) = readInsert :=
  if_pos (by decide)

lemma readBody_update : readBody ("UPDATE".toList.map Char.toLower) = readUpdate :=
  (if_neg (by decide)).trans (if_pos (by decide))

lemma readBody_delete : readBody ("DELETE".toList.map Char.toLower) = readDelete :=
  (if_neg (by decide)).trans ((if_neg (by decide)).trans (if_pos (by decide)))

lemma readBody_select : readBody ("SELECT".toList.map Char.toLower) = readSelect :=
  (if_neg (by decide)).trans ((if_neg (by decide)).trans ((if_neg (by decide)).trans
    (if_pos (by decide))))

/-- An `INSERT` statement is read back if its values are plain. -/
lemma readStatement_insert (blank : Literal → Bool) (htable : isIdent table = true)
    (hnames : ∀ n ∈ names, isIdent n = true) (hvalues : ∀ v ∈ values, v.Plain)
    (hne : names ≠ []) (hne' : values ≠ []) :
    readStatement ("INSERT INTO ".toList ++ (table ++ ('(' :: (printNames names
      ++ (")  VALUES(".toList ++ (printLiterals blank values ++ ");".toList))))))
      = some (.insert table names values) := by
  have hliterals : readCommas readLiteral (printLiterals blank values ++ ");".toList)
      = some (values, ");".toList) :=
    (readLiterals_iff blank hne' (stops_cons (by decide)) rfl).mpr hvalues
  generalize printLiterals blank values ++ ");".toList = tail at hliterals
  have hcolumns : readCommas readIdent (printNames names ++ (")  VALUES(".toList ++ tail))
      = some (names, ")  VALUES(".toList ++ tail) :=
    readNames_print false hne hnames (stops_cons (by decide)) rfl
  generalize printNames names ++ (")  VALUES(".toList ++ tail) = list at hcolumns
  have hident : readIdent (' ' :: (table ++ '(' :: list)) = some (table, '(' :: list) :=
    readIdent_space_append htable (stops_cons (by decide))
  have hinto : readKeyword "into".toList (' ' :: ("INTO ".toList ++ (table ++ '(' :: list)))
      = some (' ' :: (table ++ '(' :: list)) := rfl
  have hopen : readChar '(' ('(' :: list) = some list := rfl
  have hclose : readChar ')' (")  VALUES(".toList ++ tail) = some ("  VALUES(".toList ++ tail) :=
    rfl
  have hvaluesWord : readKeyword "values".toList ("  VALUES(".toList ++ tail)
      = some ('(' :: tail) := rfl
  have hopen' : readChar '(' ('(' :: tail) = some tail := rfl
  have hclose' : readChar ')' ");".toList = some ";".toList := rfl
  have htext : "INSERT INTO ".toList ++ (table ++ '(' :: list)
      = "INSERT".toList ++ ' ' :: ("INTO ".toList ++ (table ++ '(' :: list)) := rfl
  rw [htext]
  refine readStatement_eq rfl ?_
  rw [readBody_insert]
  simp only [readInsert, hinto, hident, hopen, hcolumns, hclose, hvaluesWord, hopen', hliterals,
    hclose', Option.bind_eq_bind, Option.bind_some]
  rfl

/-- An `UPDATE` statement is read back if its values are plain. -/
lemma readStatement_update (htable : isIdent table = true)
    (hsets : ∀ e ∈ sets, isIdent e.1 = true ∧ e.2.Plain)
    (hconds : ∀ e ∈ conds, isIdent e.1 = true ∧ e.2.Plain) (hne : sets ≠ []) (hne' : conds ≠ []) :
    readStatement ("UPDATE ".toList ++ (table ++ (" SET ".toList ++ (printAssignments sets
      ++ (" WHERE ".toList ++ (printConjunction conds ++ ";".toList))))))
      = some (.update table sets conds) := by
  have hconjunction : readConjunction (' ' :: (printConjunction conds ++ ";".toList))
      = some (conds, ";".toList) :=
    (readConjunction_iff true hne' (stops_cons (by decide)) rfl).mpr hconds
  generalize printConjunction conds ++ ";".toList = tail at hconjunction
  have hassignments : readCommas readEquation
      (' ' :: (printAssignments sets ++ (" WHERE ".toList ++ tail)))
        = some (sets, " WHERE ".toList ++ tail) :=
    (readAssignments_iff true hne (stops_cons (by decide)) rfl).mpr hsets
  generalize printAssignments sets ++ (" WHERE ".toList ++ tail) = list at hassignments
  have hident : readIdent (' ' :: (table ++ (" SET ".toList ++ list)))
      = some (table, " SET ".toList ++ list) :=
    readIdent_space_append htable (stops_cons (by decide))
  have hset : readKeyword "set".toList (" SET ".toList ++ list) = some (' ' :: list) := rfl
  have hwhere : readKeyword "where".toList (" WHERE ".toList ++ tail) = some (' ' :: tail) := rfl
  have htext : "UPDATE ".toList ++ (table ++ (" SET ".toList ++ list))
      = "UPDATE".toList ++ ' ' :: (table ++ (" SET ".toList ++ list)) := rfl
  rw [htext]
  refine readStatement_eq rfl ?_
  rw [readBody_update]
  simp only [readUpdate, hident, hset, hassignments, hwhere, hconjunction, Option.bind_eq_bind,
    Option.bind_some]
  rfl

/-- A `DELETE` statement is read back if its values are plain. -/
lemma readStatement_delete (htable : isIdent table = true)
    (hconds : ∀ e ∈ conds, isIdent e.1 = true ∧ e.2.Plain) (hne : conds ≠ []) :
    readStatement ("DELETE FROM ".toList ++ (table ++ (" WHERE ".toList
      ++ (printConjunction conds ++ ";".toList)))) = some (.delete table conds) := by
  have hconjunction : readConjunction (' ' :: (printConjunction conds ++ ";".toList))
      = some (conds, ";".toList) :=
    (readConjunction_iff true hne (stops_cons (by decide)) rfl).mpr hconds
  generalize printConjunction conds ++ ";".toList = tail at hconjunction
  have hident : readIdent (' ' :: (table ++ (" WHERE ".toList ++ tail)))
      = some (table, " WHERE ".toList ++ tail) :=
    readIdent_space_append htable (stops_cons (by decide))
  have hfrom : ∀ text, readKeyword "from".toList (' ' :: ("FROM ".toList ++ text))
      = some (' ' :: text) := fun _ => rfl
  have hwhere : readKeyword "where".toList (" WHERE ".toList ++ tail) = some (' ' :: tail) := rfl
  have htext : "DELETE FROM ".toList ++ (table ++ (" WHERE ".toList ++ tail))
      = "DELETE".toList ++ ' ' :: ("FROM ".toList ++ (table ++ (" WHERE ".toList ++ tail))) := rfl
  rw [htext]
  refine readStatement_eq rfl ?_
  rw [readBody_delete]
  simp only [readDelete, hfrom, hident, hwhere, hconjunction, Option.bind_eq_bind,
    Option.bind_some]
  rfl

/-- The part of a query up to the table. -/
lemma readSelect_eq (hnames : ∀ n ∈ names, isIdent n = true) (hne : names ≠ [])
    (htable : isIdent table = true) {rest : List Char} (h : Stops rest) :
    readSelect (' ' :: (printNames names ++ (" FROM ".toList ++ (table ++ rest))))
      = match readKeyword "where".toList rest with
        | some text => do
          let (conds, text) ← readConjunction text
          return (.select names table conds, text)
        | none => do
          let text ← readKeyword "limit".toList rest
          let (offset, text) ← readLiteral text
          let text ← readChar ',' text
          let (number, text) ← readLiteral text
          return (.page names table offset number, text) := by
  have hcolumns : readCommas readIdent
      (' ' :: (printNames names ++ (" FROM ".toList ++ (table ++ rest))))
        = some (names, " FROM ".toList ++ (table ++ rest)) :=
    readNames_print true hne hnames (stops_cons (by decide)) rfl
  have hfrom : readKeyword "from".toList (" FROM ".toList ++ (table ++ rest))
      = some (' ' :: (table ++ rest)) := rfl
  simp only [readSelect, hcolumns, hfrom, readIdent_space_append htable h, Option.bind_eq_bind,
    Option.bind_some]

/-- A query with conditions is read back if its values are plain. -/
lemma readStatement_select (hnames : ∀ n ∈ names, isIdent n = true) (hne : names ≠ [])
    (htable : isIdent table = true) (hconds : ∀ e ∈ conds, isIdent e.1 = true ∧ e.2.Plain)
    (hne' : conds ≠ []) :
    readStatement ("SELECT ".toList ++ (printNames names ++ (" FROM ".toList ++ (table
      ++ (" WHERE ".toList ++ (printConjunction conds ++ ";".toList))))))
      = some (.select names table conds) := by
  have hconjunction : readConjunction (' ' :: (printConjunction conds ++ ";".toList))
      = some (conds, ";".toList) :=
    (readConjunction_iff true hne' (stops_cons (by decide)) rfl).mpr hconds
  generalize printConjunction conds ++ ";".toList = tail at hconjunction
  have hwhere : readKeyword "where".toList (" WHERE ".toList ++ tail) = some (' ' :: tail) := rfl
  have hstops : Stops (" WHERE ".toList ++ tail) := stops_cons (by decide)
  have htext : ∀ text, "SELECT ".toList ++ text = "SELECT".toList ++ ' ' :: text := fun _ => rfl
  rw [htext]
  refine readStatement_eq rfl ?_
  rw [readBody_select, readSelect_eq hnames hne htable hstops, hwhere]
  simp only [hconjunction, Option.bind_eq_bind, Option.bind_some]
  rfl

/-- A query for a page is read back. -/
lemma readStatement_page (hnames : ∀ n ∈ names, isIdent n = true) (hne : names ≠ [])
    (htable : isIdent table = true) (offset number : ℤ) :
    readStatement ("SELECT ".toList ++ (printNames names ++ (" FROM ".toList ++ (table
      ++ (" LIMIT ".toList ++ (intChars offset ++ (',' :: (intChars number ++ ";".toList))))))))
      = some (.page names table (.integer offset) (.integer number)) := by
  have hnumber : readLiteral (intChars number ++ ";".toList) = some (.integer number, ";".toList) :=
    readLiteral_integer number (stops_cons (by decide))
  generalize intChars number ++ ";".toList = tail at hnumber
  have hoffset : readLiteral (' ' :: (intChars offset ++ ',' :: tail))
      = some (.integer offset, ',' :: tail) := by
    rw [readLiteral_space, readLiteral_integer offset (stops_cons (by decide))]
  generalize intChars offset ++ ',' :: tail = list at hoffset
  have hwhere : readKeyword "where".toList (" LIMIT ".toList ++ list) = none := rfl
  have hlimit : readKeyword "limit".toList (" LIMIT ".toList ++ list) = some (' ' :: list) := rfl
  have hcomma : readChar ',' (',' :: tail) = some tail := rfl
  have hstops : Stops (" LIMIT ".toList ++ list) := stops_cons (by decide)
  have htext : ∀ text, "SELECT ".toList ++ text = "SELECT".toList ++ ' ' :: text := fun _ => rfl
  rw [htext]
  refine readStatement_eq rfl ?_
  rw [readBody_select, readSelect_eq hnames hne htable hstops, hwhere]
  simp only [hlimit, hoffset, hcomma, hnumber, Option.bind_eq_bind, Option.bind_some]
  rfl

end Statements

end SelfTestCode.Sql
