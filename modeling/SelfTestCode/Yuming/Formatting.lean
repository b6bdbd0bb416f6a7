import SelfTestCode.Framework.Sql

/-!
# SQL texts from name and value lists

`Sqlite.py` of the domain crawler and `Database.py` of the proxy build their statements from lists
of names and values, with `str.format`.  The two files have the same three functions; what differs
is what counts as a string, and what formatting one does: Python 2 formats with a byte string, and a
`unicode` argument that is not ASCII raises `UnicodeEncodeError`.  The functions answer `error`
then, which is `none` here.

The first element of a list is formatted by a branch of its own.  The texts are read with SQL's
grammar by the readers of `Sql`.
-/

namespace SelfTestCode.Yuming

open Sql (Literal isIdent)
open Numeral (intChars)

/-! ## Values -/

/-- A value in the lists of `Sqlite.py`; a `str` of Python 2 has bytes. -/
inductive Py2Value
  | int (z : ℤ)
  | str (s : List Char)
  | unicode (s : List Char)
  deriving DecidableEq

/-- A value in the lists of `Database.py`. -/
inductive Py3Value
  | int (z : ℤ)
  | str (s : List Char)
  deriving DecidableEq

def isAscii (s : List Char) : Bool := s.all fun c => c.toNat < 128

def isInteger : Literal → Bool
  | .integer _ => true
  | .string _ => false

/-- What the functions do with a value, and the value that it is in SQL. -/
structure Python (V : Type) where
  /-- `isinstance(value, basestring)`, or `str`. -/
  isString : V → Bool
  /-- `"{0}".format(value)`, if it does not raise. -/
  format : V → Option (List Char)
  literal : V → Literal
  isString_eq : ∀ v, isString v = !isInteger (literal v)
  print_literal : ∀ v text, format v = some text →
    (literal v).print = if isString v then '\'' :: (text ++ ['\'']) else text

/-- The Python of `Sqlite.py`. -/
def sqlitePy : Python Py2Value where
  isString
    | .int _ => false
    | .str _ => true
    | .unicode _ => true
  format
    | .int z => some (intChars z)
    | .str s => some s
    | .unicode s => if isAscii s then some s else none
  literal
    | .int z => .integer z
    | .str s => .string s
    | .unicode s => .string s
  isString_eq := by rintro (z | s | s) <;> rfl
  print_literal := by
    rintro (z | s | s) text htext
    · obtain rfl := Option.some.inj htext
      rfl
    · obtain rfl := Option.some.inj htext
      rfl
    · dsimp only at htext
      split at htext
      · obtain rfl := Option.some.inj htext
        rfl
      · cases htext

/-- The Python of `Database.py`. -/
def databasePy : Python Py3Value where
  isString
    | .int _ => false
    | .str _ => true
  format
    | .int z => some (intChars z)
    | .str s => some s
  literal
    | .int z => .integer z
    | .str s => .string s
  isString_eq := by rintro (z | s) <;> rfl
  print_literal := by
    rintro (z | s) text htext
    · obtain rfl := Option.some.inj htext
      rfl
    · obtain rfl := Option.some.inj htext
      rfl

/-- `{"name": .., "value": ..}`; the name is a column. -/
structure Pair (V : Type) where
  name : List Char
  value : V
  ident : isIdent name = true

/-! ## The functions -/

section Functions

variable {V : Type} (py : Python V)

/-- One turn of the loop of `__string_where_list` and `__string_set_list`: the text so far, and
`where_cnt` or `set_cnt`. -/
def equationStep (sep : List Char) (acc : List Char × ℕ) (one : Pair V) :
    Option (List Char × ℕ) := do
  let value ← py.format one.value
  if acc.2 = 0 then
    if py.isString one.value then
      return (one.name ++ ("='".toList ++ (value ++ "'".toList)), acc.2 + 1)
    else return (one.name ++ ("=".toList ++ value), acc.2 + 1)
  else
    if py.isString one.value then
      return (acc.1 ++ (sep ++ (one.name ++ ("='".toList ++ (value ++ "'".toList)))), acc.2)
    else return (acc.1 ++ (sep ++ (one.name ++ ("=".toList ++ value))), acc.2)

/-- `__string_where_list`. -/
def stringWhereList (whereList : List (Pair V)) : Option (List Char) :=
  (whereList.foldlM (equationStep py " and ".toList) ([], 0)).map Prod.fst

/-- `__string_set_list`. -/
def stringSetList (setList : List (Pair V)) : Option (List Char) :=
  (setList.foldlM (equationStep py ",".toList) ([], 0)).map Prod.fst

/-- The two texts of `__string_value_list`, and `value_cnt`. -/
structure ValueTexts where
  names : List Char
  values : List Char
  cnt : ℕ

/-- One turn of the loop of `__string_value_list`. -/
def valueStep (acc : ValueTexts) (one : Pair V) : Option ValueTexts := do
  let value ← py.format one.value
  if acc.cnt = 0 then
    return {
      names := one.name
      values := if py.isString one.value then "'".toList ++ (value ++ "'".toList) else value
      cnt := acc.cnt + 1 }
  else
    return {
      names := acc.names ++ (",".toList ++ one.name)
      values := if py.isString one.value then
          acc.values ++ (",'".toList ++ (value ++ "'".toList))
        else acc.values ++ (", ".toList ++ value)
      cnt := acc.cnt }

/-- `__string_value_list`: the names and the values. -/
def stringValueList (valueList : List (Pair V)) : Option (List Char × List Char) :=
  (valueList.foldlM (valueStep py) ⟨[], [], 0⟩).map fun t => (t.names, t.values)

/-- The statement of `db_insert_common`. -/
def insertSql (tableName : List Char) (valueList : List (Pair V)) : Option (List Char) := do
  let (names, values) ← stringValueList py valueList
  return "INSERT INTO ".toList ++ (tableName ++ ("(".toList ++ (names ++ (")  VALUES(".toList
    ++ (values ++ ");".toList)))))

/-- The statement of `db_update_common`. -/
def updateSql (tableName : List Char) (setList whereList : List (Pair V)) :
    Option (List Char) := do
  let sets ← stringSetList py setList
  let conds ← stringWhereList py whereList
  return "UPDATE ".toList ++ (tableName ++ (" SET ".toList ++ (sets ++ (" WHERE ".toList
    ++ (conds ++ ";".toList)))))

/-- The statement of `db_delete_common`. -/
def deleteSql (tableName : List Char) (whereList : List (Pair V)) : Option (List Char) := do
  let conds ← stringWhereList py whereList
  return "DELETE FROM ".toList ++ (tableName ++ (" WHERE ".toList ++ (conds ++ ";".toList)))

/-- The equation that a pair stands for. -/
def equationOf (p : Pair V) : List Char × Literal := (p.name, py.literal p.value)

/-- The value is formatted, and its text between quotes is the literal of SQL. -/
def Python.Safe (v : V) : Prop := (py.format v).isSome ∧ (py.literal v).Plain

end Functions

/-! ## The texts in closed form -/

section Texts

variable {V : Type} (py : Python V)

/-- Every value of the list is formatted. -/
def Python.Formats (pairs : List (Pair V)) : Prop := ∀ p ∈ pairs, (py.format p.value).isSome

instance (pairs : List (Pair V)) : Decidable (py.Formats pairs) :=
  inferInstanceAs (Decidable (∀ p ∈ pairs, _))

lemma formats_cons {p : Pair V} {pairs : List (Pair V)} :
    py.Formats (p :: pairs) ↔ (py.format p.value).isSome ∧ py.Formats pairs :=
  List.forall_mem_cons

/-- A loop whose turns fail exactly if a value is not formatted. -/
lemma foldlM_of_format {S : Type} {step : S → Pair V → Option S} {next : S → Pair V → S}
    (hstep : ∀ acc p, step acc p = (py.format p.value).map fun _ => next acc p)
    (acc : S) (pairs : List (Pair V)) :
    pairs.foldlM step acc = if py.Formats pairs then some (pairs.foldl next acc) else none := by
  induction pairs generalizing acc with
  | nil => simp [Python.Formats]
  | cons p pairs ih =>
    rw [List.foldlM_cons, hstep]
    cases hformat : py.format p.value with
    | none =>
      rw [if_neg fun h => by simpa [hformat] using ((formats_cons py).mp h).1]
      rfl
    | some text =>
      have hiff : py.Formats (p :: pairs) ↔ py.Formats pairs := by simp [formats_cons, hformat]
      simp only [Option.map_some, Option.bind_eq_bind, Option.bind_some, ih, hiff, List.foldl_cons]

/-- The equation of a pair, with the quotes that a string has. -/
lemma printEquation_equationOf {p : Pair V} {text : List Char}
    (hformat : py.format p.value = some text) :
    Sql.printEquation (equationOf py p) = if py.isString p.value
      then p.name ++ ("='".toList ++ (text ++ "'".toList)) else p.name ++ ("=".toList ++ text) := by
  rw [Sql.printEquation, equationOf, py.print_literal p.value text hformat]
  split_ifs <;> rfl

/-- A turn of the loops over equations that does not fail: the first element has no separator
before it, and each other one has. -/
def nextEquation (sep : List Char) (acc : List Char × ℕ) (p : Pair V) : List Char × ℕ :=
  if acc.2 = 0 then (Sql.printEquation (equationOf py p), acc.2 + 1)
  else (acc.1 ++ (sep ++ Sql.printEquation (equationOf py p)), acc.2)

lemma equationStep_eq (sep : List Char) (acc : List Char × ℕ) (p : Pair V) :
    equationStep py sep acc p
      = (py.format p.value).map fun _ => nextEquation py sep acc p := by
  cases hformat : py.format p.value with
  | none => simp [equationStep, hformat]
  | some text =>
    simp only [equationStep, nextEquation, hformat, printEquation_equationOf py hformat,
      Option.bind_eq_bind, Option.bind_some, Option.map_some]
    split_ifs <;> rfl

lemma foldl_nextEquation (sep acc : List Char) {cnt : ℕ} (hcnt : cnt ≠ 0)
    (pairs : List (Pair V)) :
    pairs.foldl (nextEquation py sep) (acc, cnt) = (acc
      ++ (pairs.map (equationOf py)).flatMap (fun e => sep ++ Sql.printEquation e), cnt) := by
  induction pairs generalizing acc with
  | nil => simp
  | cons p pairs ih =>
    rw [List.foldl_cons, nextEquation, if_neg hcnt, ih, List.map_cons, List.flatMap_cons,
      List.append_assoc]

/-- Both kinds of equations as a list with separators. -/
lemma equations_eq (sep : List Char) (pairs : List (Pair V)) :
    (pairs.foldlM (equationStep py sep) ([], 0)).map Prod.fst
      = if py.Formats pairs then
          some (Sql.printList Sql.printEquation (fun e => sep ++ Sql.printEquation e)
            (pairs.map (equationOf py)))
        else none := by
  have hprint : (pairs.foldl (nextEquation py sep) ([], 0)).1 = Sql.printList Sql.printEquation
      (fun e => sep ++ Sql.printEquation e) (pairs.map (equationOf py)) := by
    cases pairs with
    | nil => rfl
    | cons p pairs =>
      rw [List.foldl_cons, nextEquation, if_pos rfl,
        foldl_nextEquation py sep _ (Nat.succ_ne_zero 0)]
      rfl
  rw [foldlM_of_format py (equationStep_eq py sep), ← hprint]
  split_ifs <;> rfl

lemma stringWhereList_eq (pairs : List (Pair V)) :
    stringWhereList py pairs = if py.Formats pairs then
      some (Sql.printConjunction (pairs.map (equationOf py))) else none :=
  equations_eq py " and ".toList pairs

lemma stringSetList_eq (pairs : List (Pair V)) :
    stringSetList py pairs = if py.Formats pairs then
      some (Sql.printAssignments (pairs.map (equationOf py))) else none :=
  equations_eq py ",".toList pairs

/-- A turn of the loop over values that does not fail: the first element has no commas before it,
and each other one has. -/
def nextValue (acc : ValueTexts) (p : Pair V) : ValueTexts :=
  if acc.cnt = 0 then ⟨p.name, (py.literal p.value).print, acc.cnt + 1⟩
  else ⟨acc.names ++ ',' :: p.name,
    acc.values ++ ',' :: Sql.spaced (isInteger (py.literal p.value)) (py.literal p.value).print,
    acc.cnt⟩

lemma valueStep_eq (acc : ValueTexts) (p : Pair V) :
    valueStep py acc p = (py.format p.value).map fun _ => nextValue py acc p := by
  cases hformat : py.format p.value with
  | none => simp [valueStep, hformat]
  | some text =>
    have hprint := py.print_literal p.value text hformat
    have hkind := py.isString_eq p.value
    cases hstring : py.isString p.value with
    | true =>
      rw [hstring] at hprint hkind
      have hinteger : isInteger (py.literal p.value) = false := by simpa using hkind.symm
      by_cases hcnt : acc.cnt = 0
      · simp [valueStep, nextValue, hformat, hstring, hprint, hcnt]
      · simp [valueStep, nextValue, hformat, hstring, hprint, hinteger, Sql.spaced, hcnt]
    | false =>
      rw [hstring] at hprint hkind
      have hinteger : isInteger (py.literal p.value) = true := by simpa using hkind.symm
      by_cases hcnt : acc.cnt = 0
      · simp [valueStep, nextValue, hformat, hstring, hprint, hcnt]
      · simp [valueStep, nextValue, hformat, hstring, hprint, hinteger, Sql.spaced, hcnt]

lemma foldl_nextValue (acc : ValueTexts) (hcnt : acc.cnt ≠ 0) (pairs : List (Pair V)) :
    pairs.foldl (nextValue py) acc
      = ⟨acc.names ++ (pairs.map Pair.name).flatMap (fun n => ',' :: n),
        acc.values ++ (pairs.map fun p => py.literal p.value).flatMap
          (fun v => ',' :: Sql.spaced (isInteger v) v.print), acc.cnt⟩ := by
  induction pairs generalizing acc with
  | nil => simp
  | cons p pairs ih =>
    rw [List.foldl_cons, nextValue, if_neg hcnt, ih]
    · simp only [List.map_cons, List.flatMap_cons, List.append_assoc, List.cons_append]
    · exact hcnt

lemma stringValueList_eq (pairs : List (Pair V)) :
    stringValueList py pairs = if py.Formats pairs then
      some (Sql.printNames (pairs.map Pair.name),
        Sql.printLiterals isInteger (pairs.map fun p => py.literal p.value)) else none := by
  have hprint : (pairs.foldl (nextValue py) ⟨[], [], 0⟩).names
        = Sql.printNames (pairs.map Pair.name) ∧
      (pairs.foldl (nextValue py) ⟨[], [], 0⟩).values
        = Sql.printLiterals isInteger (pairs.map fun p => py.literal p.value) := by
    cases pairs with
    | nil => exact ⟨rfl, rfl⟩
    | cons p pairs =>
      rw [List.foldl_cons, nextValue, if_pos rfl, foldl_nextValue py _ (Nat.succ_ne_zero 0)]
      exact ⟨rfl, rfl⟩
  rw [stringValueList, foldlM_of_format py (valueStep_eq py), ← hprint.1, ← hprint.2]
  split_ifs <;> rfl

variable {py} in
lemma insertSql_eq {pairs : List (Pair V)} (h : py.Formats pairs) (table : List Char) :
    insertSql py table pairs = some ("INSERT INTO ".toList ++ (table ++ ("(".toList
      ++ (Sql.printNames (pairs.map Pair.name) ++ (")  VALUES(".toList
        ++ (Sql.printLiterals isInteger (pairs.map fun p => py.literal p.value)
          ++ ");".toList)))))) := by
  rw [insertSql, stringValueList_eq, if_pos h]
  rfl

variable {py} in
lemma updateSql_eq {sets conds : List (Pair V)} (h : py.Formats sets) (h' : py.Formats conds)
    (table : List Char) :
    updateSql py table sets conds = some ("UPDATE ".toList ++ (table ++ (" SET ".toList
      ++ (Sql.printAssignments (sets.map (equationOf py)) ++ (" WHERE ".toList
        ++ (Sql.printConjunction (conds.map (equationOf py)) ++ ";".toList)))))) := by
  rw [updateSql, stringSetList_eq, if_pos h, stringWhereList_eq, if_pos h']
  rfl

end Texts

/-! ## What the texts denote -/

/-- Each text reads as exactly its list, and each statement has it in its place. -/
structure Denotes {V : Type} (py : Python V) (pairs : List (Pair V)) : Prop where
  whereList : ∃ text, stringWhereList py pairs = some text ∧
    Sql.readAll Sql.readConjunction text = some (pairs.map (equationOf py))
  setList : ∃ text, stringSetList py pairs = some text ∧
    Sql.readAll (Sql.readCommas Sql.readEquation) text = some (pairs.map (equationOf py))
  valueList : ∃ names values, stringValueList py pairs = some (names, values) ∧
    Sql.readAll (Sql.readCommas Sql.readIdent) names = some (pairs.map Pair.name) ∧
    Sql.readAll (Sql.readCommas Sql.readLiteral) values
      = some (pairs.map fun p => py.literal p.value)
  insert : pairs ≠ [] → ∀ table, isIdent table = true →
    ∃ sql, insertSql py table pairs = some sql ∧ Sql.readStatement sql
      = some (.insert table (pairs.map Pair.name) (pairs.map fun p => py.literal p.value))
  update : pairs ≠ [] → ∀ table, isIdent table = true → ∀ conds, conds ≠ [] →
    (∀ p ∈ conds, py.Safe p.value) → ∃ sql, updateSql py table pairs conds = some sql ∧
      Sql.readStatement sql
        = some (.update table (pairs.map (equationOf py)) (conds.map (equationOf py)))
  delete : pairs ≠ [] → ∀ table, isIdent table = true →
    ∃ sql, deleteSql py table pairs = some sql ∧ Sql.readStatement sql
      = some (.delete table (pairs.map (equationOf py)))

section Denotes

variable {V : Type} {py : Python V} {pairs : List (Pair V)}

lemma formats_of_safe (h : ∀ p ∈ pairs, py.Safe p.value) : py.Formats pairs :=
  fun p hp => (h p hp).1

/-- The equations of the pairs can be read. -/
lemma equations_of_safe (h : ∀ p ∈ pairs, py.Safe p.value) :
    ∀ e ∈ pairs.map (equationOf py), isIdent e.1 = true ∧ e.2.Plain := by
  intro e he
  obtain ⟨p, hp, rfl⟩ := List.mem_map.mp he
  exact ⟨p.ident, (h p hp).2⟩

lemma map_ne_nil {β : Type*} {f : Pair V → β} (h : pairs ≠ []) : pairs.map f ≠ [] :=
  fun hmap => h (List.map_eq_nil_iff.mp hmap)

lemma names_of_pairs : ∀ n ∈ pairs.map Pair.name, isIdent n = true := by
  intro n hn
  obtain ⟨p, -, rfl⟩ := List.mem_map.mp hn
  exact p.ident

lemma values_of_safe (h : ∀ p ∈ pairs, py.Safe p.value) :
    ∀ v ∈ pairs.map fun p => py.literal p.value, v.Plain := by
  intro v hv
  obtain ⟨p, hp, rfl⟩ := List.mem_map.mp hv
  exact (h p hp).2

/-- The `INSERT` statement of safe values. -/
lemma insertSql_of_safe (h : ∀ p ∈ pairs, py.Safe p.value) (hne : pairs ≠ []) {table : List Char}
    (htable : isIdent table = true) :
    ∃ sql, insertSql py table pairs = some sql ∧ Sql.readStatement sql
      = some (.insert table (pairs.map Pair.name) (pairs.map fun p => py.literal p.value)) := by
  refine ⟨_, insertSql_eq (formats_of_safe h) table, ?_⟩
  exact Sql.readStatement_insert isInteger htable names_of_pairs (values_of_safe h)
    (map_ne_nil hne) (map_ne_nil hne)

/-- The `UPDATE` statement of safe values. -/
lemma updateSql_of_safe (h : ∀ p ∈ pairs, py.Safe p.value) (hne : pairs ≠ []) {table : List Char}
    (htable : isIdent table = true) {conds : List (Pair V)} (hconds : ∀ p ∈ conds, py.Safe p.value)
    (hne' : conds ≠ []) :
    ∃ sql, updateSql py table pairs conds = some sql ∧ Sql.readStatement sql
      = some (.update table (pairs.map (equationOf py)) (conds.map (equationOf py))) := by
  refine ⟨_, updateSql_eq (formats_of_safe h) (formats_of_safe hconds) table, ?_⟩
  exact Sql.readStatement_update htable (equations_of_safe h) (equations_of_safe hconds)
    (map_ne_nil hne) (map_ne_nil hne')

/-- The `DELETE` statement of safe values. -/
lemma deleteSql_of_safe (h : ∀ p ∈ pairs, py.Safe p.value) (hne : pairs ≠ []) {table : List Char}
    (htable : isIdent table = true) :
    ∃ sql, deleteSql py table pairs = some sql ∧ Sql.readStatement sql
      = some (.delete table (pairs.map (equationOf py))) := by
  rw [deleteSql, stringWhereList_eq, if_pos (formats_of_safe h)]
  refine ⟨_, rfl, ?_⟩
  exact Sql.readStatement_delete htable (equations_of_safe h) (map_ne_nil hne)

/-- The texts denote their list exactly if every value is safe. -/
lemma denotes_iff : Denotes py pairs ↔ ∀ p ∈ pairs, py.Safe p.value := by
  constructor
  · intro h
    obtain ⟨text, htext, hread⟩ := h.whereList
    rw [stringWhereList_eq] at htext
    split at htext
    · rename_i hformats
      obtain rfl := Option.some.inj htext
      have hplain := Sql.readAll_conjunction_iff.mp hread
      intro p hp
      exact ⟨hformats p hp, (hplain (equationOf py p) (List.mem_map_of_mem hp)).2⟩
    · cases htext
  · intro h
    have hformats := formats_of_safe h
    refine ⟨⟨_, (stringWhereList_eq py pairs).trans (if_pos hformats), ?_⟩,
      ⟨_, (stringSetList_eq py pairs).trans (if_pos hformats), ?_⟩,
      ⟨_, _, (stringValueList_eq py pairs).trans (if_pos hformats), ?_, ?_⟩, ?_, ?_, ?_⟩
    · exact Sql.readAll_conjunction_iff.mpr (equations_of_safe h)
    · exact Sql.readAll_assignments_iff.mpr (equations_of_safe h)
    · exact Sql.readAll_names names_of_pairs
    · exact Sql.readAll_literals_iff.mpr (values_of_safe h)
    · exact fun hne table htable => insertSql_of_safe h hne htable
    · exact fun hne table htable conds hne' hconds => updateSql_of_safe h hne htable hconds hne'
    · exact fun hne table htable => deleteSql_of_safe h hne htable

end Denotes

/-- A value of `Sqlite.py` that the texts carry: no quote, and nothing that cannot be formatted. -/
def Py2Value.Safe : Py2Value → Prop
  | .int _ => True
  | .str s => '\'' ∉ s
  | .unicode s => '\'' ∉ s ∧ ∀ c ∈ s, c.toNat < 128

/-- A value of `Database.py` that the texts carry: no quote. -/
def Py3Value.Safe : Py3Value → Prop
  | .int _ => True
  | .str s => '\'' ∉ s

lemma sqlitePy_safe_iff (v : Py2Value) : sqlitePy.Safe v ↔ v.Safe := by
  cases v with
  | int z => exact ⟨fun _ => trivial, fun _ => ⟨rfl, trivial⟩⟩
  | str s => exact ⟨fun h => h.2, fun h => ⟨rfl, h⟩⟩
  | unicode s =>
    have hascii : isAscii s = true ↔ ∀ c ∈ s, c.toNat < 128 := by
      simp [isAscii]
    have hformat : (sqlitePy.format (.unicode s)).isSome = isAscii s := by
      have hif : sqlitePy.format (.unicode s) = if isAscii s then some s else none := rfl
      rw [hif]
      cases isAscii s <;> rfl
    rw [Python.Safe, hformat, hascii]
    exact ⟨fun h => ⟨h.2, h.1⟩, fun h => ⟨h.2, h.1⟩⟩

lemma databasePy_safe_iff (v : Py3Value) : databasePy.Safe v ↔ v.Safe := by
  cases v with
  | int z => exact ⟨fun _ => trivial, fun _ => ⟨rfl, trivial⟩⟩
  | str s => exact ⟨fun h => h.2, fun h => ⟨rfl, h⟩⟩

/-- In both files the texts denote exactly the values they are built from if and only if no string
has a quote in it and, in Python 2, no `unicode` string goes beyond ASCII. -/
theorem texts_denote_iff (pairs : List (Pair Py2Value)) (pairs' : List (Pair Py3Value)) :
    (Denotes sqlitePy pairs ↔ ∀ p ∈ pairs, p.value.Safe) ∧
    (Denotes databasePy pairs' ↔ ∀ p ∈ pairs', p.value.Safe) := by
  constructor
  · rw [denotes_iff]
    exact forall₂_congr fun p _ => sqlitePy_safe_iff p.value
  · rw [denotes_iff]
    exact forall₂_congr fun p _ => databasePy_safe_iff p.value

/-- The condition `name='x' or '1'='1'`. -/
def injected : List (Pair Py2Value) :=
  [⟨"name".toList, .unicode "x' or '1'='1".toList, by decide⟩]

/-- Its text is no list of equations: the quotes of the value end the literal. -/
theorem texts_denote_not_injected : ¬ Denotes sqlitePy injected := by
  intro h
  have hsafe := denotes_iff.mp h _ List.mem_cons_self
  exact hsafe.2 (by decide)

end SelfTestCode.Yuming
