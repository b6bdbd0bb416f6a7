import Mathlib.Data.List.Nodup
import Mathlib.Data.Rat.Defs
import SelfTestCode.Yuming.Formatting

/-!
# The domain store

`Sqlite.py` keeps the domains in the table `yuming`.  Its methods format a statement, which SQLite
reads and executes; a statement that fails is logged and otherwise ignored.  The model goes the same
way: from the list of names and values to the text, by `Sql.readStatement` back to a statement, and
from there to the rows.

Of SQLite the model has what these statements use: the types and defaults of the columns, the
primary key, and the affinities.  A column declared `char(16)` has the affinity `TEXT`.  One
declared `datetime` has the affinity `NUMERIC`: a text that looks like a number is stored as that
number.  Which number it is, is the parameter `number`.
-/

namespace SelfTestCode.Yuming

open Sql (Literal Statement)
open Numeral (intChars)

/-! ## The table -/

inductive Column
  | name
  | state
  | registrationDate
  | expirationDate
  | deleteDate
  | follow
  | blacklist
  deriving DecidableEq

namespace Column

def all : List Column :=
  [.name, .state, .registrationDate, .expirationDate, .deleteDate, .follow, .blacklist]

/-- The name of the column in SQL. -/
def sqlName : Column → List Char
  | .name => "name".toList
  | .state => "state".toList
  | .registrationDate => "registration_date".toList
  | .expirationDate => "expiration_date".toList
  | .deleteDate => "delete_date".toList
  | .follow => "follow".toList
  | .blacklist => "blacklist".toList

def ofSqlName (s : List Char) : Option Column := all.find? fun c => c.sqlName = s

/-- The columns declared `datetime`. -/
def isDate : Column → Bool
  | .registrationDate => true
  | .expirationDate => true
  | .deleteDate => true
  | _ => false

end Column

/-- A number as SQLite stores it. -/
inductive Number
  | integer (z : ℤ)
  | real (r : ℚ)
  | infinity (negative : Bool)
  deriving DecidableEq

inductive Value
  | null
  | number (n : Number)
  | text (s : List Char)
  deriving DecidableEq

abbrev Row := Column → Value

/-- The `DEFAULT` clauses; `name` has none. -/
def defaultValue : Column → Value
  | .state => .text "unknown".toList
  | .follow => .text "no".toList
  | .blacklist => .text "no".toList
  | _ => .null

/-- The white space around a number. -/
def isSpace (c : Char) : Bool :=
  c == ' ' || c == '\t' || c == '\n' || c == '\x0b' || c == '\x0c' || c == '\r'

def dropSign : List Char → List Char
  | '-' :: s => s
  | '+' :: s => s
  | s => s

/-- What is behind an exponent, if there is one; `none` if it has no digits. -/
def dropExponent : List Char → Option (List Char)
  | [] => some []
  | c :: s =>
    if c = 'e' ∨ c = 'E' then
      let s := dropSign s
      if s.takeWhile Char.isDigit = [] then none else some (s.dropWhile Char.isDigit)
    else some (c :: s)

/-- The text is a well-formed number, with white space around it: what the affinity `NUMERIC`
converts. -/
def isNumeric (s : List Char) : Bool :=
  let s := dropSign (s.dropWhile isSpace)
  let whole := s.takeWhile Char.isDigit
  let s := s.dropWhile Char.isDigit
  let (fraction, s) := match s with
    | '.' :: s => (s.takeWhile Char.isDigit, s.dropWhile Char.isDigit)
    | s => ([], s)
  if whole = [] ∧ fraction = [] then false
  else match dropExponent s with
    | none => false
    | some s => s.dropWhile isSpace = []

/-! ## SQLite -/

section Sqlite3

-- the number that a well-formed numeral is stored as
variable (number : List Char → Number)

/-- A literal in a column, after the column's affinity was applied. -/
def store (c : Column) : Literal → Value
  | .integer z => if c.isDate then .number (number (intChars z)) else .text (intChars z)
  | .string s => if c.isDate && isNumeric s then .number (number s) else .text s

/-- Names and literals, with the columns for the names. -/
def resolve : List (List Char × Literal) → Option (List (Column × Literal))
  | [] => some []
  | (name, value) :: rest => do
    let c ← Column.ofSqlName name
    let rest ← resolve rest
    return (c, value) :: rest

def resolveColumns : List (List Char) → Option (List Column)
  | [] => some []
  | name :: rest => do
    let c ← Column.ofSqlName name
    let rest ← resolveColumns rest
    return c :: rest

/-- The row of an `INSERT`: the first value for a column counts, and the others have their
default. -/
def newRow (values : List (Column × Literal)) : Row := fun c =>
  match values.find? (fun v => v.1 = c) with
  | some v => store number c v.2
  | none => defaultValue c

/-- The row after an `UPDATE`, in which the last value for a column counts. -/
def assign (sets : List (Column × Literal)) (row : Row) : Row := fun c =>
  match sets.reverse.find? (fun v => v.1 = c) with
  | some v => store number c v.2
  | none => row c

/-- The row meets every condition of a `WHERE` clause. -/
def meets (conds : List (Column × Literal)) (row : Row) : Bool :=
  conds.all fun e => row e.1 = store number e.1 e.2

/-- `LIMIT`; a negative number of rows is no limit. -/
def limit (offset number : ℤ) (rows : List Row) : List Row :=
  if number < 0 then rows.drop offset.toNat else (rows.drop offset.toNat).take number.toNat

/-- A statement on the table: the rows after it, and the rows of its result.  It fails for another
table or column, and if it would break `PRIMARY KEY NOT NULL`. -/
def run (statement : Statement) (rows : List Row) : Option (List Row × List (List Value)) :=
  match statement with
  | .insert table columns values => do
    if table ≠ "yuming".toList ∨ columns.length ≠ values.length then none
    else
      let values ← resolve (columns.zip values)
      let row := newRow number values
      if row .name = .null ∨ rows.any (fun r => r .name = row .name) then none
      else some (rows ++ [row], [])
  | .update table sets conds => do
    if table ≠ "yuming".toList then none
    else
      let sets ← resolve sets
      let conds ← resolve conds
      let rows := rows.map fun r => if meets number conds r then assign number sets r else r
      if (rows.map fun r => r .name).Nodup then some (rows, []) else none
  | .delete table conds => do
    if table ≠ "yuming".toList then none
    else
      let conds ← resolve conds
      some (rows.filter fun r => !meets number conds r, [])
  | .select columns table conds => do
    if table ≠ "yuming".toList then none
    else
      let columns ← resolveColumns columns
      let conds ← resolve conds
      some (rows, (rows.filter (meets number conds)).map fun r => columns.map r)
  | .page columns table (.integer offset) (.integer number) => do
    if table ≠ "yuming".toList then none
    else
      let columns ← resolveColumns columns
      some (rows, (limit offset number rows).map fun r => columns.map r)
  | .page .. => none

/-- `conn.execute(sql)`, if it does not raise.  A null character in the statement is refused.  A
statement that `readStatement` does not read, for example one with an `OR`, counts as raising here,
although SQLite may run it. -/
def execute (sql : List Char) (rows : List Row) : Option (List Row × List (List Value)) :=
  if '\x00' ∈ sql then none
  else do
    let statement ← Sql.readStatement sql
    run number statement rows

/-! ## The methods -/

/-- An `info` dictionary with a name.  A key that is not there and one with `None` are treated
alike. -/
structure Info where
  value : Column → Option Py2Value
  name : Py2Value
  value_name : value .name = some name

/-- An element of a name and value list. -/
def pairOf (c : Column) (v : Py2Value) : Pair Py2Value where
  name := c.sqlName
  value := v
  ident := by cases c <;> decide

/-- A statement is executed and committed.  What this raises is logged, and nothing more. -/
def commit (rows : List Row) : Option (List Char) → List Row
  | none => rows
  | some sql =>
    match execute number sql rows with
    | none => rows
    | some (rows, _) => rows

/-- `db_insert_common('yuming', value_list)`. -/
def dbInsertCommon (rows : List Row) (valueList : List (Pair Py2Value)) : List Row :=
  commit number rows (insertSql sqlitePy "yuming".toList valueList)

/-- `db_update_common('yuming', set_list, where_list)`. -/
def dbUpdateCommon (rows : List Row) (setList whereList : List (Pair Py2Value)) : List Row :=
  commit number rows (updateSql sqlitePy "yuming".toList setList whereList)

/-- The columns that `insert_one_yuming_info` takes from the dictionary, beside the name. -/
def insertColumns : List Column := [.state, .registrationDate, .expirationDate, .deleteDate]

/-- The columns that `update_yuming_info` takes from the dictionary. -/
def updateColumns : List Column :=
  [.state, .registrationDate, .expirationDate, .deleteDate, .follow, .blacklist]

/-- The given ones of some columns, as a list of names and values. -/
def Info.pairs (info : Info) (columns : List Column) : List (Pair Py2Value) :=
  columns.filterMap fun c => (info.value c).map (pairOf c)

/-- `insert_one_yuming_info`: its answer, and the table after it. -/
def insertOneYumingInfo (rows : List Row) (info : Info) : Bool × List Row :=
  (true, dbInsertCommon number rows (pairOf .name info.name :: info.pairs insertColumns))

/-- `update_yuming_info`: its answer, and the table after it. -/
def updateYumingInfo (rows : List Row) (info : Info) : Bool × List Row :=
  (true, dbUpdateCommon number rows (info.pairs updateColumns) [pairOf .name info.name])

/-- The statement of `get_one_yuming_info`, if the name can be formatted. -/
def selectSql (name : Py2Value) : Option (List Char) := do
  let name ← sqlitePy.format name
  return "SELECT ".toList
    ++ ("name,state,registration_date,expiration_date,delete_date,follow,blacklist".toList
      ++ (" FROM yuming WHERE name='".toList ++ (name ++ "';".toList)))

/-- The dictionary of a row of the result. -/
def infoOf : List Value → Option Row
  | [name, state, registrationDate, expirationDate, deleteDate, follow, blacklist] =>
    some fun
      | .name => name
      | .state => state
      | .registrationDate => registrationDate
      | .expirationDate => expirationDate
      | .deleteDate => deleteDate
      | .follow => follow
      | .blacklist => blacklist
  | _ => none

/-- `get_one_yuming_info`: the dictionary of the last row that is found. -/
def getOneYumingInfo (rows : List Row) (name : Py2Value) : Option Row := do
  let sql ← selectSql name
  let (_, dataset) ← execute number sql rows
  let row ← dataset.getLast?
  infoOf row

end Sqlite3

/-! ## Plain strings -/

/-- ASCII, without quotes. -/
def PlainText (s : List Char) : Prop := ∀ c ∈ s, c.toNat < 128 ∧ c ≠ '\''

instance (s : List Char) : Decidable (PlainText s) := List.decidableBAll _ s

namespace Py2Value

/-- The characters of a string. -/
def text : Py2Value → List Char
  | .int z => intChars z
  | .str s => s
  | .unicode s => s

/-- An ASCII string without quotes, of either kind. -/
def PlainString : Py2Value → Prop
  | .int _ => False
  | .str s => PlainText s
  | .unicode s => PlainText s

instance : DecidablePred PlainString
  | .int _ => .isFalse id
  | .str s => inferInstanceAs (Decidable (PlainText s))
  | .unicode s => inferInstanceAs (Decidable (PlainText s))

variable {v : Py2Value}

lemma PlainString.quote (h : v.PlainString) : '\'' ∉ v.text := by
  intro hmem
  cases v with
  | int z => exact h
  | str s => exact (h '\'' hmem).2 rfl
  | unicode s => exact (h '\'' hmem).2 rfl

lemma PlainString.literal (h : v.PlainString) : sqlitePy.literal v = .string v.text := by
  cases v with
  | int z => exact h.elim
  | str s => rfl
  | unicode s => rfl

lemma PlainString.safe (h : v.PlainString) : sqlitePy.Safe v := by
  rw [sqlitePy_safe_iff]
  cases v with
  | int z => trivial
  | str s => exact h.quote
  | unicode s => exact ⟨h.quote, fun c hc => (h c hc).1⟩

lemma PlainString.format (h : v.PlainString) : sqlitePy.format v = some v.text := by
  cases v with
  | int z => exact h.elim
  | str s => rfl
  | unicode s =>
    have hascii : isAscii s = true := by
      rw [isAscii, List.all_eq_true]
      exact fun c hc => decide_eq_true (h c hc).1
    exact if_pos hascii

end Py2Value

/-! ## Statements on the table -/

/-- Columns and the values for them. -/
abbrev Values := List (Column × Py2Value)

/-- The values are plain strings. -/
def Values.Plain (values : Values) : Prop := ∀ v ∈ values, v.2.PlainString

/-- The name and value list. -/
def Values.pairs (values : Values) : List (Pair Py2Value) := values.map fun v => pairOf v.1 v.2

/-- The values as SQL has them. -/
def Values.literals (values : Values) : List (Column × Literal) :=
  values.map fun v => (v.1, .string v.2.text)

/-- A value has a null character, which no statement can have. -/
def Values.HasNull (values : Values) : Prop := ∃ v ∈ values, '\x00' ∈ v.2.text

instance (values : Values) : Decidable values.HasNull :=
  inferInstanceAs (Decidable (∃ v ∈ values, _))

section Statements

variable {values conds : Values}

lemma ofSqlName_sqlName (c : Column) : Column.ofSqlName c.sqlName = some c := by
  cases c <;> decide

lemma Values.Plain.safe (h : values.Plain) : ∀ p ∈ values.pairs, sqlitePy.Safe p.value := by
  intro p hp
  obtain ⟨v, hv, rfl⟩ := List.mem_map.mp hp
  exact (h v hv).safe

/-- The columns of the equations are found again. -/
lemma Values.Plain.resolve (h : values.Plain) :
    resolve (values.pairs.map (equationOf sqlitePy)) = some values.literals := by
  induction values with
  | nil => rfl
  | cons v values ih =>
    have hv : (sqlitePy.literal v.2) = .string v.2.text :=
      (h v List.mem_cons_self).literal
    have hrest := ih fun w hw => h w (List.mem_cons_of_mem v hw)
    have hcons : Values.pairs (v :: values) = pairOf v.1 v.2 :: Values.pairs values := rfl
    have hequation : equationOf sqlitePy (pairOf v.1 v.2)
        = (v.1.sqlName, .string v.2.text) := by
      rw [equationOf, ← hv]
      rfl
    rw [hcons, List.map_cons, hequation, Yuming.resolve, ofSqlName_sqlName, hrest]
    rfl

lemma null_notMem_of_isIdent {name : List Char} (h : Sql.isIdent name = true) :
    '\x00' ∉ name := by
  obtain ⟨c, cs, rfl, hstart, hcs⟩ := Sql.isIdent_iff.mp h
  intro hmem
  rcases List.mem_cons.mp hmem with rfl | hmem
  · exact absurd hstart (by decide)
  · exact absurd (hcs _ hmem) (by decide)

lemma null_mem_print (s : List Char) :
    '\x00' ∈ (Literal.string s).print ↔ '\x00' ∈ s := by
  simp [Literal.print]

/-- The names of a list have no null character. -/
lemma null_notMem_names (pairs : List (Pair Py2Value)) :
    '\x00' ∉ Sql.printNames (pairs.map Pair.name) := by
  have hlink : ∀ n : List Char, '\x00' ∈ ',' :: n ↔ '\x00' ∈ id n := by simp
  rw [Sql.printNames, Sql.mem_printList hlink]
  rintro ⟨n, hn, hmem⟩
  obtain ⟨p, -, rfl⟩ := List.mem_map.mp hn
  exact null_notMem_of_isIdent p.ident hmem

lemma null_mem_literals (h : values.Plain) :
    '\x00' ∈ Sql.printLiterals isInteger (values.pairs.map fun p => sqlitePy.literal p.value) ↔
      values.HasNull := by
  have hlink : ∀ v : Literal, '\x00' ∈ ',' :: Sql.spaced (isInteger v) v.print ↔
      '\x00' ∈ v.print := by
    intro v
    cases hinteger : isInteger v <;> simp [Sql.spaced]
  rw [Sql.printLiterals, Sql.mem_printList hlink, Values.pairs, List.map_map]
  constructor
  · rintro ⟨l, hl, hmem⟩
    obtain ⟨v, hv, rfl⟩ := List.mem_map.mp hl
    have hliteral : sqlitePy.literal v.2 = .string v.2.text := (h v hv).literal
    rw [Function.comp_apply, pairOf, hliteral, null_mem_print] at hmem
    exact ⟨v, hv, hmem⟩
  · rintro ⟨v, hv, hmem⟩
    refine ⟨sqlitePy.literal v.2, List.mem_map.mpr ⟨v, hv, rfl⟩, ?_⟩
    rw [(h v hv).literal, null_mem_print]
    exact hmem

/-- The equations of plain values have null characters only from the values. -/
lemma null_mem_equations (h : values.Plain) {sep : List Char} (hsep : '\x00' ∉ sep) :
    '\x00' ∈ Sql.printList Sql.printEquation (fun e => sep ++ Sql.printEquation e)
      (values.pairs.map (equationOf sqlitePy)) ↔ values.HasNull := by
  have hlink : ∀ e, '\x00' ∈ sep ++ Sql.printEquation e ↔ '\x00' ∈ Sql.printEquation e := by
    simp [hsep]
  rw [Sql.mem_printList hlink, Values.pairs, List.map_map]
  have hequation : ∀ v ∈ values,
      ('\x00' ∈ Sql.printEquation (equationOf sqlitePy (pairOf v.1 v.2)) ↔ '\x00' ∈ v.2.text) := by
    intro v hv
    have hname : '\x00' ∉ v.1.sqlName := null_notMem_of_isIdent (pairOf v.1 v.2).ident
    have hequation : equationOf sqlitePy (pairOf v.1 v.2)
        = (v.1.sqlName, sqlitePy.literal v.2) := rfl
    rw [hequation, (h v hv).literal, Sql.printEquation, List.mem_append, List.mem_cons,
      null_mem_print]
    simp [hname]
  constructor
  · rintro ⟨e, he, hmem⟩
    obtain ⟨v, hv, rfl⟩ := List.mem_map.mp he
    exact ⟨v, hv, (hequation v hv).mp hmem⟩
  · rintro ⟨v, hv, hmem⟩
    exact ⟨_, List.mem_map.mpr ⟨v, hv, rfl⟩, (hequation v hv).mpr hmem⟩

lemma zip_pairs (pairs : List (Pair Py2Value)) :
    (pairs.map Pair.name).zip (pairs.map fun p => sqlitePy.literal p.value)
      = pairs.map (equationOf sqlitePy) := by
  rw [List.zip_map']
  rfl

end Statements

section Methods

variable (number : List Char → Number) {values conds : Values} (rows : List Row)

lemma pairs_ne_nil (h : values ≠ []) : values.pairs ≠ [] := fun hnil =>
  h (List.map_eq_nil_iff.mp hnil)

/-- `db_insert_common` on plain values. -/
lemma dbInsertCommon_eq (h : values.Plain) (hne : values ≠ []) :
    dbInsertCommon number rows values.pairs =
      if values.HasNull ∨ newRow number values.literals .name = .null ∨
          rows.any (fun r => r .name = newRow number values.literals .name) then rows
      else rows ++ [newRow number values.literals] := by
  have hsql := insertSql_eq (formats_of_safe h.safe) "yuming".toList
  obtain ⟨sql, hsql', hread⟩ := insertSql_of_safe h.safe (pairs_ne_nil hne)
    (by decide : Sql.isIdent "yuming".toList = true)
  obtain rfl := Option.some.inj (hsql.symm.trans hsql')
  have hrun : ∀ rows, run number (.insert "yuming".toList (values.pairs.map Pair.name)
      (values.pairs.map fun p => sqlitePy.literal p.value)) rows =
        if newRow number values.literals .name = .null ∨
          rows.any (fun r => r .name = newRow number values.literals .name) then none
        else some (rows ++ [newRow number values.literals], []) := by
    intro rows
    have hcond : ¬ ("yuming".toList ≠ "yuming".toList ∨ (values.pairs.map Pair.name).length
        ≠ (values.pairs.map fun p => sqlitePy.literal p.value).length) := by simp
    simp only [run, if_neg hcond, zip_pairs, h.resolve, Option.bind_eq_bind, Option.bind_some]
  have hnull : '\x00' ∈ "INSERT INTO ".toList ++ ("yuming".toList ++ ("(".toList
      ++ (Sql.printNames (values.pairs.map Pair.name) ++ (")  VALUES(".toList
        ++ (Sql.printLiterals isInteger (values.pairs.map fun p => sqlitePy.literal p.value)
          ++ ");".toList))))) ↔ values.HasNull := by
    simp [null_notMem_names, null_mem_literals h]
  simp only [dbInsertCommon, commit, hsql, execute, hnull, hread, Option.bind_eq_bind,
    Option.bind_some, hrun]
  by_cases hhas : values.HasNull
  · simp only [hhas, if_true, true_or]
  · simp only [hhas, if_false, false_or]
    split_ifs <;> rfl

lemma printNames_all : Sql.printNames (Column.all.map Column.sqlName)
    = "name,state,registration_date,expiration_date,delete_date,follow,blacklist".toList := by
  decide

lemma resolveColumns_sqlName (columns : List Column) :
    resolveColumns (columns.map Column.sqlName) = some columns := by
  induction columns with
  | nil => rfl
  | cons c columns ih =>
    rw [List.map_cons, resolveColumns, ofSqlName_sqlName, ih]
    rfl

lemma infoOf_all (row : Row) : infoOf (Column.all.map row) = some row := by
  have hrow : infoOf (Column.all.map row) = some fun
      | .name => row .name
      | .state => row .state
      | .registrationDate => row .registrationDate
      | .expirationDate => row .expirationDate
      | .deleteDate => row .deleteDate
      | .follow => row .follow
      | .blacklist => row .blacklist := rfl
  rw [hrow]
  congr 1
  funext c
  cases c <;> rfl

lemma names_of_columns (columns : List Column) :
    ∀ n ∈ columns.map Column.sqlName, Sql.isIdent n = true := by
  intro n hn
  obtain ⟨c, -, rfl⟩ := List.mem_map.mp hn
  cases c <;> decide

lemma conds_of_name {name : Py2Value} (h : name.PlainString) :
    ∀ e ∈ [("name".toList, Literal.string name.text)], Sql.isIdent e.1 = true ∧ e.2.Plain := by
  intro e he
  obtain rfl := List.mem_singleton.mp he
  exact ⟨(by decide : Sql.isIdent "name".toList = true), h.quote⟩

/-- `get_one_yuming_info` on a plain name. -/
lemma getOneYumingInfo_eq {name : Py2Value} (h : name.PlainString) :
    getOneYumingInfo number rows name = if '\x00' ∈ name.text then none
      else (rows.filter fun r => r .name = .text name.text).getLast? := by
  have hsql : selectSql name = some ("SELECT ".toList
      ++ (Sql.printNames (Column.all.map Column.sqlName) ++ (" FROM ".toList ++ ("yuming".toList
        ++ (" WHERE ".toList ++ (Sql.printConjunction [("name".toList, .string name.text)]
          ++ ";".toList)))))) := by
    have hequation : Sql.printConjunction [("name".toList, .string name.text)] ++ ";".toList
        = "name='".toList ++ (name.text ++ "';".toList) := by
      simp [Sql.printConjunction, Sql.printList, Sql.printEquation, Literal.print]
    rw [selectSql, h.format, hequation, printNames_all]
    rfl
  have hread := Sql.readStatement_select (names_of_columns Column.all) (by decide)
    (by decide : Sql.isIdent "yuming".toList = true) (conds_of_name h) (List.cons_ne_nil _ _)
  have hnull : '\x00' ∈ "SELECT ".toList ++ (Sql.printNames (Column.all.map Column.sqlName)
      ++ (" FROM ".toList ++ ("yuming".toList ++ (" WHERE ".toList
        ++ (Sql.printConjunction [("name".toList, .string name.text)] ++ ";".toList))))) ↔
      '\x00' ∈ name.text := by
    rw [printNames_all]
    simp [Sql.printConjunction, Sql.printList, Sql.printEquation, null_mem_print]
  have hrun : run number (.select (Column.all.map Column.sqlName) "yuming".toList
      [("name".toList, .string name.text)]) rows = some (rows,
        (rows.filter fun r => r .name = .text name.text).map fun r => Column.all.map r) := by
    have hconds : resolve [("name".toList, .string name.text)]
        = some [(.name, .string name.text)] := rfl
    have hmeets : meets number [(.name, .string name.text)]
        = fun r => decide (r .name = .text name.text) := by
      funext r
      exact Bool.and_true _
    simp only [run, resolveColumns_sqlName, hconds, hmeets, Option.bind_eq_bind, Option.bind_some]
    rfl
  simp only [getOneYumingInfo, hsql, execute, hnull, hread, Option.bind_eq_bind, Option.bind_some,
    hrun]
  split_ifs with hmem
  · rfl
  · rw [Option.bind_some, List.getLast?_map]
    cases (rows.filter fun r => r .name = .text name.text).getLast? with
    | none => rfl
    | some r => exact infoOf_all r

/-- Without assignments there is no statement: `WHERE` would be a column. -/
lemma readStatement_noSets (text : List Char) :
    Sql.readStatement ("UPDATE ".toList ++ ("yuming".toList ++ (" SET ".toList
      ++ ([] ++ (" WHERE name".toList ++ text))))) = none := rfl

lemma meets_name (name : Py2Value) :
    meets number (Values.literals [(.name, name)])
      = fun r => decide (r .name = .text name.text) := by
  funext r
  exact Bool.and_true _

lemma assign_key (hkey : ∀ v ∈ values, v.1 ≠ .name) (row : Row) :
    assign number values.literals row .name = row .name := by
  have hfind : values.literals.reverse.find? (fun v => v.1 = .name) = none := by
    rw [List.find?_eq_none]
    intro v hv
    rw [List.mem_reverse] at hv
    obtain ⟨w, hw, rfl⟩ := List.mem_map.mp hv
    simpa using hkey w hw
  rw [assign, hfind]

lemma plain_name {name : Py2Value} (hname : name.PlainString) :
    Values.Plain [(.name, name)] := by
  intro v hv
  obtain rfl := List.mem_singleton.mp hv
  exact hname

lemma dbUpdateCommon_nil {name : Py2Value} (hname : name.PlainString) :
    dbUpdateCommon number rows [] [pairOf .name name] = rows := by
  have hformats : sqlitePy.Formats ([] : List (Pair Py2Value)) := fun p hp => nomatch hp
  have hsql := updateSql_eq hformats (formats_of_safe (plain_name hname).safe) "yuming".toList
  have hconds : Sql.printConjunction ((Values.pairs [(.name, name)]).map (equationOf sqlitePy))
      = "name".toList ++ ('=' :: (sqlitePy.literal name).print ++ []) := rfl
  rw [hconds, List.append_assoc] at hsql
  have hexecute : ∀ sql, updateSql sqlitePy "yuming".toList [] [pairOf .name name] = some sql →
      execute number sql rows = none := by
    intro sql hsql'
    obtain rfl := Option.some.inj (hsql.symm.trans hsql')
    rw [execute]
    split_ifs with hmem
    · rfl
    · exact congrArg (·.bind fun statement => run number statement rows)
        (readStatement_noSets _)
  rw [dbUpdateCommon, commit.eq_def]
  split
  · rfl
  · rename_i sql hsql'
    rw [hexecute sql hsql']

/-- The statement has a null character exactly if one of its values has. -/
lemma null_mem_update (h : values.Plain) {name : Py2Value} (hname : name.PlainString) :
    '\x00' ∈ "UPDATE ".toList ++ ("yuming".toList ++ (" SET ".toList
      ++ (Sql.printAssignments (values.pairs.map (equationOf sqlitePy)) ++ (" WHERE ".toList
        ++ (Sql.printConjunction ([pairOf .name name].map (equationOf sqlitePy))
          ++ ";".toList))))) ↔ values.HasNull ∨ '\x00' ∈ name.text := by
  have hsets : '\x00' ∈ Sql.printAssignments (values.pairs.map (equationOf sqlitePy)) ↔
      values.HasNull := null_mem_equations h (by decide : '\x00' ∉ ",".toList)
  have hconds : '\x00' ∈ Sql.printConjunction ([pairOf .name name].map (equationOf sqlitePy)) ↔
      Values.HasNull [(.name, name)] :=
    null_mem_equations (plain_name hname) (by decide : '\x00' ∉ " and ".toList)
  have hname' : Values.HasNull [(.name, name)] ↔ '\x00' ∈ name.text := by
    simp [Values.HasNull]
  have hword : '\x00' ∉ "UPDATE ".toList ∧ '\x00' ∉ "yuming".toList ∧ '\x00' ∉ " SET ".toList ∧
      '\x00' ∉ " WHERE ".toList ∧ '\x00' ∉ ";".toList := by decide
  simp only [List.mem_append, hsets, hconds, hname', hword, false_or, or_false]

/-- An update of the row of a name keeps the names. -/
lemma run_update (h : values.Plain) {name : Py2Value} (hname : name.PlainString)
    (hkey : ∀ v ∈ values, v.1 ≠ .name) (hnodup : (rows.map fun r => r .name).Nodup) :
    run number (.update "yuming".toList (values.pairs.map (equationOf sqlitePy))
      ([pairOf .name name].map (equationOf sqlitePy))) rows = some (rows.map fun r =>
        if r .name = .text name.text then assign number values.literals r else r, []) := by
  have hpairs : Values.pairs [(.name, name)] = [pairOf .name name] := rfl
  have hnames : (rows.map fun r => if r .name = .text name.text
      then assign number values.literals r else r).map (fun r => r .name)
        = rows.map fun r => r .name := by
    rw [List.map_map]
    refine List.map_congr_left fun r _ => ?_
    rw [Function.comp_apply]
    split_ifs
    · exact assign_key number hkey r
    · rfl
  simp only [run, h.resolve, ← hpairs, (plain_name hname).resolve, meets_name, decide_eq_true_eq,
    hnames, hnodup, if_true, Option.bind_eq_bind, Option.bind_some]
  rfl

/-- `db_update_common` on plain values, for the row of a name. -/
lemma dbUpdateCommon_eq (h : values.Plain) {name : Py2Value} (hname : name.PlainString)
    (hkey : ∀ v ∈ values, v.1 ≠ .name) (hnodup : (rows.map fun r => r .name).Nodup) :
    dbUpdateCommon number rows values.pairs [pairOf .name name] =
      if values.HasNull ∨ '\x00' ∈ name.text then rows
      else rows.map fun r =>
        if r .name = .text name.text then assign number values.literals r else r := by
  rcases eq_or_ne values [] with rfl | hne
  · have hassign : (rows.map fun r => if r .name = .text name.text
        then assign number (Values.literals []) r else r) = rows := by
      refine (List.map_congr_left fun r _ => ?_).trans (List.map_id rows)
      exact ite_self r
    rw [hassign, ite_self]
    exact dbUpdateCommon_nil number rows hname
  · have hplain := (plain_name hname).safe
    have hsql := updateSql_eq (formats_of_safe h.safe) (formats_of_safe hplain) "yuming".toList
    obtain ⟨sql, hsql', hread⟩ := updateSql_of_safe h.safe (pairs_ne_nil hne)
      (by decide : Sql.isIdent "yuming".toList = true) hplain (List.cons_ne_nil _ _)
    obtain rfl := Option.some.inj (hsql.symm.trans hsql')
    have hpairs : Values.pairs [(.name, name)] = [pairOf .name name] := rfl
    rw [hpairs] at hsql hread
    simp only [dbUpdateCommon, commit, hsql, execute, null_mem_update h hname, hread,
      run_update number rows h hname hkey hnodup, Option.bind_eq_bind, Option.bind_some]
    split_ifs <;> rfl

end Methods

/-! ## What an insert and an update write -/

namespace Info

variable (info : Info) (columns : List Column)

/-- The text that is given for a column. -/
def text (c : Column) : Option (List Char) := (info.value c).map Py2Value.text

/-- The values that are given are plain strings. -/
def Plain : Prop := ∀ c, ∀ v ∈ info.value c, v.PlainString

/-- The given ones of some columns, with their columns. -/
def values : Values := columns.filterMap fun c => (info.value c).map fun v => (c, v)

/-- The given text of one of the columns. -/
def textIn (c : Column) : Option (List Char) := if c ∈ columns then info.text c else none

variable {info columns}

lemma pairs_eq : info.pairs columns = (info.values columns).pairs := by
  rw [pairs, values, Values.pairs, List.map_filterMap]
  refine congrFun (congrArg _ (funext fun c => ?_)) columns
  rw [Option.map_map]
  rfl

lemma mem_values {c : Column} {v : Py2Value} :
    (c, v) ∈ info.values columns ↔ c ∈ columns ∧ info.value c = some v := by
  rw [values, List.mem_filterMap]
  constructor
  · rintro ⟨c', hc', hv⟩
    obtain ⟨v', hv', heq⟩ := Option.map_eq_some_iff.mp hv
    obtain ⟨rfl, rfl⟩ := Prod.mk.inj heq
    exact ⟨hc', hv'⟩
  · rintro ⟨hc, hv⟩
    exact ⟨c, hc, by rw [hv]; rfl⟩

lemma mem_literals {c : Column} {l : Literal} :
    (c, l) ∈ (info.values columns).literals ↔ (info.textIn columns c).map .string = some l := by
  have hmem : (c, l) ∈ (info.values columns).literals ↔
      ∃ v, (c ∈ columns ∧ info.value c = some v) ∧ .string v.text = l := by
    simp only [Values.literals, List.mem_map, Prod.exists, Prod.mk.injEq, mem_values]
    exact ⟨fun ⟨c', v, h, hc, hl⟩ => ⟨v, hc ▸ h, hl⟩, fun ⟨v, h, hl⟩ => ⟨c, v, h, rfl, hl⟩⟩
  rw [hmem, textIn, text]
  split_ifs with hc
  · simp [hc]
  · simp [hc]

lemma Plain.values (h : info.Plain) : (info.values columns).Plain := fun v hv =>
  h v.1 v.2 (mem_values.mp hv).2

lemma hasNull_iff : (info.values columns).HasNull ↔
    ∃ c ∈ columns, ∃ s ∈ info.text c, '\x00' ∈ s := by
  constructor
  · rintro ⟨⟨c, v⟩, hv, hnull⟩
    obtain ⟨hc, hv⟩ := mem_values.mp hv
    refine ⟨c, hc, v.text, ?_, hnull⟩
    rw [text, hv]
    rfl
  · rintro ⟨c, hc, s, hs, hnull⟩
    obtain ⟨v, hv, rfl⟩ := Option.map_eq_some_iff.mp hs
    exact ⟨(c, v), mem_values.mpr ⟨hc, hv⟩, hnull⟩

end Info

/-- The first literal of a column, in a list that is the graph of a function. -/
lemma find?_literal {values : List (Column × Literal)} {f : Column → Option Literal}
    (h : ∀ c l, (c, l) ∈ values ↔ f c = some l) (c : Column) :
    values.find? (fun v => v.1 = c) = (f c).map fun l => (c, l) := by
  cases hfind : values.find? (fun v => v.1 = c) with
  | none =>
    cases hf : f c with
    | none => rfl
    | some l =>
      have hne := List.find?_eq_none.mp hfind (c, l) ((h c l).mpr hf)
      exact absurd (decide_eq_true rfl) hne
  | some v =>
    have hv : v.1 = c := by simpa using List.find?_some hfind
    have hmem : (c, v.2) ∈ values := hv ▸ List.mem_of_find?_eq_some hfind
    rw [(h c v.2).mp hmem, Option.map_some, ← hv]

section Written

variable (number : List Char → Number) (info : Info) (columns : List Column)

/-- A row with the given texts in their columns. -/
def overwrite (text : Column → Option (List Char)) (row : Row) : Row := fun c =>
  (text c).elim (row c) .text

/-- A row with the given texts in their columns, as far as affinity lets them. -/
def overstore (text : Column → Option (List Char)) (row : Row) : Row := fun c =>
  (text c).elim (row c) fun s => store number c (.string s)

lemma newRow_values : newRow number (info.values columns).literals
    = overstore number (info.textIn columns) defaultValue := by
  funext c
  rw [newRow, find?_literal (fun _ _ => Info.mem_literals), overstore]
  cases info.textIn columns c <;> rfl

lemma assign_values (row : Row) : assign number (info.values columns).literals row
    = overstore number (info.textIn columns) row := by
  have hgraph : ∀ c l, (c, l) ∈ (info.values columns).literals.reverse ↔
      (info.textIn columns c).map .string = some l := by
    intro c l
    rw [List.mem_reverse, Info.mem_literals]
  funext c
  rw [assign, find?_literal hgraph, overstore]
  cases info.textIn columns c <;> rfl

end Written

/-- What a column can hold: affinity leaves no number in a text column and no numeral in a date. -/
def Column.Holds (c : Column) : Value → Prop
  | .null => True
  | .number _ => c.isDate = true
  | .text s => (c.isDate && isNumeric s) = false

/-- The rows of a table, with its primary key and the affinities of its columns. -/
structure Table where
  rows : List Row
  names_nodup : (rows.map fun r => r .name).Nodup
  name_ne_null : ∀ r ∈ rows, r .name ≠ .null
  holds : ∀ r ∈ rows, ∀ c : Column, c.Holds (r c)

/-- The table has a row of this name. -/
def Named (rows : List Row) (name : List Char) : Prop := ∃ r ∈ rows, r .name = .text name

instance (rows : List Row) (name : List Char) : Decidable (Named rows name) :=
  inferInstanceAs (Decidable (∃ r ∈ rows, _))

/-! ### SQLite keeps the table -/

section Keeps

variable (number : List Char → Number)

lemma store_ne_null (c : Column) (l : Literal) : store number c l ≠ .null := by
  cases l with
  | integer z => simp only [store]; split <;> exact nofun
  | string s => simp only [store]; split <;> exact nofun

lemma holds_store (c : Column) (l : Literal) : c.Holds (store number c l) := by
  cases l with
  | integer z =>
    rw [store]
    split_ifs with hdate
    · exact hdate
    · simp [Column.Holds, hdate]
  | string s =>
    rw [store]
    split_ifs with hnumeric
    · exact (Bool.and_eq_true_iff.mp hnumeric).1
    · exact Bool.eq_false_of_not_eq_true hnumeric

lemma holds_defaultValue (c : Column) : c.Holds (defaultValue c) := by
  cases c <;> trivial

lemma holds_newRow (values : List (Column × Literal)) (c : Column) :
    c.Holds (newRow number values c) := by
  rw [newRow]
  split
  · exact holds_store number c _
  · exact holds_defaultValue c

lemma holds_assign (sets : List (Column × Literal)) {row : Row}
    (h : ∀ c : Column, c.Holds (row c)) (c : Column) : c.Holds (assign number sets row c) := by
  rw [assign]
  split
  · exact holds_store number c _
  · exact h c

lemma assign_name_ne_null (sets : List (Column × Literal)) {row : Row}
    (h : row .name ≠ .null) : assign number sets row .name ≠ .null := by
  rw [assign]
  split
  · exact store_ne_null number .name _
  · exact h

/-- The names stay different when a new one is added. -/
lemma nodup_append_row {rows : List Row} {row : Row} (hnodup : (rows.map fun r => r .name).Nodup)
    (hnew : ∀ r ∈ rows, r .name ≠ row .name) : ((rows ++ [row]).map fun r => r .name).Nodup := by
  rw [List.map_append, List.map_singleton, List.nodup_append]
  refine ⟨hnodup, by simp, ?_⟩
  rintro v hv v' hv' rfl
  obtain ⟨r, hr, rfl⟩ := List.mem_map.mp hv
  exact hnew r hr (List.mem_singleton.mp hv')

/-- A table with one more row. -/
lemma Table.exists_append (table : Table) {row : Row} (hnull : row .name ≠ .null)
    (hnew : ∀ r ∈ table.rows, r .name ≠ row .name) (hholds : ∀ c : Column, c.Holds (row c)) :
    ∃ table' : Table, table'.rows = table.rows ++ [row] := by
  refine ⟨⟨_, nodup_append_row table.names_nodup hnew, ?_, ?_⟩, rfl⟩
  · intro r hr
    rcases List.mem_append.mp hr with hr | hr
    · exact table.name_ne_null r hr
    · exact List.mem_singleton.mp hr ▸ hnull
  · intro r hr
    rcases List.mem_append.mp hr with hr | hr
    · exact table.holds r hr
    · exact List.mem_singleton.mp hr ▸ hholds

/-- A table with some of its rows assigned to. -/
lemma Table.exists_assign (table : Table) (p : Row → Bool) (sets : List (Column × Literal))
    (hnodup : ((table.rows.map fun r => if p r then assign number sets r else r).map
      fun r => r .name).Nodup) :
    ∃ table' : Table, table'.rows
      = table.rows.map fun r => if p r then assign number sets r else r := by
  refine ⟨⟨_, hnodup, ?_, ?_⟩, rfl⟩
  · intro r hr
    obtain ⟨r', hr', rfl⟩ := List.mem_map.mp hr
    split_ifs
    · exact assign_name_ne_null number sets (table.name_ne_null r' hr')
    · exact table.name_ne_null r' hr'
  · intro r hr
    obtain ⟨r', hr', rfl⟩ := List.mem_map.mp hr
    split_ifs
    · exact holds_assign number sets (table.holds r' hr')
    · exact table.holds r' hr'

/-- A table with some of its rows. -/
lemma Table.exists_filter (table : Table) (p : Row → Bool) :
    ∃ table' : Table, table'.rows = table.rows.filter p := by
  refine ⟨⟨_, table.names_nodup.sublist (List.filter_sublist.map _), ?_, ?_⟩, rfl⟩
  · exact fun r hr => table.name_ne_null r (List.mem_of_mem_filter hr)
  · exact fun r hr => table.holds r (List.mem_of_mem_filter hr)

/-- A statement that does not fail leaves a table. -/
lemma run_table (table : Table) {statement : Statement} {rows : List Row}
    {out : List (List Value)} (h : run number statement table.rows = some (rows, out)) :
    ∃ table' : Table, table'.rows = rows := by
  cases statement with
  | insert name columns values =>
    simp only [run] at h
    split_ifs at h with hshape
    obtain ⟨values', -, h⟩ := Option.bind_eq_some_iff.mp h
    split_ifs at h with hkey
    obtain ⟨rfl, -⟩ := Prod.mk.inj (Option.some.inj h)
    obtain ⟨hnull, hnew⟩ := not_or.mp hkey
    refine table.exists_append hnull (fun r hr heq => hnew ?_) (holds_newRow number values')
    exact List.any_eq_true.mpr ⟨r, hr, decide_eq_true heq⟩
  | update name sets conds =>
    simp only [run] at h
    split_ifs at h with hshape
    obtain ⟨sets', -, h⟩ := Option.bind_eq_some_iff.mp h
    obtain ⟨conds', -, h⟩ := Option.bind_eq_some_iff.mp h
    split_ifs at h with hkey
    obtain ⟨rfl, -⟩ := Prod.mk.inj (Option.some.inj h)
    exact table.exists_assign number _ sets' hkey
  | delete name conds =>
    simp only [run] at h
    split_ifs at h with hshape
    obtain ⟨conds', -, h⟩ := Option.bind_eq_some_iff.mp h
    obtain ⟨rfl, -⟩ := Prod.mk.inj (Option.some.inj h)
    exact table.exists_filter _
  | select columns name conds =>
    simp only [run] at h
    split_ifs at h with hshape
    obtain ⟨columns', -, h⟩ := Option.bind_eq_some_iff.mp h
    obtain ⟨conds', -, h⟩ := Option.bind_eq_some_iff.mp h
    obtain ⟨rfl, -⟩ := Prod.mk.inj (Option.some.inj h)
    exact ⟨table, rfl⟩
  | page columns name offset count =>
    cases offset with
    | string s => cases h
    | integer offset =>
      cases count with
      | string s => cases h
      | integer count =>
        simp only [run] at h
        split_ifs at h with hshape
        obtain ⟨columns', -, h⟩ := Option.bind_eq_some_iff.mp h
        obtain ⟨rfl, -⟩ := Prod.mk.inj (Option.some.inj h)
        exact ⟨table, rfl⟩

/-- So does whatever a method commits. -/
lemma commit_table (table : Table) (sql : Option (List Char)) :
    ∃ table' : Table, table'.rows = commit number table.rows sql := by
  rw [commit.eq_def]
  split
  · exact ⟨table, rfl⟩
  · split
    · exact ⟨table, rfl⟩
    · rename_i rows out hexecute
      rw [execute] at hexecute
      split_ifs at hexecute
      obtain ⟨statement, -, hrun⟩ := Option.bind_eq_some_iff.mp hexecute
      exact run_table number table hrun

end Keeps

section Rows

variable (number : List Char → Number) (rows : List Row) {info : Info}

lemma any_eq_iff_named (name : List Char) :
    rows.any (fun r => r .name = .text name) = true ↔ Named rows name := by
  simp [Named]

lemma values_name_cons (info : Info) (columns : List Column) :
    info.values (.name :: columns) = (.name, info.name) :: info.values columns := by
  rw [Info.values, Info.values, List.filterMap_cons, info.value_name]
  rfl

lemma overstore_name (columns : List Column) (row : Row) :
    overstore number (info.textIn (.name :: columns)) row .name = .text info.name.text := by
  rw [overstore, Info.textIn, if_pos List.mem_cons_self, Info.text, info.value_name]
  rfl

/-- `insert_one_yuming_info` on plain values. -/
lemma insertOneYumingInfo_eq (h : info.Plain) :
    (insertOneYumingInfo number rows info).2 =
      if (info.values (.name :: insertColumns)).HasNull ∨ Named rows info.name.text then rows
      else rows ++ [overstore number (info.textIn (.name :: insertColumns)) defaultValue] := by
  have hvalues := values_name_cons info insertColumns
  have hpairs : pairOf .name info.name :: info.pairs insertColumns
      = (info.values (.name :: insertColumns)).pairs := by
    rw [hvalues, Info.pairs_eq]
    rfl
  have hne : info.values (.name :: insertColumns) ≠ [] := by
    rw [hvalues]
    exact List.cons_ne_nil _ _
  have hnull : ¬ Value.text info.name.text = .null := nofun
  rw [insertOneYumingInfo, hpairs, dbInsertCommon_eq number rows h.values hne, newRow_values,
    overstore_name]
  simp only [hnull, false_or, any_eq_iff_named]

lemma hasNull_cons {c : Column} {v : Py2Value} {values : Values} :
    Values.HasNull ((c, v) :: values) ↔ '\x00' ∈ v.text ∨ values.HasNull := by
  simp [Values.HasNull]

/-- `update_yuming_info` on plain values. -/
lemma updateYumingInfo_eq (h : info.Plain) (hnodup : (rows.map fun r => r .name).Nodup) :
    (updateYumingInfo number rows info).2 =
      if (info.values (.name :: updateColumns)).HasNull then rows
      else rows.map fun r => if r .name = .text info.name.text
        then overstore number (info.textIn updateColumns) r else r := by
  have hname : info.name.PlainString := h .name info.name info.value_name
  have hkey : ∀ v ∈ info.values updateColumns, v.1 ≠ .name := by
    intro v hv hv'
    exact absurd (hv' ▸ (Info.mem_values.mp hv).1) (by decide)
  rw [updateYumingInfo, Info.pairs_eq, dbUpdateCommon_eq number rows h.values hname hkey hnodup]
  simp only [values_name_cons, hasNull_cons, or_comm, assign_values]

lemma filter_of_not_named {name : List Char} (hnew : ¬ Named rows name) :
    (rows.filter fun r => r .name = .text name) = [] := by
  rw [List.filter_eq_nil_iff]
  intro r hr heq
  exact hnew ⟨r, hr, of_decide_eq_true heq⟩

/-- A table whose last row is the one of the name. -/
structure LastNamed (name : List Char) (row : Row) : Prop where
  new : ¬ Named rows name
  row_name : row .name = .text name

namespace LastNamed

variable {rows} {name : List Char} {row : Row} (h : LastNamed rows name row)
include h

lemma filter : ((rows ++ [row]).filter fun r => r .name = .text name) = [row] := by
  rw [List.filter_append, filter_of_not_named rows h.new, List.nil_append,
    List.filter_cons_of_pos (by simpa using h.row_name), List.filter_nil]

lemma filter_ne : ((rows ++ [row]).filter fun r => r .name ≠ .text name) = rows := by
  have hrows : (rows.filter fun r => r .name ≠ .text name) = rows := by
    rw [List.filter_eq_self]
    intro r hr
    exact decide_eq_true fun heq => h.new ⟨r, hr, heq⟩
  rw [List.filter_append, hrows, List.filter_cons_of_neg (by simpa using h.row_name),
    List.filter_nil, List.append_nil]

lemma map (f : Row → Row) : ((rows ++ [row]).map fun r => if r .name = .text name then f r else r)
    = rows ++ [f row] := by
  have hrows : (rows.map fun r => if r .name = .text name then f r else r) = rows := by
    refine (List.map_congr_left fun r hr => ?_).trans (List.map_id rows)
    exact if_neg fun heq => h.new ⟨r, hr, heq⟩
  rw [List.map_append, hrows, List.map_singleton, if_pos h.row_name]

lemma nodup (hnodup : (rows.map fun r => r .name).Nodup) :
    ((rows ++ [row]).map fun r => r .name).Nodup := by
  refine nodup_append_row hnodup fun r hr heq => ?_
  exact h.new ⟨r, hr, heq.trans h.row_name⟩

end LastNamed

/-- What is read after an insert. -/
lemma getOneYumingInfo_insert (h : info.Plain) (hnew : ¬ Named rows info.name.text) :
    getOneYumingInfo number (insertOneYumingInfo number rows info).2 info.name =
      if (info.values (.name :: insertColumns)).HasNull then none
      else some (overstore number (info.textIn (.name :: insertColumns)) defaultValue) := by
  have hname : info.name.PlainString := h .name info.name info.value_name
  have hlast : LastNamed rows info.name.text
      (overstore number (info.textIn (.name :: insertColumns)) defaultValue) :=
    ⟨hnew, overstore_name number _ _⟩
  rw [insertOneYumingInfo_eq number rows h, getOneYumingInfo_eq number _ hname]
  simp only [hnew, or_false]
  split_ifs with hmem hnull hnull
  · rfl
  · exact absurd (hasNull_cons.mpr (.inl hmem)) (values_name_cons info insertColumns ▸ hnull)
  · rw [filter_of_not_named rows hnew]
    rfl
  · rw [hlast.filter]
    rfl

/-- What an update makes of the row it is for. -/
def updatedRow (info : Info) (row : Row) : Row :=
  if (info.values (.name :: updateColumns)).HasNull then row
  else overstore number (info.textIn updateColumns) row

/-- The table after an update of the last row. -/
lemma updateYumingInfo_last {row : Row} (hlast : LastNamed rows info.name.text row)
    (hnodup : (rows.map fun r => r .name).Nodup) (h : info.Plain) :
    (updateYumingInfo number (rows ++ [row]) info).2 = rows ++ [updatedRow number info row] := by
  rw [updateYumingInfo_eq number _ h (hlast.nodup hnodup), hlast.map, updatedRow]
  split_ifs <;> rfl

lemma LastNamed.updatedRow {rows : List Row} {name : List Char} {row : Row}
    (hlast : LastNamed rows name row) (info : Info) :
    LastNamed rows name (updatedRow number info row) := by
  refine ⟨hlast.new, ?_⟩
  rw [Yuming.updatedRow]
  split_ifs
  · exact hlast.row_name
  · exact hlast.row_name

end Rows

/-- The stored texts are the given ones if affinity converts none of them, and the row has those of
the columns that are left out. -/
lemma overstore_eq_overwrite_iff {number : List Char → Number} {info : Info}
    {columns : List Column} {row : Row} :
    overstore number (info.textIn columns) row = overwrite info.text row ↔
      (∀ c ∉ columns, ∀ s ∈ info.text c, row c = .text s) ∧
      ∀ c ∈ columns, c.isDate = true → ∀ s ∈ info.text c, isNumeric s = false := by
  have hcolumn : ∀ c, overstore number (info.textIn columns) row c = overwrite info.text row c ↔
      ∀ s ∈ info.text c, if c ∈ columns then store number c (.string s) = .text s
        else row c = .text s := by
    intro c
    rw [overstore, overwrite, Info.textIn]
    cases htext : info.text c with
    | none => simp
    | some s => split_ifs <;> simp
  have hstore : ∀ c s, store number c (.string s) = .text s ↔
      (c.isDate = true → isNumeric s = false) := by
    intro c s
    rw [store]
    cases c.isDate <;> cases isNumeric s <;> simp
  rw [funext_iff]
  simp only [hcolumn, hstore]
  constructor
  · intro h
    refine ⟨fun c hc s hs => ?_, fun c hc hdate s hs => ?_⟩
    · simpa only [if_neg hc] using h c s hs
    · have hnumeric := h c s hs
      rw [if_pos hc] at hnumeric
      exact hnumeric hdate
  · rintro ⟨hleft, hdates⟩ c s hs
    split_ifs with hc
    · exact fun hdate => hdates c hc hdate s hs
    · exact hleft c hc s hs

/-! ## Reading back -/

section ReadsBack

variable (number : List Char → Number)

/-- What is inserted is what is read back, an update changes the columns it is given, and neither
touches another row. -/
structure ReadsBack (rows : List Row) (info upd : Info) : Prop where
  inserted : getOneYumingInfo number (insertOneYumingInfo number rows info).2 info.name
    = some (overwrite info.text defaultValue)
  others_inserted : ((insertOneYumingInfo number rows info).2.filter
    fun r => r .name ≠ .text info.name.text) = rows
  updated : getOneYumingInfo number
      (updateYumingInfo number (insertOneYumingInfo number rows info).2 upd).2 info.name
    = (getOneYumingInfo number (insertOneYumingInfo number rows info).2 info.name).map
      (overwrite upd.text)
  others_updated : ((updateYumingInfo number (insertOneYumingInfo number rows info).2 upd).2.filter
    fun r => r .name ≠ .text info.name.text) = rows

/-- What the columns keep: the flags, which an insert leaves out, are given to it as their defaults
only, no date is a number, and no text has a null character. -/
structure Kept (info upd : Info) : Prop where
  follow : ∀ s ∈ info.text .follow, s = "no".toList
  blacklist : ∀ s ∈ info.text .blacklist, s = "no".toList
  dates : ∀ c, c.isDate = true →
    (∀ s ∈ info.text c, isNumeric s = false) ∧ ∀ s ∈ upd.text c, isNumeric s = false
  noNull : ∀ c, (∀ s ∈ info.text c, '\x00' ∉ s) ∧ ∀ s ∈ upd.text c, '\x00' ∉ s

variable {rows : List Row} {info upd : Info}

lemma defaultValue_noNull {c : Column} {s : List Char} (h : defaultValue c = .text s) :
    '\x00' ∉ s := by
  cases c <;> cases h <;> decide

/-- An insert is read back exactly if its part of `Kept` holds. -/
lemma inserted_iff (h : info.Plain) (hnew : ¬ Named rows info.name.text) :
    getOneYumingInfo number (insertOneYumingInfo number rows info).2 info.name
        = some (overwrite info.text defaultValue) ↔
      (∀ s ∈ info.text .follow, s = "no".toList) ∧ (∀ s ∈ info.text .blacklist, s = "no".toList) ∧
      (∀ c, c.isDate = true → ∀ s ∈ info.text c, isNumeric s = false) ∧
      ∀ c, ∀ s ∈ info.text c, '\x00' ∉ s := by
  have hcolumns : ∀ c, c ∉ Column.name :: insertColumns ↔ c = .follow ∨ c = .blacklist := by
    intro c
    cases c <;> decide
  rw [getOneYumingInfo_insert number rows h hnew]
  constructor
  · intro hread
    split_ifs at hread with hnull
    have hrow := Option.some.inj hread
    rw [overstore_eq_overwrite_iff] at hrow
    obtain ⟨hleft, hdates⟩ := hrow
    have hflag : ∀ c, c = .follow ∨ c = .blacklist → ∀ s ∈ info.text c, s = "no".toList := by
      intro c hc s hs
      have hdefault := hleft c ((hcolumns c).mpr hc) s hs
      rcases hc with rfl | rfl
      · exact (Value.text.inj hdefault).symm
      · exact (Value.text.inj hdefault).symm
    refine ⟨hflag .follow (.inl rfl), hflag .blacklist (.inr rfl), fun c hdate => ?_,
      fun c s hs hmem => ?_⟩
    · refine hdates c (by_contra fun hc => ?_) hdate
      rcases (hcolumns c).mp hc with rfl | rfl
      · cases hdate
      · cases hdate
    · by_cases hc : c ∈ Column.name :: insertColumns
      · exact hnull (Info.hasNull_iff.mpr ⟨c, hc, s, hs, hmem⟩)
      · rw [hflag c ((hcolumns c).mp hc) s hs] at hmem
        exact absurd hmem (by decide)
  · rintro ⟨hfollow, hblacklist, hdates, hnoNull⟩
    have hnull : ¬ (info.values (.name :: insertColumns)).HasNull := by
      rw [Info.hasNull_iff]
      rintro ⟨c, -, s, hs, hmem⟩
      exact hnoNull c s hs hmem
    rw [if_neg hnull, overstore_eq_overwrite_iff.mpr ⟨fun c hc s hs => ?_, fun c _ => hdates c⟩]
    rcases (hcolumns c).mp hc with rfl | rfl
    · rw [hfollow s hs]
      rfl
    · rw [hblacklist s hs]
      rfl

/-- The table after an insert that is read back. -/
lemma insertOneYumingInfo_of_inserted (h : info.Plain) (hnew : ¬ Named rows info.name.text)
    (hinserted : getOneYumingInfo number (insertOneYumingInfo number rows info).2 info.name
      = some (overwrite info.text defaultValue)) :
    (insertOneYumingInfo number rows info).2 = rows ++ [overwrite info.text defaultValue] := by
  rw [getOneYumingInfo_insert number rows h hnew] at hinserted
  split_ifs at hinserted with hnull
  rw [insertOneYumingInfo_eq number rows h, if_neg (not_or_intro hnull hnew),
    Option.some.inj hinserted]

/-- An update is read back exactly if its part of `Kept` holds. -/
lemma updated_iff {name : Py2Value} {row : Row} (hlast : LastNamed rows upd.name.text row)
    (hnodup : (rows.map fun r => r .name).Nodup) (hupd : upd.Plain) (hplain : name.PlainString)
    (hname : upd.name.text = name.text) (hrow : ∀ c s, row c = .text s → '\x00' ∉ s) :
    getOneYumingInfo number (updateYumingInfo number (rows ++ [row]) upd).2 name
        = some (overwrite upd.text row) ↔
      (∀ c, c.isDate = true → ∀ s ∈ upd.text c, isNumeric s = false) ∧
      ∀ c, ∀ s ∈ upd.text c, '\x00' ∉ s := by
  have hnull : '\x00' ∉ name.text := by
    have hrow_name := hrow .name name.text
    rw [hlast.row_name, hname] at hrow_name
    exact hrow_name rfl
  have hcolumns : ∀ c, c ∉ updateColumns ↔ c = .name := by
    intro c
    cases c <;> decide
  have hall : ∀ c, c ∈ Column.name :: updateColumns := by
    intro c
    cases c <;> decide
  have hread : getOneYumingInfo number (updateYumingInfo number (rows ++ [row]) upd).2 name
      = some (updatedRow number upd row) := by
    rw [updateYumingInfo_last number rows hlast hnodup hupd, getOneYumingInfo_eq number _ hplain,
      if_neg hnull, ← hname, (hlast.updatedRow number upd).filter]
    rfl
  rw [hread, Option.some.injEq, updatedRow]
  constructor
  · intro hupdated
    split_ifs at hupdated with hhas
    · -- a text with a null character is not in the row, so that it was not written
      obtain ⟨c, -, s, hs, hmem⟩ := Info.hasNull_iff.mp hhas
      have hc : row c = .text s := by
        rw [hupdated, overwrite, Option.mem_def.mp hs]
        rfl
      exact absurd hmem (hrow c s hc)
    · obtain ⟨-, hdates⟩ := overstore_eq_overwrite_iff.mp hupdated
      refine ⟨fun c hc => hdates c (by_contra fun hnot => ?_) hc, fun c s hs hmem => ?_⟩
      · rw [(hcolumns c).mp hnot] at hc
        cases hc
      · exact hhas (Info.hasNull_iff.mpr ⟨c, hall c, s, hs, hmem⟩)
  · rintro ⟨hdates, hnoNull⟩
    have hhas : ¬ (upd.values (.name :: updateColumns)).HasNull := by
      rw [Info.hasNull_iff]
      rintro ⟨c, -, s, hs, hmem⟩
      exact hnoNull c s hs hmem
    rw [if_neg hhas]
    refine overstore_eq_overwrite_iff.mpr ⟨fun c hc s hs => ?_, fun c _ => hdates c⟩
    obtain rfl := (hcolumns c).mp hc
    rw [Info.text, upd.value_name] at hs
    rw [hlast.row_name, ← Option.some.inj hs]

/-- What is inserted is read back, and a following update changes what it is given, if and only if
the columns keep it. -/
theorem readsBack_iff (table : Table) (h : info.Plain) (hupd : upd.Plain)
    (hname : upd.name.text = info.name.text) (hnew : ¬ Named table.rows info.name.text) :
    ReadsBack number table.rows info upd ↔ Kept info upd := by
  have hplain : info.name.PlainString := h .name info.name info.value_name
  have hlast : LastNamed table.rows upd.name.text (overwrite info.text defaultValue) := by
    refine ⟨hname ▸ hnew, ?_⟩
    rw [overwrite, Info.text, info.value_name, hname]
    rfl
  have hrow : (∀ c, ∀ s ∈ info.text c, '\x00' ∉ s) →
      ∀ c s, overwrite info.text defaultValue c = .text s → '\x00' ∉ s := by
    intro hnoNull c s hs
    rw [overwrite] at hs
    cases htext : info.text c with
    | none =>
      rw [htext] at hs
      exact defaultValue_noNull hs
    | some s' =>
      rw [htext] at hs
      obtain rfl := Value.text.inj hs
      exact hnoNull c s' htext
  constructor
  · intro hreads
    obtain ⟨hfollow, hblacklist, hdates, hnoNull⟩ := (inserted_iff number h hnew).mp hreads.inserted
    have hupdated := hreads.updated
    rw [hreads.inserted, Option.map_some,
      insertOneYumingInfo_of_inserted number h hnew hreads.inserted] at hupdated
    obtain ⟨hdates', hnoNull'⟩ := (updated_iff number hlast table.names_nodup hupd hplain hname
      (hrow hnoNull)).mp hupdated
    exact ⟨hfollow, hblacklist, fun c hc => ⟨hdates c hc, hdates' c hc⟩,
      fun c => ⟨hnoNull c, hnoNull' c⟩⟩
  · intro hkept
    have hinserted := (inserted_iff number h hnew).mpr ⟨hkept.follow, hkept.blacklist,
      fun c hc => (hkept.dates c hc).1, fun c => (hkept.noNull c).1⟩
    have hrows := insertOneYumingInfo_of_inserted number h hnew hinserted
    have hupdated := (updated_iff number hlast table.names_nodup hupd hplain hname
      (hrow fun c => (hkept.noNull c).1)).mpr
        ⟨fun c hc => (hkept.dates c hc).2, fun c => (hkept.noNull c).2⟩
    refine ⟨hinserted, ?_, ?_, ?_⟩
    · rw [hrows, ← hname, hlast.filter_ne]
    · rw [hinserted, hrows, hupdated]
      rfl
    · rw [hrows, updateYumingInfo_last number table.rows hlast table.names_nodup hupd, ← hname,
        (hlast.updatedRow number upd).filter_ne]

/-- The dictionary in the comment of `insert_one_yuming_info`, with a flag. -/
def baidu (follow : Option Py2Value) : Info where
  value
    | .name => some (.str "baidu.com".toList)
    | .state => some (.str "used".toList)
    | .registrationDate => some (.str "1999-10-11".toList)
    | .expirationDate => some (.str "2017-10-11".toList)
    | .deleteDate => some (.str "2017-12-25".toList)
    | .follow => follow
    | .blacklist => none
  name := .str "baidu.com".toList
  value_name := rfl

lemma baidu_plain {follow : Option Py2Value} (h : ∀ v ∈ follow, v.PlainString) :
    (baidu follow).Plain := by
  intro c v hv
  cases c with
  | follow => exact h v hv
  | blacklist => cases hv
  | _ =>
    obtain rfl := Option.some.inj hv
    decide

lemma plain_none : ∀ v ∈ (none : Option Py2Value), v.PlainString := by
  intro v hv
  cases hv

lemma plain_yes : ∀ v ∈ some (Py2Value.str "yes".toList), v.PlainString := by
  intro v hv
  obtain rfl := Option.some.inj hv
  decide

/-- A table without rows. -/
def Table.empty : Table := ⟨[], List.nodup_nil, nofun, nofun⟩

lemma not_named_empty (name : List Char) : ¬ Named Table.empty.rows name := by
  rintro ⟨r, hr, -⟩
  cases hr

/-- A row with a name and nothing else. -/
def domainRow (name : List Char) : Row
  | .name => .text name
  | c => defaultValue c

/-- The table of some names. -/
def domainTable (names : List (List Char)) (hnodup : names.Nodup) : Table where
  rows := names.map domainRow
  names_nodup := by
    rw [List.map_map]
    exact hnodup.map fun _ _ heq => Value.text.inj heq
  name_ne_null := by
    intro r hr
    obtain ⟨name, -, rfl⟩ := List.mem_map.mp hr
    exact nofun
  holds := by
    intro r hr c
    obtain ⟨name, -, rfl⟩ := List.mem_map.mp hr
    cases c <;> trivial

/-- A table with one row. -/
def appleTable : Table := domainTable ["apple.com".toList] (by decide)

lemma not_named_appleTable : ¬ Named appleTable.rows (baidu none).name.text := by
  rintro ⟨r, hr, hname⟩
  obtain rfl := List.mem_singleton.mp hr
  exact absurd (Value.text.inj hname) (by decide)

theorem readsBack_baidu : ReadsBack (fun _ => .integer 0) appleTable.rows (baidu none)
    (baidu (some (.str "yes".toList))) := by
  refine (readsBack_iff _ _ (baidu_plain plain_none) (baidu_plain plain_yes) rfl
    not_named_appleTable).mpr ⟨fun s hs => ?_, fun s hs => ?_,
      fun c hc => ⟨fun s hs => ?_, fun s hs => ?_⟩, fun c => ⟨fun s hs => ?_, fun s hs => ?_⟩⟩
  · cases hs
  · cases hs
  · cases c <;> cases hs <;> decide
  · cases c <;> cases hs <;> decide
  · cases c <;> cases hs <;> decide
  · cases c <;> cases hs <;> decide

/-- With the flag that `get_domain_name_info` gives it, an insert is not read back. -/
theorem readsBack_fails_follow : ¬ ∀ (number : List Char → Number) (table : Table)
    (info upd : Info), info.Plain → upd.Plain → upd.name.text = info.name.text →
      ¬ Named table.rows info.name.text → ReadsBack number table.rows info upd := by
  intro h
  have hplain := baidu_plain plain_yes
  have hnew := not_named_empty (baidu (some (.str "yes".toList))).name.text
  have hreads := h (fun _ => .integer 0) Table.empty _ _ hplain hplain rfl hnew
  have hfollow := ((inserted_iff _ hplain hnew).mp hreads.inserted).1 "yes".toList rfl
  exact absurd hfollow (by decide)

end ReadsBack

end SelfTestCode.Yuming
