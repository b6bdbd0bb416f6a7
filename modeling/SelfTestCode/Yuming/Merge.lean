import SelfTestCode.Framework.Transition
import SelfTestCode.Yuming.Store

/-!
# One database into another

`update_one_db_by_another` of `Sqlite.py` goes through the table of the other database in pages of
500 rows, looks each name up in the first one, and inserts what it does not find there.  The loop
has no bound of its own and is given one as fuel.

A lookup that fails and one that finds nothing look alike to it, and `insert_one_yuming_info`
answers `True` whether or not the row was inserted.
-/

namespace SelfTestCode.Yuming

open Numeral (intChars)

/-! ## The functions -/

/-- The columns that `get_yuming_infos` reads. -/
def pageColumns : List Column := [.name, .state, .registrationDate, .expirationDate, .deleteDate]

/-- A value of SQLite as a Python object, which may be `None`.  A `float` is not modelled. -/
def Value.toPy : Value → Option (Option Py2Value)
  | .null => some none
  | .number (.integer z) => some (some (.int z))
  | .number _ => none
  | .text s => some (some (.unicode s))

/-- The dictionary of a row of a page. -/
def dataOf : List Value → Option Info
  | [name, state, registrationDate, expirationDate, deleteDate] => do
    let some name ← name.toPy | none
    let state ← state.toPy
    let registrationDate ← registrationDate.toPy
    let expirationDate ← expirationDate.toPy
    let deleteDate ← deleteDate.toPy
    return {
      value
        | .name => some name
        | .state => state
        | .registrationDate => registrationDate
        | .expirationDate => expirationDate
        | .deleteDate => deleteDate
        | .follow => none
        | .blacklist => none
      name := name
      value_name := rfl }
  | _ => none

/-- The statement of `get_yuming_infos`. -/
def pageSql (offset number : ℤ) : List Char :=
  "SELECT ".toList ++ ("name,state,registration_date,expiration_date,delete_date".toList
    ++ (" FROM yuming LIMIT ".toList ++ (intChars offset ++ (",".toList
      ++ (intChars number ++ ";".toList)))))

/-- The first table, `update_cnt` and `offset`, with a record of what was read of the second
table. -/
structure Sync where
  one : List Row
  updateCnt : ℕ
  offset : ℕ
  read : List Info

section Functions

variable (number : List Char → Number)

/-- `get_yuming_infos`.  If the statement fails, its handler fails as well: it has a name that is
not defined. -/
def getYumingInfos (rows : List Row) (offset count : ℤ) : Option (List Info) := do
  let (_, dataset) ← execute number (pageSql offset count) rows
  dataset.mapM dataOf

/-- One turn of the inner loop of `update_one_db_by_another`. -/
def syncOne (s : Sync) (data : Info) : Sync :=
  match getOneYumingInfo number s.one data.name with
  | some _ => s
  | none =>
    let (done, one) := insertOneYumingInfo number s.one data
    { s with
      one := one
      updateCnt := if done then s.updateCnt + 1 else s.updateCnt }

/-- The loop of `update_one_db_by_another`. -/
def syncLoop (another : List Row) : ℕ → Sync → Option Sync
  | 0, _ => none
  | fuel + 1, s => do
    let anotherData ← getYumingInfos number another s.offset 500
    let size := anotherData.length
    if size = 0 then some s
    else
      let s := { s with
        offset := s.offset + size
        read := s.read ++ anotherData }
      syncLoop another fuel (anotherData.foldl (syncOne number) s)

/-- `update_one_db_by_another`, on the tables of the two databases. -/
def updateOneDbByAnother (fuel : ℕ) (one another : List Row) : Option Sync :=
  syncLoop number another fuel ⟨one, 0, 0, []⟩

end Functions

/-! ## Pages -/

/-- The text in a cell. -/
def Value.text? : Value → Option (List Char)
  | .text s => some s
  | _ => none

/-- A row of ASCII strings without quotes: the name and the state are there, a date may be
missing. -/
structure PlainRow (r : Row) : Prop where
  name : ∃ s, r .name = .text s ∧ PlainText s
  state : ∃ s, r .state = .text s ∧ PlainText s
  dates : ∀ c : Column, c.isDate = true → r c = .null ∨ ∃ s, r c = .text s ∧ PlainText s

/-- The name of a row. -/
def nameOf (r : Row) : List Char := (r .name).text?.getD []

/-- What is read of a row of strings. -/
def readData (r : Row) : Info where
  value
    | .name => some (.unicode (nameOf r))
    | .state => (r .state).text?.map .unicode
    | .registrationDate => (r .registrationDate).text?.map .unicode
    | .expirationDate => (r .expirationDate).text?.map .unicode
    | .deleteDate => (r .deleteDate).text?.map .unicode
    | .follow => none
    | .blacklist => none
  name := .unicode (nameOf r)
  value_name := rfl

section Pages

variable {r : Row} (h : PlainRow r)
include h

lemma PlainRow.name_eq : r .name = .text (nameOf r) := by
  obtain ⟨s, hs, -⟩ := h.name
  rw [nameOf, hs]
  rfl

lemma PlainRow.text_or_null {c : Column} (hc : c ∈ pageColumns) :
    (c.isDate = true ∧ r c = .null) ∨ ∃ s, r c = .text s ∧ PlainText s := by
  cases c with
  | name => exact .inr h.name
  | state => exact .inr h.state
  | registrationDate => exact (h.dates _ rfl).imp (⟨rfl, ·⟩) id
  | expirationDate => exact (h.dates _ rfl).imp (⟨rfl, ·⟩) id
  | deleteDate => exact (h.dates _ rfl).imp (⟨rfl, ·⟩) id
  | follow => exact absurd hc (by decide)
  | blacklist => exact absurd hc (by decide)

lemma PlainRow.toPy {c : Column} (hc : c ∈ pageColumns) :
    (r c).toPy = some ((r c).text?.map .unicode) := by
  rcases h.text_or_null hc with ⟨-, hnull⟩ | ⟨s, hs, -⟩
  · rw [hnull]
    rfl
  · rw [hs]
    rfl

lemma dataOf_eq : dataOf (pageColumns.map r) = some (readData r) := by
  have hname : (r .name).toPy = some (some (.unicode (nameOf r))) := by
    rw [h.name_eq]
    rfl
  have hstate := h.toPy (by decide : .state ∈ pageColumns)
  have hregistration := h.toPy (by decide : .registrationDate ∈ pageColumns)
  have hexpiration := h.toPy (by decide : .expirationDate ∈ pageColumns)
  have hdelete := h.toPy (by decide : .deleteDate ∈ pageColumns)
  simp only [dataOf, pageColumns, List.map_cons, List.map_nil, hname, hstate, hregistration,
    hexpiration, hdelete, Option.bind_eq_bind, Option.bind_some]
  rfl

lemma readData_value {c : Column} (hc : c ∈ pageColumns) :
    (readData r).value c = (r c).text?.map .unicode := by
  cases c with
  | name =>
    rw [h.name_eq]
    rfl
  | follow => exact absurd hc (by decide)
  | blacklist => exact absurd hc (by decide)
  | _ => rfl

lemma readData_text {c : Column} (hc : c ∈ pageColumns) :
    (readData r).text c = (r c).text? := by
  rw [Info.text, readData_value h hc, Option.map_map]
  exact Option.map_id'

lemma readData_plain : (readData r).Plain := by
  intro c v hv
  have hc : c ∈ pageColumns := by
    by_contra hc
    cases c <;> first | exact hc (by decide) | cases hv
  rw [readData_value h hc] at hv
  rcases h.text_or_null hc with ⟨-, hnull⟩ | ⟨s, hs, hplain⟩
  · rw [hnull] at hv
    cases hv
  · rw [hs] at hv
    obtain rfl := Option.some.inj hv
    exact hplain

end Pages

section Loop

variable (number : List Char → Number) {rows : List Row}

lemma null_notMem_intChars (z : ℤ) : '\x00' ∉ intChars z := by
  have hdigits : ∀ n : ℕ, '\x00' ∉ Nat.toDigits 10 n := fun n hmem =>
    absurd (Numeral.isDigitIn_of_mem_toDigits (by decide) (by decide) hmem) (by decide)
  rw [intChars]
  split_ifs
  · simp [hdigits]
  · exact hdigits _

lemma printNames_pageColumns : Sql.printNames (pageColumns.map Column.sqlName)
    = "name,state,registration_date,expiration_date,delete_date".toList := by
  decide

lemma null_notMem_pageSql (offset count : ℤ) : '\x00' ∉ pageSql offset count := by
  have hselect : '\x00' ∉ "SELECT ".toList := by decide
  have hnames : '\x00' ∉ "name,state,registration_date,expiration_date,delete_date".toList := by
    decide
  have hfrom : '\x00' ∉ " FROM yuming LIMIT ".toList := by decide
  have hcomma : '\x00' ∉ ",".toList := by decide
  have hend : '\x00' ∉ ";".toList := by decide
  -- simplifying the membership would evaluate the literals
  exact List.not_mem_append hselect (List.not_mem_append hnames (List.not_mem_append hfrom
    (List.not_mem_append (null_notMem_intChars offset) (List.not_mem_append hcomma
      (List.not_mem_append (null_notMem_intChars count) hend)))))

lemma limit_page (rows : List Row) (offset : ℕ) :
    limit offset 500 rows = (rows.drop offset).take 500 := rfl

/-- A page of a table of plain rows. -/
lemma getYumingInfos_eq (h : ∀ r ∈ rows, PlainRow r) (offset : ℕ) :
    getYumingInfos number rows offset 500 = some (((rows.drop offset).take 500).map readData) := by
  have hsql : pageSql offset 500 = "SELECT ".toList ++ (Sql.printNames
      (pageColumns.map Column.sqlName) ++ (" FROM ".toList ++ ("yuming".toList
        ++ (" LIMIT ".toList ++ (intChars offset ++ (',' :: (intChars 500 ++ ";".toList))))))) := by
    rw [printNames_pageColumns]
    rfl
  have hread := Sql.readStatement_page (names_of_columns pageColumns) (by decide)
    (by decide : Sql.isIdent "yuming".toList = true) offset 500
  rw [← hsql] at hread
  have hrun : run number (.page (pageColumns.map Column.sqlName) "yuming".toList (.integer offset)
      (.integer 500)) rows = some (rows, ((rows.drop offset).take 500).map fun r =>
        pageColumns.map r) := by
    simp only [run, resolveColumns_sqlName, Option.bind_eq_bind, Option.bind_some, limit_page]
    rfl
  have hdata : ∀ page : List Row, (∀ r ∈ page, PlainRow r) →
      (page.map fun r => pageColumns.map r).mapM dataOf = some (page.map readData) := by
    intro page
    induction page with
    | nil => exact fun _ => rfl
    | cons r page ih =>
      intro hpage
      have hrest := ih fun r' hr' => hpage r' (List.mem_cons_of_mem r hr')
      rw [List.map_cons, List.mapM_cons, dataOf_eq (hpage r List.mem_cons_self), hrest]
      rfl
  have hexecute : execute number (pageSql offset 500) rows = some (rows,
      ((rows.drop offset).take 500).map fun r => pageColumns.map r) := by
    rw [execute, if_neg (null_notMem_pageSql offset 500), hread]
    exact hrun
  rw [getYumingInfos, hexecute]
  exact hdata _ fun r hr => h r (List.mem_of_mem_drop (List.mem_of_mem_take hr))

/-! ## The loops -/

/-- The row that an insert of these data leaves. -/
def storedRow (data : Info) : Row :=
  overstore number (data.textIn (.name :: insertColumns)) defaultValue

/-- The data are inserted: the name is new, and the statement has no null character. -/
def isAdded (one : List Row) (data : Info) : Bool :=
  ¬ (data.values (.name :: insertColumns)).HasNull ∧ ¬ Named one data.name.text

/-- The data are counted: the name is not found, or cannot be looked up. -/
def isCounted (one : List Row) (data : Info) : Bool :=
  '\x00' ∈ data.name.text ∨ ¬ Named one data.name.text

lemma isAdded_congr {one one' : List Row} {data : Info}
    (h : Named one data.name.text ↔ Named one' data.name.text) :
    isAdded one data = isAdded one' data := by
  simp only [isAdded, h]

lemma isCounted_congr {one one' : List Row} {data : Info}
    (h : Named one data.name.text ↔ Named one' data.name.text) :
    isCounted one data = isCounted one' data := by
  simp only [isCounted, h]

lemma hasNull_of_name (data : Info) (h : '\x00' ∈ data.name.text) (columns : List Column) :
    (data.values (.name :: columns)).HasNull := by
  rw [values_name_cons]
  exact hasNull_cons.mpr (.inl h)

/-- What is not found is inserted, and counted in any case. -/
lemma syncOne_of_none {data : Info} {s : Sync}
    (h : getOneYumingInfo number s.one data.name = none) :
    syncOne number s data = { s with
      one := (insertOneYumingInfo number s.one data).2
      updateCnt := s.updateCnt + 1 } := by
  rw [syncOne, h]
  rfl

/-- One turn of the inner loop, on plain values. -/
lemma syncOne_eq {data : Info} (h : data.Plain) (s : Sync) :
    syncOne number s data = { s with
      one := s.one ++ if isAdded s.one data then [storedRow number data] else []
      updateCnt := s.updateCnt + if isCounted s.one data then 1 else 0 } := by
  have hname : data.name.PlainString := h .name data.name data.value_name
  have hget := getOneYumingInfo_eq number s.one hname
  have hinsert := insertOneYumingInfo_eq number s.one h
  by_cases hnull : '\x00' ∈ data.name.text
  · have hhas := hasNull_of_name _ hnull insertColumns
    rw [if_pos hnull] at hget
    rw [if_pos (.inl hhas)] at hinsert
    rw [syncOne_of_none number hget, hinsert]
    simp [isAdded, isCounted, hhas, hnull]
  · rw [if_neg hnull] at hget
    by_cases hnamed : Named s.one data.name.text
    · have hfound : s.one.filter (fun r => r .name = .text data.name.text) ≠ [] := by
        obtain ⟨r, hr, hname'⟩ := hnamed
        exact List.ne_nil_of_mem (List.mem_filter.mpr ⟨hr, decide_eq_true hname'⟩)
      rw [List.getLast?_eq_some_getLast hfound] at hget
      rw [syncOne, hget]
      simp [isAdded, isCounted, hnull, hnamed]
    · rw [filter_of_not_named s.one hnamed] at hget
      rw [syncOne_of_none number hget, hinsert]
      by_cases hhas : (data.values (.name :: insertColumns)).HasNull
      · simp [isAdded, isCounted, hhas, hnamed]
      · simp [isAdded, isCounted, hhas, hnamed, storedRow]

lemma named_append {one added : List Row} {name : List Char} :
    Named (one ++ added) name ↔ Named one name ∨ Named added name := by
  simp only [Named, List.mem_append, or_and_right, exists_or]

lemma storedRow_name (data : Info) : storedRow number data .name = .text data.name.text :=
  overstore_name number insertColumns defaultValue

/-- A row that is added says nothing about another name. -/
lemma named_step {one : List Row} {data : Info} {name : List Char} (hne : data.name.text ≠ name) :
    Named (one ++ if isAdded one data then [storedRow number data] else []) name ↔
      Named one name := by
  rw [named_append]
  refine or_iff_left ?_
  rintro ⟨r, hr, hname⟩
  split_ifs at hr
  · rw [List.mem_singleton.mp hr, storedRow_name] at hname
    exact hne (Value.text.inj hname)
  · cases hr

/-- The inner loop, on plain values with different names. -/
lemma foldl_syncOne {datas : List Info} (h : ∀ data ∈ datas, data.Plain)
    (hnodup : (datas.map fun data => data.name.text).Nodup) (s : Sync) :
    datas.foldl (syncOne number) s = { s with
      one := s.one ++ (datas.filter (isAdded s.one)).map (storedRow number)
      updateCnt := s.updateCnt + datas.countP (isCounted s.one) } := by
  induction datas generalizing s with
  | nil => simp
  | cons data datas ih =>
    obtain ⟨hdata, hdatas⟩ := List.forall_mem_cons.mp h
    rw [List.map_cons, List.nodup_cons] at hnodup
    obtain ⟨hnew, hnodup⟩ := hnodup
    have hne : ∀ data' ∈ datas, data.name.text ≠ data'.name.text := fun data' hmem heq =>
      hnew (List.mem_map.mpr ⟨data', hmem, heq.symm⟩)
    rw [List.foldl_cons, ih hdatas hnodup, syncOne_eq number hdata]
    dsimp only
    -- the row that is added changes nothing for the data that follow, whose names differ
    have hadded : datas.filter (isAdded (s.one
          ++ if isAdded s.one data then [storedRow number data] else []))
        = datas.filter (isAdded s.one) := by
      refine List.filter_congr fun data' hmem => ?_
      exact isAdded_congr (named_step number (hne data' hmem))
    have hcounted : datas.countP (isCounted (s.one
          ++ if isAdded s.one data then [storedRow number data] else []))
        = datas.countP (isCounted s.one) := by
      refine List.countP_congr fun data' hmem => ?_
      rw [isCounted_congr (named_step number (hne data' hmem))]
    rw [hadded, hcounted, List.filter_cons, List.countP_cons, List.append_assoc, Nat.add_assoc,
      Nat.add_comm (datas.countP _)]
    split_ifs <;> rfl

/-- The inner loop does not use what was read before. -/
lemma foldl_syncOne_with (datas : List Info) (s : Sync) (offset : ℕ) (read : List Info) :
    datas.foldl (syncOne number) { s with offset := offset, read := read }
      = { datas.foldl (syncOne number) s with offset := offset, read := read } := by
  induction datas generalizing s with
  | nil => rfl
  | cons data datas ih =>
    rw [List.foldl_cons, List.foldl_cons, ← ih]
    congr 1
    rw [syncOne, syncOne]
    dsimp only
    cases getOneYumingInfo number s.one data.name <;> rfl

lemma syncOne_table {s : Sync} (h : ∃ table : Table, table.rows = s.one) (data : Info) :
    ∃ table : Table, table.rows = (syncOne number s data).one := by
  obtain ⟨table, htable⟩ := h
  rw [syncOne]
  split
  · exact ⟨table, htable⟩
  · rw [← htable]
    exact commit_table number table _

/-- The first table stays one through every run, whatever the rows of the second one are. -/
lemma syncLoop_table {fuel : ℕ} {s s' : Sync} (h : ∃ table : Table, table.rows = s.one)
    (hloop : syncLoop number rows fuel s = some s') : ∃ table : Table, table.rows = s'.one := by
  have hinner : ∀ (datas : List Info) (s : Sync), (∃ table : Table, table.rows = s.one) →
      ∃ table : Table, table.rows = (datas.foldl (syncOne number) s).one := by
    intro datas
    induction datas with
    | nil => exact fun s h => h
    | cons data datas ih => exact fun s h => ih _ (syncOne_table number h data)
  induction fuel generalizing s with
  | zero => cases hloop
  | succ fuel ih =>
    rw [syncLoop] at hloop
    obtain ⟨datas, -, hloop⟩ := Option.bind_eq_some_iff.mp hloop
    dsimp only at hloop
    split_ifs at hloop with hsize
    · exact Option.some.inj hloop ▸ h
    · refine ih ?_ hloop
      exact hinner datas _ h

lemma drop_length_take {α : Type*} (l : List α) (n : ℕ) : l.drop (l.take n).length = l.drop n := by
  rw [List.length_take]
  rcases Nat.le_total n l.length with hle | hle
  · rw [Nat.min_eq_left hle]
  · rw [Nat.min_eq_right hle, List.drop_length, List.drop_eq_nil_of_le hle]

/-- The outer loop, with fuel for every row that is left. -/
lemma syncLoop_eq (h : ∀ r ∈ rows, PlainRow r) {fuel : ℕ} {s : Sync}
    (hoffset : s.offset ≤ rows.length) (hfuel : rows.length < s.offset + fuel) :
    syncLoop number rows fuel s
      = some { ((rows.drop s.offset).map readData).foldl (syncOne number) s with
          offset := rows.length
          read := s.read ++ (rows.drop s.offset).map readData } := by
  induction fuel generalizing s with
  | zero => omega
  | succ fuel ih =>
    have hpage := getYumingInfos_eq number h s.offset
    generalize hdata : ((rows.drop s.offset).take 500).map readData = page at hpage
    have hlength : page.length = ((rows.drop s.offset).take 500).length := by
      rw [← hdata, List.length_map]
    rw [syncLoop, hpage, Option.bind_eq_bind, Option.bind_some]
    dsimp only
    split_ifs with hsize
    · -- the page is empty, so that nothing is left
      rw [hlength, List.length_take, List.length_drop] at hsize
      have hend : s.offset = rows.length := by omega
      rw [hend, List.drop_length, List.map_nil, List.foldl_nil, List.append_nil, ← hend]
    · have hsplit : (rows.drop s.offset).map readData
          = page ++ (rows.drop (s.offset + page.length)).map readData := by
        rw [← hdata, List.length_map, ← List.drop_drop, drop_length_take, ← List.map_append,
          List.take_append_drop]
      have hle : s.offset + page.length ≤ rows.length := by
        rw [hlength, List.length_take, List.length_drop]
        omega
      rw [foldl_syncOne_with, ih hle (by dsimp only; omega), foldl_syncOne_with]
      dsimp only
      rw [hsplit, List.foldl_append, List.append_assoc]

end Loop

/-! ## The union -/

/-- The data are those of the row. -/
def Reads (data : Info) (r : Row) : Prop := ∀ c ∈ pageColumns, r c = (data.text c).elim .null .text

/-- The rows agree in the name, the state and the dates. -/
def SameData (r r' : Row) : Prop := ∀ c ∈ pageColumns, r c = r' c

/-- What the merge is for: each row of the second table is read once, the rows of the first one stay
as they are, and behind them are the rows whose names only the second one has. -/
structure Merged (one another : List Row) (s : Sync) : Prop where
  read : List.Forall₂ Reads s.read another
  union : ∃ added, s.one = one ++ added ∧
    List.Forall₂ SameData added (another.filter fun r => ¬ Named one (nameOf r)) ∧
    s.updateCnt = added.length

/-- No name has a null character, and no other text of a row whose name is new. -/
def Mergeable (one another : List Row) : Prop :=
  ∀ r ∈ another, '\x00' ∉ nameOf r ∧
    (¬ Named one (nameOf r) → ∀ c ∈ pageColumns, ∀ s, r c = .text s → '\x00' ∉ s)

section Union

variable (number : List Char → Number) (one : List Row) {r : Row}

lemma reads_readData (h : PlainRow r) : Reads (readData r) r := by
  intro c hc
  rw [readData_text h hc]
  rcases h.text_or_null hc with ⟨-, hnull⟩ | ⟨s, hs, -⟩
  · rw [hnull]
    rfl
  · rw [hs]
    rfl

/-- A missing date is left out of the statement, and its default is that it is missing. -/
lemma sameData_storedRow (h : PlainRow r) (hholds : ∀ c : Column, c.Holds (r c)) :
    SameData (storedRow number (readData r)) r := by
  intro c hc
  have htext : (readData r).textIn (.name :: insertColumns) c = (r c).text? :=
    (if_pos hc).trans (readData_text h hc)
  rw [storedRow, overstore, htext]
  rcases h.text_or_null hc with ⟨hdate, hnull⟩ | ⟨s, hs, -⟩
  · rw [hnull]
    cases c <;> first | rfl | cases hdate
  · have hstays : (c.isDate && isNumeric s) = false := by
      simpa only [hs, Column.Holds] using hholds c
    rw [hs]
    exact if_neg (by rw [hstays]; decide)

/-- The data of a row with a null character in one of its texts. -/
lemma hasNull_readData (h : PlainRow r) :
    ((readData r).values (.name :: insertColumns)).HasNull ↔
      ∃ c ∈ pageColumns, ∃ s, r c = .text s ∧ '\x00' ∈ s := by
  rw [Info.hasNull_iff]
  refine exists_congr fun c => and_congr_right fun hc => exists_congr fun s => ?_
  rw [readData_text h hc]
  refine and_congr_left fun _ => ?_
  cases r c <;> simp [Value.text?]

/-- The tables after the merge. -/
def mergedState (one another : List Row) : Sync where
  one := one ++ ((another.map readData).filter (isAdded one)).map (storedRow number)
  updateCnt := (another.map readData).countP (isCounted one)
  offset := another.length
  read := another.map readData

lemma names_nodup (another : Table) (h : ∀ r ∈ another.rows, PlainRow r) :
    ((another.rows.map readData).map fun data => data.name.text).Nodup := by
  have hnames : (another.rows.map fun r => r .name)
      = ((another.rows.map readData).map fun data => data.name.text).map .text := by
    rw [List.map_map, List.map_map]
    exact List.map_congr_left fun r hr => (h r hr).name_eq
  exact List.Nodup.of_map _ (hnames ▸ another.names_nodup)

/-- The merge comes to its end. -/
lemma updateOneDbByAnother_eq (another : Table) (h : ∀ r ∈ another.rows, PlainRow r) {fuel : ℕ}
    (hfuel : another.rows.length < fuel) :
    updateOneDbByAnother number fuel one another.rows
      = some (mergedState number one another.rows) := by
  have hplain : ∀ data ∈ another.rows.map readData, data.Plain := by
    intro data hdata
    obtain ⟨r, hr, rfl⟩ := List.mem_map.mp hdata
    exact readData_plain (h r hr)
  rw [updateOneDbByAnother, syncLoop_eq number h (Nat.zero_le _) (by simpa using hfuel),
    List.drop_zero, foldl_syncOne number hplain (names_nodup another h), mergedState]
  simp only [List.nil_append, Nat.zero_add]

variable {one} {another : Table}

/-- What is counted is added if the count is right. -/
lemma isAdded_of_isCounted {datas : List Info}
    (h : (datas.filter (isAdded one)).length = datas.countP (isCounted one)) :
    ∀ data ∈ datas, isCounted one data = true → isAdded one data = true := by
  have himp : ∀ data, isAdded one data = true → isCounted one data = true := by
    intro data hadded
    exact decide_eq_true (.inr (of_decide_eq_true hadded).2)
  have hsublist : (datas.filter (isAdded one)).Sublist (datas.filter (isCounted one)) :=
    List.monotone_filter_right datas himp
  have heq : datas.filter (isAdded one) = datas.filter (isCounted one) := by
    refine hsublist.eq_of_length ?_
    rw [h, List.countP_eq_length_filter]
  intro data hdata hcounted
  have hmem : data ∈ datas.filter (isAdded one) :=
    heq ▸ List.mem_filter.mpr ⟨hdata, hcounted⟩
  exact (List.mem_filter.mp hmem).2

/-- A null character in a statement makes the count wrong. -/
lemma mergeable_of_merged (h : ∀ r ∈ another.rows, PlainRow r)
    (hmerged : Merged one another.rows (mergedState number one another.rows)) :
    Mergeable one another.rows := by
  obtain ⟨added, hone, -, hcnt⟩ := hmerged.union
  have hadded := List.append_cancel_left hone
  rw [mergedState, ← hadded, List.length_map] at hcnt
  have himp := isAdded_of_isCounted hcnt.symm
  intro r hr
  have hdata := himp (readData r) (List.mem_map_of_mem hr)
  refine ⟨fun hnull => ?_, fun hnew c hc s hs hnull => ?_⟩
  · have hnot := (of_decide_eq_true (hdata (decide_eq_true (.inl hnull)))).1
    exact hnot (hasNull_of_name (readData r) hnull insertColumns)
  · have hnot := (of_decide_eq_true (hdata (decide_eq_true (.inr hnew)))).1
    exact hnot ((hasNull_readData (h r hr)).mpr ⟨c, hc, s, hs, hnull⟩)

lemma merged_of_mergeable (h : ∀ r ∈ another.rows, PlainRow r)
    (hmergeable : Mergeable one another.rows) :
    Merged one another.rows (mergedState number one another.rows) := by
  have hadded : ∀ r ∈ another.rows,
      isAdded one (readData r) = decide (¬ Named one (nameOf r)) := by
    intro r hr
    refine decide_eq_decide.mpr ⟨fun hadded => hadded.2, fun hnew => ⟨fun hnull => ?_, hnew⟩⟩
    obtain ⟨c, hc, s, hs, hmem⟩ := (hasNull_readData (h r hr)).mp hnull
    exact (hmergeable r hr).2 hnew c hc s hs hmem
  have hcounted : ∀ r ∈ another.rows,
      isCounted one (readData r) = decide (¬ Named one (nameOf r)) := by
    intro r hr
    exact decide_eq_decide.mpr (or_iff_right (hmergeable r hr).1)
  have hrows : ((another.rows.map readData).filter (isAdded one)).map (storedRow number)
      = (another.rows.filter fun r => ¬ Named one (nameOf r)).map
        fun r => storedRow number (readData r) := by
    rw [List.filter_map, List.map_map]
    exact congrArg _ (List.filter_congr hadded)
  refine ⟨?_, _, rfl, ?_, ?_⟩
  · rw [mergedState, List.forall₂_map_left_iff, List.forall₂_same]
    exact fun r hr => reads_readData (h r hr)
  · rw [hrows, List.forall₂_map_left_iff, List.forall₂_same]
    intro r hr
    have hr := List.mem_of_mem_filter hr
    exact sameData_storedRow number (h r hr) (another.holds r hr)
  · rw [hrows, List.length_map, mergedState, List.countP_map, ← List.countP_eq_length_filter]
    exact List.countP_congr fun r hr => by rw [Function.comp_apply, hcounted r hr]

/-- The run of a merge that is a union. -/
lemma mergeable_of_run (h : ∀ r ∈ another.rows, PlainRow r) {s : Sync} {n : ℕ}
    (hrun : ∀ fuel ≥ n, updateOneDbByAnother number fuel one another.rows = some s)
    (hmerged : Merged one another.rows s) : Mergeable one another.rows := by
  have hs := hrun (n + another.rows.length + 1) (by omega)
  rw [updateOneDbByAnother_eq number one another h (by omega)] at hs
  exact mergeable_of_merged number h (Option.some.inj hs ▸ hmerged)

/-- The merge comes to its end and is a union if and only if its statements have no null
characters. -/
theorem updateOneDbByAnother_merges_iff (one another : Table)
    (h : ∀ r ∈ another.rows, PlainRow r) :
    (∃ s, (∃ n, ∀ fuel ≥ n, updateOneDbByAnother number fuel one.rows another.rows = some s) ∧
      Merged one.rows another.rows s) ↔ Mergeable one.rows another.rows := by
  constructor
  · rintro ⟨s, ⟨n, hrun⟩, hmerged⟩
    exact mergeable_of_run number h hrun hmerged
  · intro hmergeable
    refine ⟨_, ⟨another.rows.length + 1, fun fuel hfuel => ?_⟩,
      merged_of_mergeable number h hmergeable⟩
    exact updateOneDbByAnother_eq number one.rows another h hfuel

lemma plainRow_domainRow {name : List Char} (h : PlainText name) : PlainRow (domainRow name) where
  name := ⟨name, rfl, h⟩
  state := ⟨"unknown".toList, rfl, by decide⟩
  dates := by
    intro c hc
    cases c <;> first | exact .inl rfl | cases hc

lemma plainRow_domainTable {names : List (List Char)} {hnodup : names.Nodup}
    (h : ∀ name ∈ names, PlainText name) :
    ∀ r ∈ (domainTable names hnodup).rows, PlainRow r := by
  intro r hr
  obtain ⟨name, hname, rfl⟩ := List.mem_map.mp hr
  exact plainRow_domainRow (h name hname)

lemma domainRow_of_ne {c : Column} (hc : c ≠ .name) (name : List Char) :
    domainRow name c = defaultValue c := by
  cases c with
  | name => exact absurd rfl hc
  | _ => rfl

lemma mergeable_domainTable (one : List Row) {names : List (List Char)} {hnodup : names.Nodup}
    (h : ∀ name ∈ names, '\x00' ∉ name) : Mergeable one (domainTable names hnodup).rows := by
  intro r hr
  obtain ⟨name, hname, rfl⟩ := List.mem_map.mp hr
  refine ⟨h name hname, fun _ c _ s hs => ?_⟩
  rcases eq_or_ne c .name with rfl | hc
  · exact Value.text.inj hs ▸ h name hname
  · rw [domainRow_of_ne hc] at hs
    exact defaultValue_noNull hs

theorem updateOneDbByAnother_merges_domains :
    ∃ s, (∃ n, ∀ fuel ≥ n, updateOneDbByAnother (fun _ => .integer 0) fuel
      (domainTable ["baidu.com".toList] (by decide)).rows
      (domainTable ["baidu.com".toList, "apple.com".toList] (by decide)).rows = some s) ∧
      Merged (domainTable ["baidu.com".toList] (by decide)).rows
        (domainTable ["baidu.com".toList, "apple.com".toList] (by decide)).rows s := by
  exact (updateOneDbByAnother_merges_iff _ _ _ (plainRow_domainTable (by decide))).mpr
    (mergeable_domainTable _ (by decide))

/-- A name with a null character is counted, and not added. -/
theorem updateOneDbByAnother_miscounts : ¬ ∀ (number : List Char → Number) (one another : Table),
    (∀ r ∈ one.rows, PlainRow r) → (∀ r ∈ another.rows, PlainRow r) →
      ∃ s, (∃ n, ∀ fuel ≥ n, updateOneDbByAnother number fuel one.rows another.rows = some s) ∧
        Merged one.rows another.rows s := by
  intro h
  have hplain : ∀ r ∈ (domainTable ["a\x00b.com".toList] (by decide)).rows, PlainRow r :=
    plainRow_domainTable (by decide)
  obtain ⟨s, ⟨n, hrun⟩, hmerged⟩ := h (fun _ => .integer 0) Table.empty _ nofun hplain
  have hmergeable := mergeable_of_run _ hplain hrun hmerged
  exact (hmergeable _ List.mem_cons_self).1 (by decide)

end Union

/-! ## Runs -/

/-- A call on the database. -/
inductive Call
  | insert (info : Info)
  | update (info : Info)
  /-- `update_one_db_by_another`, for the table of the other database. -/
  | merge (another : Table)

/-- All values are strings without quotes. -/
def Call.Plain : Call → Prop
  | .insert info => info.Plain
  | .update info => info.Plain
  | .merge another => ∀ r ∈ another.rows, PlainRow r

/-- The names of the rows. -/
def names (rows : List Row) : List Value := rows.map fun r => r .name

section Runs

variable (number : List Char → Number)

/-- A database that starts with the table `start`. -/
def database (start : Table) : System (List Row) Call where
  Init rows := rows = start.rows
  step rows
    | .insert info => some (insertOneYumingInfo number rows info).2
    | .update info => some (updateYumingInfo number rows info).2
    | .merge another =>
      (updateOneDbByAnother number (another.rows.length + 1) rows another.rows).map Sync.one

variable {number} {start table : Table} {rows : List Row} {call : Call}

lemma names_insert {info : Info} (h : info.Plain) :
    names rows <+: names (insertOneYumingInfo number rows info).2 := by
  rw [insertOneYumingInfo_eq number rows h]
  split_ifs
  · exact List.prefix_refl _
  · rw [names, names, List.map_append]
    exact List.prefix_append _ _

lemma names_update {info : Info} (h : info.Plain) :
    names (updateYumingInfo number table.rows info).2 = names table.rows := by
  rw [updateYumingInfo_eq number table.rows h table.names_nodup]
  split_ifs
  · rfl
  · rw [names, names, List.map_map]
    refine List.map_congr_left fun r _ => ?_
    rw [Function.comp_apply]
    split_ifs
    · -- the name is not among the columns of the statement
      rfl
    · rfl

variable (number start table) in
/-- One call: it returns, what is left is a table, and no name is lost or changed. -/
lemma database_step (h : call.Plain) :
    ∃ table' : Table, (database number start).step table.rows call = some table'.rows ∧
      names table.rows <+: names table'.rows := by
  cases call with
  | insert info =>
    obtain ⟨table', htable⟩ := commit_table number table
      (insertSql sqlitePy "yuming".toList (pairOf .name info.name :: info.pairs insertColumns))
    exact ⟨table', congrArg some htable.symm, htable ▸ names_insert h⟩
  | update info =>
    obtain ⟨table', htable⟩ := commit_table number table
      (updateSql sqlitePy "yuming".toList (info.pairs updateColumns) [pairOf .name info.name])
    exact ⟨table', congrArg some htable.symm, htable ▸ names_update h ▸ List.prefix_refl _⟩
  | merge another =>
    have hrun := updateOneDbByAnother_eq number table.rows another h (Nat.lt_succ_self _)
    obtain ⟨table', htable⟩ := syncLoop_table number ⟨table, rfl⟩ hrun
    refine ⟨table', ?_, ?_⟩
    · rw [htable]
      exact congrArg (Option.map Sync.one) hrun
    · rw [htable, mergedState, names, names, List.map_append]
      exact List.prefix_append _ _

/-- In every run of inserts, updates and merges with strings without quotes: each further call
returns; the names stay the primary key and the columns keep their affinities; and the names that
were there at the start are there, in their places. -/
theorem database_keeps_names
    (h : (database number start).Reachable (fun _ call => call.Plain) rows) :
    (∀ call : Call, call.Plain → ((database number start).step rows call).isSome) ∧
      (names rows).Nodup ∧ (∀ r ∈ rows, r .name ≠ .null) ∧
      (∀ r ∈ rows, ∀ c : Column, c.Holds (r c)) ∧ names start.rows <+: names rows := by
  obtain ⟨table, rfl, hnames⟩ :
      ∃ table : Table, table.rows = rows ∧ names start.rows <+: names rows := by
    refine System.Reachable.invariant (I := fun rows =>
      ∃ table : Table, table.rows = rows ∧ names start.rows <+: names rows) ?_ ?_ h
    · rintro rows rfl
      exact ⟨start, rfl, List.prefix_refl _⟩
    · rintro rows call rows' _ ⟨table, rfl, hnames⟩ hcall hs
      obtain ⟨table', hstep, hpre⟩ := database_step number start table hcall
      obtain rfl : table'.rows = rows' := Option.some.inj (hstep.symm.trans hs)
      exact ⟨table', rfl, hnames.trans hpre⟩
  refine ⟨fun call hcall => ?_, table.names_nodup, table.name_ne_null, table.holds, hnames⟩
  obtain ⟨table', hstep, -⟩ := database_step number start table hcall
  rw [hstep]
  rfl

/-- A domain is inserted and followed, and then another database comes in. -/
def followAndMerge : List Call :=
  [.insert (baidu none), .update (baidu (some (.str "yes".toList))),
    .merge (domainTable ["baidu.com".toList, "qq.com".toList] (by decide))]

theorem database_keeps_names_followAndMerge :
    ∃ rows, (database (fun _ => .integer 0) appleTable).run appleTable.rows followAndMerge
        = some rows ∧
      names rows = [.text "apple.com".toList, .text "baidu.com".toList, .text "qq.com".toList] ∧
      ∀ r ∈ rows, ∀ c : Column, c.Holds (r c) := by
  have hrun : ((database (fun _ => .integer 0) appleTable).run appleTable.rows followAndMerge).map
      names = some [.text "apple.com".toList, .text "baidu.com".toList, .text "qq.com".toList] := by
    decide +kernel
  obtain ⟨rows, hrows, hnames⟩ := Option.map_eq_some_iff.mp hrun
  have hplain : (database (fun _ => .integer 0) appleTable).Guarded (fun _ call => call.Plain)
      appleTable.rows followAndMerge :=
    ⟨baidu_plain plain_none, fun _ _ => ⟨baidu_plain plain_yes, fun _ _ =>
      ⟨plainRow_domainTable (by decide), fun _ _ => trivial⟩⟩⟩
  have hreach := System.Reachable.of_run (.init rfl) hplain hrows
  obtain ⟨-, -, -, hholds, -⟩ := database_keeps_names hreach
  exact ⟨rows, hrows, hnames, hholds⟩

end Runs

end SelfTestCode.Yuming
