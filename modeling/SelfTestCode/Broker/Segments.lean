import SelfTestCode.Client.Consumer
import SelfTestCode.Framework.Numerals

/-!
# Enumerating the segments of the system

`smem.c` reads the kernel's table of shared-memory segments, from `/proc/sysvipc/shm` if that file
is there and else through `shmctl`.  `ipc_shm_get_info` builds a list of `shm_data`,
`smem_get_info` copies it to a list of `smem_info`, and `smem_free_all_buffers` removes every
segment in it.  Both lists end in a node that holds nothing, and the loops over them stop before it.

`Kernel` is what the functions are called on: the table by index, with its gaps, and the text of the
file.  The text is read by `fscanf`, conversion by conversion.  Allocations succeed.
-/

open SelfTestCode.Client (isSpace takeSign)

namespace SelfTestCode.Broker.Segments

open Numeral

/-! ## Records and lists -/

/-- `struct shm_data`. -/
structure ShmData where
  key : Int32
  id : Int32
  mode : UInt32
  segsz : UInt64
  cprid : Int32
  lprid : Int32
  nattch : UInt64
  uid : UInt32
  gid : UInt32
  cuid : UInt32
  cgid : UInt32
  atim : Int64
  dtim : Int64
  ctim : Int64
  rss : UInt64
  swp : UInt64
  deriving DecidableEq

/-- `calloc(1, sizeof(struct shm_data))`. -/
def ShmData.zero : ShmData := ⟨0, 0, 0, 0, 0, 0, 0, 0, 0, 0, 0, 0, 0, 0, 0, 0⟩

/-- `struct smem_info`. -/
structure SmemInfo where
  id : Int32
  size : Int32
  uid : UInt32
  mode : UInt32
  deriving DecidableEq

/-- A list of nodes: those with a `next`, and the last one. -/
structure Nodes (α : Type) where
  entries : List α
  last : α
  deriving DecidableEq

/-- `p->next = calloc(1, ..); p = p->next;`. -/
def Nodes.grow {α : Type} (l : Nodes α) (zero : α) : Nodes α := ⟨l.entries ++ [l.last], zero⟩

/-! ## `fscanf` -/

/-- A stream: the text that is left, and its end-of-file indicator. -/
structure File where
  text : List Char
  feof : Bool
  deriving DecidableEq

/-- The conversions of the format; the sizes of their arguments are those of the fields. -/
inductive Conv
  | d
  | o
  | u
  | i
  deriving DecidableEq

inductive Directive
  | space
  | conv (k : Conv)

def File.skipSpace (f : File) : File :=
  let text := f.text.dropWhile isSpace
  ⟨text, f.feof || text.isEmpty⟩

/-- The base of a numeral, which `%i` finds out from its prefix. -/
def Conv.base : Conv → List Char → ℕ
  | .d, _ => 10
  | .o, _ => 8
  | .u, _ => 10
  | .i, '0' :: 'x' :: _ => 16
  | .i, '0' :: 'X' :: _ => 16
  | .i, '0' :: _ => 8
  | .i, _ => 10

/-- One conversion, at a text that does not start with white space. -/
def Conv.convert (k : Conv) (f : File) : Option ℤ × File :=
  let (negative, text) := takeSign f.text
  let base := k.base text
  let digits := if base = 16 then text.drop 2 else text
  match readNat base digits with
  | none => (none, ⟨digits, f.feof || digits.isEmpty⟩)
  | some (n, rest) => (some (if negative then -n else n), ⟨rest, f.feof || rest.isEmpty⟩)

/-- `fscanf`: the values of the conversions that were made, and the stream behind them. -/
def fscanf : List Directive → File → List ℤ × File
  | [], f => ([], f)
  | .space :: ds, f => fscanf ds f.skipSpace
  | .conv k :: ds, f =>
    match k.convert f.skipSpace with
    | (none, f) => ([], f)
    | (some v, f) =>
      let (vs, f) := fscanf ds f
      (v :: vs, f)

/-- The sixteen conversions of the format. -/
def shmConvs : List Conv := [.d, .d, .o, .u, .u, .u, .u, .u, .u, .u, .u, .i, .i, .i, .u, .u]

/-- White space stands between the conversions and behind the last one. -/
def directives (ks : List Conv) : List Directive := ks.flatMap fun k => [.conv k, .space]

/-- The fields that sixteen values are stored in. -/
def ShmData.ofValues : List ℤ → Option ShmData
  | [key, id, mode, segsz, cprid, lprid, nattch, uid, gid, cuid, cgid, atim, dtim, ctim, rss,
      swp] => some {
        key := .ofInt key
        id := .ofInt id
        mode := .ofInt mode
        segsz := .ofInt segsz
        cprid := .ofInt cprid
        lprid := .ofInt lprid
        nattch := .ofInt nattch
        uid := .ofInt uid
        gid := .ofInt gid
        cuid := .ofInt cuid
        cgid := .ofInt cgid
        atim := .ofInt atim
        dtim := .ofInt dtim
        ctim := .ofInt ctim
        rss := .ofInt rss
        swp := .ofInt swp }
  | _ => none

/-! ## The kernel -/

/-- The values of a record, as the file has them. -/
def ShmData.values (s : ShmData) : List ℤ :=
  [s.key.toInt, s.id.toInt, s.mode.toNat, s.segsz.toNat, s.cprid.toInt, s.lprid.toInt,
    s.nattch.toNat, s.uid.toNat, s.gid.toNat, s.cuid.toNat, s.cgid.toNat, s.atim.toInt,
    s.dtim.toInt, s.ctim.toInt, s.rss.toNat, s.swp.toNat]

/-- A number in the notation that a conversion reads. -/
def Conv.print : Conv → ℤ → List Char
  | .o, v => Nat.toDigits 8 v.natAbs
  | _, v => intChars v

/-- Numbers with blanks before each, to the end of the line. -/
inductive Fields : List (Conv × ℤ) → List Char → Prop
  | nil : Fields [] ['\n']
  | cons {k v fields text} (blanks : ℕ) (h : Fields fields text) :
    Fields ((k, v) :: fields) (List.replicate (blanks + 1) ' ' ++ (k.print v ++ text))

/-- The line of a segment; the first number may start it. -/
inductive Line (s : ShmData) : List Char → Prop
  | intro {k v fields text} (hfields : shmConvs.zip s.values = (k, v) :: fields) (blanks : ℕ)
    (h : Fields fields text) : Line s (List.replicate blanks ' ' ++ (k.print v ++ text))

/-- A line for each segment. -/
inductive Lines : List ShmData → List Char → Prop
  | nil : Lines [] []
  | cons {s line segments text} (hline : Line s line) (h : Lines segments text) :
    Lines (s :: segments) (line ++ text)

/-- Every table can be written to the file. -/
theorem exists_lines (segments : List ShmData) : ∃ lines, Lines segments lines := by
  have hfields : ∀ fields : List (Conv × ℤ), ∃ text, Fields fields text := by
    intro fields
    induction fields with
    | nil => exact ⟨_, .nil⟩
    | cons field fields ih =>
      obtain ⟨text, htext⟩ := ih
      exact ⟨_, .cons 0 htext⟩
  induction segments with
  | nil => exact ⟨_, .nil⟩
  | cons s segments ih =>
    obtain ⟨lines, hlines⟩ := ih
    obtain ⟨text, htext⟩ := hfields (shmConvs.zip s.values).tail
    exact ⟨_, .cons (.intro rfl 0 htext) hlines⟩

/-- The shared-memory table by its index, and the file, if the system has it. -/
structure Kernel where
  slots : List (Option ShmData)
  procSysvipcShm : Option (List Char)
  /-- An index of the table is an `int`, and so is twice their number. -/
  length_lt : slots.length < 2 ^ 30
  ids_nonneg : ∀ s ∈ slots.reduceOption, 0 ≤ s.id
  ids_nodup : (slots.reduceOption.map ShmData.id).Nodup
  wellFormed : ∀ text ∈ procSysvipcShm, ∃ header lines,
    text = header ++ '\n' :: lines ∧ '\n' ∉ header ∧ Lines slots.reduceOption lines

/-- The segments in table order. -/
def Kernel.segments (k : Kernel) : List ShmData := k.slots.reduceOption

/-- `shmctl(0, SHM_INFO, ..)`, which does not fail: the highest index in use, 0 for an empty
table. -/
def Kernel.shmInfo (k : Kernel) : ℕ := (k.slots.rdropWhile Option.isNone).length - 1

/-- `shmctl(i, SHM_STAT, ..)`, if it does not fail. -/
def Kernel.shmStat (k : Kernel) (i : ℕ) : Option ShmData := k.slots[i]?.join

/-! ## The functions -/

/-- `while (fgetc(f) != '\n');`, which does not end if there is no such character. -/
def skipHeader (text : List Char) : Option (List Char) :=
  match text.dropWhile (· != '\n') with
  | [] => none
  | _ :: rest => some rest

/-- The loop over the lines of the file. -/
def procLoop (id : Int32) : ℕ → File → Int32 → Nodes ShmData → Option (Int32 × Nodes ShmData)
  | 0, _, _, _ => none
  | fuel + 1, f, i, shmds =>
    if f.feof then some (i, shmds)
    else
      let (values, f) := fscanf (directives shmConvs) f
      match ShmData.ofValues values with
      | none => procLoop id fuel f i shmds
      | some p =>
        let shmds := { shmds with last := p }
        if -1 < id then
          if id = p.id then some (1, shmds) else procLoop id fuel f i shmds
        else procLoop id fuel f (i + 1) (shmds.grow .zero)

/-- What the loop over the indices takes from `SHM_STAT`. -/
def ShmData.stat (s : ShmData) : ShmData := { s with cgid := s.cuid, rss := 0xdead, swp := 0xdead }

/-- The loop over the indices from `i` on, of which `n` are left. -/
def statLoop (k : Kernel) (id : Int32) : ℕ → ℕ → Nodes ShmData → Int32 × Nodes ShmData
  | 0, i, shmds => (.ofNat i, shmds)
  | n + 1, i, shmds =>
    match k.shmStat i with
    | none => if -1 < id then (0, shmds) else statLoop k id n (i + 1) shmds
    | some s =>
      let shmds := { shmds with last := s.stat }
      if id < 0 then statLoop k id n (i + 1) (shmds.grow .zero) else (1, shmds)

/-- `ipc_shm_get_info`; `none` while the loop over the file has not ended after `fuel` turns. -/
def ipcShmGetInfo (k : Kernel) (fuel : ℕ) (id : Int32) : Option (Int32 × Nodes ShmData) :=
  match k.procSysvipcShm with
  | some text => do
    let text ← skipHeader text
    procLoop id fuel ⟨text, false⟩ 0 ⟨[], .zero⟩
  | none =>
    let i := if id < 0 then 0 else id.toInt.toNat
    some (statLoop k id (k.shmInfo + 1 - i) i ⟨[], .zero⟩)

/-- What is copied of a segment; the size becomes an `int`. -/
def ShmData.info (s : ShmData) : SmemInfo := ⟨s.id, .ofInt s.segsz.toNat, s.uid, s.mode⟩

def SmemInfo.zero : SmemInfo := ⟨0, 0, 0, 0⟩

/-- The loop of `smem_get_info` over the nodes with a `next`; `infos` is `*infos`. -/
def copyInfos : List ShmData → Int32 → Option (Nodes SmemInfo) → Int32 × Option (Nodes SmemInfo)
  | [], cnt, infos => (cnt, infos)
  | s :: rest, cnt, infos =>
    let p : Nodes SmemInfo := infos.getD ⟨[], .zero⟩
    copyInfos rest (cnt + 1) (some (({ p with last := s.info } : Nodes SmemInfo).grow .zero))

/-- `smem_get_info`: its result, and `*infos`. -/
def smemGetInfo (k : Kernel) (fuel : ℕ) (id : Int32) :
    Option (Int32 × Option (Nodes SmemInfo)) := do
  let (cnt, shmds) ← ipcShmGetInfo k fuel id
  return if 0 < cnt then copyInfos shmds.entries cnt none else (cnt, none)

/-- How `smem_free_all_buffers` ends. -/
inductive FreeAll
  | nullDereference
  /-- The ids that `IPC_RMID` was called with. -/
  | removed (ids : List Int32)
  deriving DecidableEq

/-- `smem_free_all_buffers`. -/
def smemFreeAllBuffers (k : Kernel) (fuel : ℕ) : Option FreeAll := do
  let (cnt, infos) ← smemGetInfo k fuel (-1)
  return if cnt < 0 then .removed []
    else match infos with
      | none => .nullDereference
      | some infos => .removed (infos.entries.map SmemInfo.id)

/-! ## Reading the file -/

section Scanning

variable {text more rest : List Char} {c : Char}

lemma not_isDigitIn_of_isSpace (hc : isSpace c = true) (base : ℕ) : isDigitIn base c = false := by
  simp only [isSpace, Bool.or_eq_true, beq_iff_eq] at hc
  rcases hc with ((((rfl | rfl) | rfl) | rfl) | rfl) | rfl <;> rfl

lemma ends_cons_of_isSpace (hc : isSpace c = true) (base : ℕ) : Ends base (c :: rest) := by
  rintro _ ⟨rfl⟩
  exact not_isDigitIn_of_isSpace hc base

/-- A digit is neither white space nor a sign. -/
lemma of_isDigit (hc : c.isDigit = true) : isSpace c = false ∧ c ≠ '-' ∧ c ≠ '+' := by
  refine ⟨?_, ?_, ?_⟩
  · by_contra hspace
    have hdigit := not_isDigitIn_of_isSpace (by simpa using hspace) 100
    have hvalue : digitValue c = some (c.toNat - 48) := if_pos hc
    rw [isDigitIn, hvalue] at hdigit
    have hle : c.toNat ≤ 57 := by
      simp only [Char.isDigit, Bool.and_eq_true, decide_eq_true_eq] at hc
      exact hc.2
    simp only [decide_eq_false_iff_not] at hdigit
    omega
  · rintro rfl
    cases hc
  · rintro rfl
    cases hc

/-- A numeral starts with a digit. -/
lemma toDigits_append_eq_cons {base : ℕ} (hbase : 1 < base) (hten : base ≤ 10) (n : ℕ)
    (rest : List Char) : ∃ d ds, Nat.toDigits base n ++ rest = d :: (ds ++ rest) ∧
      Nat.toDigits base n = d :: ds ∧ d.isDigit = true := by
  obtain ⟨d, ds, hcons⟩ := List.exists_cons_of_ne_nil (Nat.toDigits_ne_nil (n := n) (b := base))
  refine ⟨d, ds, by rw [hcons, List.cons_append], hcons, ?_⟩
  exact Nat.isDigit_of_mem_toDigits (by omega) hten (by rw [hcons]; exact List.mem_cons_self)

lemma takeSign_toDigits {base : ℕ} (hbase : 1 < base) (hten : base ≤ 10) (n : ℕ) :
    takeSign (Nat.toDigits base n ++ rest) = (false, Nat.toDigits base n ++ rest) := by
  obtain ⟨d, ds, hcons, -, hdigit⟩ := toDigits_append_eq_cons hbase hten n rest
  obtain ⟨-, hminus, hplus⟩ := of_isDigit hdigit
  rw [hcons, takeSign]
  · rintro rest' heq
    exact hminus (List.cons.inj heq).1
  · rintro rest' heq
    exact hplus (List.cons.inj heq).1

lemma takeSign_intChars (z : ℤ) : takeSign (intChars z ++ rest)
    = (decide (z < 0), Nat.toDigits 10 z.natAbs ++ rest) := by
  rw [intChars]
  split
  · rename_i hneg
    rw [decide_eq_true hneg]
    rfl
  · rename_i hpos
    rw [decide_eq_false hpos, takeSign_toDigits (by decide) (by decide)]

/-- The base that `%i` finds is one in which the numeral has its value. -/
lemma readNat_base_i (hc : isSpace c = true) (n : ℕ) (rest : List Char) :
    ∃ base, Conv.base .i (Nat.toDigits 10 n ++ c :: rest) = base ∧ base ≠ 16 ∧
      readNat base (Nat.toDigits 10 n ++ c :: rest) = some (n, c :: rest) := by
  by_cases hn : n = 0
  · subst hn
    refine ⟨8, ?_, by decide, ?_⟩
    · rw [Nat.toDigits_zero, List.singleton_append, Conv.base]
      · rintro _ ⟨rfl, rfl⟩
        exact absurd hc (by decide)
      · rintro _ ⟨rfl, rfl⟩
        exact absurd hc (by decide)
    · exact readNat_toDigits (by decide) (by decide) (ends_cons_of_isSpace hc 8) 0
  · refine ⟨10, ?_, by decide,
      readNat_toDigits (by decide) (by decide) (ends_cons_of_isSpace hc 10) n⟩
    obtain ⟨d, ds, hcons, hdigits, -⟩ :=
      toDigits_append_eq_cons (by decide : 1 < 10) (by decide) n (c :: rest)
    have hhead : d ≠ '0' := by
      rintro rfl
      exact head?_toDigits_ne hn (by rw [hdigits]; rfl)
    have hother : ∀ tail, d :: (ds ++ c :: rest) = '0' :: tail → False := fun _ heq =>
      hhead (List.cons.inj heq).1
    rw [hcons, Conv.base]
    · exact fun _ => hother _
    · exact fun _ => hother _
    · exact hother

/-- A number in its notation, with white space behind it, is converted back. -/
lemma convert_print (k : Conv) {v : ℤ} (hv : k = .o → 0 ≤ v) (hc : isSpace c = true) :
    k.convert ⟨k.print v ++ c :: rest, false⟩ = (some v, ⟨c :: rest, false⟩) := by
  have hsigned : ∀ base, base ≠ 16 →
      readNat base (Nat.toDigits 10 v.natAbs ++ c :: rest) = some (v.natAbs, c :: rest) →
      k.base (Nat.toDigits 10 v.natAbs ++ c :: rest) = base → k.print v = intChars v →
      k.convert ⟨k.print v ++ c :: rest, false⟩ = (some v, ⟨c :: rest, false⟩) := by
    intro base hne hread hbase hprint
    simp only [Conv.convert, hprint, takeSign_intChars, hbase, if_neg hne, hread]
    have hvalue : (if decide (v < 0) = true then -(v.natAbs : ℤ) else v.natAbs) = v := by
      split_ifs with hneg
      · rw [decide_eq_true_iff] at hneg
        omega
      · rw [decide_eq_true_iff] at hneg
        omega
    rw [hvalue]
    rfl
  have hten : readNat 10 (Nat.toDigits 10 v.natAbs ++ c :: rest) = some (v.natAbs, c :: rest) :=
    readNat_toDigits (by decide) (by decide) (ends_cons_of_isSpace hc 10) v.natAbs
  cases k with
  | d => exact hsigned 10 (by decide) hten rfl rfl
  | u => exact hsigned 10 (by decide) hten rfl rfl
  | i =>
    obtain ⟨base, hbase, hne, hread⟩ := readNat_base_i hc v.natAbs rest
    exact hsigned base hne hread hbase rfl
  | o =>
    have hread : readNat 8 (Nat.toDigits 8 v.natAbs ++ c :: rest) = some (v.natAbs, c :: rest) :=
      readNat_toDigits (by decide) (by decide) (ends_cons_of_isSpace hc 8) v.natAbs
    have hnonneg := hv rfl
    have hvalue : ((v.natAbs : ℕ) : ℤ) = v := by omega
    simp only [Conv.convert, Conv.print, takeSign_toDigits (by decide : 1 < 8) (by decide : 8 ≤ 10),
      Conv.base, if_neg (by decide : ¬ 8 = 16), hread, if_neg Bool.false_ne_true, hvalue]
    rfl

/-- A printed number starts with what is not white space. -/
lemma print_eq_cons (k : Conv) (v : ℤ) : ∃ d ds, k.print v = d :: ds ∧ isSpace d = false := by
  have hdigits : ∀ base, 1 < base → base ≤ 10 →
      ∃ d ds, Nat.toDigits base v.natAbs = d :: ds ∧ isSpace d = false := by
    intro base hbase hten
    obtain ⟨d, ds, -, hcons, hdigit⟩ := toDigits_append_eq_cons hbase hten v.natAbs []
    exact ⟨d, ds, hcons, (of_isDigit hdigit).1⟩
  have hint : ∃ d ds, intChars v = d :: ds ∧ isSpace d = false := by
    rw [intChars]
    split
    · exact ⟨'-', _, rfl, by decide⟩
    · exact hdigits 10 (by decide) (by decide)
  cases k with
  | o => exact hdigits 8 (by decide) (by decide)
  | d => exact hint
  | u => exact hint
  | i => exact hint

lemma skipSpace_skipSpace (f : File) : f.skipSpace.skipSpace = f.skipSpace := by
  simp [File.skipSpace, List.dropWhile_idempotent]

lemma skipSpace_cons_of_isSpace (hc : isSpace c = true) :
    File.skipSpace ⟨c :: text, false⟩ = File.skipSpace ⟨text, false⟩ := by
  simp [File.skipSpace, hc]

lemma skipSpace_blanks (n : ℕ) :
    File.skipSpace ⟨List.replicate n ' ' ++ text, false⟩ = File.skipSpace ⟨text, false⟩ := by
  induction n with
  | zero => rfl
  | succ n ih =>
    rw [List.replicate_succ, List.cons_append, skipSpace_cons_of_isSpace (by decide), ih]

lemma skipSpace_print (k : Conv) (v : ℤ) :
    File.skipSpace ⟨k.print v ++ text, false⟩ = ⟨k.print v ++ text, false⟩ := by
  obtain ⟨d, ds, hcons, hspace⟩ := print_eq_cons k v
  simp [File.skipSpace, hcons, hspace]

/-- What is behind a number starts with white space. -/
lemma Fields.eq_cons {fields : List (Conv × ℤ)} (h : Fields fields text) :
    ∃ c rest, text = c :: rest ∧ isSpace c = true := by
  cases h with
  | nil => exact ⟨'\n', [], rfl, by decide⟩
  | cons blanks h => exact ⟨' ', _, by rw [List.replicate_succ]; rfl, by decide⟩

/-- A conversion and the white space behind it. -/
lemma fscanf_conv_space (k : Conv) {v : ℤ} (hv : k = .o → 0 ≤ v)
    (htext : ∃ c rest, text = c :: rest ∧ isSpace c = true) (ds : List Directive) :
    fscanf (.conv k :: .space :: ds) ⟨k.print v ++ text, false⟩
      = (v :: (fscanf ds (File.skipSpace ⟨text, false⟩)).1,
        (fscanf ds (File.skipSpace ⟨text, false⟩)).2) := by
  obtain ⟨c, rest, rfl, hc⟩ := htext
  rw [fscanf, skipSpace_print, convert_print k hv hc]
  dsimp only
  rw [fscanf]

/-- The printed fields are converted back. -/
lemma Fields.fscanf {fields : List (Conv × ℤ)} (h : Fields fields text)
    (hv : ∀ field ∈ fields, field.1 = .o → 0 ≤ field.2) (more : List Char) :
    fscanf (directives (fields.map Prod.fst)) (File.skipSpace ⟨text ++ more, false⟩)
      = (fields.map Prod.snd, File.skipSpace ⟨more, false⟩) := by
  induction h with
  | nil =>
    rw [List.singleton_append, skipSpace_cons_of_isSpace (by decide)]
    rfl
  | @cons k v fields text blanks h ih =>
    have htext : ∃ c rest, text ++ more = c :: rest ∧ isSpace c = true := by
      obtain ⟨c, rest, rfl, hc⟩ := h.eq_cons
      exact ⟨c, rest ++ more, rfl, hc⟩
    have hdirectives : directives (((k, v) :: fields).map Prod.fst)
        = .conv k :: .space :: directives (fields.map Prod.fst) := rfl
    rw [List.append_assoc, List.append_assoc, skipSpace_blanks, skipSpace_print, hdirectives,
      fscanf_conv_space k (hv (k, v) List.mem_cons_self) htext,
      ih fun field hfield => hv field (List.mem_cons_of_mem (k, v) hfield)]
    rfl

lemma fscanf_skipSpace (k : Conv) (ds : List Directive) (f : File) :
    fscanf (.conv k :: ds) f.skipSpace = fscanf (.conv k :: ds) f := by
  rw [fscanf, fscanf, skipSpace_skipSpace]

lemma ofInt_toNat_uint32 (x : UInt32) : UInt32.ofInt x.toNat = x := by
  have hmod : ((x.toNat : ℤ) % 2 ^ 32).toNat = x.toNat := by
    have hlt := x.toNat_lt
    omega
  rw [UInt32.ofInt, hmod, UInt32.ofNat_toNat]

lemma ofInt_toNat_uint64 (x : UInt64) : UInt64.ofInt x.toNat = x := by
  have hmod : ((x.toNat : ℤ) % 2 ^ 64).toNat = x.toNat := by
    have hlt := x.toNat_lt
    omega
  rw [UInt64.ofInt, hmod, UInt64.ofNat_toNat]

/-- The values in a line are those of its record. -/
lemma ofValues_values (s : ShmData) : ShmData.ofValues s.values = some s := by
  simp only [ShmData.ofValues, ShmData.values, Int32.ofInt_toInt, Int64.ofInt_toInt,
    ofInt_toNat_uint32, ofInt_toNat_uint64]

/-- A line is read in one call, and the stream is then at the next one. -/
lemma Line.fscanf {s : ShmData} {line : List Char} (h : Line s line) {more : List Char} {f : File}
    (hf : f.skipSpace = File.skipSpace ⟨line ++ more, false⟩) :
    fscanf (directives shmConvs) f = (s.values, File.skipSpace ⟨more, false⟩) := by
  obtain @⟨k, v, fields, text, hzip, blanks, htext⟩ := h
  have hlength : shmConvs.length = s.values.length := rfl
  have hconvs : shmConvs = ((k, v) :: fields).map Prod.fst := by
    rw [← hzip, List.map_fst_zip hlength.le]
  have hvalues : s.values = ((k, v) :: fields).map Prod.snd := by
    rw [← hzip, List.map_snd_zip hlength.ge]
  -- the mode is the only octal number
  have hoctal : ∀ field ∈ (k, v) :: fields, field.1 = .o → 0 ≤ field.2 := by
    rw [← hzip]
    simp [shmConvs, ShmData.values]
  have hall : Fields ((k, v) :: fields) (List.replicate (blanks + 1) ' ' ++ (k.print v ++ text)) :=
    .cons blanks htext
  have hskip : f.skipSpace
      = File.skipSpace ⟨List.replicate (blanks + 1) ' ' ++ (k.print v ++ text) ++ more, false⟩ := by
    rw [hf]
    simp only [List.append_assoc, skipSpace_blanks]
  have hread := hall.fscanf hoctal more
  rw [← hskip, ← hconvs, ← hvalues] at hread
  exact (fscanf_skipSpace _ _ f).symm.trans hread

end Scanning

/-! ## The loop over the file -/

lemma add_one_add_ofNat (i : Int32) (n : ℕ) : i + 1 + .ofNat n = i + .ofNat (n + 1) := by
  rw [Int32.ofNat_add, Int32.add_assoc, Int32.add_comm 1]
  rfl

section Proc

variable {segments : List ShmData} {lines : List Char}

/-- The stream is at the first of the lines, or at the end of the file. -/
lemma Lines.feof_skipSpace (h : Lines segments lines) :
    (File.skipSpace ⟨lines, false⟩).feof = segments.isEmpty := by
  cases h with
  | nil => rfl
  | cons hline h =>
    obtain @⟨k, v, fields, text, -, blanks, -⟩ := hline
    rw [List.append_assoc, List.append_assoc, skipSpace_blanks, skipSpace_print]
    rfl

/-- From the first line on, every segment becomes an entry and is counted. -/
lemma procLoop_all (h : Lines segments lines) {f : File} (hfeof : f.feof = segments.isEmpty)
    (hf : f.skipSpace = File.skipSpace ⟨lines, false⟩) {fuel : ℕ} (hfuel : segments.length < fuel)
    (i : Int32) (entries : List ShmData) :
    procLoop (-1) fuel f i ⟨entries, .zero⟩
      = some (i + .ofNat segments.length, ⟨entries ++ segments, .zero⟩) := by
  induction h generalizing f fuel i entries with
  | nil =>
    obtain ⟨fuel, rfl⟩ : ∃ m, fuel = m + 1 := ⟨fuel - 1, by omega⟩
    rw [procLoop, hfeof]
    simp
  | @cons s line segments text hline h ih =>
    obtain ⟨fuel, rfl⟩ : ∃ m, fuel = m + 1 := ⟨fuel - 1, by omega⟩
    rw [List.length_cons] at hfuel
    rw [procLoop, hfeof, hline.fscanf hf]
    dsimp only
    rw [ofValues_values]
    dsimp only [List.isEmpty_cons]
    rw [if_neg Bool.false_ne_true, if_neg (by decide)]
    have hnext := ih (h.feof_skipSpace) (skipSpace_skipSpace _) (by omega : segments.length < fuel)
      (i + 1) (entries ++ [s])
    rw [Nodes.grow, hnext, add_one_add_ofNat, List.append_assoc]
    rfl

/-- With an id the loop ends at its line, and the only node is the last one. -/
lemma procLoop_single (h : Lines segments lines) {f : File} (hfeof : f.feof = segments.isEmpty)
    (hf : f.skipSpace = File.skipSpace ⟨lines, false⟩) {fuel : ℕ} (hfuel : segments.length < fuel)
    (i : Int32) (last : ShmData) {s : ShmData} (hs : s ∈ segments) (hid : 0 ≤ s.id)
    (hnodup : (segments.map ShmData.id).Nodup) :
    procLoop s.id fuel f i ⟨[], last⟩ = some (1, ⟨[], s⟩) := by
  induction h generalizing f fuel i last with
  | nil => cases hs
  | @cons first line segments text hline h ih =>
    obtain ⟨fuel, rfl⟩ : ∃ m, fuel = m + 1 := ⟨fuel - 1, by omega⟩
    rw [List.length_cons] at hfuel
    rw [List.map_cons, List.nodup_cons] at hnodup
    have hpos : -1 < s.id := Int32.lt_of_lt_of_le (by decide) hid
    rw [procLoop, hfeof, hline.fscanf hf]
    dsimp only
    rw [ofValues_values]
    dsimp only [List.isEmpty_cons]
    rw [if_neg Bool.false_ne_true, if_pos hpos]
    rcases List.mem_cons.mp hs with rfl | hs
    · rw [if_pos rfl]
    · have hne : s.id ≠ first.id := by
        intro heq
        exact hnodup.1 (heq ▸ List.mem_map_of_mem hs)
      rw [if_neg hne]
      exact ih h.feof_skipSpace (skipSpace_skipSpace _) (by omega) i first hs hnodup.2

/-- Behind the header the end of the file is not known yet, even if nothing follows. -/
lemma procLoop_start (h : Lines segments lines) {fuel : ℕ} (hfuel : segments.length + 1 < fuel) :
    procLoop (-1) fuel ⟨lines, false⟩ 0 ⟨[], .zero⟩
      = some (.ofNat segments.length, ⟨segments, .zero⟩) := by
  cases hsegments : segments with
  | nil =>
    rw [hsegments] at h hfuel
    cases h
    obtain ⟨fuel, rfl⟩ : ∃ m, fuel = m + 2 := ⟨fuel - 2, by rw [List.length_nil] at hfuel; omega⟩
    rfl
  | cons s rest =>
    rw [← hsegments]
    have hfeof : (false : Bool) = segments.isEmpty := by rw [hsegments]; rfl
    rw [procLoop_all h hfeof rfl (by omega) 0 [], List.nil_append, Int32.zero_add]

lemma skipHeader_append {header : List Char} (h : '\n' ∉ header) :
    skipHeader (header ++ '\n' :: lines) = some lines := by
  have hne : ∀ c ∈ header, (c != '\n') = true := by
    intro c hc
    rw [bne_iff_ne]
    rintro rfl
    exact h hc
  rw [skipHeader, List.dropWhile_append_of_pos hne]
  rfl

end Proc

/-! ## The loop over the indices -/

section Stat

variable (k : Kernel)

/-- Every slot in use becomes an entry, and every index is counted. -/
lemma statLoop_all (n i : ℕ) (entries : List ShmData) :
    statLoop k (-1) n i ⟨entries, .zero⟩ = (.ofNat (i + n),
      ⟨entries ++ ((k.slots.drop i).take n).reduceOption.map ShmData.stat, .zero⟩) := by
  induction n generalizing i entries with
  | zero => simp [statLoop]
  | succ n ih =>
    have hindex : i + 1 + n = i + (n + 1) := by omega
    rw [statLoop, Kernel.shmStat]
    cases hslot : k.slots[i]? with
    | none =>
      have hdrop : k.slots.drop i = [] :=
        List.drop_eq_nil_of_le (List.getElem?_eq_none_iff.mp hslot)
      have hdrop' : k.slots.drop (i + 1) = [] := by
        rw [← List.drop_drop, hdrop, List.drop_nil]
      simp only [Option.join_none, if_neg (by decide : ¬ (-1 : Int32) < -1), ih, hindex, hdrop,
        hdrop', List.take_nil]
    | some slot =>
      obtain ⟨hi, hget⟩ := List.getElem?_eq_some_iff.mp hslot
      have hdrop : k.slots.drop i = slot :: k.slots.drop (i + 1) := by
        rw [List.drop_eq_getElem_cons hi, hget]
      rw [Option.join_some, hdrop, List.take_succ_cons]
      cases slot with
      | none =>
        simp only [if_neg (by decide : ¬ (-1 : Int32) < -1), ih, hindex,
          List.reduceOption_cons_of_none]
      | some s =>
        simp only [if_pos (by decide : (-1 : Int32) < 0), Nodes.grow, ih, hindex,
          List.reduceOption_cons_of_some, List.map_cons, List.append_assoc, List.singleton_append]

/-- No slot in use is behind the highest index in use. -/
lemma reduceOption_take_shmInfo : (k.slots.take (k.shmInfo + 1)).reduceOption = k.segments := by
  have hnone : ∀ l : List (Option ShmData), (∀ slot ∈ l, slot.isNone = true) →
      l.reduceOption = [] := by
    intro l hl
    rw [List.reduceOption_eq_nil_iff]
    exact ⟨l.length, List.eq_replicate_iff.mpr ⟨rfl, fun slot hslot =>
      Option.isNone_iff_eq_none.mp (hl slot hslot)⟩⟩
  have hlength : (k.slots.rdropWhile Option.isNone).length ≤ k.shmInfo + 1 := by
    rw [Kernel.shmInfo]
    omega
  have hsplit : k.slots.rdropWhile Option.isNone ++ k.slots.rtakeWhile Option.isNone = k.slots :=
    List.rdropWhile_append_rtakeWhile
  have hbehind : ∀ slot ∈ k.slots.rtakeWhile Option.isNone, slot.isNone = true := fun slot hslot =>
    List.mem_rtakeWhile_imp hslot
  rw [Kernel.segments]
  generalize k.shmInfo + 1 = n at hlength
  rw [← hsplit, List.take_append, List.take_of_length_le hlength, List.reduceOption_append,
    List.reduceOption_append, hnone _ hbehind,
    hnone _ fun slot hslot => hbehind slot (List.mem_of_mem_take hslot)]

end Stat

/-! ## The calls -/

section Calls

variable (k : Kernel)

/-- What `ipc_shm_get_info` counts: the lines of the file, or the indices up to the highest. -/
def Kernel.count : ℕ :=
  match k.procSysvipcShm with
  | some _ => k.segments.length
  | none => k.shmInfo + 1

/-- `copyInfos` copies every entry and counts it once more. -/
lemma copyInfos_eq (entries : List ShmData) (cnt : Int32) (infos : Option (Nodes SmemInfo)) :
    copyInfos entries cnt infos = (cnt + .ofNat entries.length,
      if entries = [] then infos
      else some ⟨(infos.getD ⟨[], .zero⟩).entries ++ entries.map ShmData.info, .zero⟩) := by
  induction entries generalizing cnt infos with
  | nil => simp [copyInfos]
  | cons s rest ih =>
    rw [copyInfos, ih, add_one_add_ofNat, if_neg (List.cons_ne_nil s rest)]
    split
    · rename_i hrest
      subst hrest
      rfl
    · simp [Nodes.grow]

/-- Both counts together are an `int`. -/
lemma Kernel.count_add_lt : k.count + k.segments.length < 2 ^ 31 := by
  have hlength := k.length_lt
  have hsegments : k.segments.length ≤ k.slots.length := List.reduceOption_length_le k.slots
  have hprefix : (k.slots.rdropWhile Option.isNone).length ≤ k.slots.length :=
    (List.rdropWhile_prefix _ _).length_le
  rw [Kernel.count]
  split
  · omega
  · rw [Kernel.shmInfo]
    omega

lemma Kernel.segments_eq_nil_of_count (h : k.count = 0) : k.segments = [] := by
  rw [Kernel.count] at h
  split at h
  · exact List.length_eq_zero_iff.mp h
  · omega

/-- The list of the lower layer is right, whatever it counts. -/
lemma ipcShmGetInfo_all {fuel : ℕ} (hfuel : k.segments.length + 1 < fuel) :
    ∃ entries, ipcShmGetInfo k fuel (-1) = some (.ofNat k.count, ⟨entries, .zero⟩) ∧
      entries.map ShmData.info = k.segments.map ShmData.info := by
  rw [ipcShmGetInfo, Kernel.count]
  cases hproc : k.procSysvipcShm with
  | some text =>
    obtain ⟨header, lines, rfl, hheader, hlines⟩ := k.wellFormed text hproc
    refine ⟨k.segments, ?_, rfl⟩
    dsimp only
    rw [skipHeader_append hheader, Option.bind_eq_bind, Option.bind_some,
      procLoop_start hlines hfuel]
    rfl
  | none =>
    refine ⟨k.segments.map ShmData.stat, ?_, ?_⟩
    · dsimp only
      rw [if_pos (by decide), Nat.sub_zero, statLoop_all, List.drop_zero,
        reduceOption_take_shmInfo, Nat.zero_add, List.nil_append]
    · rw [List.map_map]
      rfl

/-- `smem_get_info` for all segments. -/
lemma smemGetInfo_all {fuel : ℕ} (hfuel : k.segments.length + 1 < fuel) :
    smemGetInfo k fuel (-1) = some (.ofNat (k.count + k.segments.length),
      if k.segments = [] then none else some ⟨k.segments.map ShmData.info, .zero⟩) := by
  obtain ⟨entries, hget, hinfos⟩ := ipcShmGetInfo_all k hfuel
  have hlength : entries.length = k.segments.length := by
    rw [← List.length_map ShmData.info, hinfos, List.length_map]
  have hnil : entries = [] ↔ k.segments = [] := by
    rw [← List.length_eq_zero_iff, hlength, List.length_eq_zero_iff]
  rw [smemGetInfo, hget, Option.bind_eq_bind, Option.bind_some]
  dsimp only
  by_cases hcount : k.count = 0
  · have hsegments := k.segments_eq_nil_of_count hcount
    rw [hcount, hsegments, if_neg (by decide), if_pos rfl]
    rfl
  · have hpos : 0 < Int32.ofNat k.count := by
      have hlt := k.count_add_lt
      rw [Int32.lt_iff_toInt_lt, Int32.toInt_ofNat_of_lt (by omega), Int32.toInt_zero]
      omega
    rw [if_pos hpos, copyInfos_eq, hlength, hinfos, Int32.ofNat_add]
    simp only [hnil]
    rfl

/-- `smem_get_info` for one segment: the list of the lower layer has no node with a `next`, so that
nothing is copied. -/
lemma smemGetInfo_single (hproc : k.procSysvipcShm.isSome) {s : ShmData} (hs : s ∈ k.segments)
    {fuel : ℕ} (hfuel : k.segments.length < fuel) :
    smemGetInfo k fuel s.id = some (1, none) := by
  obtain ⟨text, htext⟩ := Option.isSome_iff_exists.mp hproc
  obtain ⟨header, lines, rfl, hheader, hlines⟩ := k.wellFormed text htext
  have hfeof : (false : Bool) = k.segments.isEmpty := by
    cases hsegments : k.segments with
    | nil => rw [hsegments] at hs; cases hs
    | cons => rfl
  have hget : ipcShmGetInfo k fuel s.id = some (1, ⟨[], s⟩) := by
    rw [ipcShmGetInfo, htext]
    dsimp only
    rw [skipHeader_append hheader, Option.bind_eq_bind, Option.bind_some]
    exact procLoop_single hlines hfeof rfl hfuel 0 .zero hs (k.ids_nonneg s hs) k.ids_nodup
  rw [smemGetInfo, hget]
  rfl

/-- `smem_free_all_buffers` needs a list. -/
lemma smemFreeAllBuffers_eq {fuel : ℕ} (hfuel : k.segments.length + 1 < fuel) :
    smemFreeAllBuffers k fuel = some (if k.segments = [] then .nullDereference
      else .removed (k.segments.map ShmData.id)) := by
  have hcount : ¬ Int32.ofNat (k.count + k.segments.length) < 0 := by
    rw [Int32.lt_iff_toInt_lt, Int32.toInt_ofNat_of_lt k.count_add_lt, Int32.toInt_zero]
    omega
  rw [smemFreeAllBuffers, smemGetInfo_all k hfuel, Option.bind_eq_bind, Option.bind_some]
  dsimp only
  rw [if_neg hcount]
  split_ifs
  · rfl
  · dsimp only
    rw [List.map_map]
    rfl

end Calls

/-! ## Exact enumeration -/

/-- The call returns, once its loop may run long enough. -/
def Returns {α : Type} (call : ℕ → Option α) (result : α) : Prop :=
  ∃ enough, ∀ fuel ≥ enough, call fuel = some result

/-- The nodes before the end are the segments, with their id, uid, mode and size. -/
def Lists (infos : Option (Nodes SmemInfo)) (segments : List ShmData) : Prop :=
  List.Forall₂ (fun i s => i.id = s.id ∧ i.uid = s.uid ∧ i.mode = s.mode ∧
    i.size.toInt = s.segsz.toNat) ((infos.map Nodes.entries).getD []) segments

/-- What the three functions are for, on one table. -/
structure Exact (k : Kernel) : Prop where
  all : ∃ cnt infos, Returns (fun fuel => smemGetInfo k fuel (-1)) (cnt, infos) ∧
    cnt.toInt = k.segments.length ∧ Lists infos k.segments
  single : k.procSysvipcShm.isSome → ∀ s ∈ k.segments, ∃ infos,
    Returns (fun fuel => smemGetInfo k fuel s.id) (1, infos) ∧ Lists infos [s]
  freeAll : ∃ ids, Returns (smemFreeAllBuffers k) (.removed ids) ∧
    ids.Perm (k.segments.map ShmData.id)

lemma Returns.unique {α : Type} {call : ℕ → Option α} {a b : α} (ha : Returns call a)
    (hb : Returns call b) : a = b := by
  obtain ⟨n, hn⟩ := ha
  obtain ⟨m, hm⟩ := hb
  exact Option.some.inj ((hn (n + m) (by omega)).symm.trans (hm (n + m) (by omega)))

/-- The enumeration is exact for no table.  The list of all segments is right up to the sizes, but
the count has what the lower layer counted and each entry once more; for one id the count is right
and the list is missing; and an empty table gives no list, which `smem_free_all_buffers` follows
all the same. -/
theorem enumeration_never_exact (k : Kernel) :
    ¬ Exact k ∧
    Returns (fun fuel => smemGetInfo k fuel (-1)) (.ofNat (k.count + k.segments.length),
      if k.segments = [] then none else some ⟨k.segments.map ShmData.info, .zero⟩) ∧
    (k.procSysvipcShm.isSome → ∀ s ∈ k.segments,
      Returns (fun fuel => smemGetInfo k fuel s.id) (1, none)) ∧
    Returns (smemFreeAllBuffers k) (if k.segments = [] then .nullDereference
      else .removed (k.segments.map ShmData.id)) := by
  have hall : Returns (fun fuel => smemGetInfo k fuel (-1))
      (.ofNat (k.count + k.segments.length),
        if k.segments = [] then none else some ⟨k.segments.map ShmData.info, .zero⟩) :=
    ⟨k.segments.length + 2, fun fuel hfuel => smemGetInfo_all k (by omega)⟩
  have hfree : Returns (smemFreeAllBuffers k) (if k.segments = [] then .nullDereference
      else .removed (k.segments.map ShmData.id)) :=
    ⟨k.segments.length + 2, fun fuel hfuel => smemFreeAllBuffers_eq k (by omega)⟩
  refine ⟨?_, hall, ?_, hfree⟩
  · intro h
    obtain ⟨cnt, infos, hreturns, hcnt, -⟩ := h.all
    obtain ⟨ids, hremoved, -⟩ := h.freeAll
    have hresult := Prod.ext_iff.mp (hall.unique hreturns)
    dsimp only at hresult
    by_cases hsegments : k.segments = []
    · -- nothing to remove: the missing list is followed
      rw [if_pos hsegments] at hfree
      cases hfree.unique hremoved
    · -- each segment is counted by both layers
      rw [← hresult.1, Int32.toInt_ofNat_of_lt k.count_add_lt] at hcnt
      exact hsegments (k.segments_eq_nil_of_count (by omega))
  · intro hproc s hs
    exact ⟨k.segments.length + 1, fun fuel hfuel => smemGetInfo_single k hproc hs (by omega)⟩

/-- A table with one segment, at its index 1, on a system without the file. -/
def oneSegment : Kernel where
  slots := [none, some { ShmData.zero with id := 32769, segsz := 4096 }]
  procSysvipcShm := none
  length_lt := by decide
  ids_nonneg := by decide
  ids_nodup := by decide
  wellFormed := by simp

/-- Its count is 3. -/
theorem enumeration_not_exact_oneSegment : ¬ Exact oneSegment := by
  intro h
  obtain ⟨cnt, infos, ⟨enough, hreturns⟩, hcnt, -⟩ := h.all
  have hcall : smemGetInfo oneSegment enough (-1)
      = some (3, some ⟨[⟨32769, 4096, 0, 0⟩], .zero⟩) := rfl
  have hresult := Option.some.inj (hcall.symm.trans (hreturns enough le_rfl))
  obtain ⟨rfl, -⟩ := Prod.mk.inj hresult
  exact absurd hcnt (by decide)

end SelfTestCode.Broker.Segments
