import SelfTestCode.Broker.Tables

/-!
# What the sweep spares

`last_time` of a record is documented as its last use time, and the sweep removes the records that
have not been used for longer than its timeout.  This module puts a log of the uses of each buffer
beside the server (`logged`): `SMEMGET` answered its id, `SMEMPUBLISH` sent it, `SMEMFREE` named it
and left it in use.  The broker sets `last_time` in `SMEMGET` alone, so what the sweep goes by is
the last time a buffer was handed out (`LastGot`), and a buffer that was published late in its life
is destroyed under its readers.
-/

namespace SelfTestCode.Broker

variable {env : Env} {s : Server}

/-! ## The log -/

inductive UseKind
  | get
  | publish
  | free
  deriving DecidableEq, Repr

/-- A use of the buffer whose id is written `text`. -/
structure Use where
  kind : UseKind
  text : Sds
  time : Int64
  deriving DecidableEq

abbrev Log := List Use

/-- The uses in an `SMEMFREE`: the arguments that name a record which stays in use. -/
def freeUses (env : Env) : Server → List Sds → Log
  | _, [] => []
  | s, text :: args =>
    let s₁ := (smemfreeOne env s text).2
    (if text ∈ s₁.smempubsubMemorys then [⟨.free, text, s.unixtime⟩] else []) ++
      freeUses env s₁ args

/-- The uses in an event. -/
def usesOf (env : Env) (s : Server) : Op → Log
  | .smemget _ size =>
    if (smemgetCommand env s size).1 = -1 then []
    else [⟨.get, sdsfromlonglong (smemgetCommand env s size).1, s.unixtime⟩]
  | .smempublish _ _ message => [⟨.publish, message, s.unixtime⟩]
  | .smemfree _ args => freeUses env s args
  | _ => []

/-- The broker with the log beside it. -/
def logged (env : Env) : System (Server × Log) Op where
  Init sl := (broker env).Init sl.1 ∧ sl.2 = []
  step sl op := (step env sl.1 op).map fun s' => (s', usesOf env sl.1 op ++ sl.2)

/-- The clock does not run backwards. -/
def Forward (sl : Server × Log) : Op → Prop
  | .updateTime now => sl.1.unixtime ≤ now
  | _ => True

instance (sl : Server × Log) : (op : Op) → Decidable (Forward sl op)
  | .updateTime now => inferInstanceAs (Decidable (sl.1.unixtime ≤ now))
  | .connect | .setName _ _ | .smemget _ _ | .smemfree _ _ | .smemrm _ _ | .smemsubscribe _ _
  | .smempublish _ _ _ | .smemswitch _ _ _ | .disconnect _ | .sweep _ | .rehash _ => isTrue trivial

/-- The buffer was used at the time `t` or later. -/
def UsedSince (log : Log) (text : Sds) (t : ℤ) : Prop :=
  ∃ use ∈ log, use.text = text ∧ t ≤ use.time.toInt

/-- The buffer was handed out at the time `t` or later. -/
def GotSince (log : Log) (text : Sds) (t : ℤ) : Prop :=
  ∃ use ∈ log, use.kind = .get ∧ use.text = text ∧ t ≤ use.time.toInt

instance (log : Log) (text : Sds) (t : ℤ) : Decidable (UsedSince log text t) :=
  inferInstanceAs (Decidable (∃ use ∈ log, use.text = text ∧ t ≤ use.time.toInt))

/-- A sweep keeps every record in use whose buffer was used in the last `timeout` seconds. -/
def SparesRecent (env : Env) (sl : Server × Log) (timeout : Int32) : Prop :=
  ∀ key r, sl.1.smempubsubMemorys.lookup key = some r →
    UsedSince sl.2 (sdsfromlonglong r.id) (sl.1.unixtime.toInt - timeout.toInt) →
    ∃ r', (smemFreeShareMemory env timeout sl.1).2.smempubsubMemorys.lookup key = some r' ∧
      r'.id = r.id

/-- Every buffer in use that was used in the last `timeout` seconds was also handed out in them. -/
def RecentlyGot (sl : Server × Log) (timeout : Int32) : Prop :=
  ∀ key r, sl.1.smempubsubMemorys.lookup key = some r →
    UsedSince sl.2 (sdsfromlonglong r.id) (sl.1.unixtime.toInt - timeout.toInt) →
    GotSince sl.2 (sdsfromlonglong r.id) (sl.1.unixtime.toInt - timeout.toInt)

/-! ## `last_time` -/

/-- The buffer was last handed out at the time `t`. -/
structure LastGot (log : Log) (text : Sds) (t : Int64) : Prop where
  got : ∃ use ∈ log, use.kind = .get ∧ use.text = text ∧ use.time = t
  last : ∀ use ∈ log, use.kind = .get → use.text = text → use.time ≤ t

/-- Uses other than by `SMEMGET` do not count. -/
lemma LastGot.append {log uses : Log} {text : Sds} {t : Int64} (h : LastGot log text t)
    (huses : ∀ use ∈ uses, use.kind = .get → use.text ≠ text) : LastGot (uses ++ log) text t where
  got := by
    obtain ⟨use, hmem, hget⟩ := h.got
    exact ⟨use, List.mem_append_right _ hmem, hget⟩
  last := by
    intro use hmem hkind htext
    rcases List.mem_append.mp hmem with hmem | hmem
    · exact absurd htext (huses use hmem hkind)
    · exact h.last use hmem hkind htext

/-- The time of every record in use is the time it was last handed out. -/
def Dated (env : Env) (log : Log) (s : Server) : Prop :=
  TableInv env s ∧ ∀ {key r}, s.smempubsubMemorys.lookup key = some r → LastGot log key r.lastTime

/-- No event after `SMEMGET` sets `last_time` of a record that stays in use. -/
lemma Dated.moves (env : Env) (log : Log) : Moves env (Dated env log) where
  state h hr := (h.1.memorys hr).state
  recount {s key r} cnt hr hcnt h := by
    refine ⟨h.1.recount hr hcnt, ?_⟩
    intro key' r' hr'
    rw [Dict.lookup_insert_if] at hr'
    split at hr'
    · rename_i hkey
      have hgot := h.2 hr
      obtain rfl := Option.some.inj hr'
      rw [hkey]
      exact hgot
    · exact h.2 hr'
  recycle {s key r} cnt hr _ h := by
    refine ⟨h.1.recycle hr, ?_⟩
    intro key' r' hr'
    rw [TableInv.recycle_memorys, Dict.lookup_erase_if] at hr'
    split at hr'
    · cases hr'
    · exact h.2 hr'
  sweepNode {s key done r rest} timeout hl h := by
    refine ⟨h.1.sweepNode timeout hl, ?_⟩
    rw [TableInv.sweepNode_memorys]
    exact h.2
  sweepMemory {s key r} timeout hr h := by
    refine ⟨h.1.sweepMemory timeout hr, ?_⟩
    intro key' r' hr'
    rw [sweepMemory_memorys] at hr'
    cases hleft : (sweepRecord env timeout s r).1.left with
    | none =>
      rw [hleft] at hr'
      dsimp only at hr'
      rw [Dict.lookup_erase_if] at hr'
      split at hr'
      · cases hr'
      · exact h.2 hr'
    | some r₁ =>
      obtain ⟨n, rfl⟩ := sweepRecord_left hleft
      rw [hleft] at hr'
      dsimp only at hr'
      rw [Dict.lookup_insert_if] at hr'
      split at hr'
      · rename_i hkey
        have hgot := h.2 hr
        obtain rfl := Option.some.inj hr'
        rw [hkey]
        exact hgot
      · exact h.2 hr'

/-- The log and the clock: the uses lie in the past, and every record in use is dated by the last
`SMEMGET` that answered its id. -/
structure LogInv (env : Env) (s : Server) (log : Log) : Prop where
  dated : Dated env log s
  clock : 0 ≤ s.unixtime
  past : ∀ use ∈ log, 0 ≤ use.time ∧ use.time ≤ s.unixtime

namespace LogInv

variable {log : Log}

lemma init (systemMemorySize : UInt64) : LogInv env (initServer systemMemorySize) [] where
  dated := ⟨.init systemMemorySize, fun h => by simp [initServer] at h⟩
  clock := Int64.le_refl 0
  past use huse := by cases huse

/-- Uses at the present time, none of them by `SMEMGET`, go on the log. -/
lemma append {s' : Server} {uses : Log} (h : LogInv env s log) (hd : Dated env log s')
    (htime : s'.unixtime = s.unixtime)
    (huses : ∀ use ∈ uses, use.kind ≠ .get ∧ use.time = s.unixtime) :
    LogInv env s' (uses ++ log) where
  dated := by
    refine ⟨hd.1, ?_⟩
    intro key r hr
    exact (hd.2 hr).append fun use huse hkind => absurd hkind (huses use huse).1
  clock := by
    rw [htime]
    exact h.clock
  past use huse := by
    rw [htime]
    rcases List.mem_append.mp huse with huse | huse
    · rw [(huses use huse).2]
      exact ⟨h.clock, Int64.le_refl _⟩
    · exact h.past use huse

lemma smemget (henv : env.FreshIds) (h : LogInv env s log) (c : ClientId) (arg : Sds) :
    LogInv env (smemgetCommand env s arg).2 (usesOf env s (.smemget c arg) ++ log) := by
  have ht : TableInv env (smemgetCommand env s arg).2 :=
    (TableInv.preserves henv).smemgetCommand henv h.dated.1
  have htime : (smemgetCommand env s arg).2.unixtime = s.unixtime :=
    (tablesOnly_smemgetCommand env s arg).unixtime
  rcases h.dated.1.smemgetCommand_spec henv arg with ⟨hneg, hm, -, -⟩ | hout
  · have huses : usesOf env s (.smemget c arg) = [] := if_pos hneg
    rw [huses]
    refine h.append ⟨ht, ?_⟩ htime (fun use huse => by cases huse)
    rw [hm]
    exact h.dated.2
  · have huses : usesOf env s (.smemget c arg)
        = [⟨.get, sdsfromlonglong (smemgetCommand env s arg).1, s.unixtime⟩] :=
      if_neg hout.issued.2.1
    obtain ⟨r₁, -, -, hlast, hmem⟩ := hout.memorys
    rw [huses, List.singleton_append]
    refine ⟨⟨ht, ?_⟩, by rw [htime]; exact h.clock, ?_⟩
    · intro key r hr
      rw [hmem, Dict.lookup_insert_if] at hr
      split at hr
      · rename_i hkey
        obtain rfl := Option.some.inj hr
        rw [hlast]
        refine ⟨⟨_, List.mem_cons_self, rfl, hkey.symm, rfl⟩, ?_⟩
        intro use huse _ _
        rcases List.mem_cons.mp huse with rfl | huse
        · exact Int64.le_refl _
        · exact (h.past use huse).2
      · rename_i hkey
        rw [← List.singleton_append]
        refine (h.dated.2 hr).append ?_
        intro use huse _ htext
        obtain rfl := List.mem_singleton.mp huse
        exact hkey htext.symm
    · intro use huse
      rw [htime]
      rcases List.mem_cons.mp huse with rfl | huse
      · exact ⟨h.clock, Int64.le_refl _⟩
      · exact h.past use huse

lemma freeUses_mem {args : List Sds} : ∀ {s : Server}, ∀ use ∈ freeUses env s args,
    use.kind ≠ .get ∧ use.time = s.unixtime := by
  induction args with
  | nil =>
    intro s use huse
    cases huse
  | cons text args ih =>
    intro s use huse
    rcases List.mem_append.mp huse with huse | huse
    · split at huse
      · obtain rfl := List.mem_singleton.mp huse
        exact ⟨UseKind.noConfusion, rfl⟩
      · cases huse
    · obtain ⟨hkind, htime⟩ := ih use huse
      exact ⟨hkind, htime.trans (tablesOnly_smemfreeOne env s text).unixtime⟩

lemma step (henv : env.FreshIds) {s' : Server} {op : Op} (h : LogInv env s log)
    (hok : Forward (s, log) op) (hs : step env s op = some s') :
    LogInv env s' (usesOf env s op ++ log) := by
  cases hop : op.touchesTables with
  | false =>
    have hsame := sameTables_step hop hs
    have hdated : Dated env log s' := by
      refine ⟨h.dated.1.same hsame, ?_⟩
      rw [hsame.memorys]
      exact h.dated.2
    have hnone : usesOf env s op = [] := by
      cases op with
      | smemget c size => cases hop
      | smemfree c args => cases hop
      | smempublish c channel message => cases hop
      | _ => rfl
    rw [hnone]
    cases htime : op.isUpdateTime with
    | false =>
      exact h.append hdated (indexOnly_step hop htime hs).unixtime (fun use huse => by cases huse)
    | true =>
      cases op with
      | updateTime now =>
        obtain rfl := Option.some.inj hs
        refine ⟨hdated, Int64.le_trans h.clock hok, ?_⟩
        intro use huse
        obtain ⟨hnonneg, hle⟩ := h.past use huse
        exact ⟨hnonneg, Int64.le_trans hle hok⟩
      | _ => cases htime
  | true =>
    have htime : s'.unixtime = s.unixtime := (tablesOnly_step hop hs).unixtime
    have hmoves := Dated.moves env log
    cases op with
    | smemget c size =>
      obtain ⟨cl, -, rfl⟩ := Option.map_eq_some_iff.mp hs
      exact h.smemget henv c size
    | smemfree c args =>
      obtain ⟨cl, -, rfl⟩ := Option.map_eq_some_iff.mp hs
      exact h.append (hmoves.smemfreeCommand h.dated) htime freeUses_mem
    | smemrm c args =>
      obtain ⟨cl, -, rfl⟩ := Option.map_eq_some_iff.mp hs
      have hdated : Dated env log (smemrmCommand env s args).2 :=
        smemrmCommand_rule (fun h => h.1.list)
          (fun _ _ n _ _ h => ⟨h.1.smemFreeBuffer n.toInt32, h.2⟩) h.dated
      exact h.append hdated htime (fun use huse => by cases huse)
    | smempublish c channel message =>
      obtain ⟨cl, -, hs⟩ := Option.bind_eq_some_iff.mp hs
      obtain ⟨r, hr, rfl⟩ := Option.map_eq_some_iff.mp hs
      refine h.append
        (hmoves.smempubsubPublishMessage h.dated (except_toOption_eq_some.mp hr)) htime ?_
      intro use huse
      obtain rfl := List.mem_singleton.mp huse
      exact ⟨UseKind.noConfusion, rfl⟩
    | sweep timeout =>
      obtain rfl := Option.some.inj hs
      exact h.append (hmoves.smemFreeShareMemory timeout h.dated) htime
        (fun use huse => by cases huse)
    | _ => cases hop

lemma of_reachable (henv : env.FreshIds) {sl : Server × Log}
    (h : (logged env).Reachable Forward sl) : LogInv env sl.1 sl.2 := by
  refine h.invariant (I := fun sl => LogInv env sl.1 sl.2) ?_ ?_
  · rintro ⟨s, log⟩ ⟨⟨size, rfl⟩, rfl⟩
    exact init size
  · rintro ⟨s, log⟩ op sl' _ hs hok hstep
    obtain ⟨s', hs', rfl⟩ := Option.map_eq_some_iff.mp hstep
    exact hs.step henv hok hs'

end LogInv

/-! ## The sweep -/

/-- With times that are not negative, the subtraction of the sweep does not wrap. -/
lemma expired_iff {timeout : Int32} {r : SmemT} (hpos : 0 ≤ r.lastTime)
    (hle : r.lastTime ≤ s.unixtime) :
    expired s timeout r = true ↔ r.lastTime.toInt < s.unixtime.toInt - timeout.toInt := by
  have hpos' := Int64.le_iff_toInt_le.mp hpos
  have hle' := Int64.le_iff_toInt_le.mp hle
  have hmax := s.unixtime.toInt_lt
  have hzero : (0 : Int64).toInt = 0 := rfl
  have hsub : (s.unixtime - r.lastTime).toInt = s.unixtime.toInt - r.lastTime.toInt := by
    rw [Int64.toInt_sub]
    exact Int.bmod_eq_of_le (by omega) (by omega)
  rw [expired, decide_eq_true_iff, Int64.lt_iff_toInt_lt, hsub, Int32.toInt_toInt64]
  omega

lemma sweepMemory_lookup_of_ne (env : Env) (timeout : Int32) {key key' : Sds} (hne : key' ≠ key)
    (s : Server) (r : SmemT) :
    (sweepMemory env timeout key s r).2.smempubsubMemorys.lookup key'
      = s.smempubsubMemorys.lookup key' := by
  rw [sweepMemory_memorys]
  cases (sweepRecord env timeout s r).1.left with
  | none => exact (Dict.lookup_erase_if _ _ _).trans (if_neg hne)
  | some r' => exact (Dict.lookup_insert_if _ _ _ _).trans (if_neg hne)

lemma sweepMemory_unixtime (env : Env) (timeout : Int32) (key : Sds) (s : Server) (r : SmemT) :
    (sweepMemory env timeout key s r).2.unixtime = s.unixtime :=
  (tablesOnly_sweepRecord env timeout s r).unixtime

/-- A record that has not expired is kept as it is. -/
lemma sweep_keeps {timeout : Int32} {key : Sds} {r : SmemT}
    (hr : s.smempubsubMemorys.lookup key = some r) (hexp : ¬ expired s timeout r = true) :
    (smemFreeShareMemory env timeout s).2.smempubsubMemorys.lookup key = some r := by
  have hrule : ∀ s : Server, (smemFreeShareMemory env timeout s).2.unixtime = s.unixtime ∧
      (s.smempubsubMemorys.lookup key = some r → ¬ expired s timeout r = true →
        (smemFreeShareMemory env timeout s).2.smempubsubMemorys.lookup key = some r) := by
    intro s
    refine smemFreeShareMemory_rule (R := fun s _ s' => s'.unixtime = s.unixtime ∧
      (s.smempubsubMemorys.lookup key = some r → ¬ expired s timeout r = true →
        s'.smempubsubMemorys.lookup key = some r)) ?_ ?_ ?_ ?_
    · exact fun s => ⟨rfl, fun h _ => h⟩
    · rintro s s' s'' _ _ ⟨htime, hkeep⟩ ⟨htime', hkeep'⟩
      refine ⟨htime'.trans htime, fun h hexp => hkeep' (hkeep h hexp) ?_⟩
      rw [expired, htime]
      exact hexp
    · intro s key' done r' rest _
      refine ⟨(tablesOnly_sweepRecord env timeout s r').unixtime, fun h _ => ?_⟩
      rw [TableInv.sweepNode_memorys]
      exact h
    · intro s key' r' hr'
      refine ⟨sweepMemory_unixtime env timeout key' s r', fun h hexp => ?_⟩
      by_cases hkey : key = key'
      · subst hkey
        obtain rfl : r' = r := Option.some.inj (hr'.symm.trans h)
        rw [sweepMemory_memorys, sweepRecord_of_not_expired hexp]
        exact AList.lookup_insert _
      · rw [sweepMemory_lookup_of_ne env timeout hkey]
        exact h
  exact (hrule s).2 hr hexp

/-- The second loop brings no record back. -/
lemma sweepMemorys_lookup_none {timeout : Int32} {key : Sds} {keys : List Sds}
    (h : s.smempubsubMemorys.lookup key = none) :
    (sweepMemorys env timeout keys s).2.smempubsubMemorys.lookup key = none := by
  refine sweepMemorys_rule (R := fun s _ s' => s.smempubsubMemorys.lookup key = none →
    s'.smempubsubMemorys.lookup key = none) (fun _ h => h) (fun h h' hs => h' (h hs)) ?_ h
  intro s key' r' hr' h
  have hne : key ≠ key' := by
    rintro rfl
    rw [h] at hr'
    cases hr'
  rw [sweepMemory_lookup_of_ne env timeout hne]
  exact h

/-- When every `IPC_RMID` succeeds, an expired record that is visited is removed. -/
lemma sweepMemorys_removes (hrmid : ∀ i id e, env.rmid i id e = true) {timeout : Int32}
    {key : Sds} {r : SmemT} : ∀ {keys : List Sds} {s : Server}, key ∈ keys →
    s.smempubsubMemorys.lookup key = some r → expired s timeout r = true →
    (sweepMemorys env timeout keys s).2.smempubsubMemorys.lookup key = none := by
  intro keys
  induction keys with
  | nil => exact fun hmem => by cases hmem
  | cons key' keys ih =>
    intro s hmem hr hexp
    by_cases hkey : key = key'
    · subst hkey
      have hgone : (sweepMemory env timeout key s r).2.smempubsubMemorys.lookup key = none := by
        rw [sweepMemory_memorys, sweepRecord_of_expired hexp]
        simp only [smemFreeBuffer, hrmid, if_true]
        exact AList.lookup_erase _ _
      rw [sweepMemorys, hr]
      exact sweepMemorys_lookup_none hgone
    · have hmem' : key ∈ keys := (List.mem_cons.mp hmem).resolve_left hkey
      rw [sweepMemorys]
      cases hr' : s.smempubsubMemorys.lookup key' with
      | none => exact ih hmem' hr hexp
      | some r' =>
        refine ih (s := (sweepMemory env timeout key' s r').2) hmem' ?_ ?_
        · rw [sweepMemory_lookup_of_ne env timeout hkey]
          exact hr
        · rw [expired, sweepMemory_unixtime]
          exact hexp

lemma sweepAvailable_frame (env : Env) (timeout : Int32) (keys : List Sds) (s : Server) :
    (sweepAvailable env timeout keys s).2.smempubsubMemorys = s.smempubsubMemorys ∧
      (sweepAvailable env timeout keys s).2.unixtime = s.unixtime := by
  refine sweepAvailable_rule (R := fun s _ s' => s'.smempubsubMemorys = s.smempubsubMemorys ∧
    s'.unixtime = s.unixtime) (fun _ => ⟨rfl, rfl⟩) ?_ ?_
  · exact fun h h' => ⟨h'.1.trans h.1, h'.2.trans h.2⟩
  · intro s key done r rest _
    exact ⟨TableInv.sweepNode_memorys env timeout key done rest s r,
      (tablesOnly_sweepRecord env timeout s r).unixtime⟩

lemma sweep_removes (hrmid : ∀ i id e, env.rmid i id e = true) {timeout : Int32} {key : Sds}
    {r : SmemT} (hr : s.smempubsubMemorys.lookup key = some r)
    (hexp : expired s timeout r = true) :
    (smemFreeShareMemory env timeout s).2.smempubsubMemorys.lookup key = none := by
  obtain ⟨hm, htime⟩ := sweepAvailable_frame env timeout s.smempubsubMemorysAvailable.keys s
  rw [← hm] at hr
  refine sweepMemorys_removes hrmid ?_ hr ?_
  · rw [← AList.mem_keys, ← AList.lookup_isSome, hr]
    rfl
  · rw [expired, htime]
    exact hexp

/-- In every run in which the clock does not run backwards, and whatever the kernel answers to
`IPC_RMID`: the next sweep keeps the buffers used in the last `timeout` seconds exactly when they
were also handed out in them. -/
theorem sweep_spares_recent_iff (henv : env.FreshIds) {sl : Server × Log}
    (h : (logged env).Reachable Forward sl) (timeout : Int32) :
    (∀ rmid, SparesRecent { env with rmid := rmid } sl timeout) ↔ RecentlyGot sl timeout := by
  obtain ⟨s, log⟩ := sl
  have hinv := LogInv.of_reachable henv h
  dsimp only at hinv
  have hkey : ∀ {key r}, s.smempubsubMemorys.lookup key = some r → key = sdsfromlonglong r.id :=
    fun hr => (hinv.dated.1.memorys hr).key_eq
  have hexpired : ∀ {key r}, s.smempubsubMemorys.lookup key = some r →
      (expired s timeout r = true ↔ r.lastTime.toInt < s.unixtime.toInt - timeout.toInt) := by
    intro key r hr
    obtain ⟨use, huse, -, -, htime⟩ := (hinv.dated.2 hr).got
    obtain ⟨hpos, hle⟩ := hinv.past use huse
    rw [htime] at hpos hle
    exact expired_iff hpos hle
  constructor
  · intro hspares key r hr hused
    obtain ⟨use, huse, hkind, htext, htime⟩ := (hinv.dated.2 hr).got
    refine ⟨use, huse, hkind, htext.trans (hkey hr), ?_⟩
    rw [htime]
    -- otherwise the record has expired, and a kernel that removes what it is asked to removes it
    by_contra hold
    obtain ⟨r', hr', -⟩ := hspares (fun _ _ _ => true) key r hr hused
    have hgone : AList.lookup key (smemFreeShareMemory { env with rmid := fun _ _ _ => true }
        timeout s).2.smempubsubMemorys = none :=
      sweep_removes (fun _ _ _ => rfl) hr ((hexpired hr).mpr (not_le.mp hold))
    exact Option.some_ne_none r' (hr'.symm.trans hgone)
  · intro hgot rmid key r hr hused
    obtain ⟨use, huse, hkind, htext, hsince⟩ := hgot key r hr hused
    dsimp only at hsince
    have hlast : use.time ≤ r.lastTime :=
      (hinv.dated.2 hr).last use huse hkind (htext.trans (hkey hr).symm)
    have hlast' := Int64.le_iff_toInt_le.mp hlast
    refine ⟨r, sweep_keeps hr ?_, rfl⟩
    rw [hexpired hr]
    omega

/-- A buffer is handed out at the time 100; the clock then shows 104. -/
def getAtHundred : List Op :=
  [.connect, .updateTime 100, .smemget 1 "4096", .updateTime 104]

theorem sweep_spares_recent_iff_getAtHundred :
    ∃ sl, (logged sampleEnv).run (initServer 100000, []) getAtHundred = some sl ∧
      sl.2 = [⟨.get, "2", 100⟩] ∧ ∀ rmid, SparesRecent { sampleEnv with rmid := rmid } sl 5 := by
  have hrun : ((logged sampleEnv).run (initServer 100000, []) getAtHundred).map
      (fun sl => (sl.2, sl.1.unixtime)) = some ([⟨.get, "2", 100⟩], 104) := by decide
  obtain ⟨sl, hs, hlog⟩ := Option.map_eq_some_iff.mp hrun
  have hlog' : sl.2 = [⟨.get, "2", 100⟩] := congrArg Prod.fst hlog
  have hreach : (logged sampleEnv).Reachable Forward sl :=
    .of_run (.init ⟨⟨_, rfl⟩, rfl⟩) (by decide) hs
  refine ⟨sl, hs, hlog', ?_⟩
  refine (sweep_spares_recent_iff sampleEnv_freshIds hreach 5).mpr ?_
  intro key r hr ⟨use, huse, htext, hsince⟩
  -- the only use is the `SMEMGET`
  have honly := huse
  rw [hlog', List.mem_singleton] at honly
  refine ⟨use, huse, ?_, htext, hsince⟩
  rw [honly]

/-- A buffer is handed out at the time 100 and published to a subscriber at the time 110.  A sweep
with a timeout of 5 seconds at that very time destroys it. -/
theorem sweep_destroys_recent :
    ∃ sl, (logged sampleEnv).run (initServer 100000, [])
        [.connect, .connect, .smemsubscribe 2 ["ch"], .updateTime 100, .smemget 1 "4096",
          .updateTime 110, .smempublish 1 "ch" "2"] = some sl ∧
      sl.1.unixtime = 110 ∧ (⟨.publish, "2", 110⟩ : Use) ∈ sl.2 ∧
      (sl.1.smempubsubMemorys.lookup "2").map SmemT.cnt = some 1 ∧
      (smemFreeShareMemory sampleEnv 5 sl.1).2.smempubsubMemorys.lookup "2" = none ∧
      ¬ SparesRecent sampleEnv sl 5 := by
  have hrun : ((logged sampleEnv).run (initServer 100000, [])
      [.connect, .connect, .smemsubscribe 2 ["ch"], .updateTime 100, .smemget 1 "4096",
        .updateTime 110, .smempublish 1 "ch" "2"]).map (fun sl => (sl.1.unixtime, sl.2,
          (sl.1.smempubsubMemorys.lookup "2").map fun r => (r.id, r.cnt),
          (smemFreeShareMemory sampleEnv 5 sl.1).2.smempubsubMemorys.lookup "2"))
        = some (110, [⟨.publish, "2", 110⟩, ⟨.get, "2", 100⟩], some (2, 1), none) := by decide
  obtain ⟨sl, hs, hall⟩ := Option.map_eq_some_iff.mp hrun
  simp only [Prod.mk.injEq] at hall
  obtain ⟨htime, hlog, hrecord, hgone⟩ := hall
  obtain ⟨r, hr, hid⟩ := Option.map_eq_some_iff.mp hrecord
  simp only [Prod.mk.injEq] at hid
  have hmem : (⟨.publish, "2", 110⟩ : Use) ∈ sl.2 := by simp [hlog]
  refine ⟨sl, hs, htime, hmem, ?_, hgone, ?_⟩
  · rw [hr, Option.map_some, hid.2]
  · intro hspares
    have htwo : sdsfromlonglong r.id = "2" := by
      rw [hid.1]
      decide
    obtain ⟨r', hr', -⟩ := hspares "2" r hr ⟨_, hmem, htwo.symm, by rw [htime]; decide⟩
    rw [hgone] at hr'
    cases hr'

end SelfTestCode.Broker
