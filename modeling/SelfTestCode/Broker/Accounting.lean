import SelfTestCode.Broker.Tables

/-!
# The accounting of shared memory

`server.share_memory_size` is one unsigned counter that allocation, the pool-full branches of
`SMEMFREE` and `SMEMPUBLISH`, and the sweep update each on their own.  As long as `IPC_RMID`
succeeds on existing segments and nobody uses `SMEMRM`, the counter, the two tables and the
kernel describe the same memory (`AccountInv`), and the counter never passes the limit.

When `IPC_RMID` fails, the sweep is not atomic: it subtracts the size of the record before it
calls the kernel and does not add it back when it keeps the record for a retry.  The second half
of the module says exactly when a sequence of sweeps keeps the books right.
-/

namespace SelfTestCode.Broker

variable {env : Env} {s : Server}

/-- The kernel segment a record stands for. -/
def SmemT.segment (r : SmemT) : Segment := ⟨r.id, r.size⟩

/-- What a record counts for in `share_memory_size`. -/
def SmemT.bytes (r : SmemT) : ℕ := (sizeT r.size).toNat

/-- The sum of the sizes of a collection of records. -/
def total (m : Multiset SmemT) : ℕ := (m.map SmemT.bytes).sum

@[simp] lemma total_cons (r : SmemT) (m : Multiset SmemT) :
    total (r ::ₘ m) = r.bytes + total m := by
  simp [total]

@[simp] lemma total_zero : total 0 = 0 := rfl

@[simp] lemma total_add (m n : Multiset SmemT) : total (m + n) = total m + total n := by
  simp [total]

lemma sizeT_toNat {size : Int32} (h : GoodSize size) : ((sizeT size).toNat : ℤ) = size.toInt := by
  have hpos := h.pos
  have hmax := h.le_max
  have hcast : (sizeT size).toNat = (size.toInt64.toBitVec).toNat := rfl
  have hint : size.toInt64.toBitVec.toInt = size.toInt := Int32.toInt_toInt64 size
  rw [BitVec.toInt_eq_toNat_cond] at hint
  split at hint <;> omega

/-- The tables, the counter and the kernel describe the same memory. -/
structure AccountInv (env : Env) (s : Server) : Prop where
  tables : TableInv env s
  segs : (s.segs : Multiset Segment) = (tracked s).map SmemT.segment
  size : s.shareMemorySize.toNat = total (tracked s)
  le_limit : s.shareMemorySize.toNat ≤ s.shareMemoryLimit.toNat
  limit_lt : s.shareMemoryLimit.toNat < 2 ^ 63

namespace AccountInv

lemma init (systemMemorySize : UInt64) : AccountInv env (initServer systemMemorySize) where
  tables := .init systemMemorySize
  segs := rfl
  size := rfl
  le_limit := Nat.zero_le _
  limit_lt := by
    have hlt := systemMemorySize.toNat_lt
    have hdiv : (initServer systemMemorySize).shareMemoryLimit.toNat
        = systemMemorySize.toNat / 2 := UInt64.toNat_div systemMemorySize 2
    omega

/-- A move that only rewrites records, keeping ids and sizes, keeps the books. -/
lemma of_segments {s' : Server} (h : AccountInv env s) (ht : TableInv env s')
    (htr : (tracked s').map SmemT.segment = (tracked s).map SmemT.segment)
    (hsegs : s'.segs = s.segs) (hsize : s'.shareMemorySize = s.shareMemorySize)
    (hlimit : s'.shareMemoryLimit = s.shareMemoryLimit) : AccountInv env s' where
  tables := ht
  segs := by rw [hsegs, htr, h.segs]
  size := by
    have hbytes : ∀ m : Multiset SmemT,
        total m = ((m.map SmemT.segment).map fun g => (sizeT g.size).toNat).sum := by
      intro m
      rw [Multiset.map_map]
      rfl
    rw [hsize, h.size, hbytes, hbytes, htr]
  le_limit := by
    rw [hsize, hlimit]
    exact h.le_limit
  limit_lt := by
    rw [hlimit]
    exact h.limit_lt

lemma same {s' : Server} (hs : SameTables s s') (h : AccountInv env s) : AccountInv env s' := by
  refine h.of_segments (h.tables.same hs) ?_ hs.segs hs.size hs.limit
  simp only [tracked, used, pooled, hs.memorys, hs.available]

/-- The segment of a tracked record exists, so removing it succeeds and leaves the segments of
the others. -/
lemma removed (hrm : env.RmidSucceeds) (h : AccountInv env s) {r : SmemT} {m : Multiset SmemT}
    (hs : tracked s = r ::ₘ m) (s₁ : Server) (hsegs : s₁.segs = s.segs) :
    (smemFreeBuffer env s₁ r.id).1 = true ∧
      ((smemFreeBuffer env s₁ r.id).2.segs : Multiset Segment) = m.map SmemT.segment := by
  have hmem : r.segment ∈ s.segs := by
    rw [← Multiset.mem_coe, h.segs, hs]
    simp
  have hexists : (s₁.segs.any fun g => g.id == r.id) = true := by
    rw [hsegs, List.any_eq_true]
    exact ⟨r.segment, hmem, by simp [SmemT.segment]⟩
  have hok : (smemFreeBuffer env s₁ r.id).1 = true := by
    show env.rmid s₁.calls r.id (s₁.segs.any fun g => g.id == r.id) = true
    rw [hexists]
    exact hrm _ _
  refine ⟨hok, ?_⟩
  have hfilter : (smemFreeBuffer env s₁ r.id).2.segs = s.segs.filter fun g => g.id != r.id := by
    rw [← hsegs]
    exact if_pos hok
  have hnodup := h.tables.ids_nodup
  rw [hs] at hnodup
  have hother : ∀ g ∈ m.map SmemT.segment, g.id ≠ r.id := by
    intro g hg heq
    obtain ⟨r', hr', rfl⟩ := Multiset.mem_map.mp hg
    have hid : r'.id = r.id := heq
    exact TableInv.id_notMem hnodup (hid ▸ Multiset.mem_map_of_mem _ hr')
  have hcoe : ((s.segs.filter fun g => g.id != r.id : List Segment) : Multiset Segment)
      = (s.segs : Multiset Segment).filter fun g => g.id ≠ r.id := by
    rw [Multiset.filter_coe]
    exact congrArg _ (List.filter_congr fun g _ => by simp [bne, beq_eq_decide])
  rw [hfilter, hcoe, h.segs, hs, Multiset.map_cons,
    Multiset.filter_cons_of_neg _ (by simp [SmemT.segment])]
  exact Multiset.filter_eq_self.mpr hother

/-- A tracked record is covered by the counter, so subtracting it does not wrap. -/
lemma sub_toNat (h : AccountInv env s) {r : SmemT} {m : Multiset SmemT}
    (hs : tracked s = r ::ₘ m) : (s.shareMemorySize - sizeT r.size).toNat = total m := by
  have hsize := h.size
  rw [hs, total_cons, SmemT.bytes] at hsize
  have hle : sizeT r.size ≤ s.shareMemorySize := by
    rw [UInt64.le_iff_toNat_le]
    omega
  rw [UInt64.toNat_sub_of_le _ _ hle]
  omega

/-- A record is dropped together with its segment and its bytes. -/
lemma drop (h : AccountInv env s) {s' : Server} {r : SmemT} {m : Multiset SmemT}
    (hs : tracked s = r ::ₘ m) (ht : TableInv env s') (hs' : tracked s' = m)
    (hsegs : (s'.segs : Multiset Segment) = m.map SmemT.segment)
    (hsize : s'.shareMemorySize = s.shareMemorySize - sizeT r.size)
    (hlimit : s'.shareMemoryLimit = s.shareMemoryLimit) : AccountInv env s' where
  tables := ht
  segs := by rw [hs', hsegs]
  size := by rw [hsize, h.sub_toNat hs, hs']
  le_limit := by
    have hle := h.le_limit
    have hold := h.size
    rw [hs, total_cons] at hold
    rw [hsize, hlimit, h.sub_toNat hs]
    omega
  limit_lt := by
    rw [hlimit]
    exact h.limit_lt

/-! ## The moves -/

lemma probe (hrm : env.RmidSucceeds) {size : Int32} (hzero : env.shmget s.calls = 0)
    (h : AccountInv env s) : AccountInv env (probe env s size) := by
  have ht : TableInv env (Broker.probe env s size) :=
    h.tables.kernel (s := s) rfl rfl rfl (Nat.le_add_right _ 2)
  refine h.of_segments ht rfl ?_ rfl rfl
  -- the segment with id 0 comes and goes; no tracked segment has the id 0
  have hsegs : (shmget env s size).2.segs = ⟨0, size⟩ :: s.segs := by
    simp [shmget, hzero]
  have hok : (smemFreeBuffer env (shmget env s size).2 0).1 = true := by
    have hexists : ((shmget env s size).2.segs.any fun g => g.id == 0) = true := by
      simp [hsegs]
    show env.rmid _ 0 ((shmget env s size).2.segs.any fun g => g.id == 0) = true
    rw [hexists]
    exact hrm _ _
  have hfilter : (Broker.probe env s size).segs
      = (shmget env s size).2.segs.filter fun g => g.id != 0 := if_pos hok
  rw [hfilter, hsegs, List.filter_cons_of_neg (by simp), List.filter_eq_self]
  intro g hg
  rw [← Multiset.mem_coe, h.segs] at hg
  obtain ⟨r, hr, rfl⟩ := Multiset.mem_map.mp hg
  simpa [SmemT.segment] using (h.tables.issued hr).1

lemma create (henv : env.FreshIds) {size : Int32} (hgood : GoodSize size)
    (hfits : s.shareMemorySize + sizeT size ≤ s.shareMemoryLimit)
    (hneg : env.shmget s.calls ≠ -1) (hzero : env.shmget s.calls ≠ 0) (h : AccountInv env s) :
    AccountInv env (smemgetAdopt (shmget env s size).2 (env.shmget s.calls) size) := by
  have htracked := h.tables.tracked_create henv size
  have hsum : (s.shareMemorySize + sizeT size).toNat
      = s.shareMemorySize.toNat + (sizeT size).toNat := by
    have hsize := sizeT_toNat hgood
    have hmax := hgood.le_max
    have hle := h.le_limit
    have hlt := h.limit_lt
    rw [UInt64.toNat_add]
    omega
  refine ⟨h.tables.create henv hgood hneg hzero, ?_, ?_, ?_, h.limit_lt⟩
  · have hsegs : (smemgetAdopt (shmget env s size).2 (env.shmget s.calls) size).segs
        = ⟨env.shmget s.calls, size⟩ :: s.segs := if_neg hneg
    rw [hsegs, htracked, Multiset.map_cons, ← Multiset.cons_coe, h.segs]
    rfl
  · have hcount : (smemgetAdopt (shmget env s size).2 (env.shmget s.calls) size).shareMemorySize
        = s.shareMemorySize + sizeT size := rfl
    rw [hcount, hsum, htracked, total_cons, h.size, Nat.add_comm]
    rfl
  · exact UInt64.le_iff_toNat_le.mp hfits

lemma reuse {size : Int32} {l : List SmemT} {r : SmemT}
    (hl : s.smempubsubMemorysAvailable.lookup (sdsfromlonglong size) = some l)
    (hr : l.find? (fits size) = some r) (h : AccountInv env s) :
    AccountInv env (smemgetReuse s size).2 := by
  obtain ⟨-, hused, hpooled⟩ := h.tables.tracked_reuse hl hr
  refine h.of_segments (h.tables.reuse hl hr) ?_ ?_ ?_ ?_
  · rw [tracked, tracked, hused, hpooled]
    simp [SmemT.segment, SmemT.handOut]
  all_goals simp only [smemgetReuse, hl, hr]

lemma recount {key : Sds} {r : SmemT} {cnt : Int32}
    (hr : s.smempubsubMemorys.lookup key = some r) (hcnt : 0 < cnt) (h : AccountInv env s) :
    AccountInv env
      { s with smempubsubMemorys := s.smempubsubMemorys.insert key { r with cnt := cnt } } := by
  obtain ⟨m, hs, hs'⟩ := TableInv.tracked_recount cnt hr
  refine h.of_segments (h.tables.recount hr hcnt) ?_ rfl rfl rfl
  rw [hs, hs', Multiset.map_cons, Multiset.map_cons]
  rfl

lemma recycle (hrm : env.RmidSucceeds) {key : Sds} {r : SmemT} {cnt : Int32}
    (hr : s.smempubsubMemorys.lookup key = some r) (h : AccountInv env s) :
    AccountInv env (recycle env s key { r with cnt := cnt }) := by
  have ht : TableInv env (Broker.recycle env s key { r with cnt := cnt }) := h.tables.recycle hr
  obtain ⟨m, hs, hs'⟩ := TableInv.tracked_recycle env cnt hr
  by_cases hfull :
    20 < ((s.smempubsubMemorysAvailable.lookup (sdsfromlonglong r.size)).getD []).length
  · rw [if_pos hfull] at hs'
    set s₁ := { s with
      smempubsubMemorysAvailable := s.smempubsubMemorysAvailable.insert (sdsfromlonglong r.size)
        ((s.smempubsubMemorysAvailable.lookup (sdsfromlonglong r.size)).getD [])
      shareMemorySize := s.shareMemorySize - sizeT r.size } with hs₁
    have heq : Broker.recycle env s key { r with cnt := cnt } = { (smemFreeBuffer env s₁ r.id).2
        with smempubsubMemorys := (smemFreeBuffer env s₁ r.id).2.smempubsubMemorys.erase key } :=
      if_pos hfull
    obtain ⟨-, hsegs⟩ := h.removed hrm hs s₁ rfl
    refine h.drop hs ht hs' ?_ ?_ ?_
    · rw [heq, ← hsegs]
    · rw [heq]
      rfl
    · rw [heq]
      rfl
  · rw [if_neg hfull] at hs'
    have heq : Broker.recycle env s key { r with cnt := cnt } = { s with
        smempubsubMemorysAvailable := s.smempubsubMemorysAvailable.insert (sdsfromlonglong r.size)
          ((s.smempubsubMemorysAvailable.lookup (sdsfromlonglong r.size)).getD []
            ++ [{ r with cnt := cnt }.giveBack s.unixtime])
        smempubsubMemorys := s.smempubsubMemorys.erase key } := if_neg hfull
    refine h.of_segments ht ?_ (by rw [heq]) (by rw [heq]) (by rw [heq])
    rw [hs, hs', Multiset.map_cons, Multiset.map_cons]
    rfl

/-- A visit of the sweep to a tracked record, in either table. -/
lemma visit (hrm : env.RmidSucceeds) {timeout : Int32} {r : SmemT} {m : Multiset SmemT}
    {s' : Server} (h : AccountInv env s) (ht : TableInv env s') (hs : tracked s = r ::ₘ m)
    (hs' : tracked s' = ((sweepRecord env timeout s r).1.left.toList : Multiset SmemT) + m)
    (hsegs : s'.segs = (sweepRecord env timeout s r).2.segs)
    (hsize : s'.shareMemorySize = (sweepRecord env timeout s r).2.shareMemorySize)
    (hlimit : s'.shareMemoryLimit = (sweepRecord env timeout s r).2.shareMemoryLimit) :
    AccountInv env s' := by
  by_cases hexp : expired s timeout r = true
  · rw [sweepRecord_of_expired hexp] at hs' hsegs hsize hlimit
    obtain ⟨hok, hrest⟩ := h.removed hrm hs
      { s with shareMemorySize := s.shareMemorySize - sizeT r.size } rfl
    simp only [hok, if_true, Option.toList_none, Multiset.coe_nil, zero_add] at hs'
    refine h.drop hs ht hs' ?_ hsize hlimit
    rw [hsegs, hrest]
  · rw [sweepRecord_of_not_expired hexp] at hs' hsegs hsize hlimit
    refine h.of_segments ht ?_ hsegs hsize hlimit
    rw [hs, hs']
    simp

/-- The moves of the broker keep the books, as long as `IPC_RMID` succeeds on existing
segments. -/
lemma preserves (henv : env.FreshIds) (hrm : env.RmidSucceeds) :
    Preserves env (AccountInv env) where
  state h hr := (h.tables.memorys hr).state
  list h := h.tables.list
  same hs h := h.same hs
  probe _ hzero h := h.probe hrm hzero
  create hgood hfits hneg hzero h := h.create henv hgood hfits hneg hzero
  reuse hl hr h := h.reuse hl hr
  recount _ hr hcnt h := h.recount hr hcnt
  recycle _ hr _ h := h.recycle hrm hr
  sweepNode timeout hl h := by
    obtain ⟨m, hs, hs'⟩ := TableInv.tracked_sweepNode env timeout hl
    exact h.visit hrm (h.tables.sweepNode timeout hl) hs hs' rfl rfl rfl
  sweepMemory timeout hr h := by
    obtain ⟨m, hs, hs'⟩ := TableInv.tracked_sweepMemory env timeout hr
    exact h.visit hrm (h.tables.sweepMemory timeout hr) hs hs' rfl rfl rfl

/-- The books are kept in every run whose calls of `SMEMRM` keep them. -/
lemma of_reachable {ok : Server → Op → Prop} (henv : env.FreshIds) (hrm : env.RmidSucceeds)
    (hok : ∀ s c args, AccountInv env s → ok s (.smemrm c args) →
      AccountInv env (smemrmCommand env s args).2)
    (h : (broker env).Reachable ok s) : AccountInv env s := by
  refine h.invariant ?_ ?_
  · rintro s ⟨size, rfl⟩
    exact AccountInv.init size
  · intro s op s' _ hs hop hstep
    refine (AccountInv.preserves henv hrm).step henv ?_ hs hstep
    rintro c args rfl
    exact hok s c args hs hop

end AccountInv

/-- Without `SMEMRM`, and with a kernel that removes existing segments when asked to: in every
state the broker can reach, the segments it created and has not removed are exactly those of
the records in its tables, each recorded once and with the size it was created with;
`share_memory_size` is the sum of these sizes and within `share_memory_limit`. -/
theorem shared_memory_accounted (henv : env.FreshIds) (hrm : env.RmidSucceeds)
    (h : (broker env).Reachable (fun _ op => op.isSmemrm = false) s) :
    (s.segs : Multiset Segment) = (tracked s).map (fun r => ⟨r.id, r.size⟩) ∧
    ((tracked s).map SmemT.id).Nodup ∧
    (s.shareMemorySize.toNat : ℤ) = ((tracked s).map fun r => r.size.toInt).sum ∧
    (∀ r ∈ tracked s, sizeT r.size ≤ s.shareMemorySize) ∧
    s.shareMemorySize ≤ s.shareMemoryLimit := by
  have hinv : AccountInv env s := by
    refine AccountInv.of_reachable henv hrm ?_ h
    intro s c args _ hop
    cases hop
  refine ⟨hinv.segs, hinv.tables.ids_nodup, ?_, ?_, UInt64.le_iff_toNat_le.mpr hinv.le_limit⟩
  · have hbytes : ∀ r ∈ tracked s, (r.bytes : ℤ) = r.size.toInt := fun r hr =>
      sizeT_toNat (hinv.tables.goodSize hr)
    rw [hinv.size, total, Nat.cast_multiset_sum, Multiset.map_map]
    exact congrArg Multiset.sum (Multiset.map_congr rfl hbytes)
  · intro r hr
    obtain ⟨m, hm⟩ := Multiset.exists_cons_of_mem hr
    have hsize := hinv.size
    rw [hm, total_cons] at hsize
    rw [UInt64.le_iff_toNat_le]
    exact hsize ▸ Nat.le_add_right _ _

theorem shared_memory_accounted_getGetFree :
    ∃ s, (broker sampleEnv).run (initServer 100000) getGetFree = some s ∧
      s.shareMemorySize = 12288 ∧
      (s.segs : Multiset Segment) = (tracked s).map (fun r => ⟨r.id, r.size⟩) := by
  have hrun : ((broker sampleEnv).run (initServer 100000) getGetFree).map
      (fun s => s.shareMemorySize) = some 12288 := by decide
  obtain ⟨s, hs, hsize⟩ := Option.map_eq_some_iff.mp hrun
  have hreach : (broker sampleEnv).Reachable (fun _ op => op.isSmemrm = false) s :=
    .of_run (.init ⟨_, rfl⟩) (by decide) hs
  exact ⟨s, hs, hsize,
    (shared_memory_accounted sampleEnv_freshIds (fun _ _ => rfl) hreach).1⟩

/-! ## Sweeps whose removals may fail -/

/-- A sequence of sweeps: for each one the time and the timeout. -/
def sweeps (env : Env) : List (Int64 × Int32) → Server → List Visit × Server
  | [], s => ([], s)
  | (now, timeout) :: schedule, s =>
    let (vs, s₁) := smemFreeShareMemory env timeout { s with unixtime := now }
    let (ws, s₂) := sweeps env schedule s₁
    (vs ++ ws, s₂)

/-- A visit that a sweep is about to make: the server, the timeout of the sweep and the record
the loop has come to. -/
structure Stop where
  server : Server
  timeout : Int32
  record : SmemT

/-- The visit made there. -/
def Stop.visit (env : Env) (x : Stop) : Visit × Server :=
  sweepRecord env x.timeout x.server x.record

/-- What `share_memory_size` goes down by at the visit. -/
def Stop.subtracted (env : Env) (x : Stop) : UInt64 :=
  x.server.shareMemorySize - (x.visit env).2.shareMemorySize

/-- The counter goes down by the size of the record if the record leaves its table, and by
nothing if it stays. -/
def Stop.Accounted (env : Env) (x : Stop) : Prop :=
  x.subtracted env = if (x.visit env).1.left = none then sizeT x.record.size else 0

/-- The visit calls `IPC_RMID` for its record and the kernel refuses. -/
def Stop.Refused (env : Env) (x : Stop) : Prop :=
  expired x.server x.timeout x.record = true ∧
    env.rmid x.server.calls x.record.id (x.server.segs.any fun g => g.id == x.record.id) = false

/-- The stops of `sweepNodes`. -/
def nodeStops (env : Env) (timeout : Int32) (key : Sds) :
    List SmemT → List SmemT → Server → List Stop
  | _, [], _ => []
  | done, r :: rest, s =>
    let (v, s₁) := sweepNode env timeout key done rest s r
    ⟨s, timeout, r⟩ :: nodeStops env timeout key (done ++ v.left.toList) rest s₁

/-- The stops of `sweepAvailable`. -/
def availableStops (env : Env) (timeout : Int32) : List Sds → Server → List Stop
  | [], _ => []
  | key :: keys, s =>
    match s.smempubsubMemorysAvailable.lookup key with
    | none => availableStops env timeout keys s
    | some availableList =>
      nodeStops env timeout key [] availableList s ++
        availableStops env timeout keys (sweepNodes env timeout key [] availableList s).2

/-- The stops of `sweepMemorys`. -/
def memoryStops (env : Env) (timeout : Int32) : List Sds → Server → List Stop
  | [], _ => []
  | key :: keys, s =>
    match s.smempubsubMemorys.lookup key with
    | none => memoryStops env timeout keys s
    | some r => ⟨s, timeout, r⟩ ::
        memoryStops env timeout keys (sweepMemory env timeout key s r).2

/-- The stops of `smemFreeShareMemory`. -/
def stops (env : Env) (timeout : Int32) (s : Server) : List Stop :=
  let s₁ := (sweepAvailable env timeout s.smempubsubMemorysAvailable.keys s).2
  availableStops env timeout s.smempubsubMemorysAvailable.keys s ++
    memoryStops env timeout s₁.smempubsubMemorys.keys s₁

/-- The stops of a sequence of sweeps. -/
def sweepsStops (env : Env) : List (Int64 × Int32) → Server → List Stop
  | [], _ => []
  | (now, timeout) :: schedule, s =>
    stops env timeout { s with unixtime := now } ++
      sweepsStops env schedule (smemFreeShareMemory env timeout { s with unixtime := now }).2

/-- What the counter goes down by at the stops for the records with the id `id`. -/
def subtractedFor (env : Env) (id : Int32) (xs : List Stop) : ℕ :=
  (xs.map fun x => if x.record.id = id then (x.subtracted env).toNat else 0).sum

/-- The sizes of the records with the id `id`. -/
def totalOf (id : Int32) (m : Multiset SmemT) : ℕ := total (m.filter fun r => r.id = id)

/-- The books of a sequence of sweeps.  They are read off `share_memory_size` before and after
each visit, and not off what the visits report. -/
structure SweepsAccounted (env : Env) (schedule : List (Int64 × Int32)) (s : Server) : Prop where
  /-- The stops are those of the visits that the sweeps log. -/
  log : (sweeps env schedule s).1 = (sweepsStops env schedule s).map fun x => (x.visit env).1
  /-- The counter goes down at the visits and nowhere else. -/
  counter : (sweeps env schedule s).2.shareMemorySize
    = s.shareMemorySize - ((sweepsStops env schedule s).map (Stop.subtracted env)).sum
  /-- It goes down by the size of a record when the record leaves its table, and not before. -/
  visits : ∀ x ∈ sweepsStops env schedule s, x.Accounted env
  /-- For each id, what was subtracted on its account is what has left the tables. -/
  records : ∀ id, subtractedFor env id (sweepsStops env schedule s)
    + totalOf id (tracked (sweeps env schedule s).2) = totalOf id (tracked s)
  /-- A counter that covered the tracked records still does. -/
  covered : total (tracked s) ≤ s.shareMemorySize.toNat →
    total (tracked (sweeps env schedule s).2) ≤ (sweeps env schedule s).2.shareMemorySize.toNat

section Sweeps

variable {R : Server → List Stop → List Visit → Server → Prop}
  (hnil : ∀ s, R s [] [] s)
  (happend : ∀ {s s' s'' xs ys vs ws}, R s xs vs s' → R s' ys ws s'' →
    R s (xs ++ ys) (vs ++ ws) s'')
  (hvisit : ∀ (x : Stop) {m s'}, tracked x.server = x.record ::ₘ m →
    tracked s' = ((x.visit env).1.left.toList : Multiset SmemT) + m →
    s'.shareMemorySize = (x.visit env).2.shareMemorySize →
    R x.server [x] [(x.visit env).1] s')

include hnil happend hvisit

lemma nodeStops_rule {timeout : Int32} {key : Sds} : ∀ {rest done : List SmemT} {s : Server},
    s.smempubsubMemorysAvailable.lookup key = some (done ++ rest) →
    R s (nodeStops env timeout key done rest s) (sweepNodes env timeout key done rest s).1
      (sweepNodes env timeout key done rest s).2 := by
  intro rest
  induction rest with
  | nil => exact fun {_ s} _ => hnil s
  | cons r rest ih =>
    intro done s hl
    obtain ⟨m, hs, hs'⟩ := TableInv.tracked_sweepNode env timeout hl
    have hnext : (sweepNode env timeout key done rest s r).2.smempubsubMemorysAvailable.lookup key
        = some (done ++ (sweepNode env timeout key done rest s r).1.left.toList ++ rest) := by
      rw [sweepNode_available]
      exact AList.lookup_insert _
    exact happend (hvisit ⟨s, timeout, r⟩ hs hs' rfl) (ih hnext)

lemma availableStops_rule {timeout : Int32} : ∀ {keys : List Sds} {s : Server},
    R s (availableStops env timeout keys s) (sweepAvailable env timeout keys s).1
      (sweepAvailable env timeout keys s).2 := by
  intro keys
  induction keys with
  | nil => exact fun {s} => hnil s
  | cons key keys ih =>
    intro s
    unfold availableStops sweepAvailable
    cases hl : s.smempubsubMemorysAvailable.lookup key with
    | none => exact ih
    | some l =>
      have hlist : s.smempubsubMemorysAvailable.lookup key = some ([] ++ l) := hl
      exact happend (nodeStops_rule hnil happend hvisit hlist) ih

lemma memoryStops_rule {timeout : Int32} : ∀ {keys : List Sds} {s : Server},
    R s (memoryStops env timeout keys s) (sweepMemorys env timeout keys s).1
      (sweepMemorys env timeout keys s).2 := by
  intro keys
  induction keys with
  | nil => exact fun {s} => hnil s
  | cons key keys ih =>
    intro s
    unfold memoryStops sweepMemorys
    cases hr : s.smempubsubMemorys.lookup key with
    | none => exact ih
    | some r =>
      obtain ⟨m, hs, hs'⟩ := TableInv.tracked_sweepMemory env timeout hr
      exact happend (hvisit ⟨s, timeout, r⟩ hs hs' rfl) ih

/-- The rule for a sequence of sweeps; a visit is given by what it does to the tracked records
and the counter, whichever table the record is in. -/
lemma sweeps_rule (hclock : ∀ {s xs vs s'} (now : Int64),
    R { s with unixtime := now } xs vs s' → R s xs vs s') :
    ∀ {schedule : List (Int64 × Int32)} {s : Server},
    R s (sweepsStops env schedule s) (sweeps env schedule s).1 (sweeps env schedule s).2 := by
  intro schedule
  induction schedule with
  | nil => exact fun {s} => hnil s
  | cons sweep schedule ih =>
    obtain ⟨now, timeout⟩ := sweep
    intro s
    have hsweep : R { s with unixtime := now } (stops env timeout { s with unixtime := now })
        (smemFreeShareMemory env timeout { s with unixtime := now }).1
        (smemFreeShareMemory env timeout { s with unixtime := now }).2 :=
      happend (availableStops_rule hnil happend hvisit) (memoryStops_rule hnil happend hvisit)
    exact happend (hclock now hsweep) ih

end Sweeps

lemma sizeT_eq_zero {size : Int32} : sizeT size = 0 ↔ size = 0 := by
  constructor
  · intro h
    have hint : size.toInt = 0 := by
      have h64 : size.toInt64 = 0 := Int64.toBitVec_inj.mp (congrArg UInt64.toBitVec h)
      rw [← Int32.toInt_toInt64, h64]
      rfl
    exact Int32.toInt_inj.mp hint
  · rintro rfl
    rfl

namespace Stop

variable {x : Stop}

lemma size_after (env : Env) (x : Stop) :
    (x.visit env).2.shareMemorySize = x.server.shareMemorySize - x.subtracted env :=
  (sub_sub_cancel _ _).symm

/-- A visit to an expired record takes its size off the counter, whatever the kernel says. -/
lemma subtracted_eq (env : Env) (x : Stop) : x.subtracted env
    = if expired x.server x.timeout x.record = true then sizeT x.record.size else 0 := by
  unfold subtracted visit
  by_cases hexp : expired x.server x.timeout x.record = true
  · have hsize : (smemFreeBuffer env { x.server with
        shareMemorySize := x.server.shareMemorySize - sizeT x.record.size }
        x.record.id).2.shareMemorySize = x.server.shareMemorySize - sizeT x.record.size := rfl
    rw [sweepRecord_of_expired hexp, if_pos hexp, hsize, sub_sub_cancel]
  · rw [sweepRecord_of_not_expired hexp, if_neg hexp, sub_self]

/-- The counter is right about a visit exactly when a refused removal gives the record up at
once, or the record has no size. -/
lemma accounted_iff :
    x.Accounted env ↔ (x.Refused env → 5 < x.record.freeCnt + 1 ∨ x.record.size = 0) := by
  unfold Accounted
  rw [subtracted_eq]
  by_cases hexp : expired x.server x.timeout x.record = true
  · have hleft : (x.visit env).1.left = if env.rmid x.server.calls x.record.id
        (x.server.segs.any fun g => g.id == x.record.id) then none else x.record.retry := by
      unfold visit
      rw [sweepRecord_of_expired hexp]
      rfl
    unfold Refused
    rw [hleft]
    cases env.rmid x.server.calls x.record.id
        (x.server.segs.any fun g => g.id == x.record.id) with
    | true => simp [hexp]
    | false =>
      by_cases hcnt : 5 < x.record.freeCnt + 1
      · simp [hexp, SmemT.retry, hcnt]
      · simp [hexp, SmemT.retry, hcnt, sizeT_eq_zero]
  · unfold visit Refused
    rw [sweepRecord_of_not_expired hexp]
    simp [hexp]

/-- What a visit leaves of the record and what it takes off the counter make up the record. -/
lemma bytes (hx : x.Accounted env) :
    total ((x.visit env).1.left.toList : Multiset SmemT) + (x.subtracted env).toNat
      = x.record.bytes := by
  unfold Accounted at hx
  rw [hx]
  cases hleft : (x.visit env).1.left with
  | none => simp [SmemT.bytes]
  | some r' =>
    obtain ⟨n, rfl⟩ := sweepRecord_left hleft
    simp [total, SmemT.bytes]

/-- The same for the records with one id. -/
lemma records (hx : x.Accounted env) (id : Int32) :
    totalOf id ((x.visit env).1.left.toList : Multiset SmemT) + subtractedFor env id [x]
      = totalOf id {x.record} := by
  have hbytes := bytes hx
  have hids : ∀ r' ∈ ((x.visit env).1.left.toList : Multiset SmemT), r'.id = x.record.id := by
    intro r' hr'
    obtain ⟨n, rfl⟩ := sweepRecord_left (Option.mem_toList.mp hr')
    rfl
  by_cases hid : x.record.id = id
  · have hall : ((x.visit env).1.left.toList : Multiset SmemT).filter (fun r => r.id = id)
        = (x.visit env).1.left.toList :=
      Multiset.filter_eq_self.mpr fun r' hr' => (hids r' hr').trans hid
    have hone : Multiset.filter (fun r : SmemT => r.id = id) {x.record} = {x.record} :=
      Multiset.filter_eq_self.mpr fun r' hr' => by rw [Multiset.mem_singleton.mp hr', hid]
    have hfor : subtractedFor env id [x] = (x.subtracted env).toNat := by
      simp [subtractedFor, hid]
    have hsingle : total {x.record} = x.record.bytes := by simp [total]
    rw [totalOf, totalOf, hall, hone, hfor, hbytes, hsingle]
  · have hnone : ((x.visit env).1.left.toList : Multiset SmemT).filter (fun r => r.id = id) = 0 :=
      Multiset.filter_eq_nil.mpr fun r' hr' heq => hid ((hids r' hr').symm.trans heq)
    have hzero : Multiset.filter (fun r : SmemT => r.id = id) {x.record} = 0 :=
      Multiset.filter_eq_nil.mpr fun r' hr' => by rw [Multiset.mem_singleton.mp hr']; exact hid
    have hfor : subtractedFor env id [x] = 0 := by
      simp [subtractedFor, hid]
    rw [totalOf, totalOf, hnone, hzero, hfor, Nat.add_zero]

end Stop

lemma totalOf_add (id : Int32) (m n : Multiset SmemT) :
    totalOf id (m + n) = totalOf id m + totalOf id n := by
  rw [totalOf, Multiset.filter_add, total_add]
  rfl

lemma subtractedFor_append (env : Env) (id : Int32) (xs ys : List Stop) :
    subtractedFor env id (xs ++ ys) = subtractedFor env id xs + subtractedFor env id ys := by
  simp [subtractedFor]

/-- The stops are where the logged visits are made. -/
lemma sweeps_log (env : Env) (schedule : List (Int64 × Int32)) (s : Server) :
    (sweeps env schedule s).1 = (sweepsStops env schedule s).map fun x => (x.visit env).1 := by
  refine sweeps_rule (R := fun _ xs vs _ => vs = xs.map fun x => (x.visit env).1)
    (fun _ => rfl) ?_ (fun _ _ _ _ _ _ => rfl) (fun _ h => h)
  rintro s s' s'' xs ys vs ws rfl rfl
  rw [List.map_append]

/-- Between two visits the counter stays as it is. -/
lemma sweeps_counter (env : Env) (schedule : List (Int64 × Int32)) (s : Server) :
    (sweeps env schedule s).2.shareMemorySize
      = s.shareMemorySize - ((sweepsStops env schedule s).map (Stop.subtracted env)).sum := by
  refine sweeps_rule (R := fun s xs _ s' =>
    s'.shareMemorySize = s.shareMemorySize - (xs.map (Stop.subtracted env)).sum)
    (fun s => (sub_zero _).symm) ?_ ?_ (fun _ h => h)
  · intro s s' s'' xs ys vs ws hxs hys
    rw [hys, hxs, List.map_append, List.sum_append, sub_sub]
  · intro x m s' _ _ hsize
    rw [List.map_singleton, List.sum_singleton, hsize, x.size_after]

/-- If the counter is right about every visit, what it went down by on account of an id is what
has left the tables. -/
lemma sweeps_records {schedule : List (Int64 × Int32)}
    (h : ∀ x ∈ sweepsStops env schedule s, x.Accounted env) (id : Int32) :
    subtractedFor env id (sweepsStops env schedule s)
      + totalOf id (tracked (sweeps env schedule s).2) = totalOf id (tracked s) := by
  refine sweeps_rule (R := fun s xs _ s' => (∀ x ∈ xs, x.Accounted env) →
    subtractedFor env id xs + totalOf id (tracked s') = totalOf id (tracked s))
    ?_ ?_ ?_ (fun _ h => h) h
  · intro s _
    simp [subtractedFor]
  · intro s s' s'' xs ys vs ws hxs hys hall
    have h₁ := hxs fun x hx => hall x (List.mem_append_left _ hx)
    have h₂ := hys fun x hx => hall x (List.mem_append_right _ hx)
    rw [subtractedFor_append]
    omega
  · intro x m s' hs hs' _ hall
    have hvisit := Stop.records (hall x (List.mem_singleton.mpr rfl)) id
    rw [hs, hs', ← Multiset.singleton_add, totalOf_add, totalOf_add, ← hvisit]
    omega

/-- If the counter is right about every visit, it keeps covering the tracked records. -/
lemma sweeps_covered {schedule : List (Int64 × Int32)}
    (h : ∀ x ∈ sweepsStops env schedule s, x.Accounted env)
    (hcov : total (tracked s) ≤ s.shareMemorySize.toNat) :
    total (tracked (sweeps env schedule s).2)
      ≤ (sweeps env schedule s).2.shareMemorySize.toNat := by
  refine sweeps_rule (R := fun s xs _ s' => (∀ x ∈ xs, x.Accounted env) →
    total (tracked s) ≤ s.shareMemorySize.toNat → total (tracked s') ≤ s'.shareMemorySize.toNat)
    (fun _ _ h => h) ?_ ?_ (fun _ h => h) h hcov
  · intro s s' s'' xs ys vs ws hxs hys hall hcov
    refine hys (fun x hx => hall x (List.mem_append_right _ hx)) ?_
    exact hxs (fun x hx => hall x (List.mem_append_left _ hx)) hcov
  · intro x m s' hs hs' hsize hall hcov
    have hvisit := Stop.bytes (hall x (List.mem_singleton.mpr rfl))
    rw [hs, total_cons] at hcov
    have hle : x.subtracted env ≤ x.server.shareMemorySize := by
      rw [UInt64.le_iff_toNat_le]
      omega
    rw [hs', total_add, hsize, x.size_after, UInt64.toNat_sub_of_le _ _ hle]
    omega

/-- A sequence of sweeps keeps the books exactly when every removal that the kernel refuses is
that of a record which is given up at once, because it is the sixth failure (or of a record
without size, which no command creates).  The condition reads what each visit is given: the
server, the record and the answer of the kernel. -/
theorem sweeps_accounted_iff (env : Env) (schedule : List (Int64 × Int32)) (s : Server) :
    SweepsAccounted env schedule s ↔
      ∀ x ∈ sweepsStops env schedule s, x.Refused env →
        5 < x.record.freeCnt + 1 ∨ x.record.size = 0 := by
  constructor
  · intro h x hx
    exact Stop.accounted_iff.mp (h.visits x hx)
  · intro hcond
    have hvisits : ∀ x ∈ sweepsStops env schedule s, x.Accounted env :=
      fun x hx => Stop.accounted_iff.mpr (hcond x hx)
    exact ⟨sweeps_log env schedule s, sweeps_counter env schedule s, hvisits,
      sweeps_records hvisits, sweeps_covered hvisits⟩

/-- A buffer whose segment an `SMEMRM` has removed. -/
def getThenRm : List Op := [.connect, .smemget 1 "4096", .smemrm 1 ["2"]]

/-- One sweep later the record is still tracked and the counter no longer covers it; the next
sweep takes the counter below zero. -/
theorem sweeps_not_accounted :
    ∃ s, (broker sampleEnv).run (initServer 100000) getThenRm = some s ∧
      ¬ SweepsAccounted sampleEnv [(100, 10)] s ∧
      total (tracked (sweeps sampleEnv [(100, 10)] s).2) = 4096 ∧
      (sweeps sampleEnv [(100, 10)] s).2.shareMemorySize = 0 ∧
      (sweeps sampleEnv [(100, 10), (200, 10)] s).2.shareMemorySize = 0 - 4096 := by
  have hrun : ((broker sampleEnv).run (initServer 100000) getThenRm).map
      (fun s => (total (tracked s), s.shareMemorySize,
        total (tracked (sweeps sampleEnv [(100, 10)] s).2),
        (sweeps sampleEnv [(100, 10)] s).2.shareMemorySize,
        (sweeps sampleEnv [(100, 10), (200, 10)] s).2.shareMemorySize))
      = some (4096, 4096, 4096, 0, 0 - 4096) := by decide
  obtain ⟨s, hs, hall⟩ := Option.map_eq_some_iff.mp hrun
  simp only [Prod.mk.injEq] at hall
  obtain ⟨hbefore, hsize, htotal, hzero, hwrap⟩ := hall
  refine ⟨s, hs, ?_, htotal, hzero, hwrap⟩
  intro h
  have hcov := h.covered (by rw [hbefore, hsize]; decide)
  rw [htotal, hzero] at hcov
  exact absurd hcov (by decide)

end SelfTestCode.Broker
