import SelfTestCode.Broker.Accounting

/-!
# `SMEMRM` and the buffer tables

`SMEMRM` removes kernel segments by id.  It looks for the record of the segment in
`smem_list_available`, the list an earlier version of the broker pooled its records in; nothing
fills that list any more, so the record of a segment that `SMEMRM` removes stays where it is, in
`smempubsub_memorys` or in a pool list, and its size stays in `share_memory_size`.

`RmConsistent` is what the command should do with the id it is given.  A run in which it is
only ever given ids the broker does not track keeps the accounting invariant, and from the
states of such runs an `SMEMRM` of a tracked id always breaks it.
-/

namespace SelfTestCode.Broker

variable {env : Env} {s : Server}

/-- `IPC_RMID` succeeds exactly on existing segments. -/
def Env.RmidExact (env : Env) : Prop :=
  ∀ i id segmentExists, env.rmid i id segmentExists = segmentExists

lemma Env.RmidExact.succeeds (hrm : env.RmidExact) : env.RmidSucceeds := fun i id => hrm i id true

/-- The segment `id` exists. -/
def SegmentExists (s : Server) (id : Int32) : Prop := ∃ g ∈ s.segs, g.id = id

instance (s : Server) (id : Int32) : Decidable (SegmentExists s id) :=
  inferInstanceAs (Decidable (∃ g ∈ s.segs, g.id = id))

/-- When `SMEMRM` of the number `llVar` removes the segment of a tracked record, the record has
left the tables afterwards and its size has left the counter. -/
def RmConsistent (env : Env) (s : Server) (llVar : Int64) : Prop :=
  ∀ r ∈ tracked s, r.id = llVar.toInt32 → SegmentExists s r.id →
    ¬ SegmentExists (smemrmOne env s llVar).2 r.id →
    r.id ∉ (tracked (smemrmOne env s llVar).2).map SmemT.id ∧
      (smemrmOne env s llVar).2.shareMemorySize = s.shareMemorySize - sizeT r.size

instance (env : Env) (s : Server) (llVar : Int64) : Decidable (RmConsistent env s llVar) :=
  inferInstanceAs (Decidable (∀ r ∈ tracked s, _))

/-- The arguments of an `SMEMRM` that are numbers name no tracked id. -/
def UntrackedArgs (env : Env) (s : Server) (args : List Sds) : Prop :=
  ∀ arg ∈ args, ∀ n ∈ env.getLongLongFromObject arg, n.toInt32 ∉ (tracked s).map SmemT.id

-- the instance is given by hand: inference would enumerate `Int64`
instance (env : Env) (s : Server) (args : List Sds) : Decidable (UntrackedArgs env s args) :=
  have : DecidablePred fun arg => ∀ n ∈ env.getLongLongFromObject arg,
      n.toInt32 ∉ (tracked s).map SmemT.id :=
    fun arg => Option.decidableForallMem (env.getLongLongFromObject arg)
  List.decidableBAll _ args

/-- No `SMEMRM` is given a tracked id. -/
def RmUntracked (env : Env) (s : Server) : Op → Prop
  | .smemrm _ args => UntrackedArgs env s args
  | _ => True

instance (env : Env) (s : Server) : (op : Op) → Decidable (RmUntracked env s op)
  | .smemrm _ args => inferInstanceAs (Decidable (UntrackedArgs env s args))
  | .connect | .setName _ _ | .smemget _ _ | .smemfree _ _ | .smemsubscribe _ _
  | .smempublish _ _ _ | .smemswitch _ _ _ | .disconnect _ | .updateTime _ | .sweep _
  | .rehash _ => isTrue trivial

namespace AccountInv

/-- The segments of the tracked records exist. -/
lemma segmentExists (h : AccountInv env s) {id : Int32} :
    SegmentExists s id ↔ id ∈ (tracked s).map SmemT.id := by
  have hmem : ∀ g, g ∈ s.segs ↔ g ∈ (tracked s).map SmemT.segment := by
    intro g
    rw [← h.segs, Multiset.mem_coe]
  constructor
  · rintro ⟨g, hg, rfl⟩
    obtain ⟨r, hr, rfl⟩ := Multiset.mem_map.mp ((hmem g).mp hg)
    exact Multiset.mem_map_of_mem SmemT.id hr
  · intro hid
    obtain ⟨r, hr, rfl⟩ := Multiset.mem_map.mp hid
    exact ⟨r.segment, (hmem _).mpr (Multiset.mem_map_of_mem _ hr), rfl⟩

/-- `IPC_RMID` on an id that no record has changes nothing. -/
lemma smemFreeBuffer_untracked (h : AccountInv env s) {id : Int32}
    (hid : id ∉ (tracked s).map SmemT.id) :
    AccountInv env (smemFreeBuffer env s id).2 ∧
      tracked (smemFreeBuffer env s id).2 = tracked s := by
  refine ⟨h.of_segments (h.tables.smemFreeBuffer id) rfl ?_ rfl rfl, rfl⟩
  have hkeep : s.segs.filter (fun g => g.id != id) = s.segs := by
    rw [List.filter_eq_self]
    intro g hg
    have hne : g.id ≠ id := by
      rintro rfl
      exact hid (h.segmentExists.mp ⟨g, hg, rfl⟩)
    simpa using hne
  show (if _ then s.segs.filter (fun g => g.id != id) else s.segs) = s.segs
  rw [hkeep]
  split <;> rfl

lemma smemrmCommand_untracked {c : ClientId} {args : List Sds} (h : AccountInv env s)
    (hrm : RmUntracked env s (.smemrm c args)) : AccountInv env (smemrmCommand env s args).2 := by
  have hrule : AccountInv env (smemrmCommand env s args).2 ∧
      tracked (smemrmCommand env s args).2 = tracked s := by
    refine smemrmCommand_rule (I := fun s' => AccountInv env s' ∧ tracked s' = tracked s)
      (fun h => h.1.tables.list) ?_ ⟨h, rfl⟩
    rintro arg harg n hn s' ⟨hs', htracked⟩
    have hid : n.toInt32 ∉ (tracked s').map SmemT.id := by
      rw [htracked]
      exact hrm arg harg n hn
    obtain ⟨hinv, hsame⟩ := hs'.smemFreeBuffer_untracked hid
    exact ⟨hinv, hsame.trans htracked⟩
  exact hrule.1

lemma of_rmUntracked (henv : env.FreshIds) (hrm : env.RmidSucceeds)
    (h : (broker env).Reachable (RmUntracked env) s) : AccountInv env s := by
  refine of_reachable henv hrm ?_ h
  intro s c args hs hop
  exact hs.smemrmCommand_untracked hop

end AccountInv

/-- The answer of `SMEMGET`, when it is an id, is the id of a record. -/
lemma smemgetCommand_tracked (henv : env.FreshIds) (h : TableInv env s) (arg : Sds)
    (hid : (smemgetCommand env s arg).1 ≠ -1) :
    (smemgetCommand env s arg).1 ∈ (tracked (smemgetCommand env s arg).2).map SmemT.id := by
  rcases h.smemgetCommand_spec henv arg with ⟨hneg, -⟩ | hout
  · exact absurd hneg hid
  · obtain ⟨r, hr, -, -, hmem⟩ := hout.memorys
    have hlookup : (smemgetCommand env s arg).2.smempubsubMemorys.lookup
        (sdsfromlonglong (smemgetCommand env s arg).1) = some r := by
      rw [hmem]
      exact AList.lookup_insert _
    exact Multiset.mem_map.mpr ⟨r, mem_tracked.mpr (Or.inl (mem_used.mpr ⟨_, hlookup⟩)), hr⟩

/-- A removal of an untracked id is consistent for want of a record; one of a tracked id never
is, since the record stays. -/
lemma rmConsistent_iff (hrm : env.RmidExact) (h : AccountInv env s) (llVar : Int64) :
    RmConsistent env s llVar ↔ llVar.toInt32 ∉ (tracked s).map SmemT.id := by
  constructor
  · intro hc hmem
    obtain ⟨r, hr, hid⟩ := Multiset.mem_map.mp hmem
    obtain ⟨m, hm⟩ := Multiset.exists_cons_of_mem hr
    have hone : smemrmOne env s llVar = smemFreeBuffer env s r.id := by
      rw [smemrmOne_of_nil h.tables.list, hid]
    obtain ⟨-, hsegs⟩ := h.removed hrm.succeeds hm s rfl
    have hgone : ¬ SegmentExists (smemrmOne env s llVar).2 r.id := by
      rw [hone]
      rintro ⟨g, hg, hgid⟩
      rw [← Multiset.mem_coe, hsegs] at hg
      obtain ⟨r', hr', rfl⟩ := Multiset.mem_map.mp hg
      have hnodup := h.tables.ids_nodup
      rw [hm] at hnodup
      have hrid : r'.id = r.id := hgid
      exact TableInv.id_notMem hnodup (hrid ▸ Multiset.mem_map_of_mem _ hr')
    have hexists : SegmentExists s r.id :=
      h.segmentExists.mpr (Multiset.mem_map_of_mem _ hr)
    have hleft := (hc r hr hid hexists hgone).1
    rw [hone] at hleft
    exact hleft (Multiset.mem_map_of_mem SmemT.id hr)
  · intro hid r hr hrid
    exact absurd (hrid ▸ Multiset.mem_map_of_mem SmemT.id hr) hid

/-- In every run in which `SMEMRM` is only given ids the broker does not track: an id that
`SMEMGET` answers is the id of an existing segment, the segments are exactly those of the
tracked records, and the next `SMEMRM` is consistent exactly when it, too, is given an untracked
id. -/
theorem smemrm_consistent_of_untracked (henv : env.FreshIds) (hrm : env.RmidExact)
    (h : (broker env).Reachable (RmUntracked env) s) :
    (∀ arg, (smemgetCommand env s arg).1 ≠ -1 →
      SegmentExists (smemgetCommand env s arg).2 (smemgetCommand env s arg).1) ∧
    (∀ id, SegmentExists s id ↔ id ∈ (tracked s).map SmemT.id) ∧
    ∀ llVar, RmConsistent env s llVar ↔ llVar.toInt32 ∉ (tracked s).map SmemT.id := by
  have hinv := AccountInv.of_rmUntracked henv hrm.succeeds h
  refine ⟨?_, fun id => hinv.segmentExists, rmConsistent_iff hrm hinv⟩
  intro arg hid
  have hafter : AccountInv env (smemgetCommand env s arg).2 :=
    (AccountInv.preserves henv hrm.succeeds).smemgetCommand henv hinv
  exact hafter.segmentExists.mpr (smemgetCommand_tracked henv hinv.tables arg hid)

/-- `SMEMRM` of the discarded id 0 and of an id that was never answered. -/
def getThenRmUnknown : List Op := [.connect, .smemget 1 "4096", .smemrm 1 ["0", "77"]]

theorem smemrm_consistent_getThenRmUnknown :
    ∃ s, (broker sampleEnv).run (initServer 100000) getThenRmUnknown = some s ∧
      SegmentExists s 2 ∧ RmConsistent sampleEnv s 3 ∧ ¬ RmConsistent sampleEnv s 2 := by
  have hrun : ((broker sampleEnv).run (initServer 100000) getThenRmUnknown).map
      (fun s => (tracked s).map SmemT.id) = some {2} := by decide
  obtain ⟨s, hs, hids⟩ := Option.map_eq_some_iff.mp hrun
  have hreach : (broker sampleEnv).Reachable (RmUntracked sampleEnv) s :=
    .of_run (.init ⟨_, rfl⟩) (by decide) hs
  obtain ⟨-, hsegs, hrm⟩ :=
    smemrm_consistent_of_untracked sampleEnv_freshIds (fun _ _ _ => rfl) hreach
  refine ⟨s, hs, (hsegs 2).mpr (by rw [hids]; decide), (hrm 3).mpr (by rw [hids]; decide), ?_⟩
  intro hc
  exact (hrm 2).mp hc (by rw [hids]; decide)

/-- A buffer is returned to the pool, its segment is removed, and the next `SMEMGET` answers its
id although the segment is gone. -/
theorem smemrm_inconsistent :
    ∃ s, (broker sampleEnv).run (initServer 100000)
        [.connect, .smemget 1 "4096", .smemfree 1 ["2"]] = some s ∧
      ¬ RmConsistent sampleEnv s 2 ∧
      (smemgetCommand sampleEnv (smemrmCommand sampleEnv s ["2"]).2 "4096").1 = 2 ∧
      ¬ SegmentExists (smemgetCommand sampleEnv (smemrmCommand sampleEnv s ["2"]).2 "4096").2 2 := by
  have hrun : ((broker sampleEnv).run (initServer 100000)
      [.connect, .smemget 1 "4096", .smemfree 1 ["2"]]).map (fun s =>
        (decide (RmConsistent sampleEnv s 2),
          (smemgetCommand sampleEnv (smemrmCommand sampleEnv s ["2"]).2 "4096").1,
          decide (SegmentExists
            (smemgetCommand sampleEnv (smemrmCommand sampleEnv s ["2"]).2 "4096").2 2)))
      = some (false, 2, false) := by decide
  obtain ⟨s, hs, hall⟩ := Option.map_eq_some_iff.mp hrun
  simp only [Prod.mk.injEq, decide_eq_false_iff_not] at hall
  exact ⟨s, hs, hall⟩

end SelfTestCode.Broker
