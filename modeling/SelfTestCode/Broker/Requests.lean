import SelfTestCode.Broker.Accounting

/-!
# The size of what `SMEMGET` hands out

The argument of `SMEMGET` is a `long long`.  It is converted to `int`, rounded up to a multiple of
4096 in 32-bit arithmetic, used as the key of a pool list, added to a counter and, if a new segment
is needed, checked against `MAX_SMEM_SIZE` in `smem_get_buffer`.  From the conversion on everything
fits together: an aligned size passes the check exactly when the `int` it came from is positive and
at most `MAX_SMEM_SIZE` (`goodSize_smemalign_iff`), and a pooled record has the size it was created
with.  What the checks never see is the argument itself, so a request whose low 32 bits happen to be
a valid size is served with that size.

The segments created so far are kept beside the server (`recorded`), since `SMEMRM` can remove a
segment whose record stays.
-/

namespace SelfTestCode.Broker

variable {env : Env} {s s' : Server}

/-! ## The arithmetic -/

/-- Clearing the low 12 bits takes the remainder away. -/
lemma toNat_and_not_mask (y : BitVec 32) :
    (y &&& ~~~(4095#32)).toNat = y.toNat - y.toNat % 4096 := by
  have hdisjoint : ∀ m : BitVec 32, (y &&& ~~~m) &&& (y &&& m) = 0#32 := by
    intro m
    ext i hi
    cases hm : m[i] <;> simp [hm]
  have hsplit : (y &&& ~~~(4095#32)) + (y &&& 4095#32) = y := by
    rw [BitVec.add_eq_or_of_and_eq_zero _ _ (hdisjoint _), ← BitVec.and_or_distrib_left,
      BitVec.not_or_self, BitVec.and_allOnes]
  have hlow : (y &&& 4095#32).toNat = y.toNat % 4096 := by
    rw [BitVec.toNat_and, show (4095#32).toNat = 2 ^ 12 - 1 from rfl,
      Nat.and_two_pow_sub_one_eq_mod]
  have hle : (y &&& ~~~(4095#32)).toNat ≤ y.toNat := by
    rw [BitVec.toNat_and]
    exact Nat.and_le_left
  have hnat := congrArg BitVec.toNat hsplit
  rw [BitVec.toNat_add, hlow] at hnat
  have hlt := y.isLt
  omega

/-- `SMEMALIGN(x, 4096)` as a number. -/
lemma toNat_smemalign (x : Int32) :
    (smemalign x 4096).toBitVec.toNat = (x.toBitVec.toNat + 4095) % 2 ^ 32
      - (x.toBitVec.toNat + 4095) % 2 ^ 32 % 4096 := by
  have hbits : (smemalign x 4096).toBitVec = (x.toBitVec + 4096#32 - 1#32) &&& ~~~(4095#32) := rfl
  have hsum : x.toBitVec + 4096#32 - 1#32 = x.toBitVec + 4095#32 := by bv_omega
  rw [hbits, hsum, toNat_and_not_mask, BitVec.toNat_add]
  rfl

/-- The aligned size is a valid one exactly when the `int` it is computed from is. -/
lemma goodSize_smemalign_iff (x : Int32) :
    GoodSize (smemalign x 4096) ↔ 0 < x.toInt ∧ x.toInt ≤ 26542080 := by
  have hnat := toNat_smemalign x
  have hint : (smemalign x 4096).toInt = _ := BitVec.toInt_eq_toNat_cond _
  have hx : x.toInt = _ := BitVec.toInt_eq_toNat_cond _
  have hlt := x.toBitVec.isLt
  constructor
  · rintro ⟨hpos, hmax, -⟩
    split at hint <;> split at hx <;> omega
  · rintro ⟨hpos, hmax⟩
    refine ⟨?_, ?_, smemalign_mod x⟩
    · split at hint <;> split at hx <;> omega
    · split at hint <;> split at hx <;> omega

/-- Aligning a valid size does not make it smaller. -/
lemma le_smemalign {x : Int32} (hpos : 0 < x.toInt) (hmax : x.toInt ≤ 26542080) :
    x.toInt ≤ (smemalign x 4096).toInt := by
  have hnat := toNat_smemalign x
  have hint : (smemalign x 4096).toInt = _ := BitVec.toInt_eq_toNat_cond _
  have hx : x.toInt = _ := BitVec.toInt_eq_toNat_cond _
  have hlt := x.toBitVec.isLt
  split at hint <;> split at hx <;> omega

/-! ## The segments created so far -/

/-- The broker with the segments it has created beside it. -/
def recorded (env : Env) : System (Server × List Segment) Op where
  Init sm := (broker env).Init sm.1 ∧ sm.2 = []
  step sm op := (step env sm.1 op).map fun s' => (s', s'.segs ++ sm.2)

/-- An id that `SMEMGET` answers to a request for `n` bytes is the id of a segment that was created
with at least `n` bytes, and a request for no bytes or for too many is refused and changes
nothing. -/
def LargeEnough (env : Env) (s : Server) (made : List Segment) (arg : Sds) (n : Int64) : Prop :=
  (0 ≤ (smemgetCommand env s arg).1 → 0 < n.toInt ∧
    (∃ g ∈ (smemgetCommand env s arg).2.segs ++ made, g.id = (smemgetCommand env s arg).1) ∧
    ∀ g ∈ (smemgetCommand env s arg).2.segs ++ made, g.id = (smemgetCommand env s arg).1 →
      n.toInt ≤ g.size.toInt) ∧
  (n.toInt ≤ 0 ∨ maxSmemSize.toInt < n.toInt → smemgetCommand env s arg = (-1, s))

/-- Every record stands for a segment that was created, and no id was created twice. -/
structure RecordInv (env : Env) (s : Server) (made : List Segment) : Prop where
  tables : TableInv env s
  records : ∀ r ∈ tracked s, r.segment ∈ made
  segs : ∀ g ∈ s.segs, g ∈ made
  answered : ∀ g ∈ made, ∃ i < s.calls, env.shmget i = g.id
  valid : ∀ g ∈ made, g.id ≠ -1
  unique : ∀ g ∈ made, ∀ g' ∈ made, g.id = g'.id → g = g'

/-- The segment was created by one of the system calls between the two states. -/
def CreatedBetween (env : Env) (s s' : Server) (size : Int32) (g : Segment) : Prop :=
  g.size = size ∧ g.id ≠ -1 ∧ ∃ i, s.calls ≤ i ∧ i < s'.calls ∧ env.shmget i = g.id

namespace RecordInv

variable {made : List Segment}

lemma init (systemMemorySize : UInt64) : RecordInv env (initServer systemMemorySize) [] where
  tables := .init systemMemorySize
  records r hr := by simp [tracked, used, pooled, initServer] at hr
  segs g hg := by cases hg
  answered g hg := by cases hg
  valid g hg := by cases hg
  unique g hg := by cases hg

/-- An event that creates segments of one size only keeps the record. -/
lemma grow (henv : env.FreshIds) (size : Int32) (h : RecordInv env s made)
    (ht : TableInv env s') (hcalls : s.calls ≤ s'.calls)
    (hrecords : ∀ r ∈ tracked s', r.segment ∈ s'.segs ++ made)
    (hsegs : ∀ g ∈ s'.segs, g ∈ made ∨ CreatedBetween env s s' size g) :
    RecordInv env s' (s'.segs ++ made) := by
  have hmade : ∀ g ∈ s'.segs ++ made, g ∈ made ∨ CreatedBetween env s s' size g := by
    intro g hg
    rcases List.mem_append.mp hg with hg | hg
    · exact hsegs g hg
    · exact Or.inl hg
  -- an old id and a new one come from different system calls
  have hdiffer : ∀ {g g'}, g ∈ made → CreatedBetween env s s' size g' → g.id ≠ g'.id := by
    rintro g g' hg ⟨-, hneg, j, hj, -, hj'⟩ hid
    obtain ⟨i, hi, hi'⟩ := h.answered g hg
    have hij : j = i := henv j i (by rw [hj']; exact hneg) (by rw [hj', hi', hid])
    omega
  refine ⟨ht, hrecords, fun g hg => List.mem_append_left _ hg, ?_, ?_, ?_⟩
  · intro g hg
    rcases hmade g hg with hg | ⟨-, -, i, -, hi, hid⟩
    · obtain ⟨i, hi, hid⟩ := h.answered g hg
      exact ⟨i, hi.trans_le hcalls, hid⟩
    · exact ⟨i, hi, hid⟩
  · intro g hg
    rcases hmade g hg with hg | ⟨-, hneg, -⟩
    · exact h.valid g hg
    · exact hneg
  · intro g hg g' hg' hid
    rcases hmade g hg with hold | hnew
    · rcases hmade g' hg' with hold' | hnew'
      · exact h.unique g hold g' hold' hid
      · exact absurd hid (hdiffer hold hnew')
    · rcases hmade g' hg' with hold' | hnew'
      · exact absurd hid.symm (hdiffer hold' hnew)
      · obtain ⟨id, _⟩ := g
        obtain ⟨id', _⟩ := g'
        obtain rfl : id = id' := hid
        rw [Segment.mk.injEq]
        exact ⟨rfl, hnew.1.trans hnew'.1.symm⟩

end RecordInv

/-! ## Events other than `SMEMGET` -/

lemma mem_segs_of_smemFreeBuffer {id : Int32} {g : Segment}
    (hg : g ∈ (smemFreeBuffer env s id).2.segs) : g ∈ s.segs := by
  unfold smemFreeBuffer at hg
  dsimp only at hg
  split at hg
  · exact (List.mem_filter.mp hg).1
  · exact hg

/-- What the records stand for and what exists was created before. -/
structure Covered (env : Env) (made : List Segment) (calls : ℕ) (s : Server) : Prop where
  tables : TableInv env s
  records : ∀ r ∈ tracked s, r.segment ∈ made
  segs : ∀ g ∈ s.segs, g ∈ made
  calls : calls ≤ s.calls

namespace Covered

variable {made : List Segment} {calls : ℕ}

/-- A record is replaced by others for the same segment, and segments are only removed. -/
lemma replace {r : SmemT} {m l : Multiset SmemT} (h : Covered env made calls s)
    (ht : TableInv env s') (hs : tracked s = r ::ₘ m) (hs' : tracked s' = l + m)
    (hl : ∀ r' ∈ l, r'.segment = r.segment) (hsegs : ∀ g ∈ s'.segs, g ∈ s.segs)
    (hcalls : s.calls ≤ s'.calls) : Covered env made calls s' where
  tables := ht
  records := by
    intro r' hr'
    rw [hs', Multiset.mem_add] at hr'
    rcases hr' with hr' | hr'
    · rw [hl r' hr']
      exact h.records r (by rw [hs]; exact Multiset.mem_cons_self r m)
    · exact h.records r' (by rw [hs]; exact Multiset.mem_cons_of_mem hr')
  segs g hg := h.segs g (hsegs g hg)
  calls := h.calls.trans hcalls

lemma mem_segs_of_sweepRecord {timeout : Int32} {r : SmemT} {g : Segment}
    (hg : g ∈ (sweepRecord env timeout s r).2.segs) : g ∈ s.segs := by
  by_cases hexp : expired s timeout r = true
  · rw [sweepRecord_of_expired hexp] at hg
    exact mem_segs_of_smemFreeBuffer
      (s := { s with shareMemorySize := s.shareMemorySize - sizeT r.size }) hg
  · rw [sweepRecord_of_not_expired hexp] at hg
    exact hg

lemma mem_segs_of_recycle {key : Sds} {r : SmemT} {g : Segment}
    (hg : g ∈ (recycle env s key r).segs) : g ∈ s.segs := by
  unfold recycle at hg
  dsimp only at hg
  split at hg
  · exact mem_segs_of_smemFreeBuffer (s := { s with
      smempubsubMemorysAvailable := s.smempubsubMemorysAvailable.insert (sdsfromlonglong r.size)
        ((s.smempubsubMemorysAvailable.lookup (sdsfromlonglong r.size)).getD [])
      shareMemorySize := s.shareMemorySize - sizeT r.size }) hg
  · exact hg

lemma segment_of_left {timeout : Int32} {r r' : SmemT}
    (h : r' ∈ ((sweepRecord env timeout s r).1.left.toList : Multiset SmemT)) :
    r'.segment = r.segment := by
  rw [Multiset.mem_coe, Option.mem_toList] at h
  obtain ⟨n, rfl⟩ := sweepRecord_left h
  rfl

lemma moves (env : Env) (made : List Segment) (calls : ℕ) :
    Moves env (Covered env made calls) where
  state h hr := (h.tables.memorys hr).state
  recount cnt hr hcnt h := by
    obtain ⟨m, hs, hs'⟩ := TableInv.tracked_recount cnt hr
    rw [← Multiset.singleton_add] at hs'
    refine h.replace (h.tables.recount hr hcnt) hs hs' ?_ (fun _ hg => hg) le_rfl
    intro r' hr'
    rw [Multiset.mem_singleton.mp hr']
    rfl
  recycle {s key r} cnt hr _ h := by
    obtain ⟨m, hs, hs'⟩ := TableInv.tracked_recycle env cnt hr
    have hcalls := TableInv.recycle_calls env s key { r with cnt := cnt }
    split at hs'
    · rw [← zero_add m] at hs'
      exact h.replace (h.tables.recycle hr) hs hs' (fun r' hr' => by cases hr')
        (fun _ => mem_segs_of_recycle) hcalls
    · rw [← Multiset.singleton_add] at hs'
      refine h.replace (h.tables.recycle hr) hs hs' ?_ (fun _ => mem_segs_of_recycle) hcalls
      intro r' hr'
      rw [Multiset.mem_singleton.mp hr']
      rfl
  sweepNode {s _ _ r _} timeout hl h := by
    obtain ⟨m, hs, hs'⟩ := TableInv.tracked_sweepNode env timeout hl
    exact h.replace (h.tables.sweepNode timeout hl) hs hs' (fun _ => segment_of_left)
      (fun _ => mem_segs_of_sweepRecord) (sweepRecord_frame env timeout s r).2.2.2
  sweepMemory {s _ r} timeout hr h := by
    obtain ⟨m, hs, hs'⟩ := TableInv.tracked_sweepMemory env timeout hr
    exact h.replace (h.tables.sweepMemory timeout hr) hs hs' (fun _ => segment_of_left)
      (fun _ => mem_segs_of_sweepRecord) (sweepRecord_frame env timeout s r).2.2.2

lemma same (h : Covered env made calls s) (hs : SameTables s s') : Covered env made calls s' where
  tables := h.tables.same hs
  records := by
    have htracked : tracked s' = tracked s := by
      simp only [tracked, used, pooled, hs.memorys, hs.available]
    rw [htracked]
    exact h.records
  segs := by
    rw [hs.segs]
    exact h.segs
  calls := h.calls.trans hs.calls

lemma smemrm (h : Covered env made calls s) (args : List Sds) :
    Covered env made calls (smemrmCommand env s args).2 := by
  refine smemrmCommand_rule (fun h => h.tables.list) ?_ h
  intro _ _ n _ s h
  exact ⟨h.tables.smemFreeBuffer n.toInt32, h.records,
    fun g hg => h.segs g (mem_segs_of_smemFreeBuffer hg), h.calls.trans (Nat.le_succ _)⟩

/-- Events other than `SMEMGET` create nothing. -/
lemma step {op : Op} (hop : ∀ c size, op ≠ .smemget c size) (h : Covered env made calls s)
    (hs : step env s op = some s') : Covered env made calls s' := by
  have hmoves := moves env made calls
  cases htouch : op.touchesTables with
  | false => exact h.same (sameTables_step htouch hs)
  | true =>
    cases op with
    | smemget c size => exact absurd rfl (hop c size)
    | smemfree c args =>
      obtain ⟨cl, -, rfl⟩ := Option.map_eq_some_iff.mp hs
      exact hmoves.smemfreeCommand h
    | smemrm c args =>
      obtain ⟨cl, -, rfl⟩ := Option.map_eq_some_iff.mp hs
      exact h.smemrm args
    | smempublish c channel message =>
      obtain ⟨cl, -, hs⟩ := Option.bind_eq_some_iff.mp hs
      obtain ⟨r, hr, rfl⟩ := Option.map_eq_some_iff.mp hs
      exact hmoves.smempubsubPublishMessage h (except_toOption_eq_some.mp hr)
    | sweep timeout =>
      obtain rfl := Option.some.inj hs
      exact hmoves.smemFreeShareMemory timeout h
    | _ => cases htouch

end Covered

/-! ## `SMEMGET` -/

/-- A request whose aligned size is not a valid one is refused and changes nothing. -/
lemma smemgetCommand_of_bad {arg : Sds} {n : Int64} (h : TableInv env s)
    (hn : env.getLongLongFromObject arg = some n)
    (hbad : ¬ GoodSize (smemalign n.toInt32 4096)) : smemgetCommand env s arg = (-1, s) := by
  set size := smemalign n.toInt32 4096 with hsize
  have hreuse : smemgetReuse s size = (-1, s) := by
    rcases smemgetReuse_cases s size with hnone | ⟨l, r, hl, hr, -⟩
    · exact hnone
    · have hrec := (h.available hl).2 r (List.mem_of_find?_eq_some hr)
      have hkey : size = r.size := sdsfromlonglong_injective hrec.key_eq
      exact absurd (hkey ▸ hrec.size) hbad
  have hbounds : ¬ (0 < size ∧ size ≤ maxSmemSize) := fun hb => hbad (goodSize_of_bounds hb)
  have hbuffer : smemgetBuffer env s size = (-1, s) := by
    simp [smemgetBuffer, smemGetBuffer, hbounds]
  have hcmd : smemgetCommand env s arg = if (smemgetReuse s size).1 = -1
      then smemgetAllocate env (smemgetReuse s size).2 size else smemgetReuse s size := by
    rw [smemgetCommand, hn]
  rw [hcmd, hreuse, if_pos rfl, smemgetAllocate, hbuffer]
  split <;> rfl

/-- The segments in the state in which `SMEMGET` creates its own. -/
lemma mem_segs_of_probed {size : Int32} {s₀ : Server} {g : Segment}
    (hs₀ : s₀ = s ∨ GoodSize size ∧ env.shmget s.calls = 0 ∧ s₀ = probe env s size)
    (hg : g ∈ s₀.segs) : g ∈ s.segs ∨ CreatedBetween env s s₀ size g := by
  rcases hs₀ with rfl | ⟨-, hzero, rfl⟩
  · exact Or.inl hg
  · have hg' : g ∈ (shmget env s size).2.segs := mem_segs_of_smemFreeBuffer hg
    have hsegs : (shmget env s size).2.segs = ⟨0, size⟩ :: s.segs := by
      simp only [shmget, hzero]
      exact if_neg (by decide)
    rw [hsegs, List.mem_cons] at hg'
    rcases hg' with rfl | hg'
    · have hcalls : (probe env s size).calls = s.calls + 2 := rfl
      exact Or.inr ⟨rfl, (by decide : (0 : Int32) ≠ -1), s.calls, le_rfl, by omega, hzero⟩
    · exact Or.inl hg'

lemma CreatedBetween.mono {s₀ : Server} {size : Int32} {g : Segment}
    (h : CreatedBetween env s s₀ size g) (hcalls : s₀.calls ≤ s'.calls) :
    CreatedBetween env s s' size g := by
  obtain ⟨hsize, hneg, i, hi, hi', hid⟩ := h
  exact ⟨hsize, hneg, i, hi, hi'.trans_le hcalls, hid⟩

/-- The new state of the record of segments, and the record behind the answer. -/
lemma RecordInv.smemget (henv : env.FreshIds) {made : List Segment} (h : RecordInv env s made)
    (arg : Sds) :
    RecordInv env (smemgetCommand env s arg).2 ((smemgetCommand env s arg).2.segs ++ made) ∧
    ((smemgetCommand env s arg).1 ≠ -1 → ∃ r ∈ tracked (smemgetCommand env s arg).2,
      r.id = (smemgetCommand env s arg).1 ∧ r.size = requestedSize env arg) := by
  have ht : TableInv env (smemgetCommand env s arg).2 :=
    (TableInv.preserves henv).smemgetCommand henv h.tables
  rcases h.tables.smemgetCommand_cases henv arg with halloc | ⟨l, r, hl, hr, heq⟩
  · generalize (smemgetCommand env s arg).1 = m at halloc ⊢
    generalize (smemgetCommand env s arg).2 = s' at ht halloc ⊢
    cases halloc with
    | @refused s₀ _ hs₀ hsame =>
      obtain ⟨-, hm, hp, hcalls⟩ := h.tables.probed hs₀
      refine ⟨?_, fun hneg => absurd rfl hneg⟩
      refine h.grow henv (requestedSize env arg) ht (hcalls.trans hsame.calls) ?_ ?_
      · intro r hr
        have htracked : tracked s' = tracked s := by
          rw [tracked, tracked, used, used, hsame.memorys, hm, ← hp, pooled, pooled,
            hsame.available]
        rw [htracked] at hr
        exact List.mem_append_right _ (h.records r hr)
      · intro g hg
        rw [hsame.segs] at hg
        rcases mem_segs_of_probed hs₀ hg with hg | hg
        · exact Or.inl (h.segs g hg)
        · exact Or.inr (hg.mono hsame.calls)
    | @created s₀ hgood hs₀ _ hneg hzero =>
      obtain ⟨ht₀, hm, hp, hcalls⟩ := h.tables.probed hs₀
      have htracked := ht₀.tracked_create henv (requestedSize env arg)
      have htracked₀ : tracked s₀ = tracked s := by rw [tracked, tracked, used, used, hm, hp]
      have hsegs : (smemgetAdopt (shmget env s₀ (requestedSize env arg)).2
          (env.shmget s₀.calls) (requestedSize env arg)).segs
            = ⟨env.shmget s₀.calls, requestedSize env arg⟩ :: s₀.segs := if_neg hneg
      refine ⟨?_, fun _ => ⟨_, by rw [htracked]; exact Multiset.mem_cons_self _ _, rfl, rfl⟩⟩
      refine h.grow henv (requestedSize env arg) ht (hcalls.trans (Nat.le_succ _)) ?_ ?_
      · intro r hr
        rw [htracked, Multiset.mem_cons, htracked₀] at hr
        rcases hr with rfl | hr
        · rw [hsegs]
          exact List.mem_append_left _ List.mem_cons_self
        · exact List.mem_append_right _ (h.records r hr)
      · intro g hg
        rw [hsegs, List.mem_cons] at hg
        rcases hg with rfl | hg
        · exact Or.inr ⟨rfl, hneg, s₀.calls, hcalls, Nat.lt_succ_self _, rfl⟩
        · rcases mem_segs_of_probed hs₀ hg with hg | hg
          · exact Or.inl (h.segs g hg)
          · exact Or.inr (hg.mono (Nat.le_succ _))
  · obtain ⟨-, hused, hpooled⟩ := h.tables.tracked_reuse hl hr
    have hsize : r.size = requestedSize env arg :=
      (sdsfromlonglong_injective
        ((h.tables.available hl).2 r (List.mem_of_find?_eq_some hr)).key_eq).symm
    have hframe : (smemgetReuse s (requestedSize env arg)).2.segs = s.segs ∧
        (smemgetReuse s (requestedSize env arg)).2.calls = s.calls := by
      simp only [smemgetReuse, hl, hr, and_self]
    have hmem : r ∈ tracked s := by
      rw [mem_tracked, hpooled]
      exact Or.inr (Multiset.mem_cons_self _ _)
    rw [heq] at ht ⊢
    dsimp only at ht ⊢
    refine ⟨?_, fun _ => ⟨r.handOut s.unixtime, ?_, rfl, hsize⟩⟩
    · refine h.grow henv (requestedSize env arg) ht hframe.2.ge ?_ ?_
      · intro r' hr'
        refine List.mem_append_right _ ?_
        rw [mem_tracked, hused, Multiset.mem_cons] at hr'
        rcases hr' with (rfl | hr') | hr'
        · exact h.records r hmem
        · exact h.records r' (mem_tracked.mpr (Or.inl hr'))
        · refine h.records r' (mem_tracked.mpr (Or.inr ?_))
          rw [hpooled]
          exact Multiset.mem_cons_of_mem hr'
      · intro g hg
        rw [hframe.1] at hg
        exact Or.inl (h.segs g hg)
    · rw [mem_tracked, hused]
      exact Or.inl (Multiset.mem_cons_self _ _)

lemma RecordInv.step (henv : env.FreshIds) {made : List Segment} {op : Op}
    (h : RecordInv env s made) (hs : step env s op = some s') :
    RecordInv env s' (s'.segs ++ made) := by
  by_cases hop : ∃ c size, op = .smemget c size
  · obtain ⟨c, size, rfl⟩ := hop
    obtain ⟨cl, -, rfl⟩ := Option.map_eq_some_iff.mp hs
    exact (h.smemget henv size).1
  · have hop' : ∀ c size, op ≠ .smemget c size := fun c size heq => hop ⟨c, size, heq⟩
    have hcovered : Covered env made s.calls s := ⟨h.tables, h.records, h.segs, le_rfl⟩
    have hnext := hcovered.step hop' hs
    exact h.grow henv 0 hnext.tables hnext.calls
      (fun r hr => List.mem_append_right _ (hnext.records r hr))
      (fun g hg => Or.inl (hnext.segs g hg))

lemma RecordInv.of_reachable (henv : env.FreshIds) {sm : Server × List Segment}
    (h : (recorded env).Reachable (fun _ _ => True) sm) : RecordInv env sm.1 sm.2 := by
  refine h.invariant (I := fun sm => RecordInv env sm.1 sm.2) ?_ ?_
  · rintro ⟨s, made⟩ ⟨⟨size, rfl⟩, rfl⟩
    exact init size
  · rintro ⟨s, made⟩ op sm' _ hs _ hstep
    obtain ⟨s', hs', rfl⟩ := Option.map_eq_some_iff.mp hstep
    exact hs.step henv hs'

/-! ## When the answer is large enough -/

/-- The argument survives the conversion to `int`, or what is left of it is not a valid size. -/
def Converts (n : Int64) : Prop :=
  n.toInt32.toInt = n.toInt ∨ ¬ (0 < n.toInt32 ∧ n.toInt32 ≤ maxSmemSize)

instance (n : Int64) : Decidable (Converts n) :=
  inferInstanceAs (Decidable (n.toInt32.toInt = n.toInt ∨ _))

lemma largeEnough_of_converts (henv : env.FreshIds) {made : List Segment} {arg : Sds} {n : Int64}
    (h : RecordInv env s made) (hn : env.getLongLongFromObject arg = some n) (hc : Converts n) :
    LargeEnough env s made arg n := by
  have hmax : maxSmemSize.toInt = 26542080 := rfl
  by_cases hgood : GoodSize (smemalign n.toInt32 4096)
  · obtain ⟨hpos, hle⟩ := (goodSize_smemalign_iff n.toInt32).mp hgood
    have hsame : n.toInt32.toInt = n.toInt := by
      refine hc.resolve_right fun hnot => hnot ⟨?_, ?_⟩
      · exact Int32.lt_iff_toInt_lt.mpr hpos
      · exact Int32.le_iff_toInt_le.mpr hle
    have hrequested : requestedSize env arg = smemalign n.toInt32 4096 := by
      rw [requestedSize, hn]
    obtain ⟨hinv, hrecord⟩ := h.smemget henv arg
    refine ⟨fun hnonneg => ?_, fun hout => ?_⟩
    · have hneg : (smemgetCommand env s arg).1 ≠ -1 := by
        intro heq
        rw [heq] at hnonneg
        exact absurd hnonneg (by decide)
      obtain ⟨r, hr, hid, hsize⟩ := hrecord hneg
      refine ⟨by omega, ⟨r.segment, hinv.records r hr, hid⟩, ?_⟩
      intro g hg hgid
      have hg' : g = r.segment :=
        hinv.unique g hg r.segment (hinv.records r hr) (hgid.trans hid.symm)
      have hround := le_smemalign hpos hle
      rw [hg', ← hsame]
      show n.toInt32.toInt ≤ r.size.toInt
      rw [hsize, hrequested]
      exact hround
    · omega
  · have heq := smemgetCommand_of_bad h.tables hn hgood
    refine ⟨fun hnonneg => ?_, fun _ => heq⟩
    rw [heq] at hnonneg
    exact absurd hnonneg (by decide : ¬ (0 : Int32) ≤ -1)

/-- A kernel that has one segment to give, with the id 1. -/
def oneSegment (parse : Sds → Option Int64) : Env where
  shmget i := if i = 0 then 1 else -1
  rmid _ _ segmentExists := segmentExists
  getLongLongFromObject := parse

lemma oneSegment_freshIds (parse : Sds → Option Int64) : (oneSegment parse).FreshIds := by
  intro i j hi hij
  by_cases hi0 : i = 0
  · by_cases hj0 : j = 0
    · rw [hi0, hj0]
    · simp [oneSegment, hi0, hj0] at hij
  · simp [oneSegment, hi0] at hi

/-- The first request for a valid size, on a machine with a gigabyte, is served. -/
lemma oneSegment_serves {parse : Sds → Option Int64} {arg : Sds} {n : Int64}
    (hn : parse arg = some n) (hgood : GoodSize (smemalign n.toInt32 4096)) :
    (smemgetCommand (oneSegment parse) (initServer 1073741824) arg).1 = 1 ∧
      (⟨1, smemalign n.toInt32 4096⟩ : Segment) ∈
        (smemgetCommand (oneSegment parse) (initServer 1073741824) arg).2.segs := by
  set size := smemalign n.toInt32 4096 with hsize
  have hbounds : 0 < size ∧ size ≤ maxSmemSize :=
    ⟨Int32.lt_iff_toInt_lt.mpr hgood.pos, Int32.le_iff_toInt_le.mpr hgood.le_max⟩
  have hlimit : (initServer 1073741824).shareMemorySize + sizeT size
      ≤ (initServer 1073741824).shareMemoryLimit := by
    have hbytes := sizeT_toNat hgood
    have hle := hgood.le_max
    have hhalf : ((1073741824 : UInt64) / 2).toNat = 536870912 := by decide
    rw [initServer, UInt64.zero_add, UInt64.le_iff_toNat_le, hhalf]
    omega
  have hparse : (oneSegment parse).getLongLongFromObject arg = some n := hn
  have hreuse : smemgetReuse (initServer 1073741824) size = (-1, initServer 1073741824) := by
    simp [smemgetReuse, initServer]
  have hbuffer : smemgetBuffer (oneSegment parse) (initServer 1073741824) size
      = shmget (oneSegment parse) (initServer 1073741824) size := by
    simp [smemgetBuffer, smemGetBuffer, hbounds, shmget, oneSegment, initServer]
  have hcmd : smemgetCommand (oneSegment parse) (initServer 1073741824) arg
      = (1, smemgetAdopt (shmget (oneSegment parse) (initServer 1073741824) size).2 1 size) := by
    rw [smemgetCommand, hparse]
    dsimp only
    rw [← hsize, hreuse, if_pos rfl, smemgetAllocate, if_pos hlimit, hbuffer]
    rfl
  rw [hcmd]
  exact ⟨rfl, List.mem_cons_self⟩

/-- For every argument of `SMEMGET`: in every state of every run, whatever the kernel answers, what
is handed out is at least as large as requested and bad requests change nothing, exactly when the
argument survives the conversion to `int` or is not a valid size after it. -/
theorem smemget_large_enough_iff {parse : Sds → Option Int64} {arg : Sds} {n : Int64}
    (hn : parse arg = some n) :
    (∀ env : Env, env.FreshIds → env.getLongLongFromObject = parse →
      ∀ s made, (recorded env).Reachable (fun _ _ => True) (s, made) →
        LargeEnough env s made arg n) ↔ Converts n := by
  constructor
  · intro hall
    by_contra hnot
    obtain ⟨hdiffer, hvalid⟩ := not_or.mp hnot
    obtain ⟨hpos, hle⟩ := not_not.mp hvalid
    have hgood : GoodSize (smemalign n.toInt32 4096) :=
      (goodSize_smemalign_iff _).mpr ⟨Int32.lt_iff_toInt_lt.mp hpos, Int32.le_iff_toInt_le.mp hle⟩
    obtain ⟨hid, hseg⟩ := oneSegment_serves hn hgood
    have hlarge := (hall (oneSegment parse) (oneSegment_freshIds parse) rfl
      (initServer 1073741824) [] (.init ⟨⟨_, rfl⟩, rfl⟩)).1
    rw [hid] at hlarge
    obtain ⟨hnpos, -, hsize⟩ := hlarge (by decide)
    have hbound := hsize _ (List.mem_append_left _ hseg) rfl
    have hmax := hgood.le_max
    dsimp only at hbound
    -- a number between 0 and the size of a segment fits an `int`
    refine hdiffer ?_
    rw [Int64.toInt_toInt32]
    exact Int.bmod_eq_of_le (by omega) (by omega)
  · rintro hc env henv rfl s made hreach
    exact largeEnough_of_converts henv (RecordInv.of_reachable henv hreach) hn hc

theorem smemget_large_enough_iff_fiveThousand :
    decimalValue "5000" = some 5000 ∧ ∀ env : Env, env.FreshIds →
      env.getLongLongFromObject = decimalValue → ∀ s made,
        (recorded env).Reachable (fun _ _ => True) (s, made) →
          LargeEnough env s made "5000" 5000 := by
  have hn : decimalValue "5000" = some 5000 := by decide
  exact ⟨hn, (smemget_large_enough_iff hn).mpr (by decide)⟩

/-- `SMEMGET 4294967297`, which is 1 as an `int`, is answered with a segment of 4096 bytes. -/
theorem smemget_too_small :
    ∃ sm, (recorded sampleEnv).run (initServer 100000, []) [.connect] = some sm ∧
      decimalValue "4294967297" = some 4294967297 ∧
      (smemgetCommand sampleEnv sm.1 "4294967297").1 = 2 ∧
      (smemgetCommand sampleEnv sm.1 "4294967297").2.segs = [⟨2, 4096⟩] ∧
      ¬ LargeEnough sampleEnv sm.1 sm.2 "4294967297" 4294967297 := by
  have hrun : ((recorded sampleEnv).run (initServer 100000, []) [.connect]).map (fun sm =>
      ((smemgetCommand sampleEnv sm.1 "4294967297").1,
        (smemgetCommand sampleEnv sm.1 "4294967297").2.segs)) = some (2, [⟨2, 4096⟩]) := by decide
  obtain ⟨sm, hs, hall⟩ := Option.map_eq_some_iff.mp hrun
  simp only [Prod.mk.injEq] at hall
  obtain ⟨hid, hsegs⟩ := hall
  refine ⟨sm, hs, by decide, hid, hsegs, ?_⟩
  intro hlarge
  have hsize := (hlarge.1 (by rw [hid]; decide)).2.2 ⟨2, 4096⟩ (by rw [hsegs]; simp) hid.symm
  exact absurd hsize (by decide)

end SelfTestCode.Broker
