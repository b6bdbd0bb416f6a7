import SelfTestCode.Broker.Rules

/-!
# The representation invariant of the buffer tables

`smempubsub_memorys` holds the records handed out, keyed by the decimal text of the id;
`smempubsub_memorys_available` holds the pooled ones, in lists keyed by the decimal text of the
size.  Lookups are by text while the records carry integers, so whether a record can be found
again depends on every writer of the tables.  `TableInv` is what they keep: keys, states,
counts, sizes, the length of the lists, and that no id is recorded twice.

The last point rests on the kernel (`Env.FreshIds`): every recorded id is the answer of an
earlier `shmget`, so a new answer is none of them.  The results of `IPC_RMID` play no part.
-/

namespace SelfTestCode.Broker

variable {env : Env} {s : Server}

/-- The records handed out. -/
def used (s : Server) : Multiset SmemT := s.smempubsubMemorys.vals

/-- The pooled records. -/
def pooled (s : Server) : Multiset SmemT := s.smempubsubMemorysAvailable.items

/-- All records the broker keeps. -/
def tracked (s : Server) : Multiset SmemT := used s + pooled s

lemma mem_used {r : SmemT} : r ∈ used s ↔ ∃ key, s.smempubsubMemorys.lookup key = some r :=
  Dict.mem_vals

lemma mem_pooled {r : SmemT} :
    r ∈ pooled s ↔ ∃ key l, s.smempubsubMemorysAvailable.lookup key = some l ∧ r ∈ l :=
  Dict.mem_items

lemma mem_tracked {r : SmemT} : r ∈ tracked s ↔ r ∈ used s ∨ r ∈ pooled s := Multiset.mem_add

/-- What holds of a record in `smempubsub_memorys` under the key `key`. -/
structure UsedRecord (key : Sds) (r : SmemT) : Prop where
  key_eq : key = sdsfromlonglong r.id
  state : r.state = .used
  cnt : 0 < r.cnt
  size : GoodSize r.size

/-- What holds of a record in the list of `smempubsub_memorys_available` filed under `key`. -/
structure PooledRecord (key : Sds) (r : SmemT) : Prop where
  key_eq : key = sdsfromlonglong r.size
  state : r.state = .available
  cnt : r.cnt = 0
  size : GoodSize r.size

/-- The id was answered by one of the first `calls` system calls, and is not 0. -/
def Issued (env : Env) (calls : ℕ) (id : Int32) : Prop :=
  id ≠ 0 ∧ id ≠ -1 ∧ ∃ i < calls, env.shmget i = id

/-- The representation invariant of the two buffer tables. -/
structure TableInv (env : Env) (s : Server) : Prop where
  memorys : ∀ {key r}, s.smempubsubMemorys.lookup key = some r → UsedRecord key r
  available : ∀ {key l}, s.smempubsubMemorysAvailable.lookup key = some l →
    l.length ≤ 21 ∧ ∀ r ∈ l, PooledRecord key r
  ids_nodup : ((tracked s).map SmemT.id).Nodup
  issued : ∀ {r}, r ∈ tracked s → Issued env s.calls r.id
  list : s.smemListAvailable = []

lemma Issued.mono {calls calls' : ℕ} {id : Int32} (h : Issued env calls id)
    (hle : calls ≤ calls') : Issued env calls' id := by
  obtain ⟨h0, h1, i, hi, hid⟩ := h
  exact ⟨h0, h1, i, hi.trans_le hle, hid⟩

/-- A new answer of `shmget` was not issued before. -/
lemma Env.FreshIds.not_issued (henv : env.FreshIds) {calls : ℕ} :
    ¬ Issued env calls (env.shmget calls) := by
  rintro ⟨-, hneg, i, hi, hid⟩
  have := henv i calls (by rw [hid]; exact hneg) hid
  omega

namespace TableInv

/-- Two tracked records with one id split off the same entry. -/
lemma id_notMem {m : Multiset SmemT} {r : SmemT} (h : ((r ::ₘ m).map SmemT.id).Nodup) :
    r.id ∉ m.map SmemT.id := by
  rw [Multiset.map_cons, Multiset.nodup_cons] at h
  exact h.1

/-- The key of a tracked id that is not in use is free. -/
lemma lookup_eq_none (h : TableInv env s) {id : Int32} (hid : id ∉ (used s).map SmemT.id) :
    s.smempubsubMemorys.lookup (sdsfromlonglong id) = none := by
  cases hl : s.smempubsubMemorys.lookup (sdsfromlonglong id) with
  | none => rfl
  | some r =>
    have hr := h.memorys hl
    have : id = r.id := sdsfromlonglong_injective hr.key_eq
    exact absurd (Multiset.mem_map.mpr ⟨r, mem_used.mpr ⟨_, hl⟩, this.symm⟩) hid

lemma goodSize (h : TableInv env s) {r : SmemT} (hr : r ∈ tracked s) : GoodSize r.size := by
  rcases mem_tracked.mp hr with hr | hr
  · obtain ⟨key, hkey⟩ := mem_used.mp hr
    exact (h.memorys hkey).size
  · obtain ⟨key, l, hl, hr⟩ := mem_pooled.mp hr
    exact ((h.available hl).2 r hr).size

/-- Moves that rebuild the tables from the same ids keep the last three clauses. -/
lemma of_ids {s' : Server} (h : TableInv env s)
    (hmem : ∀ {key r}, s'.smempubsubMemorys.lookup key = some r → UsedRecord key r)
    (hav : ∀ {key l}, s'.smempubsubMemorysAvailable.lookup key = some l →
      l.length ≤ 21 ∧ ∀ r ∈ l, PooledRecord key r)
    (hids : (tracked s').map SmemT.id ≤ (tracked s).map SmemT.id)
    (hlist : s'.smemListAvailable = s.smemListAvailable) (hcalls : s.calls ≤ s'.calls) :
    TableInv env s' where
  memorys := hmem
  available := hav
  ids_nodup := Multiset.nodup_of_le hids h.ids_nodup
  issued := by
    intro r hr
    have : r.id ∈ (tracked s).map SmemT.id :=
      Multiset.mem_of_le hids (Multiset.mem_map_of_mem _ hr)
    obtain ⟨r₀, hr₀, hid⟩ := Multiset.mem_map.mp this
    exact hid ▸ (h.issued hr₀).mono hcalls
  list := by rw [hlist, h.list]

lemma init (systemMemorySize : UInt64) : TableInv env (initServer systemMemorySize) where
  memorys h := by simp [initServer] at h
  available h := by simp [initServer] at h
  ids_nodup := by simp [tracked, used, pooled, initServer]
  issued h := by simp [tracked, used, pooled, initServer] at h
  list := rfl

lemma same {s' : Server} (hs : SameTables s s') (h : TableInv env s) : TableInv env s' := by
  have htracked : tracked s' = tracked s := by
    simp only [tracked, used, pooled, hs.memorys, hs.available]
  refine h.of_ids ?_ ?_ (by rw [htracked]) hs.list hs.calls
  · rw [hs.memorys]
    exact h.memorys
  · rw [hs.available]
    exact h.available

/-- A call of the kernel changes neither table. -/
lemma kernel {s' : Server} (hm : s'.smempubsubMemorys = s.smempubsubMemorys)
    (ha : s'.smempubsubMemorysAvailable = s.smempubsubMemorysAvailable)
    (hl : s'.smemListAvailable = s.smemListAvailable) (hc : s.calls ≤ s'.calls)
    (h : TableInv env s) : TableInv env s' := by
  have htracked : tracked s' = tracked s := by simp only [tracked, used, pooled, hm, ha]
  refine h.of_ids ?_ ?_ (by rw [htracked]) hl hc
  · rw [hm]
    exact h.memorys
  · rw [ha]
    exact h.available

lemma smemFreeBuffer (h : TableInv env s) (id : Int32) :
    TableInv env (smemFreeBuffer env s id).2 :=
  h.kernel (s := s) rfl rfl rfl (Nat.le_succ _)

/-! ## The moves -/

/-- A new segment has an unrecorded id, so its record is added to the table. -/
lemma adopt_memorys (henv : env.FreshIds) (size : Int32) (h : TableInv env s) :
    s.smempubsubMemorys.lookup (sdsfromlonglong (env.shmget s.calls)) = none ∧
    env.shmget s.calls ∉ (tracked s).map SmemT.id ∧
    (smemgetAdopt (shmget env s size).2 (env.shmget s.calls) size).smempubsubMemorys
      = s.smempubsubMemorys.insert (sdsfromlonglong (env.shmget s.calls))
        (SmemT.fresh (env.shmget s.calls) size s.unixtime) := by
  have hnew : env.shmget s.calls ∉ (tracked s).map SmemT.id := by
    intro hmem
    obtain ⟨r, hr, hid⟩ := Multiset.mem_map.mp hmem
    exact henv.not_issued (hid ▸ h.issued hr)
  have hnone : s.smempubsubMemorys.lookup (sdsfromlonglong (env.shmget s.calls)) = none := by
    apply h.lookup_eq_none
    intro hmem
    exact hnew (by rw [tracked, Multiset.map_add]; exact Multiset.mem_add.mpr (Or.inl hmem))
  refine ⟨hnone, hnew, ?_⟩
  show s.smempubsubMemorys.add _ _ = _
  rw [Dict.add, if_neg (AList.lookup_eq_none.mp hnone)]
  rfl

lemma tracked_create (henv : env.FreshIds) (size : Int32) (h : TableInv env s) :
    tracked (smemgetAdopt (shmget env s size).2 (env.shmget s.calls) size)
      = SmemT.fresh (env.shmget s.calls) size s.unixtime ::ₘ tracked s := by
  obtain ⟨hnone, -, hadopt⟩ := h.adopt_memorys henv size
  rw [tracked, used, hadopt, Dict.vals_insert, Dict.erase_of_lookup_none hnone,
    Multiset.cons_add]
  rfl

lemma create (henv : env.FreshIds) {size : Int32} (hsize : GoodSize size)
    (hneg : env.shmget s.calls ≠ -1) (hzero : env.shmget s.calls ≠ 0) (h : TableInv env s) :
    TableInv env (smemgetAdopt (shmget env s size).2 (env.shmget s.calls) size) := by
  obtain ⟨-, hnew, hadopt⟩ := h.adopt_memorys henv size
  have htracked := h.tracked_create henv size
  refine ⟨?_, h.available, ?_, ?_, h.list⟩
  · intro key r hr
    rw [hadopt, Dict.lookup_insert_if] at hr
    split at hr
    · cases hr
      exact ⟨by assumption, rfl, (by decide : (0 : Int32) < 1), hsize⟩
    · exact h.memorys hr
  · rw [htracked, Multiset.map_cons, Multiset.nodup_cons]
    exact ⟨hnew, h.ids_nodup⟩
  · intro r hr
    rw [htracked, Multiset.mem_cons] at hr
    rcases hr with rfl | hr
    · exact ⟨hzero, hneg, s.calls, Nat.lt_succ_self _, rfl⟩
    · exact (h.issued hr).mono (Nat.le_succ _)

/-- The contents of the tables after a reuse. -/
lemma tracked_reuse {size : Int32} {l : List SmemT} {r : SmemT}
    (hl : s.smempubsubMemorysAvailable.lookup (sdsfromlonglong size) = some l)
    (hr : l.find? (fits size) = some r) (h : TableInv env s) :
    s.smempubsubMemorys.lookup (sdsfromlonglong r.id) = none ∧
      used (smemgetReuse s size).2 = r.handOut s.unixtime ::ₘ used s ∧
      pooled s = r ::ₘ pooled (smemgetReuse s size).2 := by
  have hpooled : pooled s = r ::ₘ ((l.eraseP (fits size) : Multiset SmemT)
      + Dict.items (s.smempubsubMemorysAvailable.erase (sdsfromlonglong size))) := by
    rw [pooled, Dict.items_of_lookup hl, Dict.coe_of_find? hr, Multiset.cons_add]
  have hnone : s.smempubsubMemorys.lookup (sdsfromlonglong r.id) = none := by
    apply h.lookup_eq_none
    have hnd := h.ids_nodup
    rw [tracked, hpooled, Multiset.add_cons] at hnd
    intro hmem
    exact id_notMem hnd (by rw [Multiset.map_add]; exact Multiset.mem_add.mpr (Or.inl hmem))
  refine ⟨hnone, ?_, ?_⟩
  · simp only [used, smemgetReuse, hl, hr, Dict.add, if_neg (AList.lookup_eq_none.mp hnone),
      Dict.vals_insert, Dict.erase_of_lookup_none hnone]
  · rw [hpooled]
    simp only [pooled, smemgetReuse, hl, hr, Dict.items_insert]

lemma reuse {size : Int32} {l : List SmemT} {r : SmemT}
    (hl : s.smempubsubMemorysAvailable.lookup (sdsfromlonglong size) = some l)
    (hr : l.find? (fits size) = some r) (h : TableInv env s) :
    TableInv env (smemgetReuse s size).2 := by
  have hrec := (h.available hl).2 r (List.mem_of_find?_eq_some hr)
  obtain ⟨hnone, hused, hpooled⟩ := h.tracked_reuse hl hr
  refine h.of_ids ?_ ?_ ?_ ?_ ?_
  · intro key r' hr'
    simp only [smemgetReuse, hl, hr, Dict.add, if_neg (AList.lookup_eq_none.mp hnone),
      Dict.lookup_insert_if] at hr'
    split at hr'
    · cases hr'
      exact ⟨by assumption, rfl, (by decide : (0 : Int32) < 1), hrec.size⟩
    · exact h.memorys hr'
  · intro key l' hl'
    simp only [smemgetReuse, hl, hr, Dict.lookup_insert_if] at hl'
    split at hl'
    · rename_i hkey
      cases hl'
      subst hkey
      obtain ⟨hlen, hall⟩ := h.available hl
      exact ⟨(List.length_eraseP_le).trans hlen, fun r' hr' => hall r' (List.mem_of_mem_eraseP hr')⟩
    · exact h.available hl'
  · rw [tracked, tracked, hused, hpooled]
    simp [SmemT.handOut]
  · simp only [smemgetReuse, hl, hr]
  · simp only [smemgetReuse, hl, hr, le_refl]

/-- A change of a count replaces one record. -/
lemma tracked_recount {key : Sds} {r : SmemT} (cnt : Int32)
    (hr : s.smempubsubMemorys.lookup key = some r) :
    ∃ m, tracked s = r ::ₘ m ∧ tracked
      { s with smempubsubMemorys := s.smempubsubMemorys.insert key { r with cnt := cnt } }
        = { r with cnt := cnt } ::ₘ m := by
  refine ⟨Dict.vals (s.smempubsubMemorys.erase key) + pooled s, ?_, ?_⟩
  · rw [tracked, used, Dict.vals_of_lookup hr, Multiset.cons_add]
  · rw [tracked, used, Dict.vals_insert, Multiset.cons_add]
    rfl

lemma recount {key : Sds} {r : SmemT} {cnt : Int32}
    (hr : s.smempubsubMemorys.lookup key = some r) (hcnt : 0 < cnt) (h : TableInv env s) :
    TableInv env
      { s with smempubsubMemorys := s.smempubsubMemorys.insert key { r with cnt := cnt } } := by
  have hrec := h.memorys hr
  obtain ⟨m, hs, hs'⟩ := tracked_recount cnt hr
  refine h.of_ids ?_ h.available ?_ rfl le_rfl
  · intro key' r' hr'
    rw [Dict.lookup_insert_if] at hr'
    split at hr'
    · rename_i hkey
      cases hr'
      exact ⟨hkey.trans hrec.key_eq, hrec.state, hcnt, hrec.size⟩
    · exact h.memorys hr'
  · rw [hs, hs', Multiset.map_cons, Multiset.map_cons]

/-- A recycled record leaves `smempubsub_memorys`. -/
lemma recycle_memorys (env : Env) (s : Server) (key : Sds) (r : SmemT) :
    (Broker.recycle env s key r).smempubsubMemorys = s.smempubsubMemorys.erase key := by
  unfold Broker.recycle
  dsimp only
  split <;> rfl

lemma recycle_calls (env : Env) (s : Server) (key : Sds) (r : SmemT) :
    s.calls ≤ (Broker.recycle env s key r).calls := by
  unfold Broker.recycle
  dsimp only
  split
  · exact Nat.le_succ _
  · exact le_rfl

/-- A recycled record is pooled unless the list of its size is full. -/
lemma pooled_recycle (env : Env) (s : Server) (key : Sds) (r : SmemT) :
    pooled (Broker.recycle env s key r) =
      if 20 < ((s.smempubsubMemorysAvailable.lookup (sdsfromlonglong r.size)).getD []).length
      then pooled s else r.giveBack s.unixtime ::ₘ pooled s := by
  have hsplit := Dict.items_getD s.smempubsubMemorysAvailable (sdsfromlonglong r.size)
  unfold Broker.recycle
  dsimp only
  split
  · show Dict.items (AList.insert _ _ _) = _
    rw [Dict.items_insert, pooled, hsplit]
  · show Dict.items (AList.insert _ _ _) = _
    rw [Dict.items_insert, pooled, hsplit, ← Multiset.coe_add, Multiset.coe_singleton,
      Multiset.add_comm (_ : Multiset SmemT) {_}, Multiset.add_assoc, Multiset.singleton_add]

/-- The contents of the tables after a recycling. -/
lemma tracked_recycle (env : Env) {key : Sds} {r : SmemT} (cnt : Int32)
    (hr : s.smempubsubMemorys.lookup key = some r) :
    ∃ m, tracked s = r ::ₘ m ∧ tracked (Broker.recycle env s key { r with cnt := cnt }) =
      if 20 < ((s.smempubsubMemorysAvailable.lookup (sdsfromlonglong r.size)).getD []).length
      then m else { r with cnt := cnt }.giveBack s.unixtime ::ₘ m := by
  refine ⟨Dict.vals (s.smempubsubMemorys.erase key) + pooled s, ?_, ?_⟩
  · rw [tracked, used, Dict.vals_of_lookup hr, Multiset.cons_add]
  · rw [tracked, used, recycle_memorys, pooled_recycle]
    split
    · rfl
    · rw [Multiset.add_cons]

/-- The list that receives a recycled record, read as empty when it does not exist yet. -/
lemma available_getD (h : TableInv env s) (key : Sds) :
    ((s.smempubsubMemorysAvailable.lookup key).getD []).length ≤ 21 ∧
      ∀ r ∈ (s.smempubsubMemorysAvailable.lookup key).getD [], PooledRecord key r := by
  cases hl : s.smempubsubMemorysAvailable.lookup key with
  | none => simp
  | some l => simpa using h.available hl

lemma recycle {key : Sds} {r : SmemT} {cnt : Int32}
    (hr : s.smempubsubMemorys.lookup key = some r) (h : TableInv env s) :
    TableInv env (recycle env s key { r with cnt := cnt }) := by
  have hrec := h.memorys hr
  obtain ⟨m, hs, hs'⟩ := tracked_recycle env cnt hr
  obtain ⟨hlen, hall⟩ := h.available_getD (sdsfromlonglong r.size)
  refine h.of_ids ?_ ?_ ?_ ?_ (recycle_calls env s key _)
  · intro key' r' hr'
    rw [recycle_memorys, Dict.lookup_erase_if] at hr'
    split at hr'
    · cases hr'
    · exact h.memorys hr'
  · intro key' l' hl'
    unfold Broker.recycle at hl'
    dsimp only at hl'
    split at hl'
    · -- the list is full and stays as it was
      have hl'' : (s.smempubsubMemorysAvailable.insert (sdsfromlonglong r.size)
          ((s.smempubsubMemorysAvailable.lookup (sdsfromlonglong r.size)).getD [])).lookup key'
          = some l' := hl'
      rw [Dict.lookup_insert_if] at hl''
      split at hl''
      · rename_i hkey
        cases hl''
        rw [hkey]
        exact ⟨hlen, hall⟩
      · exact h.available hl''
    · rename_i hroom
      rw [Dict.lookup_insert_if] at hl'
      split at hl'
      · rename_i hkey
        cases hl'
        refine ⟨by rw [List.length_append, List.length_singleton]; omega, ?_⟩
        intro r' hr'
        rcases List.mem_append.mp hr' with hr' | hr'
        · exact hkey ▸ hall r' hr'
        · rw [List.mem_singleton] at hr'
          subst hr'
          exact ⟨hkey, rfl, rfl, hrec.size⟩
      · exact h.available hl'
  · rw [hs, hs', Multiset.map_cons]
    split
    · exact Multiset.le_cons_self _ _
    · rw [Multiset.map_cons]
      exact le_rfl
  · unfold Broker.recycle
    dsimp only
    split <;> rfl

/-! ## The sweep -/

/-- A visit of the first loop replaces one pooled record by what it leaves of it. -/
lemma pooled_sweepNode (env : Env) {key : Sds} {done rest : List SmemT} {r : SmemT}
    (timeout : Int32)
    (hl : s.smempubsubMemorysAvailable.lookup key = some (done ++ r :: rest)) :
    ∃ m, pooled s = r ::ₘ m ∧ pooled (Broker.sweepNode env timeout key done rest s r).2
      = ((sweepRecord env timeout s r).1.left.toList : Multiset SmemT) + m := by
  set left := (sweepRecord env timeout s r).1.left.toList with hleft
  have hcons : ((done ++ r :: rest : List SmemT) : Multiset SmemT)
      = r ::ₘ ((done ++ rest : List SmemT) : Multiset SmemT) := by
    rw [Multiset.cons_coe]
    exact Multiset.coe_eq_coe.mpr List.perm_middle
  have happ : ((done ++ left ++ rest : List SmemT) : Multiset SmemT)
      = (left : Multiset SmemT) + ((done ++ rest : List SmemT) : Multiset SmemT) := by
    rw [Multiset.coe_add]
    apply Multiset.coe_eq_coe.mpr
    rw [List.append_assoc]
    exact List.perm_append_comm_assoc done left rest
  refine ⟨((done ++ rest : List SmemT) : Multiset SmemT)
    + Dict.items (s.smempubsubMemorysAvailable.erase key), ?_, ?_⟩
  · rw [pooled, Dict.items_of_lookup hl, hcons, Multiset.cons_add]
  · rw [pooled, sweepNode_available, Dict.items_insert, happ, add_assoc]

lemma sweepNode_memorys (env : Env) (timeout : Int32) (key : Sds) (done rest : List SmemT)
    (s : Server) (r : SmemT) :
    (Broker.sweepNode env timeout key done rest s r).2.smempubsubMemorys
      = s.smempubsubMemorys := (sweepRecord_frame env timeout s r).1

lemma tracked_sweepNode (env : Env) {key : Sds} {done rest : List SmemT} {r : SmemT}
    (timeout : Int32)
    (hl : s.smempubsubMemorysAvailable.lookup key = some (done ++ r :: rest)) :
    ∃ m, tracked s = r ::ₘ m ∧ tracked (Broker.sweepNode env timeout key done rest s r).2
      = ((sweepRecord env timeout s r).1.left.toList : Multiset SmemT) + m := by
  obtain ⟨m, hs, hs'⟩ := pooled_sweepNode env timeout hl
  refine ⟨used s + m, ?_, ?_⟩
  · rw [tracked, hs, Multiset.add_cons]
  · rw [tracked, used, sweepNode_memorys, hs', add_left_comm]
    rfl

/-- A visit of the second loop replaces one used record by what it leaves of it. -/
lemma tracked_sweepMemory (env : Env) {key : Sds} {r : SmemT} (timeout : Int32)
    (hr : s.smempubsubMemorys.lookup key = some r) :
    ∃ m, tracked s = r ::ₘ m ∧ tracked (Broker.sweepMemory env timeout key s r).2
      = ((sweepRecord env timeout s r).1.left.toList : Multiset SmemT) + m := by
  have hpooled : pooled (Broker.sweepMemory env timeout key s r).2 = pooled s := by
    have ha := (sweepRecord_frame env timeout s r).2.1
    exact congrArg Dict.items ha
  refine ⟨Dict.vals (s.smempubsubMemorys.erase key) + pooled s, ?_, ?_⟩
  · rw [tracked, used, Dict.vals_of_lookup hr, Multiset.cons_add]
  · rw [tracked, hpooled, used, sweepMemory_memorys]
    cases (sweepRecord env timeout s r).1.left with
    | none => simp
    | some r' => simp

/-- What a visit leaves of a record has its id. -/
lemma map_id_left_le (env : Env) (timeout : Int32) (s : Server) (r : SmemT) :
    ((sweepRecord env timeout s r).1.left.toList : Multiset SmemT).map SmemT.id ≤ {r.id} := by
  cases hleft : (sweepRecord env timeout s r).1.left with
  | none => simp
  | some r' =>
    obtain ⟨n, rfl⟩ := sweepRecord_left hleft
    simp

/-- A visit that replaces one record by what it leaves of it brings no new id. -/
lemma ids_le_of_visit {s' : Server} {timeout : Int32} {r : SmemT} {m : Multiset SmemT}
    (hs : tracked s = r ::ₘ m)
    (hs' : tracked s' = ((sweepRecord env timeout s r).1.left.toList : Multiset SmemT) + m) :
    (tracked s').map SmemT.id ≤ (tracked s).map SmemT.id := by
  rw [hs, hs', Multiset.map_add, Multiset.map_cons, ← Multiset.singleton_add]
  gcongr
  exact map_id_left_le env timeout s r

lemma sweepNode {key : Sds} {done rest : List SmemT} {r : SmemT} (timeout : Int32)
    (hl : s.smempubsubMemorysAvailable.lookup key = some (done ++ r :: rest))
    (h : TableInv env s) : TableInv env (sweepNode env timeout key done rest s r).2 := by
  obtain ⟨-, -, hlist, hcalls⟩ := sweepRecord_frame env timeout s r
  have hm := sweepNode_memorys env timeout key done rest s r
  have hav := sweepNode_available env timeout key done rest s r
  obtain ⟨hlen, hall⟩ := h.available hl
  refine h.of_ids ?_ ?_ ?_ hlist hcalls
  · rw [hm]
    exact h.memorys
  · intro key' l' hl'
    rw [hav, Dict.lookup_insert_if] at hl'
    split at hl'
    · rename_i hkey
      cases hl'
      subst hkey
      refine ⟨?_, ?_⟩
      · have hopt := Option.length_toList_le (o := (sweepRecord env timeout s r).1.left)
        simp only [List.length_append, List.length_cons] at hlen ⊢
        omega
      · intro r' hr'
        simp only [List.mem_append, Option.mem_toList] at hr'
        rcases hr' with (hr' | hr') | hr'
        · exact hall r' (by simp [hr'])
        · obtain ⟨n, rfl⟩ := sweepRecord_left hr'
          have hrec := hall r (by simp)
          exact ⟨hrec.key_eq, hrec.state, hrec.cnt, hrec.size⟩
        · exact hall r' (by simp [hr'])
    · exact h.available hl'
  · obtain ⟨m, hs, hs'⟩ := tracked_sweepNode env timeout hl
    exact ids_le_of_visit hs hs'

lemma sweepMemory {key : Sds} {r : SmemT} (timeout : Int32)
    (hr : s.smempubsubMemorys.lookup key = some r) (h : TableInv env s) :
    TableInv env (sweepMemory env timeout key s r).2 := by
  obtain ⟨-, ha, hlist, hcalls⟩ := sweepRecord_frame env timeout s r
  have hm := sweepMemory_memorys env timeout key s r
  have hrec := h.memorys hr
  obtain ⟨m, hs, hs'⟩ := tracked_sweepMemory env timeout hr
  have ha' : (Broker.sweepMemory env timeout key s r).2.smempubsubMemorysAvailable
      = s.smempubsubMemorysAvailable := ha
  cases hleft : (sweepRecord env timeout s r).1.left with
  | none =>
    rw [hleft] at hm
    refine h.of_ids ?_ ?_ ?_ hlist hcalls
    · intro key' r' hr'
      rw [hm, Dict.lookup_erase_if] at hr'
      split at hr'
      · cases hr'
      · exact h.memorys hr'
    · rw [ha']
      exact h.available
    · exact ids_le_of_visit hs hs'
  | some r₁ =>
    rw [hleft] at hm
    obtain ⟨n, rfl⟩ := sweepRecord_left hleft
    refine h.of_ids ?_ ?_ ?_ hlist hcalls
    · intro key' r' hr'
      rw [hm, Dict.lookup_insert_if] at hr'
      split at hr'
      · rename_i hkey
        cases hr'
        exact ⟨hkey.trans hrec.key_eq, hrec.state, hrec.cnt, hrec.size⟩
      · exact h.memorys hr'
    · rw [ha']
      exact h.available
    · exact ids_le_of_visit hs hs'

lemma smemrmCommand {args : List Sds} (h : TableInv env s) :
    TableInv env (smemrmCommand env s args).2 :=
  smemrmCommand_rule (fun h => h.list) (fun _ _ n _ _ h => h.smemFreeBuffer n.toInt32) h

/-- The moves of the broker keep the representation invariant. -/
lemma preserves (henv : env.FreshIds) : Preserves env (TableInv env) where
  state h hr := (h.memorys hr).state
  list h := h.list
  same hs h := h.same hs
  probe {s _} _ _ h := h.kernel (s := s) rfl rfl rfl (Nat.le_add_right _ 2)
  create hsize _ hneg hzero h := h.create henv hsize hneg hzero
  reuse hl hr h := h.reuse hl hr
  recount _ hr hcnt h := h.recount hr hcnt
  recycle _ hr _ h := h.recycle hr
  sweepNode timeout hl h := h.sweepNode timeout hl
  sweepMemory timeout hr h := h.sweepMemory timeout hr

/-- `SMEMGET` hands out a pooled record or, when none fits, allocates. -/
lemma smemgetCommand_cases (henv : env.FreshIds) (h : TableInv env s) (arg : Sds) :
    Allocates env s (requestedSize env arg) (smemgetCommand env s arg).1
      (smemgetCommand env s arg).2 ∨
    ∃ l r, s.smempubsubMemorysAvailable.lookup (sdsfromlonglong (requestedSize env arg)) = some l ∧
      l.find? (fits (requestedSize env arg)) = some r ∧
      smemgetCommand env s arg = (r.id, (smemgetReuse s (requestedSize env arg)).2) := by
  cases hn : env.getLongLongFromObject arg with
  | none =>
    have heq : smemgetCommand env s arg = (-1, s) := by simp [smemgetCommand, hn]
    rw [heq]
    exact Or.inl (.refused (Or.inl rfl) (SameTables.refl s))
  | some n =>
    set size := smemalign n.toInt32 4096 with hsize
    have hrequested : requestedSize env arg = size := by rw [requestedSize, hn]
    rw [hrequested]
    have hcmd : smemgetCommand env s arg = if (smemgetReuse s size).1 = -1
        then smemgetAllocate env (smemgetReuse s size).2 size else smemgetReuse s size := by
      rw [smemgetCommand, hn]
    rcases smemgetReuse_cases s size with hnone | ⟨l, r, hl, hr, hid⟩
    · rw [hcmd, hnone, if_pos rfl]
      exact Or.inl (smemgetAllocate_allocates henv s _)
    · -- a recorded id is never -1, so the reuse is the end of it
      have hpooled : r ∈ pooled s := mem_pooled.mpr ⟨_, l, hl, List.mem_of_find?_eq_some hr⟩
      have hneg : r.id ≠ -1 := (h.issued (mem_tracked.mpr (Or.inr hpooled))).2.1
      refine Or.inr ⟨l, r, hl, hr, ?_⟩
      rw [hcmd, hid, if_neg hneg, ← hid]

/-- The state in which a segment is created has the tables of the state before. -/
lemma probed (h : TableInv env s) {size : Int32} {s₀ : Server}
    (hs₀ : s₀ = s ∨ GoodSize size ∧ env.shmget s.calls = 0 ∧ s₀ = probe env s size) :
    TableInv env s₀ ∧ s₀.smempubsubMemorys = s.smempubsubMemorys ∧ pooled s₀ = pooled s ∧
      s.calls ≤ s₀.calls := by
  rcases hs₀ with rfl | ⟨-, -, rfl⟩
  · exact ⟨h, rfl, rfl, le_rfl⟩
  · exact ⟨h.kernel (s := s) rfl rfl rfl (Nat.le_add_right _ 2), rfl, rfl, Nat.le_add_right _ 2⟩

end TableInv

/-- `SMEMGET` has answered the id `m`: a record with count 1, last used now, is filed under it
that was not there before, and it comes from a new segment or from the pool. -/
structure HandedOut (env : Env) (s : Server) (m : Int32) (s' : Server) : Prop where
  unused : s.smempubsubMemorys.lookup (sdsfromlonglong m) = none
  memorys : ∃ r, r.id = m ∧ r.cnt = 1 ∧ r.lastTime = s.unixtime ∧
    s'.smempubsubMemorys = s.smempubsubMemorys.insert (sdsfromlonglong m) r
  source : (¬ Issued env s.calls m ∧ pooled s' = pooled s) ∨
    ∃ r₀, r₀.id = m ∧ pooled s = r₀ ::ₘ pooled s'
  issued : Issued env s'.calls m
  calls : s.calls ≤ s'.calls

namespace TableInv

/-- The answer of `SMEMGET` and what it does to the tables. -/
lemma smemgetCommand_spec (henv : env.FreshIds) (h : TableInv env s) (arg : Sds) :
    ((smemgetCommand env s arg).1 = -1 ∧
      (smemgetCommand env s arg).2.smempubsubMemorys = s.smempubsubMemorys ∧
      pooled (smemgetCommand env s arg).2 = pooled s ∧
      s.calls ≤ (smemgetCommand env s arg).2.calls) ∨
    HandedOut env s (smemgetCommand env s arg).1 (smemgetCommand env s arg).2 := by
  rcases h.smemgetCommand_cases henv arg with halloc | ⟨l, r, hl, hr, heq⟩
  · generalize (smemgetCommand env s arg).1 = m at halloc ⊢
    generalize (smemgetCommand env s arg).2 = s' at halloc ⊢
    cases halloc with
    | refused hs₀ hsame =>
      obtain ⟨-, hm, hp, hcalls⟩ := h.probed hs₀
      refine Or.inl ⟨rfl, hsame.memorys.trans hm, ?_, hcalls.trans hsame.calls⟩
      rw [← hp, pooled, hsame.available]
      rfl
    | @created s₀ _ hs₀ _ hneg hzero =>
      obtain ⟨ht, hm, hp, hcalls⟩ := h.probed hs₀
      obtain ⟨hnone, -, hadopt⟩ := ht.adopt_memorys henv (requestedSize env arg)
      rw [hm] at hnone hadopt
      have htime : s₀.unixtime = s.unixtime := by rcases hs₀ with rfl | ⟨-, -, rfl⟩ <;> rfl
      refine Or.inr ⟨hnone, ⟨_, rfl, rfl, htime, hadopt⟩, Or.inl ⟨?_, hp⟩, ?_, ?_⟩
      · intro hissued
        exact henv.not_issued (hissued.mono hcalls)
      · exact ⟨hzero, hneg, s₀.calls, Nat.lt_succ_self _, rfl⟩
      · exact hcalls.trans (Nat.le_succ _)
  · obtain ⟨hnone, -, hpooled⟩ := h.tracked_reuse hl hr
    have hmem : r ∈ tracked s := by
      rw [mem_tracked, hpooled]
      exact Or.inr (Multiset.mem_cons_self _ _)
    have hreuse : (smemgetReuse s (requestedSize env arg)).2.smempubsubMemorys
        = s.smempubsubMemorys.insert (sdsfromlonglong r.id) (r.handOut s.unixtime) ∧
        (smemgetReuse s (requestedSize env arg)).2.calls = s.calls := by
      simp only [smemgetReuse, hl, hr, Dict.add, if_neg (AList.lookup_eq_none.mp hnone), and_self]
    rw [heq]
    refine Or.inr ⟨hnone, ⟨r.handOut s.unixtime, rfl, rfl, rfl, hreuse.1⟩,
      Or.inr ⟨r, rfl, hpooled⟩, ?_, ?_⟩
    · dsimp only
      rw [hreuse.2]
      exact h.issued hmem
    · exact hreuse.2.ge

/-- Every event keeps the representation invariant, `SMEMRM` included. -/
lemma step (henv : env.FreshIds) {s' : Server} {op : Op} (h : TableInv env s)
    (hs : Broker.step env s op = some s') : TableInv env s' :=
  (preserves henv).step henv (fun _ _ _ => h.smemrmCommand) h hs

/-- The invariant holds in every state the broker can reach, under any guard. -/
lemma of_reachable (henv : env.FreshIds) {ok : Server → Op → Prop}
    (h : (broker env).Reachable ok s) : TableInv env s := by
  refine h.invariant ?_ ?_
  · rintro s ⟨size, rfl⟩
    exact init size
  · intro s op s' _ hs _ hstep
    exact hs.step henv hstep

end TableInv

/-- In every state the broker can reach, whatever ids clients free, publish or remove and
whatever the kernel answers to `IPC_RMID`: each record of `smempubsub_memorys` is filed under
its own id, is in state `used` and has a positive count; each pooled record is in the list of
its own size, which is a size `SMEMGET` creates, is in state `available` and has count 0; the
lists have at most 21 records; and no id is recorded twice. -/
theorem buffer_tables_well_formed (henv : env.FreshIds)
    (h : (broker env).Reachable (fun _ _ => True) s) :
    (∀ key r, s.smempubsubMemorys.lookup key = some r →
      key = sdsfromlonglong r.id ∧ r.state = .used ∧ 1 ≤ r.cnt) ∧
    (∀ key l, s.smempubsubMemorysAvailable.lookup key = some l → l.length ≤ 21 ∧
      ∀ r ∈ l, key = sdsfromlonglong r.size ∧
        (0 < r.size ∧ r.size ≤ maxSmemSize ∧ r.size.toInt % 4096 = 0) ∧
        r.state = .available ∧ r.cnt = 0) ∧
    ((tracked s).map SmemT.id).Nodup := by
  have hinv := TableInv.of_reachable henv h
  refine ⟨?_, ?_, hinv.ids_nodup⟩
  · intro key r hr
    have hrec := hinv.memorys hr
    have hcnt : (1 : Int32) ≤ r.cnt := by
      have := Int32.lt_iff_toInt_lt.mp hrec.cnt
      exact Int32.le_iff_toInt_le.mpr this
    exact ⟨hrec.key_eq, hrec.state, hcnt⟩
  · intro key l hl
    obtain ⟨hlen, hall⟩ := hinv.available hl
    refine ⟨hlen, fun r hr => ?_⟩
    have hrec := hall r hr
    exact ⟨hrec.key_eq, ⟨Int32.lt_iff_toInt_lt.mpr hrec.size.pos,
      Int32.le_iff_toInt_le.mpr hrec.size.le_max, hrec.size.aligned⟩, hrec.state, hrec.cnt⟩

/-- The value of a string of decimal digits. -/
def decimalValue (text : Sds) : Option Int64 :=
  text.toList.foldl (fun acc ch => acc.bind fun n =>
    if ch.isDigit then some (n * 10 + Int64.ofNat (ch.toNat - 48)) else none) (some 0)

/-- A kernel that numbers its first thousand calls from 0 and removes what exists, for the
concrete runs. -/
def sampleEnv : Env where
  shmget i := if i < 1000 then Int32.ofNat i else -1
  rmid _ _ segmentExists := segmentExists
  getLongLongFromObject := decimalValue

lemma sampleEnv_freshIds : sampleEnv.FreshIds := by
  have hinj : ∀ i < 1000, ∀ j < 1000, Int32.ofNat i = Int32.ofNat j → i = j := by
    intro i hi j hj hij
    have := congrArg Int32.toInt hij
    rw [Int32.toInt_ofNat_of_lt (by omega), Int32.toInt_ofNat_of_lt (by omega)] at this
    exact_mod_cast this
  intro i j hi hij
  by_cases hi' : i < 1000
  · by_cases hj' : j < 1000
    · simp only [sampleEnv, hi', hj', if_true] at hij
      exact hinj i hi' j hj' hij
    · simp only [sampleEnv, hi', hj', if_true, if_false] at hi hij
      exact absurd hij hi
  · simp [sampleEnv, hi'] at hi

/-- Two buffers, of which one is freed; the discarded id 0 comes first. -/
def getGetFree : List Op :=
  [.connect, .smemget 1 "5000", .smemget 1 "100", .smemfree 1 ["2"]]

theorem buffer_tables_well_formed_getGetFree :
    ∃ s, (broker sampleEnv).run (initServer 100000) getGetFree = some s ∧
      (used s).card = 1 ∧ (pooled s).card = 1 ∧ ((tracked s).map SmemT.id).Nodup := by
  have hrun : ((broker sampleEnv).run (initServer 100000) getGetFree).map
      (fun s => ((used s).card, (pooled s).card)) = some (1, 1) := by decide
  obtain ⟨s, hs, hcard⟩ := Option.map_eq_some_iff.mp hrun
  have hreach : (broker sampleEnv).Reachable (fun _ _ => True) s :=
    .of_run (.init ⟨_, rfl⟩) (by decide) hs
  exact ⟨s, hs, congrArg Prod.fst hcard, congrArg Prod.snd hcard,
    (buffer_tables_well_formed sampleEnv_freshIds hreach).2.2⟩

end SelfTestCode.Broker
