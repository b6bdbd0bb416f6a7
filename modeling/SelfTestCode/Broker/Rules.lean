import SelfTestCode.Broker.Commands

/-!
# What one event can do to the buffer tables

Every invariant of the buffer tables is proved from the same short list of moves.  `Moves` lists
those of a server that hands out nothing: a count is changed to another positive value, a record
whose count ran out is recycled, a record is visited by the sweep.  `Preserves` adds those of
`SMEMGET`: a segment is created and recorded, a pooled record is handed out, a segment is probed
and discarded because its id is 0.  Everything else leaves the tables alone (`SameTables`).
`Preserves.step` says that a predicate closed under these moves is closed under every event other
than `SMEMRM`, and `smemrmCommand_rule` reduces `SMEMRM` to bare `IPC_RMID` calls as long as
`smem_list_available` is empty, which it always is: no command of the broker fills it.

The rule for the loops of the sweep is stated for a relation between the state before, the
visits and the state after, since results about single visits need it too.
-/

namespace SelfTestCode.Broker

variable {env : Env} {I : Server → Prop}

/-! ## Sizes -/

/-- The sizes segments are created with. -/
structure GoodSize (size : Int32) : Prop where
  pos : 0 < size.toInt
  le_max : size.toInt ≤ 26542080
  aligned : size.toInt % 4096 = 0

lemma and_not_mask_mod (y : BitVec 32) : (y &&& ~~~(4095#32)).toNat % 4096 = 0 := by
  have h : (y &&& ~~~(4095#32)) &&& 4095#32 = 0#32 := by
    rw [BitVec.and_assoc]
    simp
  have hnat := congrArg BitVec.toNat h
  rw [BitVec.toNat_and, show (4095#32).toNat = 2 ^ 12 - 1 from rfl,
    Nat.and_two_pow_sub_one_eq_mod] at hnat
  exact hnat

/-- Whatever the argument wraps to, the aligned size is a multiple of 4096. -/
lemma smemalign_mod (x : Int32) : (smemalign x 4096).toInt % 4096 = 0 := by
  have hbits : (smemalign x 4096).toBitVec = (x + 4096 - 1).toBitVec &&& ~~~(4095#32) := rfl
  have h := and_not_mask_mod (x + 4096 - 1).toBitVec
  rw [← hbits] at h
  show (smemalign x 4096).toBitVec.toInt % 4096 = 0
  rw [BitVec.toInt_eq_toNat_cond]
  split <;> omega

lemma goodSize_of_bounds {x : Int32} (h : 0 < smemalign x 4096 ∧ smemalign x 4096 ≤ maxSmemSize) :
    GoodSize (smemalign x 4096) where
  pos := Int32.lt_iff_toInt_lt.mp h.1
  le_max := Int32.le_iff_toInt_le.mp h.2
  aligned := smemalign_mod x

/-- The size that `SMEMGET` asks for: the argument as an `int`, aligned. -/
def requestedSize (env : Env) (arg : Sds) : Int32 :=
  match env.getLongLongFromObject arg with
  | none => 0
  | some llSize => smemalign llSize.toInt32 4096

/-! ## The moves -/

/-- The buffer tables, the counters and the segments are the same; system calls may have been
made. -/
structure SameTables (s s' : Server) : Prop where
  memorys : s'.smempubsubMemorys = s.smempubsubMemorys
  available : s'.smempubsubMemorysAvailable = s.smempubsubMemorysAvailable
  list : s'.smemListAvailable = s.smemListAvailable
  size : s'.shareMemorySize = s.shareMemorySize
  limit : s'.shareMemoryLimit = s.shareMemoryLimit
  segs : s'.segs = s.segs
  calls : s.calls ≤ s'.calls

lemma SameTables.refl (s : Server) : SameTables s s := ⟨rfl, rfl, rfl, rfl, rfl, rfl, le_rfl⟩

lemma SameTables.trans {s₁ s₂ s₃ : Server} (h : SameTables s₁ s₂) (h' : SameTables s₂ s₃) :
    SameTables s₁ s₃ where
  memorys := h'.memorys.trans h.memorys
  available := h'.available.trans h.available
  list := h'.list.trans h.list
  size := h'.size.trans h.size
  limit := h'.limit.trans h.limit
  segs := h'.segs.trans h.segs
  calls := h.calls.trans h'.calls

/-- The first segment of `SMEMGET` has the id 0: it is created and given back at once. -/
def probe (env : Env) (s : Server) (size : Int32) : Server :=
  (smemFreeBuffer env (shmget env s size).2 0).2

/-- A predicate that every move of a record already handed out or pooled preserves, and under
which the records of `smempubsub_memorys` are the used ones. -/
structure Moves (env : Env) (I : Server → Prop) : Prop where
  state : ∀ {s key r}, I s → s.smempubsubMemorys.lookup key = some r → r.state = .used
  recount : ∀ {s key r} (cnt : Int32), s.smempubsubMemorys.lookup key = some r → 0 < cnt →
    I s → I { s with smempubsubMemorys := s.smempubsubMemorys.insert key { r with cnt := cnt } }
  recycle : ∀ {s key r} (cnt : Int32), s.smempubsubMemorys.lookup key = some r → cnt ≤ 0 →
    I s → I (recycle env s key { r with cnt := cnt })
  sweepNode : ∀ {s key done r rest} (timeout : Int32),
    s.smempubsubMemorysAvailable.lookup key = some (done ++ r :: rest) → I s →
    I (sweepNode env timeout key done rest s r).2
  sweepMemory : ∀ {s key r} (timeout : Int32), s.smempubsubMemorys.lookup key = some r → I s →
    I (sweepMemory env timeout key s r).2

/-- A predicate that every move of the buffer tables preserves, and under which the records
of `smempubsub_memorys` are the used ones and `smem_list_available` is empty. -/
structure Preserves (env : Env) (I : Server → Prop) : Prop extends Moves env I where
  list : ∀ {s}, I s → s.smemListAvailable = []
  same : ∀ {s s'}, SameTables s s' → I s → I s'
  probe : ∀ {s size}, GoodSize size → env.shmget s.calls = 0 → I s → I (probe env s size)
  create : ∀ {s size}, GoodSize size → s.shareMemorySize + sizeT size ≤ s.shareMemoryLimit →
    env.shmget s.calls ≠ -1 → env.shmget s.calls ≠ 0 → I s →
    I (smemgetAdopt (shmget env s size).2 (env.shmget s.calls) size)
  reuse : ∀ {s size l r}, s.smempubsubMemorysAvailable.lookup (sdsfromlonglong size) = some l →
    l.find? (fits size) = some r → I s → I (smemgetReuse s size).2

/-! ## `SMEMGET` -/

/-- The three ends of a request for a new segment: no segment, a positive id at once, or a
positive id after the discarded id 0. -/
lemma smemgetBuffer_cases (henv : env.FreshIds) (s : Server) (size : Int32) :
    ((smemgetBuffer env s size).1 = -1 ∧ SameTables s (smemgetBuffer env s size).2) ∨
    ((0 < size ∧ size ≤ maxSmemSize) ∧
      ∃ s₀, (s₀ = s ∨ env.shmget s.calls = 0 ∧ s₀ = probe env s size) ∧
      ((smemgetBuffer env s size).1 = -1 ∧ SameTables s₀ (smemgetBuffer env s size).2 ∨
        env.shmget s₀.calls ≠ -1 ∧ env.shmget s₀.calls ≠ 0 ∧
        smemgetBuffer env s size = (env.shmget s₀.calls, (shmget env s₀ size).2))) := by
  by_cases hsize : 0 < size ∧ size ≤ maxSmemSize
  swap
  · left
    simp [smemgetBuffer, smemGetBuffer, hsize, SameTables.refl]
  right
  refine ⟨hsize, ?_⟩
  by_cases h0 : env.shmget s.calls = 0
  · refine ⟨probe env s size, Or.inr ⟨h0, rfl⟩, ?_⟩
    have hbuf : smemgetBuffer env s size = shmget env (probe env s size) size := by
      simp [smemgetBuffer, smemGetBuffer, hsize, shmget, h0, probe]
    have hcalls : (probe env s size).calls = s.calls + 2 := rfl
    -- `shmget` has answered 0 already, so it cannot answer 0 again
    have hne : env.shmget (probe env s size).calls ≠ 0 := by
      intro h
      have := henv s.calls (probe env s size).calls (by rw [h0]; decide) (by rw [h0, h])
      omega
    by_cases h1 : env.shmget (probe env s size).calls = -1
    · left
      rw [hbuf]
      exact ⟨h1, ⟨rfl, rfl, rfl, rfl, rfl, by simp [shmget, h1], by simp [shmget]⟩⟩
    · exact Or.inr ⟨h1, hne, by rw [hbuf]; rfl⟩
  · refine ⟨s, Or.inl rfl, ?_⟩
    have hbuf : smemgetBuffer env s size = shmget env s size := by
      simp [smemgetBuffer, smemGetBuffer, hsize, shmget, h0]
    by_cases h1 : env.shmget s.calls = -1
    · left
      rw [hbuf]
      exact ⟨h1, ⟨rfl, rfl, rfl, rfl, rfl, by simp [shmget, h1], by simp [shmget]⟩⟩
    · exact Or.inr ⟨h1, h0, by rw [hbuf]; rfl⟩

/-- What the allocation path of `SMEMGET` can answer to a request for `size` bytes, and the state
after it.  The state `s₀` in which the segment is created is `s` itself, or `s` after the id 0 was
discarded. -/
inductive Allocates (env : Env) (s : Server) (size : Int32) : Int32 → Server → Prop
  | refused {s₀ s' : Server} :
      s₀ = s ∨ GoodSize size ∧ env.shmget s.calls = 0 ∧ s₀ = probe env s size →
      SameTables s₀ s' → Allocates env s size (-1) s'
  | created {s₀ : Server} : GoodSize size →
      s₀ = s ∨ GoodSize size ∧ env.shmget s.calls = 0 ∧ s₀ = probe env s size →
      s₀.shareMemorySize + sizeT size ≤ s₀.shareMemoryLimit →
      env.shmget s₀.calls ≠ -1 → env.shmget s₀.calls ≠ 0 →
      Allocates env s size (env.shmget s₀.calls)
        (smemgetAdopt (shmget env s₀ size).2 (env.shmget s₀.calls) size)

lemma smemgetAllocate_allocates (henv : env.FreshIds) (s : Server) (x : Int32) :
    Allocates env s (smemalign x 4096) (smemgetAllocate env s (smemalign x 4096)).1
      (smemgetAllocate env s (smemalign x 4096)).2 := by
  unfold smemgetAllocate
  split
  case isFalse => exact .refused (Or.inl rfl) (SameTables.refl s)
  case isTrue hlimit =>
    rcases smemgetBuffer_cases henv s (smemalign x 4096) with ⟨hid, hsame⟩ | ⟨hb, s₀, hs₀, hend⟩
    · simp only [hid, if_true]
      exact .refused (Or.inl rfl) hsame
    · have hgood := goodSize_of_bounds hb
      have hprobed : s₀ = s ∨ GoodSize (smemalign x 4096) ∧ env.shmget s.calls = 0 ∧
          s₀ = probe env s (smemalign x 4096) := hs₀.imp_right fun h => ⟨hgood, h⟩
      have hfits : s₀.shareMemorySize + sizeT (smemalign x 4096) ≤ s₀.shareMemoryLimit := by
        rcases hs₀ with rfl | ⟨-, rfl⟩ <;> exact hlimit
      rcases hend with ⟨hid, hsame⟩ | ⟨hneg, hzero, heq⟩
      · simp only [hid, if_true]
        exact .refused hprobed hsame
      · simp only [heq, hneg, if_false]
        exact .created hgood hprobed hfits hneg hzero

/-- The reuse path finds nothing and changes nothing, or hands out a pooled record. -/
lemma smemgetReuse_cases (s : Server) (size : Int32) :
    smemgetReuse s size = (-1, s) ∨
    ∃ l r, s.smempubsubMemorysAvailable.lookup (sdsfromlonglong size) = some l ∧
      l.find? (fits size) = some r ∧ (smemgetReuse s size).1 = r.id := by
  unfold smemgetReuse
  split
  · exact Or.inl rfl
  · rename_i l hl
    split
    · exact Or.inl rfl
    · rename_i r hr
      exact Or.inr ⟨l, r, hl, hr, rfl⟩

namespace Preserves

variable (hI : Preserves env I)
include hI

lemma allocates {s s' : Server} {size memId : Int32} (ha : Allocates env s size memId s')
    (h : I s) : I s' := by
  have hprobed : ∀ {size s₀}, s₀ = s ∨ GoodSize size ∧ env.shmget s.calls = 0 ∧
      s₀ = Broker.probe env s size → I s₀ := by
    rintro size s₀ (rfl | ⟨hgood, hzero, rfl⟩)
    · exact h
    · exact hI.probe hgood hzero h
  cases ha with
  | refused hs₀ hsame => exact hI.same hsame (hprobed hs₀)
  | created hgood hs₀ hfits hneg hzero => exact hI.create hgood hfits hneg hzero (hprobed hs₀)

lemma smemgetReuse {s : Server} {size : Int32} (h : I s) : I (smemgetReuse s size).2 := by
  rcases smemgetReuse_cases s size with hnone | ⟨l, r, hl, hr, -⟩
  · rw [hnone]
    exact h
  · exact hI.reuse hl hr h

lemma smemgetCommand (henv : env.FreshIds) {s : Server} {arg : Sds} (h : I s) :
    I (smemgetCommand env s arg).2 := by
  unfold Broker.smemgetCommand
  cases env.getLongLongFromObject arg with
  | none => exact h
  | some n =>
    dsimp only
    have hreuse : I (Broker.smemgetReuse s (smemalign n.toInt32 4096)).2 := hI.smemgetReuse h
    split
    · exact hI.allocates (smemgetAllocate_allocates henv _ _) hreuse
    · exact hreuse

end Preserves

/-! ## `SMEMFREE` and `SMEMPUBLISH` -/

/-- A publish delivers one message to each node of the list. -/
lemma map_fst_deliver {s : Server} {channel message : Sds} : ∀ {clients : List ClientId}
    {pushes : List (ClientId × Reply)}, deliver s channel message clients = .ok pushes →
    pushes.map Prod.fst = clients := by
  intro clients
  induction clients with
  | nil =>
    intro pushes h
    obtain rfl := Except.ok.inj h
    rfl
  | cons c clients ih =>
    intro pushes h
    rw [deliver] at h
    split at h
    · obtain ⟨rest, hrest, hok⟩ := except_bind_eq_ok.mp h
      obtain rfl := Except.ok.inj hok
      rw [List.map_cons, ih hrest]
    · cases h

namespace Moves

variable (hI : Moves env I)
include hI

lemma smemfreeOne {s : Server} {smemObj : Sds} (h : I s) : I (smemfreeOne env s smemObj).2 := by
  unfold Broker.smemfreeOne
  cases hr : s.smempubsubMemorys.lookup smemObj with
  | none => exact h
  | some r =>
    dsimp only
    split
    case isTrue hc => exact hI.recycle _ hr hc.1 h
    case isFalse hc =>
      have hpos : 0 < r.cnt - 1 := by
        rw [← Int32.not_le]
        exact fun hle => hc ⟨hle, hI.state h hr⟩
      exact hI.recount _ hr hpos h

lemma smemfreeCommand {args : List Sds} : ∀ {s : Server}, I s →
    I (smemfreeCommand env s args).2 := by
  induction args with
  | nil => exact fun h => h
  | cons a args ih => exact fun h => ih (hI.smemfreeOne h)

lemma publishCount {s : Server} {message : Sds} {r : SmemT} {receivers : List ClientId}
    (hr : s.smempubsubMemorys.lookup message = some r) (h : I s) :
    I (publishCount env s message r receivers) := by
  unfold Broker.publishCount
  dsimp only
  split
  case isTrue hc => exact hI.recycle _ hr hc h
  case isFalse hc => exact hI.recount _ hr (Int32.not_le.mp hc) h

lemma smempubsubPublishMessage {s s' : Server} {channel message : Sds}
    {pushes : List (ClientId × Reply)} (h : I s)
    (hs : smempubsubPublishMessage env s channel message = .ok (pushes, s')) : I s' := by
  obtain ⟨p, -, hp⟩ := except_bind_eq_ok.mp hs
  split at hp
  · cases hp
    exact h
  · rename_i r hr
    cases hp
    exact hI.publishCount hr h

end Moves

/-! ## The sweep

A visit of a record in closed form, then the rules for the two loops.  `done` grows by what a
visit leaves of the current node, so the list filed under the key is always `done ++ rest` with
`rest` still to be visited. -/

/-- What a failed removal leaves of a record. -/
def SmemT.retry (r : SmemT) : Option SmemT :=
  if 5 < r.freeCnt + 1 then none else some { r with freeCnt := r.freeCnt + 1 }

lemma sweepRecord_of_not_expired {timeout : Int32} {s : Server} {r : SmemT}
    (h : ¬ expired s timeout r = true) :
    sweepRecord env timeout s r = (⟨r, none, 0, some r⟩, s) := by
  rw [sweepRecord, if_neg h]

lemma sweepRecord_of_expired {timeout : Int32} {s : Server} {r : SmemT}
    (h : expired s timeout r = true) :
    sweepRecord env timeout s r =
      let freed := smemFreeBuffer env
        { s with shareMemorySize := s.shareMemorySize - sizeT r.size } r.id
      (⟨r, some freed.1, sizeT r.size, if freed.1 then none else r.retry⟩, freed.2) := by
  rw [sweepRecord, if_pos h]
  dsimp only
  cases hok : (smemFreeBuffer env
    { s with shareMemorySize := s.shareMemorySize - sizeT r.size } r.id).1 <;> rfl

/-- What a visit leaves of the record differs from it in `free_cnt` alone. -/
lemma sweepRecord_left {timeout : Int32} {s : Server} {r r' : SmemT}
    (h : (sweepRecord env timeout s r).1.left = some r') : ∃ n, r' = { r with freeCnt := n } := by
  by_cases hexp : expired s timeout r = true
  · rw [sweepRecord_of_expired hexp] at h
    dsimp only at h
    split at h
    · cases h
    · unfold SmemT.retry at h
      split at h
      · cases h
      · cases h
        exact ⟨_, rfl⟩
  · rw [sweepRecord_of_not_expired hexp] at h
    cases h
    exact ⟨_, rfl⟩

/-- A visit of a record touches only the counter and the kernel. -/
lemma sweepRecord_frame (env : Env) (timeout : Int32) (s : Server) (r : SmemT) :
    (sweepRecord env timeout s r).2.smempubsubMemorys = s.smempubsubMemorys ∧
    (sweepRecord env timeout s r).2.smempubsubMemorysAvailable = s.smempubsubMemorysAvailable ∧
    (sweepRecord env timeout s r).2.smemListAvailable = s.smemListAvailable ∧
    s.calls ≤ (sweepRecord env timeout s r).2.calls := by
  by_cases hexp : expired s timeout r = true
  · rw [sweepRecord_of_expired hexp]
    exact ⟨rfl, rfl, rfl, Nat.le_succ _⟩
  · rw [sweepRecord_of_not_expired hexp]
    exact ⟨rfl, rfl, rfl, le_rfl⟩

/-- The pool after a visit of the first loop. -/
lemma sweepNode_available (env : Env) (timeout : Int32) (key : Sds) (done rest : List SmemT)
    (s : Server) (r : SmemT) :
    (sweepNode env timeout key done rest s r).2.smempubsubMemorysAvailable
      = s.smempubsubMemorysAvailable.insert key
        (done ++ (sweepRecord env timeout s r).1.left.toList ++ rest) := by
  have hframe := (sweepRecord_frame env timeout s r).2.1
  unfold sweepNode
  dsimp only
  rw [hframe]

/-- The table of used records after a visit of the second loop. -/
lemma sweepMemory_memorys (env : Env) (timeout : Int32) (key : Sds) (s : Server) (r : SmemT) :
    (sweepMemory env timeout key s r).2.smempubsubMemorys
      = match (sweepRecord env timeout s r).1.left with
        | none => s.smempubsubMemorys.erase key
        | some r' => s.smempubsubMemorys.insert key r' := by
  have hframe := (sweepRecord_frame env timeout s r).1
  unfold sweepMemory
  dsimp only
  cases (sweepRecord env timeout s r).1.left with
  | none => exact congrArg (AList.erase key) hframe
  | some r' => exact congrArg (AList.insert key r') hframe

section Sweep

variable {R : Server → List Visit → Server → Prop} {timeout : Int32}
  (hnil : ∀ s, R s [] s)
  (happend : ∀ {s s' s'' vs ws}, R s vs s' → R s' ws s'' → R s (vs ++ ws) s'')
  (hnode : ∀ {s key done r rest},
    s.smempubsubMemorysAvailable.lookup key = some (done ++ r :: rest) →
    R s [(sweepNode env timeout key done rest s r).1]
      (sweepNode env timeout key done rest s r).2)
  (hmemory : ∀ {s key r}, s.smempubsubMemorys.lookup key = some r →
    R s [(sweepMemory env timeout key s r).1] (sweepMemory env timeout key s r).2)

include hnil happend hnode in
lemma sweepNodes_rule {key : Sds} : ∀ {rest done : List SmemT} {s : Server},
    s.smempubsubMemorysAvailable.lookup key = some (done ++ rest) →
    R s (sweepNodes env timeout key done rest s).1
      (sweepNodes env timeout key done rest s).2 := by
  intro rest
  induction rest with
  | nil => exact fun {_ s} _ => hnil s
  | cons r rest ih =>
    intro done s hl
    have hnext : (sweepNode env timeout key done rest s r).2.smempubsubMemorysAvailable.lookup key
        = some (done ++ (sweepNode env timeout key done rest s r).1.left.toList ++ rest) := by
      rw [sweepNode_available]
      exact AList.lookup_insert _
    exact happend (hnode hl) (ih hnext)

include hnil happend hnode in
lemma sweepAvailable_rule : ∀ {keys : List Sds} {s : Server},
    R s (sweepAvailable env timeout keys s).1 (sweepAvailable env timeout keys s).2 := by
  intro keys
  induction keys with
  | nil => exact fun {s} => hnil s
  | cons key keys ih =>
    intro s
    unfold sweepAvailable
    cases hl : s.smempubsubMemorysAvailable.lookup key with
    | none => exact ih
    | some l =>
      have hlist : s.smempubsubMemorysAvailable.lookup key = some ([] ++ l) := hl
      exact happend (sweepNodes_rule hnil happend hnode hlist) ih

include hnil happend hmemory in
lemma sweepMemorys_rule : ∀ {keys : List Sds} {s : Server},
    R s (sweepMemorys env timeout keys s).1 (sweepMemorys env timeout keys s).2 := by
  intro keys
  induction keys with
  | nil => exact fun {s} => hnil s
  | cons key keys ih =>
    intro s
    unfold sweepMemorys
    cases hr : s.smempubsubMemorys.lookup key with
    | none => exact ih
    | some r => exact happend (hmemory hr) ih

include hnil happend hnode hmemory in
/-- A relation between the state before, the visits and the state after that holds of every
single visit and is closed under composition holds of the whole sweep. -/
lemma smemFreeShareMemory_rule {s : Server} :
    R s (smemFreeShareMemory env timeout s).1 (smemFreeShareMemory env timeout s).2 :=
  happend (sweepAvailable_rule hnil happend hnode) (sweepMemorys_rule hnil happend hmemory)

end Sweep

lemma Moves.smemFreeShareMemory (hI : Moves env I) (timeout : Int32) {s : Server} (h : I s) :
    I (smemFreeShareMemory env timeout s).2 :=
  smemFreeShareMemory_rule (R := fun s _ s' => I s → I s') (fun _ h => h)
    (fun h₁ h₂ h => h₂ (h₁ h)) (hI.sweepNode timeout) (hI.sweepMemory timeout) h

/-! ## `SMEMRM` -/

/-- With nothing in `smem_list_available`, `SMEMRM` only calls `IPC_RMID`. -/
lemma smemrmOne_of_nil {s : Server} (h : s.smemListAvailable = []) (n : Int64) :
    smemrmOne env s n = smemFreeBuffer env s n.toInt32 := by
  simp [smemrmOne, h]

/-- A predicate preserved by the calls of `IPC_RMID` that `SMEMRM` makes is preserved by
`SMEMRM`. -/
lemma smemrmCommand_rule (hlist : ∀ {s}, I s → s.smemListAvailable = []) : ∀ {args : List Sds},
    (∀ arg ∈ args, ∀ n, env.getLongLongFromObject arg = some n → ∀ {s}, I s →
      I (smemFreeBuffer env s n.toInt32).2) →
    ∀ {s : Server}, I s → I (smemrmCommand env s args).2 := by
  intro args
  induction args with
  | nil => exact fun _ _ h => h
  | cons arg args ih =>
    intro hrm s h
    have hrest : ∀ arg ∈ args, ∀ n, env.getLongLongFromObject arg = some n → ∀ {s}, I s →
        I (smemFreeBuffer env s n.toInt32).2 :=
      fun a ha => hrm a (List.mem_cons_of_mem _ ha)
    unfold smemrmCommand
    cases hn : env.getLongLongFromObject arg with
    | none => exact ih hrest h
    | some n =>
      dsimp only
      rw [smemrmOne_of_nil (hlist h)]
      exact ih hrest (hrm arg List.mem_cons_self n hn h)

/-! ## Events that leave the buffer tables alone -/

/-- At most the clients and the channel table differ. -/
structure IndexOnly (s s' : Server) : Prop extends SameTables s s' where
  unixtime : s'.unixtime = s.unixtime

lemma IndexOnly.refl (s : Server) : IndexOnly s s := ⟨SameTables.refl s, rfl⟩

lemma IndexOnly.trans {s₁ s₂ s₃ : Server} (h : IndexOnly s₁ s₂) (h' : IndexOnly s₂ s₃) :
    IndexOnly s₁ s₃ where
  toSameTables := h.toSameTables.trans h'.toSameTables
  unixtime := h'.unixtime.trans h.unixtime

lemma IndexOnly.write (s : Server) (clients : Dict ClientId Client) (nextClientId : ClientId)
    (channels : Dict Sds (List ClientId)) :
    IndexOnly s { s with
      clients := clients, nextClientId := nextClientId, smempubsubChannels := channels } :=
  ⟨⟨rfl, rfl, rfl, rfl, rfl, rfl, le_rfl⟩, rfl⟩

lemma indexOnly_setClient (s : Server) (c : ClientId) (cl : Client) :
    IndexOnly s (s.setClient c cl) := IndexOnly.write s _ _ _

lemma indexOnly_subscribeChannel (s : Server) (c : ClientId) (cl : Client) (channel : Sds) :
    IndexOnly s (smempubsubSubscribeChannel s c cl channel).1 := by
  unfold smempubsubSubscribeChannel
  split
  · exact IndexOnly.refl s
  · exact IndexOnly.write s _ _ _

lemma indexOnly_subscribe {c : ClientId} : ∀ {args : List Sds} {s : Server}
    {r : Server × List Reply}, smemsubscribeCommand c s args = .ok r → IndexOnly s r.1 := by
  intro args
  induction args with
  | nil =>
    intro s r h
    cases h
    exact IndexOnly.refl s
  | cons a args ih =>
    intro s r h
    unfold smemsubscribeCommand at h
    split at h
    · cases h
    · rename_i cl _
      obtain ⟨q, hrest, hr⟩ := except_bind_eq_ok.mp h
      have htail := ih hrest
      cases hr
      exact (indexOnly_subscribeChannel s c cl a).trans htail

lemma indexOnly_unsubscribe {s : Server} {c : ClientId} {cl : Client} {channel : Sds}
    {notify : Bool} {r : Server × List Reply}
    (h : smempubsubUnsubscribeChannel s c cl channel notify = .ok r) : IndexOnly s r.1 := by
  unfold smempubsubUnsubscribeChannel at h
  dsimp only at h
  split at h
  · split at h
    · cases h
    · split at h
      · cases h
        exact IndexOnly.write s _ _ _
      · cases h
  · cases h
    exact IndexOnly.refl s

lemma indexOnly_unsubscribeAll {c : ClientId} {notify : Bool} : ∀ {channels : List Sds}
    {s : Server} {r : Server × List Reply},
    smempubsubUnsubscribeChannels c notify s channels = .ok r → IndexOnly s r.1 := by
  intro channels
  induction channels with
  | nil =>
    intro s r h
    cases h
    exact IndexOnly.refl s
  | cons ch channels ih =>
    intro s r h
    unfold smempubsubUnsubscribeChannels at h
    split at h
    · cases h
    · obtain ⟨q, hu, hq⟩ := except_bind_eq_ok.mp h
      obtain ⟨q', hrest, hr⟩ := except_bind_eq_ok.mp hq
      have htail := ih hrest
      cases hr
      exact (indexOnly_unsubscribe hu).trans htail

lemma indexOnly_freeClient {s s' : Server} {c : ClientId} {cl : Client}
    (h : freeClient s c cl = .ok s') : IndexOnly s s' := by
  obtain ⟨q, hu, hr⟩ := except_bind_eq_ok.mp h
  cases hr
  exact (indexOnly_unsubscribeAll hu).trans (IndexOnly.write _ _ _ _)

lemma indexOnly_switchScanList {name channel : Sds} : ∀ {clients : List ClientId} {i : ℕ}
    {acc acc' : Server × SwitchScan},
    switchScanList name channel i clients acc = .ok acc' → IndexOnly acc.1 acc'.1 := by
  intro clients
  induction clients with
  | nil =>
    intro i acc acc' h
    cases h
    exact IndexOnly.refl _
  | cons c clients ih =>
    intro i acc acc' h
    unfold switchScanList at h
    split at h
    · cases h
    · split at h
      · split at h
        · cases h
          exact indexOnly_setClient _ _ _
        · have htail := ih h
          exact htail
      · have htail := ih h
        exact htail

lemma indexOnly_switchScan {name : Sds} : ∀ {channels : List Sds}
    {acc acc' : Server × SwitchScan},
    switchScan name channels acc = .ok acc' → IndexOnly acc.1 acc'.1 := by
  intro channels
  induction channels with
  | nil =>
    intro acc acc' h
    cases h
    exact IndexOnly.refl _
  | cons ch channels ih =>
    intro acc acc' h
    obtain ⟨q, hl, hrest⟩ := except_bind_eq_ok.mp h
    exact (indexOnly_switchScanList hl).trans (ih hrest)

lemma indexOnly_switchMove (s : Server) (pubChannel : Sds) (scan : SwitchScan) :
    IndexOnly s (switchMove s pubChannel scan) := by
  unfold switchMove
  split
  · exact IndexOnly.refl s
  · split
    · exact IndexOnly.refl s
    · split
      · exact IndexOnly.refl s
      · dsimp only
        split <;> exact IndexOnly.write s _ _ _

lemma indexOnly_switch {s s' : Server} {pubChannel subChannel : Sds}
    (h : smemswitchCommand s pubChannel subChannel = .ok s') : IndexOnly s s' := by
  obtain ⟨q, hs, hr⟩ := except_bind_eq_ok.mp h
  cases hr
  exact (indexOnly_switchScan hs).trans (indexOnly_switchMove _ _ _)

lemma indexOnly_clientSetName (s : Server) (c : ClientId) (cl : Client) (name : Sds) :
    IndexOnly s (clientSetName s c cl name) := by
  unfold clientSetName
  split
  · exact indexOnly_setClient _ _ _
  · split
    · exact indexOnly_setClient _ _ _
    · exact IndexOnly.refl s

lemma indexOnly_rehash (s : Server) (entries : List (Sigma fun _ : Sds => List ClientId)) :
    IndexOnly s (rehash s entries) := by
  unfold rehash
  split
  · exact IndexOnly.write s _ _ _
  · exact IndexOnly.refl s

/-! ## Events that leave the index alone -/

/-- The clients and the lists of the channels are the same. -/
structure SameIndex (s s' : Server) : Prop where
  clients : s'.clients = s.clients
  nextClientId : s'.nextClientId = s.nextClientId
  channels : s'.smempubsubChannels = s.smempubsubChannels

lemma SameIndex.refl (s : Server) : SameIndex s s := ⟨rfl, rfl, rfl⟩

lemma SameIndex.trans {s₁ s₂ s₃ : Server} (h : SameIndex s₁ s₂) (h' : SameIndex s₂ s₃) :
    SameIndex s₁ s₃ where
  clients := h'.clients.trans h.clients
  nextClientId := h'.nextClientId.trans h.nextClientId
  channels := h'.channels.trans h.channels

/-- At most the buffer tables, the counter and the kernel differ. -/
structure TablesOnly (s s' : Server) : Prop extends SameIndex s s' where
  unixtime : s'.unixtime = s.unixtime

lemma TablesOnly.refl (s : Server) : TablesOnly s s := ⟨SameIndex.refl s, rfl⟩

lemma TablesOnly.trans {s₁ s₂ s₃ : Server} (h : TablesOnly s₁ s₂) (h' : TablesOnly s₂ s₃) :
    TablesOnly s₁ s₃ where
  toSameIndex := h.toSameIndex.trans h'.toSameIndex
  unixtime := h'.unixtime.trans h.unixtime

lemma tablesOnly_smemGetBuffer (env : Env) (s : Server) (size : Int32) :
    TablesOnly s (smemGetBuffer env s size).2 := by
  unfold smemGetBuffer
  split
  · exact ⟨⟨rfl, rfl, rfl⟩, rfl⟩
  · exact TablesOnly.refl s

lemma tablesOnly_smemFreeBuffer (env : Env) (s : Server) (id : Int32) :
    TablesOnly s (smemFreeBuffer env s id).2 := ⟨⟨rfl, rfl, rfl⟩, rfl⟩

lemma tablesOnly_smemgetBuffer (env : Env) (s : Server) (size : Int32) :
    TablesOnly s (smemgetBuffer env s size).2 := by
  have hfirst := tablesOnly_smemGetBuffer env s size
  unfold smemgetBuffer
  dsimp only
  split
  · exact hfirst.trans
      ((tablesOnly_smemFreeBuffer env _ _).trans (tablesOnly_smemGetBuffer env _ _))
  · exact hfirst

lemma tablesOnly_smemgetAdopt (s : Server) (memId size : Int32) :
    TablesOnly s (smemgetAdopt s memId size) := ⟨⟨rfl, rfl, rfl⟩, rfl⟩

lemma tablesOnly_smemgetAllocate (env : Env) (s : Server) (size : Int32) :
    TablesOnly s (smemgetAllocate env s size).2 := by
  have hbuffer := tablesOnly_smemgetBuffer env s size
  unfold smemgetAllocate
  split
  · dsimp only
    split
    · exact hbuffer
    · exact hbuffer.trans (tablesOnly_smemgetAdopt _ _ _)
  · exact TablesOnly.refl s

lemma tablesOnly_smemgetReuse (s : Server) (size : Int32) :
    TablesOnly s (smemgetReuse s size).2 := by
  unfold smemgetReuse
  split
  · exact TablesOnly.refl s
  · split
    · exact TablesOnly.refl s
    · exact ⟨⟨rfl, rfl, rfl⟩, rfl⟩

lemma tablesOnly_smemgetCommand (env : Env) (s : Server) (arg : Sds) :
    TablesOnly s (smemgetCommand env s arg).2 := by
  unfold smemgetCommand
  split
  · exact TablesOnly.refl s
  · dsimp only
    split
    · exact (tablesOnly_smemgetReuse s _).trans (tablesOnly_smemgetAllocate env _ _)
    · exact tablesOnly_smemgetReuse s _

lemma tablesOnly_recycle (env : Env) (s : Server) (key : Sds) (r : SmemT) :
    TablesOnly s (recycle env s key r) := by
  unfold recycle
  dsimp only
  split <;> exact ⟨⟨rfl, rfl, rfl⟩, rfl⟩

lemma tablesOnly_smemfreeOne (env : Env) (s : Server) (text : Sds) :
    TablesOnly s (smemfreeOne env s text).2 := by
  unfold smemfreeOne
  split
  · exact TablesOnly.refl s
  · dsimp only
    split
    · exact tablesOnly_recycle env s text _
    · exact ⟨⟨rfl, rfl, rfl⟩, rfl⟩

lemma tablesOnly_smemfreeCommand (env : Env) : ∀ (args : List Sds) (s : Server),
    TablesOnly s (smemfreeCommand env s args).2 := by
  intro args
  induction args with
  | nil => exact TablesOnly.refl
  | cons text args ih => exact fun s => (tablesOnly_smemfreeOne env s text).trans (ih _)

lemma tablesOnly_smemrmCommand (env : Env) : ∀ (args : List Sds) (s : Server),
    TablesOnly s (smemrmCommand env s args).2 := by
  intro args
  induction args with
  | nil => exact TablesOnly.refl
  | cons arg args ih =>
    intro s
    unfold smemrmCommand
    split
    · exact ih s
    · rename_i llVar _
      have hone : TablesOnly s (smemrmOne env s llVar).2 := by
        unfold smemrmOne
        dsimp only
        split <;> exact ⟨⟨rfl, rfl, rfl⟩, rfl⟩
      exact hone.trans (ih _)

lemma tablesOnly_publish {s : Server} {channel message : Sds} {r : List (ClientId × Reply) × Server}
    (h : smempubsubPublishMessage env s channel message = .ok r) : TablesOnly s r.2 := by
  obtain ⟨pushes, -, hp⟩ := except_bind_eq_ok.mp h
  split at hp
  · cases hp
    exact TablesOnly.refl s
  · cases hp
    unfold publishCount
    dsimp only
    split
    · exact tablesOnly_recycle env s message _
    · exact ⟨⟨rfl, rfl, rfl⟩, rfl⟩

lemma tablesOnly_sweepRecord (env : Env) (timeout : Int32) (s : Server) (r : SmemT) :
    TablesOnly s (sweepRecord env timeout s r).2 := by
  by_cases hexp : expired s timeout r = true
  · rw [sweepRecord_of_expired hexp]
    exact ⟨⟨rfl, rfl, rfl⟩, rfl⟩
  · rw [sweepRecord_of_not_expired hexp]
    exact TablesOnly.refl s

lemma tablesOnly_sweep (env : Env) (timeout : Int32) (s : Server) :
    TablesOnly s (smemFreeShareMemory env timeout s).2 := by
  refine smemFreeShareMemory_rule (R := fun s _ s' => TablesOnly s s') TablesOnly.refl
    (fun h h' => h.trans h') ?_ ?_
  · intro s key done r rest _
    exact (tablesOnly_sweepRecord env timeout s r).trans ⟨⟨rfl, rfl, rfl⟩, rfl⟩
  · intro s key r _
    exact (tablesOnly_sweepRecord env timeout s r).trans ⟨⟨rfl, rfl, rfl⟩, rfl⟩

/-! ## The rule for one event -/

/-- The event is an `SMEMRM`. -/
def Op.isSmemrm : Op → Bool
  | .smemrm _ _ => true
  | _ => false

/-- The events that can change the buffer tables. -/
def Op.touchesTables : Op → Bool
  | .smemget _ _ | .smemfree _ _ | .smemrm _ _ | .smempublish _ _ _ | .sweep _ => true
  | _ => false

lemma tablesOnly_step {s s' : Server} {op : Op} (hop : op.touchesTables = true)
    (hs : step env s op = some s') : TablesOnly s s' := by
  cases op with
  | smemget c size =>
    obtain ⟨cl, -, rfl⟩ := Option.map_eq_some_iff.mp hs
    exact tablesOnly_smemgetCommand env s size
  | smemfree c args =>
    obtain ⟨cl, -, rfl⟩ := Option.map_eq_some_iff.mp hs
    exact tablesOnly_smemfreeCommand env args s
  | smemrm c args =>
    obtain ⟨cl, -, rfl⟩ := Option.map_eq_some_iff.mp hs
    exact tablesOnly_smemrmCommand env args s
  | smempublish c channel message =>
    obtain ⟨cl, -, hs⟩ := Option.bind_eq_some_iff.mp hs
    obtain ⟨r, hr, rfl⟩ := Option.map_eq_some_iff.mp hs
    exact tablesOnly_publish (except_toOption_eq_some.mp hr)
  | sweep timeout =>
    cases hs
    exact tablesOnly_sweep env timeout s
  | _ => cases hop

/-- An event that sets the clock. -/
def Op.isUpdateTime : Op → Bool
  | .updateTime _ => true
  | _ => false

/-- The other events change only the index, unless they set the clock. -/
lemma indexOnly_step {s s' : Server} {op : Op} (hop : op.touchesTables = false)
    (htime : op.isUpdateTime = false) (hs : step env s op = some s') : IndexOnly s s' := by
  cases op with
  | connect =>
    cases hs
    exact IndexOnly.write s _ _ _
  | setName c name =>
    obtain ⟨cl, -, rfl⟩ := Option.map_eq_some_iff.mp hs
    exact indexOnly_clientSetName s c cl name
  | smemsubscribe c channels =>
    obtain ⟨cl, -, hs⟩ := Option.bind_eq_some_iff.mp hs
    obtain ⟨r, hr, rfl⟩ := Option.map_eq_some_iff.mp hs
    exact indexOnly_subscribe (except_toOption_eq_some.mp hr)
  | smemswitch c pubChannel subChannel =>
    obtain ⟨cl, -, hs⟩ := Option.bind_eq_some_iff.mp hs
    exact indexOnly_switch (except_toOption_eq_some.mp hs)
  | disconnect c =>
    obtain ⟨cl, -, hs⟩ := Option.bind_eq_some_iff.mp hs
    exact indexOnly_freeClient (except_toOption_eq_some.mp hs)
  | updateTime now => cases htime
  | rehash entries =>
    cases hs
    exact indexOnly_rehash s entries
  | _ => cases hop

/-- Every other event leaves the buffer tables alone. -/
lemma sameTables_step {s s' : Server} {op : Op} (hop : op.touchesTables = false)
    (hs : step env s op = some s') : SameTables s s' := by
  cases htime : op.isUpdateTime with
  | false => exact (indexOnly_step hop htime hs).toSameTables
  | true =>
    cases op with
    | updateTime now =>
      cases hs
      exact ⟨rfl, rfl, rfl, rfl, rfl, rfl, le_rfl⟩
    | _ => cases htime

/-- A predicate that every move preserves is preserved by every event; for `SMEMRM` the calls
of `IPC_RMID` are asked for separately. -/
theorem Preserves.step (hI : Preserves env I) (henv : env.FreshIds) {s s' : Server} {op : Op}
    (hrm : ∀ c args, op = .smemrm c args → I (smemrmCommand env s args).2)
    (h : I s) (hs : step env s op = some s') : I s' := by
  cases hop : op.touchesTables with
  | false => exact hI.same (sameTables_step hop hs) h
  | true =>
    cases op with
    | smemget c size =>
      obtain ⟨cl, -, rfl⟩ := Option.map_eq_some_iff.mp hs
      exact hI.smemgetCommand henv h
    | smemfree c args =>
      obtain ⟨cl, -, rfl⟩ := Option.map_eq_some_iff.mp hs
      exact hI.smemfreeCommand h
    | smemrm c args =>
      obtain ⟨cl, -, rfl⟩ := Option.map_eq_some_iff.mp hs
      exact hrm c args rfl
    | smempublish c channel message =>
      obtain ⟨cl, -, hs⟩ := Option.bind_eq_some_iff.mp hs
      obtain ⟨r, hr, rfl⟩ := Option.map_eq_some_iff.mp hs
      exact hI.smempubsubPublishMessage h (except_toOption_eq_some.mp hr)
    | sweep timeout =>
      cases hs
      exact hI.smemFreeShareMemory timeout h
    | _ => cases hop

end SelfTestCode.Broker
