import SelfTestCode.Broker.Tables

/-!
# Reference counts

Clients hold references to buffers: `SMEMGET` gives the caller one, `SMEMPUBLISH` takes one
from the publisher and gives one to every receiver, `SMEMFREE` takes one.  The broker does not
know who holds what; it keeps a count in each record.  This module puts a ledger of the
references beside the server (`ledgered`) and shows that, as long as every client only
publishes and frees what it holds, the count of a record is the number of references to its id,
whatever else happens: disconnects, sweeps, failed removals, `SMEMRM`.

The second half is about a producer that does not follow the rule: `producer_smem.c` and
`producer.c` publish a buffer and then free it, although the publish has already taken their
reference.  Whether that is safe is a question of the order in which the frees arrive.
-/

namespace SelfTestCode.Broker

variable {env : Env} {s : Server}

/-! ## The ledger -/

/-- The outstanding references: who holds one, and to which id. -/
abbrev Ledger := List (ClientId × Int32)

/-- The number of outstanding references to `m`. -/
def outstanding (ledger : Ledger) (m : Int32) : ℕ := ledger.countP fun ref => ref.2 == m

/-- The reference is one of `c`, to the id written `text`. -/
def isRefTo (c : ClientId) (text : Sds) (ref : ClientId × Int32) : Bool :=
  ref.1 == c && sdsfromlonglong ref.2 == text

/-- `c` holds a reference to the id written `text`, if the text is one of an id. -/
def Holds (ledger : Ledger) (c : ClientId) (text : Sds) : Prop :=
  ∀ m, text = sdsfromlonglong m → (c, m) ∈ ledger

/-- `c` holds a reference for each argument of an `SMEMFREE`, at the time it is processed. -/
def HoldsAll (c : ClientId) : Ledger → List Sds → Prop
  | _, [] => True
  | ledger, text :: args =>
    Holds ledger c text ∧ HoldsAll c (ledger.eraseP (isRefTo c text)) args

/-- A publish takes the reference of the publisher and gives one to each receiver. -/
def publishRefs (ledger : Ledger) (c : ClientId) (message : Sds) (receivers : List ClientId) :
    Ledger :=
  match ledger.find? (isRefTo c message) with
  | none => ledger
  | some ref => receivers.map (fun x => (x, ref.2)) ++ ledger.eraseP (isRefTo c message)

/-- The ledger after an event in the state `s`. -/
def ledgerAfter (env : Env) (s : Server) (ledger : Ledger) : Op → Ledger
  | .smemget c size =>
    if (smemgetCommand env s size).1 = -1 then ledger
    else (c, (smemgetCommand env s size).1) :: ledger
  | .smemfree c args => args.foldl (fun l text => l.eraseP (isRefTo c text)) ledger
  | .smempublish c channel message =>
    publishRefs ledger c message ((s.smempubsubChannels.lookup channel).getD [])
  | _ => ledger

/-- The broker with the ledger beside it. -/
def ledgered (env : Env) : System (Server × Ledger) Op where
  Init sl := (broker env).Init sl.1 ∧ sl.2 = []
  step sl op := (step env sl.1 op).map fun s' => (s', ledgerAfter env sl.1 sl.2 op)

/-- The discipline of the clients: they publish and free what they hold, and there are never
2^31 references to one buffer. -/
def Disciplined (env : Env) (sl : Server × Ledger) (op : Op) : Prop :=
  (match op with
    | .smemfree c args => HoldsAll c sl.2 args
    | .smempublish c _ message => Holds sl.2 c message
    | _ => True) ∧
  ∀ m, outstanding (ledgerAfter env sl.1 sl.2 op) m < 2 ^ 31

/-- Taking a reference away: nothing was held and nothing changes, or one reference of `c` to
the id of the text is gone. -/
lemma eraseP_cases (ledger : Ledger) (c : ClientId) (text : Sds) :
    (ledger.find? (isRefTo c text) = none ∧ ledger.eraseP (isRefTo c text) = ledger ∧
      ∀ m, text = sdsfromlonglong m → (c, m) ∉ ledger) ∨
    ∃ m, text = sdsfromlonglong m ∧ ledger.find? (isRefTo c text) = some (c, m) ∧
      (c, m) ∈ ledger ∧
      ∀ m', outstanding ledger m'
        = (if m' = m then 1 else 0) + outstanding (ledger.eraseP (isRefTo c text)) m' := by
  cases hfind : ledger.find? (isRefTo c text) with
  | none =>
    have hnone : ∀ ref ∈ ledger, ¬ isRefTo c text ref = true := by
      simpa using List.find?_eq_none.mp hfind
    refine Or.inl ⟨rfl, List.eraseP_of_forall_not hnone, ?_⟩
    rintro m rfl hmem
    exact hnone _ hmem (by simp [isRefTo])
  | some ref =>
    have href := List.find?_some hfind
    simp only [isRefTo, Bool.and_eq_true, beq_iff_eq] at href
    obtain ⟨hc, htext⟩ := href
    obtain ⟨c', m⟩ := ref
    obtain rfl : c' = c := hc
    refine Or.inr ⟨m, htext.symm, rfl, List.mem_of_find?_eq_some hfind, fun m' => ?_⟩
    have hperm := Multiset.coe_eq_coe.mp (Dict.coe_of_find? hfind)
    rw [outstanding, hperm.countP_eq, List.countP_cons, Nat.add_comm]
    by_cases hm : m' = m
    · simp [hm, outstanding]
    · simp [hm, outstanding, Ne.symm hm]

@[simp] lemma outstanding_cons (ref : ClientId × Int32) (ledger : Ledger) (m : Int32) :
    outstanding (ref :: ledger) m = (if m = ref.2 then 1 else 0) + outstanding ledger m := by
  rw [outstanding, List.countP_cons, Nat.add_comm]
  by_cases hm : m = ref.2
  · simp [hm, outstanding]
  · simp [hm, outstanding, Ne.symm hm]

lemma outstanding_append (l l' : Ledger) (m : Int32) :
    outstanding (l ++ l') m = outstanding l m + outstanding l' m := List.countP_append

lemma outstanding_map (receivers : List ClientId) (m m' : Int32) :
    outstanding (receivers.map fun x => (x, m)) m' = if m' = m then receivers.length else 0 := by
  induction receivers with
  | nil => simp [outstanding]
  | cons x receivers ih =>
    rw [List.map_cons, outstanding_cons, ih, List.length_cons]
    split <;> omega

lemma outstanding_pos {ledger : Ledger} {c : ClientId} {m : Int32} (h : (c, m) ∈ ledger) :
    0 < outstanding ledger m := by
  rw [outstanding, List.countP_pos_iff]
  exact ⟨(c, m), h, by simp⟩

lemma outstanding_eq_zero {ledger : Ledger} {m : Int32} :
    outstanding ledger m = 0 ↔ ∀ ref ∈ ledger, ref.2 ≠ m := by
  rw [outstanding, List.countP_eq_zero]
  simp

/-! ## Counts and references -/

/-- Each used record counts the references to its id, there are no references to pooled ids, and
every reference is to an id that was issued. -/
structure CountInv (env : Env) (s : Server) (ledger : Ledger) : Prop where
  tables : TableInv env s
  counts : ∀ {key r}, s.smempubsubMemorys.lookup key = some r →
    r.cnt.toInt = outstanding ledger r.id
  pool : ∀ r ∈ pooled s, outstanding ledger r.id = 0
  issued : ∀ ref ∈ ledger, Issued env s.calls ref.2

namespace CountInv

variable {ledger : Ledger}

/-- Moves that neither add records nor change counts keep the counts right. -/
lemma of_records {s' : Server} (h : CountInv env s ledger) (ht : TableInv env s')
    (hm : ∀ {key r'}, s'.smempubsubMemorys.lookup key = some r' →
      ∃ r, s.smempubsubMemorys.lookup key = some r ∧ r'.id = r.id ∧ r'.cnt = r.cnt)
    (hp : ∀ r' ∈ pooled s', ∃ r ∈ pooled s, r'.id = r.id) (hcalls : s.calls ≤ s'.calls) :
    CountInv env s' ledger where
  tables := ht
  counts := by
    intro key r' hr'
    obtain ⟨r, hr, hid, hcnt⟩ := hm hr'
    rw [hid, hcnt]
    exact h.counts hr
  pool := by
    intro r' hr'
    obtain ⟨r, hr, hid⟩ := hp r' hr'
    rw [hid]
    exact h.pool r hr
  issued ref href := (h.issued ref href).mono hcalls

/-- The same tables, with or without system calls in between. -/
lemma of_tables {s' : Server} (h : CountInv env s ledger) (ht : TableInv env s')
    (hm : s'.smempubsubMemorys = s.smempubsubMemorys) (hp : pooled s' = pooled s)
    (hcalls : s.calls ≤ s'.calls) : CountInv env s' ledger := by
  refine h.of_records ht ?_ ?_ hcalls
  · intro key r' hr'
    rw [hm] at hr'
    exact ⟨r', hr', rfl, rfl⟩
  · intro r' hr'
    rw [hp] at hr'
    exact ⟨r', hr', rfl⟩

lemma same {s' : Server} (hs : SameTables s s') (h : CountInv env s ledger) :
    CountInv env s' ledger :=
  h.of_tables (h.tables.same hs) hs.memorys (congrArg Dict.items hs.available) hs.calls

lemma smemrmCommand {args : List Sds} (h : CountInv env s ledger) :
    CountInv env (smemrmCommand env s args).2 ledger := by
  refine smemrmCommand_rule (I := fun s => CountInv env s ledger) (fun h => h.tables.list) ?_ h
  intro _ _ n _ s h
  exact h.of_tables (h.tables.smemFreeBuffer n.toInt32) rfl rfl (Nat.le_succ _)

lemma sweep (timeout : Int32) (h : CountInv env s ledger) :
    CountInv env (smemFreeShareMemory env timeout s).2 ledger := by
  refine smemFreeShareMemory_rule (R := fun s _ s' => CountInv env s ledger →
    CountInv env s' ledger) (fun _ h => h) (fun h₁ h₂ h => h₂ (h₁ h)) ?_ ?_ h
  · intro s key done r rest hl h
    obtain ⟨m, hs, hs'⟩ := TableInv.pooled_sweepNode env timeout hl
    refine h.of_records (h.tables.sweepNode timeout hl) ?_ ?_
      (sweepRecord_frame env timeout s r).2.2.2
    · intro key' r' hr'
      rw [TableInv.sweepNode_memorys] at hr'
      exact ⟨r', hr', rfl, rfl⟩
    · intro r' hr'
      rw [hs']  at hr'
      rw [hs]
      rcases Multiset.mem_add.mp hr' with hleft | hm
      · obtain ⟨n, rfl⟩ := sweepRecord_left (Option.mem_toList.mp hleft)
        exact ⟨r, Multiset.mem_cons_self _ _, rfl⟩
      · exact ⟨r', Multiset.mem_cons_of_mem hm, rfl⟩
  · intro s key r hr h
    refine h.of_records (h.tables.sweepMemory timeout hr) ?_ ?_
      (sweepRecord_frame env timeout s r).2.2.2
    · intro key' r' hr'
      rw [sweepMemory_memorys] at hr'
      cases hleft : (sweepRecord env timeout s r).1.left with
      | none =>
        rw [hleft, Dict.lookup_erase_if] at hr'
        split at hr'
        · cases hr'
        · exact ⟨r', hr', rfl, rfl⟩
      | some r₁ =>
        obtain ⟨n, rfl⟩ := sweepRecord_left hleft
        rw [hleft, Dict.lookup_insert_if] at hr'
        split at hr'
        · rename_i hkey
          cases hr'
          exact ⟨r, by rw [hkey, hr], rfl, rfl⟩
        · exact ⟨r', hr', rfl, rfl⟩
    · have hpooled : pooled (sweepMemory env timeout key s r).2 = pooled s :=
        congrArg Dict.items (sweepRecord_frame env timeout s r).2.1
      rw [hpooled]
      exact fun r' hr' => ⟨r', hr', rfl⟩

/-! ## `SMEMGET` -/

/-- An id that is handed out has no outstanding reference. -/
lemma unreferenced {m : Int32} {s' : Server} (h : CountInv env s ledger)
    (hout : HandedOut env s m s') : outstanding ledger m = 0 := by
  rcases hout.source with ⟨hnew, -⟩ | ⟨r₀, rfl, hpooled⟩
  · rw [outstanding_eq_zero]
    rintro ref href rfl
    exact hnew (h.issued ref href)
  · apply h.pool
    rw [hpooled]
    exact Multiset.mem_cons_self _ _

/-- The records that stay in the pool have other ids than the one that is handed out. -/
lemma pooled_ne {m : Int32} {s' : Server} (h : CountInv env s ledger)
    (hout : HandedOut env s m s') {r : SmemT} (hr : r ∈ pooled s') : r ∈ pooled s ∧ r.id ≠ m := by
  rcases hout.source with ⟨hnew, hpooled⟩ | ⟨r₀, rfl, hpooled⟩
  · rw [hpooled] at hr
    refine ⟨hr, ?_⟩
    rintro rfl
    exact hnew (h.tables.issued (mem_tracked.mpr (Or.inr hr)))
  · rw [hpooled]
    refine ⟨Multiset.mem_cons_of_mem hr, fun hid => ?_⟩
    have hnodup : ((pooled s).map SmemT.id).Nodup := by
      have hids := h.tables.ids_nodup
      rw [tracked, Multiset.map_add] at hids
      exact Multiset.nodup_of_le (Multiset.le_add_left _ _) hids
    rw [hpooled] at hnodup
    exact TableInv.id_notMem hnodup (hid ▸ Multiset.mem_map_of_mem _ hr)

lemma smemgetCommand (henv : env.FreshIds) (c : ClientId) (arg : Sds)
    (h : CountInv env s ledger) :
    CountInv env (smemgetCommand env s arg).2 (ledgerAfter env s ledger (.smemget c arg)) := by
  have ht : TableInv env (Broker.smemgetCommand env s arg).2 :=
    (TableInv.preserves henv).smemgetCommand henv h.tables
  rcases h.tables.smemgetCommand_spec henv arg with ⟨hneg, hm, hp, hcalls⟩ | hout
  · have hledger : ledgerAfter env s ledger (.smemget c arg) = ledger := if_pos hneg
    rw [hledger]
    exact h.of_tables ht hm hp hcalls
  · generalize hm : (Broker.smemgetCommand env s arg).1 = m at hout
    generalize (Broker.smemgetCommand env s arg).2 = s' at ht hout
    have hledger : ledgerAfter env s ledger (.smemget c arg) = (c, m) :: ledger := by
      have hneg : m ≠ -1 := hout.issued.2.1
      rw [ledgerAfter, hm, if_neg hneg]
    have hzero := h.unreferenced hout
    obtain ⟨r₁, hid, hcnt, -, hmem⟩ := hout.memorys
    rw [hledger]
    refine ⟨ht, ?_, ?_, ?_⟩
    · intro key r hr
      rw [hmem, Dict.lookup_insert_if] at hr
      split at hr
      · cases hr
        rw [hid, hcnt, outstanding_cons, if_pos rfl, hzero]
        rfl
      · rename_i hkey
        have hne : r.id ≠ m := by
          rintro rfl
          exact hkey (h.tables.memorys hr).key_eq
        rw [outstanding_cons, if_neg hne, Nat.zero_add]
        exact h.counts hr
    · intro r hr
      obtain ⟨hr, hne⟩ := h.pooled_ne hout hr
      rw [outstanding_cons, if_neg hne, h.pool r hr]
    · intro ref href
      rcases List.mem_cons.mp href with rfl | href
      · exact hout.issued
      · exact (h.issued ref href).mono hout.calls

/-! ## `SMEMFREE` and `SMEMPUBLISH` -/

/-- A change of the references to ids without a record, none of them pooled, needs no change of
a count. -/
lemma of_ledger {ledger' : Ledger} (h : CountInv env s ledger)
    (hcounts : ∀ m, (∃ key r, s.smempubsubMemorys.lookup key = some r ∧ r.id = m) →
      outstanding ledger' m = outstanding ledger m)
    (hpool : ∀ m, outstanding ledger m = 0 → outstanding ledger' m = 0)
    (hissued : ∀ ref ∈ ledger', Issued env s.calls ref.2) : CountInv env s ledger' where
  tables := h.tables
  counts {key r} hr := by
    rw [hcounts r.id ⟨key, r, hr, rfl⟩]
    exact h.counts hr
  pool r hr := hpool r.id (h.pool r hr)
  issued := hissued

/-- The count of one record follows the references to its id; when none is left the record is
recycled. -/
lemma recount {ledger' : Ledger} {key : Sds} {r : SmemT} {cnt : Int32}
    (h : CountInv env s ledger) (hr : s.smempubsubMemorys.lookup key = some r)
    (hcnt : cnt.toInt = outstanding ledger' r.id)
    (hother : ∀ m, m ≠ r.id → outstanding ledger' m = outstanding ledger m)
    (hissued : ∀ ref ∈ ledger', Issued env s.calls ref.2) :
    CountInv env (if cnt ≤ 0 then Broker.recycle env s key { r with cnt := cnt } else
      { s with smempubsubMemorys := s.smempubsubMemorys.insert key { r with cnt := cnt } })
      ledger' := by
  have hrec := h.tables.memorys hr
  have hne : ∀ {key' r'}, s.smempubsubMemorys.lookup key' = some r' → key' ≠ key →
      r'.id ≠ r.id := by
    intro key' r' hr' hkey hid
    exact hkey (by rw [(h.tables.memorys hr').key_eq, hrec.key_eq, hid])
  have hpooled_ne : ∀ r' ∈ pooled s, r'.id ≠ r.id := by
    intro r' hr' hid
    have hpos := Int32.lt_iff_toInt_lt.mp hrec.cnt
    have hzero := h.pool r' hr'
    have hcount := h.counts hr
    rw [hid] at hzero
    rw [hzero] at hcount
    rw [hcount] at hpos
    exact absurd hpos (by decide)
  split
  · rename_i hle
    have hzero : outstanding ledger' r.id = 0 := by
      have hle' := Int32.le_iff_toInt_le.mp hle
      have h0 : (0 : Int32).toInt = 0 := rfl
      omega
    refine ⟨h.tables.recycle hr, ?_, ?_, ?_⟩
    · intro key' r' hr'
      rw [TableInv.recycle_memorys, Dict.lookup_erase_if] at hr'
      split at hr'
      · cases hr'
      · rename_i hkey
        rw [hother _ (hne hr' hkey)]
        exact h.counts hr'
    · intro r' hr'
      rw [TableInv.pooled_recycle] at hr'
      have hold : r' ∈ pooled s → outstanding ledger' r'.id = 0 := by
        intro hmem
        rw [hother _ (hpooled_ne r' hmem)]
        exact h.pool r' hmem
      split at hr'
      · exact hold hr'
      · rcases Multiset.mem_cons.mp hr' with rfl | hr'
        · exact hzero
        · exact hold hr'
    · intro ref href
      exact (hissued ref href).mono (TableInv.recycle_calls env s key _)
  · rename_i hpos
    refine ⟨h.tables.recount hr (Int32.not_le.mp hpos), ?_, ?_, hissued⟩
    · intro key' r' hr'
      rw [Dict.lookup_insert_if] at hr'
      split at hr'
      · cases hr'
        exact hcnt
      · rename_i hkey
        rw [hother _ (hne hr' hkey)]
        exact h.counts hr'
    · intro r' hr'
      rw [hother _ (hpooled_ne r' hr')]
      exact h.pool r' hr'

lemma issued_eraseP (h : CountInv env s ledger) (c : ClientId) (text : Sds) :
    ∀ ref ∈ ledger.eraseP (isRefTo c text), Issued env s.calls ref.2 :=
  fun ref href => h.issued ref (List.mem_of_mem_eraseP href)

/-- A count of at least 1 can be decremented without overflow. -/
lemma toInt_pred {cnt : Int32} (h : 0 < cnt) : (cnt - 1).toInt = cnt.toInt - 1 := by
  have hpos := Int32.lt_iff_toInt_lt.mp h
  have h0 : (0 : Int32).toInt = 0 := rfl
  have h1 : (1 : Int32).toInt = 1 := rfl
  have hlt := cnt.toInt_lt
  rw [Int32.toInt_sub, h1, Int.bmod_eq_of_le (by omega) (by omega)]

lemma smemfreeOne {c : ClientId} {text : Sds} (h : CountInv env s ledger)
    (hholds : Holds ledger c text) :
    CountInv env (smemfreeOne env s text).2 (ledger.eraseP (isRefTo c text)) := by
  cases hr : s.smempubsubMemorys.lookup text with
  | none =>
    have hsame : (Broker.smemfreeOne env s text).2 = s := by simp [Broker.smemfreeOne, hr]
    rw [hsame]
    rcases eraseP_cases ledger c text with ⟨-, hkeep, -⟩ | ⟨m, htext, -, -, hcount⟩
    · rw [hkeep]
      exact h
    · refine h.of_ledger ?_ ?_ (h.issued_eraseP c text)
      · rintro m' ⟨key, r, hkey, rfl⟩
        have hne : r.id ≠ m := by
          rintro rfl
          rw [(h.tables.memorys hkey).key_eq, ← htext, hr] at hkey
          cases hkey
        rw [hcount r.id, if_neg hne, Nat.zero_add]
      · intro m' hzero
        have := hcount m'
        omega
  | some r =>
    have hrec := h.tables.memorys hr
    have hfree : (Broker.smemfreeOne env s text).2 =
        if r.cnt - 1 ≤ 0 then Broker.recycle env s text { r with cnt := r.cnt - 1 } else
          { s with smempubsubMemorys :=
            s.smempubsubMemorys.insert text { r with cnt := r.cnt - 1 } } := by
      simp only [Broker.smemfreeOne, hr, hrec.state, and_true]
      split <;> rfl
    have hheld := hholds r.id hrec.key_eq
    rcases eraseP_cases ledger c text with ⟨-, -, hnone⟩ | ⟨m, htext, -, -, hcount⟩
    · exact absurd hheld (hnone r.id hrec.key_eq)
    · obtain rfl : r.id = m := sdsfromlonglong_injective (hrec.key_eq.symm.trans htext)
      rw [hfree]
      refine h.recount hr ?_ ?_ (h.issued_eraseP c text)
      · have hold := h.counts hr
        have hone := hcount r.id
        rw [if_pos rfl] at hone
        rw [toInt_pred hrec.cnt]
        omega
      · intro m' hne
        rw [hcount m', if_neg hne, Nat.zero_add]

lemma smemfreeCommand {c : ClientId} : ∀ {args : List Sds} {s : Server} {ledger : Ledger},
    CountInv env s ledger → HoldsAll c ledger args →
    CountInv env (smemfreeCommand env s args).2 (ledgerAfter env s ledger (.smemfree c args)) := by
  intro args
  induction args with
  | nil => exact fun h _ => h
  | cons text args ih => exact fun h hholds => ih (h.smemfreeOne hholds.1) hholds.2

/-- The count after a publish, in 32 bits. -/
lemma toInt_publish (receivers : List ClientId) (cnt : Int32) :
    (receivers.foldl (fun cnt _ => cnt + 1) cnt - 1).toInt
      = (cnt.toInt + receivers.length - 1).bmod (2 ^ 32) := by
  have h1 : (1 : Int32).toInt = 1 := rfl
  have hfold : ∀ (l : List ClientId) (n : Int32),
      (l.foldl (fun cnt _ => cnt + 1) n).toInt = (n.toInt + l.length).bmod (2 ^ 32) := by
    intro l
    induction l with
    | nil => intro n; simp
    | cons x l ih =>
      intro n
      rw [List.foldl_cons, ih, Int32.toInt_add, List.length_cons, h1, Int.bmod_add_bmod]
      congr 1
      push_cast
      omega
  rw [Int32.toInt_sub, hfold, h1, Int.bmod_sub_bmod]

lemma publish {c : ClientId} {s' : Server} {channel message : Sds}
    {pushes : List (ClientId × Reply)} (h : CountInv env s ledger)
    (hholds : Holds ledger c message)
    (hbound : ∀ m,
      outstanding (ledgerAfter env s ledger (.smempublish c channel message)) m < 2 ^ 31)
    (hs : smempubsubPublishMessage env s channel message = .ok (pushes, s')) :
    CountInv env s' (ledgerAfter env s ledger (.smempublish c channel message)) := by
  obtain ⟨p, -, hp⟩ := except_bind_eq_ok.mp hs
  set receivers := (s.smempubsubChannels.lookup channel).getD [] with hreceivers
  have hledger : ledgerAfter env s ledger (.smempublish c channel message)
      = publishRefs ledger c message receivers := rfl
  rw [hledger] at hbound ⊢
  rcases eraseP_cases ledger c message with ⟨hfind, -, hnone⟩ | ⟨m, hmsg, hfind, hmem, hcount⟩
  · -- the message is not the text of an id, so no record is filed under it
    have hrefs : publishRefs ledger c message receivers = ledger := by rw [publishRefs, hfind]
    rw [hrefs]
    split at hp
    · cases hp
      exact h
    · rename_i r hr
      have hkey := (h.tables.memorys hr).key_eq
      exact absurd (hholds r.id hkey) (hnone r.id hkey)
  · have hrefs : publishRefs ledger c message receivers
        = receivers.map (fun x => (x, m)) ++ ledger.eraseP (isRefTo c message) := by
      rw [publishRefs, hfind]
    have hother : ∀ m', m' ≠ m →
        outstanding (publishRefs ledger c message receivers) m' = outstanding ledger m' := by
      intro m' hne
      rw [hrefs, outstanding_append, outstanding_map, hcount m', if_neg hne, if_neg hne]
    have hissued : ∀ ref ∈ publishRefs ledger c message receivers,
        Issued env s.calls ref.2 := by
      rw [hrefs]
      intro ref href
      rcases List.mem_append.mp href with href | href
      · obtain ⟨x, -, rfl⟩ := List.mem_map.mp href
        exact h.issued (c, m) hmem
      · exact h.issued_eraseP c message ref href
    split at hp
    · rename_i hlookup
      cases hp
      refine h.of_ledger ?_ ?_ hissued
      · rintro m' ⟨key, r, hr, rfl⟩
        apply hother
        rintro rfl
        rw [(h.tables.memorys hr).key_eq, ← hmsg, hlookup] at hr
        cases hr
      · intro m' hzero
        rw [hother m' ?_, hzero]
        rintro rfl
        have := outstanding_pos hmem
        omega
    · rename_i r hr
      cases hp
      have hrec := h.tables.memorys hr
      obtain rfl : r.id = m := sdsfromlonglong_injective (hrec.key_eq.symm.trans hmsg)
      refine h.recount hr ?_ hother hissued
      have hold := h.counts hr
      have hone := hcount r.id
      have hnew := hbound r.id
      rw [if_pos rfl] at hone
      rw [hrefs, outstanding_append, outstanding_map, if_pos rfl] at hnew ⊢
      have hpos := Int32.lt_iff_toInt_lt.mp hrec.cnt
      have h0 : (0 : Int32).toInt = 0 := rfl
      rw [toInt_publish receivers r.cnt, Int.bmod_eq_of_le (by omega) (by omega)]
      push_cast
      omega

/-- One event of the disciplined clients. -/
lemma step (henv : env.FreshIds) {s' : Server} {op : Op} (h : CountInv env s ledger)
    (hok : Disciplined env (s, ledger) op) (hs : Broker.step env s op = some s') :
    CountInv env s' (ledgerAfter env s ledger op) := by
  cases hop : op.touchesTables with
  | false =>
    have hledger : ledgerAfter env s ledger op = ledger := by
      cases op <;> first | rfl | cases hop
    rw [hledger]
    exact h.same (sameTables_step hop hs)
  | true =>
    cases op with
    | smemget c size =>
      obtain ⟨cl, -, rfl⟩ := Option.map_eq_some_iff.mp hs
      exact h.smemgetCommand henv c size
    | smemfree c args =>
      obtain ⟨cl, -, rfl⟩ := Option.map_eq_some_iff.mp hs
      exact h.smemfreeCommand hok.1
    | smemrm c args =>
      obtain ⟨cl, -, rfl⟩ := Option.map_eq_some_iff.mp hs
      exact h.smemrmCommand
    | smempublish c channel message =>
      obtain ⟨cl, -, hs⟩ := Option.bind_eq_some_iff.mp hs
      obtain ⟨r, hr, rfl⟩ := Option.map_eq_some_iff.mp hs
      exact h.publish hok.1 hok.2 (except_toOption_eq_some.mp hr)
    | sweep timeout =>
      cases hs
      exact h.sweep timeout
    | _ => cases hop

end CountInv

/-- As long as clients publish and free only what they hold: in every state of every run, the
count of a record handed out is the number of outstanding references to its id, and an id that
`SMEMGET` answers, new or recycled, has no outstanding reference just before. -/
theorem reference_counts_exact (henv : env.FreshIds) {sl : Server × Ledger}
    (h : (ledgered env).Reachable (Disciplined env) sl) :
    (∀ key r, sl.1.smempubsubMemorys.lookup key = some r →
      r.cnt.toInt = outstanding sl.2 r.id) ∧
    ∀ arg, 0 ≤ (smemgetCommand env sl.1 arg).1 →
      outstanding sl.2 (smemgetCommand env sl.1 arg).1 = 0 := by
  have hinv : CountInv env sl.1 sl.2 := by
    refine h.invariant (I := fun sl => CountInv env sl.1 sl.2) ?_ ?_
    · rintro ⟨s, ledger⟩ ⟨⟨size, rfl⟩, rfl⟩
      exact ⟨.init size, fun h => by simp [initServer] at h,
        fun r hr => by simp [outstanding], fun ref href => by cases href⟩
    · rintro ⟨s, ledger⟩ op sl' _ hs hok hstep
      obtain ⟨s', hs', rfl⟩ := Option.map_eq_some_iff.mp hstep
      exact hs.step henv hok hs'
  refine ⟨fun key r => hinv.counts, fun arg hnonneg => ?_⟩
  rcases hinv.tables.smemgetCommand_spec henv arg with ⟨hneg, -⟩ | hout
  · rw [hneg] at hnonneg
    exact absurd hnonneg (by decide)
  · exact hinv.unreferenced hout

/-- An executable check of the discipline. -/
def checkArgs (c : ClientId) : Ledger → List Sds → Bool
  | _, [] => true
  | ledger, text :: args =>
    ledger.any (isRefTo c text) && checkArgs c (ledger.eraseP (isRefTo c text)) args

/-- An executable check that an event is disciplined. -/
def checkOp (env : Env) (sl : Server × Ledger) (op : Op) : Bool :=
  (match op with
    | .smemfree c args => checkArgs c sl.2 args
    | .smempublish c _ message => sl.2.any (isRefTo c message)
    | _ => true) &&
  decide ((ledgerAfter env sl.1 sl.2 op).length < 2 ^ 31)

lemma holds_of_any {ledger : Ledger} {c : ClientId} {text : Sds}
    (h : ledger.any (isRefTo c text) = true) : Holds ledger c text := by
  obtain ⟨⟨c', m⟩, hmem, href⟩ := List.any_eq_true.mp h
  simp only [isRefTo, Bool.and_eq_true, beq_iff_eq] at href
  obtain ⟨rfl, rfl⟩ := href
  intro m' htext
  rw [← sdsfromlonglong_injective htext]
  exact hmem

lemma holdsAll_of_checkArgs {c : ClientId} : ∀ {args : List Sds} {ledger : Ledger},
    checkArgs c ledger args = true → HoldsAll c ledger args := by
  intro args
  induction args with
  | nil => exact fun _ => trivial
  | cons text args ih =>
    intro ledger h
    rw [checkArgs, Bool.and_eq_true] at h
    exact ⟨holds_of_any h.1, ih h.2⟩

lemma disciplined_of_checkOp {sl : Server × Ledger} {op : Op} (h : checkOp env sl op = true) :
    Disciplined env sl op := by
  unfold checkOp at h
  obtain ⟨hheld, hlen⟩ := Bool.and_eq_true_iff.mp h
  refine ⟨?_, fun m => lt_of_le_of_lt List.countP_le_length (of_decide_eq_true hlen)⟩
  cases op with
  | smemfree c args => exact holdsAll_of_checkArgs hheld
  | smempublish c channel message => exact holds_of_any hheld
  | _ => trivial

/-- Two subscribers receive a buffer, one of them frees it. -/
def publishToTwo : List Op :=
  [.connect, .connect, .connect, .smemsubscribe 2 ["ch"], .smemsubscribe 3 ["ch"],
    .smemget 1 "4096", .smempublish 1 "ch" "2", .smemfree 3 ["2"]]

theorem reference_counts_exact_publishToTwo :
    ∃ sl, (ledgered sampleEnv).run (initServer 100000, []) publishToTwo = some sl ∧
      sl.2 = [(2, 2)] ∧
      ∀ key r, sl.1.smempubsubMemorys.lookup key = some r →
        r.cnt.toInt = outstanding sl.2 r.id := by
  have hrun : ((ledgered sampleEnv).run (initServer 100000, []) publishToTwo).map
      (fun sl => sl.2) = some [(2, 2)] := by decide
  obtain ⟨sl, hsl, hledger⟩ := Option.map_eq_some_iff.mp hrun
  have hcheck : (ledgered sampleEnv).Reachable (fun sl op => checkOp sampleEnv sl op = true) sl :=
    .of_run (.init ⟨⟨_, rfl⟩, rfl⟩) (by decide) hsl
  have hreach : (ledgered sampleEnv).Reachable (Disciplined sampleEnv) sl :=
    hcheck.mono fun sl op => disciplined_of_checkOp
  exact ⟨sl, hsl, hledger, (reference_counts_exact sampleEnv_freshIds hreach).1⟩

/-! ## Publish, then free -/

/-- What happens after the publish: the producer's own free, the free of a subscriber, or an
`SMEMGET` of another producer. -/
inductive Event
  | producerFree
  | subscriberFree
  | get (size : Sds)
  deriving DecidableEq

/-- The event is a free. -/
def Event.isFree : Event → Bool
  | .get _ => false
  | _ => true

/-- One event about the buffer `m`. -/
def play (env : Env) (m : Int32) (s : Server) : Event → Server
  | .producerFree | .subscriberFree => (smemfreeCommand env s [sdsfromlonglong m]).2
  | .get size => (smemgetCommand env s size).2

/-- The state after some events. -/
def playAll (env : Env) (m : Int32) (s : Server) (events : List Event) : Server :=
  events.foldl (play env m) s

/-- Until all `n` subscribers have freed the buffer `m`, its record stays among the used ones
and `m` is not answered to an `SMEMGET`. -/
structure Safe (env : Env) (m : Int32) (n : ℕ) (s : Server) (events : List Event) : Prop where
  kept : ∀ pre post, events = pre ++ post → pre.count .subscriberFree < n →
    ∃ r, (playAll env m s pre).smempubsubMemorys.lookup (sdsfromlonglong m) = some r
  withheld : ∀ pre size post, events = pre ++ .get size :: post →
    pre.count .subscriberFree < n → (smemgetCommand env (playAll env m s pre) size).1 ≠ m

/-- The buffer `m` is in use with count `k`. -/
structure InUse (env : Env) (m : Int32) (k : ℕ) (s : Server) : Prop where
  tables : TableInv env s
  record : ∃ r, s.smempubsubMemorys.lookup (sdsfromlonglong m) = some r ∧ r.cnt.toInt = k

section Frees

variable {m : Int32} {k n : ℕ}

/-- An `SMEMGET` answers another id and does not touch the record. -/
lemma InUse.get (henv : env.FreshIds) (h : InUse env m k s) (size : Sds) :
    (smemgetCommand env s size).1 ≠ m ∧ InUse env m k (smemgetCommand env s size).2 := by
  have ht : TableInv env (smemgetCommand env s size).2 :=
    (TableInv.preserves henv).smemgetCommand henv h.tables
  obtain ⟨r, hr, hcnt⟩ := h.record
  rcases h.tables.smemgetCommand_spec henv size with ⟨hneg, hm, -, -⟩ | hout
  · have hne : m ≠ -1 := by
      have hmem : r ∈ tracked s := mem_tracked.mpr (Or.inl (mem_used.mpr ⟨_, hr⟩))
      rw [sdsfromlonglong_injective (h.tables.memorys hr).key_eq]
      exact (h.tables.issued hmem).2.1
    exact ⟨by rw [hneg]; exact hne.symm, ⟨ht, r, by rw [hm]; exact hr, hcnt⟩⟩
  · have hne : (smemgetCommand env s size).1 ≠ m := by
      intro heq
      have hunused := hout.unused
      rw [heq, hr] at hunused
      cases hunused
    obtain ⟨r₁, -, -, -, hm⟩ := hout.memorys
    refine ⟨hne, ⟨ht, r, ?_, hcnt⟩⟩
    rw [hm, Dict.lookup_insert_if, if_neg (by rw [sdsfromlonglong_inj]; exact hne.symm)]
    exact hr

/-- A free counts down, and recycles the record when it was the last. -/
lemma InUse.free (henv : env.FreshIds) (h : InUse env m k s) :
    (1 < k → InUse env m (k - 1) (smemfreeCommand env s [sdsfromlonglong m]).2) ∧
    (k = 1 → (smemfreeCommand env s [sdsfromlonglong m]).2.smempubsubMemorys.lookup
      (sdsfromlonglong m) = none) := by
  have ht : TableInv env (smemfreeCommand env s [sdsfromlonglong m]).2 :=
    (TableInv.preserves henv).smemfreeCommand h.tables
  obtain ⟨r, hr, hcnt⟩ := h.record
  have hrec := h.tables.memorys hr
  have hpred := CountInv.toInt_pred hrec.cnt
  have h0 : (0 : Int32).toInt = 0 := rfl
  have hfree : (smemfreeCommand env s [sdsfromlonglong m]).2 =
      if r.cnt - 1 ≤ 0 then recycle env s (sdsfromlonglong m) { r with cnt := r.cnt - 1 } else
        { s with smempubsubMemorys :=
          s.smempubsubMemorys.insert (sdsfromlonglong m) { r with cnt := r.cnt - 1 } } := by
    simp only [smemfreeCommand, smemfreeOne, hr, hrec.state, and_true]
    split <;> rfl
  constructor
  · intro hk
    have hpos : ¬ r.cnt - 1 ≤ 0 := by
      rw [Int32.le_iff_toInt_le]
      omega
    refine ⟨ht, { r with cnt := r.cnt - 1 }, ?_, ?_⟩
    · rw [hfree, if_neg hpos]
      exact AList.lookup_insert _
    · show (r.cnt - 1).toInt = _
      omega
  · intro hk
    have hle : r.cnt - 1 ≤ 0 := by
      rw [Int32.le_iff_toInt_le]
      omega
    rw [hfree, if_pos hle, TableInv.recycle_memorys]
    exact AList.lookup_erase _ _

lemma play_free {e : Event} (he : e.isFree = true) :
    play env m s e = (smemfreeCommand env s [sdsfromlonglong m]).2 := by
  cases e with
  | get size => cases he
  | _ => rfl

/-- While fewer than `k` frees have arrived the record is in use. -/
lemma InUse.playAll (henv : env.FreshIds) : ∀ (events : List Event) {k : ℕ} {s : Server},
    InUse env m k s → events.countP Event.isFree < k →
    InUse env m (k - events.countP Event.isFree) (playAll env m s events) := by
  intro events
  induction events with
  | nil => exact fun h _ => h
  | cons e events ih =>
    intro k s h hlt
    cases he : e.isFree with
    | true =>
      rw [List.countP_cons_of_pos he] at hlt ⊢
      have hstep := (h.free henv).1 (by omega)
      rw [← play_free he] at hstep
      have hrest := ih hstep (by omega)
      rwa [Nat.sub_sub, Nat.add_comm] at hrest
    | false =>
      rw [List.countP_cons_of_neg (by simp [he])] at hlt ⊢
      cases e with
      | get size => exact ih (h.get henv size).2 hlt
      | _ => cases he

/-- The element of a list at which a count is reached. -/
lemma exists_split_countP {α : Type*} (p : α → Bool) : ∀ {l : List α} {k : ℕ}, k < l.countP p →
    ∃ l₁ a l₂, l = l₁ ++ a :: l₂ ∧ p a = true ∧ l₁.countP p = k := by
  intro l
  induction l with
  | nil =>
    intro k hk
    simp at hk
  | cons a l ih =>
    intro k hk
    cases ha : p a with
    | true =>
      rw [List.countP_cons_of_pos ha] at hk
      cases k with
      | zero => exact ⟨[], a, l, rfl, ha, rfl⟩
      | succ k =>
        obtain ⟨l₁, b, l₂, rfl, hb, hcount⟩ := ih (k := k) (by omega)
        exact ⟨a :: l₁, b, l₂, rfl, hb, by rw [List.countP_cons_of_pos ha, hcount]⟩
    | false =>
      rw [List.countP_cons_of_neg (by simp [ha])] at hk
      obtain ⟨l₁, b, l₂, rfl, hb, hcount⟩ := ih hk
      exact ⟨a :: l₁, b, l₂, rfl, hb, by rw [List.countP_cons_of_neg (by simp [ha]), hcount]⟩

/-- Safety is a matter of counting: before all subscribers have freed the buffer, fewer than `k`
frees must have arrived. -/
lemma InUse.safe_iff (henv : env.FreshIds) (h : InUse env m k s) (hk : 0 < k)
    (events : List Event) :
    Safe env m n s events ↔ ∀ pre post, events = pre ++ post →
      pre.count .subscriberFree < n → pre.countP Event.isFree < k := by
  constructor
  · intro hsafe pre post hsplit hsub
    by_contra hle
    -- at the `k`-th free of the prefix the record is recycled
    obtain ⟨pre₁, e, pre₂, rfl, he, hcount⟩ :=
      exists_split_countP Event.isFree (l := pre) (k := k - 1) (by omega)
    have hbefore := h.playAll henv pre₁ (by omega)
    have hone : k - pre₁.countP Event.isFree = 1 := by omega
    have hgone := (hbefore.free henv).2 hone
    have hsub' : (pre₁ ++ [e]).count .subscriberFree < n := by
      refine lt_of_le_of_lt ?_ hsub
      apply List.Sublist.count_le
      simp
    have hsplit' : events = (pre₁ ++ [e]) ++ (pre₂ ++ post) := by
      rw [hsplit]
      simp
    obtain ⟨r, hr⟩ := hsafe.kept _ _ hsplit' hsub'
    rw [Broker.playAll, List.foldl_append, List.foldl_cons, List.foldl_nil, play_free he] at hr
    have hgone' : (smemfreeCommand env (pre₁.foldl (play env m) s)
        [sdsfromlonglong m]).2.smempubsubMemorys.lookup (sdsfromlonglong m) = none := hgone
    rw [hgone'] at hr
    cases hr
  · intro hfew
    constructor
    · intro pre post hsplit hsub
      obtain ⟨r, hr, -⟩ := (h.playAll henv pre (hfew pre post hsplit hsub)).record
      exact ⟨r, hr⟩
    · intro pre size post hsplit hsub
      exact ((h.playAll henv pre (hfew pre _ hsplit hsub)).get henv size).1

lemma countP_isFree (events : List Event) :
    events.countP Event.isFree
      = events.count .producerFree + events.count .subscriberFree := by
  induction events with
  | nil => rfl
  | cons e events ih =>
    cases e with
    | producerFree =>
      rw [List.countP_cons_of_pos rfl, List.count_cons_self, List.count_cons_of_ne (by decide), ih]
      omega
    | subscriberFree =>
      rw [List.countP_cons_of_pos rfl, List.count_cons_self, List.count_cons_of_ne (by decide), ih]
      omega
    | get size =>
      rw [List.countP_cons_of_neg (by simp [Event.isFree]), List.count_cons_of_ne (by simp),
        List.count_cons_of_ne (by simp), ih]

/-- With one free of the producer and `n` of the subscribers, fewer than `n` frees arrive before
the last subscriber's exactly when the producer's comes after it. -/
lemma frees_lt_iff {events : List Event} (hn : 0 < n) (hprod : events.count .producerFree = 1)
    (hsub : events.count .subscriberFree = n) :
    (∀ pre post, events = pre ++ post → pre.count .subscriberFree < n →
      pre.countP Event.isFree < n) ↔
    ∃ pre post, events = pre ++ .producerFree :: post ∧ pre.count .subscriberFree = n := by
  constructor
  · intro hfew
    have hmem : Event.producerFree ∈ events := List.count_pos_iff.mp (by omega)
    obtain ⟨pre, post, hsplit⟩ := List.append_of_mem hmem
    refine ⟨pre, post, hsplit, ?_⟩
    by_contra hne
    -- the prefix up to the last subscriber's free contains the producer's
    have hcount : pre.count .subscriberFree + post.count .subscriberFree = n := by
      rw [← hsub, hsplit]
      simp
    obtain ⟨post₁, e, post₂, hpost, -, hlast⟩ :=
      exists_split_countP (fun e => e == Event.subscriberFree) (l := post)
        (k := post.count .subscriberFree - 1) (by rw [← List.count]; omega)
    rw [← List.count] at hlast
    have hsub₁ : (pre ++ .producerFree :: post₁).count .subscriberFree = n - 1 := by
      rw [List.count_append, List.count_cons_of_ne (by decide), hlast]
      omega
    have hprod₁ : 0 < (pre ++ .producerFree :: post₁).count .producerFree := by
      rw [List.count_pos_iff]
      simp
    have hfrees := hfew (pre ++ .producerFree :: post₁) (e :: post₂)
      (by rw [hsplit, hpost]; simp) (by omega)
    rw [countP_isFree] at hfrees
    omega
  · rintro ⟨pre, post, hsplit, hall⟩ pre' post' hsplit' hsub'
    have hpre : pre <+: events := ⟨_, hsplit.symm⟩
    have hpre' : pre' <+: events := ⟨_, hsplit'.symm⟩
    rcases List.prefix_or_prefix_of_prefix hpre hpre' with hle | hle
    · have := hle.sublist.count_le Event.subscriberFree
      omega
    · have hnone : pre.count .producerFree = 0 := by
        rw [hsplit] at hprod
        simp only [List.count_append, List.count_cons_self] at hprod
        omega
      have hprod' := hle.sublist.count_le Event.producerFree
      rw [countP_isFree]
      omega

/-- The buffer after `SMEMGET` and `SMEMPUBLISH`: it is in use with a count that is the number
of messages as a 32-bit integer, or it has been recycled because that integer is not positive. -/
lemma inUse_of_publish (henv : env.FreshIds) (h : TableInv env s) {size channel : Sds}
    {pushes : List (ClientId × Reply)} {s₂ : Server}
    (hget : (smemgetCommand env s size).1 = m) (hm : 0 ≤ m)
    (hpub : smempubsubPublishMessage env (smemgetCommand env s size).2 channel
      (sdsfromlonglong m) = .ok (pushes, s₂)) :
    (∃ k : ℕ, 0 < k ∧ (k : ℤ) = (pushes.length : ℤ).bmod (2 ^ 32) ∧ InUse env m k s₂) ∨
    ((pushes.length : ℤ).bmod (2 ^ 32) ≤ 0 ∧
      s₂.smempubsubMemorys.lookup (sdsfromlonglong m) = none) := by
  have ht : TableInv env (smemgetCommand env s size).2 :=
    (TableInv.preserves henv).smemgetCommand henv h
  have ht₂ : TableInv env s₂ := (TableInv.preserves henv).smempubsubPublishMessage ht hpub
  have hrecord : ∃ r, (smemgetCommand env s size).2.smempubsubMemorys.lookup (sdsfromlonglong m)
      = some r ∧ r.cnt = 1 := by
    rcases h.smemgetCommand_spec henv size with ⟨hneg, -⟩ | hout
    · rw [hget] at hneg
      rw [hneg] at hm
      exact absurd hm (by decide)
    · obtain ⟨r, -, hcnt, -, hmem⟩ := hout.memorys
      rw [hget] at hmem
      exact ⟨r, by rw [hmem]; exact AList.lookup_insert _, hcnt⟩
  generalize (smemgetCommand env s size).2 = s₁ at ht hpub hrecord
  obtain ⟨r, hr, hone⟩ := hrecord
  obtain ⟨pushes', hdeliver, hp⟩ := except_bind_eq_ok.mp hpub
  rw [hr] at hp
  have hlen := congrArg List.length (map_fst_deliver hdeliver)
  rw [List.length_map] at hlen
  obtain ⟨rfl, hs₂⟩ : pushes' = pushes ∧ publishCount env s₁ (sdsfromlonglong m) r
      ((s₁.smempubsubChannels.lookup channel).getD []) = s₂ := by
    cases hp
    exact ⟨rfl, rfl⟩
  set receivers := (s₁.smempubsubChannels.lookup channel).getD [] with hreceivers
  set cnt := receivers.foldl (fun cnt _ => cnt + 1) r.cnt - 1 with hcnt
  have hcntInt : cnt.toInt = (pushes'.length : ℤ).bmod (2 ^ 32) := by
    have h1 : (1 : Int32).toInt = 1 := rfl
    rw [hcnt, CountInv.toInt_publish, hone, h1, hlen]
    congr 1
    omega
  have h0 : (0 : Int32).toInt = 0 := rfl
  by_cases hle : cnt ≤ 0
  · right
    refine ⟨?_, ?_⟩
    · rw [← hcntInt, ← h0]
      exact Int32.le_iff_toInt_le.mp hle
    · rw [← hs₂, publishCount, if_pos hle, TableInv.recycle_memorys]
      exact AList.lookup_erase _ _
  · left
    have hpos : 0 < cnt.toInt := by
      rw [← h0]
      exact Int32.lt_iff_toInt_lt.mp (Int32.not_le.mp hle)
    refine ⟨cnt.toInt.toNat, by omega, by omega, ht₂, { r with cnt := cnt }, ?_, ?_⟩
    · rw [← hs₂, publishCount, if_neg hle]
      exact AList.lookup_insert _
    · show cnt.toInt = _
      omega

end Frees

/-- The producers' sequence, from any reachable state: `SMEMGET` answers `m`, `SMEMPUBLISH`
delivers it to `n` subscribers, then the producer frees it once and the subscribers free it once
each, among `SMEMGET`s of others.  It is safe exactly when the producer's free arrives after all
the subscribers' (and `n` fits the count). -/
theorem publish_then_free_safe_iff (henv : env.FreshIds)
    (hreach : (broker env).Reachable (fun _ _ => True) s) {m : Int32} {size channel : Sds}
    {pushes : List (ClientId × Reply)} {s₂ : Server} {n : ℕ} {events : List Event}
    (hget : (smemgetCommand env s size).1 = m) (hm : 0 ≤ m)
    (hpub : smempubsubPublishMessage env (smemgetCommand env s size).2 channel
      (sdsfromlonglong m) = .ok (pushes, s₂))
    (hn : pushes.length = n) (hpos : 1 ≤ n) (hprod : events.count .producerFree = 1)
    (hsub : events.count .subscriberFree = n) :
    Safe env m n s₂ events ↔ n < 2 ^ 31 ∧
      ∃ pre post, events = pre ++ .producerFree :: post ∧ pre.count .subscriberFree = n := by
  have hstate := inUse_of_publish henv (.of_reachable henv hreach) hget hm hpub
  rw [hn] at hstate
  by_cases hlt : n < 2 ^ 31
  · have hbmod : (n : ℤ).bmod (2 ^ 32) = n := Int.bmod_eq_of_le (by omega) (by omega)
    rw [hbmod] at hstate
    rcases hstate with ⟨k, hk, hkn, huse⟩ | ⟨hle, -⟩
    · obtain rfl : k = n := by omega
      rw [huse.safe_iff henv hk, frees_lt_iff hk hprod hsub]
      exact (and_iff_right hlt).symm
    · omega
  · -- the count has wrapped: the record is recycled too early in any order
    simp only [hlt, false_and, iff_false]
    intro hsafe
    rcases hstate with ⟨k, hk, hkn, huse⟩ | ⟨-, hnone⟩
    · have hbound : (n : ℤ).bmod (2 ^ 32) < (2 ^ 32 + 1) / 2 := Int.bmod_lt (by decide)
      rw [huse.safe_iff henv hk] at hsafe
      obtain ⟨pre, e, post, hsplit, -, hcount⟩ :=
        exists_split_countP (fun e => e == Event.subscriberFree) (l := events) (k := n - 1)
          (by rw [← List.count]; omega)
      rw [← List.count] at hcount
      have hfrees := hsafe pre (e :: post) hsplit (by omega)
      rw [countP_isFree] at hfrees
      omega
    · obtain ⟨r, hr⟩ := hsafe.kept [] events rfl (by rw [List.count_nil]; omega)
      have hr' : s₂.smempubsubMemorys.lookup (sdsfromlonglong m) = some r := hr
      rw [hnone] at hr'
      cases hr'

/-- A producer and one subscriber. -/
def oneSubscriber : List Op := [.connect, .connect, .smemsubscribe 2 ["ch"]]

/-- The subscriber frees first. -/
theorem publish_then_free_safe_oneSubscriber :
    ∃ s pushes s₂, (broker sampleEnv).run (initServer 100000) oneSubscriber = some s ∧
      (smemgetCommand sampleEnv s "4096").1 = 2 ∧
      smempubsubPublishMessage sampleEnv (smemgetCommand sampleEnv s "4096").2 "ch"
        (sdsfromlonglong 2) = .ok (pushes, s₂) ∧
      Safe sampleEnv 2 1 s₂ [.subscriberFree, .get "4096", .producerFree] := by
  have hrun : ((broker sampleEnv).run (initServer 100000) oneSubscriber).map
      (fun s => ((smemgetCommand sampleEnv s "4096").1,
        (smempubsubPublishMessage sampleEnv (smemgetCommand sampleEnv s "4096").2 "ch"
          (sdsfromlonglong 2)).toOption.map fun p => p.1.length)) = some (2, some 1) := by decide
  obtain ⟨s, hs, hall⟩ := Option.map_eq_some_iff.mp hrun
  simp only [Prod.mk.injEq] at hall
  obtain ⟨hget, hpub⟩ := hall
  obtain ⟨⟨pushes, s₂⟩, hpub, hlen⟩ := Option.map_eq_some_iff.mp hpub
  rw [except_toOption_eq_some] at hpub
  have hreach : (broker sampleEnv).Reachable (fun _ _ => True) s :=
    .of_run (.init ⟨_, rfl⟩) (by decide) hs
  refine ⟨s, pushes, s₂, hs, hget, hpub, ?_⟩
  exact (publish_then_free_safe_iff sampleEnv_freshIds hreach hget (by decide) hpub hlen
    (by decide) (by decide) (by decide)).mpr
    ⟨by decide, [.subscriberFree, .get "4096"], [], rfl, by decide⟩

/-- The producer frees first: the buffer of the subscriber is handed to the next `SMEMGET`. -/
theorem publish_then_free_unsafe :
    ∃ s pushes s₂, (broker sampleEnv).run (initServer 100000) oneSubscriber = some s ∧
      (smemgetCommand sampleEnv s "4096").1 = 2 ∧
      smempubsubPublishMessage sampleEnv (smemgetCommand sampleEnv s "4096").2 "ch"
        (sdsfromlonglong 2) = .ok (pushes, s₂) ∧ pushes.length = 1 ∧
      ¬ Safe sampleEnv 2 1 s₂ [.producerFree, .get "4096", .subscriberFree] := by
  have hrun : ((broker sampleEnv).run (initServer 100000) oneSubscriber).map
      (fun s => ((smemgetCommand sampleEnv s "4096").1,
        (smempubsubPublishMessage sampleEnv (smemgetCommand sampleEnv s "4096").2 "ch"
          (sdsfromlonglong 2)).toOption.map fun p => (p.1.length,
            (smemgetCommand sampleEnv (playAll sampleEnv 2 p.2 [.producerFree]) "4096").1)))
      = some (2, some (1, 2)) := by decide
  obtain ⟨s, hs, hall⟩ := Option.map_eq_some_iff.mp hrun
  simp only [Prod.mk.injEq] at hall
  obtain ⟨hget, hpub⟩ := hall
  obtain ⟨⟨pushes, s₂⟩, hpub, hnext⟩ := Option.map_eq_some_iff.mp hpub
  rw [except_toOption_eq_some] at hpub
  simp only [Prod.mk.injEq] at hnext
  refine ⟨s, pushes, s₂, hs, hget, hpub, hnext.1, fun hsafe => ?_⟩
  exact hsafe.withheld [.producerFree] "4096" [.subscriberFree] rfl (by decide) hnext.2

end SelfTestCode.Broker
