import SelfTestCode.Device.Ownership

/-!
# The timeout of the two wait loops

`get_stream_info` and `ff_smem_read_packet` poll the queue of the client until a segment is there.
After each poll of an empty queue they compare the time since the call with the option `timeout`,
which is in seconds.  The product `ctx->timeout*1000000` is an `int`; the time is 64 bits wide.

A call is run on the turns of its loop.  The replies that the callback handles before a turn, what
the system answers in it and the time that its clock check would read are given with the turn.  The
result has the readings that were used, so that a property of a call speaks of its clock checks.
-/

namespace SelfTestCode.Device

open Client (SmemContext)

/-- What `av_gettime_relative` returns: microseconds since some starting point. -/
structure ClockReading where
  time : Int64
  nonneg : 0 ≤ time

/-- `av_gettime_relative() - last_time > ctx->timeout*1000000`. -/
def timedOut (timeout : Int32) (lastTime now : ClockReading) : Bool :=
  (timeout * 1000000).toInt64 < now.time - lastTime.time

/-- What happens in a turn of a loop. -/
structure Turn where
  /-- Handled by the callback of the client before the queue is polled. -/
  replies : List Broker.Reply
  answers : Answers
  shmdt : Bool
  now : ClockReading

/-- How a call of one of the two functions ends. -/
inductive Ended
  /-- It is still waiting after the last turn. -/
  | waiting
  /-- It returned `-1` at a clock check. -/
  | gaveUp
  /-- It returned `-1` because of a segment. -/
  | failed
  /-- It returned 0. -/
  | done
  /-- It read outside a segment. -/
  | fault
  deriving DecidableEq

def arrive (sctx : SmemContext) (replies : List Broker.Reply) : SmemContext :=
  replies.foldl (fun c r => (Client.subCallback c (some r)).1) sctx

/-- The loop of `get_stream_info`: the readings of its clock checks, and its end. -/
def waitForStreamInfo (timeout : Int32) (lastTime : ClockReading) (ctx : SmemDecCtx) :
    SmemContext → List Turn → List ClockReading × Ended
  | _, [] => ([], .waiting)
  | sctx, turn :: turns =>
    let (memId, sctx) := Client.smemGetShareMemory (fun _ => none) (arrive sctx turn.replies) 0
    if memId ≠ -1 then
      match turn.answers.shmat with
      | none => ([], .failed)
      | some segment =>
        match getStreamInfo ctx segment with
        | none => ([], .fault)
        | some _ => if turn.shmdt then ([], .done) else ([], .failed)
    else if timedOut timeout lastTime turn.now then ([turn.now], .gaveUp)
    else
      let (readings, ended) := waitForStreamInfo timeout lastTime ctx sctx turns
      (turn.now :: readings, ended)

section ReadPacket

variable (avRescaleQ : Int64 → AVRational → AVRational → Int64)

/-- Whether the loop of `ff_smem_read_packet` goes on after a segment. -/
def continues (ctx : SmemDecCtx) (answers : Answers) : Bool :=
  match answers.shmat with
  | none => true
  | some segment =>
    match receive avRescaleQ answers.smemQueueSize ctx segment with
    | some (_, .emitted _) => false
    | _ => true

/-- The loop of `ff_smem_read_packet`: the readings of its clock checks, and its end. -/
def waitForPacket (timeout : Int32) (lastTime : ClockReading) :
    Demuxer → List Turn → List ClockReading × Ended
  | _, [] => ([], .waiting)
  | d, turn :: turns =>
    let d₁ := { d with sctx := arrive d.sctx turn.replies }
    match d₁.turn avRescaleQ turn.answers with
    | none => ([], .fault)
    | some d₂ =>
      if (Client.smemGetShareMemory (fun _ => none) d₁.sctx 0).1 ≠ -1 then
        if continues avRescaleQ d₁.ctx turn.answers then waitForPacket timeout lastTime d₂ turns
        else ([], if turn.answers.avMallocz then .done else .failed)
      else if timedOut timeout lastTime turn.now then ([turn.now], .gaveUp)
      else
        let (readings, ended) := waitForPacket timeout lastTime d₂ turns
        (turn.now :: readings, ended)

end ReadPacket

/-! ## The timeout as the option has it -/

/-- More than `timeout` seconds have passed. -/
def Passed (timeout : Int32) (lastTime now : ClockReading) : Prop :=
  timeout.toInt * 1000000 < now.time.toInt - lastTime.time.toInt

instance (timeout : Int32) (lastTime now : ClockReading) :
    Decidable (Passed timeout lastTime now) := inferInstanceAs (Decidable (_ < _))

/-- A call went on at every clock check but the last, and gave up there if and only if the timeout
has passed. -/
structure OnTime (timeout : Int32) (lastTime : ClockReading) (call : List ClockReading × Ended) :
    Prop where
  goesOn : ∀ now ∈ call.1.dropLast, ¬ Passed timeout lastTime now
  gaveUp_iff : call.2 = .gaveUp ↔ ∃ now ∈ call.1.getLast?, Passed timeout lastTime now

/-- Every call of the two functions is on time. -/
structure MeansSeconds (avRescaleQ : Int64 → AVRational → AVRational → Int64) (timeout : Int32) :
    Prop where
  getStreamInfo : ∀ lastTime ctx sctx turns,
    OnTime timeout lastTime (waitForStreamInfo timeout lastTime ctx sctx turns)
  readPacket : ∀ lastTime d turns,
    OnTime timeout lastTime (waitForPacket avRescaleQ timeout lastTime d turns)

/-! ## The comparison -/

section Comparison

variable {timeout : Int32} {lastTime now : ClockReading}

lemma ClockReading.toInt_nonneg (c : ClockReading) : 0 ≤ c.time.toInt :=
  Int64.le_iff_toInt_le.mp c.nonneg

/-- The product wraps around in 32 bits; the difference of two readings does not wrap. -/
lemma timedOut_iff : timedOut timeout lastTime now = true ↔
    (timeout.toInt * 1000000).bmod (2 ^ 32) < now.time.toInt - lastTime.time.toInt := by
  have hmul : (timeout * 1000000).toInt = (timeout.toInt * 1000000).bmod (2 ^ 32) :=
    Int32.toInt_mul timeout 1000000
  have hsub : (now.time - lastTime.time).toInt = now.time.toInt - lastTime.time.toInt := by
    have hnow := now.toInt_nonneg
    have hlast := lastTime.toInt_nonneg
    have hnow' := now.time.toInt_lt
    have hlast' := lastTime.time.toInt_lt
    rw [Int64.toInt_sub]
    exact Int.bmod_eq_of_le (by omega) (by omega)
  rw [timedOut, decide_eq_true_iff, Int64.lt_iff_toInt_lt, Int32.toInt_toInt64, hmul, hsub]

/-- The product fits. -/
lemma bmod_eq_iff {t : ℤ} : (t * 1000000).bmod (2 ^ 32) = t * 1000000 ↔ -2147 ≤ t ∧ t ≤ 2147 := by
  rw [Int.bmod_eq_iff (by decide)]
  constructor
  · rintro ⟨hlow, hhigh, -⟩
    omega
  · rintro ⟨hlow, hhigh⟩
    exact ⟨by omega, by omega, ⟨0, by ring⟩⟩

end Comparison

/-! ## Runs of the loops -/

section Runs

variable {avRescaleQ : Int64 → AVRational → AVRational → Int64} {timeout : Int32}
  {lastTime : ClockReading}

/-- A call that made no clock check did not give up. -/
lemma OnTime.of_nil {ended : Ended} (h : ended ≠ .gaveUp) :
    OnTime timeout lastTime ([], ended) where
  goesOn := by simp
  gaveUp_iff := by simp [h]

/-- A call that gave up at its first check. -/
lemma OnTime.of_passed {now : ClockReading} (h : Passed timeout lastTime now) :
    OnTime timeout lastTime ([now], .gaveUp) where
  goesOn := by simp
  gaveUp_iff := by simp [h]

/-- A call that went on at a check. -/
lemma OnTime.cons {now : ClockReading} {readings : List ClockReading} {ended : Ended}
    (h : ¬ Passed timeout lastTime now) (hrest : OnTime timeout lastTime (readings, ended)) :
    OnTime timeout lastTime (now :: readings, ended) := by
  cases readings with
  | nil =>
    refine ⟨by simp, ?_⟩
    rw [hrest.gaveUp_iff]
    simp [h]
  | cons first readings =>
    refine ⟨?_, ?_⟩
    · intro now' hmem
      rw [List.dropLast_cons_cons, List.mem_cons] at hmem
      rcases hmem with rfl | hmem
      · exact h
      · exact hrest.goesOn now' hmem
    · rw [hrest.gaveUp_iff, List.getLast?_cons_cons]

variable (hcheck : ∀ now, timedOut timeout lastTime now = true ↔ Passed timeout lastTime now)
include hcheck

/-- If the comparison is right, so is every call of `get_stream_info`. -/
lemma onTime_waitForStreamInfo (ctx : SmemDecCtx) (sctx : SmemContext) (turns : List Turn) :
    OnTime timeout lastTime (waitForStreamInfo timeout lastTime ctx sctx turns) := by
  induction turns generalizing sctx with
  | nil => exact .of_nil (by decide)
  | cons turn turns ih =>
    rw [waitForStreamInfo]
    dsimp only
    split
    · split
      · exact .of_nil (by decide)
      · split
        · exact .of_nil (by decide)
        · split <;> exact .of_nil (by decide)
    · split
      · exact .of_passed ((hcheck _).mp ‹_›)
      · rename_i hgoesOn
        exact .cons (mt (hcheck _).mpr hgoesOn) (ih _)

/-- If the comparison is right, so is every call of `ff_smem_read_packet`. -/
lemma onTime_waitForPacket (d : Demuxer) (turns : List Turn) :
    OnTime timeout lastTime (waitForPacket avRescaleQ timeout lastTime d turns) := by
  induction turns generalizing d with
  | nil => exact .of_nil (by decide)
  | cons turn turns ih =>
    rw [waitForPacket]
    dsimp only
    split
    · exact .of_nil (by decide)
    · split
      · split
        · exact ih _
        · split <;> exact .of_nil (by decide)
      · split
        · exact .of_passed ((hcheck _).mp ‹_›)
        · rename_i hgoesOn
          exact .cons (mt (hcheck _).mpr hgoesOn) (ih _)

end Runs

/-! ## The condition -/

section Condition

variable {avRescaleQ : Int64 → AVRational → AVRational → Int64} {timeout : Int32}

/-- A turn in which nothing arrives. -/
def quietTurn (now : ClockReading) : Turn := ⟨[], ⟨none, 0, true⟩, true, now⟩

/-- With an empty queue, `get_stream_info` gives up in its first turn if the comparison says so. -/
lemma gaveUp_quietTurn (lastTime now : ClockReading) :
    waitForStreamInfo timeout lastTime .zero Client.smemCreateConsumer [quietTurn now]
      = ([now], if timedOut timeout lastTime now then .gaveUp else .waiting) := by
  have hget : Client.smemGetShareMemory (fun _ => none)
      (arrive Client.smemCreateConsumer (quietTurn now).replies) 0
        = (-1, Client.smemCreateConsumer) := rfl
  have hnow : (quietTurn now).now = now := rfl
  simp only [waitForStreamInfo, hget, ne_eq, not_true_eq_false, if_false, hnow]
  split <;> rfl

/-- Every reading that the comparison gets wrong is one of a call. -/
lemma MeansSeconds.timedOut_iff_passed (h : MeansSeconds avRescaleQ timeout)
    (lastTime now : ClockReading) :
    timedOut timeout lastTime now = true ↔ Passed timeout lastTime now := by
  have hcall := (h.getStreamInfo lastTime .zero Client.smemCreateConsumer
    [quietTurn now]).gaveUp_iff
  rw [gaveUp_quietTurn] at hcall
  simpa using hcall

/-- Two readings with a given difference. -/
lemma exists_readings {δ : ℤ} (hlow : -2 ^ 63 < δ) (hhigh : δ < 2 ^ 63) :
    ∃ lastTime now : ClockReading, now.time.toInt - lastTime.time.toInt = δ := by
  have hof : ∀ n : ℤ, 0 ≤ n → n < 2 ^ 63 → ∃ c : ClockReading, c.time.toInt = n := by
    intro n hn hlt
    have htoInt : (Int64.ofInt n).toInt = n := Int64.toInt_ofInt_of_le (by omega) (by omega)
    exact ⟨⟨Int64.ofInt n, Int64.le_iff_toInt_le.mpr (by rw [htoInt]; exact hn)⟩, htoInt⟩
  rcases le_total 0 δ with hδ | hδ
  · obtain ⟨lastTime, hlast⟩ := hof 0 (by omega) (by omega)
    obtain ⟨now, hnow⟩ := hof δ hδ hhigh
    exact ⟨lastTime, now, by omega⟩
  · obtain ⟨lastTime, hlast⟩ := hof (-δ) (by omega) (by omega)
    obtain ⟨now, hnow⟩ := hof 0 (by omega) (by omega)
    exact ⟨lastTime, now, by omega⟩

/-- The option means seconds exactly from -2147 to 2147: these are the values whose product with a
million is an `int`. -/
theorem meansSeconds_iff :
    MeansSeconds avRescaleQ timeout ↔ -2147 ≤ timeout.toInt ∧ timeout.toInt ≤ 2147 := by
  constructor
  · intro h
    rw [← bmod_eq_iff]
    by_contra hwrap
    -- a difference between the product and what is left of it in 32 bits
    have hlow := timeout.le_toInt
    have hhigh := timeout.toInt_lt
    have hbmod := Int.le_bmod (x := timeout.toInt * 1000000) (m := 2 ^ 32) (by decide)
    have hbmod' := Int.bmod_lt (x := timeout.toInt * 1000000) (m := 2 ^ 32) (by decide)
    set product := timeout.toInt * 1000000 with hproduct
    set wrapped := product.bmod (2 ^ 32) with hwrapped
    obtain ⟨lastTime, now, hδ⟩ := exists_readings (δ := max product wrapped) (by omega) (by omega)
    have hiff := h.timedOut_iff_passed lastTime now
    rw [timedOut_iff, Passed, hδ, ← hproduct, ← hwrapped] at hiff
    omega
  · intro hrange
    have hcheck : ∀ lastTime now,
        timedOut timeout lastTime now = true ↔ Passed timeout lastTime now := by
      intro lastTime now
      rw [timedOut_iff, bmod_eq_iff.mpr hrange, Passed]
    exact ⟨fun lastTime => onTime_waitForStreamInfo (hcheck lastTime),
      fun lastTime => onTime_waitForPacket (hcheck lastTime)⟩

end Condition

/-- With 2148 seconds the product is negative, and the first clock check ends the call. -/
theorem meansSeconds_fails : ¬ MeansSeconds avRescaleQ 2148 := by
  intro h
  have hiff := h.timedOut_iff_passed ⟨0, by decide⟩ ⟨40000, by decide⟩
  exact absurd (hiff.mp (by decide)) (by decide)

end SelfTestCode.Device
