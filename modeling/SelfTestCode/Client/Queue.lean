import SelfTestCode.Client.Consumer

/-!
# The queue of the consumer library

`smem_queue_push` and `smem_queue_pop` on the array of 256 cells behave as a bounded queue of 255
entries, over any number of calls.
-/

namespace SelfTestCode.Client

/-- The queue of a context that was just created. -/
structure FreshQueue (c : SmemContext) : Prop where
  length : c.queue.length = smemMaxQueueLength
  head : c.queueHead = 0
  tail : c.queueEnd = 0

/-- One call of `smem_queue_push` or `smem_queue_pop`. -/
def queueStep (c : SmemContext) : Fifo.Op Int32 → Fifo.Answer Int32 × SmemContext
  | .push val => (.pushed (smemQueuePush c val).1, (smemQueuePush c val).2)
  | .pop => (.popped (smemQueuePop c).1, (smemQueuePop c).2)

section Queue

variable {c : SmemContext}

lemma FreshQueue.valid (h : FreshQueue c) : Valid c where
  length := h.length
  head := by rw [h.head]; decide
  tail := by rw [h.tail]; decide

lemma FreshQueue.contents (h : FreshQueue c) : contents c = [] := by
  rw [← h.valid.queueEmpty_iff, queueEmpty, h.head, h.tail]
  rfl

/-- A push that is refused changes nothing. -/
lemma smemQueuePush_of_full (hfull : queueFull c = true) (val : Int32) :
    smemQueuePush c val = (false, c) := if_pos hfull

/-- A pop from an empty queue changes nothing. -/
lemma smemQueuePop_of_empty (hempty : queueEmpty c = true) : smemQueuePop c = (none, c) :=
  if_pos hempty

/-- Each call agrees with the bounded queue. -/
lemma Valid.queueStep (h : Valid c) (op : Fifo.Op Int32) :
    Valid (queueStep c op).2 ∧
      ((queueStep c op).1, Client.contents (queueStep c op).2)
        = Fifo.step 255 (Client.contents c) op := by
  cases op with
  | push val =>
    rw [Fifo.step]
    by_cases hlength : (Client.contents c).length = 255
    · rw [if_pos hlength, Client.queueStep, smemQueuePush_of_full (h.queueFull_iff.mpr hlength)]
      exact ⟨h, rfl⟩
    · obtain ⟨haccepted, hvalid, hcontents, -⟩ := h.push val hlength
      rw [if_neg hlength, Client.queueStep, haccepted, hcontents]
      exact ⟨hvalid, rfl⟩
  | pop =>
    rw [Fifo.step]
    cases hentries : Client.contents c with
    | nil =>
      rw [Client.queueStep, smemQueuePop_of_empty (h.queueEmpty_iff.mpr hentries), hentries]
      exact ⟨h, rfl⟩
    | cons val rest =>
      obtain ⟨hval, hvalid, hcontents, -⟩ := h.pop hentries
      rw [Client.queueStep, hval, hcontents]
      exact ⟨hvalid, rfl⟩

/-- Every sequence of calls on a fresh queue gives the answers of a bounded queue of 255 entries.
After it the indices are in range, the entries from head to end are those accepted and not yet
taken, in their order; the next push is refused exactly if there are 255, the next pop fails
exactly if there is none, and neither changes anything then; and the size is their number. -/
theorem queue_refines_bounded_fifo (h : FreshQueue c) {ops : List (Fifo.Op Int32)}
    {answers : List (Fifo.Answer Int32)} {c' : SmemContext}
    (hrun : Fifo.run queueStep c ops = (answers, c')) :
    (answers, contents c') = Fifo.run (Fifo.step 255) [] ops ∧
    c'.queueHead < smemMaxQueueLength ∧ c'.queueEnd < smemMaxQueueLength ∧
    Fifo.accepted ops answers = Fifo.taken answers ++ contents c' ∧
    (contents c').length ≤ 255 ∧
    (∀ val, ((smemQueuePush c' val).1 = false ↔ (contents c').length = 255) ∧
      ((smemQueuePush c' val).1 = false → (smemQueuePush c' val).2 = c')) ∧
    ((smemQueuePop c').1 = none ↔ contents c' = []) ∧
    ((smemQueuePop c').1 = none → (smemQueuePop c').2 = c') ∧
    smemQueueSize c' = (contents c').length := by
  have hstep : ∀ s op, Valid s → Valid (queueStep s op).2 ∧
      ((queueStep s op).1, contents (queueStep s op).2) = Fifo.step 255 (contents s) op :=
    fun _ op hvalid => hvalid.queueStep op
  obtain ⟨hvalid, hanswers, hcontents⟩ := Fifo.simulates 255 hstep h.valid ops
  rw [hrun] at hvalid hanswers hcontents
  dsimp only at hvalid hanswers hcontents
  rw [h.contents] at hanswers hcontents
  have haccepted : Fifo.accepted ops answers = Fifo.taken answers ++ contents c' := by
    rw [hanswers, hcontents, Fifo.run_accepted, List.nil_append]
  have hbound : (contents c').length ≤ 255 := by
    rw [hcontents]
    exact Fifo.length_run_le 255 (by simp) ops
  have hpush : ∀ val, ((smemQueuePush c' val).1 = false ↔ (contents c').length = 255) := by
    intro val
    constructor
    · intro hrefused
      by_contra hroom
      rw [(hvalid.push val hroom).1] at hrefused
      cases hrefused
    · intro hfull
      rw [smemQueuePush_of_full (hvalid.queueFull_iff.mpr hfull)]
  have hpop : (smemQueuePop c').1 = none ↔ contents c' = [] := by
    constructor
    · intro hfailed
      by_contra hentries
      obtain ⟨val, rest, hcons⟩ := List.exists_cons_of_ne_nil hentries
      rw [(hvalid.pop hcons).1] at hfailed
      cases hfailed
    · intro hempty
      rw [smemQueuePop_of_empty (hvalid.queueEmpty_iff.mpr hempty)]
  refine ⟨Prod.ext hanswers hcontents, hvalid.head, hvalid.tail, haccepted, hbound, ?_, hpop, ?_,
    hvalid.smemQueueSize_eq⟩
  · intro val
    refine ⟨hpush val, fun hrefused => ?_⟩
    have hfull := hvalid.queueFull_iff.mpr ((hpush val).mp hrefused)
    rw [smemQueuePush_of_full hfull]
  · intro hfailed
    rw [smemQueuePop_of_empty (hvalid.queueEmpty_iff.mpr (hpop.mp hfailed))]

end Queue

theorem queue_refines_bounded_fifo_pushPop :
    ∃ answers c', Fifo.run queueStep smemCreateConsumer [.push 7, .push 9, .pop] = (answers, c') ∧
      contents c' = [9] := by
  have hfresh : FreshQueue smemCreateConsumer := ⟨List.length_replicate, rfl, rfl⟩
  obtain ⟨answers, c', hrun⟩ : ∃ answers c',
      Fifo.run queueStep smemCreateConsumer [.push 7, .push 9, .pop] = (answers, c') := ⟨_, _, rfl⟩
  exact ⟨answers, c', hrun, congrArg Prod.snd (queue_refines_bounded_fifo hfresh hrun).1⟩

end SelfTestCode.Client
