import SelfTestCode.Device.Timestamps

/-!
# Who gives a segment back

Each id that `ff_smem_read_packet` takes from the queue of the client stands for one reference that
the server counts, and has to be given back by one `SMEMFREE`.  The loop does it at once for a
segment that it cannot attach or does not want.  For a packet that it hands out the reference
travels with the `AVBuffer`: `ff_smem_av_buffer_free` reads the id back from the header in the
shared memory when the caller drops the last reference.

The demuxer here is a system of three kinds of events: a reply reaches the callback of the client,
the loop makes a turn, and a buffer is freed.  Ids may repeat, so pops are counted, and what is
held and what was freed carries the number of its pop.
-/

namespace SelfTestCode.Device

open Client (SmemContext Running)

/-! ## The demuxer and its packets -/

/-- A packet with a live `AVBuffer`: the pop that gave its id, and the id of its segment. -/
structure Held where
  pop : ℕ
  segment : Int32
  deriving DecidableEq

/-- An `SMEMFREE` that was sent, and the pop it belongs to. -/
structure Freed where
  pop : ℕ
  id : Int32
  deriving DecidableEq

/-- The two contexts; the ids popped so far, the packets the caller holds, and the `SMEMFREE`s
sent. -/
structure Demuxer where
  sctx : SmemContext
  ctx : SmemDecCtx
  popped : List Int32
  held : List Held
  freed : List Freed

/-- What the system answers in a turn: what `shmat` attaches, the size of the queue when
`if_free_frame` asks for it, and whether the allocations for the packet succeed; the call returns
at the first that does not. -/
structure Answers where
  shmat : Option (List UInt8)
  smemQueueSize : ℤ
  avMallocz : Bool

/-- A call of `smemFreeShareMemory`. -/
def Demuxer.free (d : Demuxer) (pop : ℕ) (id : Int32) : Demuxer :=
  { d with freed := d.freed ++ (Client.smemFreeShareMemory d.sctx id).toList.map fun id => ⟨pop, id⟩ }

/-- One turn of the loop of `ff_smem_read_packet`. -/
def Demuxer.turn (avRescaleQ : Int64 → AVRational → AVRational → Int64) (d : Demuxer)
    (answers : Answers) : Option Demuxer :=
  let (memId, sctx) := Client.smemGetShareMemory (fun _ => none) d.sctx 0
  if memId = -1 then some { d with sctx := sctx }
  else
    let pop := d.popped.length
    let d := { d with sctx := sctx, popped := d.popped ++ [memId] }
    match answers.shmat with
    | none => some (d.free pop memId)
    | some segment => do
      let (ctx, received) ← receive avRescaleQ answers.smemQueueSize d.ctx segment
      let d := { d with ctx := ctx }
      match received with
      | .skipped => return d.free pop memId
      | .dropped => return d.free pop memId
      | .emitted _ =>
        return if answers.avMallocz then { d with held := d.held ++ [⟨pop, memId⟩] } else d

/-- `ff_smem_av_buffer_free`, for packet number `k` of those held; `segment` is what its shared
memory contains by now. -/
def Demuxer.ffSmemAvBufferFree (d : Demuxer) (k : ℕ) (segment : List UInt8) (shmdt : Bool) :
    Option Demuxer := do
  let packet ← d.held[k]?
  let info ← MemoryInfo.read segment
  let d := { d with held := d.held.eraseIdx k }
  return if shmdt then d.free packet.pop info.id else d

inductive Event
  | reply (r : Broker.Reply)
  | turn (answers : Answers)
  | bufferFree (k : ℕ) (segment : List UInt8) (shmdt : Bool)

/-- Any order of the three, from a client that runs and a context with its table. -/
def demuxer (avRescaleQ : Int64 → AVRational → AVRational → Int64) : System Demuxer Event where
  Init d := Running d.sctx ∧ Ready d.ctx ∧ d.popped = [] ∧ d.held = [] ∧ d.freed = []
  step d
    | .reply r => some { d with sctx := (Client.subCallback d.sctx (some r)).1 }
    | .turn answers => d.turn avRescaleQ answers
    | .bufferFree k segment shmdt => d.ffSmemAvBufferFree k segment shmdt

/-- Allocations and `shmdt` succeed, and the header in the memory of a packet has the id of its
segment. -/
def Trusted (d : Demuxer) : Event → Prop
  | .reply _ => True
  | .turn answers => answers.avMallocz = true
  | .bufferFree k segment shmdt => shmdt = true ∧
      ∀ packet ∈ d.held[k]?, ∀ info ∈ MemoryInfo.read segment, info.id = packet.segment

instance (d : Demuxer) : (e : Event) → Decidable (Trusted d e)
  | .reply _ => isTrue trivial
  | .turn answers => inferInstanceAs (Decidable (answers.avMallocz = true))
  | .bufferFree k segment shmdt => inferInstanceAs (Decidable (shmdt = true ∧
      ∀ packet ∈ d.held[k]?, ∀ info ∈ MemoryInfo.read segment, info.id = packet.segment))

/-! ## One event -/

/-- The fate of the frame that a turn has popped: it is not wanted if it cannot be attached, or if
`rebuild_timestamp` or `if_free_frame` reject it. -/
def Rejected (rescale : Int64 → AVRational → AVRational → Int64) (d : Demuxer)
    (answers : Answers) : Prop :=
  answers.shmat = none ∨ ∃ segment ctx received, answers.shmat = some segment ∧
    receive rescale answers.smemQueueSize d.ctx segment = some (ctx, received) ∧
    received.packet = none

/-- What an event does to the references. -/
def Effect (rescale : Int64 → AVRational → AVRational → Int64) (d d' : Demuxer) : Event → Prop
  | .reply _ => d'.popped = d.popped ∧ d'.freed = d.freed ∧ d'.held = d.held
  | .turn answers =>
    (Client.contents d.sctx = [] ∧ d'.popped = d.popped ∧ d'.freed = d.freed ∧ d'.held = d.held) ∨
    ∃ id rest, Client.contents d.sctx = id :: rest ∧ d'.popped = d.popped ++ [id] ∧
      ((Rejected rescale d answers ∧ d'.freed = d.freed ++ [⟨d.popped.length, id⟩] ∧
          d'.held = d.held) ∨
        (¬ Rejected rescale d answers ∧ d'.freed = d.freed ∧
          d'.held = d.held ++ [⟨d.popped.length, id⟩]))
  | .bufferFree k _ _ => ∃ packet, d.held[k]? = some packet ∧ d'.popped = d.popped ∧
      d'.freed = d.freed ++ [⟨packet.pop, packet.segment⟩] ∧ d'.held = d.held.eraseIdx k

/-- Every pop is either freed or held, once, under its own id. -/
structure Ledger (d : Demuxer) : Prop where
  once : (d.freed.map Freed.pop ++ d.held.map Held.pop).Perm (List.range d.popped.length)
  freed : ∀ f ∈ d.freed, d.popped[f.pop]? = some f.id
  held : ∀ p ∈ d.held, d.popped[p.pop]? = some p.segment

/-- The ids are those of a running client. -/
structure Sound (d : Demuxer) : Prop where
  running : Running d.sctx
  ready : Ready d.ctx
  positive : ∀ p ∈ d.held, 0 < p.segment

section Step

variable {rescale : Int64 → AVRational → AVRational → Int64} {d d' : Demuxer}

lemma Demuxer.free_eq (h : Running d.sctx) {id : Int32} (hpos : 0 < id) (pop : ℕ) :
    d.free pop id = { d with freed := d.freed ++ [⟨pop, id⟩] } := by
  rw [Demuxer.free, h.free hpos]
  rfl

/-- A turn gives the id it pops back at once, or hands it out with a packet. -/
lemma Sound.turn (h : Sound d) {answers : Answers} (hok : answers.avMallocz = true)
    (hturn : d.turn rescale answers = some d') :
    Sound d' ∧ Effect rescale d d' (.turn answers) := by
  rcases h.running.get with ⟨hempty, hget⟩ | ⟨id, rest, sctx, hcontents, hget, hpos, hne, hrun, -⟩
  · simp only [Demuxer.turn, hget, if_true] at hturn
    obtain rfl := Option.some.inj hturn
    exact ⟨h, Or.inl ⟨hempty, rfl, rfl, rfl⟩⟩
  · simp only [Demuxer.turn, hget, hne, if_false] at hturn
    cases hshmat : answers.shmat with
    | none =>
      rw [hshmat] at hturn
      obtain rfl := Option.some.inj hturn
      rw [Demuxer.free_eq hrun hpos]
      refine ⟨⟨hrun, h.ready, h.positive⟩, Or.inr ⟨id, rest, hcontents, rfl, Or.inl ⟨?_, rfl, rfl⟩⟩⟩
      exact Or.inl hshmat
    | some segment =>
      simp only [hshmat] at hturn
      obtain ⟨⟨ctx, received⟩, hreceive, hturn⟩ := Option.bind_eq_some_iff.mp hturn
      have hready : Ready ctx := h.ready.same (h.ready.receive_sameTable hreceive)
      have hrejected : received.packet = none → Rejected rescale d answers := fun hnone =>
        Or.inr ⟨segment, ctx, received, hshmat, hreceive, hnone⟩
      cases received with
      | skipped =>
        obtain rfl := Option.some.inj hturn
        rw [Demuxer.free_eq hrun hpos]
        exact ⟨⟨hrun, hready, h.positive⟩,
          Or.inr ⟨id, rest, hcontents, rfl, Or.inl ⟨hrejected rfl, rfl, rfl⟩⟩⟩
      | dropped =>
        obtain rfl := Option.some.inj hturn
        rw [Demuxer.free_eq hrun hpos]
        exact ⟨⟨hrun, hready, h.positive⟩,
          Or.inr ⟨id, rest, hcontents, rfl, Or.inl ⟨hrejected rfl, rfl, rfl⟩⟩⟩
      | emitted pkt =>
        simp only [hok, if_true] at hturn
        obtain rfl := Option.some.inj hturn
        refine ⟨⟨hrun, hready, ?_⟩, Or.inr ⟨id, rest, hcontents, rfl, Or.inr ⟨?_, rfl, rfl⟩⟩⟩
        · intro p hp
          rcases List.mem_append.mp hp with hp | hp
          · exact h.positive p hp
          · rw [List.mem_singleton.mp hp]
            exact hpos
        · rintro (hnone | ⟨segment', ctx', received', hshmat', hreceive', hnone⟩)
          · rw [hnone] at hshmat
            cases hshmat
          · rw [hshmat'] at hshmat
            obtain rfl := Option.some.inj hshmat
            rw [hreceive'] at hreceive
            obtain ⟨-, rfl⟩ := Prod.mk.inj (Option.some.inj hreceive)
            cases hnone

/-- A freed buffer gives back the id of its segment. -/
lemma Sound.bufferFree (h : Sound d) {k : ℕ} {segment : List UInt8} {shmdt : Bool}
    (hok : Trusted d (.bufferFree k segment shmdt))
    (hfree : d.ffSmemAvBufferFree k segment shmdt = some d') :
    Sound d' ∧ Effect rescale d d' (.bufferFree k segment shmdt) := by
  obtain ⟨rfl, hid⟩ := hok
  obtain ⟨packet, hpacket, hfree⟩ := Option.bind_eq_some_iff.mp hfree
  obtain ⟨info, hinfo, hfree⟩ := Option.bind_eq_some_iff.mp hfree
  have hpos : 0 < packet.segment := h.positive packet (List.mem_of_getElem? hpacket)
  simp only [hid packet hpacket info hinfo, if_true] at hfree
  obtain rfl := Option.some.inj hfree
  rw [Demuxer.free_eq (by exact h.running) hpos]
  refine ⟨⟨h.running, h.ready, ?_⟩, packet, hpacket, rfl, rfl, rfl⟩
  intro p hp
  exact h.positive p (List.mem_of_mem_eraseIdx hp)

lemma Sound.step (h : Sound d) {e : Event} (hok : Trusted d e)
    (hstep : (demuxer rescale).step d e = some d') : Sound d' ∧ Effect rescale d d' e := by
  cases e with
  | reply r =>
    obtain rfl := Option.some.inj hstep
    exact ⟨⟨h.running.subCallback (some r), h.ready, h.positive⟩, rfl, rfl, rfl⟩
  | turn answers => exact h.turn hok hstep
  | bufferFree k segment shmdt => exact h.bufferFree hok hstep

/-- A pop that is freed or handed out at once is in the ledger. -/
lemma Ledger.pop (h : Ledger d) {id : Int32} (hpopped : d'.popped = d.popped ++ [id])
    (hcase : (d'.freed = d.freed ++ [⟨d.popped.length, id⟩] ∧ d'.held = d.held) ∨
      (d'.freed = d.freed ∧ d'.held = d.held ++ [⟨d.popped.length, id⟩])) : Ledger d' := by
  have hold : ∀ {n : ℕ} {x : Int32}, d.popped[n]? = some x → d'.popped[n]? = some x := by
    intro n x hx
    have hlt := (List.getElem?_eq_some_iff.mp hx).1
    rw [hpopped, List.getElem?_append_left hlt]
    exact hx
  have hnew : d'.popped[d.popped.length]? = some id := by
    rw [hpopped]
    exact List.getElem?_concat_length
  have hrange : List.range d'.popped.length = List.range d.popped.length ++ [d.popped.length] := by
    rw [hpopped, List.length_append, List.length_singleton, List.range_succ]
  rcases hcase with ⟨hfreed, hheld⟩ | ⟨hfreed, hheld⟩
  · refine ⟨?_, ?_, ?_⟩
    · rw [hfreed, hheld, hrange, List.map_append, List.append_assoc]
      refine List.Perm.trans (List.Perm.append_left _ List.perm_append_comm) ?_
      rw [← List.append_assoc]
      exact h.once.append_right _
    · rw [hfreed]
      intro f hf
      rcases List.mem_append.mp hf with hf | hf
      · exact hold (h.freed f hf)
      · rw [List.mem_singleton.mp hf]
        exact hnew
    · rw [hheld]
      exact fun p hp => hold (h.held p hp)
  · refine ⟨?_, ?_, ?_⟩
    · rw [hfreed, hheld, hrange, List.map_append, ← List.append_assoc]
      exact h.once.append_right _
    · rw [hfreed]
      exact fun f hf => hold (h.freed f hf)
    · rw [hheld]
      intro p hp
      rcases List.mem_append.mp hp with hp | hp
      · exact hold (h.held p hp)
      · rw [List.mem_singleton.mp hp]
        exact hnew

/-- A packet that is freed moves over in the ledger. -/
lemma Ledger.free (h : Ledger d) {k : ℕ} {packet : Held} (hk : d.held[k]? = some packet)
    (hpopped : d'.popped = d.popped)
    (hfreed : d'.freed = d.freed ++ [⟨packet.pop, packet.segment⟩])
    (hheld : d'.held = d.held.eraseIdx k) : Ledger d' := by
  obtain ⟨hlt, rfl⟩ := List.getElem?_eq_some_iff.mp hk
  refine ⟨?_, ?_, ?_⟩
  · rw [hpopped, hfreed, hheld, List.map_append, List.append_assoc]
    have hperm := (List.getElem_cons_eraseIdx_perm hlt).map Held.pop
    exact (hperm.append_left _).trans h.once
  · rw [hpopped, hfreed]
    intro f hf
    rcases List.mem_append.mp hf with hf | hf
    · exact h.freed f hf
    · rw [List.mem_singleton.mp hf]
      exact h.held _ (List.getElem_mem hlt)
  · rw [hpopped, hheld]
    exact fun p hp => h.held p (List.mem_of_mem_eraseIdx hp)

lemma Ledger.effect (h : Ledger d) {e : Event} (he : Effect rescale d d' e) : Ledger d' := by
  have hsame : d'.popped = d.popped → d'.freed = d.freed → d'.held = d.held → Ledger d' := by
    intro hpopped hfreed hheld
    refine ⟨?_, ?_, ?_⟩
    · rw [hpopped, hfreed, hheld]
      exact h.once
    · rw [hpopped, hfreed]
      exact h.freed
    · rw [hpopped, hheld]
      exact h.held
  cases e with
  | reply r => exact hsame he.1 he.2.1 he.2.2
  | turn answers =>
    rcases he with ⟨-, hpopped, hfreed, hheld⟩ | ⟨id, rest, -, hpopped, hcase⟩
    · exact hsame hpopped hfreed hheld
    · exact h.pop hpopped (hcase.imp (fun hc => hc.2) fun hc => hc.2)
  | bufferFree k segment shmdt =>
    obtain ⟨packet, hk, hpopped, hfreed, hheld⟩ := he
    exact h.free hk hpopped hfreed hheld

/-- The loop goes on with every segment that is complete. -/
lemma Sound.exists_turn (h : Sound d) {answers : Answers}
    (hcomplete : ∀ segment, answers.shmat = some segment → Complete segment) :
    ∃ d', d.turn rescale answers = some d' := by
  rcases h.running.get with ⟨-, hget⟩ | ⟨id, rest, sctx, -, hget, -, hne, -⟩
  · simp only [Demuxer.turn, hget, if_true]
    exact ⟨_, rfl⟩
  · simp only [Demuxer.turn, hget, hne, if_false]
    cases hshmat : answers.shmat with
    | none => exact ⟨_, rfl⟩
    | some segment =>
      obtain ⟨info, data, hread, hin, hdata⟩ := hcomplete segment hshmat
      obtain ⟨i, hi⟩ := exists_slotOf hin
      obtain ⟨ctx, received, hreceive, -⟩ :=
        receive_spec rescale h.ready hread hi hdata answers.smemQueueSize
      simp only [hreceive, Option.bind_eq_bind, Option.bind_some]
      cases received with
      | skipped => exact ⟨_, rfl⟩
      | dropped => exact ⟨_, rfl⟩
      | emitted pkt => exact ⟨_, rfl⟩

end Step

/-! ## Runs -/

section Run

variable {rescale : Int64 → AVRational → AVRational → Int64} {d : Demuxer}

lemma ledger_of_reachable (h : (demuxer rescale).Reachable Trusted d) : Sound d ∧ Ledger d := by
  refine h.invariant (I := fun d => Sound d ∧ Ledger d) ?_ ?_
  · rintro d ⟨hrunning, hready, hpopped, hheld, hfreed⟩
    refine ⟨⟨hrunning, hready, ?_⟩, ?_, ?_, ?_⟩
    · rw [hheld]
      intro p hp
      cases hp
    · rw [hpopped, hheld, hfreed]
      exact List.Perm.refl _
    · rw [hfreed]
      intro f hf
      cases hf
    · rw [hheld]
      intro p hp
      cases hp
  · rintro d e d' - ⟨hsound, hledger⟩ hok hstep
    obtain ⟨hsound', heffect⟩ := hsound.step hok hstep
    exact ⟨hsound', hledger.effect heffect⟩

/-- In every run, in every order of replies, turns of the loop and buffers freed by the caller:
each pop is freed or held by a packet of the caller, once and under its own id; the next turn
frees the id it pops exactly if the frame is rejected, and the next buffer that is freed gives
back the id of its segment; nothing else sends an `SMEMFREE` for a popped id.  The loop gets stuck
at no complete segment, and the free callback at no header that can be read. -/
theorem released_exactly_once (h : (demuxer rescale).Reachable Trusted d) :
    Ledger d ∧
    (∀ e d', Trusted d e → (demuxer rescale).step d e = some d' → Effect rescale d d' e) ∧
    (∀ answers, (∀ segment, answers.shmat = some segment → Complete segment) →
      ∃ d', (demuxer rescale).step d (.turn answers) = some d') ∧
    ∀ k segment info, k < d.held.length → MemoryInfo.read segment = some info →
      ∃ d', (demuxer rescale).step d (.bufferFree k segment true) = some d' := by
  obtain ⟨hsound, hledger⟩ := ledger_of_reachable h
  refine ⟨hledger, ?_, ?_, ?_⟩
  · intro e d' hok hstep
    exact (hsound.step hok hstep).2
  · intro answers hcomplete
    exact hsound.exists_turn hcomplete
  · intro k segment info hk hinfo
    have hpacket : d.held[k]? = some d.held[k] := List.getElem?_eq_getElem hk
    refine ⟨{ d with held := d.held.eraseIdx k }.free (d.held[k]).pop info.id, ?_⟩
    simp only [demuxer, Demuxer.ffSmemAvBufferFree, hpacket, hinfo, Option.bind_eq_bind,
      Option.bind_some]
    rfl

end Run

/-- A demuxer with an empty queue. -/
def idle : Demuxer := ⟨Client.smemCreateConsumer, cameraClock, [], [], []⟩

/-- A segment with the id 7 that has a header only. -/
def segmentSeven : List UInt8 := (frameAt 0 7000000).bytes

/-- A message with the id 7 arrives, its frame is emitted, and the packet is freed. -/
def takeAndFree : List Event :=
  [.reply (.multiBulk [.bulk "message", .bulk "ch", .bulk "7"]),
    .turn ⟨some segmentSeven, 0, true⟩, .bufferFree 0 segmentSeven true]

lemma idle_init : (demuxer avRescaleQ).Init idle :=
  ⟨Client.running_start.1, (Nat.zero_mul sizeofStreamInfo).symm, rfl, rfl, rfl⟩

theorem released_exactly_once_takeAndFree :
    ∃ d, (demuxer avRescaleQ).run idle takeAndFree = some d ∧ d.popped = [7] ∧ d.held = [] ∧
      d.freed = [⟨0, 7⟩] ∧ Ledger d := by
  have hrun : ((demuxer avRescaleQ).run idle takeAndFree).map
      (fun d => (d.popped, d.held, d.freed)) = some ([7], [], [⟨0, 7⟩]) := by decide
  obtain ⟨d, hd, hall⟩ := Option.map_eq_some_iff.mp hrun
  simp only [Prod.mk.injEq] at hall
  have hreach : (demuxer avRescaleQ).Reachable Trusted d :=
    .of_run (.init idle_init) (by decide) hd
  exact ⟨d, hd, hall.1, hall.2.1, hall.2.2, (released_exactly_once hreach).1⟩

end SelfTestCode.Device
