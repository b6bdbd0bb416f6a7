import SelfTestCode.Broker.Commands
import SelfTestCode.Framework.Ring

/-!
# The consumer library

`redis/test/smem_client.c` is the library that producers and consumers link.  A consumer
subscribes to a channel on an asynchronous connection; `subCallback` receives what the server
pushes and puts the ids in a queue of 256 cells, from which `smemGetShareMemory` takes them.  An
id that finds the queue full is given back to the server on a second connection.

The server and the library have to agree on which references the consumer holds: each `message`
push carries one reference, and nothing else does.  `FatesAgree` states it for a sequence of
pushes and calls.  It fails as soon as the confirmation of `SMEMSUBSCRIBE` arrives: the callback
looks at the third element of every push, and the third element of the confirmation is an
integer, the number of channels, which it takes for an id.
-/

namespace SelfTestCode.Client

open Broker (Sds Reply ClientId subscribePush messagePush sdsfromlonglong cString)

/-! ## The context and its queue -/

/-- `SMEM_CLIENT_TYPE_PRODUCER` and `SMEM_CLIENT_TYPE_CONSUMER`. -/
inductive ClientType
  | producer
  | consumer
  deriving DecidableEq, Repr

/-- `SMEM_MAX_QUEUE_LENGTH`. -/
def smemMaxQueueLength : ℕ := 256

/-- The fields of `struct smemContext` that the calls below use; of the two synchronous
connections, whether they exist. -/
structure SmemContext where
  type : ClientType
  rctx : Bool
  rctx2 : Bool
  queue : List Int32
  queueHead : ℕ
  queueEnd : ℕ

/-- What `smemCreateConsumer` and its variants return when the connections succeed; `calloc`
has cleared the queue. -/
def smemCreateConsumer : SmemContext where
  type := .consumer
  rctx := true
  rctx2 := true
  queue := List.replicate smemMaxQueueLength 0
  queueHead := 0
  queueEnd := 0

/-- What `smemCreateProducer` returns when the connection succeeds. -/
def smemCreateProducer : SmemContext where
  type := .producer
  rctx := true
  rctx2 := false
  queue := List.replicate smemMaxQueueLength 0
  queueHead := 0
  queueEnd := 0

def queueFull (c : SmemContext) : Bool :=
  (c.queueEnd + 1) % smemMaxQueueLength == c.queueHead

def queueEmpty (c : SmemContext) : Bool :=
  c.queueEnd == c.queueHead

/-- `smem_queue_push`: whether there was room. -/
def smemQueuePush (c : SmemContext) (val : Int32) : Bool × SmemContext :=
  if queueFull c then (false, c)
  else (true, { c with
    queue := c.queue.set c.queueEnd val
    queueEnd := (c.queueEnd + 1) % smemMaxQueueLength })

/-- `smem_queue_pop`: the value it stores through its pointer, if it stores one. -/
def smemQueuePop (c : SmemContext) : Option Int32 × SmemContext :=
  if queueEmpty c then (none, c)
  else (c.queue[c.queueHead]?, { c with queueHead := (c.queueHead + 1) % smemMaxQueueLength })

/-- `smem_queue_size`. -/
def smemQueueSize (c : SmemContext) : ℤ :=
  Int.tmod ((c.queueEnd : ℤ) - c.queueHead + smemMaxQueueLength) smemMaxQueueLength

/-! ## The calls -/

def smemErrorInputPointer : Int32 := -2

/-- `smemProducerGetShareMemory`; `redisCommand` is the reply to `SMEMGET size`. -/
def smemProducerGetShareMemory (redisCommand : Int32 → Option Reply) (size : Int32) : Int32 :=
  if size ≤ 0 then -1
  else match redisCommand size with
    | some (.integer n) => n.toInt32
    | _ => -1

def smemConsumerGetShareMemory (c : SmemContext) : Int32 × SmemContext :=
  match smemQueuePop c with
  | (some memId, c') => (memId, c')
  | (none, c') => (-1, c')

def smemGetShareMemory (redisCommand : Int32 → Option Reply) (c : SmemContext) (size : Int32) :
    Int32 × SmemContext :=
  if c.rctx then
    match c.type with
    | .producer => (smemProducerGetShareMemory redisCommand size, c)
    | .consumer => smemConsumerGetShareMemory c
  else (smemErrorInputPointer, c)

/-- `smemFreeShareMemory`: the id it sends in an `SMEMFREE`, if it sends one. -/
def smemFreeShareMemory (c : SmemContext) (id : Int32) : Option Int32 :=
  if id < 0 then none
  else if c.rctx then some id
  else none

/-- `smemFreeShareMemory2`, on the second connection: the id it sends in an `SMEMFREE`, if it
sends one. -/
def smemFreeShareMemory2 (c : SmemContext) (id : Int32) : Option Int32 :=
  if id < 0 then none
  else if c.rctx then some id
  else none

/-- The white space `atoi` skips. -/
def isSpace (ch : Char) : Bool :=
  ch == ' ' || ch == '\t' || ch == '\n' || ch == '\x0b' || ch == '\x0c' || ch == '\r'

/-- An optional sign: whether it is a minus, and what follows. -/
def takeSign : List Char → Bool × List Char
  | '-' :: rest => (true, rest)
  | '+' :: rest => (false, rest)
  | rest => (false, rest)

/-- `atoi`: white space, a sign, digits; a value out of range is cut off by `strtol` and then
converted to `int`. -/
def atoi (str : Sds) : Int32 :=
  let (negative, digits) := takeSign ((cString str).dropWhile isSpace)
  let value : ℤ := Nat.ofDigitChars 10 (digits.takeWhile Char.isDigit) 0
  Int32.ofInt (max (-(2 ^ 63)) (min (2 ^ 63 - 1) (if negative then -value else value)))

/-- The id `subCallback` reads off the third element. -/
def thirdElement : Reply → Int32
  | .integer n => n.toInt32
  | .bulk str => atoi str
  | .multiBulk _ => -1

/-- `subCallback`: the context after it, and the id of the `SMEMFREE` it sends, if it sends
one. -/
def subCallback (ctx : SmemContext) (reply : Option Reply) : SmemContext × Option Int32 :=
  match reply with
  | some (.multiBulk [_, _, third]) =>
    let memId := thirdElement third
    if memId ≤ 0 then (ctx, none)
    else match smemQueuePush ctx memId with
      | (true, ctx') => (ctx', none)
      | (false, _) => (ctx, smemFreeShareMemory2 ctx memId)
  | _ => (ctx, none)

/-! ## The queue as a ring -/

/-- The queue from head to end. -/
def contents (c : SmemContext) : List Int32 :=
  (c.queue.rotate c.queueHead).take
    ((c.queueEnd + smemMaxQueueLength - c.queueHead) % smemMaxQueueLength)

/-- The array has its 256 cells and the indices are in range. -/
structure Valid (c : SmemContext) : Prop where
  length : c.queue.length = smemMaxQueueLength
  head : c.queueHead < smemMaxQueueLength
  tail : c.queueEnd < smemMaxQueueLength

/-- The ring in the fields of the context. -/
def Valid.ring {c : SmemContext} (h : Valid c) : Ring Int32 where
  buf := c.queue
  head := c.queueHead
  tail := c.queueEnd
  head_lt := by rw [h.length]; exact h.head
  tail_lt := by rw [h.length]; exact h.tail

section Queue

variable {c : SmemContext}

lemma Valid.cells (h : Valid c) : h.ring.cells = smemMaxQueueLength := h.length

lemma Valid.contents_ring (h : Valid c) : h.ring.contents = contents c := by
  rw [Ring.contents, Ring.size, h.cells]
  rfl

lemma Valid.length_contents (h : Valid c) : (contents c).length = h.ring.size := by
  rw [← h.contents_ring, Ring.length_contents]

lemma Valid.queueFull_iff (h : Valid c) : queueFull c = true ↔ (contents c).length = 255 := by
  have hfull := h.ring.full_iff
  rw [Ring.Full, h.cells] at hfull
  rw [queueFull, beq_iff_eq, h.length_contents]
  refine Iff.trans hfull ?_
  rw [show smemMaxQueueLength = 255 + 1 from rfl, Nat.add_right_cancel_iff]

lemma Valid.queueEmpty_iff (h : Valid c) : queueEmpty c = true ↔ contents c = [] := by
  rw [queueEmpty, beq_iff_eq, ← List.length_eq_zero_iff, h.length_contents,
    Ring.size_eq_zero_iff]
  rfl

lemma Valid.smemQueueSize_eq (h : Valid c) : smemQueueSize c = (contents c).length := by
  have hh := h.head
  have ht := h.tail
  rw [h.length_contents, Ring.size, h.cells, smemQueueSize, Int.tmod_eq_emod_of_nonneg (by omega)]
  show _ = (((c.queueEnd + smemMaxQueueLength - c.queueHead) % smemMaxQueueLength : ℕ) : ℤ)
  rw [Int.natCast_mod, Nat.cast_sub (by omega)]
  congr 1
  push_cast
  omega

/-- A push into a queue that is not full appends. -/
lemma Valid.push (h : Valid c) (val : Int32) (hroom : (contents c).length ≠ 255) :
    (smemQueuePush c val).1 = true ∧ Valid (smemQueuePush c val).2 ∧
      contents (smemQueuePush c val).2 = contents c ++ [val] ∧
      (smemQueuePush c val).2.type = c.type ∧ (smemQueuePush c val).2.rctx = c.rctx := by
  have hnot : ¬ queueFull c = true := by
    rw [h.queueFull_iff]
    exact hroom
  have hpush : smemQueuePush c val = (true, { c with
      queue := c.queue.set c.queueEnd val
      queueEnd := (c.queueEnd + 1) % smemMaxQueueLength }) := if_neg hnot
  rw [hpush]
  have hvalid : Valid { c with
      queue := c.queue.set c.queueEnd val
      queueEnd := (c.queueEnd + 1) % smemMaxQueueLength } :=
    ⟨by rw [List.length_set]; exact h.length, h.head, Nat.mod_lt _ (by decide)⟩
  refine ⟨rfl, hvalid, ?_, rfl, rfl⟩
  have hfull : ¬ h.ring.Full := by
    rw [Ring.full_iff, h.cells, ← h.length_contents]
    intro heq
    exact hroom (Nat.succ_injective heq)
  have hring := h.ring.contents_push val hfull
  rw [h.contents_ring] at hring
  rw [← hring, Ring.contents, Ring.size, Ring.cells_push, h.cells]
  show _ = ((c.queue.set c.queueEnd val).rotate c.queueHead).take
    (((c.queueEnd + 1) % h.ring.cells + smemMaxQueueLength - c.queueHead) % smemMaxQueueLength)
  rw [h.cells]
  rfl

/-- A pop from a queue that is not empty gives the oldest entry. -/
lemma Valid.pop (h : Valid c) {val : Int32} {rest : List Int32}
    (hcontents : contents c = val :: rest) :
    (smemQueuePop c).1 = some val ∧ Valid (smemQueuePop c).2 ∧
      contents (smemQueuePop c).2 = rest ∧
      (smemQueuePop c).2.type = c.type ∧ (smemQueuePop c).2.rctx = c.rctx := by
  have hnot : ¬ queueEmpty c = true := by
    rw [h.queueEmpty_iff, hcontents]
    exact List.cons_ne_nil _ _
  have hpop : smemQueuePop c = (c.queue[c.queueHead]?, { c with
      queueHead := (c.queueHead + 1) % smemMaxQueueLength }) := if_neg hnot
  have hne : h.ring.tail ≠ h.ring.head := by
    intro heq
    exact hnot (beq_iff_eq.mpr heq)
  have hring := h.ring.contents_pop hne
  rw [h.contents_ring, hcontents, List.cons.injEq] at hring
  rw [hpop]
  refine ⟨?_, ⟨h.length, Nat.mod_lt _ (by decide), h.tail⟩, ?_, rfl, rfl⟩
  · rw [hring.1]
    exact List.getElem?_eq_getElem h.ring.head_lt
  · rw [hring.2, Ring.contents, Ring.size]
    show _ = (c.queue.rotate ((c.queueHead + 1) % h.ring.cells)).take
      ((c.queueEnd + h.ring.cells - (c.queueHead + 1) % h.ring.cells) % h.ring.cells)
    rw [h.cells]
    rfl

end Queue

/-! ## What the server sends -/

/-- `atoi` reads back the text of a positive id. -/
lemma atoi_sdsfromlonglong {id : Int32} (hid : 0 < id) : atoi (sdsfromlonglong id) = id := by
  have hpos := Int32.lt_iff_toInt_lt.mp hid
  have h0 : (0 : Int32).toInt = 0 := rfl
  obtain ⟨n, hn⟩ : ∃ n : ℕ, id.toInt = n := ⟨id.toInt.toNat, by omega⟩
  set digits := Nat.toDigits 10 n with hdigits
  have htext : (sdsfromlonglong id).toList = digits := by
    rw [sdsfromlonglong, hn, hdigits]
    show (Nat.repr n).toList = _
    rw [Nat.toList_repr]
  have hdigit : ∀ ch ∈ digits, ch.isDigit = true := fun ch hch =>
    Nat.isDigit_of_mem_toDigits (by decide) (by decide) hch
  have hcString : cString (sdsfromlonglong id) = digits := by
    rw [cString, htext, List.takeWhile_eq_self_iff]
    intro ch hch
    have := hdigit ch hch
    simp only [ne_eq, decide_not, Bool.not_eq_eq_eq_not, Bool.not_true, decide_eq_false_iff_not]
    rintro rfl
    exact absurd this (by decide)
  -- the first character is a digit, so there is no white space and no sign
  obtain ⟨ch, rest, hcons⟩ : ∃ ch rest, digits = ch :: rest :=
    List.exists_cons_of_ne_nil Nat.toDigits_ne_nil
  have hch : ch.isDigit = true := hdigit ch (by rw [hcons]; exact List.mem_cons_self)
  have hspace : isSpace ch = false := by
    by_contra hsp
    simp only [isSpace, Bool.not_eq_false, Bool.or_eq_true, beq_iff_eq] at hsp
    rcases hsp with ((((rfl | rfl) | rfl) | rfl) | rfl) | rfl <;> exact absurd hch (by decide)
  have hsign : takeSign (ch :: rest) = (false, ch :: rest) := by
    unfold takeSign
    split
    · rename_i hminus
      cases hminus
      exact absurd hch (by decide)
    · rename_i hplus
      cases hplus
      exact absurd hch (by decide)
    · rfl
  have hdrop : digits.dropWhile isSpace = ch :: rest := by
    rw [hcons, List.dropWhile_cons_of_neg (by rw [hspace]; decide)]
  have htake : (ch :: rest).takeWhile Char.isDigit = digits := by
    rw [← hcons, List.takeWhile_eq_self_iff]
    exact hdigit
  have hvalue : Nat.ofDigitChars 10 digits 0 = n := Nat.ofDigitChars_ten_toDigits
  have hlt := id.toInt_lt
  unfold atoi
  rw [hcString, hdrop, hsign]
  simp only [htake, hvalue, if_false, Bool.false_eq_true]
  rw [← hn, min_eq_right (by omega), max_eq_right (by omega)]
  exact Int32.ofInt_toInt id

/-- The confirmation of a subscription, with a count of channels that is an `int`. -/
def IsConfirmation (r : Reply) : Prop :=
  ∃ channel n, 0 < n ∧ n < 2 ^ 31 ∧ r = subscribePush channel n

/-- A published buffer: the third element is a positive id as `smemPublish` prints it. -/
def IsMessage (r : Reply) (id : Int32) : Prop :=
  ∃ channel, 0 < id ∧ r = messagePush channel (sdsfromlonglong id)

/-- The pushes a consumer receives. -/
def FromServer (r : Reply) : Prop := IsConfirmation r ∨ ∃ id, IsMessage r id

/-- The id a push carries a reference to. -/
def payload : Reply → Option Int32
  | .multiBulk [.bulk kind, .bulk _, .bulk text] => if kind = "message" then some (atoi text) else none
  | _ => none

lemma payload_of_isMessage {r : Reply} {id : Int32} (h : IsMessage r id) : payload r = some id := by
  obtain ⟨channel, hpos, rfl⟩ := h
  rw [messagePush, payload, if_pos rfl, atoi_sdsfromlonglong hpos]

lemma payload_of_isConfirmation {r : Reply} (h : IsConfirmation r) : payload r = none := by
  obtain ⟨channel, n, -, -, rfl⟩ := h
  rfl

/-! ## Runs of a consumer -/

/-- A push reaches the callback, or the program asks for a buffer. -/
inductive Event
  | reply (r : Reply)
  | get

/-- A consumer and what it has done: the ids its caller got, in order, and the ids it sent in an
`SMEMFREE`, with the size of the queue at that time. -/
structure Consumer where
  ctx : SmemContext
  returned : List Int32
  released : List (Int32 × ℤ)

/-- A consumer that was just created. -/
def Consumer.start : Consumer := ⟨smemCreateConsumer, [], []⟩

def Consumer.step (s : Consumer) : Event → Consumer
  | .reply r =>
    let (ctx, freed) := subCallback s.ctx (some r)
    { s with
      ctx := ctx
      released := s.released ++ freed.toList.map fun id => (id, smemQueueSize s.ctx) }
  | .get =>
    let (id, ctx) := smemGetShareMemory (fun _ => none) s.ctx 0
    { s with
      ctx := ctx
      returned := if id = -1 then s.returned else s.returned ++ [id] }

def Consumer.run (events : List Event) : Consumer := events.foldl Consumer.step Consumer.start

/-- The pushes among the events. -/
def replies (events : List Event) : List Reply :=
  events.filterMap fun
    | .reply r => some r
    | .get => none

/-- The ids of the messages among the events, in order of arrival. -/
def messages (events : List Event) : List Int32 := (replies events).filterMap payload

/-- Each message of `ids` has had one of its fates (`true` for the queue, `false` for the
`SMEMFREE`), and nothing else has: what was queued, in order, is what the caller got followed by
what is still in the queue; what was released found 255 ids in the queue. -/
def Fates (ids : List Int32) (s : Consumer) : Prop :=
  ∃ fates : List (Int32 × Bool), fates.map Prod.fst = ids ∧
    (fates.filter Prod.snd).map Prod.fst = s.returned ++ contents s.ctx ∧
    (fates.filter fun f => !f.2).map Prod.fst = s.released.map Prod.fst ∧
    ∀ freed ∈ s.released, freed.2 = 255

/-- The consumer holds the references the messages have given it, and has released the others. -/
def FatesAgree (events : List Event) : Prop := Fates (messages events) (Consumer.run events)

/-! ## One event -/

/-- A context as `smemCreateConsumer` makes it and the calls keep it. -/
structure Running (c : SmemContext) : Prop where
  valid : Valid c
  type : c.type = .consumer
  rctx : c.rctx = true
  positive : ∀ id ∈ contents c, 0 < id

section Step

variable {s : Consumer}

/-- The callback takes a positive third element for an id: it is queued, or released when the
queue is full. -/
lemma subCallback_pos {c : SmemContext} (h : Running c) {a b third : Reply}
    (hpos : 0 < thirdElement third) :
    ((contents c).length ≠ 255 ∧
      (subCallback c (some (.multiBulk [a, b, third]))).2 = none ∧
      Running (subCallback c (some (.multiBulk [a, b, third]))).1 ∧
      contents (subCallback c (some (.multiBulk [a, b, third]))).1
        = contents c ++ [thirdElement third]) ∨
    ((contents c).length = 255 ∧
      subCallback c (some (.multiBulk [a, b, third])) = (c, some (thirdElement third))) := by
  have hle : ¬ thirdElement third ≤ 0 := Int32.not_le.mpr hpos
  by_cases hroom : (contents c).length = 255
  · right
    refine ⟨hroom, ?_⟩
    have hfull : queueFull c = true := h.valid.queueFull_iff.mpr hroom
    have hneg : ¬ thirdElement third < 0 := fun hlt =>
      hle (Int32.le_of_lt hlt)
    simp only [subCallback, hle, if_false, smemQueuePush, hfull, if_true, smemFreeShareMemory2,
      hneg, h.rctx]
  · left
    obtain ⟨hok, hvalid, hcontents, htype, hrctx⟩ := h.valid.push (thirdElement third) hroom
    have hcall : subCallback c (some (.multiBulk [a, b, third]))
        = ((smemQueuePush c (thirdElement third)).2, none) := by
      simp only [subCallback, hle, if_false]
      generalize smemQueuePush c (thirdElement third) = pushed at hok ⊢
      obtain ⟨ok, c'⟩ := pushed
      obtain rfl : ok = true := hok
      rfl
    rw [hcall]
    refine ⟨hroom, rfl, ⟨hvalid, htype.trans h.type, hrctx.trans h.rctx, ?_⟩, hcontents⟩
    rw [hcontents]
    intro id hid
    rcases List.mem_append.mp hid with hid | hid
    · exact h.positive id hid
    · rw [List.mem_singleton.mp hid]
      exact hpos

/-- Every push of the server has a positive third element. -/
lemma fromServer_third {r : Reply} (h : FromServer r) :
    ∃ a b third, r = .multiBulk [a, b, third] ∧ 0 < thirdElement third ∧
      ∀ id, payload r = some id → thirdElement third = id := by
  rcases h with ⟨channel, n, hn, hlt, rfl⟩ | ⟨id, channel, hpos, rfl⟩
  · refine ⟨_, _, _, rfl, ?_, ?_⟩
    · rw [Int32.lt_iff_toInt_lt]
      show (0 : ℤ) < (Int64.ofNat n).toInt32.toInt
      rw [Int64.toInt_toInt32, Int64.toInt_ofNat_of_lt (by omega), Int.bmod_eq_of_le (by omega)
        (by omega)]
      omega
    · intro id hid
      cases hid
  · have hmsg : IsMessage (messagePush channel (sdsfromlonglong id)) id := ⟨channel, hpos, rfl⟩
    refine ⟨_, _, _, rfl, ?_, ?_⟩
    · show 0 < atoi (sdsfromlonglong id)
      rw [atoi_sdsfromlonglong hpos]
      exact hpos
    · intro id' hid'
      have hpayload := payload_of_isMessage hmsg
      rw [hpayload] at hid'
      cases hid'
      exact atoi_sdsfromlonglong hpos

/-- No reply makes the callback queue an id that is not positive. -/
lemma Running.subCallback {c : SmemContext} (h : Running c) (reply : Option Reply) :
    Running (subCallback c reply).1 := by
  unfold Client.subCallback
  split
  · rename_i a b third
    dsimp only
    split
    · exact h
    · rename_i hpos
      have hcase := subCallback_pos (a := a) (b := b) h (Int32.not_le.mp hpos)
      simp only [Client.subCallback, if_neg hpos] at hcase
      rcases hcase with ⟨-, -, hrunning, -⟩ | ⟨-, hcall⟩
      · exact hrunning
      · rw [hcall]
        exact h
  · exact h

/-- `smemGetShareMemory` hands over the oldest id, if there is one. -/
lemma Running.get {c : SmemContext} (h : Running c) :
    (contents c = [] ∧ smemGetShareMemory (fun _ => none) c 0 = (-1, c)) ∨
    ∃ id rest c', contents c = id :: rest ∧ smemGetShareMemory (fun _ => none) c 0 = (id, c') ∧
      0 < id ∧ id ≠ -1 ∧ Running c' ∧ contents c' = rest := by
  have hget : smemGetShareMemory (fun _ => none) c 0 = smemConsumerGetShareMemory c := by
    simp only [smemGetShareMemory, h.rctx, if_true, h.type]
  cases hcontents : contents c with
  | nil =>
    left
    have hpop : smemQueuePop c = (none, c) := if_pos (h.valid.queueEmpty_iff.mpr hcontents)
    refine ⟨rfl, ?_⟩
    rw [hget, smemConsumerGetShareMemory, hpop]
  | cons id rest =>
    right
    obtain ⟨hval, hvalid, hrest, htype, hrctx⟩ := h.valid.pop hcontents
    have hpos : 0 < id := h.positive id (by rw [hcontents]; exact List.mem_cons_self)
    have hne : id ≠ -1 := by
      rintro rfl
      exact absurd hpos (by decide)
    have hcall : smemConsumerGetShareMemory c = (id, (smemQueuePop c).2) := by
      unfold smemConsumerGetShareMemory
      generalize smemQueuePop c = popped at hval ⊢
      obtain ⟨val, c'⟩ := popped
      obtain rfl : val = some id := hval
      rfl
    refine ⟨id, rest, _, rfl, hget.trans hcall, hpos, hne,
      ⟨hvalid, htype.trans h.type, hrctx.trans h.rctx, ?_⟩, hrest⟩
    intro id' hid'
    rw [hrest] at hid'
    exact h.positive id' (by rw [hcontents]; exact List.mem_cons_of_mem _ hid')

/-- Every id that can be in the queue can be given back. -/
lemma Running.free {c : SmemContext} (h : Running c) {id : Int32} (hpos : 0 < id) :
    smemFreeShareMemory c id = some id := by
  have hneg : ¬ id < 0 := fun hlt => Int32.not_le.mpr hpos (Int32.le_of_lt hlt)
  rw [smemFreeShareMemory, if_neg hneg, if_pos h.rctx]

/-- The caller gets what leaves the queue. -/
lemma step_get (h : Running s.ctx) :
    Running (s.step .get).ctx ∧ (s.step .get).released = s.released ∧
      (s.step .get).returned ++ contents (s.step .get).ctx = s.returned ++ contents s.ctx := by
  rcases h.get with ⟨-, hget⟩ | ⟨id, rest, c', hcontents, hget, -, hne, hrunning, hrest⟩
  · have hstep : s.step .get = s := by
      simp only [Consumer.step, hget, if_true]
    rw [hstep]
    exact ⟨h, rfl, rfl⟩
  · have hstep : s.step .get = { s with ctx := c', returned := s.returned ++ [id] } := by
      simp only [Consumer.step, hget, hne, if_false]
    rw [hstep]
    refine ⟨hrunning, rfl, ?_⟩
    dsimp only
    rw [hrest, hcontents, List.append_assoc]
    rfl

/-- A push of the server puts one id at the end of the queue or in the released ones. -/
lemma step_reply (h : Running s.ctx) {r : Reply} (hr : FromServer r) :
    ∃ id, (∀ m, payload r = some m → id = m) ∧ Running (s.step (.reply r)).ctx ∧
      (s.step (.reply r)).returned = s.returned ∧
      ((contents (s.step (.reply r)).ctx = contents s.ctx ++ [id] ∧
          (s.step (.reply r)).released = s.released) ∨
        ((s.step (.reply r)).ctx = s.ctx ∧
          (s.step (.reply r)).released = s.released ++ [(id, 255)])) := by
  obtain ⟨a, b, third, rfl, hpos, hpayload⟩ := fromServer_third hr
  refine ⟨thirdElement third, hpayload, ?_⟩
  have hcase := subCallback_pos (a := a) (b := b) h hpos
  rcases hcase with ⟨-, hfreed, hrunning, hcontents⟩ | ⟨hfull, hcall⟩
  · refine ⟨hrunning, rfl, Or.inl ⟨hcontents, ?_⟩⟩
    simp only [Consumer.step, hfreed, Option.toList_none, List.map_nil, List.append_nil]
  · have hsize : smemQueueSize s.ctx = 255 := by
      rw [h.valid.smemQueueSize_eq, hfull]
      rfl
    have hstep : s.step (.reply (.multiBulk [a, b, third])) = { s with
        released := s.released ++ [(thirdElement third, 255)] } := by
      simp only [Consumer.step, hcall, Option.toList_some, List.map_cons, List.map_nil, hsize]
    rw [hstep]
    exact ⟨h, rfl, Or.inr ⟨rfl, rfl⟩⟩

/-- A message gets its fate. -/
lemma Fates.message {ids : List Int32} (hf : Fates ids s) (h : Running s.ctx) {r : Reply}
    {id : Int32} (hr : IsMessage r id) : Fates (ids ++ [id]) (s.step (.reply r)) := by
  obtain ⟨fates, hids, hqueued, hfreed, hfull⟩ := hf
  obtain ⟨id', hid', -, hreturned, hcase⟩ := step_reply h (r := r) (Or.inr ⟨id, hr⟩)
  obtain rfl : id' = id := hid' id (payload_of_isMessage hr)
  rcases hcase with ⟨hcontents, hreleased⟩ | ⟨hctx, hreleased⟩
  · refine ⟨fates ++ [(id', true)], ?_, ?_, ?_, ?_⟩
    · rw [List.map_append, hids]
      rfl
    · rw [hreturned, hcontents, ← List.append_assoc, ← hqueued]
      simp
    · rw [hreleased, ← hfreed]
      simp
    · rw [hreleased]
      exact hfull
  · refine ⟨fates ++ [(id', false)], ?_, ?_, ?_, ?_⟩
    · rw [List.map_append, hids]
      rfl
    · rw [hreturned, hctx, ← hqueued]
      simp
    · rw [hreleased, List.map_append, ← hfreed]
      simp
    · rw [hreleased]
      intro freed hmem
      rcases List.mem_append.mp hmem with hmem | hmem
      · exact hfull freed hmem
      · rw [List.mem_singleton.mp hmem]

lemma Fates.get {ids : List Int32} (hf : Fates ids s) (h : Running s.ctx) :
    Fates ids (s.step .get) := by
  obtain ⟨fates, hids, hqueued, hfreed, hfull⟩ := hf
  obtain ⟨-, hreleased, hsame⟩ := step_get h
  refine ⟨fates, hids, ?_, ?_, ?_⟩
  · rw [hsame]
    exact hqueued
  · rw [hreleased]
    exact hfreed
  · rw [hreleased]
    exact hfull

end Step

/-! ## Runs -/

lemma run_append (events : List Event) (e : Event) :
    Consumer.run (events ++ [e]) = (Consumer.run events).step e := by
  rw [Consumer.run, Consumer.run, List.foldl_append]
  rfl

lemma replies_append (events : List Event) (e : Event) :
    replies (events ++ [e]) = replies events ++ replies [e] :=
  List.filterMap_append

lemma messages_append (events : List Event) (e : Event) :
    messages (events ++ [e]) = messages events ++ messages [e] := by
  rw [messages, replies_append, List.filterMap_append]
  rfl

lemma mem_replies {events : List Event} {r : Reply} : r ∈ replies events ↔ .reply r ∈ events := by
  rw [replies, List.mem_filterMap]
  constructor
  · rintro ⟨e, he, hr⟩
    cases e with
    | reply r' =>
      obtain rfl : r' = r := Option.some.inj hr
      exact he
    | get => cases hr
  · intro h
    exact ⟨.reply r, h, rfl⟩

/-- The ids a consumer has taken from pushes. -/
def taken (s : Consumer) : ℕ := s.returned.length + (contents s.ctx).length + s.released.length

lemma running_start : Running Consumer.start.ctx ∧ taken Consumer.start = 0 := by
  have hcontents : contents smemCreateConsumer = [] := rfl
  refine ⟨⟨⟨List.length_replicate, by decide, by decide⟩, rfl, rfl, ?_⟩, ?_⟩
  · intro id hid
    rw [show contents Consumer.start.ctx = [] from hcontents] at hid
    cases hid
  · rw [taken, show contents Consumer.start.ctx = [] from hcontents]
    rfl

/-- Along every run the context stays as it should, and each push has had one id taken from
it. -/
lemma run_spec {events : List Event} (hserver : ∀ r, .reply r ∈ events → FromServer r) :
    Running (Consumer.run events).ctx ∧ taken (Consumer.run events) = (replies events).length := by
  induction events using List.reverseRecOn with
  | nil => exact running_start
  | append_singleton events e ih =>
    obtain ⟨hrunning, htaken⟩ := ih fun r hr => hserver r (List.mem_append_left _ hr)
    rw [run_append]
    rw [replies_append, List.length_append, ← htaken]
    cases e with
    | get =>
      obtain ⟨hrunning', hreleased, hsame⟩ := step_get hrunning
      have hlength := congrArg List.length hsame
      rw [List.length_append, List.length_append] at hlength
      refine ⟨hrunning', ?_⟩
      rw [taken, taken, hlength, hreleased]
      rfl
    | reply r =>
      obtain ⟨id, -, hrunning', hreturned, hcase⟩ :=
        step_reply hrunning (hserver r (List.mem_append_right _ List.mem_cons_self))
      refine ⟨hrunning', ?_⟩
      have hone : (replies [.reply r]).length = 1 := rfl
      rw [taken, taken, hreturned, hone]
      rcases hcase with ⟨hcontents, hreleased⟩ | ⟨hctx, hreleased⟩
      · rw [hcontents, hreleased, List.length_append, List.length_singleton]
        omega
      · rw [hctx, hreleased, List.length_append, List.length_singleton]
        omega

lemma Fates.taken_eq {ids : List Int32} {s : Consumer} (h : Fates ids s) :
    taken s = ids.length := by
  obtain ⟨fates, hids, hqueued, hfreed, -⟩ := h
  have hq := congrArg List.length hqueued
  have hf := congrArg List.length hfreed
  rw [List.length_map, List.length_append] at hq
  rw [List.length_map, List.length_map] at hf
  rw [taken, ← hids, List.length_map, ← hq, ← hf]
  exact (List.length_eq_length_filter_add _).symm

/-- With messages only, each id has its fate. -/
lemma fates_run {events : List Event} (hserver : ∀ r, .reply r ∈ events → ∃ id, IsMessage r id) :
    FatesAgree events := by
  induction events using List.reverseRecOn with
  | nil => exact ⟨[], rfl, rfl, rfl, fun _ h => absurd h List.not_mem_nil⟩
  | append_singleton events e ih =>
    have hbefore : ∀ r, .reply r ∈ events → ∃ id, IsMessage r id := fun r hr =>
      hserver r (List.mem_append_left _ hr)
    have hrunning := (run_spec fun r hr => Or.inr (hbefore r hr)).1
    rw [FatesAgree, run_append, messages_append]
    cases e with
    | get =>
      rw [show messages [Event.get] = [] from rfl, List.append_nil]
      exact (ih hbefore).get hrunning
    | reply r =>
      obtain ⟨id, hid⟩ := hserver r (List.mem_append_right _ List.mem_cons_self)
      have hmessage : messages [.reply r] = [id] := by
        rw [messages, show replies [.reply r] = [r] from rfl, List.filterMap_cons,
          payload_of_isMessage hid, List.filterMap_nil]
      rw [hmessage]
      exact (ih hbefore).message hrunning hid

/-- One id is taken from each push, so a push that carries none leaves an id without a
message. -/
lemma not_fatesAgree {events : List Event} (hserver : ∀ r, .reply r ∈ events → FromServer r)
    {r : Reply} (hr : .reply r ∈ events) (hconf : IsConfirmation r) : ¬ FatesAgree events := by
  intro hagree
  have hlength := hagree.taken_eq
  rw [(run_spec hserver).2, messages, List.length_filterMap_eq_countP] at hlength
  have hall := List.countP_eq_length.mp hlength.symm r (mem_replies.mpr hr)
  rw [payload_of_isConfirmation hconf] at hall
  cases hall

/-- The server and the consumer agree on the references of the consumer exactly when no
confirmation of a subscription has reached the callback. -/
theorem fates_agree_iff (events : List Event) (hserver : ∀ r, .reply r ∈ events → FromServer r) :
    FatesAgree events ↔ ∀ r, .reply r ∈ events → ¬ IsConfirmation r := by
  constructor
  · intro hagree r hr hconf
    exact not_fatesAgree hserver hr hconf hagree
  · intro hnone
    apply fates_run
    intro r hr
    exact (hserver r hr).resolve_left (hnone r hr)

/-- One message, taken at once. -/
def takeOne : List Event := [.reply (messagePush "ch" (sdsfromlonglong 7)), .get]

lemma takeOne_messages {r : Reply} (hr : .reply r ∈ takeOne) : IsMessage r 7 := by
  rcases List.mem_cons.mp hr with hr | hr
  · obtain rfl : r = _ := Event.reply.inj hr
    exact ⟨"ch", by decide, rfl⟩
  · cases List.mem_singleton.mp hr

theorem fates_agree_iff_takeOne :
    (∀ r, .reply r ∈ takeOne → FromServer r) ∧ FatesAgree takeOne := by
  have hserver : ∀ r, .reply r ∈ takeOne → FromServer r := fun r hr =>
    Or.inr ⟨7, takeOne_messages hr⟩
  refine ⟨hserver, (fates_agree_iff takeOne hserver).mpr ?_⟩
  intro r hr hconf
  have hpayload := payload_of_isMessage (takeOne_messages hr)
  rw [payload_of_isConfirmation hconf] at hpayload
  cases hpayload

/-- The confirmation of a first subscription, and a call: the caller gets the segment id 1, which
no message has named. -/
theorem fates_disagree :
    let events := [Event.reply (subscribePush "ch" 1), .get]
    (∀ r, .reply r ∈ events → FromServer r) ∧ messages events = [] ∧
      (Consumer.run events).returned = [1] ∧ ¬ FatesAgree events := by
  intro events
  have hconf : IsConfirmation (subscribePush "ch" 1) := ⟨"ch", 1, by decide, by decide, rfl⟩
  have hserver : ∀ r, .reply r ∈ events → FromServer r := by
    intro r hr
    rcases List.mem_cons.mp hr with hr | hr
    · obtain rfl : r = _ := Event.reply.inj hr
      exact Or.inl hconf
    · cases List.mem_singleton.mp hr
  exact ⟨hserver, rfl, by decide, not_fatesAgree hserver List.mem_cons_self hconf⟩

/-! ## With the server at the other end -/

section Server

open Broker (Server Client smemsubscribeCommand smempubsubSubscribeChannel)

variable {s : Server} {c : ClientId} {cl : Client}

/-- What the broker answers to the `SMEMSUBSCRIBE` of a consumer, which makes its connection for
this one channel. -/
lemma smemsubscribeCommand_confirms (hc : s.clients.lookup c = some cl)
    (hfresh : cl.smempubsubChannels = ∅) (channel : Sds) :
    ∃ s', smemsubscribeCommand c s [channel] = .ok (s', [subscribePush channel 1]) := by
  refine ⟨(smempubsubSubscribeChannel s c cl channel).1, ?_⟩
  have hpush : (smempubsubSubscribeChannel s c cl channel).2 = subscribePush channel 1 := by
    rw [smempubsubSubscribeChannel, hfresh, if_neg (AList.notMem_empty _)]
    rfl
  simp only [smemsubscribeCommand, hc, hpush]
  rfl

/-- So the callback of every consumer that the broker has accepted takes the confirmation for a
buffer. -/
theorem subscribed_disagrees (hc : s.clients.lookup c = some cl)
    (hfresh : cl.smempubsubChannels = ∅) {channel : Sds} {s' : Server} {pushes : List Reply}
    (hsub : smemsubscribeCommand c s [channel] = .ok (s', pushes)) {later : List Event}
    (hlater : ∀ r, .reply r ∈ later → ∃ id, IsMessage r id) :
    ¬ FatesAgree (pushes.map .reply ++ later) := by
  obtain ⟨s₁, hs₁⟩ := smemsubscribeCommand_confirms hc hfresh channel
  rw [hs₁] at hsub
  obtain ⟨rfl, rfl⟩ := Prod.mk.inj (Except.ok.inj hsub)
  have hconf : IsConfirmation (subscribePush channel 1) := ⟨channel, 1, by decide, by decide, rfl⟩
  refine not_fatesAgree ?_ List.mem_cons_self hconf
  intro r hr
  rcases List.mem_cons.mp hr with hr | hr
  · obtain rfl : r = _ := Event.reply.inj hr
    exact Or.inl hconf
  · exact Or.inr (hlater r hr)

/-- The first client of a server subscribes to a channel and asks for a buffer. -/
theorem subscribed_disagrees_first :
    ∃ s' pushes, smemsubscribeCommand 1 (Broker.createClient (Broker.initServer 0)) ["ch"]
        = .ok (s', pushes) ∧ ¬ FatesAgree (pushes.map .reply ++ [.get]) := by
  have hc : (Broker.createClient (Broker.initServer 0)).clients.lookup 1 = some ⟨none, ∅⟩ := rfl
  obtain ⟨s', hs'⟩ := smemsubscribeCommand_confirms hc rfl "ch"
  refine ⟨s', _, hs', subscribed_disagrees hc rfl hs' ?_⟩
  intro r hr
  cases List.mem_singleton.mp hr

end Server

end SelfTestCode.Client
