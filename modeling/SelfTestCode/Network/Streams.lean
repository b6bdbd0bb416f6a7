import SelfTestCode.Network.Output

/-!
# The stream of replies to a client

What a client has been sent and what is still to be sent to it is one text: the bytes its socket has
taken, then the rest of the static buffer or of the object that is being written, then the objects
behind it (`Conn.stream`).  A function that adds a reply appends to that text, and to nothing else
(`Adds`); the text is a value of the protocol, whether it takes the path of the shared objects, of
the static buffer or of the list.  A client that gets no replies keeps nothing (`Net.kept`).

`Net.Inv` is the invariant of the bookkeeping: the static buffer keeps within its size, `sentlen`
stays inside what is being written, `reply_bytes` is the memory of the listed objects, the two
lists of clients agree with the flags, and a client with unsent replies is on
`clients_pending_write`, has a write handler or is about to be closed.
-/

namespace SelfTestCode.Network

open Broker (ClientId)

/-! ## The text of a connection -/

/-- The texts of the listed objects. -/
def Conn.listed (k : Conn) : List Char := (k.reply.map Node.ptr).flatten

/-- What has not been written yet. -/
def Conn.pending (k : Conn) : List Char := (k.buf ++ k.listed).drop k.sentlen

/-- What the client gets to read, sent or not. -/
def Conn.stream (k : Conn) : List Char := k.socket ++ k.pending

/-- A reply for this client is kept. -/
def Conn.accepts (k : Conn) : Bool :=
  k.connected && !k.flags.replyOff && !k.flags.replySkip && !k.flags.closeAfterReply

/-- The length of what `sentlen` counts in. -/
def Conn.frontLength (k : Conn) : ℕ :=
  if k.buf = [] then (k.reply.head?.map fun o => o.ptr.length).getD 0 else k.buf.length

/-- The buffers of a connection are as they should be. -/
structure Conn.Sound (k : Conn) : Prop where
  buf_length : k.buf.length ≤ protoReplyChunkBytes
  sentlen_lt : k.sentlen = 0 ∨ k.sentlen < k.frontLength
  replyBytes_eq : k.replyBytes = (k.reply.map Node.usedMemory).sum

/-- Something will look after the unsent replies. -/
def Conn.Scheduled (k : Conn) : Prop :=
  k.flags.pendingWrite = true ∨ k.writeHandler = true ∨ k.flags.closeAsap = true

/-- The invariant of one connection. -/
structure Conn.Ok (k : Conn) : Prop extends Conn.Sound k where
  scheduled : k.hasPendingReplies = true → k.Scheduled
  handler : k.writeHandler = true → k.hasPendingReplies = true
  exclusive : k.flags.pendingWrite = true → k.writeHandler = false
  gone : k.connected = false → k = Conn.gone k.socket

/-- The invariant of the connections. -/
structure Net.Inv (n : Net) : Prop where
  ok : ∀ c, (n.conns c).Ok
  pending_iff : ∀ c, (n.conns c).flags.pendingWrite = true ↔ c ∈ n.clientsPendingWrite
  pending_nodup : n.clientsPendingWrite.Nodup
  close_iff : ∀ c, (n.conns c).flags.closeAsap = true ↔ c ∈ n.clientsToClose
  close_nodup : n.clientsToClose.Nodup

/-- The invariant with the connection of `c` left open. -/
structure Net.InvBut (n : Net) (c : ClientId) : Prop where
  ok : ∀ d, d ≠ c → (n.conns d).Ok
  pending_iff : ∀ d, (n.conns d).flags.pendingWrite = true ↔ d ∈ n.clientsPendingWrite
  pending_nodup : n.clientsPendingWrite.Nodup
  close_iff : ∀ d, (n.conns d).flags.closeAsap = true ↔ d ∈ n.clientsToClose
  close_nodup : n.clientsToClose.Nodup

section Basics

variable {n : Net} {c d : ClientId} {k : Conn}

@[simp] lemma Net.setConn_conns_self : (n.setConn c k).conns c = k := by simp [Net.setConn]

lemma Net.setConn_conns_of_ne (h : d ≠ c) : (n.setConn c k).conns d = n.conns d := by
  simp [Net.setConn, h]

@[simp] lemma Net.setConn_clientsPendingWrite :
    (n.setConn c k).clientsPendingWrite = n.clientsPendingWrite := rfl

@[simp] lemma Net.setConn_clientsToClose : (n.setConn c k).clientsToClose = n.clientsToClose := rfl

@[simp] lemma Net.setConn_unixtime : (n.setConn c k).unixtime = n.unixtime := rfl

@[simp] lemma Net.setConn_allocs : (n.setConn c k).allocs = n.allocs := rfl

lemma Conn.hasPendingReplies_eq_false :
    k.hasPendingReplies = false ↔ k.buf = [] ∧ k.reply = [] := by
  simp [Conn.hasPendingReplies]

/-- Without unsent replies nothing is partly sent. -/
lemma Conn.Sound.pending_eq_nil (h : k.Sound) (hk : k.hasPendingReplies = false) :
    k.sentlen = 0 ∧ k.pending = [] := by
  obtain ⟨hbuf, hreply⟩ := Conn.hasPendingReplies_eq_false.mp hk
  constructor
  · rcases h.sentlen_lt with hzero | hlt
    · exact hzero
    · simp [Conn.frontLength, hbuf, hreply] at hlt
  · simp [Conn.pending, Conn.listed, hbuf, hreply]

lemma Conn.Sound.sentlen_le (h : k.Sound) : k.sentlen ≤ (k.buf ++ k.listed).length := by
  rcases h.sentlen_lt with hzero | hlt
  · omega
  · rw [Conn.frontLength] at hlt
    split at hlt
    · cases hreply : k.reply with
      | nil => simp [hreply] at hlt
      | cons o rest =>
        simp only [hreply, List.head?_cons, Option.map_some, Option.getD_some] at hlt
        simp only [Conn.listed, hreply, List.map_cons, List.flatten_cons, List.length_append]
        omega
    · rw [List.length_append]
      omega

lemma Conn.ok_new : Conn.new.Ok where
  buf_length := by simp [Conn.new]
  sentlen_lt := .inl rfl
  replyBytes_eq := rfl
  scheduled h := by simp [Conn.new, Conn.hasPendingReplies] at h
  handler h := by simp [Conn.new] at h
  exclusive h := by simp [Conn.new, Flags.none] at h
  gone h := by simp [Conn.new] at h

lemma Conn.ok_gone (socket : List Char) : (Conn.gone socket).Ok where
  buf_length := by simp [Conn.gone, Conn.new]
  sentlen_lt := .inl rfl
  replyBytes_eq := rfl
  scheduled h := by simp [Conn.gone, Conn.new, Conn.hasPendingReplies] at h
  handler h := by simp [Conn.gone, Conn.new] at h
  exclusive h := by simp [Conn.gone, Conn.new, Flags.none] at h
  gone _ := rfl

@[simp] lemma Conn.stream_gone (socket : List Char) : (Conn.gone socket).stream = socket := by
  simp [Conn.stream, Conn.pending, Conn.listed, Conn.gone, Conn.new]

theorem Net.inv_init : Net.init.Inv where
  ok _ := Conn.ok_gone []
  pending_iff c := by simp [Net.init, Conn.gone, Conn.new, Flags.none]
  pending_nodup := List.nodup_nil
  close_iff c := by simp [Net.init, Conn.gone, Conn.new, Flags.none]
  close_nodup := List.nodup_nil

lemma Net.Inv.invBut (h : n.Inv) (c : ClientId) : n.InvBut c :=
  ⟨fun d _ => h.ok d, h.pending_iff, h.pending_nodup, h.close_iff, h.close_nodup⟩

lemma Net.InvBut.inv (h : n.InvBut c) (hok : (n.conns c).Ok) : n.Inv where
  ok d := by
    by_cases hd : d = c
    · exact hd ▸ hok
    · exact h.ok d hd
  pending_iff := h.pending_iff
  pending_nodup := h.pending_nodup
  close_iff := h.close_iff
  close_nodup := h.close_nodup

lemma Net.InvBut.setConn (h : n.InvBut c)
    (hpending : k.flags.pendingWrite = (n.conns c).flags.pendingWrite)
    (hclose : k.flags.closeAsap = (n.conns c).flags.closeAsap) : (n.setConn c k).InvBut c where
  ok d hd := by rw [Net.setConn_conns_of_ne hd]; exact h.ok d hd
  pending_iff d := by
    by_cases hd : d = c
    · subst hd; simpa [hpending] using h.pending_iff d
    · rw [Net.setConn_conns_of_ne hd]; exact h.pending_iff d
  pending_nodup := h.pending_nodup
  close_iff d := by
    by_cases hd : d = c
    · subst hd; simpa [hclose] using h.close_iff d
    · rw [Net.setConn_conns_of_ne hd]; exact h.close_iff d
  close_nodup := h.close_nodup

/-- A connection whose place in the two lists does not change. -/
lemma Net.Inv.setConn (h : n.Inv) (hk : k.Ok)
    (hpending : k.flags.pendingWrite = (n.conns c).flags.pendingWrite)
    (hclose : k.flags.closeAsap = (n.conns c).flags.closeAsap) : (n.setConn c k).Inv :=
  ((h.invBut c).setConn hpending hclose).inv (by simpa using hk)

/-! ## Scheduling a client to be closed -/

lemma freeClientAsync_conns_self : (freeClientAsync n c).conns c =
    { n.conns c with flags := { (n.conns c).flags with closeAsap := true } } := by
  unfold freeClientAsync
  dsimp only
  split
  · rename_i hasap
    rw [← hasap]
  · exact Net.setConn_conns_self

lemma freeClientAsync_conns_of_ne (h : d ≠ c) : (freeClientAsync n c).conns d = n.conns d := by
  unfold freeClientAsync
  dsimp only
  split
  · rfl
  · exact Net.setConn_conns_of_ne h

@[simp] lemma freeClientAsync_unixtime : (freeClientAsync n c).unixtime = n.unixtime := by
  unfold freeClientAsync
  dsimp only
  split <;> rfl

@[simp] lemma freeClientAsync_clientsPendingWrite :
    (freeClientAsync n c).clientsPendingWrite = n.clientsPendingWrite := by
  unfold freeClientAsync
  dsimp only
  split <;> rfl

lemma Net.InvBut.freeClientAsync (h : n.InvBut c) : (freeClientAsync n c).InvBut c where
  ok d hd := by rw [freeClientAsync_conns_of_ne hd]; exact h.ok d hd
  pending_iff d := by
    rw [freeClientAsync_clientsPendingWrite]
    by_cases hd : d = c
    · subst hd; rw [freeClientAsync_conns_self]; exact h.pending_iff d
    · rw [freeClientAsync_conns_of_ne hd]; exact h.pending_iff d
  pending_nodup := by rw [freeClientAsync_clientsPendingWrite]; exact h.pending_nodup
  close_iff d := by
    unfold Network.freeClientAsync
    dsimp only
    split
    · exact h.close_iff d
    · by_cases hd : d = c
      · subst hd; simp
      · simp only [Net.setConn_conns_of_ne hd, List.mem_append, List.mem_singleton, hd, or_false]
        exact h.close_iff d
  close_nodup := by
    unfold Network.freeClientAsync
    dsimp only
    split
    · exact h.close_nodup
    · rename_i hasap
      refine List.nodup_append.mpr ⟨h.close_nodup, List.nodup_singleton c, ?_⟩
      intro a ha b hb
      rw [List.mem_singleton.mp hb]
      rintro rfl
      exact hasap ((h.close_iff a).mpr ha)

/-- A connected client that is scheduled to be closed is looked after. -/
lemma Conn.Sound.ok_of_closeAsap (h : k.Sound) (hconn : k.connected = true)
    (hhandler : k.writeHandler = true → k.hasPendingReplies = true)
    (hexcl : k.flags.pendingWrite = true → k.writeHandler = false) :
    ({ k with flags := { k.flags with closeAsap := true } } : Conn).Ok where
  buf_length := h.buf_length
  sentlen_lt := h.sentlen_lt
  replyBytes_eq := h.replyBytes_eq
  scheduled _ := .inr (.inr rfl)
  handler := hhandler
  exclusive := hexcl
  gone hgone := absurd hconn (by simpa using hgone)

end Basics

/-! ## Adding replies -/

/-- The flags without the two that say in which lists the client is. -/
def Flags.steady (f : Flags) : Flags := { f with pendingWrite := false, closeAsap := false }

/-- From `n` to `n'` the text `t` has been added for the client `c`, and nothing else happened but
that `c` may have been scheduled. -/
structure Adds (n n' : Net) (c : ClientId) (t : List Char) : Prop where
  inv : n'.Inv
  stream : (n'.conns c).stream = (n.conns c).stream ++ t
  socket : (n'.conns c).socket = (n.conns c).socket
  steady : (n'.conns c).flags.steady = (n.conns c).flags.steady
  connected : (n'.conns c).connected = (n.conns c).connected
  others : ∀ d, d ≠ c → n'.conns d = n.conns d
  unixtime : n'.unixtime = n.unixtime

section Adds

variable {n n' n₁ n₂ : Net} {c : ClientId} {t t₁ t₂ : List Char}

lemma Adds.refl (h : n.Inv) (c : ClientId) : Adds n n c [] where
  inv := h
  stream := by simp
  socket := rfl
  steady := rfl
  connected := rfl
  others _ _ := rfl
  unixtime := rfl

lemma Adds.trans (h₁ : Adds n n₁ c t₁) (h₂ : Adds n₁ n₂ c t₂) : Adds n n₂ c (t₁ ++ t₂) where
  inv := h₂.inv
  stream := by rw [h₂.stream, h₁.stream, List.append_assoc]
  socket := h₂.socket.trans h₁.socket
  steady := h₂.steady.trans h₁.steady
  connected := h₂.connected.trans h₁.connected
  others d hd := (h₂.others d hd).trans (h₁.others d hd)
  unixtime := h₂.unixtime.trans h₁.unixtime

lemma accepts_congr {k k' : Conn} (hconn : k'.connected = k.connected)
    (hflags : k'.flags.steady = k.flags.steady) : k'.accepts = k.accepts := by
  have hoff := congrArg Flags.replyOff hflags
  have hskip := congrArg Flags.replySkip hflags
  have hclose := congrArg Flags.closeAfterReply hflags
  simp only [Flags.steady] at hoff hskip hclose
  rw [Conn.accepts, Conn.accepts, hconn, hoff, hskip, hclose]

lemma Adds.accepts (h : Adds n n' c t) : (n'.conns c).accepts = (n.conns c).accepts :=
  accepts_congr h.connected h.steady

/-- The part of a text that is kept for the client. -/
def Net.kept (n : Net) (c : ClientId) (s : List Char) : List Char :=
  if (n.conns c).accepts then s else []

lemma Net.kept_append (n : Net) (c : ClientId) (s t : List Char) :
    n.kept c s ++ n.kept c t = n.kept c (s ++ t) := by
  unfold Net.kept
  split <;> simp

lemma Adds.kept (h : Adds n n' c t) (s : List Char) : n'.kept c s = n.kept c s := by
  rw [Net.kept, Net.kept, h.accepts]

/-- Two replies in a row. -/
lemma Adds.then_kept {s₁ s₂ : List Char} (h₁ : Adds n n₁ c (n.kept c s₁))
    (h₂ : Adds n₁ n₂ c (n₁.kept c s₂)) : Adds n n₂ c (n.kept c (s₁ ++ s₂)) := by
  rw [h₁.kept s₂] at h₂
  rw [← Net.kept_append]
  exact h₁.trans h₂

/-- `freeClientAsync` on a connected client. -/
lemma freeClientAsync_adds (h : n.Inv) (hc : (n.conns c).connected = true) :
    Adds n (freeClientAsync n c) c [] := by
  have hok := h.ok c
  have hself := freeClientAsync_conns_self (n := n) (c := c)
  refine ⟨(h.invBut c).freeClientAsync.inv ?_, ?_, ?_, ?_, ?_,
    fun d hd => freeClientAsync_conns_of_ne hd, freeClientAsync_unixtime⟩
  · rw [hself]
    exact hok.toSound.ok_of_closeAsap hc hok.handler hok.exclusive
  · rw [hself]
    simp [Conn.stream, Conn.pending, Conn.listed]
  · rw [hself]
  · rw [hself]
    rfl
  · rw [hself]

end Adds

/-! ## Scheduling -/

section Scheduling

variable {n : Net} {c : ClientId} {cfg : Config}

/-- A client that `prepareClientToWrite` refuses keeps no reply. -/
lemma accepts_of_prepare_eq_none (h : prepareClientToWrite n c = none) :
    (n.conns c).accepts = false := by
  unfold prepareClientToWrite at h
  simp only at h
  split at h
  · rename_i hflags
    rcases Bool.or_eq_true _ _ ▸ hflags with hoff | hskip
    · simp [Conn.accepts, hoff]
    · simp [Conn.accepts, hskip]
  · split at h
    · rename_i hconn
      have hfalse : (n.conns c).connected = false := by simpa using hconn
      simp [Conn.accepts, hfalse]
    · split at h <;> exact absurd h (by simp)

/-- What `prepareClientToWrite` guarantees to its callers. -/
structure Prepared (n n' : Net) (c : ClientId) : Prop extends Adds n n' c [] where
  scheduled : (n'.conns c).Scheduled
  accepts_iff : (n'.conns c).accepts = !(n'.conns c).flags.closeAfterReply

lemma Prepared.is_connected {n' : Net} (h : Prepared n n' c)
    (hclose : (n'.conns c).flags.closeAfterReply = false) : (n'.conns c).connected = true := by
  have hacc := h.accepts_iff
  rw [hclose] at hacc
  simp only [Conn.accepts, Bool.not_false, Bool.and_eq_true] at hacc
  exact hacc.1.1.1

lemma prepareClientToWrite_prepared (h : n.Inv) {n' : Net}
    (hp : prepareClientToWrite n c = some n') : Prepared n n' c := by
  have hok := h.ok c
  unfold prepareClientToWrite at hp
  simp only at hp
  split at hp
  · exact absurd hp (by simp)
  rename_i hflags
  split at hp
  · exact absurd hp (by simp)
  rename_i hconn
  have hconn' : (n.conns c).connected = true := by simpa using hconn
  have haccepts : (n.conns c).accepts = !(n.conns c).flags.closeAfterReply := by
    simp only [Bool.or_eq_true, not_or, Bool.not_eq_true] at hflags
    simp [Conn.accepts, hconn', hflags.1, hflags.2]
  split at hp
  · rename_i hfresh
    obtain rfl := Option.some.inj hp
    obtain ⟨hpend, hflag⟩ : (n.conns c).hasPendingReplies = false ∧
        (n.conns c).flags.pendingWrite = false := by simpa using hfresh
    have hnot : c ∉ n.clientsPendingWrite := fun hmem => by
      rw [(h.pending_iff c).mpr hmem] at hflag
      exact absurd hflag (by simp)
    have hhandler : (n.conns c).writeHandler = false := by
      by_contra hw
      have := hok.handler (by simpa using hw)
      rw [hpend] at this
      exact absurd this (by simp)
    refine ⟨⟨⟨?_, ?_, ?_, ?_, h.close_nodup⟩, ?_, ?_, ?_, ?_, ?_, rfl⟩, ?_, ?_⟩
    · intro d
      by_cases hd : d = c
      · subst hd
        rw [Net.setConn_conns_self]
        exact ⟨⟨hok.buf_length, hok.sentlen_lt, hok.replyBytes_eq⟩, fun _ => .inl rfl,
          hok.handler, fun _ => hhandler, fun hgone => absurd hconn' (by simpa using hgone)⟩
      · simp only [Net.setConn_conns_of_ne hd]
        exact h.ok d
    · intro d
      by_cases hd : d = c
      · subst hd; simp
      · simp only [Net.setConn_conns_of_ne hd, List.mem_cons, hd, false_or]
        exact h.pending_iff d
    · exact List.nodup_cons.mpr ⟨hnot, h.pending_nodup⟩
    · intro d
      by_cases hd : d = c
      · subst hd; simpa using h.close_iff d
      · simp only [Net.setConn_conns_of_ne hd]; exact h.close_iff d
    · simp [Conn.stream, Conn.pending, Conn.listed]
    · simp
    · simp [Flags.steady]
    · simp
    · intro d hd
      exact Net.setConn_conns_of_ne hd
    · exact .inl (by simp)
    · simp only [Net.setConn_conns_self]
      rw [← haccepts]
      exact accepts_congr (by simp) (by simp [Flags.steady])
  · rename_i hbusy
    obtain rfl := Option.some.inj hp
    refine ⟨Adds.refl h c, ?_, haccepts⟩
    by_cases hflag : (n.conns c).flags.pendingWrite = true
    · exact .inl hflag
    · apply hok.scheduled
      simpa [hflag] using hbusy

/-- `checkClientOutputBufferLimits` changes the time of the soft limit only. -/
lemma checkClientOutputBufferLimits_eq (cfg : Config) (now : Int64) (k : Conn) :
    ∃ time, (checkClientOutputBufferLimits cfg now k).2 =
      { k with obufSoftLimitReachedTime := time } := by
  unfold checkClientOutputBufferLimits
  simp only
  split
  · split
    · exact ⟨now, rfl⟩
    · exact ⟨k.obufSoftLimitReachedTime, rfl⟩
  · exact ⟨0, rfl⟩

lemma Conn.Ok.softLimitTime {k : Conn} (h : k.Ok) (hc : k.connected = true) (time : Int64) :
    ({ k with obufSoftLimitReachedTime := time } : Conn).Ok where
  buf_length := h.buf_length
  sentlen_lt := h.sentlen_lt
  replyBytes_eq := h.replyBytes_eq
  scheduled := h.scheduled
  handler := h.handler
  exclusive := h.exclusive
  gone hgone := absurd hc (by simpa using hgone)

lemma asyncClose_adds (h : n.Inv) (hc : (n.conns c).connected = true) :
    Adds n (asyncCloseClientOnOutputBufferLimitReached cfg n c) c [] := by
  unfold asyncCloseClientOnOutputBufferLimitReached
  simp only
  split
  · exact Adds.refl h c
  · obtain ⟨time, htime⟩ := checkClientOutputBufferLimits_eq cfg n.unixtime (n.conns c)
    have hset : Adds n (n.setConn c { n.conns c with obufSoftLimitReachedTime := time }) c [] := by
      refine ⟨h.setConn ((h.ok c).softLimitTime hc time) rfl rfl, ?_, ?_, ?_, ?_, ?_, rfl⟩
      · simp [Conn.stream, Conn.pending, Conn.listed]
      · simp
      · simp
      · simp
      · intro d hd
        exact Net.setConn_conns_of_ne hd
    rw [htime]
    split
    · exact hset.trans (freeClientAsync_adds hset.inv (by simpa using hc))
    · exact hset

end Scheduling

/-! ## Buffers -/

section Buffers

variable {n : Net} {c : ClientId} {cfg : Config} {k : Conn}

/-- A text that goes behind everything that is there. -/
lemma Conn.Sound.stream_append (h : k.Sound) {k' : Conn} {s : List Char}
    (htext : k'.buf ++ k'.listed = k.buf ++ k.listed ++ s) (hsent : k'.sentlen = k.sentlen)
    (hsocket : k'.socket = k.socket) : k'.stream = k.stream ++ s := by
  rw [Conn.stream, Conn.stream, Conn.pending, Conn.pending, htext, hsent, hsocket,
    List.drop_append_of_le_length h.sentlen_le, List.append_assoc]

lemma Conn.Ok.addReplyToBuffer {s : List Char} (h : k.Ok) (hsched : k.Scheduled)
    (hclose : k.flags.closeAfterReply = false) (hconn : k.connected = true) {k' : Conn}
    (hadd : k.addReplyToBuffer s = some k') :
    k'.Ok ∧ k'.stream = k.stream ++ s ∧ k'.flags = k.flags ∧ k'.socket = k.socket ∧
      k'.connected = k.connected := by
  unfold Conn.addReplyToBuffer at hadd
  simp only [hclose, Bool.false_eq_true, if_false] at hadd
  split at hadd
  · exact absurd hadd (by simp)
  rename_i hlist
  split at hadd
  · exact absurd hadd (by simp)
  rename_i hroom
  obtain rfl := Option.some.inj hadd
  have hreply : k.reply = [] := by
    have := Nat.eq_zero_of_not_pos hlist
    exact List.length_eq_zero_iff.mp this
  have hlen : (k.buf ++ s).length ≤ protoReplyChunkBytes := by
    have := h.buf_length
    rw [List.length_append]
    omega
  refine ⟨⟨⟨hlen, ?_, h.replyBytes_eq⟩, fun _ => hsched, ?_, h.exclusive, ?_⟩, ?_, rfl, rfl, rfl⟩
  · rcases h.sentlen_lt with hzero | hlt
    · exact .inl hzero
    · right
      -- the list is empty, so it is the buffer that is being written
      by_cases hbuf : k.buf = []
      · simp [Conn.frontLength, hbuf, hreply] at hlt
      · simp only [Conn.frontLength, hbuf, if_false] at hlt
        simp only [Conn.frontLength, List.append_eq_nil_iff, hbuf, false_and, if_false,
          List.length_append]
        omega
  · intro hw
    have := h.handler hw
    simp only [Conn.hasPendingReplies, hreply] at this ⊢
    simp only [List.isEmpty_nil, Bool.not_true, Bool.or_false, Bool.not_eq_true',
      List.isEmpty_eq_false_iff] at this ⊢
    simp [this]
  · intro hgone
    exact absurd hconn (by simpa using hgone)
  · refine h.toSound.stream_append ?_ ?_ ?_
    · simp [Conn.listed, hreply]
    · rfl
    · rfl

lemma Conn.addNode_listed (mem : ℕ) (k : Conn) (encoding : Encoding) (s : List Char) :
    (k.addNode mem encoding s).listed = k.listed ++ s := by
  unfold Conn.addNode
  split
  · rename_i tail htail
    split
    · have hsplit := List.dropLast_append_getLast? tail htail
      conv_rhs => rw [Conn.listed, ← hsplit]
      simp [Conn.listed]
    · simp [Conn.listed]
  · simp [Conn.listed]

lemma Conn.addNode_replyBytes {mem : ℕ} {encoding : Encoding} {s : List Char}
    (h : k.replyBytes = (k.reply.map Node.usedMemory).sum) :
    (k.addNode mem encoding s).replyBytes =
      ((k.addNode mem encoding s).reply.map Node.usedMemory).sum := by
  unfold Conn.addNode
  split
  · rename_i tail htail
    split
    · have hsplit := List.dropLast_append_getLast? tail htail
      have hsum : (k.reply.map Node.usedMemory).sum =
          (k.reply.dropLast.map Node.usedMemory).sum + tail.usedMemory := by
        conv_lhs => rw [← hsplit]
        simp
      simp only [h, hsum, List.map_append, List.map_cons, List.map_nil, List.sum_append,
        List.sum_cons, List.sum_nil]
      omega
    · simp [h]
  · simp [h]

lemma Conn.addNode_reply_ne_nil (mem : ℕ) (k : Conn) (encoding : Encoding) (s : List Char) :
    (k.addNode mem encoding s).reply ≠ [] := by
  unfold Conn.addNode
  split
  · split <;> simp
  · simp

/-- The first object only grows. -/
lemma Conn.addNode_frontLength (mem : ℕ) (k : Conn) (encoding : Encoding) (s : List Char) :
    k.frontLength ≤ (k.addNode mem encoding s).frontLength := by
  have hbuf : (k.addNode mem encoding s).buf = k.buf := by
    unfold Conn.addNode
    split
    · split <;> rfl
    · rfl
  unfold Conn.frontLength
  rw [hbuf]
  split
  · cases hreply : k.reply with
    | nil => simp
    | cons o rest =>
      unfold Conn.addNode
      rw [hreply]
      cases rest with
      | nil =>
        simp only [List.getLast?_singleton]
        split <;> simp
      | cons o' rest =>
        simp only [List.getLast?_cons_cons]
        split
        · split <;> simp
        · simp
  · exact le_rfl

/-- What `addNode` leaves alone. -/
lemma Conn.addNode_frame (mem : ℕ) (k : Conn) (encoding : Encoding) (s : List Char) :
    let k' := k.addNode mem encoding s
    k'.buf = k.buf ∧ k'.sentlen = k.sentlen ∧ k'.flags = k.flags ∧ k'.socket = k.socket ∧
      k'.connected = k.connected ∧ k'.writeHandler = k.writeHandler := by
  unfold Conn.addNode
  simp only
  split
  · split <;> exact ⟨rfl, rfl, rfl, rfl, rfl, rfl⟩
  · exact ⟨rfl, rfl, rfl, rfl, rfl, rfl⟩

lemma Conn.Ok.addNode (h : k.Ok) (hsched : k.Scheduled) (hconn : k.connected = true) (mem : ℕ)
    (encoding : Encoding) (s : List Char) :
    (k.addNode mem encoding s).Ok ∧ (k.addNode mem encoding s).stream = k.stream ++ s := by
  obtain ⟨hbuf, hsent, hflags, hsocket, hconn', hw⟩ := Conn.addNode_frame mem k encoding s
  have hpend : (k.addNode mem encoding s).hasPendingReplies = true := by
    have hne := Conn.addNode_reply_ne_nil mem k encoding s
    simp [Conn.hasPendingReplies, hne]
  refine ⟨⟨⟨?_, ?_, Conn.addNode_replyBytes h.replyBytes_eq⟩, fun _ => ?_, fun _ => hpend, ?_, ?_⟩,
    ?_⟩
  · rw [hbuf]
    exact h.buf_length
  · rw [hsent]
    rcases h.sentlen_lt with hzero | hlt
    · exact .inl hzero
    · exact .inr (hlt.trans_le (Conn.addNode_frontLength mem k encoding s))
  · rw [Conn.Scheduled, hflags, hw]
    exact hsched
  · rw [hflags, hw]
    exact h.exclusive
  · intro hgone
    rw [hconn', hconn] at hgone
    exact absurd hgone (by simp)
  · apply h.toSound.stream_append _ hsent hsocket
    rw [hbuf, Conn.addNode_listed, List.append_assoc]

/-- Listing a reply. -/
lemma addToList_adds (h : n.Inv) (hsched : (n.conns c).Scheduled)
    (hclose : (n.conns c).flags.closeAfterReply = false) (hconn : (n.conns c).connected = true)
    (encoding : Encoding) (s : List Char) : Adds n (addToList cfg n c encoding s) c s := by
  obtain ⟨hok, hstream⟩ := (h.ok c).addNode hsched hconn (cfg.zmallocSize n.allocs) encoding s
  obtain ⟨-, -, hflags, hsocket, hconn', -⟩ :=
    Conn.addNode_frame (cfg.zmallocSize n.allocs) (n.conns c) encoding s
  have hset := h.setConn (c := c) hok (by rw [hflags]) (by rw [hflags])
  unfold addToList
  simp only [hclose, Bool.false_eq_true, if_false]
  have hadds : Adds n { n.setConn c ((n.conns c).addNode (cfg.zmallocSize n.allocs) encoding s) with
      allocs := n.allocs + 1 } c s := by
    refine ⟨⟨hset.ok, hset.pending_iff, hset.pending_nodup, hset.close_iff, hset.close_nodup⟩,
      ?_, ?_, ?_, ?_, ?_, rfl⟩
    · simpa using hstream
    · simpa using hsocket
    · simp [hflags]
    · simpa using hconn'
    · intro d hd
      exact Net.setConn_conns_of_ne hd
  have hclosed : Adds _ (asyncCloseClientOnOutputBufferLimitReached cfg _ c) c [] :=
    asyncClose_adds hadds.inv (by rw [hadds.connected]; exact hconn)
  simpa using hadds.trans hclosed

/-- Into the buffer or into the list: the text is added once. -/
lemma toBufferOr_adds {n₁ : Net} (hp : Prepared n n₁ c) {s : List Char} {toList : Net → Net}
    (hlist : (n₁.conns c).flags.closeAfterReply = false → Adds n₁ (toList n₁) c s) :
    Adds n₁ (toBufferOr n₁ c s toList) c (n₁.kept c s) := by
  unfold toBufferOr
  by_cases hclose : (n₁.conns c).flags.closeAfterReply = true
  · have hbuf : (n₁.conns c).addReplyToBuffer s = some (n₁.conns c) := by
      simp [Conn.addReplyToBuffer, hclose]
    have hsame : n₁.setConn c (n₁.conns c) = n₁ := by
      simp [Net.setConn]
    have hkept : n₁.kept c s = [] := by
      rw [Net.kept, hp.accepts_iff, hclose]
      rfl
    simp only [hbuf, hsame, hkept]
    exact Adds.refl hp.inv c
  · have hclose' : (n₁.conns c).flags.closeAfterReply = false := by simpa using hclose
    have hconn := hp.is_connected hclose'
    have hkept : n₁.kept c s = s := by
      rw [Net.kept, hp.accepts_iff, hclose']
      rfl
    rw [hkept]
    split
    · rename_i k' hadd
      obtain ⟨hok, hstream, hflags, hsocket, hconn'⟩ :=
        (hp.inv.ok c).addReplyToBuffer hp.scheduled hclose' hconn hadd
      refine ⟨hp.inv.setConn hok (by rw [hflags]) (by rw [hflags]), ?_, ?_, ?_, ?_, ?_, rfl⟩
      · simpa using hstream
      · simpa using hsocket
      · simp [hflags]
      · simpa using hconn'
      · intro d hd
        exact Net.setConn_conns_of_ne hd
    · exact hlist hclose'

end Buffers

/-! ## Replies -/

section Replies

variable {n : Net} {c : ClientId} {cfg : Config}

/-- The text of an object. -/
def Robj.text : Robj → List Char
  | .sds _ ptr => ptr
  | .int v => ll2string v

/-- The common shape of `addReply`, `addReplySds` and `addReplyString`. -/
lemma prepared_adds {s : List Char} {body : Net → Net} (h : n.Inv)
    (hbody : ∀ n₁, Prepared n n₁ c → Adds n₁ (body n₁) c (n₁.kept c s)) :
    Adds n (match prepareClientToWrite n c with | none => n | some n₁ => body n₁) c
      (n.kept c s) := by
  split
  · rename_i hp
    rw [Net.kept, accepts_of_prepare_eq_none hp]
    exact Adds.refl h c
  · rename_i n₁ hp
    have hprep := prepareClientToWrite_prepared h hp
    have hadds := hbody n₁ hprep
    rw [hprep.kept s] at hadds
    simpa using hprep.toAdds.trans hadds

lemma addReplyString_adds (h : n.Inv) (s : List Char) :
    Adds n (addReplyString cfg n c s) c (n.kept c s) :=
  prepared_adds h fun _ hp => toBufferOr_adds hp fun hclose =>
    addToList_adds hp.inv hp.scheduled hclose (hp.is_connected hclose) _ s

lemma addReplySds_adds (h : n.Inv) (s : List Char) :
    Adds n (addReplySds cfg n c s) c (n.kept c s) :=
  prepared_adds h fun _ hp => toBufferOr_adds hp fun hclose =>
    addToList_adds hp.inv hp.scheduled hclose (hp.is_connected hclose) _ s

/-- The shortcut for numbers adds what the plain path adds. -/
lemma addReply_adds (h : n.Inv) (obj : Robj) :
    Adds n (addReply cfg n c obj) c (n.kept c obj.text) := by
  cases obj with
  | sds encoding ptr =>
    exact prepared_adds h fun _ hp => toBufferOr_adds hp fun hclose =>
      addToList_adds hp.inv hp.scheduled hclose (hp.is_connected hclose) _ ptr
  | int v =>
    refine prepared_adds h fun n₁ hp => ?_
    have hdecoded : Adds n₁ (toBufferOr n₁ c (ll2string v) fun n => addReplyObjectToList cfg n c
        (cfg.createStringObject (ll2string v).length) (ll2string v)) c (n₁.kept c (ll2string v)) :=
      toBufferOr_adds hp fun hclose =>
        addToList_adds hp.inv hp.scheduled hclose (hp.is_connected hclose) _ _
    dsimp only
    split
    · refine toBufferOr_adds hp fun hclose => ?_
      have hkept : n₁.kept c (ll2string v) = ll2string v := by
        rw [Net.kept, hp.accepts_iff, hclose]
        rfl
      rwa [hkept] at hdecoded
    · exact hdecoded

lemma addReplyErrorLength_adds (h : n.Inv) (s : List Char) :
    Adds n (addReplyErrorLength cfg n c s) c
      (n.kept c (Resp.Value.encode (.error ("ERR ".toList ++ s)))) := by
  have h₁ : Adds n (addReplyString cfg n c _) c _ := addReplyString_adds h ("-ERR ".toList)
  have h₂ : Adds _ (addReplyString cfg _ c s) c _ := addReplyString_adds h₁.inv s
  have h₃ : Adds _ (addReplyString cfg _ c _) c _ := addReplyString_adds h₂.inv Resp.crlf
  have hall := (h₁.then_kept h₂).then_kept h₃
  have htext : ("-ERR ".toList ++ s) ++ Resp.crlf =
      Resp.Value.encode (.error ("ERR ".toList ++ s)) := by
    simp [Resp.Value.encode, Resp.line]
  rw [htext] at hall
  exact hall

/-- The shared headers are what the general path prints. -/
lemma addReplyLongLongWithPrefix_adds (h : n.Inv) (ll : Int64) (kind : Char) :
    Adds n (addReplyLongLongWithPrefix cfg n c ll kind) c
      (n.kept c (kind :: Resp.line (ll2string ll))) := by
  unfold addReplyLongLongWithPrefix
  split
  · rename_i hsmall
    obtain ⟨rfl, -, hpos⟩ := hsmall
    have htext : (sharedMbulkhdr ll.toInt.toNat).text = '*' :: Resp.line (ll2string ll) := by
      rw [sharedMbulkhdr, Robj.text, ll2string, Int.toNat_of_nonneg hpos]
    rw [← htext]
    exact addReply_adds h _
  · split
    · rename_i hsmall
      obtain ⟨rfl, -, hpos⟩ := hsmall
      have htext : (sharedBulkhdr ll.toInt.toNat).text = '$' :: Resp.line (ll2string ll) := by
        rw [sharedBulkhdr, Robj.text, ll2string, Int.toNat_of_nonneg hpos]
      rw [← htext]
      exact addReply_adds h _
    · exact addReplyString_adds h _

lemma addReplyLongLong_adds (h : n.Inv) (ll : Int64) :
    Adds n (addReplyLongLong cfg n c ll) c (n.kept c (Resp.Value.encode (.integer ll.toInt))) := by
  unfold addReplyLongLong
  split
  · rename_i hzero
    subst hzero
    exact addReply_adds h _
  · split
    · rename_i hone
      subst hone
      exact addReply_adds h _
    · exact addReplyLongLongWithPrefix_adds h ll ':'

lemma ll2string_ofNat {m : ℕ} (h : m < 2 ^ 63) :
    ll2string (Int64.ofNat m) = Numeral.intChars m := by
  rw [ll2string, Int64.toInt_ofNat_of_lt h]

lemma decimalLength_eq (m : ℕ) : decimalLength m = (Nat.toDigits 10 m).length := by
  induction m using Nat.strongRecOn with
  | ind m ih =>
    rw [decimalLength, Nat.toDigits_eq_if (by decide)]
    by_cases hm : m < 10
    · rw [if_pos (Nat.div_eq_of_lt hm), if_pos hm]
      rfl
    · have hdiv : m / 10 ≠ 0 := by omega
      rw [if_neg hdiv, if_neg hm, ih (m / 10) (by omega), List.length_append]
      rfl

/-- The digits that `addReplyBulkLen` counts are those that `ll2string` prints. -/
lemma Robj.bulkLen_eq (obj : Robj) : obj.bulkLen = obj.text.length := by
  cases obj with
  | sds encoding ptr => rfl
  | int v =>
    rw [Robj.bulkLen, Robj.text, ll2string, Numeral.intChars, decimalLength_eq]
    split
    · rw [List.length_cons, Nat.add_comm]
    · rw [Nat.zero_add]

lemma addReplyBulkLen_adds (h : n.Inv) {obj : Robj} (hlen : obj.text.length < 2 ^ 63) :
    Adds n (addReplyBulkLen cfg n c obj) c
      (n.kept c ('$' :: Resp.line (Numeral.intChars obj.text.length))) := by
  unfold addReplyBulkLen
  rw [Robj.bulkLen_eq]
  split
  · exact addReply_adds h _
  · rw [← ll2string_ofNat hlen]
    exact addReplyLongLongWithPrefix_adds h _ _

lemma addReplyBulk_adds (h : n.Inv) {obj : Robj} (hlen : obj.text.length < 2 ^ 63) :
    Adds n (addReplyBulk cfg n c obj) c (n.kept c (Resp.Value.encode (.bulk obj.text))) := by
  have h₁ : Adds n (addReplyBulkLen cfg n c obj) c _ := addReplyBulkLen_adds h hlen
  have h₂ : Adds _ (addReply cfg _ c obj) c _ := addReply_adds h₁.inv obj
  have h₃ : Adds _ (addReply cfg _ c sharedCrlf) c _ := addReply_adds h₂.inv sharedCrlf
  have hall := (h₁.then_kept h₂).then_kept h₃
  have htext : ('$' :: Resp.line (Numeral.intChars obj.text.length) ++ obj.text) ++
      sharedCrlf.text = Resp.Value.encode (.bulk obj.text) := by
    simp [Resp.Value.encode, Resp.line, sharedCrlf, Robj.text]
  rw [htext] at hall
  exact hall

end Replies

end SelfTestCode.Network
