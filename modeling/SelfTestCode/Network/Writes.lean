import SelfTestCode.Network.Streams

/-!
# Writing the replies

`writeToClient` moves bytes from the front of a connection's buffers to its socket, as many as the
socket takes; the stream of the client stays what it is (`Conn.writeLoop_writes`).  The events that
write are the write handler, the loop over `clients_pending_write` before the server sleeps and the
loop over `clients_to_close`; each of them keeps the invariant and moves bytes or frees clients
(`Moves`).

`network` is the transition system of all calls of the output functions, in any order, with any
answers of the kernel and the allocator.  Beside the state it carries the replies that were kept for
each client.
-/

namespace SelfTestCode.Network

open Broker (ClientId)

/-! ## Writing -/

/-- From `k` to `k'` bytes have gone to the socket, and nothing else happened to the client. -/
structure Conn.Writes (k k' : Conn) : Prop where
  sound : k'.Sound
  stream : k'.stream = k.stream
  socket : k.socket <+: k'.socket
  flags : k'.flags = k.flags
  connected : k'.connected = k.connected
  writeHandler : k'.writeHandler = k.writeHandler

section Writing

variable {k k' k'' : Conn} {m : ℕ}

lemma Conn.Writes.refl (h : k.Sound) : k.Writes k :=
  ⟨h, rfl, List.prefix_rfl, rfl, rfl, rfl⟩

lemma Conn.Writes.trans (h : k.Writes k') (h' : k'.Writes k'') : k.Writes k'' :=
  ⟨h'.sound, h'.stream.trans h.stream, h.socket.trans h'.socket, h'.flags.trans h.flags,
    h'.connected.trans h.connected, h'.writeHandler.trans h.writeHandler⟩

/-- A piece taken out of the front and what stays behind it. -/
lemma take_append_drop_append {xs : List Char} {i m : ℕ} (h : i + m ≤ xs.length)
    (ys : List Char) :
    (xs.drop i).take m ++ (xs ++ ys).drop (i + m) = (xs ++ ys).drop i := by
  rw [List.drop_append_of_le_length h, List.drop_append_of_le_length (by omega),
    ← List.append_assoc, ← List.drop_drop, List.take_append_drop]

lemma Conn.Sound.sendBuf (h : k.Sound) (hbuf : k.buf ≠ [])
    (hm : m ≤ k.buf.length - k.sentlen) : k.Writes (k.sendBuf m) := by
  have hle : k.sentlen ≤ k.buf.length := by
    have hpos := List.length_pos_iff.mpr hbuf
    rcases h.sentlen_lt with hzero | hlt
    · omega
    · simp only [Conn.frontLength, hbuf, if_false] at hlt
      omega
  have hsum : k.sentlen + m ≤ k.buf.length := by omega
  have hpiece := take_append_drop_append hsum k.listed
  unfold Conn.sendBuf
  simp only
  split
  · rename_i hall
    -- the whole buffer is written: what is pending is the list
    refine ⟨⟨by simp, .inl rfl, h.replyBytes_eq⟩, ?_, List.prefix_append _ _, rfl, rfl, rfl⟩
    rw [hall] at hpiece
    simp only [Conn.stream, Conn.pending, Conn.listed, List.nil_append, List.drop_zero] at hpiece ⊢
    rw [List.append_assoc, ← hpiece, List.drop_left]
  · rename_i hpart
    refine ⟨⟨h.buf_length, .inr ?_, h.replyBytes_eq⟩, ?_, List.prefix_append _ _, rfl, rfl, rfl⟩
    · simp only [Conn.frontLength, hbuf, if_false]
      omega
    · simp only [Conn.stream, Conn.pending, Conn.listed] at hpiece ⊢
      rw [List.append_assoc, hpiece]

lemma Conn.Sound.sendNode {o : Node} {rest : List Node} (h : k.Sound) (hbuf : k.buf = [])
    (hreply : k.reply = o :: rest) (hm : m ≤ o.ptr.length - k.sentlen) :
    k.Writes (k.sendNode o rest m) := by
  have hle : k.sentlen ≤ o.ptr.length := by
    rcases h.sentlen_lt with hzero | hlt
    · omega
    · simp only [Conn.frontLength, hbuf, hreply, if_true, List.head?_cons, Option.map_some,
        Option.getD_some] at hlt
      omega
  have hsum : k.sentlen + m ≤ o.ptr.length := by omega
  have hpiece := take_append_drop_append hsum (rest.map Node.ptr).flatten
  have hbytes : k.replyBytes = o.usedMemory + (rest.map Node.usedMemory).sum := by
    rw [h.replyBytes_eq, hreply, List.map_cons, List.sum_cons]
  unfold Conn.sendNode
  simp only
  split
  · rename_i hall
    refine ⟨⟨h.buf_length, .inl rfl, ?_⟩, ?_, List.prefix_append _ _, rfl, rfl, rfl⟩
    · simp only [hbytes]
      omega
    · rw [hall] at hpiece
      simp only [Conn.stream, Conn.pending, Conn.listed, hbuf, hreply, List.nil_append,
        List.drop_zero, List.map_cons, List.flatten_cons] at hpiece ⊢
      rw [List.append_assoc, ← hpiece, List.drop_left]
  · rename_i hpart
    refine ⟨⟨h.buf_length, .inr ?_, h.replyBytes_eq⟩, ?_, List.prefix_append _ _, rfl, rfl, rfl⟩
    · simp only [Conn.frontLength, hbuf, hreply, if_true, List.head?_cons, Option.map_some,
        Option.getD_some]
      omega
    · simp only [Conn.stream, Conn.pending, Conn.listed, hbuf, hreply, List.nil_append,
        List.map_cons, List.flatten_cons] at hpiece ⊢
      rw [List.append_assoc, hpiece]

/-- An empty object is dropped. -/
lemma Conn.Sound.dropEmpty {o : Node} {rest : List Node} (h : k.Sound) (hbuf : k.buf = [])
    (hreply : k.reply = o :: rest) (ho : o.ptr = []) :
    k.Writes { k with reply := rest, replyBytes := k.replyBytes - o.usedMemory } := by
  have hsent : k.sentlen = 0 := by
    rcases h.sentlen_lt with hzero | hlt
    · exact hzero
    · simp [Conn.frontLength, hbuf, hreply, ho] at hlt
  refine ⟨⟨h.buf_length, .inl hsent, ?_⟩, ?_, List.prefix_rfl, rfl, rfl, rfl⟩
  · simp only [h.replyBytes_eq, hreply, List.map_cons, List.sum_cons]
    omega
  · simp [Conn.stream, Conn.pending, Conn.listed, hreply, ho]

lemma WriteResult.sent_le {r : WriteResult} {offered : ℕ} (h : r.written offered = .sent m) :
    m ≤ offered ∧ 0 < m := by
  cases r with
  | wrote j =>
    simp only [WriteResult.written] at h
    split at h
    · exact absurd h (by simp)
    · rename_i hne
      obtain rfl := Written.sent.inj h
      exact ⟨Nat.min_le_right _ _, Nat.pos_of_ne_zero hne⟩
  | eagain => exact absurd h (by simp [WriteResult.written])
  | error => exact absurd h (by simp [WriteResult.written])

/-- The loop of `writeToClient` moves bytes to the socket and changes nothing in the stream. -/
lemma Conn.writeLoop_writes (turns : List Turn) (totwritten : ℕ) (h : k.Sound) :
    k.Writes (k.writeLoop turns totwritten).2 := by
  induction turns generalizing totwritten k with
  | nil => exact Conn.Writes.refl h
  | cons t turns ih =>
    rw [Conn.writeLoop]
    split
    · exact Conn.Writes.refl h
    split
    · rename_i hbuf
      have hbuf' : k.buf ≠ [] := List.length_pos_iff.mp hbuf
      split
      · exact Conn.Writes.refl h
      · exact Conn.Writes.refl h
      · rename_i m hm
        have hsent := h.sendBuf hbuf' (WriteResult.sent_le hm).1
        split
        · exact hsent
        · exact hsent.trans (ih _ hsent.sound)
    · rename_i hbuf
      have hbuf' : k.buf = [] := List.length_eq_zero_iff.mp (Nat.eq_zero_of_not_pos hbuf)
      split
      · exact Conn.Writes.refl h
      · rename_i o rest hreply
        split
        · rename_i hempty
          have hdropped := h.dropEmpty hbuf' hreply (List.length_eq_zero_iff.mp hempty)
          exact hdropped.trans (ih _ hdropped.sound)
        · split
          · exact Conn.Writes.refl h
          · exact Conn.Writes.refl h
          · rename_i m hm
            have hsent := h.sendNode hbuf' hreply (WriteResult.sent_le hm).1
            split
            · exact hsent
            · exact hsent.trans (ih _ hsent.sound)

end Writing

/-! ## Events -/

/-- What an event that adds no reply does to a connection: bytes go to the socket, or the client is
freed after some did. -/
def Conn.Moved (k k' : Conn) : Prop :=
  k.socket <+: k'.socket ∧
    (k'.stream = k.stream ∧ k'.connected = k.connected ∧ k'.flags.steady = k.flags.steady ∨
      k'.connected = false ∧ k'.socket <+: k.stream)

section Events

variable {n n' : Net} {c : ClientId} {k k' k'' : Conn}

lemma Conn.Moved.refl (k : Conn) : k.Moved k := ⟨List.prefix_rfl, .inl ⟨rfl, rfl, rfl⟩⟩

lemma Conn.socket_prefix_stream (k : Conn) : k.socket <+: k.stream := List.prefix_append _ _

lemma Conn.Ok.stream_of_gone (h : k.Ok) (hgone : k.connected = false) : k.stream = k.socket := by
  rw [h.gone hgone, Conn.stream_gone]
  rfl

lemma Conn.Moved.trans (h : k.Moved k') (hrest : k'.connected = false → k'.stream = k'.socket)
    (h' : k'.Moved k'') : k.Moved k'' := by
  refine ⟨h.1.trans h'.1, ?_⟩
  rcases h.2 with ⟨hstream, hconn, hsteady⟩ | ⟨hgone, hsock⟩
  · rcases h'.2 with ⟨hstream', hconn', hsteady'⟩ | ⟨hgone', hsock'⟩
    · exact .inl ⟨hstream'.trans hstream, hconn'.trans hconn, hsteady'.trans hsteady⟩
    · exact .inr ⟨hgone', hstream ▸ hsock'⟩
  · right
    -- a client that is gone has nothing left to move
    have hk' := hrest hgone
    rcases h'.2 with ⟨hstream', hconn', -⟩ | ⟨hgone', hsock'⟩
    · refine ⟨hconn'.trans hgone, ?_⟩
      have := k''.socket_prefix_stream
      rw [hstream', hk'] at this
      exact this.trans hsock
    · exact ⟨hgone', (hk' ▸ hsock').trans hsock⟩

/-- The members of a duplicate-free list from which `c` is erased when a flag is set. -/
lemma mem_erase_of_flag {l : List ClientId} (hl : l.Nodup) {b : Bool} (hb : b = true ↔ c ∈ l)
    (d : ClientId) : d ∈ (if b then l.erase c else l) ↔ d ≠ c ∧ d ∈ l := by
  split
  · exact hl.mem_erase_iff
  · rename_i hnot
    constructor
    · intro hd
      refine ⟨?_, hd⟩
      rintro rfl
      exact hnot (hb.mpr hd)
    · exact fun h => h.2

lemma nodup_erase_of_flag {l : List ClientId} (hl : l.Nodup) (b : Bool) :
    (if b then l.erase c else l).Nodup := by
  split
  · exact hl.erase c
  · exact hl

lemma freeClient_conns_self : (freeClient n c).conns c = Conn.gone (n.conns c).socket := by
  simp [freeClient]

lemma freeClient_conns_of_ne {d : ClientId} (hd : d ≠ c) :
    (freeClient n c).conns d = n.conns d :=
  Net.setConn_conns_of_ne hd

/-- `freeClient` leaves both lists, whatever state the client is in. -/
lemma Net.InvBut.freeClient (h : n.InvBut c) : (freeClient n c).Inv where
  ok d := by
    by_cases hd : d = c
    · subst hd; rw [freeClient_conns_self]; exact Conn.ok_gone _
    · rw [freeClient_conns_of_ne hd]; exact h.ok d hd
  pending_iff d := by
    have hmem := mem_erase_of_flag h.pending_nodup (h.pending_iff c) d
    refine Iff.trans ?_ hmem.symm
    by_cases hd : d = c
    · subst hd; simp [freeClient_conns_self, Conn.gone, Conn.new, Flags.none]
    · rw [freeClient_conns_of_ne hd]; simpa [hd] using h.pending_iff d
  pending_nodup := nodup_erase_of_flag h.pending_nodup _
  close_iff d := by
    have hmem := mem_erase_of_flag h.close_nodup (h.close_iff c) d
    refine Iff.trans ?_ hmem.symm
    by_cases hd : d = c
    · subst hd; simp [freeClient_conns_self, Conn.gone, Conn.new, Flags.none]
    · rw [freeClient_conns_of_ne hd]; simpa [hd] using h.close_iff d
  close_nodup := nodup_erase_of_flag h.close_nodup _

lemma Conn.moved_gone {socket : List Char} (hk : k.socket <+: socket) (hs : socket <+: k.stream) :
    k.Moved (Conn.gone socket) :=
  ⟨hk, .inr ⟨rfl, hs⟩⟩

/-- What `writeToClient` does: the client is freed, or its bytes have moved and its write handler is
gone if nothing is left. -/
lemma writeToClient_spec (h : n.InvBut c) (hsound : (n.conns c).Sound) (turns : List Turn)
    (handlerInstalled : Bool) :
    let r := writeToClient n c turns handlerInstalled
    (n.conns c).Moved (r.2.conns c) ∧ (∀ d, d ≠ c → r.2.conns d = n.conns d) ∧
    r.2.unixtime = n.unixtime ∧
    (r.1 = false → r.2.Inv) ∧
    (r.1 = true → r.2.InvBut c ∧ (r.2.conns c).Sound ∧ (r.2.conns c).flags = (n.conns c).flags ∧
      (r.2.conns c).connected = (n.conns c).connected ∧
      (r.2.conns c).writeHandler = ((n.conns c).writeHandler &&
        ((r.2.conns c).hasPendingReplies || !handlerInstalled))) := by
  have hw := Conn.writeLoop_writes turns 0 hsound
  have hset := h.setConn (k := ((n.conns c).writeLoop turns 0).2) (by rw [hw.flags])
    (by rw [hw.flags])
  have hmoved : (n.conns c).Moved ((n.conns c).writeLoop turns 0).2 :=
    ⟨hw.socket, .inl ⟨hw.stream, hw.connected, by rw [hw.flags]⟩⟩
  have hgone : (n.conns c).Moved (Conn.gone ((n.conns c).writeLoop turns 0).2.socket) :=
    Conn.moved_gone hw.socket (hw.stream ▸ Conn.socket_prefix_stream _)
  dsimp only
  unfold writeToClient
  dsimp only
  split
  · refine ⟨?_, ?_, rfl, fun _ => hset.freeClient, fun hr => absurd hr (by simp)⟩
    · rw [freeClient_conns_self, Net.setConn_conns_self]
      exact hgone
    · intro d hd
      rw [freeClient_conns_of_ne hd, Net.setConn_conns_of_ne hd]
  · split
    · rename_i hnone
      have hnone' : ((n.conns c).writeLoop turns 0).2.hasPendingReplies = false := by
        simpa using hnone
      obtain ⟨hsent, -⟩ := hw.sound.pending_eq_nil hnone'
      split
      · refine ⟨?_, ?_, rfl, fun _ => Net.InvBut.freeClient (h.setConn (by simp [hw.flags])
          (by simp [hw.flags])), fun hr => absurd hr (by simp)⟩
        · rw [freeClient_conns_self, Net.setConn_conns_self]
          exact hgone
        · intro d hd
          rw [freeClient_conns_of_ne hd, Net.setConn_conns_of_ne hd]
      · refine ⟨?_, fun d hd => Net.setConn_conns_of_ne hd, rfl, fun hr => absurd hr (by simp),
          fun _ => ⟨h.setConn (by simp [hw.flags]) (by simp [hw.flags]), ?_, ?_, ?_, ?_⟩⟩
        · rw [Net.setConn_conns_self]
          refine ⟨hw.socket, .inl ⟨?_, hw.connected, by rw [hw.flags]⟩⟩
          rw [← hw.stream, Conn.stream, Conn.stream, Conn.pending, Conn.pending, hsent]
          rfl
        · rw [Net.setConn_conns_self]
          exact ⟨hw.sound.buf_length, .inl rfl, hw.sound.replyBytes_eq⟩
        · simp [hw.flags]
        · simp [hw.connected]
        · have hnone₂ : ({ ((n.conns c).writeLoop turns 0).2 with
              sentlen := 0
              writeHandler := ((n.conns c).writeLoop turns 0).2.writeHandler &&
                !handlerInstalled } : Conn).hasPendingReplies = false := hnone'
          rw [Net.setConn_conns_self, hnone₂]
          simp [hw.writeHandler]
    · rename_i hsome
      have hsome' : ((n.conns c).writeLoop turns 0).2.hasPendingReplies = true := by
        simpa using hsome
      refine ⟨?_, fun d hd => Net.setConn_conns_of_ne hd, rfl, fun hr => absurd hr (by simp),
        fun _ => ⟨hset, ?_, ?_, ?_, ?_⟩⟩
      · rw [Net.setConn_conns_self]
        exact hmoved
      · rw [Net.setConn_conns_self]
        exact hw.sound
      · simp [hw.flags]
      · simp [hw.connected]
      · rw [Net.setConn_conns_self, hsome']
        simp [hw.writeHandler]

/-- What an event does that adds no reply. -/
structure Moves (n n' : Net) : Prop where
  inv : n'.Inv
  conn : ∀ d, (n.conns d).Moved (n'.conns d)
  unixtime : n'.unixtime = n.unixtime

lemma Moves.refl (h : n.Inv) : Moves n n := ⟨h, fun _ => Conn.Moved.refl _, rfl⟩

lemma Moves.trans {n'' : Net} (h : Moves n n') (h' : Moves n' n'') : Moves n n'' :=
  ⟨h'.inv, fun d => (h.conn d).trans (h.inv.ok d).stream_of_gone (h'.conn d),
    h'.unixtime.trans h.unixtime⟩

lemma freeClient_moves (h : n.Inv) (c : ClientId) : Moves n (freeClient n c) := by
  refine ⟨(h.invBut c).freeClient, fun d => ?_, rfl⟩
  by_cases hd : d = c
  · subst hd
    rw [freeClient_conns_self]
    exact Conn.moved_gone List.prefix_rfl (Conn.socket_prefix_stream _)
  · rw [freeClient_conns_of_ne hd]
    exact Conn.Moved.refl _

/-- The write handler. -/
lemma sendReplyToClient_moves (h : n.Inv) (hw : (n.conns c).writeHandler = true)
    (turns : List Turn) : Moves n (sendReplyToClient n c turns) := by
  have hok := h.ok c
  obtain ⟨hmoved, hothers, htime, hfreed, halive⟩ :=
    writeToClient_spec (h.invBut c) hok.toSound turns true
  refine ⟨?_, fun d => ?_, htime⟩
  · cases hr : (writeToClient n c turns true).1 with
    | false => exact hfreed hr
    | true =>
      obtain ⟨hbut, hsound, hflags, hconn, hhandler⟩ := halive hr
      refine hbut.inv ⟨hsound, ?_, ?_, ?_, ?_⟩
      · intro hpend
        right; left
        rw [hhandler, hw, hpend]
        rfl
      · intro hh
        rw [hhandler] at hh
        simpa using (Bool.and_eq_true_iff.mp hh).2
      · intro hp
        rw [hflags] at hp
        rw [hok.exclusive hp] at hw
        exact absurd hw (by simp)
      · intro hgone
        rw [hconn] at hgone
        have := congrArg Conn.writeHandler (hok.gone hgone)
        rw [hw] at this
        exact absurd this (by simp [Conn.gone, Conn.new])
  · by_cases hd : d = c
    · exact hd ▸ hmoved
    · rw [sendReplyToClient, hothers d hd]
      exact Conn.Moved.refl _

end Events

/-! ## The loops over the two lists -/

section Loops

variable {n : Net} {c : ClientId}

lemma writeToClient_clientsPendingWrite (hsound : (n.conns c).Sound)
    (hflag : (n.conns c).flags.pendingWrite = false) (turns : List Turn) (handlerInstalled : Bool) :
    (writeToClient n c turns handlerInstalled).2.clientsPendingWrite = n.clientsPendingWrite := by
  have hw := Conn.writeLoop_writes turns 0 hsound
  have hflag' : ((n.conns c).writeLoop turns 0).2.flags.pendingWrite = false := by
    rw [hw.flags, hflag]
  unfold writeToClient
  dsimp only
  split
  · simp [freeClient, hflag']
  · split
    · split
      · simp [freeClient, hflag']
      · rfl
    · rfl

/-- The list is left, and the flag with it. -/
lemma Net.Inv.takeOffPending (h : n.Inv) (c : ClientId) : (takeOffPending n c).InvBut c where
  ok d hd := by
    simp only [Network.takeOffPending, Net.setConn_conns_of_ne hd]
    exact h.ok d
  pending_iff d := by
    by_cases hd : d = c
    · subst hd; simp [Network.takeOffPending, h.pending_nodup.mem_erase_iff]
    · simp only [Network.takeOffPending, Net.setConn_conns_of_ne hd, h.pending_nodup.mem_erase_iff,
        ne_eq, hd, not_false_eq_true, true_and]
      exact h.pending_iff d
  pending_nodup := h.pending_nodup.erase c
  close_iff d := by
    by_cases hd : d = c
    · subst hd; simpa [Network.takeOffPending] using h.close_iff d
    · simp only [Network.takeOffPending, Net.setConn_conns_of_ne hd]; exact h.close_iff d
  close_nodup := h.close_nodup

lemma takeOffPending_conns_self : (takeOffPending n c).conns c =
    { n.conns c with flags := { (n.conns c).flags with pendingWrite := false } } :=
  Net.setConn_conns_self

lemma takeOffPending_conns_of_ne {d : ClientId} (hd : d ≠ c) :
    (takeOffPending n c).conns d = n.conns d :=
  Net.setConn_conns_of_ne hd

/-- A client that has neither a place in the list nor a handler gets one of them, or is closed. -/
lemma installHandler_spec (h : n.InvBut c) (hsound : (n.conns c).Sound)
    (hconn : (n.conns c).connected = true) (hpend : (n.conns c).flags.pendingWrite = false)
    (hw : (n.conns c).writeHandler = false) (fileEvent : Bool) :
    Moves n (installHandler n c fileEvent) ∧
      (installHandler n c fileEvent).clientsPendingWrite = n.clientsPendingWrite := by
  have hhandler : (n.conns c).writeHandler = true → (n.conns c).hasPendingReplies = true :=
    fun hh => absurd hh (by simp [hw])
  have hexcl : (n.conns c).flags.pendingWrite = true → (n.conns c).writeHandler = false :=
    fun _ => hw
  have hothers : ∀ {n' : Net}, (∀ d, d ≠ c → n'.conns d = n.conns d) →
      (n.conns c).Moved (n'.conns c) → ∀ d, (n.conns d).Moved (n'.conns d) := by
    intro n' hrest hself d
    by_cases hd : d = c
    · exact hd ▸ hself
    · rw [hrest d hd]
      exact Conn.Moved.refl _
  unfold installHandler
  dsimp only
  split
  · rename_i hsome
    split
    · have hset := h.setConn (k := { n.conns c with writeHandler := true }) rfl rfl
      refine ⟨⟨hset.inv ?_, hothers (fun d hd => Net.setConn_conns_of_ne hd) ?_, rfl⟩, rfl⟩
      · rw [Net.setConn_conns_self]
        exact ⟨⟨hsound.buf_length, hsound.sentlen_lt, hsound.replyBytes_eq⟩,
          fun _ => .inr (.inl rfl), fun _ => hsome,
          fun hp => absurd hp (by simp [hpend]), fun hg => absurd hconn (by simpa using hg)⟩
      · rw [Net.setConn_conns_self]
        exact ⟨List.prefix_rfl, .inl ⟨rfl, rfl, rfl⟩⟩
    · -- the handler could not be installed
      refine ⟨⟨h.freeClientAsync.inv ?_, hothers (fun d hd => freeClientAsync_conns_of_ne hd) ?_,
        freeClientAsync_unixtime⟩, freeClientAsync_clientsPendingWrite⟩
      · rw [freeClientAsync_conns_self]
        exact hsound.ok_of_closeAsap hconn hhandler hexcl
      · rw [freeClientAsync_conns_self]
        exact ⟨List.prefix_rfl, .inl ⟨rfl, rfl, rfl⟩⟩
  · rename_i hnone
    refine ⟨⟨h.inv ⟨hsound, fun hsome => absurd hsome hnone, hhandler, hexcl, fun hg => ?_⟩,
      fun _ => Conn.Moved.refl _, rfl⟩, rfl⟩
    rw [hconn] at hg
    exact absurd hg (by simp)

/-- One client of `clients_pending_write`. -/
lemma handlePendingWrite_moves (h : n.Inv) (hc : c ∈ n.clientsPendingWrite)
    (answer : PendingAnswer) :
    Moves n (handlePendingWrite n c answer) ∧
      (handlePendingWrite n c answer).clientsPendingWrite = n.clientsPendingWrite.erase c := by
  have hok := h.ok c
  have hflag : (n.conns c).flags.pendingWrite = true := (h.pending_iff c).mpr hc
  have hconn : (n.conns c).connected = true := by
    by_contra hgone
    have := congrArg (fun k => k.flags.pendingWrite) (hok.gone (by simpa using hgone))
    rw [hflag] at this
    exact absurd this (by simp [Conn.gone, Conn.new, Flags.none])
  have hself := takeOffPending_conns_self (n := n) (c := c)
  have hsound : ((takeOffPending n c).conns c).Sound := by
    rw [hself]
    exact ⟨hok.buf_length, hok.sentlen_lt, hok.replyBytes_eq⟩
  obtain ⟨hmoved, hothers, htime, hfreed, halive⟩ :=
    writeToClient_spec (h.takeOffPending c) hsound answer.turns false
  have hlist : (writeToClient (takeOffPending n c) c answer.turns false).2.clientsPendingWrite =
      n.clientsPendingWrite.erase c :=
    writeToClient_clientsPendingWrite hsound (by rw [hself]) answer.turns false
  -- taking the client off the list is no move of bytes
  have hconns : ∀ d, (n.conns d).Moved
      ((writeToClient (takeOffPending n c) c answer.turns false).2.conns d) := by
    intro d
    by_cases hd : d = c
    · subst hd
      rw [hself] at hmoved
      exact ⟨hmoved.1, hmoved.2⟩
    · rw [hothers d hd, takeOffPending_conns_of_ne hd]
      exact Conn.Moved.refl _
  unfold handlePendingWrite
  dsimp only
  split
  · rename_i hvalid
    obtain ⟨hbut, hsound', hflags, hconn', hw⟩ := halive hvalid
    have hconn₁ := hconn'.trans ((congrArg Conn.connected hself).trans hconn)
    have hpend₁ := (congrArg Flags.pendingWrite hflags).trans
      (congrArg (fun k => k.flags.pendingWrite) hself)
    have hw₁ : ((writeToClient (takeOffPending n c) c answer.turns false).2.conns c).writeHandler =
        false := by
      rw [hw, hself]
      simp [hok.exclusive hflag]
    obtain ⟨hinstalled, hlist'⟩ := installHandler_spec hbut hsound' hconn₁ hpend₁ hw₁
      answer.fileEvent
    refine ⟨⟨hinstalled.inv, fun d => (hconns d).trans (fun hgone => ?_) (hinstalled.conn d),
      hinstalled.unixtime.trans htime⟩, hlist'.trans hlist⟩
    by_cases hd : d = c
    · subst hd
      rw [hconn₁] at hgone
      exact absurd hgone (by simp)
    · exact (hbut.ok d hd).stream_of_gone hgone
  · rename_i hdead
    exact ⟨⟨hfreed (by simpa using hdead), hconns, htime⟩, hlist⟩

/-- The loop of `handleClientsWithPendingWrites` serves the whole list. -/
lemma handlePendingWrites_moves (answers : ClientId → PendingAnswer) {cs : List ClientId}
    (h : n.Inv) (hcs : n.clientsPendingWrite = cs) :
    Moves n (handlePendingWrites answers cs n) ∧
      (handlePendingWrites answers cs n).clientsPendingWrite = [] := by
  induction cs generalizing n with
  | nil => exact ⟨Moves.refl h, hcs⟩
  | cons c cs ih =>
    obtain ⟨hmoves, hlist⟩ := handlePendingWrite_moves h (c := c) (by simp [hcs]) (answers c)
    rw [hcs, List.erase_cons_head] at hlist
    obtain ⟨hrest, hempty⟩ := ih hmoves.inv hlist
    exact ⟨hmoves.trans hrest, hempty⟩

theorem handleClientsWithPendingWrites_moves (h : n.Inv) (answers : ClientId → PendingAnswer) :
    Moves n (handleClientsWithPendingWrites answers n) ∧
      (handleClientsWithPendingWrites answers n).clientsPendingWrite = [] :=
  handlePendingWrites_moves answers h rfl

/-- One turn of the loop of `freeClientsInAsyncFreeQueue`. -/
lemma freeClients_step (h : n.Inv) {cs : List ClientId} (hcs : n.clientsToClose = c :: cs) :
    ∃ n', freeClients (c :: cs) n = freeClients cs n' ∧ Moves n n' ∧ n'.clientsToClose = cs := by
  have hnodup : c ∉ cs ∧ cs.Nodup := List.nodup_cons.mp (hcs ▸ h.close_nodup)
  refine ⟨_, rfl, ?_, ?_⟩
  · refine ⟨⟨?_, ?_, ?_, ?_, ?_⟩, ?_, rfl⟩
    · intro d
      by_cases hd : d = c
      · subst hd
        simp only [freeClient_conns_self]
        exact Conn.ok_gone _
      · simp only [freeClient_conns_of_ne hd, Net.setConn_conns_of_ne hd]
        exact h.ok d
    · intro d
      have hmem := mem_erase_of_flag h.pending_nodup (h.pending_iff c) d
      simp only [freeClient, Net.setConn_conns_self, Net.setConn_clientsPendingWrite]
      refine Iff.trans ?_ hmem.symm
      by_cases hd : d = c
      · subst hd; simp [Conn.gone, Conn.new, Flags.none]
      · simpa [Net.setConn_conns_of_ne hd, hd] using h.pending_iff d
    · simp only [freeClient, Net.setConn_conns_self, Net.setConn_clientsPendingWrite]
      exact nodup_erase_of_flag h.pending_nodup _
    · intro d
      simp only [freeClient, Net.setConn_conns_self, Net.setConn_clientsToClose,
        Bool.false_eq_true, if_false, hcs, List.erase_cons_head]
      by_cases hd : d = c
      · subst hd
        simpa [Conn.gone, Conn.new, Flags.none] using hnodup.1
      · have := h.close_iff d
        simpa [Net.setConn_conns_of_ne hd, hcs, hd] using this
    · simp only [freeClient, Net.setConn_conns_self, Net.setConn_clientsToClose,
        Bool.false_eq_true, if_false, hcs, List.erase_cons_head]
      exact hnodup.2
    · intro d
      by_cases hd : d = c
      · subst hd
        simp only [freeClient_conns_self, Net.setConn_conns_self]
        exact Conn.moved_gone List.prefix_rfl (Conn.socket_prefix_stream _)
      · simp only [freeClient_conns_of_ne hd, Net.setConn_conns_of_ne hd]
        exact Conn.Moved.refl _
  · simp [freeClient, hcs]

lemma freeClients_moves {cs : List ClientId} (h : n.Inv) (hcs : n.clientsToClose = cs) :
    Moves n (freeClients cs n) := by
  induction cs generalizing n with
  | nil => exact Moves.refl h
  | cons c cs ih =>
    obtain ⟨n', heq, hmoves, hlist⟩ := freeClients_step h hcs
    rw [heq]
    exact hmoves.trans (ih hmoves.inv hlist)

theorem freeClientsInAsyncFreeQueue_moves (h : n.Inv) : Moves n (freeClientsInAsyncFreeQueue n) :=
  freeClients_moves h rfl

end Loops

/-! ## Progress -/

/-- An answer of `write` that took something. -/
def Turn.Takes (t : Turn) : Prop := ∃ m, t.result = .wrote (m + 1)

/-- What is left to do for a connection. -/
def Conn.backlog (k : Conn) : ℕ := k.pending.length + k.reply.length

section Progress

variable {k : Conn} {n : Net} {c : ClientId}

lemma Conn.Writes.pending_length {k' : Conn} (h : k.Writes k') :
    k'.socket.length + k'.pending.length = k.socket.length + k.pending.length := by
  have := congrArg List.length h.stream
  simpa [Conn.stream] using this

lemma Conn.length_socket_sendBuf {m : ℕ} (hm : m ≤ k.buf.length - k.sentlen) :
    (k.sendBuf m).socket.length = k.socket.length + m ∧ (k.sendBuf m).reply = k.reply := by
  unfold Conn.sendBuf
  dsimp only
  split <;> simp [hm]

lemma Conn.length_socket_sendNode {o : Node} {rest : List Node} {m : ℕ}
    (hreply : k.reply = o :: rest) (hm : m ≤ o.ptr.length - k.sentlen) :
    (k.sendNode o rest m).socket.length = k.socket.length + m ∧
      (k.sendNode o rest m).reply.length ≤ k.reply.length := by
  unfold Conn.sendNode
  dsimp only
  split <;> simp [hm, hreply]

lemma Turn.Takes.written {t : Turn} (h : t.Takes) {offered : ℕ} (hpos : 0 < offered) :
    ∃ m, t.result.written offered = .sent m ∧ 0 < m ∧ m ≤ offered := by
  obtain ⟨j, hj⟩ := h
  refine ⟨min (j + 1) offered, ?_, by omega, Nat.min_le_right _ _⟩
  rw [hj, WriteResult.written, if_neg (by omega)]

/-- The front of the buffers has bytes that are not written, or is an empty object. -/
lemma Conn.Sound.front_pos (h : k.Sound) (hpend : k.hasPendingReplies = true) :
    (k.buf ≠ [] ∧ k.sentlen < k.buf.length) ∨
      (k.buf = [] ∧ ∃ o rest, k.reply = o :: rest ∧ (o.ptr = [] ∨ k.sentlen < o.ptr.length)) := by
  by_cases hbuf : k.buf = []
  · right
    refine ⟨hbuf, ?_⟩
    cases hreply : k.reply with
    | nil => simp [Conn.hasPendingReplies, hbuf, hreply] at hpend
    | cons o rest =>
      refine ⟨o, rest, rfl, ?_⟩
      by_cases ho : o.ptr = []
      · exact .inl ho
      · right
        rcases h.sentlen_lt with hzero | hlt
        · have := List.length_pos_iff.mpr ho
          omega
        · simpa [Conn.frontLength, hbuf, hreply] using hlt
  · left
    refine ⟨hbuf, ?_⟩
    rcases h.sentlen_lt with hzero | hlt
    · have := List.length_pos_iff.mpr hbuf
      omega
    · simpa [Conn.frontLength, hbuf] using hlt

/-- While every `write` takes something, no write fails and the backlog never grows. -/
lemma Conn.writeLoop_backlog_le (turns : List Turn) (htakes : ∀ t ∈ turns, t.Takes)
    (totwritten : ℕ) (h : k.Sound) :
    (k.writeLoop turns totwritten).1 = false ∧
      (k.writeLoop turns totwritten).2.backlog ≤ k.backlog ∧
      (turns ≠ [] → k.hasPendingReplies = true →
        (k.writeLoop turns totwritten).2.backlog < k.backlog) := by
  induction turns generalizing totwritten k with
  | nil => exact ⟨rfl, le_rfl, fun hne => absurd rfl hne⟩
  | cons t turns ih =>
    have ht := htakes t (by simp)
    have hrest : ∀ t ∈ turns, t.Takes := fun t' ht' => htakes t' (by simp [ht'])
    rw [Conn.writeLoop]
    split
    · rename_i hnone
      refine ⟨rfl, le_rfl, fun _ hsome => ?_⟩
      rw [hsome] at hnone
      exact absurd hnone (by simp)
    · rename_i hsome
      have hpend : k.hasPendingReplies = true := by simpa using hsome
      rcases h.front_pos hpend with ⟨hbuf, hlt⟩ | ⟨hbuf, o, rest, hreply, ho⟩
      · rw [if_pos (List.length_pos_iff.mpr hbuf)]
        have hleft : 0 < k.buf.length - k.sentlen := by omega
        obtain ⟨m, hm, hpos, hle⟩ := ht.written hleft
        have hw := h.sendBuf hbuf hle
        obtain ⟨hsock, hreply⟩ := Conn.length_socket_sendBuf (k := k) hle
        have hdec : (k.sendBuf m).backlog < k.backlog := by
          have := hw.pending_length
          rw [Conn.backlog, Conn.backlog, hreply]
          omega
        simp only [hm]
        split
        · exact ⟨rfl, hdec.le, fun _ _ => hdec⟩
        · obtain ⟨hfail, hback, -⟩ := ih hrest (totwritten + m) hw.sound
          exact ⟨hfail, hback.trans hdec.le, fun _ _ => hback.trans_lt hdec⟩
      · rw [if_neg (by simp [hbuf])]
        simp only [hreply]
        rcases ho with ho | ho
        · rw [if_pos (by simp [ho])]
          have hw := h.dropEmpty hbuf hreply ho
          have hdec : ({ k with reply := rest, replyBytes := k.replyBytes - o.usedMemory } :
              Conn).backlog < k.backlog := by
            have := hw.pending_length
            simp only [Conn.backlog, hreply, List.length_cons] at this ⊢
            omega
          obtain ⟨hfail, hback, -⟩ := ih hrest totwritten hw.sound
          exact ⟨hfail, hback.trans hdec.le, fun _ _ => hback.trans_lt hdec⟩
        · rw [if_neg (by omega)]
          have hleft : 0 < o.ptr.length - k.sentlen := by omega
          obtain ⟨m, hm, hpos, hle⟩ := ht.written hleft
          have hw := h.sendNode hbuf hreply hle
          obtain ⟨hsock, hlen⟩ := Conn.length_socket_sendNode (k := k) hreply hle
          have hdec : (k.sendNode o rest m).backlog < k.backlog := by
            have := hw.pending_length
            rw [Conn.backlog, Conn.backlog]
            omega
          simp only [hm]
          split
          · exact ⟨rfl, hdec.le, fun _ _ => hdec⟩
          · obtain ⟨hfail, hback, -⟩ := ih hrest (totwritten + m) hw.sound
            exact ⟨hfail, hback.trans hdec.le, fun _ _ => hback.trans_lt hdec⟩

/-- The write handler fires again and again, as long as it is installed. -/
def sendReplies (c : ClientId) : List (List Turn) → Net → Net
  | [], n => n
  | turns :: events, n =>
    if (n.conns c).writeHandler then sendReplies c events (sendReplyToClient n c turns)
    else sendReplies c events n

/-- One event of the write handler: everything has been sent, or less is left. -/
lemma sendReplyToClient_backlog (h : n.Inv) (hw : (n.conns c).writeHandler = true)
    {turns : List Turn} (hne : turns ≠ []) (htakes : ∀ t ∈ turns, t.Takes) :
    ((sendReplyToClient n c turns).conns c).socket = (n.conns c).stream ∧
        ((sendReplyToClient n c turns).conns c).writeHandler = false ∨
      ((sendReplyToClient n c turns).conns c).writeHandler = true ∧
        ((sendReplyToClient n c turns).conns c).stream = (n.conns c).stream ∧
        ((sendReplyToClient n c turns).conns c).backlog < (n.conns c).backlog := by
  have hok := h.ok c
  have hwrites := Conn.writeLoop_writes turns 0 hok.toSound
  obtain ⟨hfail, -, hdec⟩ := Conn.writeLoop_backlog_le turns htakes 0 hok.toSound
  unfold sendReplyToClient writeToClient
  dsimp only
  rw [hfail]
  simp only [Bool.false_eq_true, if_false]
  split
  · rename_i hnone
    left
    have hall : ((n.conns c).writeLoop turns 0).2.socket = (n.conns c).stream := by
      obtain ⟨-, hnil⟩ := hwrites.sound.pending_eq_nil (by simpa using hnone)
      have := hwrites.stream
      rw [Conn.stream, hnil, List.append_nil] at this
      exact this
    split
    · rw [freeClient_conns_self, Net.setConn_conns_self]
      exact ⟨hall, rfl⟩
    · rw [Net.setConn_conns_self]
      exact ⟨hall, by simp⟩
  · right
    simp only [Net.setConn_conns_self]
    exact ⟨hwrites.writeHandler.trans hw, hwrites.stream, hdec hne (hok.handler hw)⟩

/-- Once all is sent it stays so. -/
lemma sendReplies_of_not_handler {events : List (List Turn)}
    (hw : (n.conns c).writeHandler = false) : sendReplies c events n = n := by
  induction events with
  | nil => rfl
  | cons turns events ih =>
    rw [sendReplies, if_neg (by simp [hw]), ih]

/-- A client whose socket takes something at every write gets its whole stream in as many events as
there are bytes and objects left. -/
theorem sendReplies_complete {events : List (List Turn)} (h : n.Inv)
    (hw : (n.conns c).writeHandler = true)
    (hevents : ∀ turns ∈ events, turns ≠ [] ∧ ∀ t ∈ turns, t.Takes)
    (hlen : (n.conns c).backlog ≤ events.length) :
    ((sendReplies c events n).conns c).socket = (n.conns c).stream := by
  induction events generalizing n with
  | nil =>
    -- a client with a handler has a backlog
    exfalso
    have hfront := (h.ok c).toSound.front_pos ((h.ok c).handler hw)
    rcases hfront with ⟨hbuf, hlt⟩ | ⟨-, o, rest, hreply, -⟩
    · have : 0 < (n.conns c).pending.length := by
        rw [Conn.pending, List.length_drop, List.length_append]
        omega
      rw [Conn.backlog] at hlen
      simp only [List.length_nil] at hlen
      omega
    · rw [Conn.backlog, hreply] at hlen
      simp at hlen
  | cons turns events ih =>
    obtain ⟨hne, htakes⟩ := hevents turns (by simp)
    rw [sendReplies, if_pos hw]
    rcases sendReplyToClient_backlog h hw hne htakes with ⟨hall, hw'⟩ | ⟨hw', hstream, hdec⟩
    · rw [sendReplies_of_not_handler hw', hall]
    · rw [← hstream]
      have hlater := fun t ht => hevents t (List.mem_cons_of_mem turns ht)
      refine ih (sendReplyToClient_moves h hw turns).inv hw' hlater ?_
      simp only [List.length_cons] at hlen
      omega

end Progress

/-! ## Runs -/

/-- The calls of the output functions. -/
inductive NetOp
  /-- `createClient`. -/
  | createClient (c : ClientId)
  | addReply (c : ClientId) (obj : Robj)
  | addReplySds (c : ClientId) (s : List Char)
  | addReplyString (c : ClientId) (s : List Char)
  /-- `c->flags |= CLIENT_CLOSE_AFTER_REPLY`. -/
  | closeAfterReply (c : ClientId)
  /-- A command sets the other flags. -/
  | setFlags (c : ClientId) (pubsub replyOff replySkipNext replySkip : Bool)
  /-- The socket is writable and has a write handler. -/
  | sendReplyToClient (c : ClientId) (turns : List Turn)
  /-- `handleClientsWithPendingWrites`. -/
  | beforeSleep (answers : ClientId → PendingAnswer)
  | freeClientAsync (c : ClientId)
  | freeClientsInAsyncFreeQueue
  | freeClient (c : ClientId)
  | updateCachedTime (now : Int64)

/-- Set flags that are not about the two lists. -/
def Net.withFlags (n : Net) (c : ClientId) (f : Flags → Flags) : Net :=
  n.setConn c { n.conns c with flags := f (n.conns c).flags }

/-- One call; a function that is given a client needs a connected one. -/
def netStep (cfg : Config) (n : Net) : NetOp → Option Net
  | .createClient c =>
    if (n.conns c).connected then none else some (n.setConn c Conn.new)
  | .addReply c obj => some (addReply cfg n c obj)
  | .addReplySds c s => some (addReplySds cfg n c s)
  | .addReplyString c s => some (addReplyString cfg n c s)
  | .closeAfterReply c =>
    if (n.conns c).connected then some (n.withFlags c fun f => { f with closeAfterReply := true })
    else none
  | .setFlags c pubsub replyOff replySkipNext replySkip =>
    if (n.conns c).connected then
      some (n.withFlags c fun f => { f with
        pubsub := pubsub, replyOff := replyOff, replySkipNext := replySkipNext,
        replySkip := replySkip })
    else none
  | .sendReplyToClient c turns =>
    if (n.conns c).writeHandler then some (sendReplyToClient n c turns) else none
  | .beforeSleep answers => some (handleClientsWithPendingWrites answers n)
  | .freeClientAsync c =>
    if (n.conns c).connected then some (freeClientAsync n c) else none
  | .freeClientsInAsyncFreeQueue => some (freeClientsInAsyncFreeQueue n)
  | .freeClient c => if (n.conns c).connected then some (freeClient n c) else none
  | .updateCachedTime now => some { n with unixtime := now }

/-- The replies that have been kept for each client since it was created. -/
abbrev Ledger := ClientId → List Char

/-- The ledger after a call. -/
def Ledger.record (log : Ledger) (n : Net) : NetOp → Ledger
  | .createClient c => Function.update log c []
  | .addReply c obj => Function.update log c (log c ++ n.kept c obj.text)
  | .addReplySds c s => Function.update log c (log c ++ n.kept c s)
  | .addReplyString c s => Function.update log c (log c ++ n.kept c s)
  | _ => log

/-- The output functions in any order, with the ledger of what they were given. -/
def network (cfg : Config) : System (Net × Ledger) NetOp where
  Init s := s = (Net.init, fun _ => [])
  step s op := (netStep cfg s.1 op).map fun n => (n, s.2.record s.1 op)

/-- What is tracked of every client. -/
structure Tracked (n : Net) (log : Ledger) : Prop where
  inv : n.Inv
  sent : ∀ c, (n.conns c).socket <+: log c
  stream : ∀ c, (n.conns c).connected = true → (n.conns c).stream = log c

section Runs

variable {cfg : Config} {n n' : Net} {log : Ledger} {c : ClientId}

/-- A call that adds no reply moves bytes, frees clients or sets flags. -/
lemma Tracked.of_moved (h : Tracked n log) (hinv : n'.Inv)
    (hmoved : ∀ d, (n.conns d).Moved (n'.conns d)) : Tracked n' log where
  inv := hinv
  sent d := by
    rcases (hmoved d).2 with ⟨hstream, hconn, -⟩ | ⟨-, hsock⟩
    · by_cases hd : (n.conns d).connected = true
      · rw [← h.stream d hd, ← hstream]
        exact Conn.socket_prefix_stream _
      · have hgone : (n'.conns d).connected = false := by rw [hconn]; simpa using hd
        rw [← (hinv.ok d).stream_of_gone hgone, hstream,
          (h.inv.ok d).stream_of_gone (by simpa using hd)]
        exact h.sent d
    · by_cases hd : (n.conns d).connected = true
      · exact h.stream d hd ▸ hsock
      · rw [(h.inv.ok d).stream_of_gone (by simpa using hd)] at hsock
        exact hsock.trans (h.sent d)
  stream d hd := by
    rcases (hmoved d).2 with ⟨hstream, hconn, -⟩ | ⟨hgone, -⟩
    · rw [hstream]
      exact h.stream d (hconn ▸ hd)
    · rw [hgone] at hd
      exact absurd hd (by simp)

lemma Tracked.of_moves (h : Tracked n log) (hm : Moves n n') : Tracked n' log :=
  h.of_moved hm.inv hm.conn

/-- A call that adds a reply. -/
lemma Tracked.of_adds (h : Tracked n log) {s : List Char} (ha : Adds n n' c (n.kept c s)) :
    Tracked n' (Function.update log c (log c ++ n.kept c s)) where
  inv := ha.inv
  sent d := by
    by_cases hd : d = c
    · subst hd
      rw [Function.update_self, ha.socket]
      exact (h.sent d).trans (List.prefix_append _ _)
    · rw [Function.update_of_ne hd, ha.others d hd]
      exact h.sent d
  stream d hd := by
    by_cases hdc : d = c
    · subst hdc
      rw [Function.update_self, ha.stream, h.stream d (ha.connected ▸ hd)]
    · rw [ha.others d hdc] at hd ⊢
      rw [Function.update_of_ne hdc]
      exact h.stream d hd

lemma Conn.Ok.flags_of_gone {k : Conn} (h : k.Ok) (hgone : k.connected = false) :
    k.flags = Flags.none := by
  rw [h.gone hgone]
  rfl

lemma Net.Inv.createClient (h : n.Inv) (hc : (n.conns c).connected = false) :
    (n.setConn c Conn.new).Inv := by
  have hflags := (h.ok c).flags_of_gone hc
  exact h.setConn Conn.ok_new (by rw [hflags]; rfl) (by rw [hflags]; rfl)

/-- Flags that are not about the lists. -/
lemma Net.Inv.withFlags (h : n.Inv) (hc : (n.conns c).connected = true) {f : Flags → Flags}
    (hp : ∀ x, (f x).pendingWrite = x.pendingWrite) (ha : ∀ x, (f x).closeAsap = x.closeAsap) :
    (n.withFlags c f).Inv := by
  have hok := h.ok c
  refine h.setConn ⟨⟨hok.buf_length, hok.sentlen_lt, hok.replyBytes_eq⟩, ?_, hok.handler, ?_, ?_⟩
    (hp _) (ha _)
  · intro hpend
    have := hok.scheduled hpend
    simpa [Conn.Scheduled, hp, ha] using this
  · intro hpw
    exact hok.exclusive (by simpa [hp] using hpw)
  · intro hgone
    exact absurd hc (by simpa using hgone)

lemma Tracked.withFlags (h : Tracked n log) (hc : (n.conns c).connected = true)
    {f : Flags → Flags} (hp : ∀ x, (f x).pendingWrite = x.pendingWrite)
    (ha : ∀ x, (f x).closeAsap = x.closeAsap) : Tracked (n.withFlags c f) log where
  inv := h.inv.withFlags hc hp ha
  sent d := by
    by_cases hd : d = c
    · subst hd; simpa [Net.withFlags] using h.sent d
    · rw [Net.withFlags, Net.setConn_conns_of_ne hd]; exact h.sent d
  stream d hd := by
    by_cases hdc : d = c
    · subst hdc
      have := h.stream d hc
      rw [Net.withFlags, Net.setConn_conns_self]
      exact this
    · rw [Net.withFlags, Net.setConn_conns_of_ne hdc] at hd ⊢
      exact h.stream d hd

/-- Every call keeps track. -/
lemma Tracked.step (h : Tracked n log) {op : NetOp} (hs : netStep cfg n op = some n') :
    Tracked n' (log.record n op) := by
  cases op with
  | createClient c =>
    simp only [netStep] at hs
    split at hs
    · exact absurd hs (by simp)
    · rename_i hc
      obtain rfl := Option.some.inj hs
      refine ⟨h.inv.createClient (by simpa using hc), fun d => ?_, fun d hd => ?_⟩
      · by_cases hdc : d = c
        · subst hdc; simp [Conn.new]
        · rw [Net.setConn_conns_of_ne hdc, Ledger.record, Function.update_of_ne hdc]
          exact h.sent d
      · by_cases hdc : d = c
        · subst hdc; simp [Ledger.record, Conn.stream, Conn.pending, Conn.listed, Conn.new]
        · rw [Net.setConn_conns_of_ne hdc] at hd ⊢
          rw [Ledger.record, Function.update_of_ne hdc]
          exact h.stream d hd
  | addReply c obj =>
    obtain rfl := Option.some.inj hs
    exact h.of_adds (addReply_adds h.inv obj)
  | addReplySds c s =>
    obtain rfl := Option.some.inj hs
    exact h.of_adds (addReplySds_adds h.inv s)
  | addReplyString c s =>
    obtain rfl := Option.some.inj hs
    exact h.of_adds (addReplyString_adds h.inv s)
  | closeAfterReply c =>
    simp only [netStep] at hs
    split at hs
    · rename_i hc
      obtain rfl := Option.some.inj hs
      exact h.withFlags hc (fun _ => rfl) (fun _ => rfl)
    · exact absurd hs (by simp)
  | setFlags c pubsub replyOff replySkipNext replySkip =>
    simp only [netStep] at hs
    split at hs
    · rename_i hc
      obtain rfl := Option.some.inj hs
      exact h.withFlags hc (fun _ => rfl) (fun _ => rfl)
    · exact absurd hs (by simp)
  | sendReplyToClient c turns =>
    simp only [netStep] at hs
    split at hs
    · rename_i hw
      obtain rfl := Option.some.inj hs
      exact h.of_moves (sendReplyToClient_moves h.inv hw turns)
    · exact absurd hs (by simp)
  | beforeSleep answers =>
    obtain rfl := Option.some.inj hs
    exact h.of_moves (handleClientsWithPendingWrites_moves h.inv answers).1
  | freeClientAsync c =>
    simp only [netStep] at hs
    split at hs
    · rename_i hc
      obtain rfl := Option.some.inj hs
      have hadds := freeClientAsync_adds h.inv hc
      refine h.of_moved hadds.inv fun d => ?_
      by_cases hd : d = c
      · subst hd
        exact ⟨by rw [hadds.socket], .inl ⟨by rw [hadds.stream, List.append_nil], hadds.connected,
          hadds.steady⟩⟩
      · rw [hadds.others d hd]
        exact Conn.Moved.refl _
    · exact absurd hs (by simp)
  | freeClientsInAsyncFreeQueue =>
    obtain rfl := Option.some.inj hs
    exact h.of_moves (freeClientsInAsyncFreeQueue_moves h.inv)
  | freeClient c =>
    simp only [netStep] at hs
    split at hs
    · obtain rfl := Option.some.inj hs
      exact h.of_moves (freeClient_moves h.inv c)
    · exact absurd hs (by simp)
  | updateCachedTime now =>
    obtain rfl := Option.some.inj hs
    exact ⟨⟨h.inv.ok, h.inv.pending_iff, h.inv.pending_nodup, h.inv.close_iff, h.inv.close_nodup⟩,
      h.sent, h.stream⟩

/-- Every state of every run is tracked. -/
theorem tracked_of_reachable {s : Net × Ledger}
    (h : (network cfg).Reachable (fun _ _ => True) s) : Tracked s.1 s.2 := by
  refine System.Reachable.invariant (I := fun s => Tracked s.1 s.2) ?_ ?_ h
  · rintro s rfl
    exact ⟨Net.inv_init, fun _ => List.nil_prefix, fun c hc => by
      simp [Net.init, Conn.gone, Conn.new] at hc⟩
  · intro s op s' _ ih _ hs
    obtain ⟨n', hstep, rfl⟩ := Option.map_eq_some_iff.mp hs
    exact ih.step hstep

end Runs

/-! ## What the client receives -/

section Results

variable {cfg : Config}

/-- In every run, the bytes a client's socket has taken are a prefix of the replies that were kept
for it, in the order in which they were added; while it is connected the rest of those replies, and
nothing else, is in its buffers.  The static buffer stays within its 16 KB and `reply_bytes` is the
memory of the listed objects. -/
theorem replies_arrive_in_order {s : Net × Ledger}
    (h : (network cfg).Reachable (fun _ _ => True) s) (c : ClientId) :
    (s.1.conns c).socket <+: s.2 c ∧
      ((s.1.conns c).connected = true → (s.1.conns c).socket ++ (s.1.conns c).pending = s.2 c) ∧
      (s.1.conns c).buf.length ≤ protoReplyChunkBytes ∧
      (s.1.conns c).replyBytes = ((s.1.conns c).reply.map Node.usedMemory).sum := by
  have htracked := tracked_of_reachable h
  have hok := htracked.inv.ok c
  exact ⟨htracked.sent c, htracked.stream c, hok.buf_length, hok.replyBytes_eq⟩

/-- A server without limits on the output buffers, for tests. -/
def sampleConfig : Config where
  zmallocSize _ := 32
  createStringObject _ := .embstr
  listItemSize := 40
  clientObufLimits _ := ⟨0, 0, 0⟩

/-- A client gets `+OK` and a number, and its socket takes three bytes before it is full. -/
theorem replies_arrive_in_order_partly_sent :
    ∃ s, (network sampleConfig).Reachable (fun _ _ => True) s ∧
      (s.1.conns 1).socket = ['+', 'O', 'K'] ∧
      (s.1.conns 1).socket ++ (s.1.conns 1).pending = "+OK\r\n:7\r\n".toList := by
  have h : (network sampleConfig).Reachable (fun _ _ => True) _ :=
    .step (.step (.step (.step (.init rfl)
      (a := .createClient 1) trivial rfl)
      (a := .addReply 1 sharedOk) trivial rfl)
      (a := .addReplyString 1 (":7\r\n".toList)) trivial rfl)
      (a := .beforeSleep fun _ => ⟨[⟨.wrote 3, true⟩], true⟩) trivial rfl
  exact ⟨_, h, rfl, ((replies_arrive_in_order h 1).2.1 rfl).trans rfl⟩

/-- In every run, whenever the server goes to sleep every client with unsent replies has a write
handler or is in the list of clients to close; and a client with a write handler whose socket takes
at least a byte at every write is sent everything, in at most as many events as there are bytes and
objects left. -/
theorem unsent_replies_are_delivered {s : Net × Ledger}
    (h : (network cfg).Reachable (fun _ _ => True) s) (answers : ClientId → PendingAnswer)
    (c : ClientId) :
    let n := handleClientsWithPendingWrites answers s.1
    ((n.conns c).hasPendingReplies = true →
      (n.conns c).writeHandler = true ∨ c ∈ n.clientsToClose) ∧
    ((n.conns c).writeHandler = true → ∀ events : List (List Turn),
      (∀ turns ∈ events, turns ≠ [] ∧ ∀ t ∈ turns, t.Takes) →
      (n.conns c).backlog ≤ events.length →
        ((sendReplies c events n).conns c).socket = s.2 c) := by
  have htracked := tracked_of_reachable h
  obtain ⟨hmoves, hempty⟩ := handleClientsWithPendingWrites_moves htracked.inv answers
  have hafter := htracked.of_moves hmoves
  constructor
  · intro hpend
    rcases (hmoves.inv.ok c).scheduled hpend with hp | hw | hasap
    · have := (hmoves.inv.pending_iff c).mp hp
      rw [hempty] at this
      exact absurd this (by simp)
    · exact .inl hw
    · exact .inr ((hmoves.inv.close_iff c).mp hasap)
  · intro hw events hevents hlen
    have hconn : ((handleClientsWithPendingWrites answers s.1).conns c).connected = true := by
      by_contra hgone
      have := congrArg Conn.writeHandler ((hmoves.inv.ok c).gone (by simpa using hgone))
      rw [hw] at this
      exact absurd this (by simp [Conn.gone, Conn.new])
    rw [sendReplies_complete hmoves.inv hw hevents hlen]
    exact hafter.stream c hconn

/-- The same client gets the rest through its write handler, a byte at an event. -/
theorem unsent_replies_are_delivered_bytewise :
    ∃ s, (network sampleConfig).Reachable (fun _ _ => True) s ∧
      ((sendReplies 1 (List.replicate 6 [⟨.wrote 1, true⟩]) (handleClientsWithPendingWrites
        (fun _ => ⟨[⟨.wrote 3, true⟩], true⟩) s.1)).conns 1).socket = "+OK\r\n:7\r\n".toList := by
  have h : (network sampleConfig).Reachable (fun _ _ => True) _ :=
    .step (.step (.step (.init rfl)
      (a := .createClient 1) trivial rfl)
      (a := .addReply 1 sharedOk) trivial rfl)
      (a := .addReplyString 1 (":7\r\n".toList)) trivial rfl
  refine ⟨_, h, ((unsent_replies_are_delivered h (fun _ => ⟨[⟨.wrote 3, true⟩], true⟩) 1).2 rfl
    (List.replicate 6 [⟨.wrote 1, true⟩]) ?_ (by decide)).trans rfl⟩
  intro turns hturns
  rw [List.eq_of_mem_replicate hturns]
  refine ⟨by simp, fun t ht => ⟨0, ?_⟩⟩
  rw [List.mem_singleton.mp ht]

end Results

end SelfTestCode.Network
