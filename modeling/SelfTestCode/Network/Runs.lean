import SelfTestCode.Network.World

/-!
# The event loop

The invariant of the server holds after every event, and the results that follow: whatever bytes
arrive, the server survives them as long as it does not know `SMEMSWITCH`, its clients read exactly
what was said to them, and its subscribers get every message once.

A read is the event that executes commands.  `Visits` says what it changes for the client it serves
and for the others, `Frame` what an event leaves alone for a client it is not about.
-/

namespace SelfTestCode.Network

open Broker (ClientId Sds)

/-! ## Reads -/

/-- Commands of the client `c` have led from `w₀` to `w`. -/
structure Visits (o : Outside) (mem : UInt64) (c : ClientId) (w₀ w : World) : Prop
    extends w.Serves o mem c where
  received : w.received = w₀.received
  exchanges : ∀ d, d ≠ c → w.exchanges d = w₀.exchanges d
  queries : ∀ d, (w.net.conns d).connected = true →
    (w₀.net.conns d).connected = true ∧ w.queries d = w₀.queries d
  replies : ∀ d, d ≠ c → repliesOf (w.said d) = repliesOf (w₀.said d)
  flags : ∀ d, d ≠ c → (w.net.conns d).connected = true →
    (w.net.conns d).flags.steady = (w₀.net.conns d).flags.steady

section Reads

variable {o : Outside} {mem : UInt64} {w₀ w w' : World} {c : ClientId} {argv : List (List Char)}

lemma World.Serves.visits (h : w.Serves o mem c) : Visits o mem c w w :=
  ⟨h, rfl, fun _ _ => rfl, fun _ hd => ⟨hd, rfl⟩, fun _ _ => rfl, fun _ _ _ => rfl⟩

/-- The record of a command changes nothing else. -/
lemma World.Serves.answered (h : w'.Serves o mem c) (w : World) (argv : List (List Char)) :
    (w.answered c w' argv).Serves o mem c where
  wire := ⟨h.wire.tracked, h.wire.valid⟩
  parser := h.parser
  same := h.same
  fresh := h.fresh
  run := h.run
  issued := h.issued
  delivered := h.delivered
  connected := h.connected

lemma Visits.goes (h : Visits o mem c w₀ w) (hg : Goes o mem c w w') : Visits o mem c w₀ w' where
  toServes := hg.toServes
  received := hg.received.trans h.received
  exchanges d hd := by rw [hg.exchanges]; exact h.exchanges d hd
  queries d hd := by
    obtain ⟨hd', hq⟩ := hg.queries d hd
    obtain ⟨hd₀, hq₀⟩ := h.queries d hd'
    exact ⟨hd₀, hq.trans hq₀⟩
  replies d hd := (hg.replies d hd).trans (h.replies d hd)
  flags d hd hconn := (hg.flags d hd hconn).trans (h.flags d hd (hg.queries d hconn).1)

lemma Visits.command (ho : o.Lawful) (h : Visits o mem c w₀ w)
    (hargv : ∀ a ∈ argv, a.length ≤ clientMaxQuerybufLen) {r : Bool × World}
    (hr : (host o c).processCommand w argv = some r) : Visits o mem c w₀ r.2 := by
  obtain ⟨r₁, hr₁, rfl⟩ := Option.map_eq_some_iff.mp hr
  have hv := h.goes (processCommand_goes ho h.toServes hargv hr₁)
  refine ⟨hv.toServes.answered w argv, hv.received, fun d hd => ?_, hv.queries, hv.replies,
    hv.flags⟩
  exact (Function.update_of_ne hd _ _).trans (hv.exchanges d hd)

lemma Visits.reset (h : Visits o mem c w₀ w) : Visits o mem c w₀ ((host o c).resetClient w) :=
  h.goes (h.toServes.goes.withFlags ⟨fun _ => rfl, fun _ => rfl, fun _ => id⟩)

lemma Visits.error (h : Visits o mem c w₀ w) {text : List Char} (htext : '\r' ∉ text) :
    Visits o mem c w₀ ((host o c).protocolError w text) :=
  h.goes ((h.toServes.goes.tell (replyError_tells h.wire htext) rfl).withFlags
    ⟨fun _ => rfl, fun _ => rfl, fun _ _ => rfl⟩)

/-- The server is as its parser expects: `QUIT` is the only command that returns `C_ERR`. -/
lemma host_lawful (o : Outside) (c : ClientId) : (host o c).Lawful where
  closing_of_err {w argv w'} h := by
    obtain ⟨⟨ok, w₁⟩, hr, hw⟩ := Option.map_eq_some_iff.mp h
    obtain ⟨rfl, rfl⟩ := Prod.mk.inj hw
    rw [processCommand] at hr
    split at hr
    · obtain ⟨-, rfl⟩ := Prod.mk.inj (Option.some.inj hr)
      simp [host, World.answered, World.withFlags, Net.withFlags]
    · split at hr
      · exact absurd (congrArg Prod.fst (Option.some.inj hr)) (by simp)
      · obtain ⟨w₂, -, hr⟩ := Option.map_eq_some_iff.mp hr
        exact absurd (congrArg Prod.fst hr) (by simp)
  closing_protocolError w text := by simp [host, World.withFlags, Net.withFlags]

lemma World.Serves.receive (h : w.Serves o mem c) (data : List Char) :
    (w.receive c data).Serves o mem c :=
  ⟨⟨⟨h.wire.tracked, h.wire.valid⟩, h.parser, h.same, h.fresh, h.run, h.issued, h.delivered⟩,
    h.connected⟩

/-- The query of the client with what has arrived. -/
def Query.feed (q : Query) (data : List Char) : Query := { q with querybuf := q.querybuf ++ data }

/-- The loop over the buffer of a client, on any bytes: a command of that client has no state after
it, or the loop comes to its end. -/
lemma World.Serves.processInputBuffer (ho : o.Lawful) (h : w.Serves o mem c) {data : List Char}
    (hlen : (w.queries c).querybuf.length + data.length ≤ clientMaxQuerybufLen) :
    (Network.processInputBuffer o.parse (host o c) ((w.queries c).feed data) w = none ∧
        ∃ w₁ argv, w₁.Serves o mem c ∧ (∀ a ∈ argv, a.length ≤ clientMaxQuerybufLen) ∧
          processCommand o c w₁ argv = none) ∨
      ∃ q w₁, Network.processInputBuffer o.parse (host o c) ((w.queries c).feed data) w =
          some (q, w₁) ∧ Visits o mem c w w₁ ∧
        ((w₁.net.conns c).flags.closeAfterReply = true ∨ q.Ready) ∧ q.Small := by
  have hready : (host o c).closing w = true ∨ ((w.queries c).feed data).Ready := by
    rcases (h.parser c).1 with hclose | hready
    · exact .inl hclose
    · exact .inr (hready.append data)
  have hsmall : ((w.queries c).feed data).Small :=
    ⟨by rw [Query.feed, List.length_append]; exact hlen, (h.parser c).2.argv_le⟩
  rcases processInput_rule (I := fun w₁ => Visits o mem c w w₁) (host_lawful o c) ho.splitsLines
    (fun h _ _ hargv hr => h.command ho hargv hr) Visits.reset
    (fun htext h _ => h.error htext) _ h.visits hready hsmall with
    ⟨hnone, w₁, argv, h₁, -, -, hargv, hcall⟩ | ⟨q, w₁, hrun, h₁, hq, hq'⟩
  · exact .inl ⟨hnone, w₁, argv, h₁.toServes, hargv, Option.map_eq_none_iff.mp hcall⟩
  · exact .inr ⟨q, w₁, hrun, h₁, hq, hq'⟩

/-- The parser of the client is stored. -/
lemma World.Serves.storeQuery (h : w.Serves o mem c) {q : Query}
    (hq : (w.net.conns c).flags.closeAfterReply = true ∨ q.Ready) (hsmall : q.Small) :
    ({ w with queries := Function.update w.queries c q } : World).Serves o mem c where
  wire := ⟨h.wire.tracked, h.wire.valid⟩
  parser d := by
    dsimp only
    by_cases hd : d = c
    · subst hd
      rw [Function.update_self]
      exact ⟨hq, hsmall⟩
    · rw [Function.update_of_ne hd]
      exact h.parser d
  same := h.same
  fresh := h.fresh
  run := h.run
  issued := h.issued
  delivered := h.delivered
  connected := h.connected

end Reads

/-! ## What an event leaves alone -/

/-- The event is not about the client `d`: it may be sent messages, and it may be freed. -/
structure Frame (d : ClientId) (w w' : World) : Prop where
  exchanges : w'.exchanges d = w.exchanges d
  received : w'.received d = w.received d
  connected : (w'.net.conns d).connected = true → (w.net.conns d).connected = true
  queries : (w'.net.conns d).connected = true → w'.queries d = w.queries d
  replies : repliesOf (w'.said d) = repliesOf (w.said d)
  flags : (w'.net.conns d).connected = true →
    (w'.net.conns d).flags.steady = (w.net.conns d).flags.steady

section Events

variable {o : Outside} {mem : UInt64} {w w' : World} {c d : ClientId}

lemma Frame.refl (d : ClientId) (w : World) : Frame d w w :=
  ⟨rfl, rfl, id, fun _ => rfl, rfl, fun _ => rfl⟩

lemma Visits.frame (h : Visits o mem c w w') (hd : d ≠ c) : Frame d w w' :=
  ⟨h.exchanges d hd, by rw [h.received], fun hc => (h.queries d hc).1, fun hc => (h.queries d hc).2,
    h.replies d hd, h.flags d hd⟩

/-- Clients are freed, and nothing else happens. -/
lemma Leaving.frame {n : Net} {cs : List ClientId} (h : Leaving o mem n cs w) (hm : Moves w.net n)
    (hw : w.adopt n cs = some w') (d : ClientId) : w'.Inv o mem ∧ Frame d w w' := by
  obtain ⟨hinv, hnet, hsame⟩ := h.adopt hw
  rw [← hnet] at hm
  exact ⟨hinv, by rw [hsame.exchanges], by rw [hsame.received], fun hc => (hm.still hc).1,
    fun hc => hsame.queries d (hnet ▸ hc), by rw [hsame.said], fun hc => (hm.still hc).2⟩

lemma World.Inv.hangup (h : w.Inv o mem) (c : ClientId) :
    Leaving o mem (freeClient w.net c) [c] w := by
  refine h.leaving (freeClient_moves h.wire.tracked.inv c) fun d hd => ?_
  rw [freeClient_conns_of_ne (by simpa using hd)]

/-- How a read ends: the client has sent too much and is freed, a command has no state after it, or
the commands that have arrived are executed. -/
lemma World.Inv.read_cases (ho : o.Lawful) (h : w.Inv o mem)
    (hc : (w.net.conns c).connected = true) (data : List Char) :
    (w.read o c data = (w.receive c data).adopt (freeClient w.net c) [c]) ∨
      (w.read o c data = none ∧ ∃ w₁ argv, w₁.Serves o mem c ∧
        (∀ a ∈ argv, a.length ≤ clientMaxQuerybufLen) ∧ processCommand o c w₁ argv = none) ∨
      ∃ q w₁, Network.processInputBuffer o.parse (host o c) ((w.queries c).feed data)
          (w.receive c data) = some (q, w₁) ∧
        w.read o c data = some { w₁ with queries := Function.update w₁.queries c q } ∧
        Visits o mem c (w.receive c data) w₁ ∧
        ((w₁.net.conns c).flags.closeAfterReply = true ∨ q.Ready) ∧ q.Small := by
  have hs : (w.receive c data).Serves o mem c := World.Serves.receive ⟨h, hc⟩ data
  by_cases hlen : clientMaxQuerybufLen < ((w.queries c).querybuf ++ data).length
  · left
    rw [World.read, readQueryFromClient]
    dsimp only
    rw [if_pos hlen]
    rfl
  · right
    have hread : readQueryFromClient o.parse (host o c) (w.queries c) (w.receive c data) data =
        (Network.processInputBuffer o.parse (host o c) ((w.queries c).feed data)
          (w.receive c data)).map fun r => .alive r.1 r.2 := by
      rw [readQueryFromClient, if_neg hlen]
      rfl
    rw [World.read, hread]
    rw [List.length_append] at hlen
    have hfits : ((w.receive c data).queries c).querybuf.length + data.length ≤
        clientMaxQuerybufLen := not_lt.mp hlen
    rcases hs.processInputBuffer ho hfits with
      ⟨hnone, hcrash⟩ | ⟨q, w₁, hrun, hv, hq, hsmall⟩
    · left
      refine ⟨?_, hcrash⟩
      rw [show (w.receive c data).queries c = w.queries c from rfl] at hnone
      rw [hnone]
      rfl
    · right
      rw [show (w.receive c data).queries c = w.queries c from rfl] at hrun
      exact ⟨q, w₁, hrun, by rw [hrun]; rfl, hv, hq, hsmall⟩

lemma World.Inv.createClient (h : w.Inv o mem) : w.createClient.Inv o mem := by
  have hnew : w.server.nextClientId ∉ w.server.clients := fun hmem =>
    absurd (h.fresh _ hmem) (Nat.lt_irrefl _)
  have hgone : (w.net.conns w.server.nextClientId).connected = false := by
    by_contra hconn
    exact hnew ((h.same _).mp (by simpa using hconn))
  have hclients : ∀ d, d ∈ (Broker.createClient w.server).clients ↔
      d = w.server.nextClientId ∨ d ∈ w.server.clients := fun d => by
    rw [Broker.createClient, AList.mem_insert]
  refine ⟨⟨⟨h.wire.tracked.inv.createClient hgone, fun d => ?_, fun d hd => ?_⟩, fun d v hv => ?_⟩,
    fun d => ?_, fun d => ?_, fun d hd => ?_, System.run_concat h.run rfl, fun op hop => ?_,
    fun hswitch d => ?_⟩
  · by_cases hdc : d = w.server.nextClientId
    · subst hdc
      simp [World.createClient, Conn.new]
    · simp only [World.createClient, Net.setConn_conns_of_ne hdc, Function.update_of_ne hdc]
      exact h.wire.tracked.sent d
  · by_cases hdc : d = w.server.nextClientId
    · subst hdc
      simp [World.createClient, Conn.stream, Conn.pending, Conn.listed, Conn.new]
    · simp only [World.createClient, Net.setConn_conns_of_ne hdc, Function.update_of_ne hdc] at hd ⊢
      exact h.wire.tracked.stream d hd
  · by_cases hdc : d = w.server.nextClientId
    · subst hdc
      simp [World.createClient] at hv
    · simp only [World.createClient, Function.update_of_ne hdc] at hv
      exact h.wire.valid d v hv
  · by_cases hdc : d = w.server.nextClientId
    · subst hdc
      simp only [World.createClient, Function.update_self]
      exact ⟨.inr Query.ready_new, Query.small_new⟩
    · simp only [World.createClient, Net.setConn_conns_of_ne hdc, Function.update_of_ne hdc]
      exact h.parser d
  · refine Iff.trans ?_ (hclients d).symm
    by_cases hdc : d = w.server.nextClientId
    · subst hdc
      simp [World.createClient, Conn.new]
    · simp only [World.createClient, Net.setConn_conns_of_ne hdc, hdc, false_or]
      exact h.same d
  · have hd' := (hclients d).mp hd
    show d < w.server.nextClientId + 1
    rcases hd' with rfl | hd'
    · exact Nat.lt_succ_self _
    · exact Nat.lt_succ_of_lt (h.fresh d hd')
  · rcases List.mem_append.mp hop with hop | hop
    · exact h.issued op hop
    · rw [List.mem_singleton.mp hop]
      trivial
  · by_cases hdc : d = w.server.nextClientId
    · subst hdc
      simp [World.createClient, messagesOf]
    · simp only [World.createClient, Function.update_of_ne hdc]
      exact h.delivered hswitch d

/-! The loops of the network touch the clients of their lists only. -/

section Others

variable {n : Net}

lemma writeToClient_conns_of_ne (hd : d ≠ c) (turns : List Turn) (handlerInstalled : Bool) :
    (writeToClient n c turns handlerInstalled).2.conns d = n.conns d := by
  rw [writeToClient]
  dsimp only
  split
  · rw [freeClient_conns_of_ne hd, Net.setConn_conns_of_ne hd]
  · split
    · split
      · rw [freeClient_conns_of_ne hd, Net.setConn_conns_of_ne hd]
      · rw [Net.setConn_conns_of_ne hd]
    · rw [Net.setConn_conns_of_ne hd]

lemma installHandler_conns_of_ne (hd : d ≠ c) (fileEvent : Bool) :
    (installHandler n c fileEvent).conns d = n.conns d := by
  rw [installHandler]
  split
  · split
    · rw [Net.setConn_conns_of_ne hd]
    · rw [freeClientAsync_conns_of_ne hd]
  · rfl

lemma handlePendingWrites_conns_of_notMem (answers : ClientId → PendingAnswer) :
    ∀ {cs : List ClientId} {n : Net}, d ∉ cs →
      (handlePendingWrites answers cs n).conns d = n.conns d
  | [], _, _ => rfl
  | c :: cs, n, hd => by
    rw [List.mem_cons, not_or] at hd
    rw [handlePendingWrites, handlePendingWrites_conns_of_notMem answers hd.2, handlePendingWrite]
    split
    · rw [installHandler_conns_of_ne hd.1, writeToClient_conns_of_ne hd.1,
        takeOffPending_conns_of_ne hd.1]
    · rw [writeToClient_conns_of_ne hd.1, takeOffPending_conns_of_ne hd.1]

lemma freeClients_conns_of_notMem :
    ∀ {cs : List ClientId} {n : Net}, d ∉ cs → (freeClients cs n).conns d = n.conns d
  | [], _, _ => rfl
  | c :: cs, n, hd => by
    rw [List.mem_cons, not_or] at hd
    rw [freeClients, freeClients_conns_of_notMem hd.2]
    dsimp only
    rw [freeClient_conns_of_ne hd.1, Net.setConn_conns_of_ne hd.1]

end Others

lemma World.Inv.writable (h : w.Inv o mem) (hh : (w.net.conns c).writeHandler = true)
    (turns : List Turn) : Leaving o mem (sendReplyToClient w.net c turns) [c] w := by
  refine h.leaving (sendReplyToClient_moves h.wire.tracked.inv hh turns) fun d hd => ?_
  rw [sendReplyToClient, writeToClient_conns_of_ne (by simpa using hd)]

lemma World.Inv.beforeSleep (h : w.Inv o mem) (answers : ClientId → PendingAnswer) :
    Leaving o mem (handleClientsWithPendingWrites answers w.net) w.net.clientsPendingWrite w := by
  have hmoves := (handleClientsWithPendingWrites_moves h.wire.tracked.inv answers).1
  refine h.leaving hmoves fun d hd => ?_
  rw [handleClientsWithPendingWrites, handlePendingWrites_conns_of_notMem answers hd]

/-- The clock is refreshed. -/
def World.tick (w : World) (now : Int64) : World :=
  { w with
    server := { w.server with unixtime := now }
    net := { w.net with unixtime := now }
    history := w.history ++ [.updateTime now] }

lemma World.Inv.tick (h : w.Inv o mem) (now : Int64) : (w.tick now).Inv o mem where
  wire := by
    have hinv := h.wire.tracked.inv
    exact ⟨⟨⟨hinv.ok, hinv.pending_iff, hinv.pending_nodup, hinv.close_iff, hinv.close_nodup⟩,
      h.wire.tracked.sent, h.wire.tracked.stream⟩, h.wire.valid⟩
  parser := h.parser
  same := h.same
  fresh := h.fresh
  run := System.run_concat h.run rfl
  issued op hop := by
    rcases List.mem_append.mp hop with hop | hop
    · exact h.issued op hop
    · rw [List.mem_singleton.mp hop]
      trivial
  delivered := h.delivered

/-- The state in which `serverCron` comes to the clients to close. -/
def World.swept (o : Outside) (w : World) (now : Int64) (sweeps : Bool) : World :=
  if sweeps then (w.tick now).broker
    (Broker.smemFreeShareMemory o.broker 5 (w.tick now).server).2 (.sweep 5)
  else w.tick now

lemma World.cron_eq (now : Int64) (sweeps : Bool) :
    w.cron o now sweeps = (w.swept o now sweeps).adopt
      (freeClientsInAsyncFreeQueue (w.swept o now sweeps).net)
      (w.swept o now sweeps).net.clientsToClose := rfl

lemma World.Inv.swept (h : w.Inv o mem) (now : Int64) (sweeps : Bool) :
    (w.swept o now sweeps).Inv o mem := by
  rw [World.swept]
  split
  · have hstep : Broker.step o.broker (w.tick now).server (.sweep 5) =
        some (Broker.smemFreeShareMemory o.broker 5 (w.tick now).server).2 := rfl
    exact (h.tick now).broker hstep trivial
      (sameClients_of_sameIndex (Broker.tablesOnly_step rfl hstep).toSameIndex)
  · exact h.tick now

lemma World.frame_swept (now : Int64) (sweeps : Bool) (d : ClientId) :
    Frame d w (w.swept o now sweeps) := by
  rw [World.swept]
  split
  · exact ⟨rfl, rfl, id, fun _ => rfl, rfl, fun _ => rfl⟩
  · exact ⟨rfl, rfl, id, fun _ => rfl, rfl, fun _ => rfl⟩

lemma Frame.trans {w₁ : World} (h₁ : Frame d w w₁) (h₂ : Frame d w₁ w') : Frame d w w' :=
  ⟨h₂.exchanges.trans h₁.exchanges, h₂.received.trans h₁.received,
    fun hc => h₁.connected (h₂.connected hc),
    fun hc => (h₂.queries hc).trans (h₁.queries (h₂.connected hc)), h₂.replies.trans h₁.replies,
    fun hc => (h₂.flags hc).trans (h₁.flags (h₂.connected hc))⟩

lemma World.Inv.closeAsap (h : w.Inv o mem) :
    Leaving o mem (freeClientsInAsyncFreeQueue w.net) w.net.clientsToClose w := by
  refine h.leaving (freeClientsInAsyncFreeQueue_moves h.wire.tracked.inv) fun d hd => ?_
  rw [freeClientsInAsyncFreeQueue, freeClients_conns_of_notMem hd]

/-- The client an event is about: the new one, or the one that is read from. -/
def Event.concerns (w : World) : Event → ClientId → Prop
  | .accept, d => d = w.server.nextClientId
  | .readable c _, d => d = c
  | _, _ => False

/-- A read keeps the invariant and leaves the other clients alone. -/
lemma World.Inv.read (ho : o.Lawful) (h : w.Inv o mem) (hc : (w.net.conns c).connected = true)
    {data : List Char} (hw : w.read o c data = some w') :
    w'.Inv o mem ∧ ∀ d, d ≠ c → Frame d w w' := by
  have hframe : ∀ d, d ≠ c → Frame d w (w.receive c data) := fun d hd =>
    ⟨rfl, Function.update_of_ne hd _ _, id, fun _ => rfl, rfl, fun _ => rfl⟩
  have hs : (w.receive c data).Serves o mem c := World.Serves.receive ⟨h, hc⟩ data
  rcases h.read_cases ho hc data with hfreed | ⟨hnone, -⟩ | ⟨q, w₁, -, hread, hv, hq, hsmall⟩
  · rw [hfreed] at hw
    have hleave := (hs.toInv.hangup c).frame (freeClient_moves hs.wire.tracked.inv c) hw
    exact ⟨(hleave c).1, fun d hd => (hframe d hd).trans (hleave d).2⟩
  · rw [hnone] at hw
    exact absurd hw (by simp)
  · rw [hread] at hw
    obtain rfl := Option.some.inj hw
    refine ⟨(hv.toServes.storeQuery hq hsmall).toInv, fun d hd => (hframe d hd).trans ?_⟩
    have hv' := hv.frame hd
    refine ⟨hv'.exchanges, hv'.received, hv'.connected, fun hcd => ?_, hv'.replies,
      hv'.flags⟩
    exact (Function.update_of_ne hd _ _).trans (hv'.queries hcd)

/-- Every event keeps the invariant, and leaves clients alone that it is not about. -/
lemma World.Inv.step (ho : o.Lawful) (h : w.Inv o mem) {e : Event} (hw : w.step o e = some w') :
    w'.Inv o mem ∧ ∀ d, ¬ e.concerns w d → Frame d w w' := by
  cases e with
  | accept =>
    obtain rfl := Option.some.inj hw
    refine ⟨h.createClient, fun d hd => ?_⟩
    have hd' : d ≠ w.server.nextClientId := hd
    refine ⟨Function.update_of_ne hd' _ _, Function.update_of_ne hd' _ _, fun hc => ?_,
      fun _ => Function.update_of_ne hd' _ _, ?_, fun _ => ?_⟩
    · simpa only [World.createClient, Net.setConn_conns_of_ne hd'] using hc
    · simp only [World.createClient, Function.update_of_ne hd']
    · simp only [World.createClient, Net.setConn_conns_of_ne hd']
  | readable c data =>
    rw [World.step] at hw
    split at hw
    · rename_i hc
      exact h.read ho hc.1 hw
    · obtain rfl := Option.some.inj hw
      exact ⟨h, fun d _ => Frame.refl d w⟩
  | hangup c =>
    rw [World.step] at hw
    split at hw
    · have := (h.hangup c).frame (freeClient_moves h.wire.tracked.inv c) hw
      exact ⟨(this c).1, fun d _ => (this d).2⟩
    · obtain rfl := Option.some.inj hw
      exact ⟨h, fun d _ => Frame.refl d w⟩
  | writable c turns =>
    rw [World.step] at hw
    split at hw
    · rename_i hh
      have := (h.writable hh turns).frame (sendReplyToClient_moves h.wire.tracked.inv hh turns) hw
      exact ⟨(this c).1, fun d _ => (this d).2⟩
    · obtain rfl := Option.some.inj hw
      exact ⟨h, fun d _ => Frame.refl d w⟩
  | beforeSleep answers =>
    have := (h.beforeSleep answers).frame
      (handleClientsWithPendingWrites_moves h.wire.tracked.inv answers).1 hw
    exact ⟨(this 0).1, fun d _ => (this d).2⟩
  | cron now sweeps =>
    rw [World.step, World.cron_eq] at hw
    have hswept := h.swept (o := o) now sweeps
    have := hswept.closeAsap.frame (freeClientsInAsyncFreeQueue_moves hswept.wire.tracked.inv) hw
    exact ⟨(this 0).1, fun d _ => (World.frame_swept now sweeps d).trans (this d).2⟩
  | rehash entries =>
    obtain rfl := Option.some.inj hw
    exact ⟨h.broker rfl trivial (sameClients_rehash entries),
      fun d _ => ⟨rfl, rfl, id, fun _ => rfl, rfl, fun _ => rfl⟩⟩

/-- The invariant holds in every run. -/
theorem World.Inv.of_reachable (ho : o.Lawful)
    (h : (serverSystem o).Reachable (fun _ _ => True) w) : ∃ mem, w.Inv o mem := by
  refine System.Reachable.invariant (I := fun w => ∃ mem, w.Inv o mem) ?_ ?_ h
  · rintro w ⟨mem, rfl⟩
    exact ⟨mem, World.inv_init o mem⟩
  · rintro w e w' - ⟨mem, h⟩ - hw
    exact ⟨mem, (h.step ho hw).1⟩

end Events

end SelfTestCode.Network
