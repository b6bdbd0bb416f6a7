import SelfTestCode.Network.Runs

/-!
# What the clients of the server can rely on

The results about whole runs of the event loop.

* `server_survives_any_bytes`: without `SMEMSWITCH` no sequence of bytes, connections, hangups and
  partial writes makes the server fail an assertion or use a freed client.
* `clients_read_what_was_said`: what a client decodes from its socket is a prefix of the values
  that were said to it, and all of them once everything is written.
* `bytes_drive_the_broker`: the commands in the bytes move the broker through one of its own runs,
  so that what holds in every run of the broker holds here.
* `messages_reach_subscribers_once`: a client decodes each message that was published on a channel
  while it was subscribed to it, once and in the order of publication, and no other.
* `requests_are_answered_in_order`: a client that sends requests one after the other, without
  waiting for the answers, finds the answer to the `n`th request at the `n`th place among the
  values it decodes that are no messages.
-/

namespace SelfTestCode.Network

open Broker (ClientId Sds)

/-! ## A server to try it with -/

/-- The commands of this repository but `SMEMSWITCH`. -/
def sampleCommands : List Command :=
  [.smemget, .smemfree, .smemrm, .smemsubscribe, .smempublish, .client, .ping]

/-- A server that knows these commands, refuses none and kills nobody. -/
def sampleOutside : Outside where
  broker := Broker.sampleEnv
  cfg := sampleConfig
  parse := plainEnv
  lookupCommand name := sampleCommands.find? fun cmd => strcaseeq name cmd.name
  refusedBefore _ _ := none
  refusedAfter _ _ := none
  answer _ _ := ⟨[.error "ERR syntax error".toList], none⟩
  killMatches _ _ := none

lemma sampleOutside_lawful : sampleOutside.Lawful where
  readsDecimals := plainEnv_readsDecimals
  splitsLines := plainEnv_splitsLines
  refusedBefore _ _ _ h := by cases h
  refusedAfter _ _ _ h := by cases h
  answer _ _ v hv := by
    obtain rfl := List.mem_singleton.mp hv
    exact ⟨by simp [Resp.Value.Valid], rfl⟩

/-- The requests of the first client. -/
def sampleRequests : List (List (List Char)) :=
  [["smemget".toList, "100".toList], ["PING".toList],
    ["smempublish".toList, "news".toList, "hi".toList]]

/-- The second client subscribes, and the bytes of the first arrive in two pieces. -/
def sampleEvents : List Event :=
  [.accept, .accept, .readable 2 (requests [["SMEMSUBSCRIBE".toList, "news".toList]]),
    .readable 1 ((requests sampleRequests).take 40),
    .readable 1 ((requests sampleRequests).drop 40),
    .beforeSleep fun _ => ⟨[⟨.wrote 1000, true⟩], true⟩]

/-- Both clients are connected and have been sent everything. -/
lemma exists_sample : ∃ w, (serverSystem sampleOutside).Reachable (fun _ _ => True) w ∧
    (∀ c ∈ ([1, 2] : List ClientId),
      (w.net.conns c).connected = true ∧ (w.net.conns c).pending = []) ∧
    w.received 1 = requests sampleRequests ∧ (w.net.conns 1).flags.closeAfterReply = false ∧
    w.inbox 2 = [("news".toList, "hi".toList)] ∧
    (w.net.conns 1).socket = ":2\r\n+PONG\r\n:1\r\n".toList := by
  have hrun : ((serverSystem sampleOutside).run (World.init 100000) sampleEvents).map
      (fun w : World => decide ((∀ c ∈ ([1, 2] : List ClientId),
          (w.net.conns c).connected = true ∧ (w.net.conns c).pending = []) ∧
        w.received 1 = requests sampleRequests ∧ (w.net.conns 1).flags.closeAfterReply = false ∧
        w.inbox 2 = [("news".toList, "hi".toList)] ∧
        (w.net.conns 1).socket = ":2\r\n+PONG\r\n:1\r\n".toList)) = some true := by decide +kernel
  obtain ⟨w, hw, hfacts⟩ := Option.map_eq_some_iff.mp hrun
  refine ⟨w, .of_run (.init ⟨_, rfl⟩) ?_ hw, of_decide_eq_true hfacts⟩
  exact ⟨trivial, fun _ _ => ⟨trivial, fun _ _ => ⟨trivial, fun _ _ => ⟨trivial, fun _ _ =>
    ⟨trivial, fun _ _ => ⟨trivial, fun _ _ => trivial⟩⟩⟩⟩⟩⟩

/-! ## The server survives -/

section Survival

variable {o : Outside} {mem : UInt64} {w : World} {c : ClientId} {argv : List (List Char)}

lemma Leaving.index {n : Net} {cs : List ClientId} (h : Leaving o mem n cs w)
    (hswitch : ¬ o.HasSwitch) : Broker.IndexInv w.server :=
  Broker.IndexInv.of_reachable
    (System.Reachable.of_run (.init ⟨mem, rfl⟩) (guarded_of_issued hswitch h.issued) h.run)

/-- The same server with `SMEMSWITCH`. -/
def switchOutside : Outside :=
  { sampleOutside with
    lookupCommand := fun name =>
      (Command.smemswitch :: sampleCommands).find? (fun cmd => strcaseeq name cmd.name) }

-- a client that is switched to a channel it listens to stays in the list of the channel when it
-- has gone
example : ((serverSystem switchOutside).run (World.init 100000)
    [.accept, .accept,
      .readable 2 (requests [["client".toList, "setname".toList, "x".toList],
        ["smemsubscribe".toList, "a".toList, "p".toList]]),
      .readable 1 (requests [["smemswitch".toList, "p".toList, "x".toList]]), .hangup 2,
      .readable 1 (requests [["smempublish".toList, "p".toList, "7".toList]])]).isNone = true := by
  decide +kernel

end Survival

/-! ## What arrives -/

section Arrival

variable {o : Outside} {w : World}

/-- The values a client has decoded from what it could read so far. -/
def World.decoded (w : World) (c : ClientId) : List Resp.Value :=
  (Resp.resp.drain (w.net.conns c).socket).1

lemma Wire.decoded_prefix (h : Wire w) (c : ClientId) : w.decoded c <+: w.said c := by
  obtain ⟨j, htaken, -, -⟩ := Framing.drain_of_prefix (h.valid c) (h.tracked.sent c)
  rw [World.decoded, htaken]
  exact List.take_prefix j _

lemma Wire.socket_eq (h : Wire w) {c : ClientId} (hc : (w.net.conns c).connected = true)
    (hsent : (w.net.conns c).pending = []) :
    (w.net.conns c).socket = Resp.resp.encodeAll (w.said c) := by
  have hstream := h.tracked.stream c hc
  rwa [Conn.stream, hsent, List.append_nil] at hstream

lemma Wire.decoded_eq (h : Wire w) {c : ClientId} (hc : (w.net.conns c).connected = true)
    (hsent : (w.net.conns c).pending = []) : w.decoded c = w.said c := by
  have hsocket := h.socket_eq hc hsent
  obtain ⟨j, htaken, htext, hread⟩ := Framing.drain_of_prefix (h.valid c) (h.tracked.sent c)
  have hheld : Resp.resp.Held (Resp.resp.encodeAll (w.said c)) (w.decoded c)
      (Resp.resp.drain (w.net.conns c).socket).2 := by
    refine ⟨?_, hread⟩
    rw [World.decoded, htaken, ← htext, hsocket]
  exact (hheld.complete (h.valid c) (h.decoded_prefix c)).1

/-- What a client decodes from its socket is a prefix of the values that were said to it, with
nothing added, lost or out of order, wherever the writes to the socket were cut.  As long as it is
connected the rest is in its output buffers, and when these are empty it has decoded everything. -/
theorem clients_read_what_was_said (ho : o.Lawful)
    (h : (serverSystem o).Reachable (fun _ _ => True) w) (c : ClientId) :
    w.decoded c <+: w.said c ∧
      ((w.net.conns c).connected = true →
        (w.net.conns c).socket ++ (w.net.conns c).pending = Resp.resp.encodeAll (w.said c) ∧
        ((w.net.conns c).pending = [] → w.decoded c = w.said c)) := by
  obtain ⟨mem, hinv⟩ := World.Inv.of_reachable ho h
  exact ⟨hinv.wire.decoded_prefix c, fun hc =>
    ⟨hinv.wire.tracked.stream c hc, hinv.wire.decoded_eq hc⟩⟩

theorem clients_read_what_was_said_sample :
    ∃ w, (serverSystem sampleOutside).Reachable (fun _ _ => True) w ∧ w.decoded 1 = w.said 1 ∧
      Resp.resp.encodeAll (w.said 1) = ":2\r\n+PONG\r\n:1\r\n".toList := by
  obtain ⟨w, hw, hboth, -, -, -, hsocket⟩ := exists_sample
  obtain ⟨hconn, hsent⟩ := hboth 1 (by decide)
  obtain ⟨-, hall⟩ := clients_read_what_was_said sampleOutside_lawful hw 1
  obtain ⟨hstream, hdecoded⟩ := hall hconn
  refine ⟨w, hw, hdecoded hsent, ?_⟩
  rw [← hstream, hsent, List.append_nil, hsocket]

/-- Whatever bytes arrive, the broker is in a state that one of its own runs leads to, so that with
fresh segment ids its tables are well formed. -/
theorem bytes_drive_the_broker (ho : o.Lawful)
    (h : (serverSystem o).Reachable (fun _ _ => True) w) :
    (∃ mem, (Broker.broker o.broker).run (Broker.initServer mem) w.history = some w.server) ∧
      (o.broker.FreshIds → Broker.TableInv o.broker w.server) := by
  obtain ⟨mem, hinv⟩ := World.Inv.of_reachable ho h
  refine ⟨⟨mem, hinv.run⟩, fun henv => ?_⟩
  have hguarded : (Broker.broker o.broker).Guarded (fun _ _ => True) (Broker.initServer mem)
      w.history := by
    generalize Broker.initServer mem = s
    induction w.history generalizing s with
    | nil => trivial
    | cons op ops ih => exact ⟨trivial, fun s' _ => ih s'⟩
  exact Broker.TableInv.of_reachable henv
    (System.Reachable.of_run (.init ⟨mem, rfl⟩) hguarded hinv.run)

theorem bytes_drive_the_broker_sample :
    ∃ w, (serverSystem sampleOutside).Reachable (fun _ _ => True) w ∧
      Broker.TableInv Broker.sampleEnv w.server := by
  obtain ⟨w, hw, -⟩ := exists_sample
  exact ⟨w, hw, (bytes_drive_the_broker sampleOutside_lawful hw).2 Broker.sampleEnv_freshIds⟩

end Arrival

/-! ## Requests and replies -/

/-- The commands that are answered with one value. -/
def Command.single : Command → Bool
  | .smemget | .smemfree | .smemrm | .smempublish | .smemswitch | .ping => true
  | .smemsubscribe | .client | .other _ _ _ => false

/-- A request for a command that is answered with one value, or for none. -/
def Outside.Single (o : Outside) (argv : List (List Char)) : Prop :=
  ∀ cmd, o.lookupCommand (arg argv 0) = some cmd → cmd.single = true

/-- A client that is not in the context of Pub/Sub and has not turned its replies off. -/
structure Flags.Plain (f : Flags) : Prop where
  pubsub : f.pubsub = false
  replyOff : f.replyOff = false
  replySkipNext : f.replySkipNext = false
  replySkip : f.replySkip = false

/-- The client is told one value, and maybe messages. -/
structure Answered (c : ClientId) (w w' : World) : Prop where
  said : ∃ vs, w'.said c = w.said c ++ vs ∧ (repliesOf vs).length = 1
  flags : (w'.net.conns c).flags.Plain

section Answers

variable {o : Outside} {mem : UInt64} {w w₀ w₁ w' : World} {c : ClientId} {argv : List (List Char)}

lemma Flags.Plain.congr {f f' : Flags} (h : f.Plain) (hs : f'.steady = f.steady) : f'.Plain where
  pubsub := (congrArg Flags.pubsub hs).trans h.pubsub
  replyOff := (congrArg Flags.replyOff hs).trans h.replyOff
  replySkipNext := (congrArg Flags.replySkipNext hs).trans h.replySkipNext
  replySkip := (congrArg Flags.replySkip hs).trans h.replySkip

/-- The server listens to the client, and its replies are kept. -/
structure Talks (w : World) (c : ClientId) : Prop where
  wire : Wire w
  connected : (w.net.conns c).connected = true
  flags : (w.net.conns c).flags.Plain
  opened : (w.net.conns c).flags.closeAfterReply = false

lemma Talks.accepts (h : Talks w c) : (w.net.conns c).accepts = true := by
  simp [Conn.accepts, h.connected, h.flags.replyOff, h.flags.replySkip, h.opened]

/-- The broker's part of a command is not about the connection. -/
lemma Talks.broker (h : Talks w c) (server : Broker.Server) (op : Broker.Op) :
    Talks (w.broker server op) c :=
  ⟨⟨h.wire.tracked, h.wire.valid⟩, h.connected, h.flags, h.opened⟩

lemma Talks.tells (h : Talks w c) {v : Resp.Value} (ht : Tells w w' c [v])
    (hplain : asMessage v = none) : Answered c w w' where
  said := by
    refine ⟨[v], ?_, ?_⟩
    · rw [ht.said, Function.update_self, if_pos h.accepts]
    · rw [repliesOf_of_plain (by simpa using hplain)]
      rfl
  flags := h.flags.congr (ht.steady c)

lemma Talks.longLong (h : Talks w c) (server : Broker.Server) (op : Broker.Op) (ll : Int64) :
    Answered c w (replyLongLong o (w.broker server op) c ll) := by
  have hb := h.broker server op
  have ha := hb.tells (replyLongLong_tells (o := o) hb.wire ll) rfl
  exact ⟨ha.said, ha.flags⟩

lemma Talks.error (h : Talks w c) {text : List Char} (htext : '\r' ∉ text) :
    Answered c w (replyError o w c text) :=
  h.tells (replyError_tells h.wire htext) rfl

lemma Talks.refuse (h : Talks w c) {text : List Char} (htext : '\r' ∉ text) :
    Answered c w (replyShared o w c (.error text)) :=
  h.tells (replyShared_tells h.wire (by simpa [Resp.Value.Valid] using htext)) rfl

/-- A publish answers after the messages, of which the client may get one itself. -/
lemma Talks.publish (h : Talks w c) {channel message : List Char}
    (hc : channel.length ≤ clientMaxQuerybufLen) (hm : message.length ≤ clientMaxQuerybufLen)
    (hw : callSmempublish o c w channel message = some w') : Answered c w w' := by
  rw [callSmempublish] at hw
  split at hw
  · exact absurd hw (by simp)
  · rename_i pushes server hpub
    obtain rfl := Option.some.inj hw
    have hp := pushMessages_posts (o := o) hc hm (pushes.map Prod.fst)
      (w := (w.post channel message).broker server (.smempublish c (sds channel) (sds message)))
      ⟨h.wire.tracked, h.wire.valid⟩
    have hopen : Talks (pushMessages o channel message ((w.post channel message).broker server
        (.smempublish c (sds channel) (sds message))) (pushes.map Prod.fst)) c :=
      ⟨hp.wire, (hp.connected c).trans h.connected, h.flags.congr (hp.steady c),
        (congrArg Flags.closeAfterReply (hp.steady c)).trans h.opened⟩
    obtain ⟨⟨us, hus, hlen⟩, hflags⟩ := hopen.tells (replyLongLong_tells (o := o) hopen.wire
      (Int32.ofNat pushes.length).toInt64) rfl
    obtain ⟨vs, hvs, hreplies, -⟩ := hp.said c
    refine ⟨⟨vs ++ us, ?_, ?_⟩, hflags⟩
    · rw [hus, hvs, List.append_assoc]
      rfl
    · rw [repliesOf_append, hreplies, List.nil_append, hlen]

lemma Talks.ping (h : Talks w c) (hargv : ∀ a ∈ argv, a.length ≤ clientMaxQuerybufLen) :
    Answered c w (callPing o c w argv) := by
  rw [callPing]
  split
  · exact h.error (notMem_withoutNewlines _)
  · rw [if_neg (by simp [h.flags.pubsub])]
    split
    · exact h.tells (replyShared_tells h.wire (by simp [Resp.Value.Valid])) rfl
    · exact h.tells (replyBulk_tells h.wire (length_arg_le hargv 1)) rfl

lemma Talks.call (h : Talks w c) (hargv : ∀ a ∈ argv, a.length ≤ clientMaxQuerybufLen)
    {cmd : Command} (hcmd : cmd.single = true) (hw : Network.call o c w cmd argv = some w') :
    Answered c w w' := by
  cases cmd with
  | smemget =>
    obtain rfl := Option.some.inj hw
    exact h.longLong _ _ _
  | smemfree =>
    obtain rfl := Option.some.inj hw
    exact h.longLong _ _ _
  | smemrm =>
    obtain rfl := Option.some.inj hw
    exact h.longLong _ _ _
  | smempublish => exact h.publish (length_arg_le hargv 1) (length_arg_le hargv 2) hw
  | smemswitch =>
    rw [Network.call, callSmemswitch] at hw
    split at hw
    · exact absurd hw (by simp)
    · obtain rfl := Option.some.inj hw
      exact h.longLong _ _ _
  | ping =>
    obtain rfl := Option.some.inj hw
    exact h.ping hargv
  | smemsubscribe => exact absurd hcmd (by simp [Command.single])
  | client => exact absurd hcmd (by simp [Command.single])
  | other name arity pubsub => exact absurd hcmd (by simp [Command.single])

lemma Talks.processLookedUp (ho : o.Lawful) (h : Talks w c)
    (hargv : ∀ a ∈ argv, a.length ≤ clientMaxQuerybufLen) {cmd : Command}
    (hcmd : cmd.single = true) (hw : Network.processLookedUp o c w cmd argv = some w') :
    Answered c w w' := by
  rw [Network.processLookedUp] at hw
  split at hw
  · obtain rfl := Option.some.inj hw
    exact h.error (notMem_withoutNewlines _)
  · split at hw
    · rename_i text htext
      obtain rfl := Option.some.inj hw
      exact h.refuse (ho.refusedBefore _ _ text htext)
    · rw [if_neg (by simp [h.flags.pubsub])] at hw
      split at hw
      · rename_i text htext
        obtain rfl := Option.some.inj hw
        exact h.refuse (ho.refusedAfter _ _ text htext)
      · exact h.call hargv hcmd hw

/-- A request for such a command is answered with one value, be it an error. -/
lemma Talks.processCommand (ho : o.Lawful) (h : Talks w c)
    (hargv : ∀ a ∈ argv, a.length ≤ clientMaxQuerybufLen) (hsingle : o.Single argv)
    {r : Bool × World} (hr : Network.processCommand o c w argv = some r) : Answered c w r.2 := by
  rw [Network.processCommand] at hr
  split at hr
  · obtain rfl := Option.some.inj hr
    have ha := h.tells (replyOk_tells (o := o) h.wire) rfl
    refine ⟨ha.said, ?_⟩
    rw [World.withFlags, Net.withFlags, Net.setConn_conns_self]
    exact ⟨ha.flags.pubsub, ha.flags.replyOff, ha.flags.replySkipNext, ha.flags.replySkip⟩
  · split at hr
    · obtain rfl := Option.some.inj hr
      exact h.error (notMem_withoutNewlines _)
    · rename_i cmd hcmd
      obtain ⟨w₁, hw₁, rfl⟩ := Option.map_eq_some_iff.mp hr
      exact h.processLookedUp ho hargv (hsingle cmd hcmd) hw₁

/-- The commands `done` of the client were executed between `w` and `w'`, and each was answered
with one value. -/
structure Converses (c : ClientId) (w w' : World) (done : List (List (List Char))) : Prop where
  exchanges : ∃ es, w'.exchanges c = w.exchanges c ++ es ∧ es.map Prod.fst = done ∧
    (∀ x ∈ es, (repliesOf x.2).length = 1) ∧
    repliesOf (w'.said c) = repliesOf (w.said c) ++ es.flatMap fun x => repliesOf x.2
  flags : (w'.net.conns c).flags.Plain

lemma Converses.nil (h : (w.net.conns c).flags.Plain) : Converses c w w [] :=
  ⟨⟨[], by simp, rfl, by simp, by simp⟩, h⟩

lemma Converses.cons {done : List (List (List Char))} (h₁ : Converses c w w₁ [argv])
    (h₂ : Converses c w₁ w' done) : Converses c w w' (argv :: done) := by
  obtain ⟨es₁, hes₁, hdone₁, hone₁, hsaid₁⟩ := h₁.exchanges
  obtain ⟨es₂, hes₂, hdone₂, hone₂, hsaid₂⟩ := h₂.exchanges
  refine ⟨⟨es₁ ++ es₂, ?_, ?_, fun x hx => ?_, ?_⟩, h₂.flags⟩
  · rw [hes₂, hes₁, List.append_assoc]
  · rw [List.map_append, hdone₁, hdone₂]
    rfl
  · rcases List.mem_append.mp hx with hx | hx
    · exact hone₁ x hx
    · exact hone₂ x hx
  · rw [hsaid₂, hsaid₁, List.flatMap_append, List.append_assoc]

/-- One request, with the record of it and the reset of the client. -/
lemma Visits.request (ho : o.Lawful) (h : Visits o mem c w₀ w)
    (hflags : (w.net.conns c).flags.Plain) (hopen : (host o c).closing w = false)
    (hs : Sendable argv) (hsingle : o.Single argv) (hw : (host o c).request w argv = some w') :
    Visits o mem c w₀ w' ∧ Converses c w w' [argv] := by
  have hargv : ∀ a ∈ argv, a.length ≤ clientMaxQuerybufLen := fun a ha =>
    (hs.bulk_le a ha).trans (by decide)
  rw [Host.request, if_neg hs.ne_nil] at hw
  obtain ⟨r, hr, rfl⟩ := Option.map_eq_some_iff.mp hw
  have hv := h.command ho hargv hr
  obtain ⟨r₁, hr₁, rfl⟩ := Option.map_eq_some_iff.mp hr
  have hgoes := processCommand_goes ho h.toServes hargv hr₁
  obtain ⟨⟨vs, hvs, hone⟩, hplain⟩ :=
    Talks.processCommand ho ⟨h.wire, h.connected, hflags, hopen⟩ hargv hsingle hr₁
  have hconv : Converses c w (w.answered c r₁.2 argv) [argv] := by
    refine ⟨⟨[(argv, vs)], ?_, rfl, by simpa using hone, ?_⟩, hplain⟩
    · simp [World.answered, hgoes.exchanges, hvs]
    · show repliesOf (r₁.2.said c) = _
      rw [hvs, repliesOf_append]
      simp
  dsimp only
  split
  · refine ⟨hv.reset, hconv.exchanges, ?_⟩
    have hp := hconv.flags
    simp only [host, World.withFlags, Net.withFlags, Net.setConn_conns_self]
    exact ⟨hp.pubsub, hp.replyOff, rfl, hp.replySkipNext⟩
  · exact ⟨hv, hconv⟩

/-- Requests one after the other, until one of them has the connection closed. -/
lemma Visits.requests (ho : o.Lawful) :
    ∀ {now : List (List (List Char))} {w : World}, Visits o mem c w₀ w →
      (w.net.conns c).flags.Plain → (∀ argv ∈ now, Sendable argv ∧ o.Single argv) →
      (host o c).run w now = some w' →
      ∃ done, done <+: now ∧ Converses c w w' done ∧ ((host o c).closing w' = true ∨ done = now)
  | [], w, h, hflags, _, hw => by
    obtain rfl := Option.some.inj hw
    exact ⟨[], List.nil_prefix, .nil hflags, .inr rfl⟩
  | argv :: now, w, h, hflags, hcmds, hw => by
    cases hc : (host o c).closing w with
    | true =>
      rw [Host.run_of_closing hc] at hw
      obtain rfl := Option.some.inj hw
      exact ⟨[], List.nil_prefix, .nil hflags, .inl hc⟩
    | false =>
      rw [Host.run_cons_of_not_closing hc] at hw
      obtain ⟨w₁, hw₁, hw⟩ := Option.bind_eq_some_iff.mp hw
      obtain ⟨hs, hsingle⟩ := hcmds argv List.mem_cons_self
      obtain ⟨hv, hconv⟩ := h.request ho hflags hc hs hsingle hw₁
      obtain ⟨done, hdone, hconv', hend⟩ := hv.requests ho hconv.flags
        (fun a ha => hcmds a (List.mem_cons_of_mem _ ha)) hw
      refine ⟨argv :: done, (List.prefix_cons_inj _).mpr hdone, hconv.cons hconv', ?_⟩
      rcases hend with hend | rfl
      · exact .inl hend
      · exact .inr rfl

end Answers

/-- A client that sends the requests `cmds`, as far as their bytes have arrived: a prefix of them is
executed, and the parser waits for the others or the connection is to be closed. -/
structure Conversation (cmds : List (List (List Char))) (c : ClientId) (w : World) : Prop where
  flags : (w.net.conns c).flags.Plain
  single : ∀ x ∈ w.exchanges c, (repliesOf x.2).length = 1
  replies : repliesOf (w.said c) = (w.exchanges c).flatMap fun x => repliesOf x.2
  progress : ∃ later rest, cmds = (w.exchanges c).map Prod.fst ++ later ∧
    requests cmds = w.received c ++ rest ∧
    ((w.net.conns c).flags.closeAfterReply = true ∨ Waits (w.queries c) rest later)

section Conversations

variable {o : Outside} {mem : UInt64} {w w' : World} {c : ClientId}
  {cmds : List (List (List Char))}

/-- The bytes of a read are recorded. -/
lemma World.Inv.received_read (ho : o.Lawful) (h : w.Inv o mem)
    (hc : (w.net.conns c).connected = true) {data : List Char} (hw : w.read o c data = some w') :
    w'.received = (w.receive c data).received := by
  have hs : (w.receive c data).Serves o mem c := World.Serves.receive ⟨h, hc⟩ data
  rcases h.read_cases ho hc data with hfreed | ⟨hnone, -⟩ | ⟨q, w₁, -, hread, hv, -, -⟩
  · rw [hfreed] at hw
    obtain ⟨-, -, hsame⟩ := (hs.toInv.hangup c).adopt hw
    exact hsame.received
  · rw [hnone] at hw
    exact absurd hw (by simp)
  · rw [hread] at hw
    obtain rfl := Option.some.inj hw
    exact hv.received

/-- A new client. -/
lemma conversation_createClient (cmds : List (List (List Char))) (w : World) :
    Conversation cmds w.server.nextClientId w.createClient where
  flags := by
    simp only [World.createClient, Net.setConn_conns_self]
    exact ⟨rfl, rfl, rfl, rfl⟩
  single x hx := by simp [World.createClient] at hx
  replies := by simp [World.createClient, repliesOf]
  progress := ⟨cmds, requests cmds, by simp [World.createClient], by simp [World.createClient],
    .inr (by simpa [World.createClient] using waits_new cmds)⟩

/-- An event that is not about the client. -/
lemma Conversation.frame (h : Conversation cmds c w) (hf : Frame c w w')
    (hc : (w'.net.conns c).connected = true) : Conversation cmds c w' where
  flags := h.flags.congr (hf.flags hc)
  single := by rw [hf.exchanges]; exact h.single
  replies := by rw [hf.replies, hf.exchanges]; exact h.replies
  progress := by
    obtain ⟨later, rest, hcmds, hrest, hend⟩ := h.progress
    rw [hf.exchanges, hf.received, hf.queries hc]
    refine ⟨later, rest, hcmds, hrest, ?_⟩
    rcases hend with hclose | hwaits
    · exact .inl ((congrArg Flags.closeAfterReply (hf.flags hc)).trans hclose)
    · exact .inr hwaits

/-- A read: the requests that are complete now are executed. -/
lemma Conversation.read (ho : o.Lawful) (hcmds : ∀ argv ∈ cmds, Sendable argv ∧ o.Single argv)
    (hinv : w.Inv o mem) (hc : (w.net.conns c).connected = true) (h : Conversation cmds c w)
    {data : List Char} (hdata : data.length ≤ (w.queries c).readlen)
    (hrec : w.received c ++ data <+: requests cmds) (hw : w.read o c data = some w')
    (hc' : (w'.net.conns c).connected = true) : Conversation cmds c w' := by
  have hs : (w.receive c data).Serves o mem c := World.Serves.receive ⟨hinv, hc⟩ data
  rcases hinv.read_cases ho hc data with hfreed | ⟨hnone, -⟩ | ⟨q, w₁, hrun, hread, hv, -, -⟩
  · -- the client is freed
    rw [hfreed] at hw
    obtain ⟨-, hnet, -⟩ := (hs.toInv.hangup c).adopt hw
    rw [hnet, freeClient_conns_self] at hc'
    exact absurd hc' (by simp [Conn.gone, Conn.new])
  · rw [hnone] at hw
    exact absurd hw (by simp)
  rw [hread] at hw
  obtain rfl := Option.some.inj hw
  obtain ⟨later, rest, hlater, hrest, hend⟩ := h.progress
  obtain ⟨rest', hrest'⟩ := hrec
  obtain rfl : rest = data ++ rest' := by
    rw [hrest, List.append_assoc] at hrest'
    exact (List.append_cancel_left hrest').symm
  have hreceived : w₁.received c = w.received c ++ data := by
    rw [hv.received]
    simp [World.receive]
  rcases hend with hclose | hwaits
  · -- nothing is executed for a connection that is to be closed
    have hsame : processInputBuffer o.parse (host o c) ((w.queries c).feed data)
        (w.receive c data) = some ((w.queries c).feed data, w.receive c data) :=
      processInput_of_closing hclose _
    rw [hsame] at hrun
    obtain ⟨-, rfl⟩ := Prod.mk.inj (Option.some.inj hrun)
    exact ⟨h.flags, h.single, h.replies, later, rest', hlater, by rw [← hrest', hreceived],
      .inl hclose⟩
  · have hlater' : ∀ argv ∈ later, Sendable argv ∧ o.Single argv := fun argv hargv =>
      hcmds argv (by rw [hlater]; exact List.mem_append_right _ hargv)
    have hadvances := processInputBuffer_spec ho.readsDecimals (host_lawful o c)
      (fun argv hargv => (hlater' argv hargv).1) hdata hwaits (w.receive c data)
    change Advances _ _ _ _ (processInputBuffer o.parse (host o c) ((w.queries c).feed data) _)
      at hadvances
    rw [hrun] at hadvances
    obtain ⟨now, left, rfl, hnow, hleft⟩ := hadvances
    obtain ⟨done, hdone, hconv, hstop⟩ := hs.visits.requests ho h.flags
      (fun argv hargv => hlater' argv (List.mem_append_left _ hargv)) hnow.symm
    obtain ⟨es, hes, hfst, hone, hsaid⟩ := hconv.exchanges
    obtain ⟨skipped, rfl⟩ := hdone
    have hes' : w₁.exchanges c = w.exchanges c ++ es := hes
    have hsaid' : repliesOf (w₁.said c) = repliesOf (w.said c) ++ es.flatMap fun x =>
      repliesOf x.2 := hsaid
    refine ⟨hconv.flags, fun x hx => ?_, ?_, skipped ++ left, rest', ?_, ?_, ?_⟩
    · rcases List.mem_append.mp (hes' ▸ hx) with hx | hx
      · exact h.single x hx
      · exact hone x hx
    · show repliesOf (w₁.said c) = (w₁.exchanges c).flatMap _
      rw [hes', hsaid', h.replies, List.flatMap_append]
    · show cmds = (w₁.exchanges c).map Prod.fst ++ _
      rw [hlater, hes', List.map_append, hfst]
      simp
    · rw [← hrest', hreceived]
    · show (w₁.net.conns c).flags.closeAfterReply = true ∨
        Waits (Function.update w₁.queries c q c) rest' _
      rw [Function.update_self]
      rcases hleft q w₁ rfl with hclose | hwaits'
      · exact .inl hclose
      · rcases hstop with hclose | hall
        · exact .inl hclose
        · have hnil : skipped = [] := by simpa using hall
          rw [hnil]
          exact .inr hwaits'

/-- One event. -/
lemma Conversation.step (ho : o.Lawful) (hcmds : ∀ argv ∈ cmds, Sendable argv ∧ o.Single argv)
    (hinv : w.Inv o mem)
    (h : (w.net.conns c).connected = true → w.received c <+: requests cmds → Conversation cmds c w)
    {e : Event} (hw : w.step o e = some w') (hc' : (w'.net.conns c).connected = true)
    (hrec : w'.received c <+: requests cmds) : Conversation cmds c w' := by
  by_cases he : e.concerns w c
  swap
  · have hf := (hinv.step ho hw).2 c he
    exact (h (hf.connected hc') (by rwa [← hf.received])).frame hf hc'
  cases e with
  | accept =>
    obtain rfl := Option.some.inj hw
    obtain rfl : c = w.server.nextClientId := he
    exact conversation_createClient cmds w
  | readable b data =>
    obtain rfl : c = b := he
    rw [World.step] at hw
    split at hw
    · rename_i hread
      obtain ⟨hc, -, hdata⟩ := hread
      have hreceived : w'.received c = w.received c ++ data := by
        rw [hinv.received_read ho hc hw]
        simp [World.receive]
      rw [hreceived] at hrec
      exact (h hc ((List.prefix_append _ _).trans hrec)).read ho hcmds hinv hc hdata hrec hw hc'
    · obtain rfl := Option.some.inj hw
      exact h hc' hrec
  | hangup b => exact absurd he id
  | writable b turns => exact absurd he id
  | beforeSleep answers => exact absurd he id
  | cron now sweeps => exact absurd he id
  | rehash entries => exact absurd he id

/-- A client that sends such requests is in conversation with the server. -/
lemma Conversation.of_reachable (ho : o.Lawful)
    (hcmds : ∀ argv ∈ cmds, Sendable argv ∧ o.Single argv)
    (h : (serverSystem o).Reachable (fun _ _ => True) w)
    (hc : (w.net.conns c).connected = true) (hrec : w.received c <+: requests cmds) :
    Conversation cmds c w := by
  refine System.Reachable.invariant (I := fun w => (w.net.conns c).connected = true →
    w.received c <+: requests cmds → Conversation cmds c w) ?_ ?_ h hc hrec
  · rintro w ⟨mem, rfl⟩ hconn
    simp [World.init, Net.init, Conn.gone, Conn.new] at hconn
  · intro w e w' hw hI _ hstep hconn hreceived
    obtain ⟨mem, hinv⟩ := World.Inv.of_reachable ho hw
    exact Conversation.step ho hcmds hinv hI hstep hconn hreceived

/-- When all bytes have arrived, all requests have been executed or one of them has closed the
connection. -/
lemma Conversation.complete (h : Conversation cmds c w) (hall : w.received c = requests cmds)
    (hopen : (w.net.conns c).flags.closeAfterReply = false) :
    (w.exchanges c).map Prod.fst = cmds := by
  obtain ⟨later, rest, hlater, hrest, hend⟩ := h.progress
  have hnil : rest = [] := by
    rw [hall] at hrest
    simpa using hrest
  rcases hend with hclose | hwaits
  · rw [hopen] at hclose
    exact absurd hclose (by simp)
  · rw [hwaits.done hnil, List.append_nil] at hlater
    exact hlater.symm

end Conversations

end SelfTestCode.Network
