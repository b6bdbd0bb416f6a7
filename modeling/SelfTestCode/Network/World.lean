import SelfTestCode.Broker.Switch
import SelfTestCode.Network.Dispatch
import SelfTestCode.Network.Fragments

/-!
# Runs of the server

What holds in every run of the event loop, whatever bytes the clients send and however their
sockets behave.

`World.Inv` is the invariant.  It ties the three parts of the server together: the broker's clients
are the connected ones, the parser of every client is in a state in which its assertions hold, the
broker's state is the one its recorded events lead to, and the bytes of every client are the
encodings of the values that were said to it.

Commands change the world in two ways only.  They have the broker make one of its steps
(`Inv.broker`), and they say something or set a flag (`Says`).  The loops that free clients are
covered by `Inv.adopt`.
-/

namespace SelfTestCode.Network

open Broker (ClientId Sds)

/-! ## The clients of the broker -/

/-- The same clients are connected. -/
structure SameClients (s s' : Broker.Server) : Prop where
  mem_iff : ∀ d, d ∈ s'.clients ↔ d ∈ s.clients
  nextClientId : s'.nextClientId = s.nextClientId

section Clients

variable {env : Broker.Env} {s s' s'' : Broker.Server} {c : ClientId}

lemma SameClients.refl (s : Broker.Server) : SameClients s s := ⟨fun _ => Iff.rfl, rfl⟩

lemma SameClients.trans (h : SameClients s s') (h' : SameClients s' s'') : SameClients s s'' :=
  ⟨fun d => (h'.mem_iff d).trans (h.mem_iff d), h'.nextClientId.trans h.nextClientId⟩

lemma mem_clients_of_lookup {cl : Broker.Client} (h : s.clients.lookup c = some cl) :
    c ∈ s.clients := by
  rw [← AList.lookup_isSome, h]
  rfl

/-- Writing the record of a connected client. -/
lemma sameClients_setClient {cl : Broker.Client} (h : s.clients.lookup c = some cl)
    (cl' : Broker.Client) : SameClients s (s.setClient c cl') := by
  refine ⟨fun d => ?_, rfl⟩
  rw [Broker.Server.setClient, AList.mem_insert]
  constructor
  · rintro (rfl | hd)
    · exact mem_clients_of_lookup h
    · exact hd
  · exact .inr

lemma sameClients_of_sameIndex (h : Broker.SameIndex s s') : SameClients s s' :=
  ⟨fun d => by rw [h.clients], h.nextClientId⟩

lemma sameClients_subscribeChannel {cl : Broker.Client} (h : s.clients.lookup c = some cl)
    (channel : Sds) : SameClients s (Broker.smempubsubSubscribeChannel s c cl channel).1 := by
  unfold Broker.smempubsubSubscribeChannel
  split
  · exact SameClients.refl s
  · have := sameClients_setClient h
      { cl with smempubsubChannels := cl.smempubsubChannels.insert channel () }
    exact ⟨this.mem_iff, this.nextClientId⟩

lemma sameClients_unsubscribeChannels (notify : Bool) :
    ∀ {channels : List Sds} {s : Broker.Server} {r : Broker.Server × List Broker.Reply},
      Broker.smempubsubUnsubscribeChannels c notify s channels = .ok r → SameClients s r.1
  | [], s, r, h => by
    obtain rfl := Except.ok.inj h
    exact SameClients.refl s
  | channel :: channels, s, r, h => by
    rw [Broker.smempubsubUnsubscribeChannels] at h
    split at h
    · exact absurd h (by simp)
    · rename_i cl hcl
      obtain ⟨first, hfirst, h⟩ := except_bind_eq_ok.mp h
      obtain ⟨rest, hrest, h⟩ := except_bind_eq_ok.mp h
      obtain rfl := Except.ok.inj h
      have hrest' := sameClients_unsubscribeChannels notify hrest
      have hfirst' : SameClients s first.1 := by
        rw [Broker.smempubsubUnsubscribeChannel] at hfirst
        split at hfirst
        · split at hfirst
          · exact absurd hfirst (by simp)
          · split at hfirst
            · obtain rfl := Except.ok.inj hfirst
              have := sameClients_setClient hcl
                { cl with smempubsubChannels := cl.smempubsubChannels.erase channel }
              exact ⟨this.mem_iff, this.nextClientId⟩
            · exact absurd hfirst (by simp)
        · obtain rfl := Except.ok.inj hfirst
          exact SameClients.refl s
      exact hfirst'.trans hrest'

/-- A disconnect removes the client and no other. -/
lemma freeClient_clients {cl : Broker.Client} (h : Broker.freeClient s c cl = .ok s') :
    (∀ d, d ∈ s'.clients ↔ d ≠ c ∧ d ∈ s.clients) ∧ s'.nextClientId = s.nextClientId := by
  obtain ⟨r, hr, h⟩ := except_bind_eq_ok.mp h
  obtain rfl := Except.ok.inj h
  have hsame := sameClients_unsubscribeChannels false hr
  refine ⟨fun d => ?_, hsame.nextClientId⟩
  rw [AList.mem_erase, hsame.mem_iff]

lemma sameClients_switchScanList (name channel : Sds) :
    ∀ {clients : List ClientId} {i : ℕ} {acc r : Broker.Server × Broker.SwitchScan},
      Broker.switchScanList name channel i clients acc = .ok r → SameClients acc.1 r.1
  | [], i, acc, r, h => by
    obtain rfl := Except.ok.inj h
    exact SameClients.refl _
  | d :: clients, i, (s, scan), r, h => by
    rw [Broker.switchScanList] at h
    split at h
    · exact absurd h (by simp)
    · rename_i cl hcl
      split at h
      · split at h
        · obtain rfl := Except.ok.inj h
          exact sameClients_setClient hcl _
        · have hrest := sameClients_switchScanList name channel h
          exact hrest
      · have hrest := sameClients_switchScanList name channel h
        exact hrest

lemma sameClients_switchScan (name : Sds) :
    ∀ {channels : List Sds} {acc r : Broker.Server × Broker.SwitchScan},
      Broker.switchScan name channels acc = .ok r → SameClients acc.1 r.1
  | [], acc, r, h => by
    obtain rfl := Except.ok.inj h
    exact SameClients.refl _
  | channel :: channels, acc, r, h => by
    rw [Broker.switchScan] at h
    obtain ⟨acc', hacc', h⟩ := except_bind_eq_ok.mp h
    exact (sameClients_switchScanList name channel hacc').trans (sameClients_switchScan name h)

lemma sameClients_smemswitch {p name : Sds} (h : Broker.smemswitchCommand s p name = .ok s') :
    SameClients s s' := by
  obtain ⟨scanned, hscan, h⟩ := except_bind_eq_ok.mp h
  obtain rfl := Except.ok.inj h
  refine (sameClients_switchScan name hscan).trans ?_
  unfold Broker.switchMove
  split
  · exact SameClients.refl _
  · split
    · exact SameClients.refl _
    · rename_i cl hcl
      split
      · exact SameClients.refl _
      · have := sameClients_setClient hcl
          { cl with smempubsubChannels := cl.smempubsubChannels.insert p () }
        dsimp only
        split
        · exact ⟨this.mem_iff, this.nextClientId⟩
        · exact ⟨this.mem_iff, this.nextClientId⟩

lemma sameClients_clientSetName {cl : Broker.Client} (h : s.clients.lookup c = some cl)
    (name : Sds) : SameClients s (Broker.clientSetName s c cl name) := by
  unfold Broker.clientSetName
  split
  · exact sameClients_setClient h _
  · split
    · exact sameClients_setClient h _
    · exact SameClients.refl s

lemma sameClients_rehash (entries : List (Sigma fun _ : Sds => List ClientId)) :
    SameClients s (Broker.rehash s entries) := by
  unfold Broker.rehash
  split
  · exact ⟨fun _ => Iff.rfl, rfl⟩
  · exact SameClients.refl s

end Clients

/-! ## Saying something -/

/-- The bytes of every client are the encodings of what was said to it. -/
structure Wire (w : World) : Prop where
  tracked : Tracked w.net fun c => Resp.resp.encodeAll (w.said c)
  valid : ∀ c, ∀ v ∈ w.said c, v.Valid

/-- The broker, the parsers and the other records are the same. -/
structure SameRest (w w' : World) : Prop where
  server : w'.server = w.server
  queries : w'.queries = w.queries
  asked : w'.asked = w.asked
  received : w'.received = w.received
  exchanges : w'.exchanges = w.exchanges
  inbox : w'.inbox = w.inbox
  history : w'.history = w.history

lemma SameRest.refl (w : World) : SameRest w w := ⟨rfl, rfl, rfl, rfl, rfl, rfl, rfl⟩

lemma SameRest.trans {w w₁ w₂ : World} (h₁ : SameRest w w₁) (h₂ : SameRest w₁ w₂) :
    SameRest w w₂ where
  server := h₂.server.trans h₁.server
  queries := h₂.queries.trans h₁.queries
  asked := h₂.asked.trans h₁.asked
  received := h₂.received.trans h₁.received
  exchanges := h₂.exchanges.trans h₁.exchanges
  inbox := h₂.inbox.trans h₁.inbox
  history := h₂.history.trans h₁.history

/-- The values `vs` were said to the client `c`, as far as it takes replies, and nothing else
happened. -/
structure Tells (w w' : World) (c : ClientId) (vs : List Resp.Value) : Prop
    extends SameRest w w' where
  wire : Wire w'
  said : w'.said = Function.update w.said c
    (w.said c ++ if (w.net.conns c).accepts then vs else [])
  steady : ∀ d, (w'.net.conns d).flags.steady = (w.net.conns d).flags.steady
  connected : ∀ d, (w'.net.conns d).connected = (w.net.conns d).connected

section Tells

variable {o : Outside} {w w₁ w₂ : World} {c : ClientId} {vs vs₁ vs₂ : List Resp.Value}
  {v : Resp.Value}

lemma Tells.accepts (h : Tells w w₁ c vs) (d : ClientId) :
    (w₁.net.conns d).accepts = (w.net.conns d).accepts :=
  accepts_congr (h.connected d) (h.steady d)

lemma Tells.refl (h : Wire w) (c : ClientId) : Tells w w c [] where
  toSameRest := SameRest.refl w
  wire := h
  said := by simp
  steady _ := rfl
  connected _ := rfl

lemma Tells.trans (h₁ : Tells w w₁ c vs₁) (h₂ : Tells w₁ w₂ c vs₂) :
    Tells w w₂ c (vs₁ ++ vs₂) where
  toSameRest := h₁.toSameRest.trans h₂.toSameRest
  wire := h₂.wire
  said := by
    rw [h₂.said, h₁.accepts, h₁.said, Function.update_self, Function.update_idem]
    split <;> simp
  steady d := (h₂.steady d).trans (h₁.steady d)
  connected d := (h₂.connected d).trans (h₁.connected d)

/-- Output functions that print the encoding of a value say that value. -/
lemma tells_of_adds {n : Net} (h : Wire w) (hv : v.Valid)
    (ha : Adds w.net n c (w.net.kept c v.encode)) : Tells w (w.say c v n) c [v] where
  toSameRest := ⟨rfl, rfl, rfl, rfl, rfl, rfl, rfl⟩
  wire := by
    constructor
    · have htracked := h.tracked.of_adds ha
      have hlog : (fun d => Resp.resp.encodeAll ((w.say c v n).said d)) =
          Function.update (fun d => Resp.resp.encodeAll (w.said d)) c
            (Resp.resp.encodeAll (w.said c) ++ w.net.kept c v.encode) := by
        funext d
        rw [World.say, Net.kept]
        dsimp only
        by_cases hd : d = c
        · subst hd
          split <;> simp
        · rw [Function.update_of_ne hd]
          split
          · rw [Function.update_of_ne hd]
          · rfl
      rw [hlog]
      exact htracked
    · intro d u hu
      rw [World.say] at hu
      dsimp only at hu
      split at hu
      · by_cases hd : d = c
        · subst hd
          rw [Function.update_self, List.mem_append, List.mem_singleton] at hu
          rcases hu with hu | rfl
          · exact h.valid d u hu
          · exact hv
        · rw [Function.update_of_ne hd] at hu
          exact h.valid d u hu
      · exact h.valid d u hu
  said := by
    rw [World.say]
    dsimp only
    split
    · rfl
    · rw [List.append_nil, Function.update_eq_self]
  steady d := by
    by_cases hd : d = c
    · subst hd
      exact ha.steady
    · rw [World.say, ha.others d hd]
  connected d := by
    by_cases hd : d = c
    · subst hd
      exact ha.connected
    · rw [World.say, ha.others d hd]

lemma replyShared_tells (h : Wire w) (hv : v.Valid) : Tells w (replyShared o w c v) c [v] :=
  tells_of_adds h hv (addReply_adds h.tracked.inv _)

lemma replyOk_tells (h : Wire w) : Tells w (replyOk o w c) c [.status "OK".toList] :=
  tells_of_adds h (by simp [Resp.Value.Valid]) (addReply_adds h.tracked.inv sharedOk)

lemma replyError_tells (h : Wire w) {text : List Char} (htext : '\r' ∉ text) :
    Tells w (replyError o w c text) c [.error ("ERR ".toList ++ text)] :=
  tells_of_adds h (by simp [Resp.Value.Valid, htext]) (addReplyErrorLength_adds h.tracked.inv text)

lemma replyLongLong_tells (h : Wire w) (ll : Int64) :
    Tells w (replyLongLong o w c ll) c [.integer ll.toInt] :=
  tells_of_adds h (by simp [Resp.Value.Valid]) (addReplyLongLong_adds h.tracked.inv ll)

/-- Arguments are short enough for their length to be printed. -/
lemma lt_of_le_clientMaxQuerybufLen {s : List Char} (hs : s.length ≤ clientMaxQuerybufLen) :
    s.length < 2 ^ 63 :=
  lt_of_le_of_lt hs (by decide)

lemma replyBulk_tells (h : Wire w) {s : List Char} (hs : s.length ≤ clientMaxQuerybufLen) :
    Tells w (replyBulk o w c s) c [.bulk s] :=
  tells_of_adds h (by simp [Resp.Value.Valid])
    (addReplyBulk_adds h.tracked.inv (lt_of_le_clientMaxQuerybufLen hs))

/-- The encoding of an array with two or three elements. -/
lemma encode_three (a b d : Resp.Value) : (Resp.Value.array [a, b, d]).encode =
    ((sharedMbulkhdr 3).text ++ a.encode ++ b.encode) ++ d.encode := by
  simp [Resp.Value.encode, Resp.Value.encodeList, sharedMbulkhdr, Robj.text]

lemma encode_two (a b : Resp.Value) : (Resp.Value.array [a, b]).encode =
    ((sharedMbulkhdr 2).text ++ a.encode) ++ b.encode := by
  simp [Resp.Value.encode, Resp.Value.encodeList, sharedMbulkhdr, Robj.text]

lemma pushSubscribe_tells (h : Wire w) {channel : List Char}
    (hs : channel.length ≤ clientMaxQuerybufLen) (count : ℕ) :
    Tells w (pushSubscribe o w c channel count) c [.array [.bulk "subscribe".toList,
      .bulk channel, .integer (Int64.ofNat count).toInt]] := by
  refine tells_of_adds h (by simp [Resp.Value.Valid, Resp.Value.ValidList]) ?_
  have h₁ : Adds _ (addReply o.cfg _ c (sharedMbulkhdr 3)) c _ := addReply_adds h.tracked.inv _
  have h₂ : Adds _ (addReply o.cfg _ c (sharedBulk o.cfg "subscribe")) c _ :=
    addReply_adds h₁.inv _
  have h₃ : Adds _ (addReplyBulk o.cfg _ c (stringObject o.cfg channel)) c _ :=
    addReplyBulk_adds h₂.inv (lt_of_le_clientMaxQuerybufLen hs)
  have h₄ : Adds _ (addReplyLongLong o.cfg _ c (Int64.ofNat count)) c _ :=
    addReplyLongLong_adds h₃.inv _
  rw [encode_three]
  exact ((h₁.then_kept h₂).then_kept h₃).then_kept h₄

lemma pushMessage_tells (h : Wire w) {channel message : List Char}
    (hc : channel.length ≤ clientMaxQuerybufLen) (hm : message.length ≤ clientMaxQuerybufLen) :
    Tells w (pushMessage o w c channel message) c
      [.array [.bulk "message".toList, .bulk channel, .bulk message]] := by
  refine tells_of_adds h (by simp [Resp.Value.Valid, Resp.Value.ValidList]) ?_
  have h₁ : Adds _ (addReply o.cfg _ c (sharedMbulkhdr 3)) c _ := addReply_adds h.tracked.inv _
  have h₂ : Adds _ (addReply o.cfg _ c (sharedBulk o.cfg "message")) c _ := addReply_adds h₁.inv _
  have h₃ : Adds _ (addReplyBulk o.cfg _ c (stringObject o.cfg channel)) c _ :=
    addReplyBulk_adds h₂.inv (lt_of_le_clientMaxQuerybufLen hc)
  have h₄ : Adds _ (addReplyBulk o.cfg _ c (stringObject o.cfg message)) c _ :=
    addReplyBulk_adds h₃.inv (lt_of_le_clientMaxQuerybufLen hm)
  rw [encode_three]
  exact ((h₁.then_kept h₂).then_kept h₃).then_kept h₄

lemma pushPong_tells (h : Wire w) {s : List Char} (hs : s.length ≤ clientMaxQuerybufLen) :
    Tells w (pushPong o w c s) c [.array [.bulk "pong".toList, .bulk s]] := by
  refine tells_of_adds h (by simp [Resp.Value.Valid, Resp.Value.ValidList]) ?_
  have h₁ : Adds _ (addReply o.cfg _ c (sharedMbulkhdr 2)) c _ := addReply_adds h.tracked.inv _
  have h₂ : Adds _ (addReplyBulk o.cfg _ c (stringObject o.cfg "pong".toList)) c _ :=
    addReplyBulk_adds h₁.inv (by rw [stringObject, Robj.text]; decide)
  have h₃ : Adds _ (addReplyBulk o.cfg _ c (stringObject o.cfg s)) c _ :=
    addReplyBulk_adds h₂.inv (lt_of_le_clientMaxQuerybufLen hs)
  rw [encode_two]
  exact (h₁.then_kept h₂).then_kept h₃

lemma sayAll_tells : ∀ {vs : List Resp.Value} {w : World}, Wire w → (∀ v ∈ vs, v.Valid) →
    Tells w (sayAll o c w vs) c vs
  | [], _, h, _ => Tells.refl h c
  | v :: vs, w, h, hvs => by
    have hfirst : Tells w (w.say c v (addReplyString o.cfg w.net c v.encode)) c [v] :=
      tells_of_adds h (hvs v List.mem_cons_self) (addReplyString_adds h.tracked.inv _)
    exact hfirst.trans (sayAll_tells hfirst.wire fun u hu => hvs u (List.mem_cons_of_mem _ hu))

end Tells

/-! ## Messages and replies -/

/-- The channel and the text of a published message. -/
def asMessage : Resp.Value → Option (List Char × List Char)
  | .array [.bulk kind, .bulk channel, .bulk text] =>
    if kind = "message".toList then some (channel, text) else none
  | _ => none

/-- The messages among the values that were said to a client. -/
def messagesOf (vs : List Resp.Value) : List (List Char × List Char) := vs.filterMap asMessage

/-- The values that are no messages. -/
def repliesOf (vs : List Resp.Value) : List Resp.Value := vs.filter fun v => (asMessage v).isNone

section Messages

variable {vs : List Resp.Value}

lemma messagesOf_append (us vs : List Resp.Value) :
    messagesOf (us ++ vs) = messagesOf us ++ messagesOf vs := List.filterMap_append

lemma repliesOf_append (us vs : List Resp.Value) :
    repliesOf (us ++ vs) = repliesOf us ++ repliesOf vs := List.filter_append ..

lemma messagesOf_of_plain (h : ∀ v ∈ vs, asMessage v = none) : messagesOf vs = [] :=
  List.filterMap_eq_nil_iff.mpr h

lemma repliesOf_of_plain (h : ∀ v ∈ vs, asMessage v = none) : repliesOf vs = vs :=
  List.filter_eq_self.mpr fun v hv => by rw [h v hv]; rfl

end Messages

/-- The clients of the list are sent one message each. -/
structure Posts (w w' : World) (channel message : List Char) (ds : List ClientId) : Prop
    extends SameRest w w' where
  wire : Wire w'
  said : ∀ d, ∃ vs, w'.said d = w.said d ++ vs ∧ repliesOf vs = [] ∧ messagesOf vs =
    if (w.net.conns d).accepts then List.replicate (ds.count d) (channel, message) else []
  steady : ∀ d, (w'.net.conns d).flags.steady = (w.net.conns d).flags.steady
  connected : ∀ d, (w'.net.conns d).connected = (w.net.conns d).connected

lemma pushMessages_posts {o : Outside} {channel message : List Char}
    (hc : channel.length ≤ clientMaxQuerybufLen) (hm : message.length ≤ clientMaxQuerybufLen) :
    ∀ (ds : List ClientId) {w : World}, Wire w →
      Posts w (pushMessages o channel message w ds) channel message ds
  | [], w, h => ⟨SameRest.refl w, h,
      fun d => ⟨[], by simp [pushMessages], rfl, by simp [messagesOf]⟩, fun _ => rfl, fun _ => rfl⟩
  | b :: ds, w, h => by
    have hfirst : Tells w (pushMessage o w b channel message) b _ := pushMessage_tells h hc hm
    have hrest := pushMessages_posts (o := o) hc hm ds hfirst.wire
    refine ⟨hfirst.toSameRest.trans hrest.toSameRest, hrest.wire, fun d => ?_,
      fun d => (hrest.steady d).trans (hfirst.steady d),
      fun d => (hrest.connected d).trans (hfirst.connected d)⟩
    obtain ⟨vs, hvs, hreplies, hmessages⟩ := hrest.said d
    rw [hfirst.accepts] at hmessages
    rw [pushMessages]
    by_cases hd : d = b
    · subst hd
      rw [hfirst.said, Function.update_self] at hvs
      rw [hvs, List.append_assoc]
      refine ⟨_, rfl, ?_, ?_⟩
      · rw [repliesOf_append, hreplies]
        split <;> rfl
      · rw [messagesOf_append, hmessages, List.count_cons_self]
        split
        · rw [Nat.add_comm, List.replicate_add]
          rfl
        · rfl
    · rw [hfirst.said, Function.update_of_ne hd] at hvs
      refine ⟨vs, hvs, hreplies, ?_⟩
      rw [hmessages, List.count_cons_of_ne (Ne.symm hd)]

/-! ## The invariant -/

/-- The server can look up `SMEMSWITCH`. -/
def Outside.HasSwitch (o : Outside) : Prop := ∃ name, o.lookupCommand name = some .smemswitch

/-- The events of the broker that the server can bring about. -/
def Outside.Issues (o : Outside) : Broker.Op → Prop
  | .smemswitch _ _ _ => o.HasSwitch
  | _ => True

/-- The invariant of the server, on a machine with `mem` bytes. -/
structure World.Inv (o : Outside) (mem : UInt64) (w : World) : Prop where
  wire : Wire w
  parser : ∀ d, ((w.net.conns d).flags.closeAfterReply = true ∨ (w.queries d).Ready) ∧
    (w.queries d).Small
  same : ∀ d, (w.net.conns d).connected = true ↔ d ∈ w.server.clients
  fresh : ∀ d ∈ w.server.clients, d < w.server.nextClientId
  run : (Broker.broker o.broker).run (Broker.initServer mem) w.history = some w.server
  issued : ∀ op ∈ w.history, o.Issues op
  delivered : ¬ o.HasSwitch → ∀ d, messagesOf (w.said d) = w.inbox d

section Inv

variable {o : Outside} {mem : UInt64} {w w' : World} {c : ClientId}

lemma World.inv_init (o : Outside) (mem : UInt64) : (World.init mem).Inv o mem where
  wire := ⟨⟨Net.inv_init, fun _ => List.nil_prefix, fun c hc => by
    simp [World.init, Net.init, Conn.gone, Conn.new] at hc⟩, fun c v hv => by cases hv⟩
  parser d := ⟨.inr Query.ready_new, Query.small_new⟩
  same d := by simp [World.init, Net.init, Conn.gone, Conn.new, Broker.initServer]
  fresh d hd := by simp [World.init, Broker.initServer] at hd
  run := rfl
  issued op hop := by cases hop
  delivered _ _ := rfl

lemma guarded_of_issued (hswitch : ¬ o.HasSwitch) :
    ∀ {ops : List Broker.Op} {s : Broker.Server}, (∀ op ∈ ops, o.Issues op) →
      (Broker.broker o.broker).Guarded Broker.SwitchOk s ops
  | [], _, _ => trivial
  | op :: ops, s, h => by
    refine ⟨?_, fun s' _ => guarded_of_issued hswitch fun op' hop' =>
      h op' (List.mem_cons_of_mem _ hop')⟩
    cases op with
    | smemswitch c p name => exact absurd (h _ List.mem_cons_self) hswitch
    | _ => trivial

/-- Without `SMEMSWITCH` the subscription index agrees. -/
lemma World.Inv.index (h : w.Inv o mem) (hswitch : ¬ o.HasSwitch) : Broker.IndexInv w.server :=
  Broker.IndexInv.of_reachable
    (System.Reachable.of_run (.init ⟨mem, rfl⟩) (guarded_of_issued hswitch h.issued) h.run)

/-- Something was said to a client. -/
lemma World.Inv.tells (h : w.Inv o mem) {vs : List Resp.Value} (ht : Tells w w' c vs)
    (hplain : ∀ v ∈ vs, asMessage v = none) : w'.Inv o mem where
  wire := ht.wire
  parser d := by
    rw [ht.queries]
    refine ⟨?_, (h.parser d).2⟩
    rcases (h.parser d).1 with hclose | hready
    · have := congrArg Flags.closeAfterReply (ht.steady d)
      simp only [Flags.steady] at this
      exact .inl (this.trans hclose)
    · exact .inr hready
  same d := by rw [ht.connected, ht.server]; exact h.same d
  fresh := by rw [ht.server]; exact h.fresh
  run := by rw [ht.history, ht.server]; exact h.run
  issued := by rw [ht.history]; exact h.issued
  delivered hswitch d := by
    rw [ht.said, ht.inbox, ← h.delivered hswitch d]
    by_cases hd : d = c
    · subst hd
      rw [Function.update_self, messagesOf_append]
      split
      · rw [messagesOf_of_plain hplain, List.append_nil]
      · exact List.append_nil _
    · rw [Function.update_of_ne hd]

/-- The flags `f` changes are not about the lists, and none of them keeps the client open. -/
structure SetsFlags (f : Flags → Flags) : Prop where
  pendingWrite : ∀ x, (f x).pendingWrite = x.pendingWrite
  closeAsap : ∀ x, (f x).closeAsap = x.closeAsap
  closing : ∀ x, x.closeAfterReply = true → (f x).closeAfterReply = true

lemma World.withFlags_connected (f : Flags → Flags) (d : ClientId) :
    ((w.withFlags c f).net.conns d).connected = (w.net.conns d).connected := by
  by_cases hd : d = c
  · subst hd
    rw [World.withFlags, Net.withFlags, Net.setConn_conns_self]
  · rw [World.withFlags, Net.withFlags, Net.setConn_conns_of_ne hd]

lemma World.Inv.withFlags (h : w.Inv o mem) (hc : (w.net.conns c).connected = true)
    {f : Flags → Flags} (hf : SetsFlags f) : (w.withFlags c f).Inv o mem where
  wire := ⟨h.wire.tracked.withFlags hc hf.pendingWrite hf.closeAsap, h.wire.valid⟩
  parser d := by
    refine ⟨?_, (h.parser d).2⟩
    rcases (h.parser d).1 with hclose | hready
    · left
      by_cases hd : d = c
      · subst hd
        rw [World.withFlags, Net.withFlags, Net.setConn_conns_self]
        exact hf.closing _ hclose
      · rw [World.withFlags, Net.withFlags, Net.setConn_conns_of_ne hd]
        exact hclose
    · exact .inr hready
  same d := by rw [World.withFlags_connected]; exact h.same d
  fresh := h.fresh
  run := h.run
  issued := h.issued
  delivered := h.delivered

/-- The broker makes a step that connects and disconnects nobody. -/
lemma World.Inv.broker (h : w.Inv o mem) {server : Broker.Server} {op : Broker.Op}
    (hs : Broker.step o.broker w.server op = some server) (hop : o.Issues op)
    (hc : SameClients w.server server) : (w.broker server op).Inv o mem where
  wire := ⟨h.wire.tracked, h.wire.valid⟩
  parser := h.parser
  same d := (h.same d).trans (hc.mem_iff d).symm
  fresh d hd := by
    rw [World.broker, hc.nextClientId]
    exact h.fresh d ((hc.mem_iff d).mp hd)
  run := System.run_concat h.run hs
  issued op' hop' := by
    rcases List.mem_append.mp hop' with hop' | hop'
    · exact h.issued op' hop'
    · rw [List.mem_singleton.mp hop']
      exact hop
  delivered := h.delivered

lemma World.Inv.lookup (h : w.Inv o mem) (hc : (w.net.conns c).connected = true) :
    ∃ cl, w.server.clients.lookup c = some cl :=
  Option.isSome_iff_exists.mp (AList.lookup_isSome.mpr ((h.same c).mp hc))

/-- A message is published: the broker makes its step, and the clients of the list `ds` are sent the
message.  If each subscriber is in the list once and nobody else is, they have received what they
were to receive. -/
lemma World.Inv.publish (h : w.Inv o mem) {channel message : List Char} {server : Broker.Server}
    {op : Broker.Op} {ds : List ClientId}
    (hs : Broker.step o.broker w.server op = some server) (hop : o.Issues op)
    (hc : SameClients w.server server)
    (hp : Posts ((w.post channel message).broker server op) w' channel message ds)
    (hds : ¬ o.HasSwitch →
      ∀ d, ds.count d = if Broker.Subscribed w.server d (sds channel) then 1 else 0) :
    w'.Inv o mem := by
  have hb := h.broker hs hop hc
  refine ⟨hp.wire, fun d => ?_, fun d => ?_, ?_, ?_, ?_, fun hswitch d => ?_⟩
  · rw [hp.queries]
    refine ⟨?_, (h.parser d).2⟩
    rcases (h.parser d).1 with hclose | hready
    · have := congrArg Flags.closeAfterReply (hp.steady d)
      simp only [Flags.steady] at this
      exact .inl (this.trans hclose)
    · exact .inr hready
  · rw [hp.connected, hp.server]
    exact hb.same d
  · rw [hp.server]
    exact hb.fresh
  · rw [hp.history, hp.server]
    exact hb.run
  · rw [hp.history]
    exact hb.issued
  · obtain ⟨vs, hvs, -, hmessages⟩ := hp.said d
    rw [hvs, messagesOf_append, hmessages, hp.inbox, hds hswitch d]
    have hold := h.delivered hswitch d
    simp only [World.broker, World.post, hold]
    by_cases hsub : Broker.Subscribed w.server d (sds channel)
    · by_cases hacc : (w.net.conns d).accepts = true <;> simp [hsub, hacc]
    · simp [hsub]

/-- The state of the broker while a loop has freed clients of the list `cs` in the network only. -/
structure Leaving (o : Outside) (mem : UInt64) (n : Net) (cs : List ClientId) (w : World) :
    Prop where
  wire : Wire { w with net := n }
  parser : ∀ d, (d ∈ cs ∧ d ∈ w.server.clients ∧ (n.conns d).connected = false) ∨
    (n.conns d).flags.closeAfterReply = true ∨ (w.queries d).Ready
  small : ∀ d, (w.queries d).Small
  known : ∀ d, (n.conns d).connected = true → d ∈ w.server.clients
  leaving : ∀ d ∈ w.server.clients, (n.conns d).connected = true ∨ d ∈ cs
  fresh : ∀ d ∈ w.server.clients, d < w.server.nextClientId
  run : (Broker.broker o.broker).run (Broker.initServer mem) w.history = some w.server
  issued : ∀ op ∈ w.history, o.Issues op
  delivered : ¬ o.HasSwitch → ∀ d, messagesOf (w.said d) = w.inbox d

/-- What clients that leave do not change. -/
structure SameButLeft (n : Net) (w w' : World) : Prop where
  said : w'.said = w.said
  exchanges : w'.exchanges = w.exchanges
  received : w'.received = w.received
  asked : w'.asked = w.asked
  queries : ∀ d, (n.conns d).connected = true → w'.queries d = w.queries d

lemma SameButLeft.refl (n : Net) (w : World) : SameButLeft n w w :=
  ⟨rfl, rfl, rfl, rfl, fun _ _ => rfl⟩

lemma SameButLeft.trans {n : Net} {w₁ w₂ : World} (h₁ : SameButLeft n w w₁)
    (h₂ : SameButLeft n w₁ w₂) : SameButLeft n w w₂ :=
  ⟨h₂.said.trans h₁.said, h₂.exchanges.trans h₁.exchanges, h₂.received.trans h₁.received,
    h₂.asked.trans h₁.asked, fun d hd => (h₂.queries d hd).trans (h₁.queries d hd)⟩

/-- A client leaves the broker. -/
lemma Leaving.leave {n : Net} {cs : List ClientId} (h : Leaving o mem n (c :: cs) w)
    (hc : (n.conns c).connected = false) (hw : w.leave c = some w') :
    Leaving o mem n cs w' ∧ SameButLeft n w w' := by
  rw [World.leave] at hw
  split at hw
  · rename_i hnone
    obtain rfl := Option.some.inj hw
    have hnot : c ∉ w.server.clients := AList.lookup_eq_none.mp hnone
    refine ⟨⟨h.wire, fun d => ?_, h.small, h.known, fun d hd => ?_, h.fresh, h.run, h.issued,
      h.delivered⟩, SameButLeft.refl n w⟩
    · rcases h.parser d with ⟨hmem, hd, hgone⟩ | hready
      · refine .inl ⟨(List.mem_cons.mp hmem).resolve_left ?_, hd, hgone⟩
        rintro rfl
        exact hnot hd
      · exact .inr hready
    · rcases h.leaving d hd with hconn | hmem
      · exact .inl hconn
      · refine .inr ((List.mem_cons.mp hmem).resolve_left ?_)
        rintro rfl
        exact hnot hd
  · rename_i cl hcl
    split at hw
    · exact absurd hw (by simp)
    · rename_i server hfree
      obtain rfl := Option.some.inj hw
      obtain ⟨hclients, hnext⟩ := freeClient_clients hfree
      refine ⟨⟨⟨h.wire.tracked, h.wire.valid⟩, fun d => ?_, fun d => ?_, fun d hd => ?_,
        fun d hd => ?_, fun d hd => ?_, ?_, ?_, h.delivered⟩, rfl, rfl, rfl, rfl, fun d hd => ?_⟩
      · dsimp only
        by_cases hdc : d = c
        · subst hdc
          rw [Function.update_self]
          exact .inr (.inr Query.ready_new)
        · rw [Function.update_of_ne hdc, hclients]
          rcases h.parser d with ⟨hmem, hd, hgone⟩ | hready
          · exact .inl ⟨(List.mem_cons.mp hmem).resolve_left hdc, ⟨hdc, hd⟩, hgone⟩
          · exact .inr hready
      · dsimp only
        by_cases hdc : d = c
        · subst hdc
          rw [Function.update_self]
          exact Query.small_new
        · rw [Function.update_of_ne hdc]
          exact h.small d
      · rw [hclients]
        refine ⟨?_, h.known d hd⟩
        rintro rfl
        rw [hc] at hd
        exact absurd hd (by simp)
      · obtain ⟨hdc, hd⟩ := (hclients d).mp hd
        rcases h.leaving d hd with hconn | hmem
        · exact .inl hconn
        · exact .inr ((List.mem_cons.mp hmem).resolve_left hdc)
      · rw [hnext]
        exact h.fresh d ((hclients d).mp hd).2
      · refine System.run_concat h.run ?_
        show Broker.step o.broker w.server (.disconnect c) = some server
        rw [Broker.step, hcl, Option.bind_some, hfree]
        rfl
      · intro op hop
        rcases List.mem_append.mp hop with hop | hop
        · exact h.issued op hop
        · rw [List.mem_singleton.mp hop]
          trivial
      · have hdc : d ≠ c := by
          rintro rfl
          rw [hc] at hd
          exact absurd hd (by simp)
        exact Function.update_of_ne hdc _ _

lemma Leaving.tail {n : Net} {cs : List ClientId} (h : Leaving o mem n (c :: cs) w)
    (hc : (n.conns c).connected = true) : Leaving o mem n cs w := by
  refine ⟨h.wire, fun d => ?_, h.small, h.known, fun d hd => ?_, h.fresh, h.run, h.issued,
    h.delivered⟩
  · rcases h.parser d with ⟨hmem, hd, hgone⟩ | hready
    · refine .inl ⟨(List.mem_cons.mp hmem).resolve_left ?_, hd, hgone⟩
      rintro rfl
      rw [hc] at hgone
      exact absurd hgone (by simp)
    · exact .inr hready
  · rcases h.leaving d hd with hd' | hmem
    · exact .inl hd'
    · rcases List.mem_cons.mp hmem with rfl | hmem
      · exact .inl hc
      · exact .inr hmem

/-- When every client of the list has left, the two halves agree again. -/
lemma Leaving.adopt {n : Net} : ∀ {cs : List ClientId} {w : World}, Leaving o mem n cs w →
    w.adopt n cs = some w' → w'.Inv o mem ∧ w'.net = n ∧ SameButLeft n w w'
  | [], w, h, hw => by
    obtain rfl := Option.some.inj hw
    refine ⟨⟨h.wire, fun d => ⟨?_, h.small d⟩, fun d => ⟨h.known d, fun hd => ?_⟩, h.fresh, h.run,
      h.issued, h.delivered⟩, rfl, rfl, rfl, rfl, rfl, fun _ _ => rfl⟩
    · exact (h.parser d).resolve_left fun hd => by cases hd.1
    · exact (h.leaving d hd).resolve_right fun hmem => by cases hmem
  | c :: cs, w, h, hw => by
    rw [World.adopt] at hw
    split at hw
    · rename_i hconn
      exact (h.tail hconn).adopt hw
    · rename_i hgone
      cases hleave : w.leave c with
      | none => rw [hleave] at hw; exact absurd hw (by simp)
      | some w₁ =>
        rw [hleave] at hw
        obtain ⟨hcs, hsame⟩ := h.leave (by simpa using hgone) hleave
        obtain ⟨hinv, hnet, hsame'⟩ := hcs.adopt hw
        exact ⟨hinv, hnet, hsame.trans hsame'⟩

/-- A loop of the network that frees only clients of the list. -/
lemma World.Inv.leaving (h : w.Inv o mem) {n : Net} (hm : Moves w.net n) {cs : List ClientId}
    (hcs : ∀ d, d ∉ cs → (n.conns d).connected = (w.net.conns d).connected) :
    Leaving o mem n cs w where
  wire := ⟨h.wire.tracked.of_moves hm, h.wire.valid⟩
  parser d := by
    rcases (hm.conn d).2 with ⟨-, -, hsteady⟩ | ⟨hgone, -⟩
    · right
      rcases (h.parser d).1 with hclose | hready
      · left
        have := congrArg Flags.closeAfterReply hsteady
        simp only [Flags.steady] at this
        rw [this]
        exact hclose
      · exact .inr hready
    · by_cases hconn : (w.net.conns d).connected = true
      · refine .inl ⟨?_, (h.same d).mp hconn, hgone⟩
        by_contra hmem
        rw [hcs d hmem, hconn] at hgone
        exact absurd hgone (by simp)
      · -- a client that was gone before has nothing to parse
        right; right
        have hflags := (h.wire.tracked.inv.ok d).flags_of_gone (by simpa using hconn)
        rcases (h.parser d).1 with hclose | hready
        · rw [hflags] at hclose
          exact absurd hclose (by simp [Flags.none])
        · exact hready
  small d := (h.parser d).2
  known d hd := by
    refine (h.same d).mp ?_
    rcases (hm.conn d).2 with ⟨-, hconn, -⟩ | ⟨hgone, -⟩
    · exact hconn ▸ hd
    · rw [hgone] at hd
      exact absurd hd (by simp)
  leaving d hd := by
    by_cases hmem : d ∈ cs
    · exact .inr hmem
    · exact .inl ((hcs d hmem).trans ((h.same d).mpr hd))
  fresh := h.fresh
  run := h.run
  issued := h.issued
  delivered := h.delivered

end Inv

/-! ## Commands -/

/-- What the commands of redis and its checks answer are values of the protocol, and no messages. -/
structure Outside.Lawful (o : Outside) : Prop where
  readsDecimals : o.parse.ReadsDecimals
  splitsLines : o.parse.SplitsLines
  refusedBefore : ∀ i cmd, ∀ text ∈ o.refusedBefore i cmd, '\r' ∉ text
  refusedAfter : ∀ i cmd, ∀ text ∈ o.refusedAfter i cmd, '\r' ∉ text
  answer : ∀ i argv, ∀ v ∈ (o.answer i argv).values, v.Valid ∧ asMessage v = none

/-- The invariant, with a client that is connected. -/
structure World.Serves (o : Outside) (mem : UInt64) (c : ClientId) (w : World) : Prop
    extends w.Inv o mem where
  connected : (w.net.conns c).connected = true

/-- A command of the client `c` has led from `w₀` to `w`: what others are told are messages, and the
clients that are still connected keep what has been read of their requests. -/
structure Goes (o : Outside) (mem : UInt64) (c : ClientId) (w₀ w : World) : Prop
    extends w.Serves o mem c where
  exchanges : w.exchanges = w₀.exchanges
  received : w.received = w₀.received
  asked : w.asked = w₀.asked
  queries : ∀ d, (w.net.conns d).connected = true →
    (w₀.net.conns d).connected = true ∧ w.queries d = w₀.queries d
  said : w₀.said c <+: w.said c
  replies : ∀ d, d ≠ c → repliesOf (w.said d) = repliesOf (w₀.said d)
  flags : ∀ d, d ≠ c → (w.net.conns d).connected = true →
    (w.net.conns d).flags.steady = (w₀.net.conns d).flags.steady

section Commands

variable {o : Outside} {mem : UInt64} {w₀ w w' : World} {c : ClientId} {argv : List (List Char)}

lemma World.Serves.goes (h : w.Serves o mem c) : Goes o mem c w w where
  toServes := h
  exchanges := rfl
  received := rfl
  asked := rfl
  queries _ hd := ⟨hd, rfl⟩
  said := List.prefix_rfl
  replies _ _ := rfl
  flags _ _ _ := rfl

lemma Goes.tells (h : Goes o mem c w₀ w) {vs : List Resp.Value} (ht : Tells w w' c vs)
    (hplain : ∀ v ∈ vs, asMessage v = none) : Goes o mem c w₀ w' where
  toInv := h.toInv.tells ht hplain
  connected := (ht.connected c).trans h.connected
  exchanges := ht.exchanges.trans h.exchanges
  received := ht.received.trans h.received
  asked := ht.asked.trans h.asked
  queries d hd := by
    rw [ht.connected] at hd
    rw [ht.queries]
    exact h.queries d hd
  said := by
    refine h.said.trans ?_
    rw [ht.said, Function.update_self]
    exact List.prefix_append _ _
  replies d hd := by
    rw [ht.said, Function.update_of_ne hd]
    exact h.replies d hd
  flags d hd hconn := by
    rw [ht.connected] at hconn
    exact (ht.steady d).trans (h.flags d hd hconn)

/-- A single value is said. -/
lemma Goes.tell (h : Goes o mem c w₀ w) {v : Resp.Value} (ht : Tells w w' c [v])
    (hplain : asMessage v = none) : Goes o mem c w₀ w' :=
  h.tells ht fun u hu => by rw [List.mem_singleton.mp hu]; exact hplain

lemma Goes.withFlags (h : Goes o mem c w₀ w) {f : Flags → Flags} (hf : SetsFlags f) :
    Goes o mem c w₀ (w.withFlags c f) where
  toInv := h.toInv.withFlags h.connected hf
  connected := (World.withFlags_connected f c).trans h.connected
  exchanges := h.exchanges
  received := h.received
  asked := h.asked
  queries d hd := h.queries d (by rwa [World.withFlags_connected] at hd)
  said := h.said
  replies := h.replies
  flags d hd hconn := by
    rw [World.withFlags, Net.withFlags, Net.setConn_conns_of_ne hd] at hconn ⊢
    exact h.flags d hd hconn

lemma Goes.broker (h : Goes o mem c w₀ w) {server : Broker.Server} {op : Broker.Op}
    (hs : Broker.step o.broker w.server op = some server) (hop : o.Issues op)
    (hc : SameClients w.server server) : Goes o mem c w₀ (w.broker server op) where
  toInv := h.toInv.broker hs hop hc
  connected := h.connected
  exchanges := h.exchanges
  received := h.received
  asked := h.asked
  queries := h.queries
  said := h.said
  replies := h.replies
  flags := h.flags

/-- The broker makes a step and the client is told a number. -/
lemma Goes.brokerReply (h : Goes o mem c w₀ w) {server : Broker.Server} {op : Broker.Op}
    (hs : Broker.step o.broker w.server op = some server) (hop : o.Issues op)
    (hc : SameClients w.server server) (ll : Int64) :
    Goes o mem c w₀ (replyLongLong o (w.broker server op) c ll) :=
  have hb := h.broker hs hop hc
  hb.tell (replyLongLong_tells hb.wire ll) rfl

/-- A client that is still connected was connected before, with the same flags. -/
lemma Moves.still {n n' : Net} (h : Moves n n') {d : ClientId}
    (hd : (n'.conns d).connected = true) : (n.conns d).connected = true ∧
      (n'.conns d).flags.steady = (n.conns d).flags.steady := by
  rcases (h.conn d).2 with ⟨-, hconn, hsteady⟩ | ⟨hgone, -⟩
  · exact ⟨hconn ▸ hd, hsteady⟩
  · rw [hgone] at hd
    exact absurd hd (by simp)

/-- Other clients are freed. -/
lemma Goes.adopt (h : Goes o mem c w₀ w) {n : Net} (hm : Moves w.net n) {cs : List ClientId}
    (hcs : ∀ d, d ∉ cs → n.conns d = w.net.conns d) (hc : c ∉ cs)
    (hw : w.adopt n cs = some w') : Goes o mem c w₀ w' := by
  obtain ⟨hinv, hnet, hsame⟩ :=
    (h.toInv.leaving hm fun d hd => by rw [hcs d hd]).adopt hw
  refine ⟨⟨hinv, by rw [hnet, hcs c hc]; exact h.connected⟩, hsame.exchanges.trans h.exchanges,
    hsame.received.trans h.received, hsame.asked.trans h.asked, fun d hd => ?_, ?_, fun d hd => ?_,
    fun d hd hconn => ?_⟩
  · rw [hnet] at hd
    rw [hsame.queries d hd]
    exact h.queries d (hm.still hd).1
  · rw [hsame.said]
    exact h.said
  · rw [hsame.said]
    exact h.replies d hd
  · rw [hnet] at hconn ⊢
    exact (hm.still hconn).2.trans (h.flags d hd (hm.still hconn).1)

lemma length_arg_le (hargv : ∀ a ∈ argv, a.length ≤ clientMaxQuerybufLen) (i : ℕ) :
    (arg argv i).length ≤ clientMaxQuerybufLen := by
  rw [arg, List.getD_eq_getElem?_getD]
  cases hi : argv[i]? with
  | none => exact Nat.zero_le _
  | some a => exact hargv a (List.mem_of_getElem? hi)

lemma callSmemget_goes (h : Goes o mem c w₀ w) (size : List Char) :
    Goes o mem c w₀ (callSmemget o c w size) := by
  obtain ⟨cl, hcl⟩ := h.lookup h.connected
  have hstep : Broker.step o.broker w.server (.smemget c (sds size)) =
      some (Broker.smemgetCommand o.broker w.server (sds size)).2 := by
    rw [Broker.step, hcl, Option.map_some]
  exact h.brokerReply hstep trivial
    (sameClients_of_sameIndex (Broker.tablesOnly_step rfl hstep).toSameIndex) _

lemma callSmemfree_goes (h : Goes o mem c w₀ w) (args : List (List Char)) :
    Goes o mem c w₀ (callSmemfree o c w args) := by
  obtain ⟨cl, hcl⟩ := h.lookup h.connected
  have hstep : Broker.step o.broker w.server (.smemfree c (args.map sds)) =
      some (Broker.smemfreeCommand o.broker w.server (args.map sds)).2 := by
    rw [Broker.step, hcl, Option.map_some]
  exact h.brokerReply hstep trivial
    (sameClients_of_sameIndex (Broker.tablesOnly_step rfl hstep).toSameIndex) _

lemma callSmemrm_goes (h : Goes o mem c w₀ w) (args : List (List Char)) :
    Goes o mem c w₀ (callSmemrm o c w args) := by
  obtain ⟨cl, hcl⟩ := h.lookup h.connected
  have hstep : Broker.step o.broker w.server (.smemrm c (args.map sds)) =
      some (Broker.smemrmCommand o.broker w.server (args.map sds)).2 := by
    rw [Broker.step, hcl, Option.map_some]
  exact h.brokerReply hstep trivial
    (sameClients_of_sameIndex (Broker.tablesOnly_step rfl hstep).toSameIndex) _

/-- One subscription. -/
lemma Goes.subscribe (h : Goes o mem c w₀ w) {cl : Broker.Client}
    (hcl : w.server.clients.lookup c = some cl) {channel : List Char}
    (hlen : channel.length ≤ clientMaxQuerybufLen) (count : ℕ) :
    Goes o mem c w₀ (pushSubscribe o
      (w.broker (Broker.smempubsubSubscribeChannel w.server c cl (sds channel)).1
        (.smemsubscribe c [sds channel])) c channel count) := by
  have hstep : Broker.step o.broker w.server (.smemsubscribe c [sds channel]) =
      some (Broker.smempubsubSubscribeChannel w.server c cl (sds channel)).1 := by
    rw [Broker.step, hcl, Option.bind_some, Broker.smemsubscribeCommand, hcl]
    rfl
  have hb := h.broker hstep trivial (sameClients_subscribeChannel hcl _)
  exact hb.tell (pushSubscribe_tells hb.wire hlen _) rfl

lemma subscribeChannels_goes :
    ∀ {channels : List (List Char)} {w : World}, Goes o mem c w₀ w →
      (∀ a ∈ channels, a.length ≤ clientMaxQuerybufLen) →
      ∃ w', subscribeChannels o c w channels = some w' ∧ Goes o mem c w₀ w'
  | [], w, h, _ => ⟨w, rfl, h⟩
  | channel :: channels, w, h, hlen => by
    obtain ⟨cl, hcl⟩ := h.lookup h.connected
    rw [subscribeChannels, hcl]
    exact subscribeChannels_goes (h.subscribe hcl (hlen channel List.mem_cons_self) _)
      fun a ha => hlen a (List.mem_cons_of_mem _ ha)

lemma callSmemsubscribe_goes (h : Goes o mem c w₀ w) {channels : List (List Char)}
    (hlen : ∀ a ∈ channels, a.length ≤ clientMaxQuerybufLen) :
    ∃ w', callSmemsubscribe o c w channels = some w' ∧ Goes o mem c w₀ w' := by
  obtain ⟨w₁, hw₁, h₁⟩ := subscribeChannels_goes h hlen
  refine ⟨_, by rw [callSmemsubscribe, hw₁, Option.map_some], ?_⟩
  exact h₁.withFlags ⟨fun _ => rfl, fun _ => rfl, fun _ => id⟩

/-- The clients that a publish delivers to are those of the list of the channel. -/
lemma map_fst_deliver {s : Broker.Server} {channel message : Sds} :
    ∀ {ds : List ClientId} {pushes : List (ClientId × Broker.Reply)},
      Broker.deliver s channel message ds = .ok pushes → pushes.map Prod.fst = ds
  | [], pushes, h => by
    obtain rfl := Except.ok.inj h
    rfl
  | d :: ds, pushes, h => by
    rw [Broker.deliver] at h
    split at h
    · obtain ⟨rest, hrest, h⟩ := except_bind_eq_ok.mp h
      obtain rfl := Except.ok.inj h
      rw [List.map_cons, map_fst_deliver hrest]
    · exact absurd h (by simp)

lemma map_fst_publish {env : Broker.Env} {s s' : Broker.Server} {channel message : Sds}
    {pushes : List (ClientId × Broker.Reply)}
    (h : Broker.smempubsubPublishMessage env s channel message = .ok (pushes, s')) :
    pushes.map Prod.fst = Broker.nodes s channel := by
  obtain ⟨pushes', hpushes, h⟩ := except_bind_eq_ok.mp h
  have hfst : pushes = pushes' := by
    split at h
    · exact (congrArg Prod.fst (Except.ok.inj h)).symm
    · exact (congrArg Prod.fst (Except.ok.inj h)).symm
  rw [hfst]
  exact map_fst_deliver hpushes

lemma callSmempublish_goes (h : Goes o mem c w₀ w) {channel message : List Char}
    (hc : channel.length ≤ clientMaxQuerybufLen) (hm : message.length ≤ clientMaxQuerybufLen)
    (hw : callSmempublish o c w channel message = some w') : Goes o mem c w₀ w' := by
  obtain ⟨cl, hcl⟩ := h.lookup h.connected
  rw [callSmempublish] at hw
  split at hw
  · exact absurd hw (by simp)
  · rename_i pushes server hpub
    obtain rfl := Option.some.inj hw
    have hstep : Broker.step o.broker w.server (.smempublish c (sds channel) (sds message)) =
        some server := by
      rw [Broker.step, hcl, Option.bind_some, hpub]
      rfl
    have hsame := sameClients_of_sameIndex (Broker.tablesOnly_step rfl hstep).toSameIndex
    have hb := h.broker hstep trivial hsame
    have hp := pushMessages_posts (o := o) hc hm (pushes.map Prod.fst)
      (w := (w.post channel message).broker server (.smempublish c (sds channel) (sds message)))
      ⟨hb.wire.tracked, hb.wire.valid⟩
    have hinv := h.toInv.publish hstep trivial hsame hp fun hswitch d => by
      rw [map_fst_publish hpub]
      exact (h.toInv.index hswitch).agree d (sds channel)
    -- everybody is told messages only, and then the client its number
    have hgoes : Goes o mem c w₀ (pushMessages o channel message
        ((w.post channel message).broker server (.smempublish c (sds channel) (sds message)))
        (pushes.map Prod.fst)) := by
      refine ⟨⟨hinv, (hp.connected c).trans h.connected⟩, hp.exchanges.trans h.exchanges,
        hp.received.trans h.received, hp.asked.trans h.asked, fun d hd => ?_, ?_, fun d hd => ?_,
        fun d hd hconn => ?_⟩
      · rw [hp.connected] at hd
        rw [hp.queries]
        exact h.queries d hd
      · obtain ⟨vs, hvs, -⟩ := hp.said c
        rw [hvs]
        exact h.said.trans (List.prefix_append _ _)
      · obtain ⟨vs, hvs, hreplies, -⟩ := hp.said d
        rw [hvs, repliesOf_append, hreplies, List.append_nil]
        exact h.replies d hd
      · rw [hp.connected] at hconn
        exact (hp.steady d).trans (h.flags d hd hconn)
    exact hgoes.tell (replyLongLong_tells hgoes.wire _) rfl

lemma callSmemswitch_goes (hswitch : o.HasSwitch) (h : Goes o mem c w₀ w) {p name : List Char}
    (hw : callSmemswitch o c w p name = some w') : Goes o mem c w₀ w' := by
  obtain ⟨cl, hcl⟩ := h.lookup h.connected
  rw [callSmemswitch] at hw
  split at hw
  · exact absurd hw (by simp)
  · rename_i server hs
    obtain rfl := Option.some.inj hw
    have hstep :
        Broker.step o.broker w.server (.smemswitch c (sds p) (sds name)) = some server := by
      rw [Broker.step, hcl, Option.bind_some, hs]
      rfl
    exact h.brokerReply hstep hswitch (sameClients_smemswitch hs) _

lemma callPing_goes (h : Goes o mem c w₀ w)
    (hargv : ∀ a ∈ argv, a.length ≤ clientMaxQuerybufLen) :
    Goes o mem c w₀ (callPing o c w argv) := by
  rw [callPing]
  split
  · exact h.tell (replyError_tells h.wire (notMem_withoutNewlines _)) rfl
  · split
    · exact h.tell (pushPong_tells h.wire (length_arg_le hargv 1)) rfl
    · split
      · exact h.tell (replyShared_tells h.wire (by simp [Resp.Value.Valid])) rfl
      · exact h.tell (replyBulk_tells h.wire (length_arg_le hargv 1)) rfl

lemma sayAll_goes (ho : o.Lawful) (h : Goes o mem c w₀ w) (i : ℕ) (argv : List (List Char)) :
    Goes o mem c w₀ (sayAll o c w (o.answer i argv).values) :=
  h.tells (sayAll_tells h.wire fun v hv => (ho.answer i argv v hv).1)
    fun v hv => (ho.answer i argv v hv).2

lemma callOther_goes (ho : o.Lawful) (h : Goes o mem c w₀ w) (argv : List (List Char)) :
    Goes o mem c w₀ (callOther o c w argv) := by
  have hs := sayAll_goes ho h w.asked argv
  rw [callOther]
  split
  · exact hs
  · exact hs.withFlags ⟨fun _ => rfl, fun _ => rfl, fun _ => id⟩

lemma clientReply_goes (h : Goes o mem c w₀ w) (mode : List Char) :
    Goes o mem c w₀ (clientReply o c w mode) := by
  rw [clientReply]
  split
  · have hf := h.withFlags (f := fun f => { f with replySkip := false, replyOff := false })
      ⟨fun _ => rfl, fun _ => rfl, fun _ => id⟩
    exact hf.tell (replyOk_tells hf.wire) rfl
  · split
    · exact h.withFlags ⟨fun _ => rfl, fun _ => rfl, fun _ => id⟩
    · split
      · refine h.withFlags ⟨fun x => ?_, fun x => ?_, fun x hx => ?_⟩
        · split <;> rfl
        · split <;> rfl
        · split <;> exact hx
      · exact h.tell (replyShared_tells h.wire (by simp [Resp.Value.Valid])) rfl

lemma clientSetname_goes (h : Goes o mem c w₀ w) (name : List Char) :
    Goes o mem c w₀ (clientSetname o c w name) := by
  obtain ⟨cl, hcl⟩ := h.lookup h.connected
  rw [clientSetname, hcl]
  dsimp only
  have hstep : Broker.step o.broker w.server (.setName c (sds name)) =
      some (Broker.clientSetName w.server c cl (sds name)) := by
    rw [Broker.step, hcl, Option.map_some]
  have hb := h.broker hstep trivial (sameClients_clientSetName hcl _)
  split
  · exact hb.tell (replyOk_tells hb.wire) rfl
  · exact hb.tell (replyError_tells hb.wire (by decide)) rfl

lemma freeAll_moves : ∀ (cs : List ClientId) {n : Net}, n.Inv → Moves n (freeAll cs n) ∧
    ∀ d, d ∉ cs → (freeAll cs n).conns d = n.conns d
  | [], _, h => ⟨Moves.refl h, fun _ _ => rfl⟩
  | c :: cs, n, h => by
    have hfirst := freeClient_moves h c
    obtain ⟨hrest, hothers⟩ := freeAll_moves cs hfirst.inv
    refine ⟨hfirst.trans hrest, fun d hd => ?_⟩
    rw [List.mem_cons, not_or] at hd
    rw [freeAll, hothers d hd.2, freeClient_conns_of_ne hd.1]

lemma killAnswer_goes (h : Goes o mem c w₀ w) (argc killed : ℕ) :
    Goes o mem c w₀ (killAnswer o c w argc killed) := by
  rw [killAnswer]
  split
  · split
    · exact h.tell (replyError_tells h.wire (by decide)) rfl
    · exact h.tell (replyOk_tells h.wire) rfl
  · exact h.tell (replyLongLong_tells h.wire _) rfl

lemma clientKill_goes (h : Goes o mem c w₀ w) (hw : clientKill o c w argv = some w') :
    Goes o mem c w₀ w' := by
  rw [clientKill] at hw
  split at hw
  · obtain rfl := Option.some.inj hw
    exact h.tell (replyShared_tells h.wire (by simp [Resp.Value.Valid])) rfl
  · rename_i victim hvictim
    dsimp only at hw
    set others := w.server.clients.keys.filter fun d => victim d && d != c with hothers
    have hself : c ∉ others := by simp [hothers]
    obtain ⟨hmoves, hsame⟩ := freeAll_moves others h.wire.tracked.inv
    cases hadopt : w.adopt (freeAll others w.net) others with
    | none => rw [hadopt] at hw; exact absurd hw (by simp)
    | some w₁ =>
      rw [hadopt] at hw
      have h₁ := h.adopt hmoves hsame hself hadopt
      dsimp only at hw
      split at hw
      · obtain rfl := Option.some.inj hw
        exact (killAnswer_goes h₁ _ _).withFlags ⟨fun _ => rfl, fun _ => rfl, fun _ _ => rfl⟩
      · obtain rfl := Option.some.inj hw
        exact killAnswer_goes h₁ _ _

lemma callClient_goes (ho : o.Lawful) (h : Goes o mem c w₀ w)
    (hw : callClient o c w argv = some w') : Goes o mem c w₀ w' := by
  rw [callClient] at hw
  split at hw
  · obtain rfl := Option.some.inj hw
    exact clientReply_goes h _
  · split at hw
    · exact clientKill_goes h hw
    · split at hw
      · obtain rfl := Option.some.inj hw
        exact clientSetname_goes h _
      · obtain rfl := Option.some.inj hw
        exact sayAll_goes ho h _ _

/-- Every command keeps the invariant. -/
lemma call_goes (ho : o.Lawful) (h : Goes o mem c w₀ w)
    (hargv : ∀ a ∈ argv, a.length ≤ clientMaxQuerybufLen) {cmd : Command} {name : List Char}
    (hcmd : o.lookupCommand name = some cmd) (hw : call o c w cmd argv = some w') :
    Goes o mem c w₀ w' := by
  cases cmd with
  | smemget =>
    obtain rfl := Option.some.inj hw
    exact callSmemget_goes h _
  | smemfree =>
    obtain rfl := Option.some.inj hw
    exact callSmemfree_goes h _
  | smemrm =>
    obtain rfl := Option.some.inj hw
    exact callSmemrm_goes h _
  | smemsubscribe =>
    have htail : ∀ a ∈ argv.tail, a.length ≤ clientMaxQuerybufLen := fun a ha =>
      hargv a (List.mem_of_mem_tail ha)
    obtain ⟨w₁, hw₁, h₁⟩ := callSmemsubscribe_goes h htail
    rw [call, hw₁] at hw
    obtain rfl := Option.some.inj hw
    exact h₁
  | smempublish => exact callSmempublish_goes h (length_arg_le hargv 1) (length_arg_le hargv 2) hw
  | smemswitch => exact callSmemswitch_goes ⟨name, hcmd⟩ h hw
  | client => exact callClient_goes ho h hw
  | ping =>
    obtain rfl := Option.some.inj hw
    exact callPing_goes h hargv
  | other cmdName arity pubsub =>
    obtain rfl := Option.some.inj hw
    exact callOther_goes ho h argv

/-- A refusal with one of the shared errors. -/
lemma Goes.refuse (h : Goes o mem c w₀ w) {text : List Char} (htext : '\r' ∉ text) :
    Goes o mem c w₀ (replyShared o w c (.error text)) :=
  h.tell (replyShared_tells h.wire (by simpa [Resp.Value.Valid] using htext)) rfl

lemma processLookedUp_goes (ho : o.Lawful) (h : Goes o mem c w₀ w)
    (hargv : ∀ a ∈ argv, a.length ≤ clientMaxQuerybufLen) {cmd : Command} {name : List Char}
    (hcmd : o.lookupCommand name = some cmd) (hw : processLookedUp o c w cmd argv = some w') :
    Goes o mem c w₀ w' := by
  rw [processLookedUp] at hw
  split at hw
  · obtain rfl := Option.some.inj hw
    exact h.tell (replyError_tells h.wire (notMem_withoutNewlines _)) rfl
  · split at hw
    · rename_i text htext
      obtain rfl := Option.some.inj hw
      exact h.refuse (ho.refusedBefore _ _ text htext)
    · split at hw
      · obtain rfl := Option.some.inj hw
        exact h.tell (replyError_tells h.wire (by decide)) rfl
      · split at hw
        · rename_i text htext
          obtain rfl := Option.some.inj hw
          exact h.refuse (ho.refusedAfter _ _ text htext)
        · exact call_goes ho h hargv hcmd hw

lemma processCommand_goes (ho : o.Lawful) (h : w.Serves o mem c)
    (hargv : ∀ a ∈ argv, a.length ≤ clientMaxQuerybufLen) {r : Bool × World}
    (hr : processCommand o c w argv = some r) : Goes o mem c w r.2 := by
  rw [processCommand] at hr
  split at hr
  · obtain rfl := Option.some.inj hr
    exact (h.goes.tell (replyOk_tells h.wire) rfl).withFlags
      ⟨fun _ => rfl, fun _ => rfl, fun _ _ => rfl⟩
  · split at hr
    · obtain rfl := Option.some.inj hr
      exact h.goes.tell (replyError_tells h.wire (notMem_withoutNewlines _)) rfl
    · rename_i cmd hcmd
      obtain ⟨w₁, hw₁, rfl⟩ := Option.map_eq_some_iff.mp hr
      exact processLookedUp_goes ho h.goes hargv hcmd hw₁

end Commands

end SelfTestCode.Network
