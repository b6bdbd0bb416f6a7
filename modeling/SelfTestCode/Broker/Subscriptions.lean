import SelfTestCode.Broker.Rules
import SelfTestCode.Broker.Tables

/-!
# The subscription index

A subscription is recorded twice: the channel is in the set of the client
(`c->smempubsub_channels`) and the client is in the list of the channel
(`server.smempubsub_channels`).  `Agree` says that the two directions tell the same story.  What
follows from it is that the assertions of `smempubsubUnsubscribeChannel` hold and that
`SMEMPUBLISH` never writes to a client that is gone.

`SMEMSUBSCRIBE` and disconnects keep the two directions in step.  `SMEMSWITCH` does so only when
at most one channel has a subscriber of the given name: it takes *every* channel with such a
subscriber out of that subscriber's set, but moves one list node, the one it saw last.
-/

namespace SelfTestCode.Broker

variable {env : Env} {s s' : Server}

/-! ## The two directions -/

/-- The list of a channel; a channel that is not in the table has none. -/
def nodes (s : Server) (channel : Sds) : List ClientId :=
  (s.smempubsubChannels.lookup channel).getD []

/-- The client is connected and has the channel in its set. -/
def Subscribed (s : Server) (c : ClientId) (channel : Sds) : Prop :=
  ∃ cl ∈ s.clients.lookup c, channel ∈ cl.smempubsubChannels

instance (s : Server) (c : ClientId) (channel : Sds) : Decidable (Subscribed s c channel) :=
  inferInstanceAs (Decidable (∃ cl ∈ s.clients.lookup c, channel ∈ cl.smempubsubChannels))

/-- A client is in the list of a channel exactly once if the channel is in its set, and not at
all otherwise; a client that is not connected is in no list. -/
def Agree (s : Server) : Prop :=
  ∀ c channel, (nodes s channel).count c = if Subscribed s c channel then 1 else 0

/-- The state invariant: the index agrees, and client ids are not reused. -/
structure IndexInv (s : Server) : Prop where
  agree : Agree s
  fresh : ∀ {c cl}, s.clients.lookup c = some cl → c < s.nextClientId

lemma Agree.subscribed_of_mem (h : Agree s) {c : ClientId} {channel : Sds}
    (hmem : c ∈ nodes s channel) : Subscribed s c channel := by
  have hpos := List.count_pos_iff.mpr hmem
  rw [h c channel] at hpos
  by_contra hnot
  rw [if_neg hnot] at hpos
  omega

lemma Agree.mem_of_subscribed (h : Agree s) {c : ClientId} {channel : Sds}
    (hsub : Subscribed s c channel) : c ∈ nodes s channel := by
  have hcount := h c channel
  rw [if_pos hsub] at hcount
  exact List.count_pos_iff.mp (by omega)

lemma subscribed_iff {c : ClientId} {cl : Client} {channel : Sds}
    (hcl : s.clients.lookup c = some cl) :
    Subscribed s c channel ↔ channel ∈ cl.smempubsubChannels := by
  simp [Subscribed, hcl]

/-- Writing a client's record changes the set of that client only. -/
lemma subscribed_setClient (s : Server) (c c' : ClientId) (cl : Client) (channel : Sds) :
    Subscribed (s.setClient c cl) c' channel ↔
      if c' = c then channel ∈ cl.smempubsubChannels else Subscribed s c' channel := by
  unfold Subscribed Server.setClient
  simp only [Dict.lookup_insert_if]
  split <;> simp

/-- An index with the same clients, up to names, and the same lists. -/
lemma Agree.congr (h : Agree s) (hnodes : ∀ channel, nodes s' channel = nodes s channel)
    (hsub : ∀ c channel, Subscribed s' c channel ↔ Subscribed s c channel) : Agree s' := by
  intro c channel
  rw [hnodes, h c channel]
  simp only [hsub]

lemma IndexInv.same (hs : SameIndex s s') (h : IndexInv s) : IndexInv s' where
  agree := by
    refine h.agree.congr ?_ ?_
    · intro channel
      rw [nodes, nodes, hs.channels]
    · intro c channel
      rw [Subscribed, Subscribed, hs.clients]
  fresh := by
    rw [hs.clients, hs.nextClientId]
    exact h.fresh

/-! ## Subscribing and unsubscribing -/

lemma nodes_insert {channels : Dict Sds (List ClientId)} {channel : Sds} {l : List ClientId}
    (hs : s'.smempubsubChannels = channels.insert channel l) (channel' : Sds) :
    nodes s' channel' = if channel' = channel then l else (channels.lookup channel').getD [] := by
  rw [nodes, hs, Dict.lookup_insert_if]
  split <;> rfl

/-- One node is added to, or taken from, the list of `channel` together with the entry in the
set of `c`. -/
lemma Agree.update (h : Agree s) (c : ClientId) (channel : Sds) (l : List ClientId) (p : Prop)
    [Decidable p]
    (hnodes : ∀ channel', nodes s' channel' = if channel' = channel then l else nodes s channel')
    (hsub : ∀ c' channel', Subscribed s' c' channel' ↔
      if c' = c ∧ channel' = channel then p else Subscribed s c' channel')
    (hcount : l.count c = if p then 1 else 0)
    (hother : ∀ c', c' ≠ c → l.count c' = (nodes s channel).count c') : Agree s' := by
  intro c' channel'
  rw [hnodes channel']
  by_cases hch : channel' = channel
  · subst hch
    rw [if_pos rfl]
    by_cases hc : c' = c
    · subst hc
      rw [hcount]
      simp only [hsub, and_self, if_true]
    · rw [hother c' hc, h c' channel']
      simp only [hsub, hc, false_and, if_false]
  · rw [if_neg hch, h c' channel']
    simp only [hsub, hch, and_false, if_false]

lemma IndexInv.setClient_fresh (h : IndexInv s) {c : ClientId} {cl cl' : Client}
    (hcl : s.clients.lookup c = some cl) {c₁ : ClientId} {cl₁ : Client}
    (hc₁ : (s.setClient c cl').clients.lookup c₁ = some cl₁) : c₁ < s.nextClientId := by
  rw [Server.setClient, Dict.lookup_insert_if] at hc₁
  split at hc₁
  · rename_i heq
    rw [heq]
    exact h.fresh hcl
  · exact h.fresh hc₁

lemma IndexInv.subscribeChannel (h : IndexInv s) (channel : Sds) {c : ClientId} {cl : Client}
    (hcl : s.clients.lookup c = some cl) :
    IndexInv (smempubsubSubscribeChannel s c cl channel).1 := by
  unfold smempubsubSubscribeChannel
  split
  · exact h
  · rename_i hnot
    refine ⟨?_, fun hc₁ => h.setClient_fresh hcl hc₁⟩
    refine h.agree.update c channel (nodes s channel ++ [c]) True ?_ ?_ ?_ ?_
    · intro channel'
      rw [nodes_insert rfl]
      rfl
    · intro c' channel'
      have hset := subscribed_setClient s c c'
        { cl with smempubsubChannels := cl.smempubsubChannels.insert channel () } channel'
      refine hset.trans ?_
      by_cases hc : c' = c
      · subst hc
        by_cases hch : channel' = channel
        · simp [hch]
        · simp [hch, subscribed_iff hcl]
      · simp [hc]
    · have hzero := h.agree c channel
      rw [if_neg (by rw [subscribed_iff hcl]; exact hnot)] at hzero
      simp [List.count_append, hzero]
    · intro c' hc
      rw [List.count_append, List.count_singleton, if_neg (by simpa using Ne.symm hc), Nat.add_zero]

/-- The client stays connected while its command runs. -/
lemma lookup_subscribeChannel (channel : Sds) {c : ClientId} {cl : Client}
    (hcl : s.clients.lookup c = some cl) :
    ∃ cl', (smempubsubSubscribeChannel s c cl channel).1.clients.lookup c = some cl' := by
  unfold smempubsubSubscribeChannel
  split
  · exact ⟨cl, hcl⟩
  · exact ⟨_, AList.lookup_insert _⟩

lemma IndexInv.subscribe {c : ClientId} : ∀ (args : List Sds) {s : Server} {cl : Client},
    IndexInv s → s.clients.lookup c = some cl →
    ∃ r, smemsubscribeCommand c s args = .ok r ∧ IndexInv r.1 := by
  intro args
  induction args with
  | nil => exact fun {s _} h _ => ⟨(s, []), rfl, h⟩
  | cons channel args ih =>
    intro s cl h hcl
    obtain ⟨cl', hcl'⟩ := lookup_subscribeChannel channel hcl
    obtain ⟨r, hr, hinv⟩ := ih (h.subscribeChannel channel hcl) hcl'
    refine ⟨(r.1, (smempubsubSubscribeChannel s c cl channel).2 :: r.2), ?_, hinv⟩
    rw [smemsubscribeCommand, hcl]
    exact except_bind_eq_ok.mpr ⟨r, hr, rfl⟩

/-- The assertions of `smempubsubUnsubscribeChannel` hold, and the channel leaves the set of the
client and nothing else. -/
lemma IndexInv.unsubscribeChannel (h : IndexInv s) {c : ClientId} {cl : Client} {channel : Sds}
    (hcl : s.clients.lookup c = some cl) (hmem : channel ∈ cl.smempubsubChannels)
    (notify : Bool) :
    ∃ r, smempubsubUnsubscribeChannel s c cl channel notify = .ok r ∧ IndexInv r.1 ∧
      r.1.nextClientId = s.nextClientId ∧
      r.1.clients = s.clients.insert c
        { cl with smempubsubChannels := cl.smempubsubChannels.erase channel } := by
  have hsubscribed : Subscribed s c channel := (subscribed_iff hcl).mpr hmem
  have hnode := h.agree.mem_of_subscribed hsubscribed
  have hlookup : s.smempubsubChannels.lookup channel = some (nodes s channel) := by
    unfold nodes at hnode ⊢
    cases hl : s.smempubsubChannels.lookup channel with
    | none => rw [hl] at hnode; cases hnode
    | some l => rfl
  refine ⟨_, by
    rw [smempubsubUnsubscribeChannel, if_pos hmem, hlookup]
    exact if_pos hnode, ⟨?_, fun hc₁ => h.setClient_fresh hcl hc₁⟩, rfl, rfl⟩
  refine h.agree.update c channel ((nodes s channel).erase c) False ?_ ?_ ?_ ?_
  · intro channel'
    show (AList.lookup channel' (if ((nodes s channel).erase c).length = 0
      then s.smempubsubChannels.erase channel
      else s.smempubsubChannels.insert channel ((nodes s channel).erase c))).getD [] = _
    by_cases hlen : ((nodes s channel).erase c).length = 0
    · -- the last subscriber: the list is dropped, which reads as the empty list
      rw [if_pos hlen, Dict.lookup_erase_if]
      split
      · exact (List.length_eq_zero_iff.mp hlen).symm
      · rfl
    · rw [if_neg hlen, Dict.lookup_insert_if]
      split <;> rfl
  · intro c' channel'
    have hset := subscribed_setClient s c c'
      { cl with smempubsubChannels := cl.smempubsubChannels.erase channel } channel'
    refine hset.trans ?_
    by_cases hc : c' = c
    · subst hc
      by_cases hch : channel' = channel
      · simp [hch]
      · simp [hch, subscribed_iff hcl]
    · simp [hc]
  · rw [List.count_erase_self, h.agree c channel, if_pos hsubscribed]
    simp
  · intro c' hc
    exact List.count_erase_of_ne hc

/-- `smempubsubUnsubscribeAllChannels` empties the set of the client. -/
lemma IndexInv.unsubscribeAll {c : ClientId} (notify : Bool) :
    ∀ {channels : List Sds} {s : Server} {cl : Client},
    IndexInv s → s.clients.lookup c = some cl → cl.smempubsubChannels.keys = channels →
    ∃ r cl', smempubsubUnsubscribeChannels c notify s channels = .ok r ∧ IndexInv r.1 ∧
      r.1.clients.lookup c = some cl' ∧ cl'.smempubsubChannels.keys = [] := by
  intro channels
  induction channels with
  | nil => exact fun {s cl} h hcl hkeys => ⟨(s, []), cl, rfl, h, hcl, hkeys⟩
  | cons channel channels ih =>
    intro s cl h hcl hkeys
    have hmem : channel ∈ cl.smempubsubChannels := by
      rw [AList.mem_keys, hkeys]
      exact List.mem_cons_self
    obtain ⟨first, hfirst, hinv, -, hclients⟩ := h.unsubscribeChannel hcl hmem notify
    have hcl' : first.1.clients.lookup c = some
        { cl with smempubsubChannels := cl.smempubsubChannels.erase channel } := by
      rw [hclients]
      exact AList.lookup_insert _
    have hkeys' : (cl.smempubsubChannels.erase channel).keys = channels := by
      rw [AList.keys_erase, hkeys, List.erase_cons_head]
    obtain ⟨rest, cl'', hrest, hinv', hcl'', hempty⟩ := ih hinv hcl' hkeys'
    refine ⟨(rest.1, first.2 ++ rest.2), cl'', ?_, hinv', hcl'', hempty⟩
    rw [smempubsubUnsubscribeChannels, hcl]
    exact except_bind_eq_ok.mpr ⟨first, hfirst, except_bind_eq_ok.mpr ⟨rest, hrest, rfl⟩⟩

/-- A disconnect never fails an assertion and leaves no node of the client behind. -/
lemma IndexInv.freeClient (h : IndexInv s) {c : ClientId} {cl : Client}
    (hcl : s.clients.lookup c = some cl) :
    ∃ s', freeClient s c cl = .ok s' ∧ IndexInv s' := by
  obtain ⟨r, cl', hr, hinv, hcl', hempty⟩ := h.unsubscribeAll false hcl rfl
  refine ⟨_, except_bind_eq_ok.mpr ⟨r, hr, rfl⟩, ?_, ?_⟩
  · refine hinv.agree.congr (fun _ => rfl) ?_
    intro c' channel
    unfold Subscribed
    dsimp only
    rw [Dict.lookup_erase_if]
    by_cases hc : c' = c
    · subst hc
      have hnone : channel ∉ cl'.smempubsubChannels := by
        rw [AList.mem_keys, hempty]
        exact List.not_mem_nil
      simp [hcl', hnone]
    · simp [hc]
  · intro c₁ cl₁ hc₁
    dsimp only at hc₁
    rw [Dict.lookup_erase_if] at hc₁
    split at hc₁
    · cases hc₁
    · exact hinv.fresh hc₁

lemma IndexInv.createClient (h : IndexInv s) : IndexInv (createClient s) := by
  have hnew : s.clients.lookup s.nextClientId = none := by
    cases hl : s.clients.lookup s.nextClientId with
    | none => rfl
    | some cl => exact absurd (h.fresh hl) (Nat.lt_irrefl _)
  refine ⟨h.agree.congr (fun _ => rfl) ?_, ?_⟩
  · intro c channel
    unfold Subscribed Broker.createClient
    dsimp only
    rw [Dict.lookup_insert_if]
    by_cases hc : c = s.nextClientId
    · subst hc
      simp [hnew]
    · simp [hc]
  · intro c cl hcl
    unfold Broker.createClient at hcl ⊢
    dsimp only at hcl ⊢
    rw [Dict.lookup_insert_if] at hcl
    split at hcl
    · rename_i hc
      rw [hc]
      exact Nat.lt_succ_self _
    · exact Nat.lt_succ_of_lt (h.fresh hcl)

/-- A new name does not change the set of the client. -/
lemma IndexInv.setName (h : IndexInv s) {c : ClientId} {cl : Client} {name : Option Sds}
    (hcl : s.clients.lookup c = some cl) : IndexInv (s.setClient c { cl with name := name }) := by
  refine ⟨h.agree.congr (fun _ => rfl) ?_, fun hc₁ => h.setClient_fresh hcl hc₁⟩
  intro c' channel
  rw [subscribed_setClient]
  split
  · rename_i hc
    rw [hc, subscribed_iff hcl]
  · rfl

lemma IndexInv.clientSetName (h : IndexInv s) {c : ClientId} {cl : Client} {name : Sds}
    (hcl : s.clients.lookup c = some cl) : IndexInv (clientSetName s c cl name) := by
  unfold Broker.clientSetName
  split
  · exact h.setName hcl
  · split
    · exact h.setName hcl
    · exact h

lemma IndexInv.rehash (h : IndexInv s) (entries : List (Sigma fun _ : Sds => List ClientId)) :
    IndexInv (rehash s entries) := by
  unfold Broker.rehash
  split
  · rename_i hperm
    refine ⟨h.agree.congr ?_ (fun _ _ => Iff.rfl), h.fresh⟩
    intro channel
    have hnodup := (List.perm_nodupKeys hperm).mpr s.smempubsubChannels.nodupKeys
    have hlookup : AList.lookup channel (⟨entries, hnodup⟩ : Dict Sds (List ClientId))
        = s.smempubsubChannels.lookup channel := AList.perm_lookup hperm
    unfold nodes
    dsimp only
    rw [hlookup]
  · exact h

end SelfTestCode.Broker
