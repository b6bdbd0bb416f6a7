import SelfTestCode.Broker.Switch

/-!
# `SMEMSWITCH` of a single subscriber

When one client has the name that is given to `SMEMSWITCH`, and listens to one channel, the command
does what it is meant to: the client leaves that channel and becomes the first of the other one, and
nobody else notices.  The two channels may be the same, and the new one need not exist before.
-/

namespace SelfTestCode.Broker

variable {env : Env} {s : Server} {name p a : Sds} {x : ClientId}

/-- Among the subscribers only `x` has the name, and `x` listens to `a` only. -/
structure SoleSubscriber (s : Server) (name : Sds) (x : ClientId) (a : Sds) : Prop where
  named : named s name x = true
  subscribed : Subscribed s x a
  only_client : ∀ c channel, Subscribed s c channel → Broker.named s name c = true → c = x
  only_channel : ∀ channel, Subscribed s x channel → channel = a

lemma SoleSubscriber.firstNamed_eq (hx : SoleSubscriber s name x a) (h : Agree s) :
    firstNamed s name a = some x := by
  obtain ⟨c, hc⟩ := hasNamed_iff.mp ⟨x, h.mem_of_subscribed hx.subscribed, hx.named⟩
  have hcx : c = x := hx.only_client c a (subscribed_of_firstNamed h hc) (firstNamed_mem hc).2
  rw [hc, hcx]

lemma SoleSubscriber.channel_eq (hx : SoleSubscriber s name x a) (h : Agree s) {b : Sds}
    (hb : HasNamed s name b) : b = a := by
  obtain ⟨c, hc, hnamed⟩ := hb
  have hsub := h.subscribed_of_mem hc
  obtain rfl : c = x := hx.only_client c b hsub hnamed
  exact hx.only_channel b hsub

/-- The condition, looked up in the table of the clients. -/
lemma SoleSubscriber.of_lookup {cl : Client} (hcl : s.clients.lookup x = some cl)
    (hname : cl.hasName name = true)
    (hnames : ∀ c ∈ s.clients.keys, Broker.named s name c = true → c = x)
    (hchannels : cl.smempubsubChannels.keys = [a]) : SoleSubscriber s name x a where
  named := by
    rw [Broker.named, hcl]
    exact hname
  subscribed := by
    rw [subscribed_iff hcl, AList.mem_keys, hchannels]
    exact List.mem_singleton_self a
  only_client c channel hsub hnamed := by
    obtain ⟨cl', hcl', -⟩ := hsub
    refine hnames c ?_ hnamed
    rw [← AList.mem_keys, ← AList.lookup_isSome, Option.mem_def.mp hcl']
    rfl
  only_channel channel hsub := by
    rw [subscribed_iff hcl, AList.mem_keys, hchannels] at hsub
    exact List.mem_singleton.mp hsub

/-! ## The lists -/

lemma filter_eraseIdx {l : List ClientId} {i : ℕ} (hi : l[i]? = some x) :
    (l.eraseIdx i).filter (· ≠ x) = l.filter (· ≠ x) := by
  obtain ⟨hlt, hget⟩ := List.getElem?_eq_some_iff.mp hi
  have hsplit : l = l.take i ++ x :: l.drop (i + 1) := by
    rw [← hget, List.getElem_cons_drop, List.take_append_drop]
  rw [List.eraseIdx_eq_take_drop_succ]
  conv_rhs => rw [hsplit]
  rw [List.filter_append, List.filter_append, List.filter_cons_of_neg (by simp)]

/-- A move changes no node's existence. -/
lemma card_items_smemlistMoveNode {channels : Dict Sds (List ClientId)} {i : ℕ}
    (hi : ((channels.lookup a).getD [])[i]? = some x) :
    (smemlistMoveNode channels a i p).items.card = channels.items.card := by
  obtain ⟨hlt, -⟩ := List.getElem?_eq_some_iff.mp hi
  have hsrc := congrArg Multiset.card (Dict.items_getD channels a)
  unfold smemlistMoveNode
  dsimp only
  rw [hi]
  dsimp only
  set channels₁ := channels.insert a (((channels.lookup a).getD []).eraseIdx i) with hchannels₁
  have hdst := congrArg Multiset.card (Dict.items_getD channels₁ p)
  have hcard₁ : (Dict.items channels₁).card + 1 = channels.items.card := by
    have hlength := List.length_eraseIdx_of_lt hlt
    rw [hsrc, hchannels₁, Dict.items_insert, Multiset.card_add, Multiset.card_add,
      Multiset.coe_card, Multiset.coe_card]
    omega
  rw [Dict.items_insert, Multiset.card_add, Multiset.coe_card, List.length_cons]
  rw [Multiset.card_add, Multiset.coe_card] at hdst
  omega

lemma items_add_nil (channels : Dict Sds (List ClientId)) (p : Sds) :
    (channels.add p []).items = channels.items := by
  unfold Dict.add
  split
  · rfl
  · rename_i hp
    rw [Dict.items_insert, Dict.erase_of_lookup_none (AList.lookup_eq_none.mpr hp)]
    exact zero_add _

/-! ## Publishing -/

/-- A publish on an index that agrees reaches the subscribers of the channel, once each. -/
lemma Agree.count_publish (h : Agree s) (env : Env) (channel message : Sds) :
    ∃ pushes s', smempubsubPublishMessage env s channel message = .ok (pushes, s') ∧
      ∀ c, (pushes.map Prod.fst).count c = if Subscribed s c channel then 1 else 0 := by
  obtain ⟨⟨pushes, s'⟩, hok⟩ := h.publish env channel message
  refine ⟨pushes, s', hok, fun c => ?_⟩
  obtain ⟨pushes', hdeliver, hrest⟩ := except_bind_eq_ok.mp hok
  have hpushes : pushes' = pushes := by
    split at hrest
    · exact congrArg Prod.fst (Except.ok.inj hrest)
    · exact congrArg Prod.fst (Except.ok.inj hrest)
  rw [← hpushes, map_fst_deliver hdeliver]
  exact h c channel

/-! ## The command -/

/-- What `SMEMSWITCH p` does to a subscriber `x` of `a` only. -/
structure Rerouted (s s' : Server) (x : ClientId) (a p : Sds) : Prop where
  /-- The set of `x` is `p` alone. -/
  set : ∀ channel, Subscribed s' x channel ↔ channel = p
  /-- `x` has left the list of `a`. -/
  left : a ≠ p → x ∉ nodes s' a
  /-- `x` is the head of the list of `p`. -/
  head : (nodes s' p).head? = some x
  /-- The sets of the other clients are what they were. -/
  others : ∀ c, c ≠ x → ∀ channel, Subscribed s' c channel ↔ Subscribed s c channel
  /-- The other clients stand in every list as they did. -/
  order : ∀ channel, (nodes s' channel).filter (· ≠ x) = (nodes s channel).filter (· ≠ x)
  /-- No node is lost or made. -/
  card : s'.smempubsubChannels.items.card = s.smempubsubChannels.items.card
  agree : Agree s'
  /-- The buffer tables and the clock are not touched. -/
  indexOnly : IndexOnly s s'

/-- The scan stops at the node of `x` in the list of `a`. -/
lemma SoleSubscriber.scanned (hx : SoleSubscriber s name x a) (h : Agree s) :
    ∃ s₁ i, switchScan name s.smempubsubChannels.keys (s, ⟨none, none⟩)
        = .ok (s₁, ⟨some x, some (a, i)⟩) ∧
      Scanned s name s.smempubsubChannels.keys (s₁, ⟨some x, some (a, i)⟩) ∧
      (nodes s₁ a)[i]? = some x := by
  have hfirst := hx.firstNamed_eq h
  obtain ⟨⟨s₁, scan⟩, hscan, hs₁⟩ := switchScan_scanned h name
  rcases hs₁.scan with ⟨-, hnone⟩ | ⟨b, -, c, i, hb, hi, hfound⟩
  · rw [hnone a (mem_keys_of_firstNamed hfirst)] at hfirst
    cases hfirst
  · have hba : b = a := hx.channel_eq h (hasNamed_iff.mpr ⟨c, hb⟩)
    subst hba
    have hcx : c = x := Option.some.inj (hb.symm.trans hfirst)
    subst hcx
    obtain rfl : scan = ⟨some c, some (b, i)⟩ := hfound
    refine ⟨s₁, i, hscan, hs₁, ?_⟩
    rw [hs₁.nodes_eq]
    exact hi

lemma SoleSubscriber.rerouted (hx : SoleSubscriber s name x a) (h : Agree s) (p : Sds) :
    ∃ s', smemswitchCommand s p name = .ok s' ∧ Rerouted s s' x a p := by
  have hfirst := hx.firstNamed_eq h
  have honly : ∀ b, HasNamed s name b → b = a := fun b => hx.channel_eq h
  obtain ⟨s₁, i, hscan, hs₁, hi⟩ := hx.scanned h
  obtain ⟨cl, hcl⟩ : ∃ cl, s₁.clients.lookup x = some cl := by
    obtain ⟨cl₀, hcl₀, -⟩ := hx.subscribed
    exact (hs₁.connected x).mpr ⟨cl₀, hcl₀⟩
  have hsets := hs₁.sets_of_only hfirst honly
  dsimp only at hsets
  -- the scan has left `x` without a channel
  have hempty : ∀ channel, ¬ Subscribed s₁ x channel := by
    intro channel hsub
    obtain ⟨hsub', hnot⟩ := (hsets x channel).mp hsub
    exact hnot ⟨hx.only_channel channel hsub', rfl⟩
  have hcommand : smemswitchCommand s p name = .ok (switchMove s₁ p ⟨some x, some (a, i)⟩) :=
    except_bind_eq_ok.mpr ⟨_, hscan, rfl⟩
  have hagree := agree_switchMove (p := p) h hs₁ hfirst hi hcl honly
  refine ⟨_, hcommand, ?_⟩
  rcases switchMove_found (p := p) hcl hi with ⟨hp, -⟩ | ⟨-, hsub, hnodes, -, -, hchannels⟩
  · exact absurd ((subscribed_iff hcl).mpr hp) (hempty p)
  have hset : ∀ channel,
      Subscribed (switchMove s₁ p ⟨some x, some (a, i)⟩) x channel ↔ channel = p := by
    intro channel
    rw [hsub]
    constructor
    · rintro (⟨-, rfl⟩ | hsub')
      · rfl
      · exact absurd hsub' (hempty channel)
    · rintro rfl
      exact Or.inl ⟨rfl, rfl⟩
  refine ⟨hset, ?_, ?_, ?_, ?_, ?_, hagree, ?_⟩
  · intro hap hmem
    exact hap ((hset a).mp (hagree.subscribed_of_mem hmem))
  · rw [hnodes, if_pos rfl]
    rfl
  · intro c hc channel
    rw [hsub, hsets]
    constructor
    · rintro (⟨rfl, -⟩ | ⟨hsub', -⟩)
      · exact absurd rfl hc
      · exact hsub'
    · intro hsub'
      exact Or.inr ⟨hsub', fun hca => hc hca.2⟩
  · intro channel
    have hhead : (if channel = p then [x] else []).filter (· ≠ x) = [] := by
      split <;> simp
    rw [hnodes, List.filter_append, hhead, List.nil_append]
    split
    · rename_i hca
      rw [hca, filter_eraseIdx hi, hs₁.nodes_eq]
    · rw [hs₁.nodes_eq]
  · have hi' : (((s₁.smempubsubChannels.add p []).lookup a).getD [])[i]? = some x := by
      rw [nodes_add_nil]
      exact hi
    have hsame : s₁.smempubsubChannels = s.smempubsubChannels := hs₁.channels
    rw [hchannels, card_items_smemlistMoveNode hi', items_add_nil, hsame]
  · exact indexOnly_switch hcommand

/-- For an index that agrees, and a name that one subscriber `x` has who listens to `a` only:
`SMEMSWITCH` moves `x` to `p` and touches nothing else, also when `a` is `p` and when `p` is new.
The next `SMEMPUBLISH` on `p` reaches `x` once, and one on `a` reaches it no more. -/
theorem smemswitch_moves_one (h : Agree s) (hx : SoleSubscriber s name x a) (p : Sds) :
    ∃ s', smemswitchCommand s p name = .ok s' ∧ Rerouted s s' x a p ∧
      ∀ env message,
        (∃ pushes s'', smempubsubPublishMessage env s' p message = .ok (pushes, s'') ∧
          (pushes.map Prod.fst).count x = 1) ∧
        (a ≠ p → ∃ pushes s'', smempubsubPublishMessage env s' a message = .ok (pushes, s'') ∧
          x ∉ pushes.map Prod.fst) := by
  obtain ⟨s', hs', hmoved⟩ := hx.rerouted h p
  refine ⟨s', hs', hmoved, fun env message => ⟨?_, ?_⟩⟩
  · obtain ⟨pushes, s'', hok, hcount⟩ := hmoved.agree.count_publish env p message
    refine ⟨pushes, s'', hok, ?_⟩
    rw [hcount, if_pos ((hmoved.set p).mpr rfl)]
  · intro hap
    obtain ⟨pushes, s'', hok, hcount⟩ := hmoved.agree.count_publish env a message
    refine ⟨pushes, s'', hok, ?_⟩
    rw [← List.count_eq_zero, hcount, if_neg fun hsub => hap ((hmoved.set a).mp hsub)]

/-- Client 2, called `x`, listens to `a`; client 3 listens to `a` and to `p`. -/
def twoListeners : List Op :=
  [.connect, .connect, .connect, .setName 2 "x", .smemsubscribe 2 ["a"],
    .smemsubscribe 3 ["a", "p"]]

theorem smemswitch_moves_one_twoListeners :
    ∃ s s', (broker sampleEnv).run (initServer 100000) twoListeners = some s ∧
      smemswitchCommand s "p" "x" = .ok s' ∧ nodes s "a" = [2, 3] ∧ Rerouted s s' 2 "a" "p" := by
  have hrun : ((broker sampleEnv).run (initServer 100000) twoListeners).map
      (fun s => (nodes s "a", (s.clients.lookup 2).map fun cl =>
        (cl.hasName "x", cl.smempubsubChannels.keys,
          decide (∀ c ∈ s.clients.keys, named s "x" c = true → c = 2))))
      = some ([2, 3], some (true, ["a"], true)) := by decide
  obtain ⟨s, hs, hall⟩ := Option.map_eq_some_iff.mp hrun
  simp only [Prod.mk.injEq] at hall
  obtain ⟨hnodes, hclient⟩ := hall
  obtain ⟨cl, hcl, hall⟩ := Option.map_eq_some_iff.mp hclient
  simp only [Prod.mk.injEq, decide_eq_true_eq] at hall
  obtain ⟨hname, hkeys, hnames⟩ := hall
  have hreach : (broker sampleEnv).Reachable SwitchOk s :=
    .of_run (.init ⟨_, rfl⟩) (by decide) hs
  have hx : SoleSubscriber s "x" 2 "a" := .of_lookup hcl hname hnames hkeys
  obtain ⟨s', hs', hmoved, -⟩ :=
    smemswitch_moves_one (IndexInv.of_reachable hreach).agree hx "p"
  exact ⟨s, s', hs, hs', hnodes, hmoved⟩

end SelfTestCode.Broker
