import SelfTestCode.Broker.Subscriptions

/-!
# `SMEMSWITCH`

`SMEMSWITCH p name` is meant to move the subscriber called `name` from the channel it listens to
over to the channel `p`.  The command scans the lists of all channels; in each list it stops at
the first client of that name, takes the channel out of the client's set and remembers the node.
Afterwards it puts `p` in the set of the client it saw last and moves the node it saw last to the
list of `p`.

`Scanned` describes the state after the scan, `nodes_smemlistMoveNode` the move.  Together they
decide when the index still agrees: exactly when no two channels have a subscriber of the given
name.
-/

namespace SelfTestCode.Broker

variable {env : Env} {s s' : Server} {name channel : Sds}

/-- The client is connected and has the name. -/
def named (s : Server) (name : Sds) (c : ClientId) : Bool :=
  match s.clients.lookup c with
  | none => false
  | some cl => cl.hasName name

/-- The first subscriber of that name in the list of the channel. -/
def firstNamed (s : Server) (name channel : Sds) : Option ClientId :=
  (nodes s channel).find? (named s name)

/-- The channel has a subscriber of that name. -/
def HasNamed (s : Server) (name channel : Sds) : Prop :=
  ∃ c ∈ nodes s channel, named s name c = true

instance (s : Server) (name channel : Sds) : Decidable (HasNamed s name channel) :=
  inferInstanceAs (Decidable (∃ c ∈ nodes s channel, named s name c = true))

/-- At most one channel has a subscriber of that name. -/
def AtMostOneNamed (s : Server) (name : Sds) : Prop :=
  ∀ a ∈ s.smempubsubChannels.keys, ∀ b ∈ s.smempubsubChannels.keys,
    HasNamed s name a → HasNamed s name b → a = b

instance (s : Server) (name : Sds) : Decidable (AtMostOneNamed s name) :=
  inferInstanceAs (Decidable (∀ a ∈ s.smempubsubChannels.keys, _))

lemma firstNamed_mem {c : ClientId} (h : firstNamed s name channel = some c) :
    c ∈ nodes s channel ∧ named s name c = true :=
  ⟨List.mem_of_find?_eq_some h, List.find?_some h⟩

lemma hasNamed_iff : HasNamed s name channel ↔ ∃ c, firstNamed s name channel = some c := by
  rw [HasNamed, ← Option.isSome_iff_exists, firstNamed, List.find?_isSome]

/-- Only channels in the table have subscribers. -/
lemma mem_keys_of_mem_nodes {c : ClientId} (h : c ∈ nodes s channel) :
    channel ∈ s.smempubsubChannels.keys := by
  rw [← AList.mem_keys, ← AList.lookup_isSome]
  unfold nodes at h
  cases hl : s.smempubsubChannels.lookup channel with
  | none =>
    rw [hl] at h
    cases h
  | some l => rfl

/-! ## The scan -/

section List

variable {scan : SwitchScan}

/-- A list without a subscriber of that name is passed over. -/
lemma switchScanList_of_none : ∀ {clients : List ClientId} {i : ℕ},
    (∀ c ∈ clients, Subscribed s c channel) → clients.find? (named s name) = none →
    switchScanList name channel i clients (s, scan) = .ok (s, scan) := by
  intro clients
  induction clients with
  | nil => exact fun _ _ => rfl
  | cons c clients ih =>
    intro i hall hnone
    obtain ⟨cl, hcl, -⟩ := hall c List.mem_cons_self
    have hcl' : s.clients.lookup c = some cl := hcl
    have hc : ¬ cl.hasName name = true := by
      have := List.find?_eq_none.mp hnone c List.mem_cons_self
      simpa [named, hcl'] using this
    rw [switchScanList]
    simp only [hcl', hc, if_false, Bool.false_eq_true]
    refine ih (fun c' hc' => hall c' (List.mem_cons_of_mem _ hc')) ?_
    exact List.find?_eq_none.mpr fun c' hc' =>
      List.find?_eq_none.mp hnone c' (List.mem_cons_of_mem _ hc')

/-- In a list of subscribers of the channel, the scan stops at the first of that name. -/
lemma switchScanList_of_some (scan : SwitchScan) {c : ClientId} :
    ∀ {clients : List ClientId} (i : ℕ),
    (∀ c ∈ clients, Subscribed s c channel) → clients.find? (named s name) = some c →
    ∃ j cl, clients[j]? = some c ∧ s.clients.lookup c = some cl ∧
      switchScanList name channel i clients (s, scan) = .ok
        (s.setClient c { cl with smempubsubChannels := cl.smempubsubChannels.erase channel },
          ⟨some c, some (channel, i + j)⟩) := by
  intro clients
  induction clients with
  | nil =>
    intro i _ hsome
    cases hsome
  | cons c₀ clients ih =>
    intro i hall hsome
    obtain ⟨cl, hcl, hmem⟩ := hall c₀ List.mem_cons_self
    have hcl' : s.clients.lookup c₀ = some cl := hcl
    have hnamed : named s name c₀ = cl.hasName name := by simp [named, hcl']
    cases hc : cl.hasName name with
    | true =>
      rw [List.find?_cons_of_pos (by rw [hnamed, hc])] at hsome
      cases hsome
      refine ⟨0, cl, rfl, hcl', ?_⟩
      rw [switchScanList]
      simp only [hcl', hc, hmem, if_true, Nat.add_zero]
    | false =>
      rw [List.find?_cons_of_neg (by rw [hnamed, hc]; decide)] at hsome
      obtain ⟨j, cl₁, hj, hcl₁, hscan⟩ :=
        ih (i := i + 1) (fun c' hc' => hall c' (List.mem_cons_of_mem _ hc')) hsome
      refine ⟨j + 1, cl₁, by rw [List.getElem?_cons_succ]; exact hj, hcl₁, ?_⟩
      rw [switchScanList]
      simp only [hcl', hc, if_false, Bool.false_eq_true]
      rw [hscan, Nat.add_right_comm, Nat.add_assoc]

end List

/-- The state of the scan after the lists of the channels `done`: these channels have left the
set of their first subscriber of that name, and the last of these subscribers is remembered. -/
structure Scanned (s : Server) (name : Sds) (done : List Sds) (acc : Server × SwitchScan) :
    Prop where
  channels : acc.1.smempubsubChannels = s.smempubsubChannels
  nextClientId : acc.1.nextClientId = s.nextClientId
  names : ∀ c, (acc.1.clients.lookup c).map Client.name = (s.clients.lookup c).map Client.name
  sets : ∀ c ch, Subscribed acc.1 c ch ↔
    Subscribed s c ch ∧ ¬ (ch ∈ done ∧ firstNamed s name ch = some c)
  scan : (acc.2 = ⟨none, none⟩ ∧ ∀ ch ∈ done, firstNamed s name ch = none) ∨
    ∃ a ∈ done, ∃ c i, firstNamed s name a = some c ∧ (nodes s a)[i]? = some c ∧
      acc.2 = ⟨some c, some (a, i)⟩

lemma Scanned.named_eq {done : List Sds} {acc : Server × SwitchScan}
    (h : Scanned s name done acc) : named acc.1 name = named s name := by
  funext c
  have hnames := h.names c
  unfold named
  cases hl : acc.1.clients.lookup c with
  | none =>
    rw [hl] at hnames
    rw [Option.map_eq_none_iff.mp hnames.symm]
  | some cl =>
    rw [hl] at hnames
    obtain ⟨cl', hcl', hname⟩ := Option.map_eq_some_iff.mp hnames.symm
    rw [hcl']
    simp only [Client.hasName, hname]

lemma Scanned.start (s : Server) (name : Sds) : Scanned s name [] (s, ⟨none, none⟩) where
  channels := rfl
  nextClientId := rfl
  names _ := rfl
  sets c ch := by simp
  scan := Or.inl ⟨rfl, fun ch hch => by cases hch⟩

/-- The scan of one more channel. -/
lemma Scanned.next (h : Agree s) {done : List Sds} {acc : Server × SwitchScan}
    (hacc : Scanned s name done acc) (hnew : channel ∉ done) :
    ∃ acc', switchScanList name channel 0 (nodes s channel) acc = .ok acc' ∧
      Scanned s name (done ++ [channel]) acc' := by
  have hall : ∀ c ∈ nodes s channel, Subscribed acc.1 c channel := by
    intro c hc
    rw [hacc.sets]
    exact ⟨h.subscribed_of_mem hc, fun hdone => hnew hdone.1⟩
  cases hfirst : firstNamed s name channel with
  | none =>
    have hnone : (nodes s channel).find? (named acc.1 name) = none := by
      rw [hacc.named_eq]
      exact hfirst
    refine ⟨acc, switchScanList_of_none hall hnone, ?_⟩
    refine ⟨hacc.channels, hacc.nextClientId, hacc.names, ?_, ?_⟩
    · intro c ch
      rw [hacc.sets, List.mem_append, List.mem_singleton]
      refine and_congr_right fun _ => not_congr ?_
      constructor
      · exact fun hd => ⟨Or.inl hd.1, hd.2⟩
      · rintro ⟨hd | rfl, hc⟩
        · exact ⟨hd, hc⟩
        · rw [hfirst] at hc
          cases hc
    · rcases hacc.scan with ⟨hscan, hdone⟩ | ⟨a, ha, rest⟩
      · refine Or.inl ⟨hscan, fun ch hch => ?_⟩
        rcases List.mem_append.mp hch with hch | hch
        · exact hdone ch hch
        · rw [List.mem_singleton.mp hch]
          exact hfirst
      · exact Or.inr ⟨a, List.mem_append_left _ ha, rest⟩
  | some c =>
    have hsome : (nodes s channel).find? (named acc.1 name) = some c := by
      rw [hacc.named_eq]
      exact hfirst
    obtain ⟨j, cl, hj, hcl, hscan⟩ :=
      switchScanList_of_some acc.2 0 hall hsome
    refine ⟨_, hscan, hacc.channels, hacc.nextClientId, ?_, ?_, ?_⟩
    · intro c'
      rw [← hacc.names c']
      unfold Server.setClient
      dsimp only
      rw [Dict.lookup_insert_if]
      split
      · rename_i hc
        rw [hc, hcl]
        rfl
      · rfl
    · intro c' ch
      rw [subscribed_setClient]
      by_cases hc : c' = c
      · subst hc
        rw [if_pos rfl, AList.mem_erase, ← subscribed_iff hcl, hacc.sets, List.mem_append,
          List.mem_singleton]
        constructor
        · rintro ⟨hne, hsub, hnot⟩
          refine ⟨hsub, ?_⟩
          rintro ⟨hd | rfl, hf⟩
          · exact hnot ⟨hd, hf⟩
          · exact hne rfl
        · rintro ⟨hsub, hnot⟩
          refine ⟨?_, hsub, fun hd => hnot ⟨Or.inl hd.1, hd.2⟩⟩
          rintro rfl
          exact hnot ⟨Or.inr rfl, hfirst⟩
      · rw [if_neg hc, hacc.sets, List.mem_append, List.mem_singleton]
        refine and_congr_right fun _ => not_congr ?_
        constructor
        · exact fun hd => ⟨Or.inl hd.1, hd.2⟩
        · rintro ⟨hd | rfl, hf⟩
          · exact ⟨hd, hf⟩
          · rw [hfirst] at hf
            exact absurd (Option.some.inj hf).symm hc
    · refine Or.inr ⟨channel, by simp, c, j, hfirst, hj, ?_⟩
      rw [Nat.zero_add]

lemma Scanned.all (h : Agree s) : ∀ {channels done : List Sds} {acc : Server × SwitchScan},
    Scanned s name done acc → (done ++ channels).Nodup →
    ∃ acc', switchScan name channels acc = .ok acc' ∧ Scanned s name (done ++ channels) acc' := by
  intro channels
  induction channels with
  | nil =>
    intro done acc hacc _
    exact ⟨acc, rfl, by rw [List.append_nil]; exact hacc⟩
  | cons channel channels ih =>
    intro done acc hacc hnodup
    have hnew : channel ∉ done := by
      intro hmem
      exact (List.nodup_append.mp hnodup).2.2 channel hmem channel List.mem_cons_self rfl
    obtain ⟨acc₁, hlist, hacc₁⟩ := hacc.next h hnew
    have hassoc : done ++ channel :: channels = (done ++ [channel]) ++ channels := by simp
    rw [hassoc] at hnodup
    obtain ⟨acc', hrest, hacc'⟩ := ih hacc₁ hnodup
    refine ⟨acc', except_bind_eq_ok.mpr ⟨acc₁, ?_, hrest⟩, ?_⟩
    · rw [hacc.channels]
      exact hlist
    · rw [hassoc]
      exact hacc'

/-- The scan of the whole table, from an index that agrees. -/
lemma switchScan_scanned (h : Agree s) (name : Sds) :
    ∃ acc, switchScan name s.smempubsubChannels.keys (s, ⟨none, none⟩) = .ok acc ∧
      Scanned s name s.smempubsubChannels.keys acc := by
  have hnodup : ([] ++ s.smempubsubChannels.keys).Nodup := s.smempubsubChannels.keys_nodup
  have hall := (Scanned.start s name).all h hnodup
  simpa using hall

/-! ## The move -/

/-- The lists after `smemlistMoveNode`: the node is gone from the source and is the head of the
destination. -/
lemma nodes_smemlistMoveNode {channels : Dict Sds (List ClientId)} {src dst : Sds} {i : ℕ}
    {c : ClientId} (hi : ((channels.lookup src).getD [])[i]? = some c) (ch : Sds) :
    ((smemlistMoveNode channels src i dst).lookup ch).getD [] =
      (if ch = dst then [c] else []) ++
        if ch = src then ((channels.lookup src).getD []).eraseIdx i
        else (channels.lookup ch).getD [] := by
  unfold smemlistMoveNode
  dsimp only
  rw [hi]
  dsimp only
  rw [Dict.lookup_insert_if]
  by_cases hdst : ch = dst
  · subst hdst
    rw [if_pos rfl, if_pos rfl, Dict.lookup_insert_if]
    split <;> rfl
  · rw [if_neg hdst, if_neg hdst, Dict.lookup_insert_if]
    split <;> rfl

/-- A new empty list reads like a missing one. -/
lemma nodes_add_nil (channels : Dict Sds (List ClientId)) (p ch : Sds) :
    ((channels.add p []).lookup ch).getD [] = (channels.lookup ch).getD [] := by
  unfold Dict.add
  split
  · rfl
  · rename_i hp
    rw [Dict.lookup_insert_if]
    split
    · rename_i hch
      rw [hch, AList.lookup_eq_none.mpr hp]
      rfl
    · rfl

lemma count_eraseIdx {l : List ClientId} {i : ℕ} {c : ClientId} (hi : l[i]? = some c)
    (c' : ClientId) : (l.eraseIdx i).count c' + (if c' = c then 1 else 0) = l.count c' := by
  obtain ⟨hlt, rfl⟩ := List.getElem?_eq_some_iff.mp hi
  have hperm := List.getElem_cons_eraseIdx_perm hlt
  rw [← hperm.count_eq, List.count_cons]
  simp only [beq_iff_eq]
  simp only [eq_comm]

/-- What `switchMove` does when the scan has found the client `c` at the node `i` of the list of
`a`: nothing, if `c` is subscribed to `p`; else `c` subscribes to `p` and the node moves. -/
lemma switchMove_found {p a : Sds} {c : ClientId} {i : ℕ} {cl : Client}
    (hcl : s.clients.lookup c = some cl) (hi : (nodes s a)[i]? = some c) :
    (p ∈ cl.smempubsubChannels ∧ switchMove s p ⟨some c, some (a, i)⟩ = s) ∨
    (p ∉ cl.smempubsubChannels ∧
      (∀ c' ch, Subscribed (switchMove s p ⟨some c, some (a, i)⟩) c' ch ↔
        (c' = c ∧ ch = p) ∨ Subscribed s c' ch) ∧
      (∀ ch, nodes (switchMove s p ⟨some c, some (a, i)⟩) ch =
        (if ch = p then [c] else []) ++ if ch = a then (nodes s a).eraseIdx i else nodes s ch) ∧
      (switchMove s p ⟨some c, some (a, i)⟩).clients = s.clients.insert c
        { cl with smempubsubChannels := cl.smempubsubChannels.insert p () } ∧
      (switchMove s p ⟨some c, some (a, i)⟩).nextClientId = s.nextClientId ∧
      (switchMove s p ⟨some c, some (a, i)⟩).smempubsubChannels
        = smemlistMoveNode (s.smempubsubChannels.add p []) a i p) := by
  by_cases hp : p ∈ cl.smempubsubChannels
  · left
    refine ⟨hp, ?_⟩
    simp only [switchMove, hcl, hp, if_true]
  · right
    set s₁ := s.setClient c
      { cl with smempubsubChannels := cl.smempubsubChannels.insert p () } with hs₁
    have heq : switchMove s p ⟨some c, some (a, i)⟩ = { s₁ with
        smempubsubChannels := smemlistMoveNode (s₁.smempubsubChannels.add p []) a i p } := by
      simp only [switchMove, hcl, hp, if_false, hs₁]
    rw [heq]
    refine ⟨hp, ?_, ?_, rfl, rfl, rfl⟩
    · intro c' ch
      refine (subscribed_setClient s c c' _ ch).trans ?_
      by_cases hc : c' = c
      · subst hc
        rw [if_pos rfl, AList.mem_insert, subscribed_iff hcl]
        simp
      · rw [if_neg hc]
        simp [hc]
    · intro ch
      have hsrc : (((s₁.smempubsubChannels.add p []).lookup a).getD [])[i]? = some c := by
        rw [nodes_add_nil]
        exact hi
      show ((smemlistMoveNode (s₁.smempubsubChannels.add p []) a i p).lookup ch).getD [] = _
      rw [nodes_smemlistMoveNode hsrc, nodes_add_nil, nodes_add_nil]
      rfl

/-! ## When the index still agrees -/

lemma Scanned.nodes_eq {done : List Sds} {acc : Server × SwitchScan}
    (h : Scanned s name done acc) (ch : Sds) : nodes acc.1 ch = nodes s ch := by
  rw [nodes, nodes, h.channels]

/-- Connected clients stay connected during the scan, and no others appear. -/
lemma Scanned.connected {done : List Sds} {acc : Server × SwitchScan}
    (h : Scanned s name done acc) (c : ClientId) :
    (∃ cl, acc.1.clients.lookup c = some cl) ↔ ∃ cl, s.clients.lookup c = some cl := by
  have hnames := congrArg Option.isSome (h.names c)
  rw [Option.isSome_map, Option.isSome_map] at hnames
  rw [← Option.isSome_iff_exists, ← Option.isSome_iff_exists, hnames]

lemma subscribed_of_firstNamed (h : Agree s) {ch : Sds} {d : ClientId}
    (hf : firstNamed s name ch = some d) : Subscribed s d ch :=
  h.subscribed_of_mem (firstNamed_mem hf).1

lemma mem_keys_of_firstNamed {ch : Sds} {d : ClientId} (hf : firstNamed s name ch = some d) :
    ch ∈ s.smempubsubChannels.keys := mem_keys_of_mem_nodes (firstNamed_mem hf).1

/-- After the scan every channel with a subscriber of the name has a node too many. -/
lemma Scanned.stale (h : Agree s) {acc : Server × SwitchScan}
    (hacc : Scanned s name s.smempubsubChannels.keys acc) {b : Sds} {d : ClientId}
    (hf : firstNamed s name b = some d) :
    (nodes acc.1 b).count d = 1 ∧ ¬ Subscribed acc.1 d b := by
  refine ⟨?_, ?_⟩
  · rw [hacc.nodes_eq, h d b, if_pos (subscribed_of_firstNamed h hf)]
  · rw [hacc.sets]
    exact fun hsub => hsub.2 ⟨mem_keys_of_firstNamed hf, hf⟩

/-- With one channel only, the scan takes that channel from its first subscriber of the name and
leaves the other sets alone. -/
lemma Scanned.sets_of_only {acc : Server × SwitchScan}
    (hacc : Scanned s name s.smempubsubChannels.keys acc) {a : Sds} {c : ClientId}
    (hfirst : firstNamed s name a = some c) (honly : ∀ b, HasNamed s name b → b = a)
    (c' : ClientId) (ch : Sds) :
    Subscribed acc.1 c' ch ↔ Subscribed s c' ch ∧ ¬ (ch = a ∧ c' = c) := by
  refine (hacc.sets c' ch).trans (and_congr_right fun _ => not_congr ?_)
  constructor
  · rintro ⟨-, hf⟩
    have hcha : ch = a := honly ch (hasNamed_iff.mpr ⟨c', hf⟩)
    rw [hcha, hfirst] at hf
    exact ⟨hcha, (Option.some.inj hf).symm⟩
  · rintro ⟨rfl, rfl⟩
    exact ⟨mem_keys_of_firstNamed hfirst, hfirst⟩

section Found

variable {s₁ : Server} {p a : Sds} {c : ClientId} {i : ℕ} {cl : Client}

/-- The counts of the nodes after the move. -/
lemma count_switchMove (hi : (nodes s₁ a)[i]? = some c)
    (hnodes : ∀ ch, nodes s' ch =
      (if ch = p then [c] else []) ++ if ch = a then (nodes s₁ a).eraseIdx i else nodes s₁ ch)
    (c' : ClientId) (ch : Sds) :
    (nodes s' ch).count c' + (if ch = a ∧ c' = c then 1 else 0)
      = (nodes s₁ ch).count c' + (if ch = p ∧ c' = c then 1 else 0) := by
  have herase := count_eraseIdx hi c'
  have hhead : (if ch = p then [c] else []).count c' = if ch = p ∧ c' = c then 1 else 0 := by
    by_cases hp : ch = p
    · by_cases hc : c' = c
      · simp [hp, hc]
      · simp [hp, hc, Ne.symm hc]
    · simp [hp]
  rw [hnodes, List.count_append, hhead]
  by_cases ha : ch = a
  · subst ha
    simp only [if_true, true_and]
    omega
  · simp only [ha, if_false, false_and]
    omega

variable (h : Agree s)
  (hs₁ : Scanned s name s.smempubsubChannels.keys (s₁, ⟨some c, some (a, i)⟩))
  (hfirst : firstNamed s name a = some c) (hi : (nodes s₁ a)[i]? = some c)
  (hcl : s₁.clients.lookup c = some cl)

include h hs₁ hi hcl in
/-- With a second channel the index is out of step: the client found there has lost the channel
but kept the node. -/
lemma not_agree_switchMove {b : Sds} (hba : b ≠ a) (hb : HasNamed s name b) :
    ¬ Agree (switchMove s₁ p ⟨some c, some (a, i)⟩) := by
  intro hagree
  obtain ⟨d, hd⟩ := hasNamed_iff.mp hb
  obtain ⟨hone, hnot⟩ := hs₁.stale h hd
  dsimp only at hone hnot
  have hdb := hagree d b
  rcases switchMove_found (p := p) hcl hi with ⟨-, heq⟩ | ⟨-, hsub, hnodes, -, -⟩
  · rw [heq, hone, if_neg hnot] at hdb
    omega
  · have hcount := count_switchMove hi hnodes d b
    rw [hone, if_neg (fun hba' => hba hba'.1)] at hcount
    by_cases hdp : b = p ∧ d = c
    · have hsub' : Subscribed (switchMove s₁ p ⟨some c, some (a, i)⟩) d b :=
        (hsub d b).mpr (Or.inl hdp.symm)
      rw [if_pos hsub'] at hdb
      rw [if_pos hdp] at hcount
      omega
    · have hsub' : ¬ Subscribed (switchMove s₁ p ⟨some c, some (a, i)⟩) d b := by
        rw [hsub]
        exact fun hs => hs.elim (fun hdp' => hdp hdp'.symm) hnot
      rw [if_neg hsub'] at hdb
      rw [if_neg hdp] at hcount
      omega

include h hs₁ hfirst hi hcl in
/-- With one channel only, the node and the entry of the set move together. -/
lemma agree_switchMove (honly : ∀ b, HasNamed s name b → b = a) :
    Agree (switchMove s₁ p ⟨some c, some (a, i)⟩) := by
  have hnamed := (firstNamed_mem hfirst).2
  have hsets : ∀ c' ch, Subscribed s₁ c' ch ↔ Subscribed s c' ch ∧ ¬ (ch = a ∧ c' = c) :=
    hs₁.sets_of_only hfirst honly
  -- a subscription of `c` to `p` would make `p` a channel with a subscriber of the name
  have hsub_p : Subscribed s c p → p = a := fun hsp =>
    honly p ⟨c, h.mem_of_subscribed hsp, hnamed⟩
  have hsub_a : Subscribed s c a := subscribed_of_firstNamed h hfirst
  rcases switchMove_found (p := p) hcl hi with ⟨hp, -⟩ | ⟨-, hsub, hnodes, -, -⟩
  · have hsp := (hsets c p).mp ((subscribed_iff hcl).mpr hp)
    exact absurd ⟨hsub_p hsp.1, rfl⟩ hsp.2
  · intro c' ch
    have hcount := count_switchMove hi hnodes c' ch
    have hold : (nodes s₁ ch).count c' = if Subscribed s c' ch then 1 else 0 := by
      rw [hs₁.nodes_eq]
      exact h c' ch
    rw [hold] at hcount
    simp only [hsub, hsets]
    by_cases hc : c' = c
    · subst hc
      by_cases hp : ch = p
      · subst hp
        by_cases ha : ch = a
        · simp only [ha, hsub_a, and_self, if_true, true_or] at hcount ⊢
          omega
        · have hno : ¬ Subscribed s c' ch := fun hsp => ha (hsub_p hsp)
          simp only [ha, hno, and_true, if_true, if_false, true_or, false_and] at hcount ⊢
          omega
      · by_cases ha : ch = a
        · subst ha
          simp only [hp, hsub_a, and_self, and_true, if_true, if_false, false_or, not_true_eq_false,
            and_false] at hcount ⊢
          omega
        · simp only [ha, hp, and_false, if_false, false_or, not_false_eq_true,
            and_true] at hcount ⊢
          omega
    · simp only [hc, and_false, false_and, if_false, false_or, not_false_eq_true,
        and_true] at hcount ⊢
      omega

end Found

/-- `SMEMSWITCH` always runs to its end on an index that agrees.  Afterwards the index agrees
again exactly when at most one channel had a subscriber of the name. -/
lemma IndexInv.switch (h : IndexInv s) (p name : Sds) :
    ∃ s', smemswitchCommand s p name = .ok s' ∧
      (∀ {c cl}, s'.clients.lookup c = some cl → c < s'.nextClientId) ∧
      (Agree s' ↔ AtMostOneNamed s name) := by
  obtain ⟨⟨s₁, scan⟩, hscan, hs₁⟩ := switchScan_scanned h.agree name
  have hfresh₁ : ∀ {c cl}, s₁.clients.lookup c = some cl → c < s₁.nextClientId := by
    intro c cl hcl
    obtain ⟨cl', hcl'⟩ := (hs₁.connected c).mp ⟨cl, hcl⟩
    rw [hs₁.nextClientId]
    exact h.fresh hcl'
  refine ⟨switchMove s₁ p scan, except_bind_eq_ok.mpr ⟨(s₁, scan), hscan, rfl⟩, ?_⟩
  rcases hs₁.scan with ⟨hnothing, hnone⟩ | ⟨a, ha, c, i, hfirst, hi, hfound⟩
  · -- nobody has the name
    obtain rfl : scan = ⟨none, none⟩ := hnothing
    refine ⟨hfresh₁, iff_of_true (h.agree.congr hs₁.nodes_eq ?_) ?_⟩
    · intro c ch
      refine (hs₁.sets c ch).trans (and_iff_left ?_)
      rintro ⟨hch, hf⟩
      rw [hnone ch hch] at hf
      cases hf
    · intro b hb _ _ hnamed
      obtain ⟨c, hc⟩ := hasNamed_iff.mp hnamed
      rw [hnone b hb] at hc
      cases hc
  · obtain rfl : scan = ⟨some c, some (a, i)⟩ := hfound
    have hi₁ : (nodes s₁ a)[i]? = some c := by
      rw [hs₁.nodes_eq]
      exact hi
    have hnamed_a : HasNamed s name a := hasNamed_iff.mpr ⟨c, hfirst⟩
    obtain ⟨cl, hcl⟩ : ∃ cl, s₁.clients.lookup c = some cl := by
      obtain ⟨cl₀, hcl₀, -⟩ := subscribed_of_firstNamed h.agree hfirst
      exact (hs₁.connected c).mpr ⟨cl₀, hcl₀⟩
    refine ⟨?_, ?_, ?_⟩
    · rcases switchMove_found (p := p) hcl hi₁ with ⟨-, heq⟩ | ⟨-, -, -, hclients, hnext, -⟩
      · rw [heq]
        exact hfresh₁
      · intro c₁ cl₁ hc₁
        rw [hclients, Dict.lookup_insert_if] at hc₁
        rw [hnext]
        split at hc₁
        · rename_i hc
          rw [hc]
          exact hfresh₁ hcl
        · exact hfresh₁ hc₁
    · intro hagree
      have honly : ∀ b, HasNamed s name b → b = a := by
        intro b hb
        by_contra hba
        exact not_agree_switchMove h.agree hs₁ hi₁ hcl hba hb hagree
      intro b _ b' _ hb hb'
      rw [honly b hb, honly b' hb']
    · intro hatmost
      refine agree_switchMove h.agree hs₁ hfirst hi₁ hcl fun b hb => ?_
      obtain ⟨d, hd⟩ := hasNamed_iff.mp hb
      exact hatmost b (mem_keys_of_firstNamed hd) a ha hb hnamed_a

/-! ## Runs -/

/-- Every `SMEMSWITCH` is given a name that at most one channel has a subscriber of. -/
def SwitchOk (s : Server) : Op → Prop
  | .smemswitch _ _ subChannel => AtMostOneNamed s subChannel
  | _ => True

instance (s : Server) : (op : Op) → Decidable (SwitchOk s op)
  | .smemswitch _ _ subChannel => inferInstanceAs (Decidable (AtMostOneNamed s subChannel))
  | .connect | .setName _ _ | .smemget _ _ | .smemfree _ _ | .smemrm _ _ | .smemsubscribe _ _
  | .smempublish _ _ _ | .disconnect _ | .updateTime _ | .sweep _ | .rehash _ => isTrue trivial

lemma IndexInv.init (systemMemorySize : UInt64) : IndexInv (initServer systemMemorySize) where
  agree c channel := by simp [nodes, initServer, Subscribed]
  fresh h := by simp [initServer] at h

lemma IndexInv.step {op : Op} (h : IndexInv s) (hok : SwitchOk s op)
    (hs : step env s op = some s') : IndexInv s' := by
  cases hop : op.touchesTables with
  | true => exact h.same (tablesOnly_step hop hs).toSameIndex
  | false =>
    cases op with
    | connect =>
      cases hs
      exact h.createClient
    | setName c name =>
      obtain ⟨cl, hcl, rfl⟩ := Option.map_eq_some_iff.mp hs
      exact h.clientSetName hcl
    | smemsubscribe c channels =>
      obtain ⟨cl, hcl, hs⟩ := Option.bind_eq_some_iff.mp hs
      obtain ⟨r, hr, hinv⟩ := h.subscribe channels hcl
      rw [hr] at hs
      cases hs
      exact hinv
    | smemswitch c pubChannel subChannel =>
      obtain ⟨cl, -, hs⟩ := Option.bind_eq_some_iff.mp hs
      obtain ⟨s₁, hs₁, hfresh, hiff⟩ := h.switch pubChannel subChannel
      rw [hs₁] at hs
      cases hs
      exact ⟨hiff.mpr hok, hfresh⟩
    | disconnect c =>
      obtain ⟨cl, hcl, hs⟩ := Option.bind_eq_some_iff.mp hs
      obtain ⟨s₁, hs₁, hinv⟩ := h.freeClient hcl
      rw [hs₁] at hs
      cases hs
      exact hinv
    | updateTime now =>
      cases hs
      exact h.same (s := s) ⟨rfl, rfl, rfl⟩
    | rehash entries =>
      cases hs
      exact h.rehash entries
    | _ => cases hop

/-- Every node of a list is a connected client, so a publish reaches its end. -/
lemma Agree.deliver (h : Agree s) {channel : Sds} (message : Sds) : ∀ {clients : List ClientId},
    (∀ c ∈ clients, c ∈ nodes s channel) →
    ∃ pushes, deliver s channel message clients = .ok pushes := by
  intro clients
  induction clients with
  | nil => exact fun _ => ⟨[], rfl⟩
  | cons c clients ih =>
    intro hall
    obtain ⟨cl, hcl, -⟩ := h.subscribed_of_mem (hall c List.mem_cons_self)
    have hmem : c ∈ s.clients := by
      rw [← AList.lookup_isSome, Option.mem_def.mp hcl]
      rfl
    obtain ⟨pushes, hpushes⟩ := ih fun c' hc' => hall c' (List.mem_cons_of_mem _ hc')
    refine ⟨(c, messagePush channel message) :: pushes, ?_⟩
    rw [Broker.deliver, if_pos hmem]
    exact except_bind_eq_ok.mpr ⟨pushes, hpushes, rfl⟩

lemma Agree.publish (h : Agree s) (env : Env) (channel message : Sds) :
    ∃ r, smempubsubPublishMessage env s channel message = .ok r := by
  have hnodes : ∀ c ∈ nodes s channel, c ∈ nodes s channel := fun _ hc => hc
  obtain ⟨pushes, hpushes⟩ := h.deliver message hnodes
  unfold smempubsubPublishMessage
  cases hr : s.smempubsubMemorys.lookup message with
  | none => exact ⟨_, except_bind_eq_ok.mpr ⟨pushes, hpushes, rfl⟩⟩
  | some r => exact ⟨_, except_bind_eq_ok.mpr ⟨pushes, hpushes, rfl⟩⟩

lemma IndexInv.of_reachable (h : (broker env).Reachable SwitchOk s) : IndexInv s := by
  refine h.invariant ?_ ?_
  · rintro s ⟨size, rfl⟩
    exact IndexInv.init size
  · intro s op s' _ hs hok hstep
    exact hs.step hok hstep

/-- In every run in which each `SMEMSWITCH` is given a name that at most one channel has a
subscriber of: the two directions of the index agree; so a disconnect fails no assertion and a
publish writes to no client that is gone.  The next `SMEMSWITCH` keeps the agreement exactly when
it meets the same condition. -/
theorem subscription_index_agrees (h : (broker env).Reachable SwitchOk s) :
    Agree s ∧
    (∀ c cl, s.clients.lookup c = some cl → ∃ s', freeClient s c cl = .ok s') ∧
    (∀ channel message, ∃ r, smempubsubPublishMessage env s channel message = .ok r) ∧
    ∀ pubChannel subChannel, ∃ s', smemswitchCommand s pubChannel subChannel = .ok s' ∧
      (Agree s' ↔ AtMostOneNamed s subChannel) := by
  have hinv := IndexInv.of_reachable h
  refine ⟨hinv.agree, ?_, hinv.agree.publish env, ?_⟩
  · intro c cl hcl
    obtain ⟨s', hs', -⟩ := hinv.freeClient hcl
    exact ⟨s', hs'⟩
  · intro pubChannel subChannel
    obtain ⟨s', hs', -, hiff⟩ := hinv.switch pubChannel subChannel
    exact ⟨s', hs', hiff⟩

/-- The client called `x` listens to `a` and is switched to `p`. -/
def switchOne : List Op :=
  [.connect, .connect, .setName 2 "x", .smemsubscribe 2 ["a"], .smemswitch 1 "p" "x"]

theorem subscription_index_agrees_switchOne :
    ∃ s, (broker sampleEnv).run (initServer 100000) switchOne = some s ∧
      nodes s "a" = [] ∧ nodes s "p" = [2] ∧ Agree s := by
  have hrun : ((broker sampleEnv).run (initServer 100000) switchOne).map
      (fun s => (nodes s "a", nodes s "p")) = some ([], [2]) := by decide
  obtain ⟨s, hs, hnodes⟩ := Option.map_eq_some_iff.mp hrun
  simp only [Prod.mk.injEq] at hnodes
  have hreach : (broker sampleEnv).Reachable SwitchOk s :=
    .of_run (.init ⟨_, rfl⟩) (by decide) hs
  exact ⟨s, hs, hnodes.1, hnodes.2, (subscription_index_agrees hreach).1⟩

/-- The client called `x` listens to `a` and to `p` and is switched to `p`: it is in the list of
`p` twice.  When it disconnects one node stays, and the next publish writes to a freed client. -/
theorem subscription_index_disagrees :
    ∃ s s', (broker sampleEnv).run (initServer 100000)
        [.connect, .connect, .setName 2 "x", .smemsubscribe 2 ["a", "p"], .smemswitch 1 "p" "x"]
        = some s ∧
      ¬ Agree s ∧ step sampleEnv s (.disconnect 2) = some s' ∧
      smempubsubPublishMessage sampleEnv s' "p" "7" = .error (.useAfterFree 2) := by
  have hrun : ((broker sampleEnv).run (initServer 100000)
      [.connect, .connect, .setName 2 "x", .smemsubscribe 2 ["a", "p"],
        .smemswitch 1 "p" "x"]).map (fun s => ((nodes s "p").count 2,
          (step sampleEnv s (.disconnect 2)).map fun s' =>
            match smempubsubPublishMessage sampleEnv s' "p" "7" with
            | .error fault => some fault
            | .ok _ => none)) = some (2, some (some (.useAfterFree 2))) := by decide
  obtain ⟨s, hs, hall⟩ := Option.map_eq_some_iff.mp hrun
  simp only [Prod.mk.injEq] at hall
  obtain ⟨hcount, hgone⟩ := hall
  obtain ⟨s', hs', hfault⟩ := Option.map_eq_some_iff.mp hgone
  refine ⟨s, s', hs, ?_, hs', ?_⟩
  · intro hagree
    have htwice := hagree 2 "p"
    rw [hcount] at htwice
    split at htwice <;> cases htwice
  · split at hfault
    · rename_i fault hfault'
      rw [hfault', Option.some.inj hfault]
    · cases hfault

end SelfTestCode.Broker
