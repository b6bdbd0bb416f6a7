import SelfTestCode.Client.Async

/-!
# Callbacks and their replies

Which callback gets which reply on an asynchronous connection, in every run: whatever the
application calls, in callbacks or outside of them, and however the bytes of the replies are cut
into reads.

The application may send ordinary commands, and subscribe with one callback `k`.  Then the callbacks
of the ordinary commands are run in the order of the commands, each once: with the reply at the
same place in the stream, or without a reply when the connection is given up.  Every push that
follows is given to `k`.

`Sound` is the invariant.  The two loops, over the replies and over the callbacks that are left,
are handled by `processCallbacks_spec` and `redisAsyncFree_spec`, and `Meets` is what follows for
the callbacks and their replies.
-/

namespace SelfTestCode.Client.Async

open Network (requestText requestText_eq requests bulks bulkText strchr strchr_append
  strchr_numbered notMem_intChars length_line)

variable {κ : Type*}

/-! ## Printed commands -/

/-- A command of an application that subscribes with the callback `k` only, or not at all, and does
not monitor. -/
def Kind.Fits (k fn : Option κ) : Kind → Prop
  | .subscribe pvariant snames => pvariant = false ∧ snames ≠ [] ∧ fn = k ∧ k.isSome
  | .unsubscribe => True
  | .monitor => False
  | .ordinary => True

instance [DecidableEq κ] (k fn : Option κ) : ∀ kind : Kind, Decidable (kind.Fits k fn)
  | .subscribe _ _ => inferInstanceAs (Decidable (_ ∧ _ ∧ _ ∧ _))
  | .unsubscribe => isTrue trivial
  | .monitor => isFalse id
  | .ordinary => isTrue trivial

/-- A call of such an application. -/
def Call.Fits (k : Option κ) : Call κ → Prop
  | .command fn name args => (kindOf (requestText (name :: args))).Fits k fn
  | .disconnect => True
  | .free => True

instance [DecidableEq κ] (k : Option κ) : ∀ c : Call κ, Decidable (c.Fits k)
  | .command fn name args =>
    inferInstanceAs (Decidable ((kindOf (requestText (name :: args))).Fits k fn))
  | .disconnect => isTrue trivial
  | .free => isTrue trivial

/-- The application keeps to such calls in its callbacks. -/
def Env.Fits (env : Env κ) (k : Option κ) : Prop := ∀ log, ∀ c ∈ env.app log, c.Fits k

/-! ## The invariant -/

/-- Pushes are given to `k`, and what is given to another callback than those of the ordinary
commands is no push. -/
def Run.Fits (k : Option κ) (r : Run κ) : Prop :=
  match r.source with
  | .reply => True
  | .subscription => r.callback = k
  | .invalid => ∀ vs, r.reply ≠ some (.array vs)
  | .monitor => ∀ vs, r.reply ≠ some (.array vs)

/-- The invariant of a connection. -/
structure Sound (k : Option κ) (ac : Context κ) : Prop where
  /-- The callbacks of ordinary commands are run in order. -/
  queue : (ac.log.filter (·.source = .reply)).map Run.callback ++ ac.replies = ac.issued
  /-- As long as one of them waits or may be added, no other has been run. -/
  early : ac.flags.subscribed = false ∨ ac.replies ≠ [] → ∀ r ∈ ac.log, r.source = .reply
  order : ac.log.Pairwise fun r r' => r'.source = .reply → r.source = .reply
  runs : ∀ r ∈ ac.log, r.Fits k
  channels : ∀ e ∈ ac.channels.entries, e.2 = k
  some_channel : ac.flags.subscribed = true → ac.channels.entries ≠ [] ∧ k.isSome
  idle : ac.flags.subscribed = false → ac.channels.entries = [] ∧ ac.invalid = []
  patterns : ac.patterns.entries = []
  monitoring : ac.flags.monitoring = false
  printed : ac.sent ++ ac.obuf = requests (ac.accepted.map Prod.fst)
  /-- The ordinary commands are those before the first subscription. -/
  issued : ac.issued <+: ac.accepted.map Prod.snd
  paired : ac.flags.subscribed = false → ac.issued = ac.accepted.map Prod.snd

/-- Commands are refused. -/
def Context.closing (ac : Context κ) : Bool := ac.flags.disconnecting || ac.flags.freeing

/-- What calls in a callback do. -/
structure Calls (k : Option κ) (ac ac' : Context κ) : Prop where
  sound : Sound k ac'
  log : ac'.log = ac.log
  ibuf : ac'.ibuf = ac.ibuf
  arrived : ac'.arrived = ac.arrived
  freed : ac'.freed = ac.freed
  subscribed : ac.flags.subscribed = true → ac'.flags.subscribed = true
  closing : ac.closing = true →
    ac'.closing = true ∧ ac'.replies = ac.replies ∧ ac'.invalid = ac.invalid

section Calls

variable {env : Env κ} {k : Option κ} {ac ac₁ ac' : Context κ} {cb : Option κ}

lemma sound_init (k : Option κ) : Sound k (redisAsyncInitialize : Context κ) where
  queue := rfl
  early _ r hr := by cases hr
  order := List.Pairwise.nil
  runs r hr := by cases hr
  channels e he := by cases he
  some_channel h := absurd h (by simp [redisAsyncInitialize])
  idle _ := ⟨rfl, rfl⟩
  patterns := rfl
  monitoring := rfl
  printed := rfl
  issued := List.prefix_rfl
  paired _ := rfl

/-- The other flags and the bytes that were read are not about the callbacks. -/
lemma Sound.congr (h : Sound k ac) {f : Flags} {err freed : Bool}
    {obuf ibuf arrived sent : List Char} (hs : f.subscribed = ac.flags.subscribed)
    (hm : f.monitoring = ac.flags.monitoring) (hp : sent ++ obuf = ac.sent ++ ac.obuf) :
    Sound k { ac with
      flags := f, err := err, obuf := obuf, ibuf := ibuf, freed := freed, arrived := arrived,
      sent := sent } where
  queue := h.queue
  early hearly := h.early (by rwa [hs] at hearly)
  order := h.order
  runs := h.runs
  channels := h.channels
  some_channel hsub := h.some_channel (hs ▸ hsub)
  idle hsub := h.idle (hs ▸ hsub)
  patterns := h.patterns
  monitoring := hm.trans h.monitoring
  printed := hp.trans h.printed
  issued := h.issued
  paired hsub := h.paired (hs ▸ hsub)

lemma Sound.withFlags (h : Sound k ac) {f : Flags} (hs : f.subscribed = ac.flags.subscribed)
    (hm : f.monitoring = ac.flags.monitoring) : Sound k { ac with flags := f } :=
  h.congr hs hm rfl

lemma Sound.read (h : Sound k ac) (ibuf arrived : List Char) (err : Bool) :
    Sound k { ac with ibuf := ibuf, arrived := arrived, err := err } := h.congr rfl rfl rfl

lemma Calls.refl (h : Sound k ac) : Calls k ac ac :=
  ⟨h, rfl, rfl, rfl, rfl, id, fun hc => ⟨hc, rfl, rfl⟩⟩

lemma Calls.trans (h₁ : Calls k ac ac₁) (h₂ : Calls k ac₁ ac') : Calls k ac ac' where
  sound := h₂.sound
  log := h₂.log.trans h₁.log
  ibuf := h₂.ibuf.trans h₁.ibuf
  arrived := h₂.arrived.trans h₁.arrived
  freed := h₂.freed.trans h₁.freed
  subscribed hs := h₂.subscribed (h₁.subscribed hs)
  closing hc := by
    obtain ⟨hc₁, hr₁, hi₁⟩ := h₁.closing hc
    obtain ⟨hc₂, hr₂, hi₂⟩ := h₂.closing hc₁
    exact ⟨hc₂, hr₂.trans hr₁, hi₂.trans hi₁⟩

/-- Flags that ask for the connection to be closed. -/
lemma Sound.close (h : Sound k ac) {f : Flags} (hs : f.subscribed = ac.flags.subscribed)
    (hm : f.monitoring = ac.flags.monitoring)
    (hc : ac.closing = true → (f.disconnecting || f.freeing) = true) :
    Calls k ac { ac with flags := f } :=
  ⟨h.withFlags hs hm, rfl, rfl, rfl, rfl, fun hsub => hs.trans hsub,
    fun hclose => ⟨hc hclose, rfl, rfl⟩⟩

/-- Every channel gets the callback. -/
lemma replaceAll_entries (cb : Option κ) : ∀ (snames : List (List Char))
    (d : Dict (List Char) (Option κ)), (∀ e ∈ d.entries, e.2 = cb) →
      (∀ e ∈ (replaceAll d cb snames).entries, e.2 = cb) ∧
        (d.entries ≠ [] ∨ snames ≠ [] → (replaceAll d cb snames).entries ≠ [])
  | [], d, h => ⟨h, fun hne => hne.resolve_right (by simp)⟩
  | sname :: snames, d, h => by
    have hinsert : ∀ e ∈ (d.insert sname cb).entries, e.2 = cb := by
      intro e he
      rw [AList.entries_insert, List.mem_cons] at he
      rcases he with rfl | he
      · rfl
      · exact h e ((List.kerase_sublist _ _).subset he)
    obtain ⟨hall, hne⟩ := replaceAll_entries cb snames (d.insert sname cb) hinsert
    refine ⟨hall, fun _ => hne (.inl ?_)⟩
    rw [AList.entries_insert]
    simp

lemma requests_concat (cmds : List (List (List Char))) (argv : List (List Char)) :
    requests (cmds ++ [argv]) = requests cmds ++ requestText argv := by
  simp [requests]

/-- A command of a subscribed connection is printed behind the others. -/
lemma Sound.print (h : Sound k ac) (hsub : ac.flags.subscribed = true) (argv : List (List Char))
    (fn : Option κ) : Sound k { ac with
      obuf := ac.obuf ++ requestText argv, accepted := ac.accepted ++ [(argv, fn)] } where
  queue := h.queue
  early := h.early
  order := h.order
  runs := h.runs
  channels := h.channels
  some_channel := h.some_channel
  idle := h.idle
  patterns := h.patterns
  monitoring := h.monitoring
  printed := by
    dsimp only
    rw [← List.append_assoc, h.printed, List.map_append, List.map_singleton, requests_concat]
  issued := by
    dsimp only
    rw [List.map_append]
    exact h.issued.trans (List.prefix_append _ _)
  paired hs := absurd (hsub.symm.trans hs) (by simp)

lemma Sound.subscribe (h : Sound k ac) {snames : List (List Char)} (hne : snames ≠ [])
    (hk : k.isSome) : Sound k { ac with
      flags := { ac.flags with subscribed := true }
      channels := replaceAll ac.channels k snames } := by
  obtain ⟨hall, hsome⟩ := replaceAll_entries k snames ac.channels h.channels
  refine ⟨h.queue, fun hearly => ?_, h.order, h.runs, hall, fun _ => ⟨hsome (.inr hne), hk⟩,
    fun hsub => absurd hsub (by simp), h.patterns, h.monitoring, h.printed, h.issued,
    fun hsub => absurd hsub (by simp)⟩
  exact h.early (.inr (hearly.resolve_left (by simp)))

lemma Sound.ordinary (h : Sound k ac) (hsub : ac.flags.subscribed = false) (fn : Option κ)
    (argv : List (List Char)) : Sound k { ac.pushReplies fn with
      obuf := ac.obuf ++ requestText argv, accepted := ac.accepted ++ [(argv, fn)] } where
  queue := by
    dsimp only [Context.pushReplies]
    rw [← h.queue, List.append_assoc]
  early _ := h.early (.inl hsub)
  order := h.order
  runs := h.runs
  channels := h.channels
  some_channel := h.some_channel
  idle := h.idle
  patterns := h.patterns
  monitoring := h.monitoring
  printed := by
    dsimp only [Context.pushReplies]
    rw [← List.append_assoc, h.printed, List.map_append, List.map_singleton, requests_concat]
  issued := by
    dsimp only [Context.pushReplies]
    rw [h.paired hsub, List.map_append, List.map_singleton]
  paired _ := by
    dsimp only [Context.pushReplies]
    rw [h.paired hsub, List.map_append, List.map_singleton]

lemma Sound.late (h : Sound k ac) (hsub : ac.flags.subscribed = true)
    (invalid : List (Option κ)) : Sound k { ac with invalid := invalid } where
  queue := h.queue
  early := h.early
  order := h.order
  runs := h.runs
  channels := h.channels
  some_channel := h.some_channel
  idle hs := absurd (hsub.symm.trans hs) (by simp)
  patterns := h.patterns
  monitoring := h.monitoring
  printed := h.printed
  issued := h.issued
  paired := h.paired

lemma redisAsyncCommand_calls (h : Sound k ac) {fn : Option κ} {name : List Char}
    {args : List (List Char)} (hfits : (Call.command fn name args).Fits k) :
    Calls k ac (redisAsyncCommand ac fn (name :: args)) := by
  rw [redisAsyncCommand]
  split
  · exact Calls.refl h
  rename_i hopen
  have hclosing : ¬ ac.closing = true := hopen
  rw [Call.Fits] at hfits
  cases hkind : kindOf (requestText (name :: args)) with
  | subscribe pvariant snames =>
    rw [hkind] at hfits
    obtain ⟨rfl, hne, rfl, hk⟩ := hfits
    rw [Context.register, if_neg (by simp)]
    exact ⟨(h.subscribe hne hk).print rfl _ _, rfl, rfl, rfl, rfl, fun _ => rfl,
      fun hc => absurd hc hclosing⟩
  | unsubscribe =>
    rw [Context.register]
    cases hsub : ac.flags.subscribed with
    | true =>
      exact ⟨h.print hsub _ _, rfl, rfl, rfl, rfl, id, fun hc => absurd hc hclosing⟩
    | false => exact Calls.refl h
  | monitor =>
    rw [hkind] at hfits
    exact absurd hfits id
  | ordinary =>
    rw [Context.register]
    cases hsub : ac.flags.subscribed with
    | true =>
      rw [if_pos rfl]
      exact ⟨(h.late hsub (ac.invalid ++ [fn])).print hsub _ _, rfl, rfl, rfl, rfl, id,
        fun hc => absurd hc hclosing⟩
    | false =>
      rw [if_neg (by simp)]
      exact ⟨h.ordinary hsub fn _, rfl, rfl, rfl, rfl, id, fun hc => absurd hc hclosing⟩

lemma callInside_calls (h : Sound k ac) {c : Call κ} (hfits : c.Fits k) :
    Calls k ac (ac.callInside c) := by
  cases c with
  | command fn name args => exact redisAsyncCommand_calls h hfits
  | disconnect => exact h.close rfl rfl fun _ => rfl
  | free => exact h.close rfl rfl fun _ => by simp

lemma foldl_callInside_calls : ∀ {cs : List (Call κ)} {ac : Context κ}, Sound k ac →
    (∀ c ∈ cs, c.Fits k) → Calls k ac (cs.foldl Context.callInside ac)
  | [], _, h, _ => Calls.refl h
  | c :: cs, ac, h, hcs => by
    have hfirst := callInside_calls h (hcs c List.mem_cons_self)
    exact hfirst.trans (foldl_callInside_calls hfirst.sound fun c' hc' =>
      hcs c' (List.mem_cons_of_mem _ hc'))

/-- The context with the record of a callback. -/
def Context.record (ac : Context κ) (source : Source) (cb : Option κ)
    (reply : Option Resp.Value) : Context κ :=
  { ac with log := ac.log ++ [⟨source, cb, reply⟩] }

/-- A callback is run, once its record fits. -/
lemma redisRunCallback_calls (henv : env.Fits k) {source : Source} {reply : Option Resp.Value}
    (h : Sound k (ac.record source cb reply)) :
    Calls k (ac.record source cb reply) (redisRunCallback env ac source cb reply) := by
  unfold redisRunCallback
  cases cb with
  | none => exact Calls.refl h
  | some k' =>
    dsimp only
    have hin := h.close (f := { ac.flags with inCallback := true }) rfl rfl id
    have hcalls := foldl_callInside_calls hin.sound (henv (ac.log ++ [⟨source, some k', reply⟩]))
    exact (hin.trans hcalls).trans (hcalls.sound.close rfl rfl id)

/-- The first callback of the queue is run. -/
lemma Sound.serve (h : Sound k ac) {replies : List (Option κ)} (hr : ac.replies = cb :: replies)
    (reply : Option Resp.Value) :
    Sound k (({ ac with replies := replies } : Context κ).record .reply cb reply) := by
  have hall := h.early (.inr (by rw [hr]; exact List.cons_ne_nil _ _))
  refine ⟨?_, fun _ => ?_, ?_, ?_, h.channels, h.some_channel, h.idle, h.patterns, h.monitoring,
    h.printed, h.issued, h.paired⟩
  · have hqueue := h.queue
    rw [hr] at hqueue
    simp [Context.record, ← hqueue]
  · rintro r hmem
    rcases List.mem_append.mp hmem with hmem | hmem
    · exact hall r hmem
    · rw [List.mem_singleton.mp hmem]
  · exact List.pairwise_append.mpr ⟨h.order, List.pairwise_singleton _ _,
      fun r hmem _ _ _ => hall r hmem⟩
  · intro r hmem
    rcases List.mem_append.mp hmem with hmem | hmem
    · exact h.runs r hmem
    · rw [List.mem_singleton.mp hmem]
      trivial

/-- Another callback is run on a subscribed connection, when the queue is empty. -/
lemma Sound.push (h : Sound k ac) (hsub : ac.flags.subscribed = true) (hr : ac.replies = [])
    {source : Source} (hsource : source ≠ .reply) {reply : Option Resp.Value}
    (hfits : Run.Fits k ⟨source, cb, reply⟩) : Sound k (ac.record source cb reply) := by
  refine ⟨?_, fun hearly => ?_, ?_, ?_, h.channels, h.some_channel, h.idle, h.patterns,
    h.monitoring, h.printed, h.issued, h.paired⟩
  · simp [Context.record, hsource, h.queue]
  · exact hearly.elim (fun hs => absurd (hsub.symm.trans hs) (by simp)) fun hne => absurd hr hne
  · refine List.pairwise_append.mpr ⟨h.order, List.pairwise_singleton _ _, ?_⟩
    intro r _ r' hmem hreply
    rw [List.mem_singleton.mp hmem] at hreply
    exact absurd hreply hsource
  · intro r hmem
    rcases List.mem_append.mp hmem with hmem | hmem
    · exact h.runs r hmem
    · rw [List.mem_singleton.mp hmem]
      exact hfits

end Calls

/-! ## The callbacks that are left -/

/-- Callbacks are run without a reply, on a connection that takes no more commands. -/
structure Flushes (k : Option κ) (ac ac' : Context κ) : Prop where
  sound : Sound k ac'
  closing : ac'.closing = true
  log : ∃ flushed, ac'.log = ac.log ++ flushed ∧ ∀ r ∈ flushed, r.reply = none
  replies : ac.replies = [] → ac'.replies = []
  invalid : ac.invalid = [] → ac'.invalid = []
  subscribed : ac.flags.subscribed = true → ac'.flags.subscribed = true

section Flushes

variable {env : Env κ} {k : Option κ} {ac ac₁ ac' : Context κ} {cb : Option κ}

lemma Flushes.refl (h : Sound k ac) (hc : ac.closing = true) : Flushes k ac ac :=
  ⟨h, hc, ⟨[], (List.append_nil _).symm, fun _ hr => absurd hr List.not_mem_nil⟩, id, id, id⟩

lemma Flushes.trans (h₁ : Flushes k ac ac₁) (h₂ : Flushes k ac₁ ac') : Flushes k ac ac' where
  sound := h₂.sound
  closing := h₂.closing
  log := by
    obtain ⟨flushed₁, hlog₁, hnone₁⟩ := h₁.log
    obtain ⟨flushed₂, hlog₂, hnone₂⟩ := h₂.log
    refine ⟨flushed₁ ++ flushed₂, by rw [hlog₂, hlog₁, List.append_assoc], fun r hr => ?_⟩
    exact (List.mem_append.mp hr).elim (hnone₁ r) (hnone₂ r)
  replies hr := h₂.replies (h₁.replies hr)
  invalid hi := h₂.invalid (h₁.invalid hi)
  subscribed hs := h₂.subscribed (h₁.subscribed hs)

/-- One callback, which has been taken from where it waited. -/
lemma redisRunCallback_flushes (henv : env.Fits k) {source : Source}
    (h : Sound k (ac.record source cb none)) (hc : ac.closing = true) :
    Flushes k ac (redisRunCallback env ac source cb none) := by
  have hcalls := redisRunCallback_calls henv h
  obtain ⟨hclosing, hreplies, hinvalid⟩ := hcalls.closing hc
  exact ⟨hcalls.sound, hclosing,
    ⟨[⟨source, cb, none⟩], hcalls.log, fun r hr => by rw [List.mem_singleton.mp hr]⟩,
    fun hr => hreplies.trans hr, fun hi => hinvalid.trans hi, hcalls.subscribed⟩

lemma flushReplies_spec (henv : env.Fits k) : ∀ {n : ℕ} {ac : Context κ}, Sound k ac →
    ac.closing = true → ac.replies.length ≤ n →
      Flushes k ac (flushReplies env n ac) ∧ (flushReplies env n ac).replies = []
  | 0, ac, h, hc, hn => ⟨Flushes.refl h hc, List.eq_nil_of_length_eq_zero (Nat.le_zero.mp hn)⟩
  | n + 1, ac, h, hc, hn => by
    rw [flushReplies]
    split
    · exact ⟨Flushes.refl h hc, ‹_›⟩
    · rename_i cb replies hr
      have hserve := h.serve hr none
      have hfirst := redisRunCallback_flushes henv hserve hc
      have hleft := ((redisRunCallback_calls henv hserve).closing hc).2.1
      have hlen : (redisRunCallback env { ac with replies := replies } .reply cb
          none).replies.length ≤ n := by
        rw [hleft]
        rw [hr, List.length_cons] at hn
        exact Nat.le_of_succ_le_succ hn
      obtain ⟨hrest, hnil⟩ := flushReplies_spec henv hfirst.sound hfirst.closing hlen
      exact ⟨⟨hrest.sound, hrest.closing, (hfirst.trans hrest).log, fun _ => hnil,
        fun hi => hrest.invalid (hfirst.invalid hi),
        fun hs => hrest.subscribed (hfirst.subscribed hs)⟩, hnil⟩

/-- A command that waits here was sent to a subscribed connection. -/
lemma Sound.subscribed_of_invalid (h : Sound k ac) (hi : ac.invalid ≠ []) :
    ac.flags.subscribed = true := by
  by_contra hsub
  exact hi (h.idle (Bool.eq_false_of_not_eq_true hsub)).2

lemma flushInvalid_spec (henv : env.Fits k) : ∀ {n : ℕ} {ac : Context κ}, Sound k ac →
    ac.closing = true → ac.replies = [] → ac.invalid.length ≤ n →
      Flushes k ac (flushInvalid env n ac) ∧ (flushInvalid env n ac).invalid = []
  | 0, ac, h, hc, _, hn => ⟨Flushes.refl h hc, List.eq_nil_of_length_eq_zero (Nat.le_zero.mp hn)⟩
  | n + 1, ac, h, hc, hr, hn => by
    rw [flushInvalid]
    split
    · exact ⟨Flushes.refl h hc, ‹_›⟩
    · rename_i cb invalid hi
      have hsub : ac.flags.subscribed = true :=
        h.subscribed_of_invalid (by rw [hi]; exact List.cons_ne_nil _ _)
      have hpush : Sound k (({ ac with invalid := invalid } : Context κ).record .invalid cb none) :=
        (h.late hsub invalid).push hsub hr (by decide) fun _ hnone => by cases hnone
      have hfirst := redisRunCallback_flushes henv hpush hc
      have hleft := ((redisRunCallback_calls henv hpush).closing hc).2.2
      have hlen : (redisRunCallback env { ac with invalid := invalid } .invalid cb
          none).invalid.length ≤ n := by
        rw [hleft]
        rw [hi, List.length_cons] at hn
        exact Nat.le_of_succ_le_succ hn
      obtain ⟨hrest, hnil⟩ := flushInvalid_spec henv hfirst.sound hfirst.closing (hfirst.replies hr)
        hlen
      exact ⟨⟨hrest.sound, hrest.closing, (hfirst.trans hrest).log,
        fun _ => hrest.replies (hfirst.replies hr), fun _ => hnil,
        fun _ => hrest.subscribed (hfirst.subscribed hsub)⟩, hnil⟩

lemma Sound.subscribed_of_channels (h : Sound k ac) (hne : ac.channels.entries ≠ []) :
    ac.flags.subscribed = true := by
  by_contra hsub
  exact hne (h.idle (Bool.eq_false_of_not_eq_true hsub)).1

lemma flushEntries_spec (henv : env.Fits k) :
    ∀ {entries : List (Sigma fun _ : List Char => Option κ)} {ac : Context κ}, Sound k ac →
      ac.closing = true → ac.replies = [] → (∀ e ∈ entries, e.2 = k) →
      (entries ≠ [] → ac.flags.subscribed = true) → Flushes k ac (flushEntries env entries ac)
  | [], ac, h, hc, _, _, _ => Flushes.refl h hc
  | e :: entries, ac, h, hc, hr, hk, hsub => by
    have hs := hsub (List.cons_ne_nil _ _)
    have hpush : Sound k (ac.record .subscription e.2 none) :=
      h.push hs hr (by decide) (hk e List.mem_cons_self)
    have hfirst := redisRunCallback_flushes henv hpush hc
    exact hfirst.trans (flushEntries_spec henv hfirst.sound hfirst.closing (hfirst.replies hr)
      (fun e' he' => hk e' (List.mem_cons_of_mem _ he')) fun _ => hfirst.subscribed hs)

/-- The connection has been given up: every callback that was left has been run without a reply. -/
structure GivenUp (k : Option κ) (log : List (Run κ)) (ac : Context κ) : Prop where
  sound : Sound k ac
  freed : ac.freed = true
  replies : ac.replies = []
  invalid : ac.invalid = []
  log : ∃ flushed, ac.log = log ++ flushed ∧ ∀ r ∈ flushed, r.reply = none

lemma redisAsyncFree_spec (henv : env.Fits k) (h : Sound k ac) (hc : ac.closing = true) :
    GivenUp k ac.log (redisAsyncFree env ac) := by
  let ac₁ := flushReplies env ac.replies.length ac
  let ac₂ := flushInvalid env ac₁.invalid.length ac₁
  let ac₃ := flushEntries env ac₂.channels.entries ac₂
  obtain ⟨hf₁, hr₁⟩ : Flushes k ac ac₁ ∧ ac₁.replies = [] := flushReplies_spec henv h hc le_rfl
  obtain ⟨hf₂, hi₂⟩ : Flushes k ac₁ ac₂ ∧ ac₂.invalid = [] :=
    flushInvalid_spec henv hf₁.sound hf₁.closing hr₁ le_rfl
  have hr₂ : ac₂.replies = [] := hf₂.replies hr₁
  have hf₃ : Flushes k ac₂ ac₃ := flushEntries_spec henv hf₂.sound hf₂.closing hr₂
    hf₂.sound.channels hf₂.sound.subscribed_of_channels
  -- there are no patterns
  have hnone : flushEntries env ac₃.patterns.entries ac₃ = ac₃ := by
    rw [hf₃.sound.patterns]
    rfl
  have hfree : redisAsyncFree env ac = { ac₃ with freed := true } :=
    congrArg (fun ac : Context κ => { ac with freed := true }) hnone
  rw [hfree]
  exact ⟨hf₃.sound.congr rfl rfl rfl, rfl, hf₃.replies hr₂, hf₃.invalid hi₂,
    ((hf₁.trans hf₂).trans hf₃).log⟩

/-- A connection is closed because of an error, or when commands are no longer accepted. -/
lemma redisAsyncDisconnect_spec (henv : env.Fits k) (h : Sound k ac)
    (hc : ac.err = true ∨ ac.closing = true) (hd : redisAsyncDisconnect env ac = some ac') :
    GivenUp k ac.log ac' := by
  rw [redisAsyncDisconnect] at hd
  split at hd
  · obtain rfl := Option.some.inj hd
    exact redisAsyncFree_spec henv
      (h.withFlags (f := { ac.flags with disconnecting := true }) rfl rfl) rfl
  · rename_i herr
    split at hd
    · obtain rfl := Option.some.inj hd
      exact redisAsyncFree_spec henv h (hc.resolve_left herr)
    · cases hd

end Flushes

/-! ## The replies that arrive -/

/-- The first reply of a text, if it is complete. -/
def firstReply (text : List Char) : GetReply :=
  match Resp.resp.read text with
  | none => .incomplete
  | some (v, rest) => .reply v rest

/-- `redisGetReply` reads the replies `vs`, each as soon as it is complete. -/
def Env.Reads (env : Env κ) (vs : List Resp.Value) : Prop :=
  ∀ (later : List Resp.Value) (text : List Char), later <:+ vs →
    text <+: Resp.resp.encodeAll later → env.redisGetReply text = firstReply text

/-- Not a message about a pattern, and not the confirmation of an unsubscription. -/
def Plain : Resp.Value → Prop
  | .array (.bulk stype :: _) =>
    stype.head?.map Char.toLower ≠ some 'p' ∧ Network.strcaseeq stype "unsubscribe" = false
  | _ => True

/-- The replies that were given to callbacks. -/
def valuesOf (log : List (Run κ)) : List Resp.Value := log.filterMap Run.reply

lemma valuesOf_append (log log' : List (Run κ)) :
    valuesOf (log ++ log') = valuesOf log ++ valuesOf log' := by
  simp [valuesOf]

/-- A connection that has given the replies `vs` to its callbacks as far as it has read them. -/
structure Serving (k : Option κ) (vs : List Resp.Value) (ac : Context κ) : Prop where
  sound : Sound k ac
  answered : ∀ r ∈ ac.log, r.reply.isSome
  seen : ac.arrived = Resp.resp.encodeAll (valuesOf ac.log) ++ ac.ibuf
  arrived : ac.arrived <+: Resp.resp.encodeAll vs
  given : valuesOf ac.log <+: vs
  held : ac.freed = false

/-- A connection that has been given up, after some of the replies `vs`. -/
structure Closed (k : Option κ) (vs : List Resp.Value) (ac : Context κ) : Prop where
  sound : Sound k ac
  freed : ac.freed = true
  replies : ac.replies = []
  invalid : ac.invalid = []
  log : ∃ given flushed, ac.log = given ++ flushed ∧ (∀ r ∈ given, r.reply.isSome) ∧
    (∀ r ∈ flushed, r.reply = none) ∧ valuesOf given <+: vs

section Serving

variable {env : Env κ} {k : Option κ} {vs : List Resp.Value} {ac ac₁ ac' : Context κ}
  {cb cb' : Option κ} {source : Source} {v : Resp.Value}

lemma Serving.closed (h : Serving k vs ac) (hg : GivenUp k ac.log ac') : Closed k vs ac' := by
  obtain ⟨flushed, hlog, hnone⟩ := hg.log
  exact ⟨hg.sound, hg.freed, hg.replies, hg.invalid, ac.log, flushed, hlog, h.answered, hnone,
    h.given⟩

/-- The callback of a push. -/
lemma redisGetSubscribeCallback_spec (h : Sound k ac) (hsub : ac.flags.subscribed = true)
    (hv : Plain v) (hfind : redisGetSubscribeCallback ac cb v = some (source, cb', ac')) :
    source ≠ .reply ∧ Run.Fits k ⟨source, cb', some v⟩ ∧
      ∃ invalid, ac' = { ac with invalid := invalid } := by
  unfold redisGetSubscribeCallback at hfind
  split at hfind
  · rename_i stype sname rest
    obtain ⟨hp, hun⟩ := hv
    simp only [hp, Bool.false_eq_true, if_false, hun] at hfind
    split at hfind
    · exact absurd ‹_› (h.some_channel hsub).1
    · rename_i e entries hentries
      obtain ⟨rfl, rfl, rfl⟩ : Source.subscription = source ∧ e.2 = cb' ∧ ac = ac' := by
        simpa using hfind
      exact ⟨by decide, h.channels e (by rw [hentries]; exact List.mem_cons_self), ac.invalid, rfl⟩
  · cases hfind
  · rename_i hno
    have hfits : ∀ vs, some v ≠ some (.array vs) := fun vs hv => hno vs (Option.some.inj hv)
    split at hfind
    · obtain ⟨rfl, rfl, rfl⟩ : Source.invalid = source ∧ cb = cb' ∧ ac = ac' := by
        simpa using hfind
      exact ⟨by decide, hfits, ac.invalid, rfl⟩
    · rename_i cb₁ invalid hi
      obtain ⟨rfl, rfl, rfl⟩ : Source.invalid = source ∧ cb₁ = cb' ∧
          { ac with invalid := invalid } = ac' := by
        simpa using hfind
      exact ⟨by decide, hfits, invalid, rfl⟩

/-- The callback that is found may be run with the reply. -/
lemma findCallback_spec (h : Sound k ac) (hv : k.isSome → Plain v)
    (hfind : findCallback ac cb v = some (source, cb', ac')) :
    Sound k (ac'.record source cb' (some v)) ∧
      ∃ replies invalid, ac' = { ac with replies := replies, invalid := invalid } := by
  rw [findCallback] at hfind
  split at hfind
  · rename_i cb₁ replies hr
    obtain ⟨rfl, rfl, rfl⟩ : Source.reply = source ∧ cb₁ = cb' ∧
        { ac with replies := replies } = ac' := by
      simpa using hfind
    exact ⟨h.serve hr _, replies, ac.invalid, rfl⟩
  · rename_i hr
    split at hfind
    · rename_i hsub
      obtain ⟨hsource, hk, invalid, rfl⟩ :=
        redisGetSubscribeCallback_spec h hsub (hv (h.some_channel hsub).2) hfind
      exact ⟨(h.late hsub invalid).push hsub hr hsource hk, ac.replies, invalid, rfl⟩
    · rw [h.monitoring] at hfind
      cases hfind

/-- The next reply is taken off the buffer and given to its callback. -/
lemma Serving.answer (henv : env.Fits k) (h : Serving k vs ac) {later : List Resp.Value}
    (hlater : valuesOf ac.log ++ v :: later = vs) (hv : k.isSome → Plain v) {rest : List Char}
    (htext : ac.ibuf = v.encode ++ rest)
    (hfind : findCallback { ac with ibuf := rest } cb v = some (source, cb', ac₁)) :
    Serving k vs (redisRunCallback env ac₁ source cb' (some v)) ∧
      (redisRunCallback env ac₁ source cb' (some v)).ibuf = rest := by
  obtain ⟨hsound, replies, invalid, rfl⟩ := findCallback_spec (h.sound.read rest _ _) hv hfind
  have hcalls := redisRunCallback_calls henv hsound
  have hlog : valuesOf (ac.log ++ [⟨source, cb', some v⟩]) = valuesOf ac.log ++ [v] := by
    rw [valuesOf_append]
    rfl
  refine ⟨⟨hcalls.sound, ?_, ?_, hcalls.arrived.symm ▸ h.arrived, ?_, hcalls.freed.trans h.held⟩,
    hcalls.ibuf⟩
  · intro r hr
    rw [hcalls.log] at hr
    rcases List.mem_append.mp hr with hr | hr
    · exact h.answered r hr
    · rw [List.mem_singleton.mp hr]
      rfl
  · rw [hcalls.arrived, hcalls.log, hcalls.ibuf]
    simp only [Context.record]
    rw [h.seen, htext, hlog]
    simp
  · rw [hcalls.log]
    simp only [Context.record]
    rw [hlog, ← hlater]
    exact ⟨later, by simp⟩

/-- The loop over the replies gives all that are complete to their callbacks, or the connection is
given up on the way. -/
theorem processCallbacks_spec (henv : env.Fits k) (hreads : env.Reads vs)
    (hvs : ∀ v ∈ vs, Resp.resp.Valid v) (hplain : k.isSome → ∀ v ∈ vs, Plain v) :
    ∀ {fuel : ℕ} {cb : Option κ} {ac ac' : Context κ}, Serving k vs ac → ac.ibuf.length < fuel →
      processCallbacks env fuel cb ac = some ac' →
        (Serving k vs ac' ∧ Resp.resp.read ac'.ibuf = none) ∨ Closed k vs ac'
  | 0, _, _, _, _, hlen, _ => absurd hlen (Nat.not_lt_zero _)
  | fuel + 1, cb, ac, ac', h, hlen, hd => by
    obtain ⟨later, hlater⟩ := h.given
    have hvalid : ∀ v ∈ later, Resp.resp.Valid v := fun v hv =>
      hvs v (hlater ▸ List.mem_append_right _ hv)
    have hpre : ac.ibuf <+: Resp.resp.encodeAll later := by
      have harrived := h.arrived
      rw [h.seen, ← hlater, Framing.encodeAll_append] at harrived
      exact (List.prefix_append_right_inj _).mp harrived
    rw [processCallbacks, hreads later ac.ibuf ⟨_, hlater⟩ hpre, firstReply] at hd
    cases hread : Resp.resp.read ac.ibuf with
    | none =>
      simp only [hread, h.sound.monitoring, Bool.false_eq_true, if_false] at hd
      split at hd
      · rename_i hclose
        refine .inr (h.closed (redisAsyncDisconnect_spec henv h.sound (.inr ?_) hd))
        rw [Context.closing, hclose.1, Bool.true_or]
      · obtain rfl := Option.some.inj hd
        exact .inl ⟨h, hread⟩
    | some found =>
      obtain ⟨v, rest⟩ := found
      obtain ⟨later, rfl, htext, -⟩ := Framing.read_of_prefix hvalid hpre hread
      have hshorter := Resp.resp.length_lt_of_read hread
      simp only [hread] at hd
      split at hd
      · have hup := redisAsyncDisconnect_spec henv (h.sound.read rest ac.arrived true) (.inl rfl) hd
        exact .inr (h.closed hup)
      · split at hd
        · cases hd
        · rename_i source cb' ac₁ hfind
          obtain ⟨hnext, hibuf⟩ := h.answer henv hlater
            (fun hk => hplain hk v (hlater ▸ by simp)) htext hfind
          split at hd
          · rename_i hfree
            obtain rfl := Option.some.inj hd
            refine .inr (hnext.closed (redisAsyncFree_spec henv hnext.sound ?_))
            rw [Context.closing, hfree.2, Bool.or_true]
          · refine processCallbacks_spec henv hreads hvs hplain hnext ?_ hd
            rw [hibuf]
            omega

end Serving

/-! ## Runs -/

/-- What a result about a connection assumes of an event: calls fit, and what is read comes from the
bytes `sent` by the server. -/
def Event.Fits (k : Option κ) (sent : List Char) (ac : Context κ) : Event κ → Prop
  | .call c => c.Fits k
  | .readable _ (some data) => ac.arrived ++ data <+: sent
  | .readable _ none => True
  | .writable _ _ => True

instance [DecidableEq κ] (k : Option κ) (sent : List Char) (ac : Context κ) :
    ∀ e : Event κ, Decidable (e.Fits k sent ac)
  | .call c => inferInstanceAs (Decidable (c.Fits k))
  | .readable _ (some data) => inferInstanceAs (Decidable (ac.arrived ++ data <+: sent))
  | .readable _ none => isTrue trivial
  | .writable _ _ => isTrue trivial

/-- The invariant between events. -/
def Served (k : Option κ) (vs : List Resp.Value) (ac : Context κ) : Prop :=
  (Serving k vs ac ∧ Resp.resp.read ac.ibuf = none) ∨ Closed k vs ac

section Runs

variable {env : Env κ} {k : Option κ} {vs : List Resp.Value} {ac ac' : Context κ}

lemma served_init (k : Option κ) (vs : List Resp.Value) :
    Served k vs (redisAsyncInitialize : Context κ) :=
  .inl ⟨⟨sound_init k, fun _ hr => absurd hr List.not_mem_nil, rfl, List.nil_prefix,
    List.nil_prefix, rfl⟩, Framing.read_nil⟩

/-- An event, once the connection is made. -/
lemma handleConnect_served (henv : env.Fits k) (h : Serving k vs ac)
    (hread : Resp.resp.read ac.ibuf = none) {socket : Socket}
    {f : Context κ → Option (Context κ)}
    (hf : ∀ flags : Flags, flags.subscribed = ac.flags.subscribed →
      flags.monitoring = ac.flags.monitoring →
        f { ac with flags := flags } = some ac' → Served k vs ac')
    (hd : handleConnect env ac socket f = some ac') : Served k vs ac' := by
  unfold handleConnect at hd
  split at hd
  · exact hf ac.flags rfl rfl hd
  · cases socket with
    | connected => exact hf { ac.flags with connected := true } rfl rfl hd
    | inProgress =>
      obtain rfl := Option.some.inj hd
      exact .inl ⟨h, hread⟩
    | failed =>
      have hup :=
        redisAsyncDisconnect_spec henv (h.sound.read ac.ibuf ac.arrived true) (.inl rfl) hd
      exact .inr (h.closed hup)

lemma callOutside_served (henv : env.Fits k) (h : Serving k vs ac)
    (hread : Resp.resp.read ac.ibuf = none) {c : Call κ} (hfits : c.Fits k)
    (hd : ac.callOutside env c = some ac') : Served k vs ac' := by
  cases c with
  | command fn name args =>
    obtain rfl := Option.some.inj hd
    have hcalls := redisAsyncCommand_calls h.sound hfits
    refine .inl ⟨⟨hcalls.sound, ?_, ?_, ?_, ?_, hcalls.freed.trans h.held⟩, ?_⟩
    · rw [hcalls.log]
      exact h.answered
    · rw [hcalls.arrived, hcalls.log, hcalls.ibuf]
      exact h.seen
    · rw [hcalls.arrived]
      exact h.arrived
    · rw [hcalls.log]
      exact h.given
    · rw [hcalls.ibuf]
      exact hread
  | disconnect =>
    rw [Context.callOutside] at hd
    dsimp only at hd
    have hclose := h.sound.withFlags (f := { ac.flags with disconnecting := true }) rfl rfl
    split at hd
    · have hup := redisAsyncDisconnect_spec henv hclose (.inr rfl) hd
      exact .inr (h.closed hup)
    · obtain rfl := Option.some.inj hd
      exact .inl ⟨⟨hclose, h.answered, h.seen, h.arrived, h.given, h.held⟩, hread⟩
  | free =>
    obtain rfl := Option.some.inj hd
    have hclose := h.sound.withFlags (f := { ac.flags with freeing := true }) rfl rfl
    have hup := redisAsyncFree_spec henv hclose (by rw [Context.closing, Bool.or_true])
    exact .inr (h.closed hup)

lemma step_served (henv : env.Fits k) (hreads : env.Reads vs) (hvs : ∀ v ∈ vs, Resp.resp.Valid v)
    (hplain : k.isSome → ∀ v ∈ vs, Plain v) (h : Served k vs ac) {e : Event κ}
    (hfits : e.Fits k (Resp.resp.encodeAll vs) ac) (hd : ac.step env e = some ac') :
    Served k vs ac' := by
  unfold Context.step at hd
  split at hd
  · obtain rfl := Option.some.inj hd
    exact h
  rename_i hheld
  obtain ⟨h, hread⟩ := h.resolve_right fun hclosed => hheld hclosed.freed
  cases e with
  | call c => exact callOutside_served henv h hread hfits hd
  | readable socket data =>
    refine handleConnect_served henv h hread (fun flags hs hm hd => ?_) hd
    have hflags := h.sound.withFlags hs hm
    cases data with
    | none =>
      have hup := redisAsyncDisconnect_spec henv (hflags.read ac.ibuf ac.arrived true) (.inl rfl) hd
      exact .inr (h.closed hup)
    | some data =>
      have hread : Serving k vs { ac with
          flags := flags, ibuf := ac.ibuf ++ data, arrived := ac.arrived ++ data } := by
        refine ⟨hflags.read _ _ ac.err, h.answered, ?_, hfits, h.given, h.held⟩
        dsimp only
        rw [h.seen, List.append_assoc]
      exact processCallbacks_spec henv hreads hvs hplain hread (Nat.lt_succ_self _) hd
  | writable socket n =>
    refine handleConnect_served henv h hread (fun flags hs hm hd => ?_) hd
    have hflags := h.sound.withFlags hs hm
    cases n with
    | none =>
      have hup := redisAsyncDisconnect_spec henv (hflags.read ac.ibuf ac.arrived true) (.inl rfl) hd
      exact .inr (h.closed hup)
    | some n =>
      obtain rfl := Option.some.inj hd
      have hsent : (ac.sent ++ ac.obuf.take n) ++ ac.obuf.drop n = ac.sent ++ ac.obuf := by
        rw [List.append_assoc, List.take_append_drop]
      exact .inl ⟨⟨h.sound.congr hs hm hsent, h.answered, h.seen, h.arrived, h.given, h.held⟩, hread⟩

lemma Served.of_reachable (henv : env.Fits k) (hreads : env.Reads vs)
    (hvs : ∀ v ∈ vs, Resp.resp.Valid v) (hplain : k.isSome → ∀ v ∈ vs, Plain v)
    (h : (connection env).Reachable (fun ac e => e.Fits k (Resp.resp.encodeAll vs) ac) ac) :
    Served k vs ac := by
  refine h.invariant ?_ fun ac e ac' _ hI hfits hd =>
    step_served henv hreads hvs hplain hI hfits hd
  rintro ac rfl
  exact served_init k vs

/-- A connection that has not been given up is being served. -/
lemma Served.serving (h : Served k vs ac) (hopen : ac.freed = false) :
    Serving k vs ac ∧ Resp.resp.read ac.ibuf = none :=
  h.resolve_right fun hclosed => absurd (hopen.symm.trans hclosed.freed) (by simp)

end Runs

/-! ## A connection to try it with -/

section Replies

variable {env : Env κ} {k : Option κ} {vs : List Resp.Value} {ac : Context κ}

/-- A list is split where a property that only a front can have ends. -/
lemma exists_append_of_pairwise {α : Type*} {p : α → Prop} : ∀ {l : List α},
    (l.Pairwise fun a b => p b → p a) → ∃ l₁ l₂, l = l₁ ++ l₂ ∧ (∀ a ∈ l₁, p a) ∧ ∀ a ∈ l₂, ¬ p a
  | [], _ => ⟨[], [], rfl, fun _ ha => absurd ha List.not_mem_nil,
      fun _ ha => absurd ha List.not_mem_nil⟩
  | a :: l, h => by
    obtain ⟨hhead, htail⟩ := List.pairwise_cons.mp h
    by_cases ha : p a
    · obtain ⟨l₁, l₂, rfl, h₁, h₂⟩ := exists_append_of_pairwise htail
      exact ⟨a :: l₁, l₂, rfl, fun b hb => (List.mem_cons.mp hb).elim (· ▸ ha) (h₁ b), h₂⟩
    · refine ⟨[], a :: l, rfl, fun _ hb => absurd hb List.not_mem_nil, fun b hb => ?_⟩
      rcases List.mem_cons.mp hb with rfl | hb
      · exact ha
      · exact fun hpb => ha (hhead b hb hpb)

/-- The callbacks of the ordinary commands were run before all others. -/
lemma Sound.split (h : Sound k ac) : ∃ served others, ac.log = served ++ others ∧
    (∀ r ∈ served, r.source = .reply) ∧ (∀ r ∈ others, r.source ≠ .reply) ∧
      served.map Run.callback ++ ac.replies = ac.issued ∧ (ac.replies ≠ [] → others = []) := by
  obtain ⟨served, others, hlog, hserved, hothers⟩ := exists_append_of_pairwise h.order
  refine ⟨served, others, hlog, hserved, hothers, ?_, fun hne => ?_⟩
  · have hqueue := h.queue
    rw [hlog, List.filter_append, List.filter_eq_self.mpr (by simpa using hserved),
      List.filter_eq_nil_iff.mpr (by simpa using hothers), List.append_nil] at hqueue
    exact hqueue
  · refine List.eq_nil_iff_forall_not_mem.mpr fun r hr => hothers r hr ?_
    exact h.early (.inr hne) r (hlog ▸ List.mem_append_right _ hr)

lemma Sound.answer_of (h : Sound k ac) {i : ℕ} {r : Run κ} {cb : Option κ}
    (hr : ac.log[i]? = some r) (hcb : ac.issued[i]? = some cb) :
    r.source = .reply ∧ r.callback = cb := by
  obtain ⟨served, others, hlog, hserved, -, hissued, hothers⟩ := h.split
  by_cases hi : i < served.length
  · rw [hlog, List.getElem?_append_left hi] at hr
    rw [← hissued, List.getElem?_append_left (by simpa using hi), List.getElem?_map, hr] at hcb
    exact ⟨hserved r (List.mem_of_getElem? hr), Option.some.inj hcb⟩
  · -- a callback would still wait, but then no other has been run
    have hlt := (List.getElem?_eq_some_iff.mp hcb).1
    have hwait : ac.replies ≠ [] := by
      intro hnil
      rw [← hissued, hnil, List.append_nil, List.length_map] at hlt
      exact hi hlt
    rw [hlog, hothers hwait, List.append_nil] at hr
    exact absurd (List.getElem?_eq_some_iff.mp hr).1 hi

/-- Behind the replies of the ordinary commands every array is a push. -/
lemma Sound.push_of (h : Sound k ac) {i : ℕ} {r : Run κ} (hi : ac.issued.length ≤ i)
    (hr : ac.log[i]? = some r) {vs : List Resp.Value} (hvs : r.reply = some (.array vs)) :
    r.callback = k := by
  obtain ⟨served, others, hlog, -, hothers, hissued, -⟩ := h.split
  have hlen : served.length ≤ i := by
    rw [← hissued, List.length_append, List.length_map] at hi
    omega
  rw [hlog, List.getElem?_append_right hlen] at hr
  have hmem := List.mem_of_getElem? hr
  have hfits := h.runs r (hlog ▸ List.mem_append_right _ hmem)
  have hsource := hothers r hmem
  rw [Run.Fits] at hfits
  split at hfits
  · exact absurd ‹_› hsource
  · exact hfits
  · exact absurd hvs (hfits vs)
  · exact absurd hvs (hfits vs)

lemma getElem?_valuesOf : ∀ {log : List (Run κ)} {i : ℕ} {r : Run κ} {v : Resp.Value},
    (∀ r ∈ log, r.reply.isSome) → log[i]? = some r → r.reply = some v →
      (valuesOf log)[i]? = some v
  | [], i, r, v, _, hr, _ => by simp at hr
  | r₀ :: log, i, r, v, hall, hr, hv => by
    obtain ⟨v₀, hv₀⟩ := Option.isSome_iff_exists.mp (hall r₀ List.mem_cons_self)
    have hcons : valuesOf (r₀ :: log) = v₀ :: valuesOf log := List.filterMap_cons_some hv₀
    rw [hcons]
    cases i with
    | zero =>
      obtain rfl : r₀ = r := by simpa using hr
      rw [hv₀] at hv
      simpa using hv
    | succ i =>
      rw [List.getElem?_cons_succ] at hr ⊢
      exact getElem?_valuesOf (fun r hr => hall r (List.mem_cons_of_mem _ hr)) hr hv

/-- The replies were given in their order. -/
lemma Served.reply_of (h : Served k vs ac) {i : ℕ} {r : Run κ} {v : Resp.Value}
    (hr : ac.log[i]? = some r) (hv : r.reply = some v) : vs[i]? = some v := by
  have hprefix : ∀ log : List (Run κ), (∀ r ∈ log, r.reply.isSome) → valuesOf log <+: vs →
      log[i]? = some r → vs[i]? = some v := by
    intro log hall hpre hi
    obtain ⟨later, rfl⟩ := hpre
    have hvalue := getElem?_valuesOf hall hi hv
    rw [List.getElem?_append_left (List.getElem?_eq_some_iff.mp hvalue).1]
    exact hvalue
  rcases h with ⟨h, -⟩ | h
  · exact hprefix ac.log h.answered h.given hr
  · obtain ⟨given, flushed, hlog, hall, hnone, hpre⟩ := h.log
    refine hprefix given hall hpre ?_
    rw [hlog] at hr
    by_cases hi : i < given.length
    · rwa [List.getElem?_append_left hi] at hr
    · rw [List.getElem?_append_right (by omega)] at hr
      rw [hnone r (List.mem_of_getElem? hr)] at hv
      cases hv

/-- What a connection has done about the replies `vs`. -/
structure Meets (k : Option κ) (vs : List Resp.Value) (ac : Context κ) : Prop where
  /-- Replies are given to callbacks in their order, each once. -/
  reply : ∀ (i : ℕ) (r : Run κ) (v : Resp.Value), ac.log[i]? = some r → r.reply = some v →
    vs[i]? = some v
  /-- An ordinary command's callback gets the reply at its place. -/
  answer : ∀ (i : ℕ) (r : Run κ) (cb : Option κ), ac.log[i]? = some r → ac.issued[i]? = some cb →
    r.source = .reply ∧ r.callback = cb
  /-- The pushes behind them are given to `k`. -/
  push : ∀ (i : ℕ) (r : Run κ) (elements : List Resp.Value), ac.issued.length ≤ i →
    ac.log[i]? = some r → r.reply = some (.array elements) → r.callback = k
  /-- As long as the connection is kept, nothing that is complete is held back. -/
  held : ac.freed = false → Resp.resp.Held ac.arrived (valuesOf ac.log) ac.ibuf
  answered : ac.freed = false → ∀ r ∈ ac.log, r.reply.isSome
  /-- No callback of an ordinary command is left out when the connection is given up. -/
  all : ac.freed = true → ac.issued.length ≤ ac.log.length
  /-- The ordinary commands are those before the first subscription. -/
  issued : ac.issued <+: ac.accepted.map Prod.snd
  unsubscribed : k = none → ac.issued = ac.accepted.map Prod.snd
  /-- The commands are sent as they were accepted. -/
  sent : ac.sent <+: requests (ac.accepted.map Prod.fst)

lemma Served.sound (h : Served k vs ac) : Sound k ac := h.elim (fun h => h.1.sound) Closed.sound

lemma Served.meets (h : Served k vs ac) : Meets k vs ac := by
  have hsound := h.sound
  refine ⟨fun i r v => h.reply_of, fun i r cb => hsound.answer_of,
    fun i r elements hi hr => hsound.push_of hi hr, fun hopen => ?_, fun hopen => ?_,
    fun hfreed => ?_, hsound.issued, fun hk => hsound.paired ?_, ⟨ac.obuf, hsound.printed⟩⟩
  · obtain ⟨h, hread⟩ := h.serving hopen
    exact ⟨h.seen, hread⟩
  · exact (h.serving hopen).1.answered
  · rcases h with ⟨h, -⟩ | h
    · exact absurd (h.held.symm.trans hfreed) (by simp)
    · rw [← hsound.queue, h.replies, List.append_nil, List.length_map]
      exact List.length_filter_le _ _
  · by_contra hsub
    have hsome := (hsound.some_channel (Bool.eq_true_of_not_eq_false hsub)).2
    rw [hk] at hsome
    cases hsome

end Replies

end SelfTestCode.Client.Async
