import SelfTestCode.Broker.State
import SelfTestCode.Framework.Transition

/-!
# The commands of the broker

Each definition follows one function of `redis/src/smem4redis.c`, in the source's order of
tests and updates.  A command returns the server after it together with what it sends; a
command that runs into a failed `serverAssertWithInfo`, or that dereferences a `client` that
`freeClient` has released, has no state after it (`Fault`).

`SMEMFREE` and `SMEMPUBLISH` contain the same recycling code twice in the source; it is
`recycle` here, and the difference between the two callers (only `SMEMFREE` tests the state of
the record) stays in the callers.  The body of the two loops of `smemFreeShareMemory` is
`sweepRecord`.

The dictionaries of redis are hash tables, so the order in which an iteration meets their
entries is not the order of insertion.  Only `SMEMSWITCH` depends on it; the label
`Op.rehash` permutes the channel table arbitrarily between commands.
-/

namespace SelfTestCode.Broker

/-! ## `SMEMGET` -/

/-- The test a pooled record passes to be handed out again. -/
def fits (size : Int32) (r : SmemT) : Bool :=
  r.state == .available && decide (size ≤ r.size)

/-- The record as `SMEMGET` hands it out. -/
def SmemT.handOut (r : SmemT) (now : Int64) : SmemT :=
  { r with state := .used, cnt := 1, freeCnt := 0, lastTime := now }

/-- The reuse path of `smemgetCommand`: the first fitting record of the list filed under
`size` moves to `smempubsub_memorys` (`smemlistMoveNodeToDict`, which leaves a key that is
already there alone).  Answers the id, or `-1`. -/
def smemgetReuse (s : Server) (size : Int32) : Int32 × Server :=
  match s.smempubsubMemorysAvailable.lookup (sdsfromlonglong size) with
  | none => (-1, s)
  | some availableList =>
    match availableList.find? (fits size) with
    | none => (-1, s)
    | some r =>
      (r.id, { s with
        smempubsubMemorysAvailable := s.smempubsubMemorysAvailable.insert
          (sdsfromlonglong size) (availableList.eraseP (fits size))
        smempubsubMemorys := s.smempubsubMemorys.add
          (sdsfromlonglong r.id) (r.handOut s.unixtime) })

/-- The record of a segment that was just created. -/
def SmemT.fresh (id size : Int32) (now : Int64) : SmemT where
  id := id
  size := size
  state := .used
  cnt := 1
  freeCnt := 0
  lastTime := now

/-- A new segment for `SMEMGET`; an id 0 is given back to the kernel and asked for again. -/
def smemgetBuffer (env : Env) (s : Server) (size : Int32) : Int32 × Server :=
  let (memId, s₁) := smemGetBuffer env s size
  if memId = 0 then
    let (_, s₂) := smemFreeBuffer env s₁ memId
    smemGetBuffer env s₂ size
  else (memId, s₁)

/-- The new segment `memId` gets its record and is counted.  `zmalloc` aborts the server
rather than return `NULL`, so the record always exists. -/
def smemgetAdopt (s : Server) (memId size : Int32) : Server :=
  { s with
    smempubsubMemorys := s.smempubsubMemorys.add (sdsfromlonglong memId)
      (SmemT.fresh memId size s.unixtime)
    shareMemorySize := s.shareMemorySize + sizeT size }

/-- The allocation path of `smemgetCommand`, behind the test against `share_memory_limit`. -/
def smemgetAllocate (env : Env) (s : Server) (size : Int32) : Int32 × Server :=
  if s.shareMemorySize + sizeT size ≤ s.shareMemoryLimit then
    let (memId, s₁) := smemgetBuffer env s size
    if memId = -1 then (-1, s₁) else (memId, smemgetAdopt s₁ memId size)
  else (-1, s)

/-- `smemgetCommand`: the id it answers, or `-1`. -/
def smemgetCommand (env : Env) (s : Server) (arg : Sds) : Int32 × Server :=
  match env.getLongLongFromObject arg with
  | none => (-1, s)
  | some llSize =>
    let size := smemalign llSize.toInt32 4096
    let (memId, s₁) := smemgetReuse s size
    if memId = -1 then smemgetAllocate env s₁ size else (memId, s₁)

/-! ## `SMEMFREE` -/

/-- The record as it goes back to the pool. -/
def SmemT.giveBack (r : SmemT) (now : Int64) : SmemT :=
  { r with state := .available, cnt := 0, lastTime := now }

/-- What `SMEMFREE` and `SMEMPUBLISH` do with a record `r`, filed under `key`, whose count
has run out: the list of its size is created if need be; a list of more than 20 records sends
the segment back to the kernel, any other list takes the record. -/
def recycle (env : Env) (s : Server) (key : Sds) (r : SmemT) : Server :=
  let availableList := (s.smempubsubMemorysAvailable.lookup (sdsfromlonglong r.size)).getD []
  if 20 < availableList.length then
    let s₁ := { s with
      smempubsubMemorysAvailable :=
        s.smempubsubMemorysAvailable.insert (sdsfromlonglong r.size) availableList
      shareMemorySize := s.shareMemorySize - sizeT r.size }
    let (_, s₂) := smemFreeBuffer env s₁ r.id
    { s₂ with smempubsubMemorys := s₂.smempubsubMemorys.erase key }
  else
    { s with
      smempubsubMemorysAvailable := s.smempubsubMemorysAvailable.insert
        (sdsfromlonglong r.size) (availableList ++ [r.giveBack s.unixtime])
      smempubsubMemorys := s.smempubsubMemorys.erase key }

/-- One argument of `SMEMFREE`: whether it named a record, and the server after it. -/
def smemfreeOne (env : Env) (s : Server) (smemObj : Sds) : Bool × Server :=
  match s.smempubsubMemorys.lookup smemObj with
  | none => (false, s)
  | some r =>
    let r' := { r with cnt := r.cnt - 1 }
    if r'.cnt ≤ 0 ∧ r'.state = .used then (true, recycle env s smemObj r')
    else (true, { s with smempubsubMemorys := s.smempubsubMemorys.insert smemObj r' })

/-- `smemfreeCommand`: the number of arguments that named a record. -/
def smemfreeCommand (env : Env) : Server → List Sds → Int32 × Server
  | s, [] => (0, s)
  | s, smemObj :: args =>
    let (found, s₁) := smemfreeOne env s smemObj
    let (freeCnt, s₂) := smemfreeCommand env s₁ args
    ((if found then 1 else 0) + freeCnt, s₂)

/-! ## `SMEMRM` -/

/-- One argument of `SMEMRM` that parsed as `llVar`. -/
def smemrmOne (env : Env) (s : Server) (llVar : Int64) : Bool × Server :=
  let memId := llVar.toInt32
  match s.smemListAvailable.find? (fun r => r.id == memId) with
  | some r => smemFreeBuffer env { s with
      shareMemorySize := s.shareMemorySize - sizeT r.size
      smemListAvailable := s.smemListAvailable.eraseP (fun r => r.id == memId) } memId
  | none => smemFreeBuffer env s memId

/-- `smemrmCommand`: the number of segments removed. -/
def smemrmCommand (env : Env) : Server → List Sds → Int32 × Server
  | s, [] => (0, s)
  | s, arg :: args =>
    match env.getLongLongFromObject arg with
    | none => smemrmCommand env s args
    | some llVar =>
      let (removed, s₁) := smemrmOne env s llVar
      let (freeCnt, s₂) := smemrmCommand env s₁ args
      ((if removed then 1 else 0) + freeCnt, s₂)

/-! ## Subscriptions -/

/-- Why a command has no state after it. -/
inductive Fault
  /-- A `serverAssertWithInfo` failed. -/
  | assertFailed
  /-- A list holds a client that `freeClient` has released. -/
  | useAfterFree (c : ClientId)
  deriving DecidableEq, Repr

/-- Update the record of one client. -/
def Server.setClient (s : Server) (c : ClientId) (cl : Client) : Server :=
  { s with clients := s.clients.insert c cl }

/-- The confirmation of a subscription: `subscribe`, the channel, the number of channels the
client is subscribed to. -/
def subscribePush (channel : Sds) (n : ℕ) : Reply :=
  .multiBulk [.bulk "subscribe", .bulk channel, .integer (Int64.ofNat n)]

/-- The confirmation of the end of a subscription. -/
def unsubscribePush (channel : Sds) (n : ℕ) : Reply :=
  .multiBulk [.bulk "unsubscribe", .bulk channel, .integer (Int64.ofNat n)]

/-- A published message. -/
def messagePush (channel message : Sds) : Reply :=
  .multiBulk [.bulk "message", .bulk channel, .bulk message]

/-- `dictSize(c->smempubsub_channels)`. -/
def Client.channelCount (cl : Client) : ℕ := cl.smempubsubChannels.keys.length

/-- `smempubsubSubscribeChannel` for the client `c` whose record is `cl`. -/
def smempubsubSubscribeChannel (s : Server) (c : ClientId) (cl : Client) (channel : Sds) :
    Server × Reply :=
  if channel ∈ cl.smempubsubChannels then (s, subscribePush channel cl.channelCount)
  else
    let cl' := { cl with smempubsubChannels := cl.smempubsubChannels.insert channel () }
    let clients := (s.smempubsubChannels.lookup channel).getD []
    ({ s.setClient c cl' with
        smempubsubChannels := s.smempubsubChannels.insert channel (clients ++ [c]) },
      subscribePush channel cl'.channelCount)

/-- `smemsubscribeCommand`: one subscription, and one confirmation, for each argument. -/
def smemsubscribeCommand (c : ClientId) : Server → List Sds → Except Fault (Server × List Reply)
  | s, [] => .ok (s, [])
  | s, channel :: args =>
    match s.clients.lookup c with
    | none => .error (.useAfterFree c)
    | some cl => do
      let first := smempubsubSubscribeChannel s c cl channel
      let rest ← smemsubscribeCommand c first.1 args
      return (rest.1, first.2 :: rest.2)

/-- `smempubsubUnsubscribeChannel`: the two assertions are that the channel has a list and
that the client is in it; an emptied list is dropped. -/
def smempubsubUnsubscribeChannel (s : Server) (c : ClientId) (cl : Client) (channel : Sds)
    (notify : Bool) : Except Fault (Server × List Reply) :=
  let cl' := { cl with smempubsubChannels := cl.smempubsubChannels.erase channel }
  let pushes := if notify then [unsubscribePush channel cl'.channelCount] else []
  if channel ∈ cl.smempubsubChannels then
    match s.smempubsubChannels.lookup channel with
    | none => .error .assertFailed
    | some clients =>
      if c ∈ clients then
        let rest := clients.erase c
        .ok ({ s.setClient c cl' with
          smempubsubChannels :=
            if rest.length = 0 then s.smempubsubChannels.erase channel
            else s.smempubsubChannels.insert channel rest }, pushes)
      else .error .assertFailed
  else .ok (s, pushes)

/-- The loop of `smempubsubUnsubscribeAllChannels` over the channels of the client. -/
def smempubsubUnsubscribeChannels (c : ClientId) (notify : Bool) :
    Server → List Sds → Except Fault (Server × List Reply)
  | s, [] => .ok (s, [])
  | s, channel :: channels =>
    match s.clients.lookup c with
    | none => .error (.useAfterFree c)
    | some cl => do
      let first ← smempubsubUnsubscribeChannel s c cl channel notify
      let rest ← smempubsubUnsubscribeChannels c notify first.1 channels
      return (rest.1, first.2 ++ rest.2)

/-- The part of `freeClient` that concerns the broker:
`smempubsubUnsubscribeAllChannels(c, 0)`, then the client is gone. -/
def freeClient (s : Server) (c : ClientId) (cl : Client) : Except Fault Server := do
  let unsubscribed ← smempubsubUnsubscribeChannels c false s cl.smempubsubChannels.keys
  return { unsubscribed.1 with clients := unsubscribed.1.clients.erase c }

/-! ## `SMEMPUBLISH` -/

/-- The deliveries of a publish: one message for each node of the channel's list. -/
def deliver (s : Server) (channel message : Sds) :
    List ClientId → Except Fault (List (ClientId × Reply))
  | [] => .ok []
  | c :: clients =>
    if c ∈ s.clients then do
      let pushes ← deliver s channel message clients
      return (c, messagePush channel message) :: pushes
    else .error (.useAfterFree c)

/-- The reference counting of a publish on the record `r` filed under `message`: one count
up for each receiver, then one down for the publisher. -/
def publishCount (env : Env) (s : Server) (message : Sds) (r : SmemT)
    (receivers : List ClientId) : Server :=
  let cnt := receivers.foldl (fun cnt _ => cnt + 1) r.cnt - 1
  let r' := { r with cnt := cnt }
  if cnt ≤ 0 then recycle env s message r'
  else { s with smempubsubMemorys := s.smempubsubMemorys.insert message r' }

/-- `smempubsubPublishMessage`: the deliveries, one for each receiver, and the server. -/
def smempubsubPublishMessage (env : Env) (s : Server) (channel message : Sds) :
    Except Fault (List (ClientId × Reply) × Server) := do
  let receivers := (s.smempubsubChannels.lookup channel).getD []
  let pushes ← deliver s channel message receivers
  match s.smempubsubMemorys.lookup message with
  | none => return (pushes, s)
  | some r => return (pushes, publishCount env s message r receivers)

/-! ## `SMEMSWITCH` -/

/-- A C string ends at its first NUL. -/
def cString (s : Sds) : List Char := s.toList.takeWhile (· ≠ '\x00')

/-- `strcmp(sub_c->name->ptr, sub_channel->ptr) == 0`, false for a client without a name. -/
def Client.hasName (cl : Client) (name : Sds) : Bool :=
  match cl.name with
  | none => false
  | some n => cString n == cString name

/-- What the scan of `smemswitchCommand` remembers: the last client that matched, and the
node to move, as the channel of its list and its index there. -/
structure SwitchScan where
  subChannelClient : Option ClientId
  willMove : Option (Sds × ℕ)
  deriving DecidableEq, Repr

/-- The scan of one channel's list, from the node with index `i` on.  It stops at the first
matching client from whose set the channel could be deleted. -/
def switchScanList (name channel : Sds) :
    ℕ → List ClientId → Server × SwitchScan → Except Fault (Server × SwitchScan)
  | _, [], acc => .ok acc
  | i, c :: clients, (s, scan) =>
    match s.clients.lookup c with
    | none => .error (.useAfterFree c)
    | some cl =>
      if cl.hasName name then
        if channel ∈ cl.smempubsubChannels then
          .ok (s.setClient c
              { cl with smempubsubChannels := cl.smempubsubChannels.erase channel },
            { subChannelClient := some c, willMove := some (channel, i) })
        else switchScanList name channel (i + 1) clients
          (s, { scan with subChannelClient := some c })
      else switchScanList name channel (i + 1) clients (s, scan)

/-- The scan of all channels, in the order the iterator yields them. -/
def switchScan (name : Sds) :
    List Sds → Server × SwitchScan → Except Fault (Server × SwitchScan)
  | [], acc => .ok acc
  | channel :: channels, acc => do
    let clients := (acc.1.smempubsubChannels.lookup channel).getD []
    let acc' ← switchScanList name channel 0 clients acc
    switchScan name channels acc'

/-- `smemlistMoveNode` on the channel table: the node with index `i` leaves the list of `src`
and becomes the head of the list of `dst`, which may be the same list. -/
def smemlistMoveNode (channels : Dict Sds (List ClientId)) (src : Sds) (i : ℕ) (dst : Sds) :
    Dict Sds (List ClientId) :=
  let listSrc := (channels.lookup src).getD []
  match listSrc[i]? with
  | none => channels
  | some c =>
    let channels₁ := channels.insert src (listSrc.eraseIdx i)
    channels₁.insert dst (c :: (channels₁.lookup dst).getD [])

/-- The end of `smemswitchCommand`: the client found last subscribes to `pubChannel`, and the
remembered node moves there. -/
def switchMove (s : Server) (pubChannel : Sds) (scan : SwitchScan) : Server :=
  match scan.subChannelClient with
  | none => s
  | some c =>
    match s.clients.lookup c with
    | none => s
    | some cl =>
      if pubChannel ∈ cl.smempubsubChannels then s
      else
        let s₁ := s.setClient c
          { cl with smempubsubChannels := cl.smempubsubChannels.insert pubChannel () }
        let channels := s₁.smempubsubChannels.add pubChannel []
        match scan.willMove with
        | none => { s₁ with smempubsubChannels := channels }
        | some (src, i) =>
          { s₁ with smempubsubChannels := smemlistMoveNode channels src i pubChannel }

/-- `smemswitchCommand`; its answer is `switch_cnt`, always 0. -/
def smemswitchCommand (s : Server) (pubChannel subChannel : Sds) : Except Fault Server := do
  let scanned ← switchScan subChannel s.smempubsubChannels.keys (s, ⟨none, none⟩)
  return switchMove scanned.1 pubChannel scanned.2

/-! ## The sweep -/

/-- What one visit of the sweep did with a record. -/
structure Visit where
  /-- The record as the sweep found it. -/
  found : SmemT
  /-- The result of `IPC_RMID`, if it was called. -/
  rmid : Option Bool
  /-- What was subtracted from `share_memory_size`. -/
  charged : UInt64
  /-- The record as the sweep leaves it, `none` when it left its table. -/
  left : Option SmemT
  deriving DecidableEq

/-- The record has not been used for longer than `timeout`. -/
def expired (s : Server) (timeout : Int32) (r : SmemT) : Bool :=
  decide (timeout.toInt64 < s.unixtime - r.lastTime)

/-- The common body of the two loops of `smemFreeShareMemory`. -/
def sweepRecord (env : Env) (timeout : Int32) (s : Server) (r : SmemT) : Visit × Server :=
  if expired s timeout r then
    let s₁ := { s with shareMemorySize := s.shareMemorySize - sizeT r.size }
    let (ok, s₂) := smemFreeBuffer env s₁ r.id
    if ok then (⟨r, some true, sizeT r.size, none⟩, s₂)
    else
      let r' := { r with freeCnt := r.freeCnt + 1 }
      (⟨r, some false, sizeT r.size, if 5 < r'.freeCnt then none else some r'⟩, s₂)
  else (⟨r, none, 0, some r⟩, s)

/-- One visit of the first loop: the list filed under `key` is `done ++ r :: rest`, and the
record stays there or is deleted from it. -/
def sweepNode (env : Env) (timeout : Int32) (key : Sds) (done rest : List SmemT) (s : Server)
    (r : SmemT) : Visit × Server :=
  let (v, s₁) := sweepRecord env timeout s r
  (v, { s₁ with smempubsubMemorysAvailable :=
    s₁.smempubsubMemorysAvailable.insert key (done ++ v.left.toList ++ rest) })

/-- The loop over the nodes of the pool list filed under `key`; `done` are the records before
the current node that are still in the list. -/
def sweepNodes (env : Env) (timeout : Int32) (key : Sds) :
    List SmemT → List SmemT → Server → List Visit × Server
  | _, [], s => ([], s)
  | done, r :: rest, s =>
    let (v, s₁) := sweepNode env timeout key done rest s r
    let (vs, s₂) := sweepNodes env timeout key (done ++ v.left.toList) rest s₁
    (v :: vs, s₂)

/-- The first loop of `smemFreeShareMemory`, over the lists of
`smempubsub_memorys_available`. -/
def sweepAvailable (env : Env) (timeout : Int32) : List Sds → Server → List Visit × Server
  | [], s => ([], s)
  | key :: keys, s =>
    match s.smempubsubMemorysAvailable.lookup key with
    | none => sweepAvailable env timeout keys s
    | some availableList =>
      let (vs, s₁) := sweepNodes env timeout key [] availableList s
      let (ws, s₂) := sweepAvailable env timeout keys s₁
      (vs ++ ws, s₂)

/-- One visit of the second loop: the record `r` filed under `key` stays in
`smempubsub_memorys` or is deleted from it. -/
def sweepMemory (env : Env) (timeout : Int32) (key : Sds) (s : Server) (r : SmemT) :
    Visit × Server :=
  let (v, s₁) := sweepRecord env timeout s r
  (v, { s₁ with smempubsubMemorys := match v.left with
    | none => s₁.smempubsubMemorys.erase key
    | some r' => s₁.smempubsubMemorys.insert key r' })

/-- The second loop of `smemFreeShareMemory`, over `smempubsub_memorys`. -/
def sweepMemorys (env : Env) (timeout : Int32) : List Sds → Server → List Visit × Server
  | [], s => ([], s)
  | key :: keys, s =>
    match s.smempubsubMemorys.lookup key with
    | none => sweepMemorys env timeout keys s
    | some r =>
      let (v, s₁) := sweepMemory env timeout key s r
      let (vs, s₂) := sweepMemorys env timeout keys s₁
      (v :: vs, s₂)

/-- `smemFreeShareMemory(timeout)`, with the visits its log line counts. -/
def smemFreeShareMemory (env : Env) (timeout : Int32) (s : Server) : List Visit × Server :=
  let (vs, s₁) := sweepAvailable env timeout s.smempubsubMemorysAvailable.keys s
  let (ws, s₂) := sweepMemorys env timeout s₁.smempubsubMemorys.keys s₁
  (vs ++ ws, s₂)

/-! ## Runs -/

/-- What can happen to the server. -/
inductive Op
  /-- A connection is accepted (`createClient`). -/
  | connect
  /-- `CLIENT SETNAME`. -/
  | setName (c : ClientId) (name : Sds)
  | smemget (c : ClientId) (size : Sds)
  | smemfree (c : ClientId) (args : List Sds)
  | smemrm (c : ClientId) (args : List Sds)
  | smemsubscribe (c : ClientId) (channels : List Sds)
  | smempublish (c : ClientId) (channel message : Sds)
  | smemswitch (c : ClientId) (pubChannel subChannel : Sds)
  /-- The connection is lost (`freeClient`). -/
  | disconnect (c : ClientId)
  /-- The cached clock is refreshed. -/
  | updateTime (now : Int64)
  /-- `serverCron` sweeps. -/
  | sweep (timeout : Int32)
  /-- The channel table is rehashed; its entries are met in the order `entries` from now on. -/
  | rehash (entries : List (Sigma fun _ : Sds => List ClientId))
  deriving DecidableEq

/-- `createClient`. -/
def createClient (s : Server) : Server :=
  { s with
    clients := s.clients.insert s.nextClientId ⟨none, ∅⟩
    nextClientId := s.nextClientId + 1 }

/-- The `setname` branch of `clientCommand`: an empty name removes the name, a name with a
character outside `!`..`~` is refused. -/
def clientSetName (s : Server) (c : ClientId) (cl : Client) (name : Sds) : Server :=
  if name.toList = [] then s.setClient c { cl with name := none }
  else if name.toList.all (fun ch => '!' ≤ ch && ch ≤ '~') then
    s.setClient c { cl with name := some name }
  else s

/-- Permute the channel table; a list that is not a permutation of it is ignored. -/
def rehash (s : Server) (entries : List (Sigma fun _ : Sds => List ClientId)) : Server :=
  if h : entries.Perm s.smempubsubChannels.entries then
    { s with smempubsubChannels :=
        ⟨entries, (List.perm_nodupKeys h).mpr s.smempubsubChannels.nodupKeys⟩ }
  else s

/-- One event.  A command needs a connected sender; `none` also stands for a fault. -/
def step (env : Env) (s : Server) : Op → Option Server
  | .connect => some (createClient s)
  | .setName c name => (s.clients.lookup c).map fun cl => clientSetName s c cl name
  | .smemget c size =>
    (s.clients.lookup c).map fun _ => (smemgetCommand env s size).2
  | .smemfree c args =>
    (s.clients.lookup c).map fun _ => (smemfreeCommand env s args).2
  | .smemrm c args =>
    (s.clients.lookup c).map fun _ => (smemrmCommand env s args).2
  | .smemsubscribe c channels =>
    (s.clients.lookup c).bind fun _ => ((smemsubscribeCommand c s channels).toOption).map Prod.fst
  | .smempublish c channel message =>
    (s.clients.lookup c).bind fun _ =>
      ((smempubsubPublishMessage env s channel message).toOption).map Prod.snd
  | .smemswitch c pubChannel subChannel =>
    (s.clients.lookup c).bind fun _ => (smemswitchCommand s pubChannel subChannel).toOption
  | .disconnect c =>
    (s.clients.lookup c).bind fun cl => (freeClient s c cl).toOption
  | .updateTime now => some { s with unixtime := now }
  | .sweep timeout => some (smemFreeShareMemory env timeout s).2
  | .rehash entries => some (rehash s entries)

/-- The broker as a transition system, started by `initServer` on any machine. -/
def broker (env : Env) : System Server Op where
  Init s := ∃ systemMemorySize, s = initServer systemMemorySize
  step := step env

end SelfTestCode.Broker
