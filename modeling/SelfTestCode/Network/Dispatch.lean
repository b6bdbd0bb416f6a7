import SelfTestCode.Broker.Subscriptions
import SelfTestCode.Network.Input
import SelfTestCode.Network.Writes

/-!
# The server between its clients and the broker

What connects the bytes of the clients with the commands of the broker: `processCommand` and `call`
of `redis/src/server.c`, the commands as they answer through the output functions, and the events of
the event loop (a connection, readable and writable sockets, `beforeSleep`, `serverCron`).

`World` is the whole server: the state of the broker, the connections and the parser of each client.
Beside them it carries records that no function reads, so that results can speak about the past: the
bytes that arrived from each client, the values of the protocol that were said to it, what was
answered to each of its commands, the messages it is to receive, and the events of the broker.

A step has no state after it if an assertion fails or a freed client is used.  An event that cannot
happen (a client that is not connected becomes readable) changes nothing.

`freeClient` has two halves that share no data, the one of the broker and the one of the network.
Where a loop of `networking.c` frees clients, the network's half is in the loop and the broker's
half follows it, in the order of the loop (`World.adopt`).

Transactions, scripts, blocked and paused clients, slaves and the limit on the number of clients are
left out.  The commands of redis that are not in this repository, and the checks of `processCommand`
on authentication, cluster, memory, persistence, replication, loading and scripts, answer as
`Outside` says.
-/

namespace SelfTestCode.Network

open Broker (ClientId Sds)

/-! ## Commands -/

/-- The rows of `redisCommandTable`: those whose functions are in the repository, and the others. -/
inductive Command
  | smemget
  | smemfree
  | smemrm
  | smemsubscribe
  | smempublish
  | smemswitch
  | client
  | ping
  /-- `pubsub` says that it is one of `(p)subscribe` and `(p)unsubscribe`. -/
  | other (name : String) (arity : ℤ) (pubsub : Bool)
  deriving DecidableEq, Repr

/-- `cmd->name`. -/
def Command.name : Command → String
  | .smemget => "smemget"
  | .smemfree => "smemfree"
  | .smemrm => "smemrm"
  | .smemsubscribe => "smemsubscribe"
  | .smempublish => "smempublish"
  | .smemswitch => "smemswitch"
  | .client => "client"
  | .ping => "ping"
  | .other name _ _ => name

/-- `cmd->arity`: the number of words, or its negative if there may be more. -/
def Command.arity : Command → ℤ
  | .smemget => 2
  | .smemfree => -2
  | .smemrm => -2
  | .smemsubscribe => -2
  | .smempublish => 3
  | .smemswitch => 3
  | .client => -2
  | .ping => -1
  | .other _ arity _ => arity

/-- The commands that a client in the context of Pub/Sub may use. -/
def Command.inPubsub : Command → Bool
  | .ping => true
  | .other _ _ pubsub => pubsub
  | _ => false

/-- What a command that is not in the repository does. -/
structure Answer where
  values : List Resp.Value
  /-- The new value of `CLIENT_PUBSUB`, if it is set or cleared. -/
  pubsub : Option Bool

/-- What the server calls or depends on but this repository does not contain.  The answers are
numbered by a running count of commands. -/
structure Outside where
  broker : Broker.Env
  cfg : Config
  parse : ParseEnv
  /-- `server.commands`, after `rename-command`. -/
  lookupCommand : List Char → Option Command
  /-- The error of a check before the one on the context of Pub/Sub. -/
  refusedBefore : ℕ → Command → Option (List Char)
  /-- The error of a check behind it. -/
  refusedAfter : ℕ → Command → Option (List Char)
  /-- What the other commands answer, and the subcommands of `CLIENT` left out here. -/
  answer : ℕ → List (List Char) → Answer
  /-- The clients that match the options of a `CLIENT KILL`, `none` for a syntax error. -/
  killMatches : ℕ → List (List Char) → Option (ClientId → Bool)

/-- The server. -/
structure World where
  server : Broker.Server
  net : Net
  queries : ClientId → Query
  /-- The number of commands so far. -/
  asked : ℕ
  /-- Record: the bytes that arrived from each client since it was created. -/
  received : ClientId → List Char
  /-- Record: the values that were said to it. -/
  said : ClientId → List Resp.Value
  /-- Record: the commands of each client, with the values that were said to it meanwhile. -/
  exchanges : ClientId → List (List (List Char) × List Resp.Value)
  /-- Record: the channel and the text of each message that was published while the client was
  subscribed to the channel and took replies. -/
  inbox : ClientId → List (List Char × List Char)
  /-- Record: the events of the broker. -/
  history : List Broker.Op

/-- The server before the first connection. -/
def World.init (systemMemorySize : UInt64) : World where
  server := Broker.initServer systemMemorySize
  net := Net.init
  queries _ := Query.new
  asked := 0
  received _ := []
  said _ := []
  exchanges _ := []
  inbox _ := []
  history := []

/-! ## Saying something -/

section Replies

variable (o : Outside) (w : World) (c : ClientId)

/-- The connections are `n` after the value `v` was said to the client. -/
def World.say (v : Resp.Value) (n : Net) : World :=
  { w with
    net := n
    said := if (w.net.conns c).accepts then Function.update w.said c (w.said c ++ [v]) else w.said }

/-- The object of an argument. -/
def stringObject (cfg : Config) (s : List Char) : Robj := .sds (cfg.createStringObject s.length) s

/-- A text that is a value, as one of the shared objects. -/
def replyShared (v : Resp.Value) : World := w.say c v (addReply o.cfg w.net c (.sds .raw v.encode))

/-- `addReply(c, shared.ok)`. -/
def replyOk : World := w.say c (.status "OK".toList) (addReply o.cfg w.net c sharedOk)

/-- `addReplyError`, also for a text that `addReplyErrorFormat` has made. -/
def replyError (text : List Char) : World :=
  w.say c (.error ("ERR ".toList ++ text)) (addReplyErrorLength o.cfg w.net c text)

/-- `addReplyLongLong`. -/
def replyLongLong (ll : Int64) : World :=
  w.say c (.integer ll.toInt) (addReplyLongLong o.cfg w.net c ll)

/-- `addReplyBulk` of an argument. -/
def replyBulk (s : List Char) : World :=
  w.say c (.bulk s) (addReplyBulk o.cfg w.net c (stringObject o.cfg s))

/-- `shared.subscribebulk` and its like: a bulk of a fixed text. -/
def sharedBulk (cfg : Config) (s : String) : Robj :=
  stringObject cfg (Resp.Value.bulk s.toList).encode

/-- The confirmation of a subscription. -/
def pushSubscribe (channel : List Char) (count : ℕ) : World :=
  w.say c (.array [.bulk "subscribe".toList, .bulk channel, .integer (Int64.ofNat count).toInt]) <|
    let n := addReply o.cfg w.net c (sharedMbulkhdr 3)
    let n := addReply o.cfg n c (sharedBulk o.cfg "subscribe")
    let n := addReplyBulk o.cfg n c (stringObject o.cfg channel)
    addReplyLongLong o.cfg n c (Int64.ofNat count)

/-- A published message. -/
def pushMessage (channel message : List Char) : World :=
  w.say c (.array [.bulk "message".toList, .bulk channel, .bulk message]) <|
    let n := addReply o.cfg w.net c (sharedMbulkhdr 3)
    let n := addReply o.cfg n c (sharedBulk o.cfg "message")
    let n := addReplyBulk o.cfg n c (stringObject o.cfg channel)
    addReplyBulk o.cfg n c (stringObject o.cfg message)

/-- `PING` in the context of Pub/Sub. -/
def pushPong (s : List Char) : World :=
  w.say c (.array [.bulk "pong".toList, .bulk s]) <|
    let n := addReply o.cfg w.net c (sharedMbulkhdr 2)
    let n := addReplyBulk o.cfg n c (stringObject o.cfg "pong".toList)
    addReplyBulk o.cfg n c (stringObject o.cfg s)

/-- Set flags of the client. -/
def World.withFlags (f : Flags → Flags) : World := { w with net := w.net.withFlags c f }

end Replies

/-! ## Freeing clients -/

/-- The broker's half of `freeClient`. -/
def World.leave (w : World) (c : ClientId) : Option World :=
  match w.server.clients.lookup c with
  | none => some w
  | some cl =>
    match Broker.freeClient w.server c cl with
    | .error _ => none
    | .ok server => some { w with
        server := server
        queries := Function.update w.queries c Query.new
        history := w.history ++ [.disconnect c] }

/-- The connections are `n` now; the clients of the list that this has freed leave the broker. -/
def World.adopt (w : World) (n : Net) : List ClientId → Option World
  | [] => some { w with net := n }
  | c :: cs =>
    if (n.conns c).connected then w.adopt n cs
    else
      match w.leave c with
      | none => none
      | some w' => w'.adopt n cs

/-- `freeClient` for one client after the other. -/
def freeAll : List ClientId → Net → Net
  | [], n => n
  | c :: cs, n => freeAll cs (freeClient n c)

/-! ## The commands -/

/-- A redis string. -/
def sds (s : List Char) : Sds := String.ofList s

/-- `c->argv[i]->ptr`; the check of the arity says that it is there. -/
def arg (argv : List (List Char)) (i : ℕ) : List Char := argv.getD i []

/-- `!strcasecmp(s, name)`, for a name in lower case: both end at a NUL. -/
def strcaseeq (s : List Char) (name : String) : Bool :=
  (s.takeWhile (· ≠ '\x00')).map Char.toLower == name.toList

/-- The text of `addReplyErrorFormat` with one `%s`, which ends at a NUL. -/
def errorFormat (front : String) (s : List Char) (back : String) : List Char :=
  withoutNewlines (front.toList ++ s.takeWhile (· ≠ '\x00') ++ back.toList)

/-- The error of a wrong number of arguments. -/
def wrongArity (name : String) : List Char :=
  errorFormat "wrong number of arguments for '" name.toList "' command"

section Call

variable (o : Outside) (c : ClientId)

/-- The broker is in the state `server` after the event `op`. -/
def World.broker (w : World) (server : Broker.Server) (op : Broker.Op) : World :=
  { w with server := server, history := w.history ++ [op] }

/-- `smemgetCommand`. -/
def callSmemget (w : World) (size : List Char) : World :=
  let r := Broker.smemgetCommand o.broker w.server (sds size)
  replyLongLong o (w.broker r.2 (.smemget c (sds size))) c r.1.toInt64

/-- `smemfreeCommand`. -/
def callSmemfree (w : World) (args : List (List Char)) : World :=
  let r := Broker.smemfreeCommand o.broker w.server (args.map sds)
  replyLongLong o (w.broker r.2 (.smemfree c (args.map sds))) c r.1.toInt64

/-- `smemrmCommand`. -/
def callSmemrm (w : World) (args : List (List Char)) : World :=
  let r := Broker.smemrmCommand o.broker w.server (args.map sds)
  replyLongLong o (w.broker r.2 (.smemrm c (args.map sds))) c r.1.toInt64

/-- The loop of `smemsubscribeCommand`. -/
def subscribeChannels : World → List (List Char) → Option World
  | w, [] => some w
  | w, channel :: channels =>
    match w.server.clients.lookup c with
    | none => none
    | some cl =>
      let server := (Broker.smempubsubSubscribeChannel w.server c cl (sds channel)).1
      let count := ((server.clients.lookup c).map Broker.Client.channelCount).getD 0
      subscribeChannels
        (pushSubscribe o (w.broker server (.smemsubscribe c [sds channel])) c channel count)
        channels

/-- `smemsubscribeCommand`. -/
def callSmemsubscribe (w : World) (channels : List (List Char)) : Option World :=
  (subscribeChannels o c w channels).map fun w =>
    w.withFlags c fun f => { f with pubsub := true }

/-- The record of a message that is about to be published. -/
def World.post (w : World) (channel message : List Char) : World :=
  { w with inbox := fun d =>
      if Broker.Subscribed w.server d (sds channel) ∧ (w.net.conns d).accepts then
        w.inbox d ++ [(channel, message)]
      else w.inbox d }

/-- The deliveries of a publish. -/
def pushMessages (channel message : List Char) : World → List ClientId → World
  | w, [] => w
  | w, d :: ds => pushMessages channel message (pushMessage o w d channel message) ds

/-- `smempublishCommand`. -/
def callSmempublish (w : World) (channel message : List Char) : Option World :=
  match Broker.smempubsubPublishMessage o.broker w.server (sds channel) (sds message) with
  | .error _ => none
  | .ok (pushes, server) =>
    let w := (w.post channel message).broker server (.smempublish c (sds channel) (sds message))
    let w := pushMessages o channel message w (pushes.map Prod.fst)
    some (replyLongLong o w c (Int32.ofNat pushes.length).toInt64)

/-- `smemswitchCommand`. -/
def callSmemswitch (w : World) (pubChannel subChannel : List Char) : Option World :=
  match Broker.smemswitchCommand w.server (sds pubChannel) (sds subChannel) with
  | .error _ => none
  | .ok server =>
    some (replyLongLong o (w.broker server (.smemswitch c (sds pubChannel) (sds subChannel))) c 0)

/-- `pingCommand`. -/
def callPing (w : World) (argv : List (List Char)) : World :=
  if 2 < argv.length then replyError o w c (wrongArity "ping")
  else if (w.net.conns c).flags.pubsub then pushPong o w c (arg argv 1)
  else if argv.length = 1 then replyShared o w c (.status "PONG".toList)
  else replyBulk o w c (arg argv 1)

/-- Other commands answer as they please. -/
def sayAll : World → List Resp.Value → World
  | w, [] => w
  | w, v :: vs => sayAll (w.say c v (addReplyString o.cfg w.net c v.encode)) vs

/-- A command that is not in the repository. -/
def callOther (w : World) (argv : List (List Char)) : World :=
  let a := o.answer w.asked argv
  let w := sayAll o c w a.values
  match a.pubsub with
  | none => w
  | some b => w.withFlags c fun f => { f with pubsub := b }

/-- The `reply` branch of `clientCommand`. -/
def clientReply (w : World) (mode : List Char) : World :=
  if strcaseeq mode "on" then
    replyOk o (w.withFlags c fun f => { f with replySkip := false, replyOff := false }) c
  else if strcaseeq mode "off" then w.withFlags c fun f => { f with replyOff := true }
  else if strcaseeq mode "skip" then
    w.withFlags c fun f => if f.replyOff then f else { f with replySkipNext := true }
  else replyShared o w c (.error "ERR syntax error".toList)

/-- The `setname` branch of `clientCommand`. -/
def clientSetname (w : World) (name : List Char) : World :=
  match w.server.clients.lookup c with
  | none => w
  | some cl =>
    let w' := w.broker (Broker.clientSetName w.server c cl (sds name)) (.setName c (sds name))
    if name.all (fun ch => '!' ≤ ch && ch ≤ '~') then replyOk o w' c
    else replyError o w' c
      "Client names cannot contain spaces, newlines or special characters.".toList

/-- The answer of `CLIENT KILL`, in the old form and in the new one. -/
def killAnswer (w : World) (argc killed : ℕ) : World :=
  if argc = 3 then
    if killed = 0 then replyError o w c "No such client".toList else replyOk o w c
  else replyLongLong o w c (Int32.ofNat killed).toInt64

/-- The `kill` branch of `clientCommand`: clients other than the sender are freed at once. -/
def clientKill (w : World) (argv : List (List Char)) : Option World :=
  match o.killMatches w.asked argv with
  | none => some (replyShared o w c (.error "ERR syntax error".toList))
  | some victim =>
    let others := w.server.clients.keys.filter fun d => victim d && d != c
    match w.adopt (freeAll others w.net) others with
    | none => none
    | some w =>
      if victim c then
        some ((killAnswer o c w argv.length (others.length + 1)).withFlags c fun f =>
          { f with closeAfterReply := true })
      else some (killAnswer o c w argv.length others.length)

/-- `clientCommand`. -/
def callClient (w : World) (argv : List (List Char)) : Option World :=
  if strcaseeq (arg argv 1) "reply" ∧ argv.length = 3 then some (clientReply o c w (arg argv 2))
  else if strcaseeq (arg argv 1) "kill" then clientKill o c w argv
  else if strcaseeq (arg argv 1) "setname" ∧ argv.length = 3 then
    some (clientSetname o c w (arg argv 2))
  else some (sayAll o c w (o.answer w.asked argv).values)

/-- `call`. -/
def call (w : World) (cmd : Command) (argv : List (List Char)) : Option World :=
  match cmd with
  | .smemget => some (callSmemget o c w (arg argv 1))
  | .smemfree => some (callSmemfree o c w argv.tail)
  | .smemrm => some (callSmemrm o c w argv.tail)
  | .smemsubscribe => callSmemsubscribe o c w argv.tail
  | .smempublish => callSmempublish o c w (arg argv 1) (arg argv 2)
  | .smemswitch => callSmemswitch o c w (arg argv 1) (arg argv 2)
  | .client => callClient o c w argv
  | .ping => some (callPing o c w argv)
  | .other _ _ _ => some (callOther o c w argv)

/-- The error for other commands in the context of Pub/Sub. -/
def pubsubContext : List Char :=
  "only (P)SUBSCRIBE / (P)UNSUBSCRIBE / PING / QUIT allowed in this context".toList

/-- `processCommand`, behind the lookup. -/
def processLookedUp (w : World) (cmd : Command) (argv : List (List Char)) : Option World :=
  if (0 < cmd.arity ∧ cmd.arity ≠ argv.length) ∨ (argv.length : ℤ) < -cmd.arity then
    some (replyError o w c (wrongArity cmd.name))
  else
    match o.refusedBefore w.asked cmd with
    | some text => some (replyShared o w c (.error text))
    | none =>
      if (w.net.conns c).flags.pubsub ∧ !cmd.inPubsub then some (replyError o w c pubsubContext)
      else
        match o.refusedAfter w.asked cmd with
        | some text => some (replyShared o w c (.error text))
        | none => call o c w cmd argv

/-- `processCommand`. -/
def processCommand (w : World) (argv : List (List Char)) : Option (Bool × World) :=
  if strcaseeq (arg argv 0) "quit" then
    some (false, (replyOk o w c).withFlags c fun f => { f with closeAfterReply := true })
  else
    match o.lookupCommand (arg argv 0) with
    | none => some (true, replyError o w c (errorFormat "unknown command '" (arg argv 0) "'"))
    | some cmd => (processLookedUp o c w cmd argv).map fun w => (true, w)

/-- The record of a command is completed. -/
def World.answered (w w' : World) (argv : List (List Char)) : World :=
  { w' with
    asked := w.asked + 1
    exchanges := Function.update w'.exchanges c
      (w'.exchanges c ++ [(argv, (w'.said c).drop (w.said c).length)]) }

/-- The server as the parser of the client sees it. -/
def host : Host World where
  closing w := (w.net.conns c).flags.closeAfterReply
  protocolError w text :=
    (replyError o w c text).withFlags c fun f => { f with closeAfterReply := true }
  processCommand w argv := (processCommand o c w argv).map fun r => (r.1, w.answered c r.2 argv)
  resetClient w := w.withFlags c fun f =>
    { f with replySkip := f.replySkipNext, replySkipNext := false }

end Call

/-! ## The event loop -/

/-- What the event loop meets. -/
inductive Event
  /-- A connection is accepted. -/
  | accept
  /-- The socket of the client is readable and `read` answers with bytes. -/
  | readable (c : ClientId) (data : List Char)
  /-- `read` answers with an error or the end of the stream, or the client was idle too long. -/
  | hangup (c : ClientId)
  /-- The socket is writable; these are the turns of `writeToClient`. -/
  | writable (c : ClientId) (turns : List Turn)
  | beforeSleep (answers : ClientId → PendingAnswer)
  /-- `serverCron` at the time `now`; `sweeps` says whether 5 seconds are over. -/
  | cron (now : Int64) (sweeps : Bool)
  /-- The channel table is rehashed. -/
  | rehash (entries : List (Sigma fun _ : Sds => List ClientId))

section Events

variable (o : Outside)

/-- `createClient`. -/
def World.createClient (w : World) : World :=
  let c := w.server.nextClientId
  { w.broker (Broker.createClient w.server) .connect with
    net := w.net.setConn c Conn.new
    queries := Function.update w.queries c Query.new
    received := Function.update w.received c []
    said := Function.update w.said c []
    exchanges := Function.update w.exchanges c []
    inbox := Function.update w.inbox c [] }

/-- The record of bytes that have arrived. -/
def World.receive (w : World) (c : ClientId) (data : List Char) : World :=
  { w with received := Function.update w.received c (w.received c ++ data) }

/-- `readQueryFromClient` on a connected client. -/
def World.read (w : World) (c : ClientId) (data : List Char) : Option World :=
  match readQueryFromClient o.parse (host o c) (w.queries c) (w.receive c data) data with
  | none => none
  | some (.freed w) => w.adopt (freeClient w.net c) [c]
  | some (.alive q w) => some { w with queries := Function.update w.queries c q }

/-- `serverCron`: the cached clock, the sweep, and the clients to close. -/
def World.cron (w : World) (now : Int64) (sweeps : Bool) : Option World :=
  let server := { w.server with unixtime := now }
  let net := { w.net with unixtime := now }
  let w := { w with
    server := server, net := net, history := w.history ++ [Broker.Op.updateTime now] }
  let w :=
    if sweeps then w.broker (Broker.smemFreeShareMemory o.broker 5 w.server).2 (.sweep 5) else w
  w.adopt (freeClientsInAsyncFreeQueue w.net) w.net.clientsToClose

/-- One event. -/
def World.step (w : World) : Event → Option World
  | .accept => some w.createClient
  | .readable c data =>
    if (w.net.conns c).connected ∧ data ≠ [] ∧ data.length ≤ (w.queries c).readlen then
      w.read o c data
    else some w
  | .hangup c =>
    if (w.net.conns c).connected then w.adopt (freeClient w.net c) [c] else some w
  | .writable c turns =>
    if (w.net.conns c).writeHandler then w.adopt (sendReplyToClient w.net c turns) [c] else some w
  | .beforeSleep answers =>
    w.adopt (handleClientsWithPendingWrites answers w.net) w.net.clientsPendingWrite
  | .cron now sweeps => w.cron o now sweeps
  | .rehash entries => some (w.broker (Broker.rehash w.server entries) (.rehash entries))

/-- The server as a transition system. -/
def serverSystem : System World Event where
  Init w := ∃ systemMemorySize, w = World.init systemMemorySize
  step := World.step o

end Events

end SelfTestCode.Network
