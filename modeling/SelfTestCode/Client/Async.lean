import SelfTestCode.Framework.Dict
import SelfTestCode.Framework.Transition
import SelfTestCode.Network.Dispatch
import SelfTestCode.Network.Fragments

/-!
# The asynchronous connection of a client

`redis/deps/hiredis/async.c`: commands are sent without waiting for their replies, and a callback is
kept for each of them.  Callbacks of ordinary commands wait in a queue, those of subscriptions in
dictionaries, and those of commands sent to a subscribed connection in a queue of their own.
`redisProcessCallbacks` takes the replies that have arrived and finds the callback of each.  When
the connection is given up every callback that is left is run without a reply.

A callback may call the library again.  It can send commands, and ask for the connection to be
closed or freed, which is then done behind it.  `app` says what the application calls in the
callback that was run last, given all that have been run.

`redisGetReply` and the printing of commands are in another file of the library, which is not in the
repository: replies are read by the parameter `redisGetReply`, and a command is printed as the array
of its arguments.  Failing allocations and the registration with the event library are left out; the
callbacks for a connection that is made or lost call nothing.

A step has no state after it if an assertion fails.  `log`, `issued`, `accepted`, `arrived` and
`sent` are records that the library does not read; the application knows from `log` which callback
it is in.
-/

namespace SelfTestCode.Client.Async

open Network (requestText strchr)

/-! ## The context -/

/-- The flags of a `redisContext` that `async.c` uses. -/
structure Flags where
  connected : Bool
  disconnecting : Bool
  freeing : Bool
  inCallback : Bool
  subscribed : Bool
  monitoring : Bool
  deriving DecidableEq

/-- Where the callback of a reply was found. -/
inductive Source
  /-- In the queue of the ordinary commands. -/
  | reply
  /-- In the dictionaries of the subscriptions. -/
  | subscription
  /-- In the queue of the commands sent to a subscribed connection. -/
  | invalid
  /-- It is the one that was run before. -/
  | monitor
  deriving DecidableEq

/-- A callback that was run, with its reply, `none` for `NULL`. -/
structure Run (κ : Type*) where
  source : Source
  callback : Option κ
  reply : Option Resp.Value

/-- A `redisAsyncContext`.  A callback is a `κ`, with `none` for a `NULL` function. -/
structure Context (κ : Type*) where
  flags : Flags
  /-- `c->err` is set. -/
  err : Bool
  /-- The output buffer. -/
  obuf : List Char
  /-- The bytes that the reader holds. -/
  ibuf : List Char
  replies : List (Option κ)
  invalid : List (Option κ)
  channels : Dict (List Char) (Option κ)
  patterns : Dict (List Char) (Option κ)
  /-- The context has been freed. -/
  freed : Bool
  /-- Record: the callbacks that were run. -/
  log : List (Run κ)
  /-- Record: the callbacks of the ordinary commands. -/
  issued : List (Option κ)
  /-- Record: the commands that were accepted, with their callbacks. -/
  accepted : List (List (List Char) × Option κ)
  /-- Record: the bytes that were read from the socket and written to it. -/
  arrived : List Char
  sent : List Char

variable {κ : Type*}

/-- `redisAsyncInitialize`. -/
def redisAsyncInitialize : Context κ where
  flags := ⟨false, false, false, false, false, false⟩
  err := false
  obuf := []
  ibuf := []
  replies := []
  invalid := []
  channels := ∅
  patterns := ∅
  freed := false
  log := []
  issued := []
  accepted := []
  arrived := []
  sent := []

/-- `__redisPushCallback(&ac->replies, cb)`. -/
def Context.pushReplies (ac : Context κ) (cb : Option κ) : Context κ :=
  { ac with replies := ac.replies ++ [cb], issued := ac.issued ++ [cb] }

/-! ## Commands -/

/-- `nextArgument`: the text that starts with the next argument, and the length of the argument. -/
def nextArgument (start : List Char) : Option (List Char × ℕ) :=
  match if start.head? = some '$' then some 0 else strchr '$' start with
  | none => none
  | some i =>
    let p := start.drop i
    match Numeral.readNat 10 (p.drop 1), strchr '\r' p with
    | some (len, _), some j => some (p.drop (j + 2), len)
    | _, _ => none

/-- The loop over the arguments of a subscription. -/
def arguments : ℕ → List Char → List (List Char)
  | 0, _ => []
  | fuel + 1, p =>
    match nextArgument p with
    | none => []
    | some (astr, alen) => astr.take alen :: arguments fuel (astr.drop (alen + 2))

/-- `strncasecmp(s, name, strlen(name)) == 0`, for a name in lower case. -/
def startsWith (s : List Char) (name : String) : Bool :=
  (s.take name.length).map Char.toLower == name.toList

/-- What `__redisAsyncCommand` makes of a command. -/
inductive Kind
  | subscribe (pvariant : Bool) (channels : List (List Char))
  | unsubscribe
  | monitor
  | ordinary

/-- The part of `__redisAsyncCommand` that finds out which command will be appended. -/
def kindOf (cmd : List Char) : Kind :=
  match nextArgument cmd with
  -- an assertion: a printed command has a first argument
  | none => .ordinary
  | some (cstr, clen) =>
    let p := cstr.drop (clen + 2)
    let hasnext := p.head? = some '$'
    let pvariant := cstr.head?.map Char.toLower = some 'p'
    let cstr := if pvariant then cstr.drop 1 else cstr
    if hasnext ∧ startsWith cstr "smemsubscribe\r\n" then
      .subscribe pvariant (arguments p.length p)
    else if hasnext ∧ startsWith cstr "subscribe\r\n" then
      .subscribe pvariant (arguments p.length p)
    else if startsWith cstr "unsubscribe\r\n" then .unsubscribe
    else if startsWith cstr "monitor\r\n" then .monitor
    else .ordinary

/-- `dictReplace` for every channel. -/
def replaceAll (d : Dict (List Char) (Option κ)) (cb : Option κ) :
    List (List Char) → Dict (List Char) (Option κ)
  | [] => d
  | sname :: snames => replaceAll (d.insert sname cb) cb snames

/-- The dictionaries and queues behind a command, `none` if it is refused. -/
def Context.register (ac : Context κ) (fn : Option κ) : Kind → Option (Context κ)
  | .subscribe pvariant snames =>
    let ac := { ac with flags := { ac.flags with subscribed := true } }
    if pvariant then some { ac with patterns := replaceAll ac.patterns fn snames }
    else some { ac with channels := replaceAll ac.channels fn snames }
  | .unsubscribe => if ac.flags.subscribed then some ac else none
  | .monitor =>
    some ({ ac with flags := { ac.flags with monitoring := true } }.pushReplies fn)
  | .ordinary =>
    if ac.flags.subscribed then some { ac with invalid := ac.invalid ++ [fn] }
    else some (ac.pushReplies fn)

/-- `__redisAsyncCommand`, for the printed command. -/
def redisAsyncCommand (ac : Context κ) (fn : Option κ) (argv : List (List Char)) : Context κ :=
  if ac.flags.disconnecting || ac.flags.freeing then ac
  else
    match ac.register fn (kindOf (requestText argv)) with
    | none => ac
    | some ac =>
      { ac with obuf := ac.obuf ++ requestText argv, accepted := ac.accepted ++ [(argv, fn)] }

/-! ## Callbacks -/

/-- What an application calls.  A command has a name, so that it is never empty. -/
inductive Call (κ : Type*)
  | command (fn : Option κ) (name : List Char) (args : List (List Char))
  | disconnect
  | free

/-- A call in a callback: `REDIS_IN_CALLBACK` is set, so that only flags are set for the context to
be closed or freed. -/
def Context.callInside (ac : Context κ) : Call κ → Context κ
  | .command fn name args => redisAsyncCommand ac fn (name :: args)
  | .disconnect => { ac with flags := { ac.flags with disconnecting := true } }
  | .free => { ac with flags := { ac.flags with freeing := true } }

/-- What the library calls but this repository does not contain. -/
inductive GetReply
  /-- `REDIS_ERR`. -/
  | error
  /-- `REDIS_OK` with a `NULL` reply. -/
  | incomplete
  | reply (v : Resp.Value) (rest : List Char)

/-- The application and the rest of the library. -/
structure Env (κ : Type*) where
  /-- What the application calls in the last of these callbacks. -/
  app : List (Run κ) → List (Call κ)
  redisGetReply : List Char → GetReply

variable (env : Env κ)

/-- `__redisRunCallback`. -/
def redisRunCallback (ac : Context κ) (source : Source) (cb : Option κ)
    (reply : Option Resp.Value) : Context κ :=
  let ac := { ac with log := ac.log ++ [⟨source, cb, reply⟩] }
  match cb with
  | none => ac
  | some _ =>
    let ac := { ac with flags := { ac.flags with inCallback := true } }
    let ac := (env.app ac.log).foldl Context.callInside ac
    { ac with flags := { ac.flags with inCallback := false } }

/-- The loop that runs the callbacks of the replies, which has no more turns than there are
callbacks: no command is accepted meanwhile. -/
def flushReplies : ℕ → Context κ → Context κ
  | 0, ac => ac
  | n + 1, ac =>
    match ac.replies with
    | [] => ac
    | cb :: replies =>
      flushReplies n (redisRunCallback env { ac with replies := replies } .reply cb none)

/-- The same for the commands sent to a subscribed connection. -/
def flushInvalid : ℕ → Context κ → Context κ
  | 0, ac => ac
  | n + 1, ac =>
    match ac.invalid with
    | [] => ac
    | cb :: invalid =>
      flushInvalid n (redisRunCallback env { ac with invalid := invalid } .invalid cb none)

/-- The same for the entries of a dictionary. -/
def flushEntries (entries : List (Sigma fun _ : List Char => Option κ)) (ac : Context κ) :
    Context κ :=
  entries.foldl (fun ac e => redisRunCallback env ac .subscription e.2 none) ac

/-- `__redisAsyncFree`. -/
def redisAsyncFree (ac : Context κ) : Context κ :=
  let ac := flushReplies env ac.replies.length ac
  let ac := flushInvalid env ac.invalid.length ac
  let ac := flushEntries env ac.channels.entries ac
  let ac := flushEntries env ac.patterns.entries ac
  { ac with freed := true }

/-- `__redisAsyncDisconnect`: without an error there must be no callback left. -/
def redisAsyncDisconnect (ac : Context κ) : Option (Context κ) :=
  if ac.err then
    some (redisAsyncFree env { ac with flags := { ac.flags with disconnecting := true } })
  else if ac.replies = [] then some (redisAsyncFree env ac)
  else none

/-- `__redisGetSubscribeCallback`: the callback of the first entry is taken, as all are the same;
if there is none, the callback `cb` of the reply before stays. -/
def redisGetSubscribeCallback (ac : Context κ) (cb : Option κ) :
    Resp.Value → Option (Source × Option κ × Context κ)
  | .array (.bulk stype :: .bulk sname :: rest) =>
    let pvariant := stype.head?.map Char.toLower = some 'p'
    let callbacks := if pvariant then ac.patterns else ac.channels
    match callbacks.entries with
    | [] => some (.subscription, cb, ac)
    | e :: _ =>
      let stype := if pvariant then stype.drop 1 else stype
      if Network.strcaseeq stype "unsubscribe" then
        let ac := if pvariant then { ac with patterns := ac.patterns.erase sname }
          else { ac with channels := ac.channels.erase sname }
        match rest with
        | .integer n :: _ =>
          some (.subscription, e.2, if n = 0 then
            { ac with flags := { ac.flags with subscribed := false } } else ac)
        | _ => none
      else some (.subscription, e.2, ac)
  | .array _ => none
  | _ =>
    match ac.invalid with
    | [] => some (.invalid, cb, ac)
    | cb :: invalid => some (.invalid, cb, { ac with invalid := invalid })

/-- The callback for a reply, and where it was found: `none` for an assertion that fails. -/
def findCallback (ac : Context κ) (cb : Option κ) (v : Resp.Value) :
    Option (Source × Option κ × Context κ) :=
  match ac.replies with
  | cb :: replies => some (.reply, cb, { ac with replies := replies })
  | [] =>
    if ac.flags.subscribed then redisGetSubscribeCallback ac cb v
    else if ac.flags.monitoring then some (.monitor, cb, ac)
    else none

/-- `REDIS_REPLY_ERROR`. -/
def isError : Resp.Value → Bool
  | .error _ => true
  | _ => false

/-- The loop of `redisProcessCallbacks`; `cb` is the callback of the reply before. -/
def processCallbacks : ℕ → Option κ → Context κ → Option (Context κ)
  | 0, _, ac => some ac
  | fuel + 1, cb, ac =>
    match env.redisGetReply ac.ibuf with
    | .error => redisAsyncDisconnect env { ac with err := true }
    | .incomplete =>
      if ac.flags.disconnecting ∧ ac.obuf = [] then redisAsyncDisconnect env ac
      else if ac.flags.monitoring then some (ac.pushReplies cb)
      else some ac
    | .reply v rest =>
      let ac := { ac with ibuf := rest }
      -- an error that nobody has asked for closes the connection
      if ac.replies = [] ∧ isError v then redisAsyncDisconnect env { ac with err := true }
      else
        match findCallback ac cb v with
        | none => none
        | some (source, cb, ac) =>
          let ac := redisRunCallback env ac source cb (some v)
          if cb.isSome ∧ ac.flags.freeing then some (redisAsyncFree env ac)
          else processCallbacks fuel cb ac

/-- `redisProcessCallbacks`: every reply takes at least one byte. -/
def redisProcessCallbacks (ac : Context κ) : Option (Context κ) :=
  processCallbacks env (ac.ibuf.length + 1) none ac

/-! ## Events -/

/-- What `redisCheckSocketError` finds on a connection that is not marked as connected. -/
inductive Socket
  | connected
  | inProgress
  | failed

/-- `__redisAsyncHandleConnect`, and then `f` if the connection is made. -/
def handleConnect (ac : Context κ) (socket : Socket) (f : Context κ → Option (Context κ)) :
    Option (Context κ) :=
  if ac.flags.connected then f ac
  else
    match socket with
    | .connected => f { ac with flags := { ac.flags with connected := true } }
    | .inProgress => some ac
    | .failed => redisAsyncDisconnect env { ac with err := true }

/-- `redisAsyncHandleRead`; `data` is `none` if `read` fails or the stream has ended. -/
def redisAsyncHandleRead (ac : Context κ) (socket : Socket) (data : Option (List Char)) :
    Option (Context κ) :=
  handleConnect env ac socket fun ac =>
    match data with
    | none => redisAsyncDisconnect env { ac with err := true }
    | some data => redisProcessCallbacks env
        { ac with ibuf := ac.ibuf ++ data, arrived := ac.arrived ++ data }

/-- `redisAsyncHandleWrite`; the kernel takes `n` bytes, or `write` fails. -/
def redisAsyncHandleWrite (ac : Context κ) (socket : Socket) (n : Option ℕ) :
    Option (Context κ) :=
  handleConnect env ac socket fun ac =>
    match n with
    | none => redisAsyncDisconnect env { ac with err := true }
    | some n => some { ac with obuf := ac.obuf.drop n, sent := ac.sent ++ ac.obuf.take n }

/-- What happens to a context: calls of the application outside of callbacks, and events. -/
inductive Event (κ : Type*)
  | call (c : Call κ)
  | readable (socket : Socket) (data : Option (List Char))
  | writable (socket : Socket) (n : Option ℕ)

/-- A call outside of callbacks. -/
def Context.callOutside (ac : Context κ) : Call κ → Option (Context κ)
  | .command fn name args => some (redisAsyncCommand ac fn (name :: args))
  | .disconnect =>
    let ac := { ac with flags := { ac.flags with disconnecting := true } }
    if ac.replies = [] then redisAsyncDisconnect env ac else some ac
  | .free => some (redisAsyncFree env { ac with flags := { ac.flags with freeing := true } })

/-- One event; nothing happens to a context that is freed. -/
def Context.step (ac : Context κ) (e : Event κ) : Option (Context κ) :=
  if ac.freed then some ac
  else
    match e with
    | .call c => ac.callOutside env c
    | .readable socket data => redisAsyncHandleRead env ac socket data
    | .writable socket n => redisAsyncHandleWrite env ac socket n

/-- A connection as a transition system. -/
def connection : System (Context κ) (Event κ) where
  Init ac := ac = redisAsyncInitialize
  step := Context.step env

end SelfTestCode.Client.Async
