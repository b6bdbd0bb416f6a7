import SelfTestCode.Broker.State
import SelfTestCode.Framework.Transition
import SelfTestCode.Framework.Resp

/-!
# Replies on their way to the client

The output half of `redis/src/networking.c`.  A reply goes into the static buffer of the client
while that has room and nothing is listed behind it, and from then on into a list of string
objects, where it is glued to the last object if that is a raw string of at most 16 KB.  Nothing is
written at once: the client is put on `clients_pending_write`, which is served before the server
goes to sleep, and a client whose socket does not take everything gets a write handler.

`Net` is the state of all connections.  The functions follow the source one by one.  A byte is a
character, as everywhere in this development.

What is outside the repository comes in through `Config` and through the labels of the runs: the
sizes the allocator answers with (numbered by a running count), the encoding `createStringObject`
chooses for a length, the answers of `write(2)` and of `aeCreateFileEvent`.  The Lua client, the
connections to masters and slaves and the deferred multi bulk lengths of `COMMAND` are left out, and
so is the assertion that `reply_bytes` is below `SIZE_MAX`: the bytes are counted as a natural
number.

`Network.Streams` proves what these functions do over whole runs.
-/

namespace SelfTestCode.Network

open Broker (ClientId)

/-- `PROTO_REPLY_CHUNK_BYTES`: the size of the static buffer and of a glued object. -/
def protoReplyChunkBytes : ℕ := 16 * 1024

/-- `NET_MAX_WRITES_PER_EVENT`. -/
def netMaxWritesPerEvent : ℕ := 1024 * 64

/-- `OBJ_SHARED_BULKHDR_LEN`: lengths below have a shared header object. -/
def objSharedBulkhdrLen : ℕ := 32

/-- The encodings of a string object. -/
inductive Encoding
  | raw
  | embstr
  deriving DecidableEq, Repr

/-- An object as a command gives it to `addReply`. -/
inductive Robj
  /-- A string. -/
  | sds (encoding : Encoding) (ptr : List Char)
  /-- `OBJ_ENCODING_INT`: the number is in the pointer. -/
  | int (n : Int64)
  deriving DecidableEq

/-- A string object in a reply list, with the memory the allocator counts for its text. -/
structure Node where
  ptr : List Char
  encoding : Encoding
  usedMemory : ℕ
  deriving DecidableEq

/-- The flags of a client that decide about its replies. -/
structure Flags where
  closeAfterReply : Bool
  closeAsap : Bool
  pendingWrite : Bool
  pubsub : Bool
  replyOff : Bool
  replySkipNext : Bool
  replySkip : Bool
  deriving DecidableEq

/-- `c->flags = 0`. -/
def Flags.none : Flags := ⟨false, false, false, false, false, false, false⟩

/-- The fields of a `client` that the output functions use, with the kernel beside them. -/
structure Conn where
  /-- `c->fd` is a socket. -/
  connected : Bool
  flags : Flags
  /-- `c->buf` up to `c->bufpos`. -/
  buf : List Char
  reply : List Node
  replyBytes : ℕ
  /-- How much of the buffer, or of the first object, has been written. -/
  sentlen : ℕ
  obufSoftLimitReachedTime : Int64
  /-- The event loop has `sendReplyToClient` installed for the socket. -/
  writeHandler : Bool
  /-- Kernel: the bytes the socket has taken. -/
  socket : List Char
  deriving DecidableEq

/-- What `createClient` builds. -/
def Conn.new : Conn where
  connected := true
  flags := Flags.none
  buf := []
  reply := []
  replyBytes := 0
  sentlen := 0
  obufSoftLimitReachedTime := 0
  writeHandler := false
  socket := []

/-- No client, or one that was freed after its socket took `socket`. -/
def Conn.gone (socket : List Char) : Conn :=
  { Conn.new with connected := false, socket := socket }

/-- The classes of clients with their own buffer limits. -/
inductive ClientType
  | normal
  | pubsub
  deriving DecidableEq, Repr

/-- `clientBufferLimitsConfig`; a limit of 0 bytes is none. -/
structure ObufLimits where
  hardLimitBytes : ℕ
  softLimitBytes : ℕ
  softLimitSeconds : Int64

/-- The configuration, and the answers of the allocator. -/
structure Config where
  /-- What the allocator counts for the text of an object, by a running count. -/
  zmallocSize : ℕ → ℕ
  /-- The encoding `createStringObject` gives to a string of this length. -/
  createStringObject : ℕ → Encoding
  /-- `sizeof(listNode) + sizeof(robj)`. -/
  listItemSize : ℕ
  clientObufLimits : ClientType → ObufLimits

/-- The connections of the server. -/
structure Net where
  conns : ClientId → Conn
  clientsPendingWrite : List ClientId
  clientsToClose : List ClientId
  unixtime : Int64
  /-- The number of answers the allocator has given. -/
  allocs : ℕ

/-- No client is connected. -/
def Net.init : Net where
  conns _ := Conn.gone []
  clientsPendingWrite := []
  clientsToClose := []
  unixtime := 0
  allocs := 0

/-- Update one connection. -/
def Net.setConn (n : Net) (c : ClientId) (k : Conn) : Net :=
  { n with conns := Function.update n.conns c k }

/-! ## Scheduling -/

/-- `clientHasPendingReplies`. -/
def Conn.hasPendingReplies (k : Conn) : Bool := !k.buf.isEmpty || !k.reply.isEmpty

/-- `prepareClientToWrite`; `none` is `C_ERR`. -/
def prepareClientToWrite (n : Net) (c : ClientId) : Option Net :=
  let k := n.conns c
  if k.flags.replyOff || k.flags.replySkip then none
  else if !k.connected then none
  else if !k.hasPendingReplies && !k.flags.pendingWrite then
    some { n.setConn c { k with flags := { k.flags with pendingWrite := true } } with
      clientsPendingWrite := c :: n.clientsPendingWrite }
  else some n

/-- `freeClientAsync`. -/
def freeClientAsync (n : Net) (c : ClientId) : Net :=
  let k := n.conns c
  if k.flags.closeAsap then n
  else
    { n.setConn c { k with flags := { k.flags with closeAsap := true } } with
      clientsToClose := n.clientsToClose ++ [c] }

/-- The network half of `freeClient` with `unlinkClient`: the client leaves the two lists, and its
buffers are gone. -/
def freeClient (n : Net) (c : ClientId) : Net :=
  let k := n.conns c
  { n.setConn c (Conn.gone k.socket) with
    clientsPendingWrite :=
      if k.flags.pendingWrite then n.clientsPendingWrite.erase c else n.clientsPendingWrite
    clientsToClose :=
      if k.flags.closeAsap then n.clientsToClose.erase c else n.clientsToClose }

/-- `getClientOutputBufferMemoryUsage`. -/
def getClientOutputBufferMemoryUsage (cfg : Config) (k : Conn) : ℕ :=
  k.replyBytes + cfg.listItemSize * k.reply.length

/-- `getClientType`, for clients that are neither master nor slave. -/
def getClientType (k : Conn) : ClientType :=
  if k.flags.pubsub then .pubsub else .normal

/-- `checkClientOutputBufferLimits`: whether a limit is reached, and the client with the time since
when the soft limit is. -/
def checkClientOutputBufferLimits (cfg : Config) (now : Int64) (k : Conn) : Bool × Conn :=
  let usedMem := getClientOutputBufferMemoryUsage cfg k
  let limits := cfg.clientObufLimits (getClientType k)
  let hard := limits.hardLimitBytes != 0 && decide (limits.hardLimitBytes ≤ usedMem)
  let soft := limits.softLimitBytes != 0 && decide (limits.softLimitBytes ≤ usedMem)
  if soft then
    if k.obufSoftLimitReachedTime = 0 then (hard, { k with obufSoftLimitReachedTime := now })
    else
      let elapsed := now - k.obufSoftLimitReachedTime
      (decide (limits.softLimitSeconds < elapsed) || hard, k)
  else (hard, { k with obufSoftLimitReachedTime := 0 })

/-- `asyncCloseClientOnOutputBufferLimitReached`. -/
def asyncCloseClientOnOutputBufferLimitReached (cfg : Config) (n : Net) (c : ClientId) : Net :=
  let k := n.conns c
  if k.replyBytes = 0 || k.flags.closeAsap then n
  else
    let checked := checkClientOutputBufferLimits cfg n.unixtime k
    let n₁ := n.setConn c checked.2
    if checked.1 then freeClientAsync n₁ c else n₁

/-! ## Buffers -/

/-- `_addReplyToBuffer`; `none` is `C_ERR`. -/
def Conn.addReplyToBuffer (k : Conn) (s : List Char) : Option Conn :=
  let available := protoReplyChunkBytes - k.buf.length
  if k.flags.closeAfterReply then some k
  else if 0 < k.reply.length then none
  else if available < s.length then none
  else some { k with buf := k.buf ++ s }

/-- The common part of the three functions that list a reply: the text is glued to the last object
if that is raw and stays within a chunk, and else becomes an object of its own, of the encoding
`encoding`.  The allocator answers `mem` for the object that is changed or made. -/
def Conn.addNode (mem : ℕ) (k : Conn) (encoding : Encoding) (s : List Char) : Conn :=
  match k.reply.getLast? with
  | some tail =>
    if tail.encoding = .raw ∧ tail.ptr.length + s.length ≤ protoReplyChunkBytes then
      { k with
        reply := k.reply.dropLast ++ [{ tail with ptr := tail.ptr ++ s, usedMemory := mem }]
        replyBytes := k.replyBytes - tail.usedMemory + mem }
    else
      { k with reply := k.reply ++ [⟨s, encoding, mem⟩], replyBytes := k.replyBytes + mem }
  | none => { k with reply := k.reply ++ [⟨s, encoding, mem⟩], replyBytes := k.replyBytes + mem }

/-- List a reply, unless the client is to be closed after the replies it has. -/
def addToList (cfg : Config) (n : Net) (c : ClientId) (encoding : Encoding) (s : List Char) : Net :=
  let k := n.conns c
  if k.flags.closeAfterReply then n
  else
    asyncCloseClientOnOutputBufferLimitReached cfg
      { n.setConn c (k.addNode (cfg.zmallocSize n.allocs) encoding s) with
        allocs := n.allocs + 1 } c

/-- `_addReplyObjectToList`. -/
def addReplyObjectToList (cfg : Config) (n : Net) (c : ClientId) (encoding : Encoding)
    (ptr : List Char) : Net :=
  addToList cfg n c encoding ptr

/-- `_addReplySdsToList`. -/
def addReplySdsToList (cfg : Config) (n : Net) (c : ClientId) (s : List Char) : Net :=
  addToList cfg n c .raw s

/-- `_addReplyStringToList`. -/
def addReplyStringToList (cfg : Config) (n : Net) (c : ClientId) (s : List Char) : Net :=
  addToList cfg n c (cfg.createStringObject s.length) s

/-- Into the static buffer, or by `toList` into the list. -/
def toBufferOr (n : Net) (c : ClientId) (s : List Char) (toList : Net → Net) : Net :=
  match (n.conns c).addReplyToBuffer s with
  | some k => n.setConn c k
  | none => toList n

/-- `ll2string`. -/
def ll2string (n : Int64) : List Char := Numeral.intChars n.toInt

/-- `addReply`. -/
def addReply (cfg : Config) (n : Net) (c : ClientId) (obj : Robj) : Net :=
  match prepareClientToWrite n c with
  | none => n
  | some n₁ =>
    match obj with
    | .sds encoding ptr =>
      toBufferOr n₁ c ptr fun n => addReplyObjectToList cfg n c encoding ptr
    | .int v =>
      -- the object that `getDecodedObject` makes of the number
      let decoded := fun n : Net => toBufferOr n c (ll2string v) fun n =>
        addReplyObjectToList cfg n c (cfg.createStringObject (ll2string v).length) (ll2string v)
      let k := n₁.conns c
      if k.reply.length = 0 ∧ 32 ≤ protoReplyChunkBytes - k.buf.length then
        toBufferOr n₁ c (ll2string v) decoded
      else decoded n₁

/-- `addReplySds`. -/
def addReplySds (cfg : Config) (n : Net) (c : ClientId) (s : List Char) : Net :=
  match prepareClientToWrite n c with
  | none => n
  | some n₁ => toBufferOr n₁ c s fun n => addReplySdsToList cfg n c s

/-- `addReplyString`. -/
def addReplyString (cfg : Config) (n : Net) (c : ClientId) (s : List Char) : Net :=
  match prepareClientToWrite n c with
  | none => n
  | some n₁ => toBufferOr n₁ c s fun n => addReplyStringToList cfg n c s

/-! ## Replies -/

/-- `shared.crlf`. -/
def sharedCrlf : Robj := .sds .raw Resp.crlf

/-- `shared.ok`. -/
def sharedOk : Robj := .sds .raw ("+OK\r\n".toList)

/-- `shared.mbulkhdr[j]`. -/
def sharedMbulkhdr (j : ℕ) : Robj := .sds .raw ('*' :: Resp.line (Numeral.intChars j))

/-- `shared.bulkhdr[j]`. -/
def sharedBulkhdr (j : ℕ) : Robj := .sds .raw ('$' :: Resp.line (Numeral.intChars j))

/-- `addReplyErrorLength`. -/
def addReplyErrorLength (cfg : Config) (n : Net) (c : ClientId) (s : List Char) : Net :=
  let n := addReplyString cfg n c ("-ERR ".toList)
  let n := addReplyString cfg n c s
  addReplyString cfg n c Resp.crlf

/-- `addReplyErrorFormat` makes blanks of the newlines in its text. -/
def withoutNewlines (s : List Char) : List Char :=
  s.map fun ch => if ch = '\r' ∨ ch = '\n' then ' ' else ch

/-- `addReplyLongLongWithPrefix`. -/
def addReplyLongLongWithPrefix (cfg : Config) (n : Net) (c : ClientId) (ll : Int64)
    (kind : Char) : Net :=
  if kind = '*' ∧ ll.toInt < objSharedBulkhdrLen ∧ 0 ≤ ll.toInt then
    addReply cfg n c (sharedMbulkhdr ll.toInt.toNat)
  else if kind = '$' ∧ ll.toInt < objSharedBulkhdrLen ∧ 0 ≤ ll.toInt then
    addReply cfg n c (sharedBulkhdr ll.toInt.toNat)
  else addReplyString cfg n c (kind :: Resp.line (ll2string ll))

/-- `addReplyLongLong`. -/
def addReplyLongLong (cfg : Config) (n : Net) (c : ClientId) (ll : Int64) : Net :=
  if ll = 0 then addReply cfg n c (.sds .raw (":0\r\n".toList))
  else if ll = 1 then addReply cfg n c (.sds .raw (":1\r\n".toList))
  else addReplyLongLongWithPrefix cfg n c ll ':'

/-- The length `addReplyBulkLen` computes for a number: its digits are counted by division. -/
def decimalLength (n : ℕ) : ℕ := if n / 10 = 0 then 1 else decimalLength (n / 10) + 1

/-- The length of an object's text. -/
def Robj.bulkLen : Robj → ℕ
  | .sds _ ptr => ptr.length
  | .int n => (if n.toInt < 0 then 1 else 0) + decimalLength n.toInt.natAbs

/-- `addReplyBulkLen`. -/
def addReplyBulkLen (cfg : Config) (n : Net) (c : ClientId) (obj : Robj) : Net :=
  if obj.bulkLen < objSharedBulkhdrLen then addReply cfg n c (sharedBulkhdr obj.bulkLen)
  else addReplyLongLongWithPrefix cfg n c (Int64.ofNat obj.bulkLen) '$'

/-- `addReplyBulk`. -/
def addReplyBulk (cfg : Config) (n : Net) (c : ClientId) (obj : Robj) : Net :=
  let n := addReplyBulkLen cfg n c obj
  let n := addReply cfg n c obj
  addReply cfg n c sharedCrlf

/-! ## Writing -/

/-- The answer of `write(2)`. -/
inductive WriteResult
  /-- The socket took at most so many bytes of what it was offered. -/
  | wrote (n : ℕ)
  | eagain
  | error
  deriving DecidableEq, Repr

/-- What one turn of the loop of `writeToClient` meets: the answer to its `write`, if it makes one,
and whether the limit on the bytes written in one event holds (`server.maxmemory == 0 ||
zmalloc_used_memory() < server.maxmemory`). -/
structure Turn where
  result : WriteResult
  limited : Bool
  deriving DecidableEq, Repr

/-- The socket took `m` bytes of the static buffer. -/
def Conn.sendBuf (k : Conn) (m : ℕ) : Conn :=
  let sent := { k with
    socket := k.socket ++ (k.buf.drop k.sentlen).take m, sentlen := k.sentlen + m }
  if sent.sentlen = k.buf.length then { sent with buf := [], sentlen := 0 } else sent

/-- The socket took `m` bytes of the first object `o`. -/
def Conn.sendNode (k : Conn) (o : Node) (rest : List Node) (m : ℕ) : Conn :=
  let sent := { k with
    socket := k.socket ++ (o.ptr.drop k.sentlen).take m, sentlen := k.sentlen + m }
  if sent.sentlen = o.ptr.length then
    { sent with reply := rest, sentlen := 0, replyBytes := k.replyBytes - o.usedMemory }
  else sent

/-- How the loop of `writeToClient` goes on after an answer of `write`, `offered` bytes having been
offered: it fails, it breaks, or `sent` many bytes were taken. -/
inductive Written
  | failed
  | broken
  | sent (m : ℕ)

def WriteResult.written (offered : ℕ) : WriteResult → Written
  | .wrote n => if min n offered = 0 then .broken else .sent (min n offered)
  | .eagain => .broken
  | .error => .failed

/-- The loop of `writeToClient`, with what each of its turns meets; a socket with no further answer
is full.  The Boolean says that a `write` failed. -/
def Conn.writeLoop : List Turn → ℕ → Conn → Bool × Conn
  | [], _, k => (false, k)
  | t :: turns, totwritten, k =>
    if !k.hasPendingReplies then (false, k)
    else if 0 < k.buf.length then
      match t.result.written (k.buf.length - k.sentlen) with
      | .failed => (true, k)
      | .broken => (false, k)
      | .sent m =>
        if netMaxWritesPerEvent < totwritten + m ∧ t.limited then (false, k.sendBuf m)
        else writeLoop turns (totwritten + m) (k.sendBuf m)
    else
      match k.reply with
      | [] => (false, k)
      | o :: rest =>
        if o.ptr.length = 0 then
          writeLoop turns totwritten
            { k with reply := rest, replyBytes := k.replyBytes - o.usedMemory }
        else
          match t.result.written (o.ptr.length - k.sentlen) with
          | .failed => (true, k)
          | .broken => (false, k)
          | .sent m =>
            if netMaxWritesPerEvent < totwritten + m ∧ t.limited then (false, k.sendNode o rest m)
            else writeLoop turns (totwritten + m) (k.sendNode o rest m)

/-- `writeToClient`: whether the client is still valid, and the connections. -/
def writeToClient (n : Net) (c : ClientId) (turns : List Turn) (handlerInstalled : Bool) :
    Bool × Net :=
  let written := (n.conns c).writeLoop turns 0
  let k := written.2
  if written.1 then (false, freeClient (n.setConn c k) c)
  else if !k.hasPendingReplies then
    let n₁ := n.setConn c { k with
      sentlen := 0, writeHandler := k.writeHandler && !handlerInstalled }
    if k.flags.closeAfterReply then (false, freeClient n₁ c) else (true, n₁)
  else (true, n.setConn c k)

/-- What `handleClientsWithPendingWrites` meets at one client: the turns of its `writeToClient`, and
whether `aeCreateFileEvent` succeeds. -/
structure PendingAnswer where
  turns : List Turn
  fileEvent : Bool

/-- The client leaves `clients_pending_write`. -/
def takeOffPending (n : Net) (c : ClientId) : Net :=
  let k := n.conns c
  { n.setConn c { k with flags := { k.flags with pendingWrite := false } } with
    clientsPendingWrite := n.clientsPendingWrite.erase c }

/-- If there is something left to write, the write handler is installed, or the client closed. -/
def installHandler (n : Net) (c : ClientId) (fileEvent : Bool) : Net :=
  let k := n.conns c
  if k.hasPendingReplies then
    if fileEvent then n.setConn c { k with writeHandler := true } else freeClientAsync n c
  else n

/-- One turn of the loop of `handleClientsWithPendingWrites`. -/
def handlePendingWrite (n : Net) (c : ClientId) (answer : PendingAnswer) : Net :=
  let written := writeToClient (takeOffPending n c) c answer.turns false
  if written.1 then installHandler written.2 c answer.fileEvent else written.2

/-- The loop of `handleClientsWithPendingWrites` over the nodes of the list. -/
def handlePendingWrites (answers : ClientId → PendingAnswer) : List ClientId → Net → Net
  | [], n => n
  | c :: cs, n => handlePendingWrites answers cs (handlePendingWrite n c (answers c))

/-- `handleClientsWithPendingWrites`. -/
def handleClientsWithPendingWrites (answers : ClientId → PendingAnswer) (n : Net) : Net :=
  handlePendingWrites answers n.clientsPendingWrite n

/-- `sendReplyToClient`, the write handler. -/
def sendReplyToClient (n : Net) (c : ClientId) (turns : List Turn) : Net :=
  (writeToClient n c turns true).2

/-- The loop of `freeClientsInAsyncFreeQueue` over the nodes of the list. -/
def freeClients : List ClientId → Net → Net
  | [], n => n
  | c :: cs, n =>
    let k := n.conns c
    -- the flag goes first, so `freeClient` does not search the list for the client
    let n₁ := freeClient
      (n.setConn c { k with flags := { k.flags with closeAsap := false } }) c
    freeClients cs { n₁ with clientsToClose := n₁.clientsToClose.erase c }

/-- `freeClientsInAsyncFreeQueue`. -/
def freeClientsInAsyncFreeQueue (n : Net) : Net := freeClients n.clientsToClose n

end SelfTestCode.Network
