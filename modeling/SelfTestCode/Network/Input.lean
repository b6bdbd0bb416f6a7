import SelfTestCode.Network.Output

/-!
# Requests on their way to the server

The input half of `redis/src/networking.c`.  `readQueryFromClient` appends what `read(2)` returns to
the query buffer and `processInputBuffer` takes requests off its front, each either a line of words
or a multi bulk request: a line with the number of arguments, then for every argument a line with
its length and its bytes.  A multi bulk request is parsed as far as it has arrived; the arguments
found, the number still to come and the length of the next one are kept in the client until more
bytes come.

`Query` holds these fields and the functions follow the source.  What happens when a request is
complete, or is refused, is not the parser's business: the loop works for any `Host`, which says how
a command is executed on the state of the server and whether the connection is to be closed.

`string2ll` and `sdssplitargs` are not in the repository and are parameters.  Paused and blocked
clients, slaves and the peak of the query buffer are left out; the two assertions of
`processMultibulkBuffer` are outcomes of their own.
-/

namespace SelfTestCode.Network

/-- `PROTO_INLINE_MAX_SIZE`. -/
def protoInlineMaxSize : ℕ := 1024 * 64

/-- `PROTO_MBULK_BIG_ARG`. -/
def protoMbulkBigArg : ℕ := 1024 * 32

/-- `PROTO_IOBUF_LEN`. -/
def protoIobufLen : ℕ := 1024 * 16

/-- `server.client_max_querybuf_len`. -/
def clientMaxQuerybufLen : ℕ := 1024 * 1024 * 1024

/-- The largest number of arguments. -/
def maxMultibulkLen : ℕ := 1024 * 1024

/-- The largest argument. -/
def maxBulkLen : ℕ := 512 * 1024 * 1024

/-- `PROTO_REQ_INLINE` and `PROTO_REQ_MULTIBULK`. -/
inductive ReqType
  | inline
  | multibulk
  deriving DecidableEq, Repr

/-- The fields of a `client` that the parser uses. -/
structure Query where
  querybuf : List Char
  /-- `c->reqtype`, with 0 as `none`. -/
  reqtype : Option ReqType
  /-- The arguments found so far; `c->argc` is their number. -/
  argv : List (List Char)
  /-- The number of arguments still to come. -/
  multibulklen : ℕ
  /-- The length of the next argument, with -1 as `none`. -/
  bulklen : Option ℕ
  deriving DecidableEq

/-- The fields as `createClient` sets them. -/
def Query.new : Query := ⟨[], none, [], 0, none⟩

/-- The part of `resetClient` that concerns the parser. -/
def Query.reset (q : Query) : Query :=
  { q with argv := [], reqtype := none, multibulklen := 0, bulklen := none }

/-- What the parser calls but this repository does not contain. -/
structure ParseEnv where
  /-- The number a text is, if it is one. -/
  string2ll : List Char → Option ℤ
  /-- The words of a line, `none` for unbalanced quotes. -/
  sdssplitargs : List Char → Option (List (List Char))

/-- `string2ll` reads the numbers that clients print. -/
def ParseEnv.ReadsDecimals (env : ParseEnv) : Prop :=
  ∀ m : ℕ, m ≤ maxBulkLen → env.string2ll (Numeral.intChars m) = some (m : ℤ)

/-- How an attempt to parse a request ends. -/
inductive Parse
  /-- `C_ERR`: more bytes are needed. -/
  | incomplete
  /-- `C_OK`. -/
  | complete
  /-- `C_ERR` after `addReplyError` with this text and `setProtocolError`. -/
  | protocolError (text : List Char)
  /-- A `serverAssertWithInfo` failed. -/
  | assertFailed
  deriving DecidableEq

/-- `strchr(s, ch)`, for a text that has a NUL at its end and maybe others inside. -/
def strchr (ch : Char) : List Char → Option ℕ
  | [] => none
  | a :: s => if a = ch then some 0 else if a = '\x00' then none else (strchr ch s).map (· + 1)

/-! ## Requests in one line -/

/-- `processInlineBuffer`. -/
def processInlineBuffer (env : ParseEnv) (q : Query) : Parse × Query :=
  match strchr '\n' q.querybuf with
  | none =>
    if protoInlineMaxSize < q.querybuf.length then
      (.protocolError "Protocol error: too big inline request".toList, q)
    else (.incomplete, q)
  | some newline =>
    let querylen :=
      if 0 < newline ∧ q.querybuf[newline - 1]? = some '\r' then newline - 1 else newline
    match env.sdssplitargs (q.querybuf.take querylen) with
    | none => (.protocolError "Protocol error: unbalanced quotes in request".toList, q)
    | some argv =>
      (.complete, { q with
        querybuf := q.querybuf.drop (querylen + 2), argv := argv.filter (· ≠ []) })

/-! ## Multi bulk requests -/

/-- What the first line of a multi bulk request leads to: the attempt ends, or it goes on with the
arguments, at the position `pos` of the buffer. -/
inductive CountLine
  | done (p : Parse) (q : Query)
  | arguments (q : Query) (pos : ℕ)

/-- The part of `processMultibulkBuffer` for `multibulklen == 0`. -/
def readMultibulkLen (env : ParseEnv) (q : Query) : CountLine :=
  if q.argv ≠ [] then .done .assertFailed q
  else
    match strchr '\r' q.querybuf with
    | none =>
      if protoInlineMaxSize < q.querybuf.length then
        .done (.protocolError "Protocol error: too big mbulk count string".toList) q
      else .done .incomplete q
    | some newline =>
      if q.querybuf.length < newline + 2 then .done .incomplete q
      else if q.querybuf.head? ≠ some '*' then .done .assertFailed q
      else
        match env.string2ll ((q.querybuf.take newline).drop 1) with
        | none => .done (.protocolError "Protocol error: invalid multibulk length".toList) q
        | some ll =>
          if (maxMultibulkLen : ℤ) < ll then
            .done (.protocolError "Protocol error: invalid multibulk length".toList) q
          else if ll ≤ 0 then
            .done .complete { q with querybuf := q.querybuf.drop (newline + 2) }
          else .arguments { q with multibulklen := ll.toNat, argv := [] } (newline + 2)

/-- What the line with the length of an argument leads to. -/
inductive BulkLine
  /-- An error, with the position to which the buffer is trimmed. -/
  | error (text : List Char) (pos : ℕ)
  /-- More bytes are needed. -/
  | wait
  /-- The length is known; the buffer may have been trimmed. -/
  | known (len : ℕ) (querybuf : List Char) (pos : ℕ)

/-- The text `addReplyErrorFormat` makes for a length that does not start with a dollar sign; the
format stops at a NUL. -/
def expectedDollar (got : Char) : List Char :=
  withoutNewlines
    (("Protocol error: expected '$', got '".toList ++ [got] ++ "'".toList).takeWhile (· ≠ '\x00'))

/-- The part of the loop of `processMultibulkBuffer` for `bulklen == -1`. -/
def readBulkLen (env : ParseEnv) (querybuf : List Char) (pos : ℕ) : BulkLine :=
  match strchr '\r' (querybuf.drop pos) with
  | none =>
    if protoInlineMaxSize < querybuf.length then
      .error "Protocol error: too big bulk count string".toList 0
    else .wait
  | some newline =>
    if querybuf.length < pos + newline + 2 then .wait
    else
      match querybuf.drop pos with
      | [] => .wait
      | got :: rest =>
        if got ≠ '$' then .error (expectedDollar got) pos
        else
          match env.string2ll (rest.take (newline - 1)) with
          | none => .error "Protocol error: invalid bulk length".toList pos
          | some ll =>
            if ll < 0 ∨ (maxBulkLen : ℤ) < ll then
              .error "Protocol error: invalid bulk length".toList pos
            else if (protoMbulkBigArg : ℤ) ≤ ll then
              -- a large argument is made to start at the front of the buffer
              .known ll.toNat (querybuf.drop (pos + newline + 2)) 0
            else .known ll.toNat querybuf (pos + newline + 2)

/-- The length of the next argument, which an earlier attempt may have read. -/
def nextBulk (env : ParseEnv) (q : Query) (pos : ℕ) : BulkLine :=
  match q.bulklen with
  | some len => .known len q.querybuf pos
  | none => readBulkLen env q.querybuf pos

/-- The loop of `processMultibulkBuffer` with `left` arguments to come, at the position `pos` of the
buffer, and the trimming of the buffer at its end. -/
def readArguments (env : ParseEnv) : ℕ → Query → ℕ → Parse × Query
  | 0, q, pos => (.complete, { q with multibulklen := 0, querybuf := q.querybuf.drop pos })
  | left + 1, q, pos =>
    match nextBulk env q pos with
    | .error text pos' =>
      (.protocolError text, { q with
        multibulklen := left + 1, querybuf := q.querybuf.drop pos' })
    | .wait => (.incomplete, { q with
        multibulklen := left + 1, querybuf := q.querybuf.drop pos })
    | .known len querybuf pos' =>
      if querybuf.length - pos' < len + 2 then
        (.incomplete, { q with
          multibulklen := left + 1, bulklen := some len, querybuf := querybuf.drop pos' })
      else if pos' = 0 ∧ protoMbulkBigArg ≤ len ∧ querybuf.length = len + 2 then
        -- the buffer itself becomes the argument
        readArguments env left { q with
          argv := q.argv ++ [querybuf.take len], querybuf := [], bulklen := none } 0
      else
        readArguments env left { q with
          argv := q.argv ++ [(querybuf.drop pos').take len], querybuf := querybuf,
          bulklen := none } (pos' + len + 2)

/-- `processMultibulkBuffer`. -/
def processMultibulkBuffer (env : ParseEnv) (q : Query) : Parse × Query :=
  if q.multibulklen = 0 then
    match readMultibulkLen env q with
    | .done p q => (p, q)
    | .arguments q pos => readArguments env q.multibulklen q pos
  else readArguments env q.multibulklen q 0

/-! ## The loop over the requests -/

/-- The server as the parser sees it, for one client. -/
structure Host (σ : Type*) where
  /-- `c->flags & CLIENT_CLOSE_AFTER_REPLY`. -/
  closing : σ → Bool
  /-- `addReplyError` with a text, and then the flag. -/
  protocolError : σ → List Char → σ
  /-- `processCommand`: whether it returned `C_OK`; `none` if the server does not survive it. -/
  processCommand : σ → List (List Char) → Option (Bool × σ)
  /-- The part of `resetClient` that concerns the flags. -/
  resetClient : σ → σ

variable {σ : Type*}

/-- `c->reqtype`, determined by the first byte if it is not known. -/
def Query.typed (q : Query) : Query :=
  match q.reqtype with
  | some _ => q
  | none => { q with reqtype := some (if q.querybuf.head? = some '*' then .multibulk else .inline) }

/-- Parse one request. -/
def parseRequest (env : ParseEnv) (q : Query) : Parse × Query :=
  match q.reqtype with
  | some .multibulk => processMultibulkBuffer env q
  | _ => processInlineBuffer env q

/-- The loop of `processInputBuffer`, with the number of turns bounded: every turn that goes on
takes at least one byte off the buffer. -/
def processInput (env : ParseEnv) (host : Host σ) : ℕ → Query → σ → Option (Query × σ)
  | 0, q, s => some (q, s)
  | fuel + 1, q, s =>
    if q.querybuf = [] then some (q, s)
    else if host.closing s then some (q, s)
    else
      match parseRequest env q.typed with
      | (.incomplete, q') => some (q', s)
      | (.protocolError text, q') => some (q', host.protocolError s text)
      | (.assertFailed, _) => none
      | (.complete, q') =>
        if q'.argv = [] then processInput env host fuel q'.reset (host.resetClient s)
        else
          match host.processCommand s q'.argv with
          | none => none
          | some (true, s') => processInput env host fuel q'.reset (host.resetClient s')
          | some (false, s') => processInput env host fuel q' s'

/-- `processInputBuffer`. -/
def processInputBuffer (env : ParseEnv) (host : Host σ) (q : Query) (s : σ) : Option (Query × σ) :=
  processInput env host q.querybuf.length q s

/-- The number of bytes `readQueryFromClient` asks for: no more than a large argument lacks. -/
def Query.readlen (q : Query) : ℕ :=
  match q.bulklen with
  | some len =>
    if q.reqtype = some .multibulk ∧ q.multibulklen ≠ 0 ∧ protoMbulkBigArg ≤ len then
      min (len + 2 - q.querybuf.length) protoIobufLen
    else protoIobufLen
  | none => protoIobufLen

/-- How `readQueryFromClient` leaves the client. -/
inductive ReadResult (σ : Type*)
  | alive (q : Query) (s : σ)
  /-- The query buffer has grown too long; the client is freed. -/
  | freed (s : σ)

/-- `readQueryFromClient`, once `read` has returned the bytes `data`. -/
def readQueryFromClient (env : ParseEnv) (host : Host σ) (q : Query) (s : σ) (data : List Char) :
    Option (ReadResult σ) :=
  let q := { q with querybuf := q.querybuf ++ data }
  if clientMaxQuerybufLen < q.querybuf.length then some (.freed s)
  else (processInputBuffer env host q s).map fun r => .alive r.1 r.2

end SelfTestCode.Network
