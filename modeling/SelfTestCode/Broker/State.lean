import Mathlib
import SelfTestCode.Framework.Dict

/-!
# The state of the shared-memory broker

The broker is a redis server with six extra commands (`redis/src/smem4redis.c`).  Clients ask
it for System V shared-memory segments (`SMEMGET`), hand segment ids to one another through
channels (`SMEMSUBSCRIBE`, `SMEMPUBLISH`, `SMEMSWITCH`) and give them back (`SMEMFREE`,
`SMEMRM`); a cron job (`smemFreeShareMemory`) reclaims what was kept too long.

This module holds the data model.  `Server` collects the fields of `struct redisServer` that
the six commands and the sweep read or write, the connected clients, and the kernel's side of
the story: the segments the server created and has not removed (`segs`).  Widths are the
source's own: `int` is `Int32`, `long long` and `time_t` are `Int64`, `size_t` is `UInt64`.

What the code takes from outside the repository is gathered in `Env`: the answers of `shmget`
and `shmctl(IPC_RMID)`, indexed by a running count of system calls (`calls`), and redis's own
`getLongLongFromObject`.  An `Env` fixes every answer of a whole run in advance, so a statement
about all `Env` is a statement about every behaviour of the kernel.

Redis's object reference counts, the command table's arity and flag checks (among them the one
that keeps a `CLIENT_PUBSUB` client from most commands, so the runs here are more than the
server's) and the replication of `SMEMPUBLISH` are left out.  `uid` and `mode` of
`struct smem_t` are never written by the broker and are left out too, as is `smem_list_used`,
which nothing reads.
-/

namespace SelfTestCode.Broker

/-- A redis string (`sds`): a byte string, one character for each byte. -/
abbrev Sds := String

/-- The identity of a connection (`c->id`, drawn from `server.next_client_id`). -/
abbrev ClientId := ℕ

/-- `SMEM_T_STATE_AVAILAVLE` and `SMEM_T_STATE_USED`. -/
inductive SmemState
  | available
  | used
  deriving DecidableEq, Repr

/-- `struct smem_t`: the broker's record of one segment. -/
structure SmemT where
  /-- The id of the segment. -/
  id : Int32
  /-- The size the segment was created with. -/
  size : Int32
  /-- Whether the record is handed out or pooled. -/
  state : SmemState
  /-- The use count. -/
  cnt : Int32
  /-- How many sweeps have failed to remove the segment. -/
  freeCnt : Int32
  /-- `last_time`, documented as the last use time. -/
  lastTime : Int64
  deriving DecidableEq, Repr

/-- A kernel segment: its id and the size `shmget` was called with. -/
structure Segment where
  id : Int32
  size : Int32
  deriving DecidableEq, Repr

/-- What the broker keeps of a `client`: its name (`CLIENT SETNAME`) and the dictionary
`smempubsub_channels`, used as a set. -/
structure Client where
  name : Option Sds
  smempubsubChannels : Dict Sds Unit
  deriving DecidableEq

/-- A RESP value, as the server sends it and as hiredis hands it to a callback. -/
inductive Reply
  | integer (n : Int64)
  | bulk (s : Sds)
  | multiBulk (elements : List Reply)

/-- What the broker calls but this repository does not contain. -/
structure Env where
  /-- The answer of the system call number `i`, if it is a `shmget`. -/
  shmget : ℕ → Int32
  /-- Whether the system call number `i`, if it is `shmctl(id, IPC_RMID, 0)`, returns 0.  The
  last argument says whether the segment `id` is among the server's existing ones. -/
  rmid : ℕ → Int32 → Bool → Bool
  /-- `getLongLongFromObject`, with `none` for `C_ERR`. -/
  getLongLongFromObject : Sds → Option Int64

/-- `shmget` answers `-1` or an id that it never answered before. -/
def Env.FreshIds (env : Env) : Prop :=
  ∀ i j, env.shmget i ≠ -1 → env.shmget i = env.shmget j → i = j

/-- `IPC_RMID` succeeds on an existing segment. -/
def Env.RmidSucceeds (env : Env) : Prop :=
  ∀ i id, env.rmid i id true = true

/-- The fields of `server` that the smem commands use, with the kernel beside them. -/
structure Server where
  /-- The connected clients. -/
  clients : Dict ClientId Client
  nextClientId : ClientId
  /-- `channel -> list of clients`. -/
  smempubsubChannels : Dict Sds (List ClientId)
  /-- The records handed out, keyed by the decimal text of the id. -/
  smempubsubMemorys : Dict Sds SmemT
  /-- The pooled records: lists keyed by the decimal text of the size. -/
  smempubsubMemorysAvailable : Dict Sds (List SmemT)
  /-- The list `SMEMRM` searches. -/
  smemListAvailable : List SmemT
  shareMemorySize : UInt64
  shareMemoryLimit : UInt64
  unixtime : Int64
  /-- Kernel: the segments the server created and has not removed. -/
  segs : List Segment
  /-- Kernel: the number of `shmget` and `shmctl` calls so far. -/
  calls : ℕ
  deriving DecidableEq

/-- The state `initServer` builds on a machine with `systemMemorySize` bytes. -/
def initServer (systemMemorySize : UInt64) : Server where
  clients := ∅
  nextClientId := 1
  smempubsubChannels := ∅
  smempubsubMemorys := ∅
  smempubsubMemorysAvailable := ∅
  smemListAvailable := []
  shareMemorySize := 0
  shareMemoryLimit := systemMemorySize / 2
  unixtime := 0
  segs := []
  calls := 0

/-! ## Keys, sizes and alignment -/

/-- `sdsfromlonglong` of an `int`: the decimal text that keys both tables. -/
def sdsfromlonglong (n : Int32) : Sds := toString n.toInt

lemma sdsfromlonglong_injective {m n : Int32} (h : sdsfromlonglong m = sdsfromlonglong n) :
    m = n :=
  Int32.toInt_inj.mp (Int.repr_injective h)

@[simp] lemma sdsfromlonglong_inj {m n : Int32} :
    sdsfromlonglong m = sdsfromlonglong n ↔ m = n :=
  ⟨sdsfromlonglong_injective, fun h => h ▸ rfl⟩

/-- The conversion of an `int` to `size_t`. -/
def sizeT (x : Int32) : UInt64 := x.toInt64.toUInt64

/-- `SMEMALIGN(x, a)`, in 32-bit arithmetic. -/
def smemalign (x a : Int32) : Int32 := ((x + a) - 1) &&& ~~~(a - 1)

/-- `MAX_SMEM_SIZE`: a 4K picture, `4096*2160*3` bytes. -/
def maxSmemSize : Int32 := 26542080

/-! ## The kernel -/

/-- `shmget(IPC_PRIVATE, size, 0666)`. -/
def shmget (env : Env) (s : Server) (size : Int32) : Int32 × Server :=
  let id := env.shmget s.calls
  (id, { s with
    calls := s.calls + 1
    segs := if id = -1 then s.segs else ⟨id, size⟩ :: s.segs })

/-- `smem_get_buffer` (`smem.c`). -/
def smemGetBuffer (env : Env) (s : Server) (size : Int32) : Int32 × Server :=
  if 0 < size ∧ size ≤ maxSmemSize then shmget env s size else (-1, s)

/-- `smem_free_buffer` (`smem.c`): `shmctl(id, IPC_RMID, 0)`; the Boolean says that it
returned 0. -/
def smemFreeBuffer (env : Env) (s : Server) (id : Int32) : Bool × Server :=
  let ok := env.rmid s.calls id (s.segs.any fun g => g.id == id)
  (ok, { s with
    calls := s.calls + 1
    segs := if ok then s.segs.filter fun g => g.id != id else s.segs })

end SelfTestCode.Broker
