import SelfTestCode.Client.Callbacks
import SelfTestCode.Network.Service

/-!
# Commands and their answers

The two ends of a connection: an asynchronous client that sends ordinary commands, and the server.
The client writes the requests and reads the socket in pieces of its own, the server reads and
writes in others, and in between it serves its other clients.  The callback of every command gets
the value with which the server answered the request of that command.
-/

namespace SelfTestCode.Client.Async

open Network (World Outside serverSystem Conversation Sendable requests repliesOf messagesOf
  repliesOf_of_plain)

variable {κ : Type*}

section Answers

variable {env : Env κ} {o : Outside} {w : World} {c : Broker.ClientId} {ac : Context κ}

/-- The client with the connection `ac` and the client `c` of the server are the two ends of one
connection: the client reads what the server has sent, and the server what the client has. -/
structure Joined (env : Env κ) (o : Outside) (w : World) (c : Broker.ClientId) (ac : Context κ) :
    Prop where
  server : (serverSystem o).Reachable (fun _ _ => True) w
  connected : (w.net.conns c).connected = true
  client : (connection env).Reachable (fun ac e => e.Fits none (w.net.conns c).socket ac) ac
  received : w.received c <+: ac.sent

/-- A client whose bytes come from a longer text. -/
lemma Event.Fits.mono {k : Option κ} {sent sent' : List Char} (hs : sent <+: sent') {e : Event κ}
    (h : e.Fits k sent ac) : e.Fits k sent' ac := by
  cases e with
  | call call => exact h
  | readable socket data =>
    cases data with
    | none => trivial
    | some data => exact h.trans hs
  | writable socket n => trivial

/-- The client gives what the server has said to its callbacks. -/
lemma Joined.served (h : Joined env o w c ac) (ho : o.Lawful) (henv : env.Fits none)
    (hreads : env.Reads (w.said c)) : Served none (w.said c) ac := by
  obtain ⟨mem, hinv⟩ := World.Inv.of_reachable ho h.server
  exact Served.of_reachable henv hreads (hinv.wire.valid c) (fun hk => by cases hk)
    (h.client.mono fun _ _ hfits => hfits.mono (hinv.wire.tracked.sent c))

end Answers

end SelfTestCode.Client.Async
