import SasyServer.Websocket.Filter

/-!
# The socket messages of the gate

`lfilter` of `luaclib-src/lua-websocketnetpack.c`: what a message of the socket server does to the queue. A message is its
type with the fields that are read of it; the answer is the type pushed behind the queue with its values.
-/

namespace SasyServer.Websocket

/-- `struct skynet_socket_message`, by its type. -/
inductive SocketMessage where
  | data (id : Nat) (buffer : List UInt8)
  | connect (id : Nat)
  | close (id : Nat)
  | accept (id ud : Nat) (addr : List UInt8)
  | error (id : Nat) (text : List UInt8)
  | warning (id ud : Nat)
  deriving DecidableEq, Repr

/-- The connection a message is about: `message->id`. -/
def SocketMessage.id : SocketMessage → Nat
  | .data id _ | .connect id | .close id | .accept id _ _ | .error id _ | .warning id _ => id

/-- The answers of `lfilter`. -/
inductive Filtered where
  | none
  | data (result : Result)
  | close (fd : Nat)
  | opened (fd : Nat) (addr : List UInt8)
  | error (fd : Nat) (text : List UInt8)
  | warning (fd size : Nat)
  deriving DecidableEq, Repr

/-- `lfilter`. -/
def lfilter (L : Option Queue) (handeshake : Bool) : SocketMessage → Except Fault (Option Queue × Filtered)
  | .data id buffer => (filterData L id buffer handeshake).map fun p => (p.1, .data p.2)
  | .connect _ => .ok (L, .none)
  | .close id => .ok (closeUncomplete L id, .close id)
  | .accept _ ud addr => .ok (L, .opened ud addr)
  | .error id text => .ok (closeUncomplete L id, .error id text)
  | .warning id ud => .ok (L, .warning id ud)

/-- What the gate calls: `lfilter` with a message, in either mode, and `lpop`. -/
inductive GateCall where
  | lfilter (handeshake : Bool) (message : SocketMessage)
  | lpop
  deriving DecidableEq, Repr

/-- One call; a fault leaves no queue to go on with. -/
def gateCall (L : Option Queue) : GateCall → Option (Option Queue)
  | .lfilter handeshake message => (lfilter L handeshake message).toOption.map Prod.fst
  | .lpop => some ((Websocket.lpop L).elim L Prod.snd)

end SasyServer.Websocket
