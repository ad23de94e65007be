import SasyServer.Gateway.WsServer
import SasyServer.Websocket.Places

/-!
# The messages of the websocket gate

`lualib/utility/gateserver_ws.lua` together with its packet filter: the bytes of a client go through `netpack.filter`,
in the mode of its connection, and the packets through `dispatch_msg`, which calls `handler.message` or closes the
client. `handler.message` of `service/wsGateway.lua` does not wait, so that the packets of a chunk are dispatched
before the next chunk comes.

`parse_httpheader` is a parameter. Left out is what `WsServer` leaves out.
-/

namespace SasyServer.WsMessages

open Websocket (Queue Out)
open WsServer (Header Message maxPacksize)

/-- The gate server and its queue. Not in the code: `opened` are the sockets that were accepted and `ended` those that have
closed; for each, `reads` are the lengths declared by the frame headers that were read, `early` the sizes with which
`handler.message` was called for packets of the handshake's last chunk, and `messages` those for packets of later chunks. -/
structure State where
  queue : Option Queue
  server : WsServer.State
  opened : List Nat
  ended : List Nat
  reads : Nat → List Nat
  early : Nat → List Nat
  messages : Nat → List Nat

/-- The gate server that has begun to listen. -/
def State.init (maxclient : Int) (socket : Nat) : State :=
  ⟨none, .init maxclient socket, [], [], fun _ => [], fun _ => [], fun _ => []⟩

/-- The sizes with which `handler.message` was called for a client. -/
def State.calls (s : State) (fd : Nat) : List Nat := s.early fd ++ s.messages fd

/-- The mode that is passed to `netpack.filter`. -/
def handeshake (s : WsServer.State) (fd : Nat) : Bool :=
  match s.connection fd with
  | some c => if c.isconnect then c.iswebsocketHandeshake else true
  | none => true

/-- `dispatch_msg` calls `handler.message`. -/
def handles (s : WsServer.State) (fd sz : Nat) : Bool :=
  match s.connection fd with
  | some c => c.isconnect && !c.iswebsocketHandeshake && decide (sz < maxPacksize)
  | none => false

/-- A packet or a close of the filter. `past` says that the chunk was not one of the handshake. -/
def dispatch (parse : List UInt8 → Header) (past : Bool) (s : State) : Out → State
  | .data fd payload size =>
    let handled := if handles s.server fd size.toNat then [size.toNat] else []
    { s with
      server := WsServer.dispatchMsg s.server ⟨fd, size.toNat, parse payload⟩
      early := if past then s.early else Function.update s.early fd (s.early fd ++ handled)
      messages := if past then Function.update s.messages fd (s.messages fd ++ handled) else s.messages }
  | .wsclose fd => { s with server := WsServer.msgWsclose s.server fd }

/-- The unfinished packet of a client. -/
def entryOf (s : State) (fd : Nat) : Option Websocket.Uncomplete := (Websocket.findUncomplete s.queue fd).map Prod.fst

/-- A chunk of bytes, unless the filter faults. -/
def receive (parse : List UInt8 → Header) (s : State) (fd : Nat) (bytes : List UInt8) : Option State :=
  match Websocket.feed s.queue ⟨fd, bytes, handeshake s.server fd⟩ with
  | .error _ => none
  | .ok (queue, outs) =>
    let read := if handeshake s.server fd then [] else Websocket.lengthsRead (entryOf s fd) bytes
    some (outs.foldl (dispatch parse !handeshake s.server fd)
      { s with queue := queue, reads := Function.update s.reads fd (s.reads fd ++ read) })

/-- What happens next: an event of a socket, or a command of the gateway. -/
inductive Event where
  | msgOpen (fd : Nat)
  | data (fd : Nat) (bytes : List UInt8)
  | close (fd : Nat)
  | error (fd : Nat)
  | kick (fd : Nat)
  | kickAll (fds : List Nat)

/-- One event. A socket opens once, a chunk has at least one byte, and there is none after the end. -/
def step (parse : List UInt8 → Header) (s : State) : Event → Option State
  | .msgOpen fd =>
    if fd ∉ s.opened ∧ s.server.socket ≠ some fd then
      some { s with server := WsServer.msgOpen s.server fd, opened := fd :: s.opened }
    else none
  | .data fd bytes => if bytes ≠ [] ∧ fd ∉ s.ended then receive parse s fd bytes else none
  | .close fd =>
    some { s with
      queue := Websocket.closeUncomplete s.queue fd
      server := WsServer.msgClose s.server fd
      ended := fd :: s.ended }
  | .error fd =>
    some { s with
      queue := Websocket.closeUncomplete s.queue fd
      server := WsServer.msgError s.server fd
      ended := fd :: s.ended }
  | .kick fd => some { s with server := WsServer.closeclient s.server fd }
  | .kickAll fds => some { s with server := fds.foldl WsServer.closeclient s.server }

end SasyServer.WsMessages
