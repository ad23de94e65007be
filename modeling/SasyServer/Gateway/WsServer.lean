import Mathlib.Data.List.Infix
import Mathlib.Logic.Function.Basic

/-!
# The websocket gate server

`lualib/utility/gateserver_ws.lua`: the table `connection` of the accepted clients, the counter `client_number`, and the
events of the sockets, which are handled one after the other, with the commands of `service/wsGateway.lua` that close
clients. Its handlers have no other effect on the gate server.

Left out are `parse_httpheader`, whose table is part of a message here, the bytes of the answers, `nodelay` and the events
`open` and `close` of the lua protocol, which only start and stop the listening.
-/

namespace SasyServer.WsServer

/-- The header of a handshake: the values of its fields, under the names in lower case. -/
abbrev Header := String → Option String

/-- `checkwebsocket_valid`, with no check of the origin: the code and the text of the refusal, or `none`
if the header is valid. -/
def checkwebsocketValid (header : Header) : Option (Nat × String) :=
  if (header "upgrade").map String.toLower ≠ some "websocket" then some (400, "Can \"Upgrade\" only to \"WebSocket\".")
  else if ¬∃ value ∈ header "connection", "upgrade".toList <:+: value.toLower.toList then
    some (400, "\"Connection\" must be \"Upgrade\".")
  else if header "sec-websocket-version" ≠ some "13" then
    some (400, "HTTP/1.1 Upgrade Required\r\nSec-WebSocket-Version: 13\r\n\r\n")
  else if header "sec-websocket-key" = none then some (400, "\"Sec-WebSocket-Key\" must not be  nil.")
  else none

/-- An entry of `connection`. -/
structure Connection where
  isconnect : Bool
  iswebsocketHandeshake : Bool
  deriving DecidableEq, Repr

/-- A message of a client: its size, and the header to read from it during the handshake. -/
structure Message where
  fd : Nat
  sz : Nat
  header : Header

/-- The gate server. `accepted` is not in the code: the clients that were let in and have not closed. -/
structure State where
  maxclient : Int
  socket : Option Nat
  connection : Nat → Option Connection
  clientNumber : Int
  accepted : List Nat

/-- The gate server that has begun to listen. -/
def State.init (maxclient : Int) (socket : Nat) : State := ⟨maxclient, some socket, fun _ => none, 0, []⟩

def maxPacksize : Nat := 10 * 1024

def maxHeadersize : Nat := 1024

/-- `closeclient`. The client closes later, with an event of its own. -/
def closeclient (s : State) (fd : Nat) : State :=
  match s.connection fd with
  | some _ => { s with connection := Function.update s.connection fd none }
  | none => s

/-- `checkwebsocket`, and whether the header is valid. The answer of a refusal is written in protected mode. -/
def checkwebsocket (s : State) (fd : Nat) (header : Header) : State × Bool :=
  match checkwebsocketValid header with
  | some _ => (closeclient s fd, false)
  | none => (s, true)

/-- `dispatch_msg`. -/
def dispatchMsg (s : State) (m : Message) : State :=
  match s.connection m.fd with
  | some c =>
    if c.isconnect then
      if c.iswebsocketHandeshake then
        if m.sz ≥ maxHeadersize then closeclient s m.fd
        else
          match checkwebsocket s m.fd m.header with
          | (s, true) =>
            { s with connection := Function.update s.connection m.fd (some { c with iswebsocketHandeshake := false }) }
          | (s, false) => s
      else if m.sz ≥ maxPacksize then closeclient s m.fd
      else s
    else s
  | none => s

/-- The next client is refused. -/
def refuses (s : State) : Prop := s.clientNumber ≥ s.maxclient

instance (s : State) : Decidable (refuses s) := inferInstanceAs (Decidable (_ ≤ _))

/-- `MSG.open`. -/
def msgOpen (s : State) (fd : Nat) : State :=
  if refuses s then s
  else
    { s with
      connection := Function.update s.connection fd (some ⟨true, true⟩)
      clientNumber := s.clientNumber + 1
      accepted := fd :: s.accepted }

/-- `close_fd`. -/
def closeFd (s : State) (fd : Nat) : State :=
  match s.connection fd with
  | some _ => { s with connection := Function.update s.connection fd none, clientNumber := s.clientNumber - 1 }
  | none => s

/-- `MSG.wsclose`. Without a listening socket its log line is an error. -/
def msgWsclose (s : State) (fd : Nat) : State :=
  match s.socket with
  | none => s
  | some socket => if fd ≠ socket then s else { s with socket := none }

/-- `MSG.close`. Without a listening socket its log line is an error, and the rest is not reached. -/
def msgClose (s : State) (fd : Nat) : State :=
  match s.socket with
  | none => s
  | some socket => if fd ≠ socket then closeFd s fd else { s with socket := none }

/-- `MSG.error`. -/
def msgError (s : State) (fd : Nat) : State := if s.socket = some fd then s else closeFd s fd

/-- What happens next: an event of a socket, or a command of the gateway, with the clients of its own table for `kickAll`. -/
inductive Event where
  | msgOpen (fd : Nat)
  | data (m : Message)
  | more (ms : List Message)
  | wsclose (fd : Nat)
  | close (fd : Nat)
  | error (fd : Nat)
  | kick (fd : Nat)
  | kickAll (fds : List Nat)

/-- The socket can still close: it is an accepted client, it was never let in, or it is the listening socket. -/
def mayClose (s : State) (fd : Nat) : Bool := fd ∈ s.accepted || (s.connection fd).isNone || s.socket = some fd

/-- The client is no longer among the accepted ones. -/
def State.closed (s : State) (fd : Nat) : State := { s with accepted := s.accepted.erase fd }

/-- One event. A new client has a socket of its own, and an accepted client closes once. -/
def step (s : State) : Event → Option State
  | .msgOpen fd => if fd ∉ s.accepted ∧ s.socket ≠ some fd then some (msgOpen s fd) else none
  | .data m => some (dispatchMsg s m)
  | .more ms => some (ms.foldl dispatchMsg s)
  | .wsclose fd => some (msgWsclose s fd)
  | .close fd => if mayClose s fd then some ((msgClose s fd).closed fd) else none
  | .error fd => if mayClose s fd then some ((msgError s fd).closed fd) else none
  | .kick fd => some (closeclient s fd)
  | .kickAll fds => some (fds.foldl closeclient s)

end SasyServer.WsServer
