import SasyServer.Lib.LengthFraming
import SasyServer.Lib.Steps
import SasyServer.Netpack.Filter

/-!
# The gate server

`skynet/lualib/snax/gateserver.lua`, with the handler of `service/tcpGateway.lua`: the messages of the socket server go
through `netpack.filter`, and `dispatch_queue` takes the packets out of the queue. `handler.message` does not wait, so that
the loop of `dispatch_queue` leaves nothing for the coroutine it has forked. The handler has no `warning`.

A gate has the reader of its sockets as a parameter: for the code it is the queue of `netpack`, and for the statement of what
the gate does it is a splitter for each socket.
-/

namespace SasyServer.Netpack

open LengthFraming (Splitter)

/-- A call of the handler. -/
inductive Call where
  | connect (fd : Nat)
  | message (fd : Nat) (msg : List UInt8) (sz : Nat)
  | disconnect (fd : Nat)
  | error (fd : Nat)
  deriving DecidableEq, Repr

/-- The variables of `gateserver.lua`. `calls` are the calls of the handler so far. -/
structure Gate (ρ : Type) where
  queue : ρ
  socket : Option Nat
  connection : Nat → Option Bool
  clientNumber : Int
  maxclient : Int
  calls : List Call

/-- The gate after `CMD.open`. -/
def Gate.start {ρ : Type} (queue : ρ) (socket : Nat) (maxclient : Int) : Gate ρ :=
  ⟨queue, some socket, fun _ => none, 0, maxclient, []⟩

section Handlers

variable {ρ : Type}

/-- `dispatch_msg`. -/
def dispatchMsg (s : Gate ρ) (fd : Nat) (msg : List UInt8) (sz : Nat) : Gate ρ :=
  if s.connection fd = some true then { s with calls := s.calls ++ [.message fd msg sz] } else s

/-- `MSG.open`. -/
def msgOpen (s : Gate ρ) (fd : Nat) : Gate ρ :=
  if s.clientNumber ≥ s.maxclient then s
  else
    { s with
      connection := Function.update s.connection fd (some true)
      clientNumber := s.clientNumber + 1
      calls := s.calls ++ [.connect fd] }

/-- `close_fd`. -/
def closeFd (s : Gate ρ) (fd : Nat) : Gate ρ :=
  if s.connection fd ≠ none then
    { s with connection := Function.update s.connection fd none, clientNumber := s.clientNumber - 1 } else s

/-- `MSG.close`. -/
def msgClose (s : Gate ρ) (fd : Nat) : Gate ρ :=
  if s.socket ≠ some fd then closeFd { s with calls := s.calls ++ [.disconnect fd] } fd else { s with socket := none }

/-- `MSG.error`. -/
def msgError (s : Gate ρ) (fd : Nat) : Gate ρ :=
  if s.socket = some fd then s else closeFd { s with calls := s.calls ++ [.error fd] } fd

/-- `gateserver.closeclient`, before the socket server says that the socket is closed. -/
def closeclient (s : Gate ρ) (fd : Nat) : Gate ρ :=
  if s.connection fd = some true then { s with connection := Function.update s.connection fd (some false) } else s

end Handlers

/-- `dispatch_queue`: packets are taken out until there are none. -/
def dispatchQueue : Nat → Gate (Option Queue) → Gate (Option Queue)
  | 0, s => s
  | n + 1, s =>
    match lpop s.queue with
    | none => s
    | some (np, L) => dispatchQueue n (dispatchMsg { s with queue := L } np.id np.buffer np.size)

/-- `MSG[type](...)`, with a turn of the loop for each packet of the queue. -/
def dispatch (s : Gate (Option Queue)) : Filtered → Gate (Option Queue)
  | .none => s
  | .data fd msg sz => dispatchMsg s fd msg sz
  | .more => dispatchQueue (getQueue s.queue).count s
  | .error fd => msgError s fd
  | .opened fd => msgOpen s fd
  | .close fd => msgClose s fd
  | .warning _ _ => s

/-- A message of the socket server, or a call of `closeclient` by the gateway. -/
inductive Label where
  | socket (message : SocketMessage)
  | closeclient (fd : Nat)
  deriving DecidableEq, Repr

/-- One label. -/
def step (s : Gate (Option Queue)) : Label → Option (Gate (Option Queue))
  | .socket message => (lfilter s.queue message).map fun p => dispatch { s with queue := p.1 } p.2
  | .closeclient fd => some (Netpack.closeclient s fd)

/-! ## What the gate is for: every socket has a splitter of its own -/

/-- The frames of a socket that have become complete. -/
def dispatchFrames (s : Gate (Nat → LengthFraming.Part UInt8)) (fd : Nat) (frames : List (List UInt8)) :
    Gate (Nat → LengthFraming.Part UInt8) :=
  frames.foldl (fun s frame => dispatchMsg s fd frame frame.length) s

/-- One label. A socket that is closed or fails starts again with a header. -/
def splitStep (s : Gate (Nat → LengthFraming.Part UInt8)) : Label → Gate (Nat → LengthFraming.Part UInt8)
  | .socket (.data fd chunk) =>
    let r := Splitter.feed 2 Pbcc.readSize ⟨[], s.queue fd⟩ chunk
    dispatchFrames { s with queue := Function.update s.queue fd r.part } fd r.frames
  | .socket (.close fd) => msgClose { s with queue := Function.update s.queue fd (.header []) } fd
  | .socket (.error fd) => msgError { s with queue := Function.update s.queue fd (.header []) } fd
  | .socket (.accept _ fd) => msgOpen s fd
  | .socket (.connect _) | .socket (.warning _ _) => s
  | .closeclient fd => Netpack.closeclient s fd

/-- The socket server sends no empty chunk. -/
def Label.ok : Label → Bool
  | .socket (.data _ chunk) => chunk ≠ []
  | _ => true

end SasyServer.Netpack
