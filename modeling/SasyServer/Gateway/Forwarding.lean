import Mathlib.Logic.Function.Basic

/-!
# The gateways and their agents

`service/tcpGateway.lua` and `service/wsGateway.lua`: the tables `_connection` (of a socket) and `_forwarding` (of an agent),
which hold the same records; and what their gate server and the agents (`tcpConnection`, `wsConnection`) take part in.
`handler.connect` waits for `newservice`; the agent that has been started calls `forward` once, from its `cmd_start`.

The two gateways differ in the check of the size of a message and in what the timer does. Left out are the addresses, the
packets themselves and `CMD.initialize`.
-/

namespace SasyServer.Gateway

inductive Kind where
  | tcpGateway
  | wsGateway
  deriving DecidableEq, Repr

/-- A record `c` of a client. -/
structure Connection where
  fd : Nat
  agent : Option Nat
  tick : Nat
  deriving DecidableEq, Repr

/-- A gateway. Records have numbers, which the tables and the waiting handlers hold. -/
structure State where
  kind : Kind
  threshold : Nat
  now : Nat
  record : Nat → Connection
  nextRecord : Nat
  connection : Nat → Option Nat
  forwarding : Nat → Option Nat
  /-- The gate server passes on what the client sends. -/
  opened : Nat → Bool
  /-- The records of the `handler.connect` that wait for `newservice`. -/
  connecting : List Nat
  /-- The agents that have not called `forward` yet, with the socket they were started for. -/
  starting : Nat → Option Nat
  /-- Not in the code: the record an agent was created for. -/
  created : Nat → Option Nat
  /-- Not in the code: the agents that were sent `exit`. -/
  exited : List Nat

def State.init (kind : Kind) (threshold : Nat) : State :=
  ⟨kind, threshold, 0, fun _ => ⟨0, none, 0⟩, 0, fun _ => none, fun _ => none, fun _ => false, [], fun _ => none,
    fun _ => none, []⟩

/-- `unforward`. -/
def unforward (s : State) (c : Nat) : State :=
  match (s.record c).agent with
  | some agent =>
    { s with
      exited := agent :: s.exited
      forwarding := Function.update s.forwarding agent none
      record := Function.update s.record c { s.record c with agent := none } }
  | none => s

/-- `close_fd`. -/
def closeFd (s : State) (fd : Nat) : State :=
  match s.connection fd with
  | some c =>
    let s := unforward s c
    { s with connection := Function.update s.connection fd none }
  | none => s

/-- `gateserver.closeclient`. -/
def closeclient (s : State) (fd : Nat) : State := { s with opened := Function.update s.opened fd false }

/-- The record has not been used for longer than the threshold. -/
def expired (s : State) (fd : Nat) : Bool :=
  match s.connection fd with
  | some c => s.now - (s.record c).tick > s.threshold
  | none => false

/-- `onTimercheckTimeout`, which goes through the keys of `_connection` in some order. In the websocket
gateway it does nothing. -/
def onTimercheckTimeout : State → List Nat → State
  | s, [] => s
  | s, fd :: fds =>
    match s.kind with
    | .tcpGateway => onTimercheckTimeout (if expired s fd then closeFd (closeclient s fd) fd else s) fds
    | .wsGateway => s

/-- `CMD.forward`. Its assertion fails for a client that is gone. -/
def forward (s : State) (source fd : Nat) : State :=
  match s.connection fd with
  | some c =>
    let s := unforward s c
    { s with
      record := Function.update s.record c { s.record c with agent := some source }
      forwarding := Function.update s.forwarding source (some c) }
  | none => s

/-- `CMD.accept`. -/
def accept (s : State) (fd : Nat) : State :=
  match s.connection fd with
  | some c => unforward s c
  | none => s

/-- `CMD.kickAll`, which goes through the keys of `_connection`. -/
def kickAll (s : State) (fds : List Nat) : State := fds.foldl closeclient s

/-- The message finds no receiver, or is too short for the gateway. -/
def dropsMessage (s : State) (fd sz : Nat) : Bool :=
  (s.kind = .tcpGateway && sz < 3) ||
    match s.connection fd with
    | some c => (s.record c).agent.isNone
    | none => true

/-- `handler.message`, for a message the gate server has passed on. -/
def message (s : State) (fd sz : Nat) : State :=
  if dropsMessage s fd sz then closeFd s fd
  else
    match s.connection fd with
    | some c => { s with record := Function.update s.record c { s.record c with tick := s.now } }
    | none => s

/-- `handler.connect` up to `newservice`. -/
def connect (s : State) (fd : Nat) : State :=
  { s with
    record := Function.update s.record s.nextRecord ⟨fd, none, s.now⟩
    nextRecord := s.nextRecord + 1
    connection := Function.update s.connection fd (some s.nextRecord)
    opened := Function.update s.opened fd true
    connecting := s.nextRecord :: s.connecting }

/-- `handler.connect` after `newservice`: the agent is sent `start`. -/
def connected (s : State) (c agent : Nat) : State :=
  { s with
    connecting := s.connecting.erase c
    created := Function.update s.created agent (some c)
    forwarding := Function.update s.forwarding agent (some c)
    starting := Function.update s.starting agent (some (s.record c).fd) }

/-- What happens next. -/
inductive Label where
  | connect (fd : Nat)
  | connected (c agent : Nat)
  | connectFailed (c : Nat)
  | forward (source : Nat)
  | accept (fd : Nat)
  | message (fd sz : Nat)
  | kick (fd : Nat)
  | kickAll (fds : List Nat)
  | disconnect (fd : Nat)
  | error (fd : Nat)
  | timeout (fds : List Nat)
  | tick (n : Nat)
  deriving DecidableEq, Repr

/-- One step. A new client has a socket of its own, and a new agent an address of its own. -/
def step (s : State) : Label → Option State
  | .connect fd => if s.connection fd = none ∧ s.opened fd = false then some (connect s fd) else none
  | .connected c agent => if c ∈ s.connecting ∧ s.created agent = none then some (connected s c agent) else none
  | .connectFailed c => some { s with connecting := s.connecting.erase c }
  | .forward source =>
    (s.starting source).map fun fd => forward { s with starting := Function.update s.starting source none } source fd
  | .accept fd => some (accept s fd)
  | .message fd sz => if s.opened fd then some (message s fd sz) else none
  | .kick fd => some (closeclient s fd)
  | .kickAll fds => some (kickAll s fds)
  | .disconnect fd | .error fd => some { closeFd s fd with opened := Function.update s.opened fd false }
  | .timeout fds => some (onTimercheckTimeout s fds)
  | .tick n => some { s with now := s.now + n }

end SasyServer.Gateway
