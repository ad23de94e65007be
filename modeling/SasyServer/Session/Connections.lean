import SasyServer.Session.Manager
import SasyServer.TcpConnection

/-!
# The session manager and its connections

The session manager together with the connections of the login server (`TcpConnection`): what its handlers send to them, and
the disconnect events they send back. `kickLSAgent` sends `exit` when `clearCache` has returned; `cmd_registerUser` and
`cmd_switchUserItem` end with `setCache`, the latter after it has waited for `cmd_loadUserData`.
-/

namespace SasyServer.Session

open TcpConnection (Agents Cache Mail)

/-- `cmd_switchUserItem` after its write. It will pass to `setCache` the record that the item has then. -/
structure Entering where
  item : Nat
  agent : Nat
  userID : Nat
  deriving DecidableEq, Repr

/-- The manager, the connections, and the logins that wait for `cmd_loadUserData`. -/
structure Served where
  manager : State
  agents : Agents Thread
  entering : List Entering

/-- The login server after it has started. -/
def Served.init : Served := ⟨.init, .init, []⟩

/-- The connection whose `clearCache` the handler waits for. -/
def Thread.clears : Thread → Option Nat
  | .kickLS _ agent _ _ _ => some agent
  | .switchUserItem _ agent _ _ _ => some agent
  | .gameServerDisconnect _ _ agent _ => some agent
  | .gsLogout _ _ => none

/-- The connection a login comes from. -/
def Label.agent : Label → Option Nat
  | .registerUser _ agent => some agent
  | .switchUserItem _ agent => some agent
  | _ => none

/-- The handler that goes on after `clearCache`. -/
def cleared (s : State) : Label → Option Thread
  | .resume k _ => s.suspended[k]?.filter fun t => t.clears.isSome
  | _ => none

/-- The calls of `clearCache`, from the handlers that wait after the first `n`. -/
def clearCalls (n : Nat) (s : State) : List (Mail Thread) :=
  (s.suspended.drop n).filterMap fun t => t.clears.map fun agent => .clearCache agent t

/-- The number of the handlers that waited before and still do. -/
def waitedOn (s : State) : Label → Nat
  | .resume k _ => (s.suspended.eraseIdx k).length
  | _ => s.suspended.length

/-- The connection to the login server that `cmd_switchUserItem` has to kick before it writes. -/
def kicks (x : Sui) : Bool :=
  match x.userStatus with
  | .usLs | .usLsGs | .usLsGsOffline => x.agent ≠ 0
  | .usNull | .usGs | .usGsOffline => false

/-- The item whose record gets a new agent from `cmd_switchUserItem`, and the agent. -/
def switched (s : State) : Label → Option (Nat × Nat)
  | .switchUserItem platformID newAgent =>
    (s.platformID platformID).bind fun i => (s.getAttribute i).bind fun x => if kicks x then none else some (i, newAgent)
  | .resume k _ =>
    s.suspended[k]?.bind fun
      | .switchUserItem i _ _ _ newAgent => (s.getAttribute i).map fun _ => (i, newAgent)
      | _ => none
  | _ => none

/-- The cache `cmd_registerUser` sets for a user without a record. -/
def registered (account : Nat → Nat) (s : State) : Label → Option Cache
  | .registerUser platformID agent =>
    (s.platformID platformID).bind fun i =>
      if (s.items i).sui ≠ none then none else some ⟨agent, account platformID, some s.buffer.allocate.1⟩
  | _ => none

/-- The logins that go on to `cmd_loadUserData`. -/
def enters (s : State) (l : Label) : List Entering :=
  ((switched s l).bind fun p => (s.getAttribute p.1).map fun x => ⟨p.1, p.2, x.userID⟩).toList

/-- A handler of the manager, with what it sends. -/
def Served.serve (account : Nat → Nat) (s : Served) (l : Label) : Option Served :=
  (step account s.manager l).map fun manager =>
    { manager := manager
      agents := s.agents.send
        (clearCalls (waitedOn s.manager l) manager ++ (registered account s.manager l).toList.map .setCache)
      entering := s.entering ++ enters s.manager l }

/-- A message to the manager, the `k`-th disconnect event, the end of `cmd_loadUserData` in the `k`-th login, with success or
with an error, and the steps of the connections. -/
inductive ServedLabel where
  | manager (l : Label)
  | disconnect (k : Nat)
  | loaded (k : Nat)
  | notLoaded (k : Nat)
  | agents (l : TcpConnection.Label)
  deriving DecidableEq, Repr

/-- One label. The address of a connection is not 0, and a disconnect comes as an event only. -/
def servedStep (account : Nat → Nat) (s : Served) : ServedLabel → Option Served
  | .manager (.clientDisconnect _) => none
  | .manager l =>
    if l.agent = some 0 then none
    else
      match cleared s.manager l with
      | none => s.serve account l
      | some t =>
        (s.agents.answers.find? fun p => p.2 = t).bind fun p =>
          Served.serve account { s with agents := { s.agents with answers := s.agents.answers.erase p }.send [.exit p.1] } l
  | .disconnect k =>
    s.agents.events[k]?.bind fun p =>
      Served.serve account { s with agents := { s.agents with events := s.agents.events.eraseIdx k } }
        (.clientDisconnect p.1)
  | .loaded k =>
    s.entering[k]?.map fun e =>
      { s with
        agents := s.agents.send [.setCache ⟨e.agent, e.userID, (s.manager.items e.item).sui⟩]
        entering := s.entering.eraseIdx k }
  | .notLoaded k => s.entering[k]?.map fun _ => { s with entering := s.entering.eraseIdx k }
  | .agents l => (TcpConnection.step s.agents l).map fun agents => { s with agents := agents }

end SasyServer.Session
