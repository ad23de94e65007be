import SasyServer.TcpConnection
import SasyServer.UserManager.Service

/-!
# The user manager and its connections

The user manager of a game server together with its connections (`TcpConnection`). `setUserStatus` with `US_NULL` sends
`exit` to the agent of the record; `cmd_switchUserItem` sends it when `clearCache` has returned, and ends with `setCache`;
`cmd_insertUserItem` ends with `setCache`, too, after it has kicked a user if the room was full.
-/

namespace SasyServer.UserManager

open TcpConnection (Agents Cache Mail)

/-- What a handler that waits keeps: `cmd_insertUserItem` the connection for its `setCache`, `cmd_switchUserItem` the whole
call, and `cmd_onEventClientDisconnect` the connection of the event. -/
inductive Local where
  | other
  | insert (agent : Nat)
  | switch (cache : Cache)
  | disconnect (agent : Nat)
  deriving DecidableEq, Repr

/-- The manager, what each of its handlers that wait keeps, the connections, and the insertions that have found the record of
their user again and go on to `setCache`. -/
structure Served where
  manager : State
  locals : List Local
  agents : Agents Thread
  entering : List Cache

/-- The game server after it has started. -/
def Served.init : Served := ⟨.init, [], .init, []⟩

/-- The handler that goes on after `clearCache`. -/
def cleared (s : State) : Label → Option Thread
  | .resume k _ _ =>
    s.suspended[k]?.filter fun
      | .switchUserItem _ _ _ _ _ _ _ => true
      | _ => false
  | _ => none

/-- The call `cmd_switchUserItem` will make. -/
def switchCall (s : State) : Label → Option Cache
  | .switchUserItem userID agent _ => (s.userItem userID).map fun i => ⟨agent, userID, some i⟩
  | _ => none

/-- What is left of the handlers that waited, or of what they keep. -/
def leftover {α : Type} (ts : List α) : Label → List α
  | .resume k _ _ => ts.eraseIdx k
  | .abort k => ts.eraseIdx k
  | _ => ts

/-- What a handler keeps that begins to wait, or waits again; `event` is the connection of the
disconnect event it handles. -/
def newLocal (s : Served) (l : Label) (event : Option Nat) : Thread → Local
  | .insert _ _ =>
    match l with
    | .insertUserItem userInfo _ => .insert userInfo.agent
    | _ => .other
  | .switchUserItem _ _ _ _ _ _ _ => (switchCall s.manager l).elim .other .switch
  | .switchPlaying _ _ _ =>
    match l with
    | .resume k _ _ => s.locals[k]?.getD .other
    | l => (switchCall s.manager l).elim .other .switch
  | .disconnect _ => event.elim .other .disconnect
  | _ => .other

/-- The calls of `clearCache` by the handlers `ts` that begin to wait. -/
def clearCalls (s : State) (ts : List Thread) : List (Mail Thread) :=
  ts.filterMap fun
    | t@(.switchUserItem _ i _ _ _ _ _) => (s.items i).map fun x => .clearCache x.agent t
    | _ => none

/-- The agents of the users who are given `US_NULL`. -/
def exits (s s' : State) : List (Mail Thread) :=
  (s.userItemHash.filter fun p => s'.userItem p.1 = none).filterMap fun p =>
    (s.items p.2).bind fun x => if x.agent ≠ 0 then some (.exit x.agent) else none

/-- The record to which `cmd_switchUserItem` gives the new agent, and the agent. -/
def switched (s : State) : Label → Option (Nat × Nat)
  | .switchUserItem userID agent _ =>
    (s.userItem userID).bind fun i => (s.items i).bind fun x =>
      if x.agent = 0 ∧ x.userStatus ≠ .usOffline then some (i, agent) else none
  | .resume k _ _ =>
    s.suspended[k]?.bind fun
      | .switchUserItem userID i userStatus _ _ agent _ =>
        if userStatus = .usOffline ∧ s.userItem userID ≠ none then none else (s.items i).map fun _ => (i, agent)
      | .switchPlaying i agent _ => (s.items i).map fun _ => (i, agent)
      | _ => none
  | _ => none

/-- The cache that `cmd_switchUserItem` sets after it has written the record. -/
def switchCache (s : Served) (l : Label) : Option Cache :=
  (switched s.manager l).bind fun _ =>
    match l with
    | .resume k _ _ =>
      s.locals[k]?.bind fun
        | .switch cache => some cache
        | _ => none
    | l => switchCall s.manager l

/-- The insertion that finds the record of its user again. -/
def enters (s : Served) : Label → Option Cache
  | .resume k _ _ =>
    match s.manager.suspended[k]?, s.locals[k]? with
    | some (.insert userID _), some (.insert agent) => (s.manager.userItem userID).map fun i => ⟨agent, userID, some i⟩
    | _, _ => none
  | _ => none

/-- A handler of the manager, with what it sends. -/
def Served.serve (cfg : ServerConfig) (s : Served) (l : Label) (event : Option Nat) : Option Served :=
  (step cfg s.manager l).map fun manager =>
    let left := leftover s.locals l
    let waits := manager.suspended.drop left.length
    { manager := manager
      locals := left ++ waits.map (newLocal s l event)
      agents := s.agents.send
        (exits s.manager manager ++ clearCalls s.manager waits ++ (switchCache s l).toList.map .setCache)
      entering := s.entering ++ (enters s l).toList }

/-- A message to the manager, the `k`-th disconnect event, the `k`-th insertion after it has kicked a user, or could not, and
the steps of the connections. -/
inductive ServedLabel where
  | manager (l : Label)
  | disconnect (k : Nat) (tableFound : Bool)
  | inserted (k : Nat)
  | notInserted (k : Nat)
  | agents (l : TcpConnection.Label)
  deriving DecidableEq, Repr

/-- One label. A disconnect comes as an event only. -/
def servedStep (cfg : ServerConfig) (s : Served) : ServedLabel → Option Served
  | .manager (.clientDisconnect _ _) => none
  | .manager l =>
    match cleared s.manager l with
    | none => s.serve cfg l none
    | some t =>
      (s.agents.answers.find? fun p => p.2 = t).bind fun p =>
        Served.serve cfg { s with agents := { s.agents with answers := s.agents.answers.erase p }.send [.exit p.1] } l none
  | .disconnect k tableFound =>
    s.agents.events[k]?.bind fun p =>
      Served.serve cfg { s with agents := { s.agents with events := s.agents.events.eraseIdx k } }
        (.clientDisconnect p.1 tableFound)
        (some p.2)
  | .inserted k =>
    s.entering[k]?.map fun cache => { s with agents := s.agents.send [.setCache cache], entering := s.entering.eraseIdx k }
  | .notInserted k => s.entering[k]?.map fun _ => { s with entering := s.entering.eraseIdx k }
  | .agents l => (TcpConnection.step s.agents l).map fun agents => { s with agents := agents }

end SasyServer.UserManager
