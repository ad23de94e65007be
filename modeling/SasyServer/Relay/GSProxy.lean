import Mathlib.Logic.Function.Basic
import SasyServer.Lib.Steps

/-!
# Messages from the login server to the game servers

`LS_model_GSProxy.lua`, which keeps the messages for each game server until that server asks for them, and the loop of
`GS_model_LSPuller.lua`, which asks, handles what it gets and asks again. A request is a call over the cluster: it has a
number of its own, it may wait at the proxy for a message, and its answer goes to whoever still waits for that number.
Requests and answers may be lost, and a call may fail at the caller while its request is still under way.
-/

namespace SasyServer.Relay

/-- An item of `_serverResponseHash`. `responser` is the call that waits for an answer. -/
structure ResponseItem (μ : Type*) where
  responser : Option Nat
  msgBuffer : List μ
  sign : Nat
  deriving DecidableEq, Repr

/-- The puller of a game server. -/
structure Puller (μ : Type*) where
  /-- The `sign` of `_serverSignature`. -/
  sign : Option Nat
  /-- The call that `cluster.call` waits for. -/
  waiting : Option Nat
  /-- What is left of the list that the loop of `doPulling` goes through. -/
  list : List μ
  deriving DecidableEq, Repr

/-- The proxy, the pullers, and what is under way between them. -/
structure State (μ : Type*) where
  serverResponseHash : Nat → Option (ResponseItem μ)
  puller : Nat → Puller μ
  /-- The requests under way, with the server and the sign they are for, by the number of the call. -/
  requests : Nat → Option (Nat × Nat)
  /-- The answers under way; `none` is an error. -/
  responses : Nat → Option (Option (List μ))
  nextCall : Nat
  /-- Not in the code: the server whose puller has made a call. -/
  owner : Nat → Nat
  /-- Not in the code: the messages put into the buffer of a server, and those its puller has handled. -/
  sent : Nat → List μ
  handled : Nat → List μ

namespace State

variable {μ : Type*}

def init : State μ :=
  ⟨fun _ => none, fun _ => ⟨none, none, []⟩, fun _ => none, fun _ => none, 0, fun _ => 0, fun _ => [], fun _ => []⟩

def setItem (s : State μ) (serverID : Nat) (item : Option (ResponseItem μ)) : State μ :=
  { s with serverResponseHash := Function.update s.serverResponseHash serverID item }

def setPuller (s : State μ) (serverID : Nat) (p : Puller μ) : State μ :=
  { s with puller := Function.update s.puller serverID p }

/-- A responser is called. -/
def respond (s : State μ) (call : Nat) (result : Option (List μ)) : State μ :=
  { s with responses := Function.update s.responses call (some result) }

/-- `checkMsg` for the item of a server. -/
def checkMsg (s : State μ) (serverID : Nat) (item : ResponseItem μ) : State μ :=
  match item.responser with
  | some call =>
    if item.msgBuffer.length > 0 then
      (s.setItem serverID (some { item with responser := none, msgBuffer := [] })).respond call (some item.msgBuffer)
    else s.setItem serverID (some item)
  | none => s.setItem serverID (some item)

/-- `sendMsgToServer`. -/
def sendMsgToServer (s : State μ) (serverID : Nat) (msg : μ) : State μ :=
  match s.serverResponseHash serverID with
  | none => s
  | some item =>
    let msgBuffer := item.msgBuffer ++ [msg]
    let msgBuffer := if msgBuffer.length > 100 then msgBuffer.tail else msgBuffer
    checkMsg { s with sent := Function.update s.sent serverID (s.sent serverID ++ [msg]) } serverID { item with msgBuffer }

/-- `cmd_send`. -/
def cmdSend (s : State μ) (serverIDList : List Nat) (msg : μ) : State μ :=
  serverIDList.foldl (fun s serverID => s.sendMsgToServer serverID msg) s

/-- `cmd_gs_pull`, called by a request. An error is the answer to the call. -/
def cmdGsPull (s : State μ) (call serverID sign : Nat) : State μ :=
  match s.serverResponseHash serverID with
  | none => s.respond call none
  | some item =>
    if item.sign ≠ sign then s.respond call none
    else
      let s := match item.responser with
        | some old => s.respond old none
        | none => s
      s.checkMsg serverID { item with responser := some call }

/-- `cmd_onEventGameServerConnect`, with the message it puts into the buffer. -/
def cmdOnEventGameServerConnect (hello : μ) (s : State μ) (serverID sign : Nat) : State μ :=
  setItem { s with sent := Function.update s.sent serverID (s.sent serverID ++ [hello]) } serverID
    (some ⟨none, [hello], sign⟩)

/-- `cmd_onEventGameServerDisconnect`. -/
def cmdOnEventGameServerDisconnect (s : State μ) (serverID : Nat) : State μ := s.setItem serverID none

/-- `cmd_onEventServerRegisterSuccess`, which starts the loop of the puller when it is called first. -/
def cmdOnEventServerRegisterSuccess (s : State μ) (serverID sign : Nat) : State μ :=
  s.setPuller serverID { s.puller serverID with sign := some sign }

/-- The first line of `doPulling` makes a call. -/
def doPulling (s : State μ) (serverID sign : Nat) : State μ :=
  setPuller { s with
    requests := Function.update s.requests s.nextCall (some (serverID, sign))
    owner := Function.update s.owner s.nextCall serverID
    nextCall := s.nextCall + 1 } serverID { s.puller serverID with waiting := some s.nextCall }

/-- An answer arrives: whoever waits for it goes on. -/
def receive (s : State μ) (call : Nat) (result : Option (List μ)) : State μ :=
  let serverID := s.owner call
  let s := { s with responses := Function.update s.responses call none }
  if (s.puller serverID).waiting = some call then
    s.setPuller serverID { s.puller serverID with waiting := none, list := result.getD [] }
  else s

end State

/-- What happens next. -/
inductive Label (μ : Type*) where
  /-- Commands and events at the proxy. -/
  | send (serverIDList : List Nat) (msg : μ)
  | connect (serverID sign : Nat)
  | disconnect (serverID : Nat)
  /-- Events at a game server, and the turns of its loop. -/
  | register (serverID sign : Nat)
  | pull (serverID : Nat)
  | handle (serverID : Nat)
  | handleFails (serverID : Nat)
  /-- A request or an answer arrives or is lost. -/
  | requestArrives (call : Nat)
  | requestLost (call : Nat)
  | responseArrives (call : Nat)
  | responseLost (call : Nat)
  /-- The call of a puller fails, or the game server starts again. -/
  | callFails (serverID : Nat)
  | restart (serverID : Nat)
  deriving DecidableEq, Repr

open State in
/-- One label. A puller makes a call when it waits for none and has gone through the last list. -/
def step {μ : Type*} (hello : μ) (s : State μ) : Label μ → Option (State μ)
  | .send serverIDList msg => some (s.cmdSend serverIDList msg)
  | .connect serverID sign => some (s.cmdOnEventGameServerConnect hello serverID sign)
  | .disconnect serverID => some (s.cmdOnEventGameServerDisconnect serverID)
  | .register serverID sign => some (s.cmdOnEventServerRegisterSuccess serverID sign)
  | .pull serverID =>
    match (s.puller serverID).sign with
    | some sign =>
      if (s.puller serverID).waiting = none ∧ (s.puller serverID).list = [] then some (s.doPulling serverID sign) else none
    | none => none
  | .handle serverID =>
    match (s.puller serverID).list with
    | msg :: list =>
      some (setPuller { s with handled := Function.update s.handled serverID (s.handled serverID ++ [msg]) } serverID
        { s.puller serverID with list })
    | [] => none
  | .handleFails serverID =>
    if (s.puller serverID).list ≠ [] then some (s.setPuller serverID { s.puller serverID with list := [] }) else none
  | .requestArrives call =>
    match s.requests call with
    | some (serverID, sign) =>
      some (cmdGsPull { s with requests := Function.update s.requests call none } call serverID sign)
    | none => none
  | .requestLost call =>
    if s.requests call ≠ none then some { s with requests := Function.update s.requests call none } else none
  | .responseArrives call =>
    match s.responses call with
    | some result => some (s.receive call result)
    | none => none
  | .responseLost call =>
    if s.responses call ≠ none then some { s with responses := Function.update s.responses call none } else none
  | .callFails serverID =>
    if (s.puller serverID).waiting ≠ none then some (s.setPuller serverID { s.puller serverID with waiting := none })
    else none
  | .restart serverID => some (s.setPuller serverID ⟨none, none, []⟩)

end SasyServer.Relay
