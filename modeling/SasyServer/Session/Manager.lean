import Mathlib.Logic.Function.Basic
import SasyServer.CItemBuffer
import SasyServer.Lib.Steps

/-!
# The session manager of the login server

`service/loginServer/LS_model_sessionManager.lua`. The Lua tables made by `createItem` are cells of a heap, so that a handler
that was suspended in a `skynet.call` still refers to the item it had found; the user records are the blocks of a
`CItemBuffer`, and `item.sui` is a reference to one. A handler runs until it ends or until it calls another service; what it
will do after the call is a `Thread`, and the label `resume` continues the thread at a position of the list. So the labels of
a run say in which order the messages came and the calls returned.

An error of Lua ends the handler and leaves what it has done so far; it is noted in the log, like the answers to the game
servers and the messages to them and to the agents. The log is what the theorems speak about and no handler reads it.

Left out are the attributes that are only written here (`ipAddr`, `machineID`, the scores), the binding information and the
messages to the data services.
-/

namespace SasyServer.Session

/-- `LS_CONST.USER_STATUS`. -/
inductive UserStatus where
  | usNull | usLs | usGs | usGsOffline | usLsGs | usLsGsOffline
  deriving DecidableEq, Repr

/-- The statuses of a user that some game server has. -/
def UserStatus.onGameServer : UserStatus → Bool
  | .usNull | .usLs => false
  | .usGs | .usGsOffline | .usLsGs | .usLsGsOffline => true

/-- The attributes of a user record that the session manager reads. -/
structure Sui where
  userID : Nat
  agent : Nat
  userStatus : UserStatus
  kindID : Nat
  nodeID : Nat
  serverID : Nat
  deriving DecidableEq, Repr

/-- A record after `reset`. -/
def Sui.blank : Sui := ⟨0, 0, .usNull, 0, 0, 0⟩

/-- The table made by `createItem`. -/
structure Item where
  platformID : Nat
  session : String
  sessionActiveTS : Nat
  sui : Option Nat
  suiActiveTS : Option Nat
  deriving DecidableEq, Repr

/-- The codes of `GS_LOGIN_CODE` other than success. -/
inductive Refusal where
  | invalidSession | lsLoginFirst | retry
  deriving DecidableEq, Repr

/-- The errors a handler can end with. `nilSui` is the argument error of `ServerUserItem` on a missing record. -/
inductive Failure where
  | nilSui
  | switchUserItem (platformID : Nat)
  | registerUserNoItem (platformID : Nat)
  | registerUserHasSui (platformID : Nat)
  | gsLogoutNoSui (userID : Nat)
  | gsLogoutStatus (userStatus : UserStatus) (userID : Nat)
  | gsLogoutServer (userID serverID : Nat)
  | gsOfflineNoSui (userID : Nat)
  | gsOfflineStatus (userStatus : UserStatus) (userID : Nat)
  | gsOfflineServer (userID serverID : Nat)
  | cleanExpiredInfo (userID : Nat) (userStatus : UserStatus)
  deriving DecidableEq, Repr

/-- What can be seen from outside: answers, messages, and errors. -/
inductive Event where
  | loginSuccess (serverID userID : Nat)
  | loginRefused (serverID : Nat) (code : Refusal)
  | logout (serverID userID : Nat)
  | gameServerDisconnect (serverID : Nat)
  | kickGS (serverID userID : Nat)
  | kickAgent (agent : Nat)
  | fail (failure : Failure)
  deriving DecidableEq, Repr

/-- A handler that waits for an answer, with the local variables it will still use. In `kickLS` and `switchUserItem` the call
is `clearCache`, and `seen` is the `userStatus` read before it; in `gsLogout` the calls are those of `cmd_loadUserData`. -/
inductive Thread where
  | kickLS (item : Nat) (agent : Nat) (seen newUserStatus : UserStatus) (kickGS : Option (Nat × Nat))
  | switchUserItem (item : Nat) (agent : Nat) (seen newUserStatus : UserStatus) (newAgent : Nat)
  | gsLogout (item : Nat) (newUserStatus : UserStatus)
  | gameServerDisconnect (serverID item agent userID : Nat)
  deriving DecidableEq, Repr

/-- The service: its heap of items, the three indexes of `_hash`, the records and their pool, the clock, the suspended
handlers and the log, the newest event first. -/
structure State where
  items : Nat → Item
  itemCount : Nat
  session : String → Option Nat
  platformID : Nat → Option Nat
  userID : Nat → Option Nat
  sui : Nat → Sui
  buffer : CItemBuffer
  now : Nat
  suspended : List Thread
  log : List Event

/-- The service after it has started. -/
def State.init : State :=
  { items := fun _ => ⟨0, "", 0, none, none⟩
    itemCount := 0
    session := fun _ => none
    platformID := fun _ => none
    userID := fun _ => none
    sui := fun _ => Sui.blank
    buffer := CItemBuffer.empty
    now := 0
    suspended := []
    log := [] }

namespace State

/-- An event for the log. -/
def emit (s : State) (e : Event) : State := { s with log := e :: s.log }

/-- The handler waits. -/
def suspend (s : State) (t : Thread) : State := { s with suspended := s.suspended ++ [t] }

/-- Change the fields of an item. -/
def setItem (s : State) (i : Nat) (f : Item → Item) : State := { s with items := Function.update s.items i (f (s.items i)) }

/-- `ServerUserItem.getAttribute(item.sui, …)`, if there is a record. -/
def getAttribute (s : State) (i : Nat) : Option Sui := (s.items i).sui.map s.sui

/-- `ServerUserItem.setAttribute` on the record `r`. -/
def setAttribute (s : State) (r : Nat) (f : Sui → Sui) : State := { s with sui := Function.update s.sui r (f (s.sui r)) }

end State

/-! ## Leaving the login server -/

/-- The end of `kickLS`, after `kickLSAgent`. -/
def kickLSWrite (s : State) (i : Nat) (newUserStatus : UserStatus) (kickGS : Option (Nat × Nat)) : State :=
  match (s.items i).sui with
  | none => s.emit (.fail .nilSui)
  | some r =>
    let s := s.setAttribute r fun a => { a with agent := 0, userStatus := newUserStatus }
    let s := if newUserStatus = .usNull then s.setItem i fun it => { it with suiActiveTS := some s.now } else s
    match kickGS with
    | some (serverID, userID) => s.emit (.kickGS serverID userID)
    | none => s

/-- `kickLS`, and the `kickGS` that `cmd_registerSession` has after one of its calls. -/
def kickLS (s : State) (i : Nat) (attr : Sui) (newUserStatus : UserStatus) (kickGS : Option (Nat × Nat)) : State :=
  if attr.agent ≠ 0 then s.suspend (.kickLS i attr.agent attr.userStatus newUserStatus kickGS)
  else kickLSWrite s i newUserStatus kickGS

/-- `cmd_registerSession`. -/
def registerSession (s : State) (session : String) (platformID : Nat) : State :=
  match s.platformID platformID with
  | some i =>
    let s := { s with session := Function.update (Function.update s.session (s.items i).session none) session (some i) }
    let s := s.setItem i fun it => { it with session := session, sessionActiveTS := s.now }
    match s.getAttribute i with
    | none => s
    | some attr =>
      match attr.userStatus with
      | .usLs => kickLS s i attr .usNull none
      | .usGs => s.emit (.kickGS attr.serverID attr.userID)
      | .usGsOffline => s
      | .usLsGs => kickLS s i attr .usGs (some (attr.serverID, attr.userID))
      | .usLsGsOffline => kickLS s i attr .usGsOffline none
      | .usNull => s
  | none =>
    let i := s.itemCount
    { s with
      items := Function.update s.items i ⟨platformID, session, s.now, none, none⟩
      itemCount := i + 1
      platformID := Function.update s.platformID platformID (some i)
      session := Function.update s.session session (some i) }

/-- `cmd_getUserItemByPlatformID`. -/
def getUserItemByPlatformID (s : State) (platformID : Nat) (updateSuiTS : Bool) : State :=
  match s.platformID platformID with
  | some i =>
    if (s.items i).sui ≠ none ∧ updateSuiTS ∧ (s.items i).suiActiveTS ≠ none then
      s.setItem i fun it => { it with suiActiveTS := some s.now }
    else s
  | none => s

/-! ## Entering the login server -/

/-- The status `cmd_switchUserItem` gives. -/
def switchedStatus : UserStatus → UserStatus
  | .usNull => .usLs
  | .usLs => .usLs
  | .usGs => .usLsGs
  | .usGsOffline => .usLsGsOffline
  | .usLsGs => .usLsGs
  | .usLsGsOffline => .usLsGsOffline

/-- `cmd_switchUserItem` after `kickLSAgent`. The calls after the write change nothing here. -/
def switchWrite (s : State) (i : Nat) (newUserStatus : UserStatus) (newAgent : Nat) : State :=
  match (s.items i).sui with
  | none => s.emit (.fail .nilSui)
  | some r => s.setAttribute r fun a => { a with agent := newAgent, userStatus := newUserStatus }

/-- `cmd_switchUserItem`. -/
def switchUserItem (s : State) (platformID newAgent : Nat) : State :=
  match s.platformID platformID with
  | none => s.emit (.fail .nilSui)
  | some i =>
    match s.getAttribute i with
    | none => s.emit (.fail (.switchUserItem platformID))
    | some attr =>
      let s := s.setItem i fun it => { it with sessionActiveTS := s.now, suiActiveTS := none }
      let newUserStatus := switchedStatus attr.userStatus
      match attr.userStatus with
      | .usLs | .usLsGs | .usLsGsOffline =>
        if attr.agent ≠ 0 then s.suspend (.switchUserItem i attr.agent attr.userStatus newUserStatus newAgent)
        else switchWrite s i newUserStatus newAgent
      | .usNull | .usGs | .usGsOffline => switchWrite s i newUserStatus newAgent

/-- `cmd_registerUser`, with what its only caller passes: the status `US_LS`, the new agent, and no server. -/
def registerUser (s : State) (platformID userID agent : Nat) : State :=
  match s.platformID platformID with
  | none => s.emit (.fail (.registerUserNoItem platformID))
  | some i =>
    if (s.items i).sui ≠ none then s.emit (.fail (.registerUserHasSui platformID))
    else
      let r := s.buffer.allocate.1
      let s := { s with
        buffer := s.buffer.allocate.2
        sui := Function.update s.sui r ⟨userID, agent, .usLs, 0, 0, 0⟩
        userID := Function.update s.userID userID (some i) }
      s.setItem i fun it => { it with sui := some r, sessionActiveTS := s.now, suiActiveTS := none }

/-! ## Game servers -/

/-- The new attributes `cmd_gs_login` sets on success; `none` is `GLC_RETRY`. -/
def loginUpdate (attr : Sui) (kindID nodeID serverID : Nat) : Option Sui :=
  match attr.userStatus with
  | .usNull => some { attr with kindID := kindID, nodeID := nodeID, serverID := serverID, userStatus := .usGs }
  | .usLs => some { attr with kindID := kindID, nodeID := nodeID, serverID := serverID, userStatus := .usLsGs }
  | .usGs => if attr.serverID = serverID then some attr else none
  | .usGsOffline => if attr.serverID = serverID then some { attr with userStatus := .usGs } else none
  | .usLsGs => if attr.serverID = serverID then some attr else none
  | .usLsGsOffline => if attr.serverID = serverID then some { attr with userStatus := .usLsGs } else none

/-- `cmd_gs_login`. -/
def gsLogin (s : State) (session : String) (kindID nodeID serverID : Nat) : State :=
  match s.session session with
  | none => s.emit (.loginRefused serverID .invalidSession)
  | some i =>
    match (s.items i).sui with
    | none => s.emit (.loginRefused serverID .lsLoginFirst)
    | some r =>
      match loginUpdate (s.sui r) kindID nodeID serverID with
      | some attr =>
        let s := s.setAttribute r fun _ => attr
        let s := s.setItem i fun it => { it with suiActiveTS := none }
        s.emit (.loginSuccess serverID attr.userID)
      | none => (s.emit (.kickGS (s.sui r).serverID (s.sui r).userID)).emit (.loginRefused serverID .retry)

/-- The status `cmd_gs_logout` gives; `none` is its error for an unexpected status. -/
def loggedOutStatus : UserStatus → Option UserStatus
  | .usGs | .usGsOffline => some .usNull
  | .usLsGs | .usLsGsOffline => some .usLs
  | .usNull | .usLs => none

/-- The end of `cmd_gs_logout`, after `cmd_loadUserData`. -/
def gsLogoutStamp (s : State) (i : Nat) (newUserStatus : UserStatus) : State :=
  if newUserStatus = .usNull then s.setItem i fun it => { it with suiActiveTS := some s.now } else s

/-- `cmd_gs_logout`. -/
def gsLogout (s : State) (userID kindID nodeID serverID : Nat) (bOffLine : Bool) : State :=
  match s.userID userID with
  | none => s
  | some i =>
    match (s.items i).sui with
    | none => s.emit (.fail (.gsLogoutNoSui userID))
    | some r =>
      match loggedOutStatus (s.sui r).userStatus with
      | none => s.emit (.fail (.gsLogoutStatus (s.sui r).userStatus userID))
      | some newUserStatus =>
        if (s.sui r).kindID = kindID ∧ (s.sui r).nodeID = nodeID ∧ (s.sui r).serverID = serverID then
          let s := s.setAttribute r fun a => { a with userStatus := newUserStatus, kindID := 0, nodeID := 0, serverID := 0 }
          let s := s.emit (.logout serverID userID)
          if bOffLine then gsLogoutStamp s i newUserStatus else s.suspend (.gsLogout i newUserStatus)
        else s.emit (.fail (.gsLogoutServer userID serverID))

/-- The status `cmd_gs_offline` gives; `none` is its error for an unexpected status. -/
def offlineStatus : UserStatus → Option UserStatus
  | .usGs | .usGsOffline => some .usGsOffline
  | .usLsGs | .usLsGsOffline => some .usLsGsOffline
  | .usNull | .usLs => none

/-- `cmd_gs_offline`. -/
def gsOffline (s : State) (userID kindID nodeID serverID : Nat) : State :=
  match s.userID userID with
  | none => s
  | some i =>
    match (s.items i).sui with
    | none => s.emit (.fail (.gsOfflineNoSui userID))
    | some r =>
      match offlineStatus (s.sui r).userStatus with
      | none => s.emit (.fail (.gsOfflineStatus (s.sui r).userStatus userID))
      | some newUserStatus =>
        if (s.sui r).kindID = kindID ∧ (s.sui r).nodeID = nodeID ∧ (s.sui r).serverID = serverID then
          s.setAttribute r fun a => { a with userStatus := newUserStatus }
        else s.emit (.fail (.gsOfflineServer userID serverID))

/-! ## Disconnects and expiry -/

/-- The status `cmd_onEventClientDisconnect` gives. -/
def disconnectedStatus : UserStatus → UserStatus
  | .usNull | .usLs => .usNull
  | .usGs | .usLsGs => .usGs
  | .usGsOffline | .usLsGsOffline => .usGsOffline

/-- `cmd_onEventClientDisconnect`. -/
def onEventClientDisconnect (s : State) (userID : Nat) : State :=
  match s.userID userID with
  | none => s
  | some i =>
    match (s.items i).sui with
    | none => s
    | some r =>
      let newUserStatus := disconnectedStatus (s.sui r).userStatus
      let s := s.setAttribute r fun a => { a with agent := 0, userStatus := newUserStatus }
      if newUserStatus = .usNull then s.setItem i fun it => { it with suiActiveTS := some s.now } else s

/-- The record `r` of an item goes back to the pool, and the user out of the index. -/
def releaseSui (s : State) (i r userID : Nat) : State :=
  let s := { s with
    userID := Function.update s.userID userID none
    sui := Function.update s.sui r Sui.blank
    buffer := s.buffer.release r }
  s.setItem i fun it => { it with sui := none, suiActiveTS := none }

/-- The loop of `cmd_onEventGameServerDisconnect` over the sessions `order`, up to the first agent it has to wait for. -/
def disconnectLoop (serverID : Nat) : State → List String → State
  | s, [] => s
  | s, session :: order =>
    match s.session session with
    | none => disconnectLoop serverID s order
    | some i =>
      match (s.items i).sui with
      | none => disconnectLoop serverID s order
      | some r =>
        if (s.sui r).serverID = serverID then
          if (s.sui r).agent ≠ 0 then s.suspend (.gameServerDisconnect serverID i (s.sui r).agent (s.sui r).userID)
          else disconnectLoop serverID (releaseSui s i r (s.sui r).userID) order
        else disconnectLoop serverID s order

/-- `cmd_onEventGameServerDisconnect`. The order in which `pairs` gives the sessions is `order`. -/
def onEventGameServerDisconnect (s : State) (serverID : Nat) (order : List String) : State :=
  disconnectLoop serverID (s.emit (.gameServerDisconnect serverID)) order

/-- The same where the record has gone meanwhile: `CItemBuffer.release` of nil does nothing, the
rest is done all the same. -/
def forgetUser (s : State) (i userID : Nat) : State :=
  State.setItem { s with userID := Function.update s.userID userID none } i fun it => { it with suiActiveTS := none }

/-- The rest of an iteration of that loop after `kickLSAgent`, and the iterations after it. -/
def disconnectResume (s : State) (serverID i userID : Nat) (order : List String) : State :=
  match (s.items i).sui with
  | none => disconnectLoop serverID (forgetUser s i userID) order
  | some r => disconnectLoop serverID (releaseSui s i r userID) order

/-- `LS_CONST.SESSION_CONTROL`, in hundredths of a second. -/
def userItemLifeTime : Nat := 300 * 100
def sessionLifeTime : Nat := 10800 * 100

/-- An item of the loop of `cleanExpiredInfo` whose record has expired. -/
def recordExpired (s : State) (i : Nat) : Bool :=
  match (s.items i).suiActiveTS with
  | some ts => s.now - ts > userItemLifeTime
  | none => false

/-- The second half of an iteration: a session without a record that has expired. -/
def cleanSession (s : State) (i : Nat) : State :=
  if (s.items i).sui = none ∧ s.now - (s.items i).sessionActiveTS > sessionLifeTime then
    { s with
      session := Function.update s.session (s.items i).session none
      platformID := Function.update s.platformID (s.items i).platformID none }
  else s

/-- The loop of `cleanExpiredInfo` over the sessions `order`. An unexpected status ends it. -/
def cleanLoop : State → List String → State
  | s, [] => s
  | s, session :: order =>
    match s.session session with
    | none => cleanLoop s order
    | some i =>
      match (s.items i).sui with
      | none => cleanLoop (cleanSession s i) order
      | some r =>
        if recordExpired s i then
          if (s.sui r).userStatus ≠ .usNull then s.emit (.fail (.cleanExpiredInfo (s.sui r).userID (s.sui r).userStatus))
          else cleanLoop (cleanSession (releaseSui s i r (s.sui r).userID) i) order
        else cleanLoop (cleanSession s i) order

/-! ## The service -/

/-- A message, the end of a call, or the passing of time. -/
inductive Label where
  | registerSession (session : String) (platformID : Nat)
  | getUserItemByPlatformID (platformID : Nat) (updateSuiTS : Bool)
  | switchUserItem (platformID newAgent : Nat)
  | registerUser (platformID agent : Nat)
  | gsLogin (session : String) (kindID nodeID serverID : Nat)
  | gsLogout (userID kindID nodeID serverID : Nat) (bOffLine : Bool)
  | gsOffline (userID kindID nodeID serverID : Nat)
  | clientDisconnect (userID : Nat)
  | gameServerDisconnect (serverID : Nat) (order : List String)
  | cleanExpiredInfo (order : List String)
  | tick (n : Nat)
  | resume (k : Nat) (order : List String)
  | abort (k : Nat)
  deriving DecidableEq, Repr

/-- A handler whose call has returned. -/
def resumeThread (s : State) (order : List String) : Thread → State
  | .kickLS i agent _ newUserStatus kickGS => kickLSWrite (s.emit (.kickAgent agent)) i newUserStatus kickGS
  | .switchUserItem i agent _ newUserStatus newAgent => switchWrite (s.emit (.kickAgent agent)) i newUserStatus newAgent
  | .gsLogout i newUserStatus => gsLogoutStamp s i newUserStatus
  | .gameServerDisconnect serverID i agent userID => disconnectResume (s.emit (.kickAgent agent)) serverID i userID order

/-- The calls of `cmd_loadUserData` are not protected; the others are. -/
def Thread.canAbort : Thread → Bool
  | .gsLogout _ _ => true
  | _ => false

/-- One label. `account` gives the user of a platform's row in the accounts table, which the caller of
`registerUser` has read. -/
def step (account : Nat → Nat) (s : State) : Label → Option State
  | .registerSession session platformID => some (registerSession s session platformID)
  | .getUserItemByPlatformID platformID updateSuiTS => some (getUserItemByPlatformID s platformID updateSuiTS)
  | .switchUserItem platformID newAgent => some (switchUserItem s platformID newAgent)
  | .registerUser platformID agent => some (registerUser s platformID (account platformID) agent)
  | .gsLogin session kindID nodeID serverID => some (gsLogin s session kindID nodeID serverID)
  | .gsLogout userID kindID nodeID serverID bOffLine => some (gsLogout s userID kindID nodeID serverID bOffLine)
  | .gsOffline userID kindID nodeID serverID => some (gsOffline s userID kindID nodeID serverID)
  | .clientDisconnect userID => some (onEventClientDisconnect s userID)
  | .gameServerDisconnect serverID order => some (onEventGameServerDisconnect s serverID order)
  | .cleanExpiredInfo order => some (cleanLoop s order)
  | .tick n => some { s with now := s.now + n }
  | .resume k order =>
    s.suspended[k]?.map fun t => resumeThread { s with suspended := s.suspended.eraseIdx k } order t
  | .abort k =>
    s.suspended[k]?.bind fun t => if t.canAbort then some { s with suspended := s.suspended.eraseIdx k } else none

end SasyServer.Session
