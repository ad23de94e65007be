import Mathlib.Logic.Function.Basic
import SasyServer.CItemBuffer
import SasyServer.Lib.Steps

/-!
# The user manager of a game server

`service/gameServer/GS_model_userManager.lua`: the handlers that insert, switch, kick and disconnect users, all of which go
through `setUserStatus`. As in the session manager, the user records are the blocks of a `CItemBuffer` and a reference to one
is a number; a record after `reset` is `none`, and reading or writing it is the error "operate an unused object". A handler
that waits is a `Thread`; waits with nothing between them that reads or writes the state of the service are one, and a wait
at the end of a handler is left out.

Left out are `_waitDistributeHash`, which nothing here reads, the messages to clients, and the attributes that
are only copied. `cmd_kickAllUserBeforeServerClosing` calls `kickUser` for one user after the other, so its
runs are runs of `kickUser`.
-/

namespace SasyServer.UserManager

/-- `GS_CONST.USER_STATUS`. -/
inductive UserStatus where
  | usNull | usFree | usSit | usReady | usLookon | usPlaying | usOffline
  deriving DecidableEq, Repr

def invalidTable : Int := 0xffff
def invalidChair : Int := 0xffff

/-- The attributes of a user record that the user manager reads or that `setUserStatus` writes. -/
structure Sui where
  userID : Nat
  tableID : Int
  chairID : Int
  userStatus : UserStatus
  agent : Nat
  deskPos : Int
  deskCount : Int
  isAndroid : Bool
  score : Int
  deriving DecidableEq, Repr

/-- The fields of `_serverConfig` that are read. -/
structure ServerConfig where
  kindID : Nat
  maxPlayer : Nat
  deriving DecidableEq, Repr

/-- A handler that waits: `offline` in the calls of `setUserStatus` with `US_OFFLINE`, `logout` and `release` in those
with `US_NULL` (`doDBUserLogout`; `notifyLSUserLogout` and `cmd_releaseUserData`), `kick` and `disconnect` for
`standUp`, `insert` for the data of a new user, `switchUserItem` for `clearCache`, and `switchPlaying` for the
broadcast of the status it has set. -/
inductive Thread where
  | offline (userID userItem : Nat) (tableID chairID : Int)
  | logout (userID userItem : Nat)
  | release (userID userItem : Nat)
  | kick (userID : Nat)
  | disconnect (userID : Nat)
  | insert (userID : Nat) (userIDToKick : Option Nat)
  | switchUserItem (userID userItem : Nat) (userStatus : UserStatus) (tableID chairID : Int) (agent : Nat) (deskCount : Int)
  | switchPlaying (userItem : Nat) (agent : Nat) (deskCount : Int)
  deriving DecidableEq, Repr

/-- The writes of `setUserStatus`, with what `_userItemHash` had for the user and whether the record was in the pool, and the
error of a write to an unused record. -/
inductive Event where
  | write (userID userItem : Nat) (mapped : Option Nat) (released : Bool)
  | unused (userID userItem : Nat)
  deriving DecidableEq, Repr

/-- The service: the records, `_userItemHash`, the pool, the handlers that wait and the log, the newest event first. -/
structure State where
  items : Nat → Option Sui
  userItemHash : List (Nat × Nat)
  buffer : CItemBuffer
  suspended : List Thread
  log : List Event

namespace State

/-- The service after it has started. -/
def init : State := ⟨fun _ => none, [], CItemBuffer.empty, [], []⟩

/-- `_userItemHash[userID]`. -/
def userItem (s : State) (userID : Nat) : Option Nat := (s.userItemHash.find? fun p => p.1 = userID).map Prod.snd

/-- The record of a user, as `getAttribute` reads it. -/
def attr (s : State) (userID : Nat) : Option Sui := (s.userItem userID).bind s.items

def suspend (s : State) (t : Thread) : State := { s with suspended := s.suspended ++ [t] }

def emit (s : State) (e : Event) : State := { s with log := e :: s.log }

def setItem (s : State) (i : Nat) (x : Option Sui) : State := { s with items := Function.update s.items i x }

end State

/-- The `ServerUserItem.setAttribute` of `setUserStatus`. -/
def setStatusAttribute (s : State) (userID i : Nat) (f : Sui → Sui) : State :=
  match s.items i with
  | none => s.emit (.unused userID i)
  | some x => (s.setItem i (some (f x))).emit (.write userID i (s.userItem userID) (i ∈ s.buffer.itemList))

/-- The window of tables a user sees, after the user has gone to another table. -/
def newDeskPos (x : Sui) (tableID : Int) : Int :=
  if tableID > x.deskPos + x.deskCount - 1 ∨ tableID < x.deskPos then (tableID - 1).fdiv x.deskCount * x.deskCount + 1
  else x.deskPos

/-- `setUserStatus`, up to its first wait; `none` is an error. -/
def setUserStatus (s : State) (userID : Nat) (userStatus : UserStatus) (tableID chairID : Int) : Option State :=
  match s.userItem userID with
  | none => some s
  | some i =>
    (s.items i).map fun userAttr =>
      match userStatus with
      | .usSit | .usReady | .usPlaying =>
        setStatusAttribute s userID i fun x =>
          { x with tableID := tableID, chairID := chairID, userStatus := userStatus, deskPos := newDeskPos x tableID }
      | .usOffline =>
        if userAttr.isAndroid then
          setStatusAttribute s userID i fun x =>
            { x with tableID := tableID, chairID := chairID, userStatus := .usOffline, agent := 0 }
        else s.suspend (.offline userID i tableID chairID)
      | .usNull => { s with userItemHash := s.userItemHash.filter fun p => p.1 ≠ userID }.suspend (.logout userID i)
      | .usFree | .usLookon =>
        setStatusAttribute s userID i fun x => { x with tableID := tableID, chairID := chairID, userStatus := userStatus }

/-- `setUserStatus` with `US_NULL`, as the other handlers call it. -/
def setUserNull (s : State) (userID : Nat) : State := (setUserStatus s userID .usNull invalidTable invalidChair).getD s

/-- The user sits at a table whose address is known, so that the handler asks it for `standUp`. -/
def standsUp (s : State) (userID : Nat) (tableFound : Bool) : Bool :=
  (s.attr userID).any (fun x => x.tableID ≠ invalidTable) && tableFound

/-- `kickUser`. -/
def kickUser (s : State) (userID : Nat) (tableFound : Bool) : State :=
  if standsUp s userID tableFound then s.suspend (.kick userID) else setUserNull s userID

/-- `cmd_onEventClientDisconnect`. A table other than those of the kinds 104 and 800 is only told. -/
def onEventClientDisconnect (cfg : ServerConfig) (s : State) (userID : Nat) (tableFound : Bool) : State :=
  match s.attr userID with
  | none => s
  | some x =>
    if standsUp s userID tableFound then
      if ¬x.isAndroid ∧ (cfg.kindID = 104 ∨ cfg.kindID = 800) then s.suspend (.disconnect x.userID) else s
    else setUserNull s userID

/-- The user has the least score, as `getUserItemCount` finds it. -/
def isLeast (s : State) (userID : Nat) : Bool :=
  (s.attr userID).any fun x => s.userItemHash.all fun p => (s.items p.2).all fun y => x.score ≤ y.score

/-- `cmd_insertUserItem` after the choice of a user to kick, up to its wait. -/
def insertNew (s : State) (userInfo : Sui) (userIDToKick : Option Nat) : State :=
  let i := s.buffer.allocate.1
  { s with
    items := Function.update s.items i (some userInfo)
    userItemHash := s.userItemHash ++ [(userInfo.userID, i)]
    buffer := s.buffer.allocate.2 }.suspend (.insert userInfo.userID userIDToKick)

/-- `cmd_insertUserItem`. `leastUserID` is the one of the users with the least score that `pairs` gives first. -/
def insertUserItem (cfg : ServerConfig) (s : State) (userInfo : Sui) (leastUserID : Nat) : Option State :=
  match s.userItem userInfo.userID with
  | some _ => some s
  | none =>
    if s.userItemHash.length ≥ cfg.maxPlayer then
      if s.userItemHash = [] then some s
      else if isLeast s leastUserID then
        if (s.attr leastUserID).any fun x => userInfo.score > x.score then some (insertNew s userInfo (some leastUserID))
        else some s
      else none
    else some (insertNew s userInfo none)

/-- `cmd_insertUserItem` after its wait. -/
def insertLoaded (s : State) (userID : Nat) (userIDToKick : Option Nat) (tableFound : Bool) : State :=
  match s.userItem userID with
  | none => s
  | some _ =>
    match userIDToKick with
    | none => s
    | some userIDToKick => kickUser s userIDToKick tableFound

/-- The last `setAttribute` of `cmd_switchUserItem`, to the record it has found at its start. -/
def switchAttribute (s : State) (i agent : Nat) (deskCount : Int) : State :=
  match s.items i with
  | none => s
  | some x => s.setItem i (some { x with agent := agent, deskCount := deskCount })

/-- `cmd_switchUserItem` after `clearCache`. -/
def switchCleared (s : State) (userID i : Nat) (userStatus : UserStatus) (tableID chairID : Int) (agent : Nat)
    (deskCount : Int) :
    State :=
  if userStatus = .usOffline then
    match s.userItem userID with
    | none => switchAttribute s i agent deskCount
    | some _ =>
      match setUserStatus s userID .usPlaying tableID chairID with
      | none => s
      | some s => s.suspend (.switchPlaying i agent deskCount)
  else switchAttribute s i agent deskCount

/-- `cmd_switchUserItem`. -/
def switchUserItem (s : State) (userID agent : Nat) (deskCount : Int) : State :=
  match s.userItem userID with
  | none => s
  | some i =>
    match s.items i with
    | none => s
    | some x =>
      if x.agent ≠ 0 then s.suspend (.switchUserItem userID i x.userStatus x.tableID x.chairID agent deskCount)
      else switchCleared s userID i x.userStatus x.tableID x.chairID agent deskCount

/-- A handler whose wait is over. `ok` is the success of `doDBUserLogout`. -/
def resumeThread (s : State) (ok tableFound : Bool) : Thread → State
  | .offline userID i tableID chairID =>
    setStatusAttribute s userID i
      fun x => { x with tableID := tableID, chairID := chairID, userStatus := .usOffline, agent := 0 }
  | .logout userID i => if ok then s.suspend (.release userID i) else s
  | .release _ i => { s.setItem i none with buffer := s.buffer.release i }
  | .kick userID => setUserNull s userID
  | .disconnect userID => setUserNull s userID
  | .insert userID userIDToKick => insertLoaded s userID userIDToKick tableFound
  | .switchUserItem userID i userStatus tableID chairID agent deskCount =>
    switchCleared s userID i userStatus tableID chairID agent deskCount
  | .switchPlaying i agent deskCount => switchAttribute s i agent deskCount

/-- A message, the end of a wait, or an error in a call, which ends the handler. -/
inductive Label where
  | setUserStatus (userID : Nat) (userStatus : UserStatus) (tableID chairID : Int)
  | insertUserItem (userInfo : Sui) (leastUserID : Nat)
  | switchUserItem (userID agent : Nat) (deskCount : Int)
  | kickUser (userID : Nat) (tableFound : Bool)
  | clientDisconnect (userID : Nat) (tableFound : Bool)
  | resume (k : Nat) (ok tableFound : Bool)
  | abort (k : Nat)
  deriving DecidableEq, Repr

/-- One label. -/
def step (cfg : ServerConfig) (s : State) : Label → Option State
  | .setUserStatus userID userStatus tableID chairID => some ((setUserStatus s userID userStatus tableID chairID).getD s)
  | .insertUserItem userInfo leastUserID => insertUserItem cfg s userInfo leastUserID
  | .switchUserItem userID agent deskCount => some (switchUserItem s userID agent deskCount)
  | .kickUser userID tableFound => some (kickUser s userID tableFound)
  | .clientDisconnect userID tableFound => some (onEventClientDisconnect cfg s userID tableFound)
  | .resume k ok tableFound =>
    s.suspended[k]?.map fun t => resumeThread { s with suspended := s.suspended.eraseIdx k } ok tableFound t
  | .abort k => s.suspended[k]?.map fun _ => { s with suspended := s.suspended.eraseIdx k }

end SasyServer.UserManager
