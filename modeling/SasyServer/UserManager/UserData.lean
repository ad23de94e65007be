import SasyServer.Session.Manager
import SasyServer.UserManager.Connections

/-!
# The data of the users of a game server

While a user is in `_userItemHash`, six data services have the user's data, and the login server's status of the user names
the game server. `cmd_insertUserItem` has the data loaded, one service after the other; `setUserStatus` with `US_NULL` tells
the login server and has it released. Each call is a step of its own. A player comes through `GS_controller_login`, which has
called `gs_login` before; an android comes without the login server.

What else happens on the login server may change a user's record there, but not whether its status names this game server.
Left out are the contents of the data and the calls that only save them.
-/

namespace SasyServer.UserManager

/-- The services that keep data of a user under `userID`. -/
inductive DataService where
  | bag | protect | rewardGoldFish | operatorLimit | gunUplevel | invalidGun
  deriving DecidableEq, Repr

/-- A call of a handler of the user manager. `loadItem` is a load that is given the record and reads `userID` from it. -/
inductive Call where
  | loadItem (service : DataService) (userItem : Nat)
  | load (service : DataService) (userID : Nat)
  | release (service : DataService) (userID : Nat)
  | gsLogout (userID : Nat)
  | gsOffline (userID : Nat)
  deriving DecidableEq, Repr

/-- `cmd_loadUserData`. -/
def loadUserData (userItem userID : Nat) : List Call :=
  [.loadItem .bag userItem, .load .protect userID, .load .rewardGoldFish userID, .load .operatorLimit userID,
    .loadItem .gunUplevel userItem, .load .invalidGun userID]

/-- `cmd_releaseUserData`. -/
def releaseUserData (userID : Nat) : List Call :=
  [.release .bag userID, .release .protect userID, .release .rewardGoldFish userID, .release .gunUplevel userID,
    .release .operatorLimit userID, .release .invalidGun userID]

/-- The calls of a handler that begins to wait. -/
def calls (s : State) : Thread → List Call
  | .insert userID _ => (s.userItem userID).elim [] fun i => loadUserData i userID
  | .release userID i => (if (s.items i).any Sui.isAndroid then [] else [.gsLogout userID]) ++ releaseUserData userID
  | .offline userID _ _ _ => [.gsOffline userID]
  | _ => []

/-- The calls that a handler which waits still has to make, and whether a login waits for it. -/
structure Work where
  calls : List Call
  login : Bool
  deriving DecidableEq, Repr

/-- A handler of `GS_controller_login` after `gs_login`: its next call. -/
inductive Login where
  | getUserItem (userID : Nat)
  | switchUserItem (userID : Nat)
  | insertUserItem (userID : Nat)
  | gsLogout (userID : Nat)
  deriving DecidableEq, Repr

/-- `_serverConfig`, and which users are androids. -/
structure Host where
  config : ServerConfig
  nodeID : Nat
  serverID : Nat
  android : Nat → Bool

/-- The manager, the work of each of its handlers that wait, whose data the services have, the login server's records of the
users, the logins, and the users without a record for whom `kickUser` has called `gs_logout`. -/
structure Hosted where
  manager : State
  works : List Work
  data : DataService → Nat → Bool
  loginServer : Nat → Option Session.Sui
  logins : List Login
  notices : List Nat

namespace Hosted

/-- The game server after it has started. -/
def init : Hosted := ⟨.init, [], fun _ _ => false, fun _ => none, [], []⟩

/-- The manager after a handler; those that begin to wait get their work. -/
def put (s : Hosted) (manager : State) (login : Bool) : Hosted :=
  { s with
    manager := manager,
    works := s.works ++ (manager.suspended.drop s.works.length).map fun t => ⟨calls manager t, login⟩ }

def setData (s : Hosted) (service : DataService) (userID : Nat) (loaded : Bool) : Hosted :=
  { s with data := fun c u => if c = service ∧ u = userID then loaded else s.data c u }

def setLoginServer (s : Hosted) (userID : Nat) (x : Option Session.Sui) : Hosted :=
  { s with loginServer := Function.update s.loginServer userID x }

/-- The next call of the `k`-th handler has returned. -/
def done (s : Hosted) (k : Nat) (w : Work) (calls : List Call) : Hosted :=
  { s with works := s.works.set k { w with calls := calls } }

end Hosted

/-! ## The login server -/

/-- The status of a user names the game server. -/
def names (h : Host) (x : Session.Sui) : Bool := x.userStatus.onGameServer && x.serverID = h.serverID

/-- The record of a user has the game server's other identities, too. -/
def matched (h : Host) (x : Session.Sui) : Bool :=
  x.kindID = h.config.kindID && x.nodeID = h.nodeID && x.serverID = h.serverID

/-- `cmd_gs_login`, where it succeeds. -/
def gsLogin (h : Host) (x : Session.Sui) : Option Session.Sui := Session.loginUpdate x h.config.kindID h.nodeID h.serverID

/-- `cmd_gs_logout`. Its errors change nothing, and `notifyLSUserLogout` only logs them. -/
def gsLogout (h : Host) (x : Session.Sui) : Session.Sui :=
  match Session.loggedOutStatus x.userStatus with
  | none => x
  | some userStatus =>
    if matched h x then { x with userStatus := userStatus, kindID := 0, nodeID := 0, serverID := 0 } else x

/-- `cmd_gs_offline`. -/
def gsOffline (h : Host) (x : Session.Sui) : Session.Sui :=
  match Session.offlineStatus x.userStatus with
  | none => x
  | some userStatus => if matched h x then { x with userStatus := userStatus } else x

namespace Hosted

/-- The login server handles a message about a user. -/
def tell (s : Hosted) (userID : Nat) (f : Session.Sui → Session.Sui) : Hosted :=
  s.setLoginServer userID ((s.loginServer userID).map f)

/-- The next call of the `k`-th handler. An error that the handler does not catch ends it and is not here; `ok` is false
where the call fails and the handler goes on. -/
def perform (h : Host) (s : Hosted) (k : Nat) (w : Work) (rest : List Call) (ok : Bool) : Call → Option Hosted
  | .loadItem service i => (s.manager.items i).map fun x => s.done k w (.load service x.userID :: rest)
  | .load service userID =>
    if ok then some ((s.setData service userID true).done k w rest)
    else if service = .bag then some (s.done k w rest)
    else none
  | .release service userID => if ok then some ((s.setData service userID false).done k w rest) else none
  | .gsLogout userID => some (if ok then (s.tell userID (UserManager.gsLogout h)).done k w rest else s.done k w rest)
  | .gsOffline userID => some (if ok then (s.tell userID (UserManager.gsOffline h)).done k w rest else s.done k w rest)

/-- The handler has made its calls. -/
def ready (s : Hosted) : Label → Bool
  | .resume k _ _ => s.works[k]?.all fun w => w.calls = []
  | _ => true

/-- The login that goes on to `gs_logout` as its user has gone in the meantime. -/
def returned (s : Hosted) : Label → Option Login
  | .resume k _ _ =>
    match s.manager.suspended[k]?, s.works[k]? with
    | some (.insert userID _), some w => if w.login ∧ s.manager.userItem userID = none then some (.gsLogout userID) else none
    | _, _ => none
  | _ => none

end Hosted

/-- The user without a record for whom `kickUser` calls `gs_logout`. -/
def notified (s : State) : Label → Option Nat
  | .kickUser userID _ => if s.userItem userID = none then some userID else none
  | .resume k _ _ =>
    s.suspended[k]?.bind fun
      | .insert userID (some userIDToKick) =>
        if s.userItem userID ≠ none ∧ s.userItem userIDToKick = none then some userIDToKick else none
      | _ => none
  | _ => none

/-- A handler of the manager. -/
def Hosted.serve (h : Host) (s : Hosted) (l : Label) : Option Hosted :=
  (step h.config s.manager l).map fun manager =>
    { s with
      works := leftover s.works l
      logins := s.logins ++ (s.returned l).toList
      notices := s.notices ++ (notified s.manager l).toList }.put manager false

/-- A message to the manager or the end of a handler's wait, the next call of its `k`-th handler, `gs_login`, the steps of
the `k`-th login, the `k`-th `gs_logout` of `kickUser`, and a change on the login server. -/
inductive HostedLabel where
  | manager (l : Label)
  | call (k : Nat) (ok : Bool)
  | gsLogin (userID : Nat)
  | getUserItem (k : Nat)
  | switchUserItem (k agent : Nat) (deskCount : Int)
  | insertUserItem (k : Nat) (userInfo : Sui) (leastUserID : Nat)
  | refused (k : Nat)
  | gsLogout (k : Nat) (ok : Bool)
  | notify (k : Nat) (ok : Bool)
  | loginServer (userID : Nat) (x : Option Session.Sui)
  deriving DecidableEq, Repr

/-- One label. Only androids come without a login. -/
def hostedStep (h : Host) (s : Hosted) : HostedLabel → Option Hosted
  | .manager l =>
    match l with
    | .insertUserItem userInfo _ => if userInfo.isAndroid ∧ h.android userInfo.userID then s.serve h l else none
    | l => if s.ready l then s.serve h l else none
  | .call k ok =>
    s.works[k]?.bind fun w =>
      match w.calls with
      | [] => none
      | c :: rest => s.perform h k w rest ok c
  | .gsLogin userID =>
    if h.android userID then none
    else ((s.loginServer userID).bind (gsLogin h)).map fun x =>
      { s.setLoginServer userID (some x) with logins := s.logins ++ [.getUserItem userID] }
  | .getUserItem k =>
    s.logins[k]?.bind fun
      | .getUserItem userID =>
        some { s with
          logins := s.logins.set k
            (if s.manager.userItem userID = none then .insertUserItem userID else .switchUserItem userID) }
      | _ => none
  | .switchUserItem k agent deskCount =>
    s.logins[k]?.bind fun
      | .switchUserItem userID =>
        some ({ s with logins := s.logins.eraseIdx k }.put (switchUserItem s.manager userID agent deskCount) false)
      | _ => none
  | .insertUserItem k userInfo leastUserID =>
    s.logins[k]?.bind fun
      | .insertUserItem userID =>
        if userInfo.userID = userID ∧ ¬userInfo.isAndroid then
          (insertUserItem h.config s.manager userInfo leastUserID).map fun manager =>
            if manager.userItem userID = none then { s with logins := s.logins.set k (.gsLogout userID) }
            else { s with logins := s.logins.eraseIdx k }.put manager true
        else none
      | _ => none
  | .refused k =>
    s.logins[k]?.bind fun
      | .insertUserItem userID => some { s with logins := s.logins.set k (.gsLogout userID) }
      | _ => none
  | .gsLogout k ok =>
    s.logins[k]?.bind fun
      | .gsLogout userID =>
        some { if ok then s.tell userID (gsLogout h) else s with logins := s.logins.eraseIdx k }
      | _ => none
  | .notify k ok =>
    s.notices[k]?.map fun userID => { if ok then s.tell userID (gsLogout h) else s with notices := s.notices.eraseIdx k }
  | .loginServer userID x =>
    if x.any (names h) = (s.loginServer userID).any (names h) ∧ x.all fun x => !names h x || matched h x then
      some (s.setLoginServer userID x)
    else none

end SasyServer.UserManager
