import SasyServer.Lib.Attempt
import SasyServer.UserManager.UserData

/-!
# The logout of a user

`setUserStatus` of `service/gameServer/GS_model_userManager.lua` with `US_NULL`, as one computation with what it is answered:
by the database (`doDBUserLogout`), by the bag for its list of items, by the login server (`notifyLSUserLogout`), and by the
services that release the data of the user (`cmd_releaseUserData`). In each wait other handlers may run. An error that no
`pcall` catches ends the handler.
-/

namespace SasyServer.UserManager

/-- What comes of the database calls of `doDBUserLogout`: the `retCode` of `sp_gameserver_logout`, or an error. -/
inductive DBAnswer where
  | row (retCode : Int)
  | error
  deriving DecidableEq, Repr

/-- The waits of the handler. -/
inductive Wait where
  | dbLogout
  | itemList
  | gsLogout
  | release (service : DataService)
  deriving DecidableEq, Repr

/-- What the handler is answered; `false` is an error in the call. -/
structure Answers where
  dbLogout : DBAnswer
  itemList : Bool := true
  gsLogout : Bool := true
  release : DataService → Bool := fun _ => true

/-- The user manager, whose data the services have, and the users of whose logout the login server has been told. -/
structure Server where
  manager : State
  data : DataService → Nat → Bool
  told : List Nat

/-- `doDBUserLogout` under `pcall`. -/
def doDBUserLogout : DBAnswer → Bool
  | .row retCode => retCode = 0
  | .error => false

/-- `notifyLSUserLogout`. A failed `gs_logout` is only logged. -/
def notifyLSUserLogout (a : Answers) (others : Wait → Server → Server) (userID : Nat) (userStatus : UserStatus)
    (s : Server) :
    Attempt Server Unit :=
  let itemList : Attempt Server Unit :=
    if userStatus ≠ .usOffline then
      if a.itemList then .ok (others .itemList s) else .fail (others .itemList s) ()
    else .ok s
  itemList.andThen fun s =>
    let s := others .gsLogout s
    .ok (if a.gsLogout then { s with told := userID :: s.told } else s)

/-- One call of `cmd_releaseUserData`. -/
def releaseData (a : Answers) (others : Wait → Server → Server) (userID : Nat) (s : Server)
    (service : DataService) : Attempt Server Unit :=
  let s := others (.release service) s
  if a.release service then .ok { s with data := fun c u => if c = service ∧ u = userID then false else s.data c u }
  else .fail s ()

/-- The services in the order of `cmd_releaseUserData`. -/
def dataServices : List DataService := [.bag, .protect, .rewardGoldFish, .gunUplevel, .operatorLimit, .invalidGun]

/-- `CItemBuffer.release`. -/
def Server.release (s : Server) (userItem : Nat) : Server :=
  { s with manager := { s.manager.setItem userItem none with buffer := s.manager.buffer.release userItem } }

/-- `_userItemHash[userID] = nil`. -/
def Server.remove (s : Server) (userID : Nat) : Server :=
  { s with manager := { s.manager with userItemHash := s.manager.userItemHash.filter fun p => p.1 ≠ userID } }

/-- `setUserStatus` with `US_NULL`. -/
def setUserStatusNull (a : Answers) (others : Wait → Server → Server) (s : Server) (userID : Nat) : Attempt Server Unit :=
  match s.manager.userItem userID with
  | none => .ok s
  | some userItem =>
    match s.manager.items userItem with
    | none => .fail s ()
    | some userAttr =>
      let s := others .dbLogout (s.remove userID)
      if ¬doDBUserLogout a.dbLogout then .ok s
      else
        (if userAttr.isAndroid then .ok s else notifyLSUserLogout a others userID userAttr.userStatus s).andThen fun s =>
          (Attempt.forEach (releaseData a others userID) dataServices s).andThen fun s => .ok (s.release userItem)

end SasyServer.UserManager
