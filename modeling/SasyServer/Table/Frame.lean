import Mathlib.Data.List.AList
import Mathlib.Logic.Function.Basic
import SasyServer.Lib.Attempt
import SasyServer.Lib.Steps
import SasyServer.Timer
import SasyServer.UserManager.Service

/-!
# A table

`service/gameServer/GS_model_tableFrame.lua`, with the sink `testGame/lualib/tableFrameSink.lua`, the user records
(`setUserStatus` of `GS_model_userManager.lua`) and the record the table manager keeps of the table (`cmd_tableStateChange`
of `GS_model_tableManager.lua`). An operation runs in the critical section of the table, so it is one step; it may refuse or
raise an error on its way, and what it has done so far stays.

The entries of `chairID2UserData` are the user items in `chairs` and the times in `offlineTime`; of the sink's game data only
the chairs that have some are kept. A user record after its release is `none`, and reading it is an error. The attributes of
the users that other services change (their money and orders) are read by an operation as they are at that time, so a label
gives them. `pairs` may go through the chairs in any order, which the label `rehash` changes.

The sink sets the start mode `TIME_CONTROL`, in which `efficacyStartGame` is always false. `ServerUserItem` has no
function `freezeScore`, so that a table with a positive `ServiceScore` raises an error where it calls it, and no score is
ever frozen. Left out are the watchers, the packets to the clients, the scores, `gameMatchSink`, and what is written to
the database; with it the error of `storeGameRecord` in a `concludeGame` after a `startGame` that has raised an error
before it got its `drawID`.
-/

namespace SasyServer.TableFrame

open UserManager (UserStatus)

def invalidTable : Nat := 0xffff
def invalidChair : Nat := 0xffff
def vipTableIDLow : Nat := 60
def maxChair : Nat := 1000
def tickspanTableOfflineWait : Nat := 60

/-- `GS_CONST.GAME_STATUS`. -/
inductive GameStatus where
  | free | play | wait
  deriving DecidableEq, Repr

/-- The fields of `serverConfig` that are read, with the bits of `ServerType` and `ServerRule`, and the number of the table,
which is one of 1, 2, … up to the number of tables. -/
structure ServerConfig where
  id : Nat
  id_ne : id ≠ invalidTable := by decide
  serverID : Nat
  kindID : Nat
  chairPerTable : Nat
  isGold : Bool := true
  isMatch : Bool := false
  isEducate : Bool := false
  isTryFormal : Bool := false
  allowDynamicJoin : Bool := true
  allowAvertCheatMode : Bool := false
  forfendGameRule : Bool := false
  forfendGameEnter : Bool := false
  serviceScore : Int := 0
  minTableScore : Int := 0
  minEnterScore : Int := 0
  maxEnterScore : Int := 0
  deriving DecidableEq, Repr

/-- A user record. -/
structure User where
  userID : Nat
  isAndroid : Bool
  userStatus : UserStatus
  tableID : Nat
  chairID : Nat
  deriving DecidableEq, Repr

/-- The attributes of a user that change from one operation to the next. -/
structure Attr where
  memberOrder : Nat := 0
  masterOrder : Nat := 0
  score : Int := 0
  insure : Int := 0
  contribution : Int := 0
  loveliness : Int := 0
  deriving DecidableEq, Repr

/-- What the table manager knows of the table. -/
structure TableState where
  isLocked : Bool
  isStarted : Bool
  sitCount : Nat
  needVipLv : Nat
  multipleLv : Nat
  tablePassword : Option String
  deriving DecidableEq, Repr

/-- The codes of a refusal. -/
inductive RetCode where
  | tableFrameSink | tableGameStarted | chairAlreadyTaken | passwordError | lowVipLevel | lowMultipleLevel |
    userChairInvaild | userTableEducate | lovelinessNoEnough | kickUserIsPlaying | userKickUnsucess
  | userScoreNotEnough | lockMemberOrder | lockNotOwner
  deriving DecidableEq, Repr

/-- The errors that are raised: a record that is not in use, the `assert` of `cmd_sitDown`, the call of a function that
does not exist, a comparison with `nil`, the index of a number or of missing game data, the conflict in `cmd_gameOption`,
and those of the timeout. -/
inductive LuaError where
  | unusedObject | userStatus | noFunction | compareNil | indexNumber | missingGameData | userConflict |
    offlineUserNotFound | timerNotActive
  deriving DecidableEq, Repr

/-- Why an operation has stopped. -/
inductive Failure where
  | refused (code : RetCode)
  | raised (e : LuaError)
  deriving DecidableEq, Repr

/-- A user whom `onTimerOfflineWait` has found in the chair: the `offlineTime`, and the number of ticks since
`cmd_userOffLine` has set it. -/
structure Expiry where
  userItem : Nat
  offlineTime : Nat
  waited : Nat
  deriving DecidableEq, Repr

/-- The table. `lock` is what the owner has last asked for with `cmd_LockRoom`, `offlineTick` the tick at which an
`offlineTime` was set, and `ticks` the number of all ticks; the code keeps none of these. `time` is the clock, in seconds. -/
structure State where
  chairs : AList fun _ : Nat => Nat
  offlineTime : Nat → Nat
  offlineTick : Nat → Nat
  gameData : Nat → Bool
  users : Nat → Option User
  userItemHash : Nat → Option Nat
  tableOwnerID : Nat
  enterPassword : Option String
  needVipLv : Nat
  multipleLv : Nat
  lock : Bool
  gameStatus : GameStatus
  isGameStarted : Bool
  isDrawStarted : Bool
  isTableStarted : Bool
  offlineCheckTimerID : Option Nat
  timer : Timer
  record : TableState
  time : Nat
  ticks : Nat
  log : List Failure
  expiries : List Expiry

/-- A computation on the table. -/
abbrev Run := Attempt State Failure

/-- An empty table before the first user, at a time that is not 0. -/
def State.init (time : Nat) : State where
  chairs := ∅
  offlineTime := fun _ => 0
  offlineTick := fun _ => 0
  gameData := fun _ => false
  users := fun _ => none
  userItemHash := fun _ => none
  tableOwnerID := 0
  enterPassword := none
  needVipLv := 0
  multipleLv := 0
  lock := false
  gameStatus := .free
  isGameStarted := false
  isDrawStarted := false
  isTableStarted := false
  offlineCheckTimerID := none
  timer := Timer.init
  record := ⟨false, false, 0, 0, 0, none⟩
  time := time
  ticks := 0
  log := []
  expiries := []

/-- `getSitUserCount`. -/
def State.sitUserCount (s : State) : Nat := s.chairs.keys.length

/-! ## The user manager and the table manager -/

/-- `setUserStatus` writes the status, the table and the chair; with `US_NULL` it releases the record. -/
def writeUser (s : State) (userID userItem : Nat) (u : User) (userStatus : UserStatus) (tableID chairID : Nat) : State :=
  if userStatus = .usNull then
    { s with
      users := Function.update s.users userItem none
      userItemHash := Function.update s.userItemHash userID none }
  else
    { s with
      users := Function.update s.users userItem
        (some { u with userStatus := userStatus, tableID := tableID, chairID := chairID }) }

/-- `setUserStatus`. A user that is not found is left alone. With `US_OFFLINE` the table is told to save the
gold of the invalid shots. -/
def setUserStatus (cfg : ServerConfig) (s : State) (userID : Nat) (userStatus : UserStatus) (tableID chairID : Nat) : Run :=
  match s.userItemHash userID with
  | none => .ok s
  | some userItem =>
    match s.users userItem with
    | none => .fail s (.raised .unusedObject)
    | some u =>
      if userStatus = .usOffline ∧ ¬u.isAndroid ∧ u.tableID = cfg.id ∧
        ¬s.gameData u.chairID then .fail s (.raised .missingGameData)
      else .ok (writeUser s userID userItem u userStatus tableID chairID)

/-- `cmd_tableStateChange` with all fields of the table. A password that is `nil` does not change the record. -/
def tableStateChange (s : State) (isLocked : Bool) : State :=
  { s with
    record :=
      { isLocked := isLocked
        isStarted := s.isGameStarted
        sitCount := s.sitUserCount
        needVipLv := s.needVipLv
        multipleLv := s.multipleLv
        tablePassword := s.enterPassword.or s.record.tablePassword } }

/-- The state that is sent at the end of the operations. -/
def sendTableState (s : State) : State := tableStateChange s s.enterPassword.isSome

/-! ## Start and end of the game -/

/-- One turn of the loop of `startGame`. -/
def startUser (cfg : ServerConfig) (s : State) (chairID : Nat) : Run :=
  match s.chairs.lookup chairID with
  | none => .ok s
  | some userItem =>
    let s := { s with offlineTime := Function.update s.offlineTime chairID 0 }
    if cfg.serviceScore > 0 then .fail s (.raised .noFunction)
    else
      match s.users userItem with
      | none => .fail s (.raised .unusedObject)
      | some u =>
        if u.userStatus ≠ .usOffline ∧ u.userStatus ≠ .usPlaying then setUserStatus cfg s u.userID .usPlaying cfg.id chairID
        else .ok s

/-- `startGame`. The timer of the offline users is forgotten. -/
def startGame (cfg : ServerConfig) (s : State) : Run :=
  if s.isDrawStarted then .ok s
  else
    let started := { s with isGameStarted := true, isDrawStarted := true, isTableStarted := true, gameStatus := .play }
    let users : Run :=
      if s.isGameStarted then .ok started
      else
        (Attempt.forEach (startUser cfg) started.chairs.keys started).andThen fun s' =>
          .ok (if s.isTableStarted then s' else sendTableState s')
    users.andThen fun s => .ok { s with offlineCheckTimerID := none, timer := s.timer.start }

/-- The heir in `standUp`: the first of those who have contributed most, if anybody has contributed. -/
def heir (attr : Nat → Attr) (userItems : List Nat) : Option Nat :=
  (userItems.foldl (fun temp v => if (attr v).contribution > temp.1 then ((attr v).contribution, some v) else temp)
    ((0 : Int), none)).2

/-- The hand-over in `standUp`, when the owner has left. -/
def handOver (s : State) (attr : Nat → Attr) : Run :=
  let userItems := s.chairs.entries.map Sigma.snd
  if userItems.any fun v => s.users v = none then .fail s (.raised .unusedObject)
  else
    match (heir attr userItems).bind s.users with
    | some u => .ok { s with tableOwnerID := u.userID, lock := false }
    | none => .ok { s with tableOwnerID := 0, enterPassword := none, needVipLv := 0, multipleLv := 0, lock := false }

/-- The first part of `standUp`: the sink, the chair, the user and the owner. -/
def leaveChair (cfg : ServerConfig) (attr : Nat → Attr) (s : State) (u : User) : Run :=
  if ¬s.gameData u.chairID then .fail s (.raised .missingGameData)
  else
    let s := { s with
      gameData := Function.update s.gameData u.chairID false
      chairs := s.chairs.erase u.chairID }
    let us : UserStatus := if u.userStatus = .usOffline then .usNull else .usFree
    (setUserStatus cfg s u.userID us invalidTable invalidChair).andThen fun s =>
      if s.tableOwnerID = u.userID then handOver s attr else .ok s

/-- `standUp`, with the `concludeGame` it calls when the table has no owner. -/
def standUpWith (conclude : State → Run) (cfg : ServerConfig) (attr : Nat → Attr) (doNotSendTableState : Bool) (s : State)
    (userItem : Nat) : Run :=
  match s.users userItem with
  | none => .fail s (.raised .unusedObject)
  | some u =>
    if s.chairs.lookup u.chairID ≠ some userItem then .ok s
    else
      (leaveChair cfg attr s u).andThen fun s =>
        (if s.tableOwnerID = 0 ∧ cfg.kindID ≠ 104 ∧ cfg.kindID ≠ 800 then conclude { s with timer := s.timer.stop }
          else .ok s).andThen fun s => .ok (if doNotSendTableState then s else sendTableState s)

/-- Whether `concludeGame` sends the user away with a message. -/
def kickMsg (cfg : ServerConfig) (isAndroid : Bool) (attr : Attr) : Bool :=
  (cfg.minTableScore > 0 && attr.score < cfg.minTableScore) ||
  (cfg.minEnterScore > 0 && attr.score < cfg.minEnterScore) ||
  (cfg.maxEnterScore > 0 && attr.score > cfg.maxEnterScore) ||
  (cfg.isTryFormal && cfg.maxEnterScore > 0 && attr.score + attr.insure > cfg.maxEnterScore && !isAndroid) ||
  (cfg.forfendGameEnter && attr.masterOrder = 0)

/-- One turn of the loop of `concludeGame`. -/
def concludeUser (standUp : State → Nat → Run) (cfg : ServerConfig) (attr : Nat → Attr) (s : State) (chairID : Nat) : Run :=
  match s.chairs.lookup chairID with
  | none => .ok s
  | some userItem =>
    match s.users userItem with
    | none => .fail s (.raised .unusedObject)
    | some u =>
      if u.userStatus = .usOffline then standUp s userItem
      else
        (if u.userStatus = .usPlaying then setUserStatus cfg s u.userID .usSit cfg.id chairID else .ok s).andThen fun s =>
          if kickMsg cfg u.isAndroid (attr userItem) then standUp s userItem else .ok s

/-- `concludeTable`, in the start mode `TIME_CONTROL`. -/
def concludeTable (cfg : ServerConfig) (s : State) : State :=
  if ¬s.isGameStarted ∧ s.isTableStarted ∧ (cfg.chairPerTable = maxChair ∨ s.sitUserCount = 0) then
    { s with isTableStarted := false }
  else s

/-- `concludeGame`, to a depth. It stands users up, and `standUp` may call it again, but then the game is no longer started
and it returns at once: deeper calls than the second one do nothing. -/
def concludeAt : Nat → ServerConfig → (Nat → Attr) → GameStatus → State → Run
  | 0, _, _, _, s => .ok s
  | n + 1, cfg, attr, gameStatus, s =>
    if ¬s.isGameStarted then .ok s
    else
      let s := { s with
        offlineCheckTimerID := none
        isDrawStarted := false
        gameStatus := gameStatus
        isGameStarted := gameStatus ≠ .free }
      let users : Run :=
        if s.isGameStarted then .ok s
        else Attempt.forEach (concludeUser (standUpWith (concludeAt n cfg attr .free) cfg attr true) cfg attr)
          s.chairs.keys s
      users.andThen fun s => .ok (sendTableState (concludeTable cfg s))

/-- `concludeGame`. -/
def concludeGame (cfg : ServerConfig) (attr : Nat → Attr) (gameStatus : GameStatus) (s : State) : Run :=
  concludeAt 2 cfg attr gameStatus s

/-- `standUp`, as `cmd_standUp` and others call it. -/
def standUp (cfg : ServerConfig) (attr : Nat → Attr) (s : State) (userItem : Nat) : Run :=
  standUpWith (concludeGame cfg attr .free) cfg attr false s userItem

/-! ## Sitting down -/

/-- The arguments of `cmd_sitDown` after the user and the chair, the random numbers, and the gun multiple of the user. A
robot has no `tableID`; the clients' request gives 0 for `needVipLv`, `multipleLv` and `roomType`. -/
structure SitArgs where
  password : Option String := none
  needVipLv : Nat := 0
  multipleLv : Nat := 0
  tableID : Option Nat := some invalidTable
  roomType : Nat := 0
  startIndex : Nat := 1
  randomChair : Nat := 1
  gunMultiple : Nat := 1
  deriving DecidableEq, Repr

/-- `findRandomEmptyChairID`: the first empty chair from a random one on, around the table. -/
def findRandomEmptyChairID (cfg : ServerConfig) (s : State) (startIndex : Nat) : Option Nat :=
  ((List.range cfg.chairPerTable).map fun i => (startIndex - 1 + i) % cfg.chairPerTable + 1).find? fun c => c ∉ s.chairs

/-- `_data.chairID2UserData[index] == nil`. -/
def isEmptyChair (s : State) (index : Int) : Bool := index < 0 ∨ index.toNat ∉ s.chairs

/-- The loop of `findRandomEmptyChairID`, from `i` on. Behind the last chair it starts at the first again, and
`startIndex` goes back with it. -/
def emptyChairLoop (cfg : ServerConfig) (s : State) : Nat → Int → Int → Option Int
  | 0, _, _ => none
  | rounds + 1, i, startIndex =>
    let index := startIndex + i
    let past := index > cfg.chairPerTable
    let index := if past then 1 else index
    let startIndex := if past then startIndex - cfg.chairPerTable else startIndex
    if isEmptyChair s index then some index else emptyChairLoop cfg s rounds (i + 1) startIndex

/-- `findRandomEmptyChairID` as it is written, a loop that counts from 0 to `ChairPerTable - 1`. -/
def findRandomEmptyChairIDLoop (cfg : ServerConfig) (s : State) (startIndex : Nat) : Option Int :=
  emptyChairLoop cfg s cfg.chairPerTable 0 startIndex

/-- The chair of `cmd_sitDown`. -/
def sitChair (cfg : ServerConfig) (s : State) (chairID : Nat) (a : SitArgs) : Nat :=
  if chairID = invalidChair then (findRandomEmptyChairID cfg s a.startIndex).getD a.randomChair else chairID

/-- `getSitUserMinScore`. -/
def sitUserMinScore (attr : Nat → Attr) (s : State) : Int :=
  ((s.chairs.entries.map fun e => (attr e.2).score).min?).getD 0

/-- `checkUserIPRule`. Behind its first test it indexes the `userRule` of the user, which is a number in the user records. -/
def checkUserIPRule (cfg : ServerConfig) : Option LuaError :=
  if cfg.forfendGameRule ∨ cfg.allowAvertCheatMode then none else some .indexNumber

/-- `checkUserScoreRule`. Behind its first test, which is the same, it indexes the `userRule` of the users at the table. -/
def checkUserScoreRule (cfg : ServerConfig) (s : State) : Option LuaError :=
  if cfg.forfendGameRule ∨ cfg.allowAvertCheatMode ∨ s.sitUserCount = 0 then none else some .indexNumber

/-- The checks of `cmd_sitDown` before the chair is taken: what they end with. -/
def sitRefusal (cfg : ServerConfig) (attr : Nat → Attr) (s : State) (userItem chairID : Nat)
    (a : SitArgs) : Option Failure :=
  if cfg.kindID = 6 ∧ chairID = invalidChair ∧ s.sitUserCount + 1 = cfg.chairPerTable ∧
      (attr userItem).score < sitUserMinScore attr s then some (.refused .tableFrameSink)
  else if s.isGameStarted ∧ ¬cfg.allowDynamicJoin then some (.refused .tableGameStarted)
  else if sitChair cfg s chairID a ∈ s.chairs then some (.refused .chairAlreadyTaken)
  else if cfg.isMatch then none
  else if s.enterPassword.isSome ∧ (attr userItem).masterOrder = 0 ∧
    s.enterPassword ≠ a.password then some (.refused .passwordError)
  else if (attr userItem).masterOrder = 0 then ((checkUserIPRule cfg).or (checkUserScoreRule cfg s)).map .raised
  else none

/-- The test for a VIP room, which compares a missing `tableID` with a number. -/
def isVipRoom (cfg : ServerConfig) (a : SitArgs) : Option Bool :=
  if cfg.serverID = 220 then a.tableID.map fun tableID => (tableID ≠ invalidTable ∧ tableID > vipTableIDLow) ∨ a.roomType ≠ 0
  else some false

/-- The owner in `cmd_sitDown`: the first user at the table. -/
def sitOwner (cfg : ServerConfig) (attr : Nat → Attr) (s : State) (userItem userID : Nat) (a : SitArgs) : Run :=
  if s.sitUserCount = 1 ∧ ¬cfg.isMatch then
    match isVipRoom cfg a with
    | none => .fail s (.raised .compareNil)
    | some true =>
      if (attr userItem).memberOrder < 2 then .fail s (.refused .lowVipLevel)
      else
        .ok { s with
          enterPassword := a.password.or s.enterPassword
          needVipLv := if a.needVipLv ≠ 0 then a.needVipLv else s.needVipLv
          multipleLv := if a.multipleLv ≠ 0 then a.multipleLv else s.multipleLv
          tableOwnerID := userID
          lock := false }
    | some false => .ok { s with tableOwnerID := userID, lock := false }
  else .ok s

/-- The checks of a VIP room in `cmd_sitDown`. -/
def sitVip (cfg : ServerConfig) (attr : Nat → Attr) (s : State) (userItem : Nat) (a : SitArgs) : Run :=
  match isVipRoom cfg a with
  | none => .fail s (.raised .compareNil)
  | some true =>
    if (attr userItem).memberOrder < s.needVipLv then .fail s (.refused .lowVipLevel)
    else if s.enterPassword ≠ a.password then .fail s (.refused .passwordError)
    else if s.multipleLv ≠ 0 ∧ a.gunMultiple < s.multipleLv then .fail s (.refused .lowMultipleLevel)
    else .ok s
  | some false => .ok s

/-- `onActionUserSitDown` of the sink. -/
def onActionUserSitDown (cfg : ServerConfig) (s : State) (chairID : Nat) : Run :=
  let s := { s with gameData := Function.update s.gameData chairID true }
  if s.gameStatus = .free then startGame cfg s else .ok s

/-- The chair is taken, and the user gets the status: the middle of `cmd_sitDown`. -/
def takeChair (cfg : ServerConfig) (s : State) (userItem userID chairID : Nat) : Run :=
  let s := { s with
    chairs := s.chairs.insert chairID userItem
    offlineTime := Function.update s.offlineTime chairID 0 }
  if s.isGameStarted ∧ cfg.serviceScore > 0 then .fail s (.raised .noFunction)
  else
    let us : UserStatus :=
      if s.isGameStarted then .usPlaying else if cfg.allowAvertCheatMode ∨ cfg.isMatch then .usReady else .usSit
    match s.userItemHash userID with
    | none => .fail { s with chairs := s.chairs.erase chairID } (.refused .chairAlreadyTaken)
    | some _ => setUserStatus cfg s userID us cfg.id chairID

/-- `cmd_sitDown`. -/
def sitDown (cfg : ServerConfig) (attr : Nat → Attr) (s : State) (userItem chairID : Nat) (a : SitArgs) : Run :=
  match s.users userItem with
  | none => .fail s (.raised .unusedObject)
  | some u =>
    if ¬(u.tableID = invalidTable ∧ u.chairID = invalidChair) then .fail s (.raised .userStatus)
    else
      match sitRefusal cfg attr s userItem chairID a with
      | some failure => .fail s failure
      | none =>
        (takeChair cfg s userItem u.userID (sitChair cfg s chairID a)).andThen fun s' =>
          (sitOwner cfg attr s' userItem u.userID a).andThen fun s' =>
            (sitVip cfg attr s' userItem a).andThen fun s' =>
              onActionUserSitDown cfg (sendTableState s') (sitChair cfg s chairID a)

/-! ## Users who are offline -/

/-- `getOldestOfflineChairID`. -/
def oldestOfflineChairID (s : State) : Option Nat :=
  (s.chairs.keys.foldl (fun (oldest : Option Nat) c =>
    if s.offlineTime c ≠ 0 ∧ oldest.all (fun o => s.offlineTime c < s.offlineTime o) then some c else oldest) none)

/-- The timer for a chair, with the time that is left. -/
def setOfflineTimer (s : State) (delay chairID : Nat) : Run :=
  match s.timer.setTimeout delay chairID with
  | none => .fail s (.raised .timerNotActive)
  | some (timer, timerID) => .ok { s with timer := timer, offlineCheckTimerID := some timerID }

/-- `adjustOfflineTimer`. -/
def adjustOfflineTimer (s : State) (chairID : Nat) : Run :=
  setOfflineTimer s (tickspanTableOfflineWait - (s.time - s.offlineTime chairID)) chairID

/-- `onTimerOfflineWait` in the critical section. -/
def onTimerOfflineWait (cfg : ServerConfig) (attr : Nat → Attr) (s : State) (chairID : Nat) : Run :=
  if s.offlineCheckTimerID = none then .ok s
  else
    let s := { s with offlineCheckTimerID := none }
    match s.chairs.lookup chairID with
    | none => .fail s (.raised .offlineUserNotFound)
    | some userItem =>
      let s := { s with expiries := ⟨userItem, s.offlineTime chairID, s.ticks - s.offlineTick chairID⟩ :: s.expiries }
      (standUp cfg attr s userItem).andThen fun s =>
        match s.isGameStarted, oldestOfflineChairID s with
        | true, some c => adjustOfflineTimer s c
        | _, _ => .ok s

/-- `cmd_userOffLine`. -/
def userOffLine (cfg : ServerConfig) (attr : Nat → Attr) (s : State) (userItem : Nat) : Run :=
  match s.users userItem with
  | none => .fail s (.raised .unusedObject)
  | some u =>
    if s.chairs.lookup u.chairID ≠ some userItem then setUserStatus cfg s u.userID .usNull invalidTable invalidChair
    else if u.userStatus = .usPlaying then
      (setUserStatus cfg s u.userID .usOffline cfg.id u.chairID).andThen fun s =>
        let s := { s with
          offlineTime := Function.update s.offlineTime u.chairID s.time
          offlineTick := Function.update s.offlineTick u.chairID s.ticks }
        if s.offlineCheckTimerID = none ∧ cfg.kindID ≠ 104 ∧ cfg.kindID ≠ 800 then
          setOfflineTimer s tickspanTableOfflineWait u.chairID
        else .ok s
    else
      (standUp cfg attr s userItem).andThen fun s => setUserStatus cfg s u.userID .usNull invalidTable invalidChair

/-- `cmd_gameOption`. The sink reads the game data of the chair. -/
def gameOption (s : State) (userItem : Nat) : Run :=
  match s.users userItem with
  | none => .fail s (.raised .unusedObject)
  | some u =>
    if s.chairs.lookup u.chairID ≠ some userItem then .fail s (.raised .userConflict)
    else
      let timers : Run :=
        if u.userStatus ≠ .usLookon ∧ s.offlineTime u.chairID ≠ 0 then
          let s := { s with offlineTime := Function.update s.offlineTime u.chairID 0 }
          match s.offlineCheckTimerID with
          | none => .ok s
          | some timerID =>
            let s := { s with timer := s.timer.clearTimer timerID, offlineCheckTimerID := none }
            match oldestOfflineChairID s with
            | none => .ok s
            | some c => adjustOfflineTimer s c
        else .ok s
      timers.andThen fun s =>
        if s.gameStatus ≠ .wait ∧ ¬s.gameData u.chairID then .fail s (.raised .missingGameData) else .ok s

/-! ## Kicks and the lock -/

/-- `cmd_kickUser`. -/
def kickUser (cfg : ServerConfig) (attr : Nat → Attr) (s : State) (userItem kickChairID : Nat) : Run :=
  match s.chairs.lookup kickChairID with
  | none => .fail s (.refused .userChairInvaild)
  | some kickUserItem =>
    match s.users kickUserItem with
    | none => .fail s (.raised .unusedObject)
    | some kick =>
      if cfg.isEducate then .fail s (.refused .userTableEducate)
      else if s.users userItem = none then .fail s (.raised .unusedObject)
      else if (attr userItem).loveliness < 0 then .fail s (.refused .lovelinessNoEnough)
      else if kick.userStatus = .usPlaying then .fail s (.refused .kickUserIsPlaying)
      else if (attr userItem).memberOrder > (attr kickUserItem).memberOrder then standUp cfg attr s kickUserItem
      else if (attr userItem).memberOrder = (attr kickUserItem).memberOrder then
        if (attr userItem).score > (attr kickUserItem).score then standUp cfg attr s kickUserItem
        else .fail s (.refused .userKickUnsucess)
      else .fail s (.refused .userScoreNotEnough)

/-- `cmd_LockRoom`. -/
def lockRoom (attr : Nat → Attr) (s : State) (userItem : Nat) (isLock : Bool) : Run :=
  match s.users userItem with
  | none => .fail s (.raised .unusedObject)
  | some u =>
    if (attr userItem).memberOrder < 5 then .fail s (.refused .lockMemberOrder)
    else if s.tableOwnerID ≠ u.userID then .fail s (.refused .lockNotOwner)
    else .ok { tableStateChange s isLock with lock := isLock }

/-! ## The system -/

/-- An operation of the table, a step of the ticker (`call` and `timeout` are the two parts of a timeout), the clock, or what
happens to the users elsewhere: `login` and `switchUserItem`, and `elsewhere` for those who are not at this table. -/
inductive Label where
  | sitDown (attr : Nat → Attr) (userItem chairID : Nat) (args : SitArgs)
  | standUp (attr : Nat → Attr) (userItem : Nat)
  | userOffLine (attr : Nat → Attr) (userItem : Nat)
  | kickUser (attr : Nat → Attr) (userItem kickChairID : Nat)
  | gameOption (userItem : Nat)
  | lockRoom (attr : Nat → Attr) (userItem : Nat) (isLock : Bool)
  | startGame
  | concludeGame (attr : Nat → Attr) (gameStatus : GameStatus)
  | wake
  | call (timerID : Nat)
  | timeout (attr : Nat → Attr)
  | sleep
  | clock (seconds : Nat)
  | rehash (chairs : AList fun _ : Nat => Nat)
  | login (userItem userID : Nat) (isAndroid : Bool)
  | switchUserItem (userItem : Nat)
  | elsewhere (userItem : Nat) (userStatus : UserStatus) (tableID chairID : Nat)

/-- The end of an operation: a failure is noted. -/
def settle (a : Run) : State :=
  match a.failure with
  | none => a.state
  | some f => { a.state with log := f :: a.state.log }

/-- A user of the table who has been offline and has come back plays again (`cmd_switchUserItem`). -/
def switchUserItem (s : State) (userItem : Nat) : Option State :=
  match s.users userItem with
  | none => none
  | some u =>
    some (if u.userStatus = .usOffline then writeUser s u.userID userItem u .usPlaying u.tableID u.chairID else s)

/-- A user who is not at this table changes status or leaves the server, and does not come to this table. -/
def elsewhere (cfg : ServerConfig) (s : State) (userItem : Nat) (userStatus : UserStatus)
    (tableID chairID : Nat) : Option State :=
  match s.users userItem with
  | none => none
  | some u =>
    if u.tableID ≠ cfg.id ∧ tableID ≠ cfg.id then some (writeUser s u.userID userItem u userStatus tableID chairID) else none

/-- One label. -/
def step (cfg : ServerConfig) (s : State) : Label → Option State
  | .sitDown attr userItem chairID args => some (settle (sitDown cfg attr s userItem chairID args))
  | .standUp attr userItem => some (settle (standUp cfg attr s userItem))
  | .userOffLine attr userItem => some (settle (userOffLine cfg attr s userItem))
  | .kickUser attr userItem kickChairID => some (settle (kickUser cfg attr s userItem kickChairID))
  | .gameOption userItem => some (settle (gameOption s userItem))
  | .lockRoom attr userItem isLock => some (settle (lockRoom attr s userItem isLock))
  | .startGame => some (settle (startGame cfg s))
  | .concludeGame attr gameStatus => some (settle (concludeGame cfg attr gameStatus s))
  | .wake => s.timer.wake.map fun timer => { s with timer := timer, ticks := if timer.awake then s.ticks + 1 else s.ticks }
  | .call timerID => (s.timer.call timerID).map fun timer => { s with timer := timer }
  | .timeout attr =>
    s.timer.running.map fun i =>
      let s := settle (onTimerOfflineWait cfg attr s i.bindParameter)
      { s with timer := s.timer.returned i }
  | .sleep => s.timer.sleep.map fun timer => { s with timer := timer }
  | .clock seconds => some { s with time := s.time + seconds }
  | .rehash chairs => if chairs.entries.isPerm s.chairs.entries then some { s with chairs := chairs } else none
  | .login userItem userID isAndroid =>
    if s.users userItem = none ∧ s.userItemHash userID = none ∧ userID ≠ 0 then
      some { s with
        users := Function.update s.users userItem (some ⟨userID, isAndroid, .usFree, invalidTable, invalidChair⟩)
        userItemHash := Function.update s.userItemHash userID (some userItem) }
    else none
  | .switchUserItem userItem => switchUserItem s userItem
  | .elsewhere userItem userStatus tableID chairID => elsewhere cfg s userItem userStatus tableID chairID

end SasyServer.TableFrame
