import Mathlib.Data.List.Basic
import SasyServer.Lib.Steps

/-!
# The world boss on the login server

`service/loginServer/LS_model_worldBoss.lua`, with the timeouts of `lualib/utility/timer.lua`. Left out are the
lists of earlier kills and the packets to clients, which no handler reads, and the personal rates of
`rateConfig`, which nothing fills.

A handler waits in `notifyWorldBossInfoToGS`, in `NotifyWorldBossStart` and in the other functions that ask a service for
something; waits with nothing between them are one. The functions that tell the users something ask the session manager for
all of them and then look at their records; a record that has been released meanwhile raises an error there, which ends the
handler. The ticker of the timer runs one callback at a time, to its end. The entry of a timeout leaves `_activeTimer` when
its callback has returned; here it leaves when the callback starts, which only a `clearTimer` of a running timeout, that has
no effect, could tell apart.
-/

namespace SasyServer.WorldBoss

def needScore : Int := 10000000
def liveTime : Int := 2 * 60
def diffTime : Int := 15 * 60

/-- `os.time()` and the parts of `os.date` of a moment; `date` is the number `%Y%m%d%H%M%S`. -/
structure Clock where
  time : Int
  date : Nat
  hour : Nat
  min : Nat
  deriving DecidableEq, Repr

/-- An entry of `timeFlush`. -/
structure TimeFlush where
  hour : Nat
  min : Nat
  poolScore : Int
  isActivity : Bool
  deriving DecidableEq, Repr

/-- An entry of `notTimeFlush`. -/
structure NotTimeFlush where
  startHour : Nat
  startMin : Nat
  endHour : Nat
  endMin : Nat
  isActivity : Bool
  deriving DecidableEq, Repr

def timeFlush : List TimeFlush :=
  [⟨3, 0, 6666666, true⟩, ⟨3, 30, 6666666, true⟩, ⟨20, 0, 3000000, false⟩, ⟨20, 30, 3000000, false⟩, ⟨21, 0, 3000000, false⟩,
    ⟨21, 30, 3000000, false⟩, ⟨22, 0, 3000000, false⟩, ⟨22, 30, 3000000, false⟩, ⟨23, 0, 3000000, false⟩,
      ⟨23, 30, 3000000, false⟩]

def notTimeFlush : List NotTimeFlush := [⟨1, 50, 3, 40, true⟩, ⟨19, 50, 23, 40, false⟩]

/-- The time of `activityTime`. -/
def inActivity (c : Clock) : Bool := 20161223000000 ≤ c.date ∧ c.date ≤ 30170103000000

/-- The hours kept free for the bosses of `timeFlush`, in which `cmd_addWorldBossPoolScore` starts none. -/
def inNotTimeFlush (c : Clock) : Bool :=
  notTimeFlush.any fun v => (!v.isActivity || inActivity c) &&
    decide (v.startHour * 60 + v.startMin ≤ c.hour * 60 + c.min ∧ c.hour * 60 + c.min ≤ v.endHour * 60 + v.endMin)

/-- What the game servers are told. -/
structure Info where
  status : Nat
  poolScore : Int
  bSpecial : Bool
  addRateTime : Int
  worldBossAddRateTime : Int
  lastKillWorldBossUserId : Nat
  bKillFalg : Bool
  deriving DecidableEq, Repr

/-- The functions that are set as timeouts. -/
inductive Callback where
  | checkWorldBossEnd | flushWorldBoss
  deriving DecidableEq, Repr

/-- The three ways a boss starts: `cmd_addWorldBossPoolScore`, `FlushWorldBoss` and `checkTimeFlushBoss`. -/
inductive StartKind where
  | add | flush | hour
  deriving DecidableEq, Repr

/-- Where a handler waits. `invalidScoreStart` is the `NotifyInvalidScore` before the notifications of a start, and
`invalidScore` the one at the end of a handler. -/
inductive Wait where
  | invalidScoreStart
  | startInfo (kind : StartKind) (info : Info)
  | startClients (kind : StartKind)
  | invalidScore
  | endInfo (info : Info)
  | endClients
  | timeFlushStart (c : Clock) (v : NotTimeFlush)
  deriving DecidableEq, Repr

/-- The waits for `getAllUserInfo` before a loop over the users' records. The loops of `notifyWorldBossInfoToGS` are over
`rateConfig` first, and look at no record. -/
def Wait.getsAllUserInfo : Wait → Bool
  | .invalidScoreStart | .startClients _ | .invalidScore | .endClients | .timeFlushStart _ _ => true
  | .startInfo _ _ | .endInfo _ => false

/-- A handler that waits, and whether the ticker runs it. -/
structure Thread where
  ticker : Bool
  wait : Wait
  deriving DecidableEq, Repr

/-- `_data`, the timeouts, the handlers that wait and the messages to the game servers on their way. `startCount` counts the
appearances of a boss. -/
structure State where
  poolScore : Int
  status : Nat
  startTime : Int
  nextTime : Int
  needNotifyInvalidScore : Bool
  worldBossOverTimer : Option Nat
  flushWorldBossTimer : Option Nat
  hourFlushBossFlag : Bool
  worldBossFlag : Bool
  timePoolScore : Int
  flushTime : Nat
  notTimeFlushFlag : Bool
  addRateTime : Int
  worldBossAddRateTime : Int
  activity2normal : Bool
  lastKillWorldBossUserId : Nat
  bKillFalg : Bool
  timerIDGenerator : Nat
  activeTimer : List (Nat × Callback)
  suspended : List Thread
  sent : List (Nat × Info)
  startCount : Nat

namespace State

/-- The service after its `initFunc`. -/
def init : State :=
  { poolScore := 0, status := 0, startTime := 0, nextTime := 0, needNotifyInvalidScore := false, worldBossOverTimer := none,
    flushWorldBossTimer := none, hourFlushBossFlag := false, worldBossFlag := false, timePoolScore := 0, flushTime := 0,
    notTimeFlushFlag := false, addRateTime := 0, worldBossAddRateTime := 0, activity2normal :=
      false, lastKillWorldBossUserId := 0,
    bKillFalg := false, timerIDGenerator := 13, activeTimer := [], suspended := [], sent := [], startCount := 0 }

def suspend (s : State) (ticker : Bool) (wait : Wait) : State := { s with suspended := s.suspended ++ [⟨ticker, wait⟩] }

/-- The ticker is between two callbacks. -/
def tickerIdle (s : State) : Bool := s.suspended.all fun t => !t.ticker

/-- `setTimeout`. The identifier is the new value of the generator. -/
def setTimeout (s : State) (func : Callback) : State :=
  { s with timerIDGenerator := s.timerIDGenerator + 1, activeTimer := s.activeTimer ++ [(s.timerIDGenerator + 1, func)] }

/-- `clearTimer`. -/
def clearTimer (s : State) (timerID : Nat) : State := { s with activeTimer := s.activeTimer.filter fun p => p.1 ≠ timerID }

/-- The repeated block that clears `FlushWorldBossTimer`. -/
def clearFlushWorldBossTimer (s : State) : State :=
  match s.flushWorldBossTimer with
  | some timerID => { s.clearTimer timerID with flushWorldBossTimer := none }
  | none => s

/-- The record `notifyWorldBossInfoToGS` builds before its first wait. -/
def info (s : State) : Info :=
  { status := if s.status ≠ 0 then s.status else 2
    poolScore := if s.status = 1 ∧ s.hourFlushBossFlag then s.timePoolScore else s.poolScore
    bSpecial := s.status = 1 ∧ s.hourFlushBossFlag
    addRateTime := s.addRateTime
    worldBossAddRateTime := s.worldBossAddRateTime
    lastKillWorldBossUserId := s.lastKillWorldBossUserId
    bKillFalg := s.bKillFalg }

/-- The end of `notifyWorldBossInfoToGS`. -/
def send (s : State) (serverList : List Nat) (info : Info) : State :=
  { s with sent := s.sent ++ serverList.map fun serverID => (serverID, info) }

end State

/-- `CheckWorldBossEnd`: with a user after a kill, without one as a timeout. -/
def checkWorldBossEnd (s : State) (ticker : Bool) (userID : Option Nat) (now : Int) : State :=
  let s := { s with notTimeFlushFlag := false }
  let s :=
    match userID with
    | some userID =>
      let s := { s with status := 0, startTime := 0, nextTime := 0, flushWorldBossTimer := none }
      if s.hourFlushBossFlag then
        { s with hourFlushBossFlag := false, timePoolScore := 0, addRateTime := 0, bKillFalg := true }
      else
        { s with poolScore := 0, worldBossFlag := false, worldBossAddRateTime := 0, lastKillWorldBossUserId := userID,
                 bKillFalg := false }
    | none =>
      let s :=
        if s.hourFlushBossFlag then
          { s with hourFlushBossFlag := false, timePoolScore := 0, addRateTime := s.addRateTime + liveTime }
        else
          let s := { s with worldBossAddRateTime := s.worldBossAddRateTime + liveTime, worldBossFlag := false,
                            nextTime := now + diffTime }
          { s.setTimeout .flushWorldBoss with flushWorldBossTimer := some (s.timerIDGenerator + 1) }
      { s with status := 0, startTime := 0, bKillFalg := false }
  s.suspend ticker (.endInfo s.info)

/-- `FlushWorldBoss`. -/
def flushWorldBoss (s : State) (now : Int) : State :=
  let s := { s with status := 1, startTime := now, nextTime := 0, worldBossFlag := true, bKillFalg := false,
                    startCount := s.startCount + 1 }
  s.suspend true (.startInfo .flush s.info)

/-- `cmd_addWorldBossPoolScore`, with the score after `math.floor`. -/
def addWorldBossPoolScore (s : State) (score : Int) (c : Clock) : State :=
  let s := { s with poolScore := s.poolScore + score }
  if s.status ≠ 0 then s
  else if inNotTimeFlush c then s
  else if s.poolScore ≥ needScore ∧ s.status = 0 ∧ s.startTime = 0 ∧ s.flushWorldBossTimer = none then
    let s := { s with status := 1, startTime := c.time, nextTime := 0, worldBossFlag := true, needNotifyInvalidScore := true,
                      startCount := s.startCount + 1 }
    s.suspend false .invalidScoreStart
  else { s with needNotifyInvalidScore := true }

/-- `cmd_killWorldBoss`. -/
def killWorldBoss (s : State) (userID : Nat) (now : Int) : State :=
  if s.status = 1 then
    let s :=
      match s.worldBossOverTimer with
      | some timerID => { s.clearTimer timerID with worldBossOverTimer := none }
      | none => s
    checkWorldBossEnd s false (some userID) now
  else s

/-- The second loop of `checkTimeFlushBoss`: at most one entry has the minute of `c`. -/
def timeFlushLoop (s : State) (c : Clock) : List TimeFlush → State
  | [] => s
  | v :: rest =>
    if v.isActivity ∧ ¬inActivity c then timeFlushLoop s c rest
    else if c.hour * 60 + c.min = v.hour * 60 + v.min ∧ ¬s.hourFlushBossFlag ∧ s.status = 0 ∧
        s.flushTime ≠ c.hour * 60 + c.min then
      let s := { s with hourFlushBossFlag := true, timePoolScore := v.poolScore, flushTime := c.hour * 60 + c.min }
      let s := s.clearFlushWorldBossTimer
      let s := { s with status := 1, startTime := c.time, nextTime := 0, bKillFalg := false, startCount := s.startCount + 1 }
      s.suspend true (.startInfo .hour s.info)
    else timeFlushLoop s c rest

/-- The first loop of `checkTimeFlushBoss`, up to `NotifyUserTimeFlushStart`. `none` if no entry has the minute of `c`. The
source computes `endTime` from `startHour`. -/
def notTimeFlushLoop (s : State) (c : Clock) : List NotTimeFlush → Option State
  | [] => none
  | v :: rest =>
    let startTime := v.startHour * 60 + v.startMin
    let endTime := v.startHour * 60 + v.endMin
    if (¬v.isActivity ∨ (¬s.activity2normal ∧ inActivity c)) ∧
        (c.hour * 60 + c.min = startTime ∨ c.hour * 60 + c.min = endTime) then
      let s := if c.hour * 60 + c.min = startTime then s.clearFlushWorldBossTimer else s
      some (s.suspend true (.timeFlushStart c v))
    else notTimeFlushLoop s c rest

/-- `checkTimeFlushBoss`. -/
def checkTimeFlushBoss (s : State) (c : Clock) : State :=
  if ¬s.notTimeFlushFlag ∨ s.activity2normal then
    (notTimeFlushLoop s c notTimeFlush).getD (timeFlushLoop s c timeFlush)
  else timeFlushLoop s c timeFlush

/-- `NotifyInvalidScore` as an interval. -/
def notifyInvalidScore (s : State) : State := if s.needNotifyInvalidScore then s.suspend true .invalidScore else s

/-- A handler whose wait is over. `serverList` is what `getServerIDListByKindID` gives. -/
def resumeThread (s : State) (serverList : List Nat) (t : Thread) : State :=
  match t.wait with
  | .invalidScoreStart =>
    let s := { s with needNotifyInvalidScore := false }
    s.suspend t.ticker (.startInfo .add s.info)
  | .startInfo kind info => (s.send serverList info).suspend t.ticker (.startClients kind)
  | .startClients kind =>
    let s := { s.setTimeout .checkWorldBossEnd with worldBossOverTimer := some (s.timerIDGenerator + 1) }
    match kind with
    | .add => { s with needNotifyInvalidScore := true }
    | .flush => s
    | .hour => { s with needNotifyInvalidScore := true }.suspend t.ticker .invalidScore
  | .invalidScore => { s with needNotifyInvalidScore := false }
  | .endInfo info => (s.send serverList info).suspend t.ticker .endClients
  | .endClients => s
  | .timeFlushStart c v =>
    let s := { s with notTimeFlushFlag := true }
    let s :=
      if v.isActivity then
        (if c.hour * 60 + c.min = v.startHour * 60 + v.endMin then { s with activity2normal := true } else s)
      else { s with activity2normal := false }
    timeFlushLoop s c timeFlush

/-- A message, a callback of the ticker, or the end of a wait; `abort` is the end of one after which the loop over the users
meets a record that is not in use. -/
inductive Label where
  | addWorldBossPoolScore (score : Int) (c : Clock)
  | killWorldBoss (userID : Nat) (now : Int)
  | timeout (timerID : Nat) (now : Int)
  | checkTimeFlushBoss (c : Clock)
  | notifyInvalidScore
  | resume (k : Nat) (serverList : List Nat)
  | abort (k : Nat)
  deriving DecidableEq, Repr

/-- One label. The callbacks need an idle ticker. -/
def step (s : State) : Label → Option State
  | .addWorldBossPoolScore score c => some (addWorldBossPoolScore s score c)
  | .killWorldBoss userID now => some (killWorldBoss s userID now)
  | .timeout timerID now =>
    if s.tickerIdle then
      (s.activeTimer.find? fun p => p.1 = timerID).map fun p =>
        let s := s.clearTimer timerID
        match p.2 with
        | .checkWorldBossEnd => checkWorldBossEnd s true none now
        | .flushWorldBoss => flushWorldBoss s now
    else none
  | .checkTimeFlushBoss c => if s.tickerIdle then some (checkTimeFlushBoss s c) else none
  | .notifyInvalidScore => if s.tickerIdle then some (notifyInvalidScore s) else none
  | .resume k serverList =>
    s.suspended[k]?.map fun t => resumeThread { s with suspended := s.suspended.eraseIdx k } serverList t
  | .abort k =>
    s.suspended[k]?.bind fun t =>
      if t.wait.getsAllUserInfo then some { s with suspended := s.suspended.eraseIdx k } else none

end SasyServer.WorldBoss
