import Mathlib.Data.List.Basic

/-!
# The scenes of a table and their timers

The switch of the scenes, the phoenix and the world boss in `comprise/testGame/lualib/tableFrameSink.lua`, with the timers of
`lualib/utility/timer.lua` that belong to them: the interval of `onTimerSwitchScene` and the timeouts of `onTimerEndScene`.
The ticker calls one function at a time, and when it has ended a timer cannot be set: that is an error, and ends the handler.
These functions, the summons and the kills of a phoenix and `flushWorldBoss` run in the critical section of the table;
`worldBossStart` and `worldBossEnd` run outside of it.

A handler waits where it asks a service for something: for the items of a summons, in `buildFishTrace`, in `_onTimerEndScene`
before its last lines, in the building of a fish scene. Waits with nothing after them are one. Left out are the fish, the
packets, the other timers and the catch of the mermaid. Moments are in hundredths of a second; of the timers the ticks are
counted in hundredths, too, unlike in `Ticker`.
-/

namespace SasyServer.Scenes

def tickStep : Int := 100
def fengHuangLiveTime : Int := 60
def worldBossLiveTime : Int := 2 * 60
def tickspanSwitchScene : Int := 360
def tickspanSpecialScene : Int := 45

/-- An item of `_activeTimer`. -/
structure Item where
  timerID : Nat
  nextTick : Int
  deriving DecidableEq, Repr

/-- The function of a timer. -/
inductive Func where
  | onTimerSwitchScene
  | onTimerEndScene
  deriving DecidableEq, Repr

/-- Where the handler in the critical section waits. `other` is any other handler, `callFish` and `flushFengHuang` are a
summons before and after it has the items, `kill` and `fengHuangEnd` a kill before and after the end of the phoenix. -/
inductive Holder where
  | other
  | onTimerSwitchScene (timerID : Nat)
  | onTimerEndScene (timerID : Nat)
  | flushWorldBoss
  | callFish
  | flushFengHuang
  | kill
  | fengHuangEnd
  deriving DecidableEq, Repr

/-- `_data`, the timers and the handlers that wait. `tickStep` says that `_tickStep` is positive. `queued` is the function
the ticker has called and that waits for the critical section, `flushes` counts the `flushWorldBoss` that do, and `ends` are
the `worldBossEnd` that wait in `_onTimerEndScene`.

Not in the code: `paused` is the time that was left to the phoenix at the start of the boss, if there was one, each
`worldBossEnd` has that of its boss, and `lost` says that such a phoenix was not running again when its
`worldBossEnd` was done. -/
structure State where
  now : Int
  tick : Int
  tickStep : Bool
  isTickerEnable : Bool
  timerIDGenerator : Nat
  switchTimers : List Item
  endTimers : List Item
  queued : Option (Func × Nat)
  switchScene : Option Nat
  endScene : Option Nat
  bWorldBossScene : Bool
  bFengHuangScene : Bool
  specialSceneEndTick : Int
  startTime : Int
  elapseTime : Int
  holder : Option Holder
  flushes : Nat
  ends : List (Option Int)
  paused : Option Int
  lost : Bool
  deriving DecidableEq, Repr

namespace State

/-- `start` of the ticker. One that has been stopped and has not ended yet goes on. -/
def start (s : State) : State :=
  if s.isTickerEnable then { s with tickStep := true }
  else { s with tickStep := true, isTickerEnable := true, tick := 0, switchTimers := [], endTimers := [] }

/-- `stop` of the ticker. -/
def stop (s : State) : State := { s with tickStep := false, tick := 0, switchTimers := [], endTimers := [] }

/-- What `setInterval` of `onTimerSwitchScene` does with the ticker there, kept in `timerIDHash`. -/
def addSwitchScene (s : State) : State :=
  { s with
    timerIDGenerator := s.timerIDGenerator + 1
    switchTimers := s.switchTimers ++ [⟨s.timerIDGenerator + 1, s.tick + tickspanSwitchScene * Scenes.tickStep⟩]
    switchScene := some (s.timerIDGenerator + 1) }

/-- What `setTimeout` of `onTimerEndScene` does with the ticker there, kept in `timerIDHash`; `delay` is in hundredths. -/
def addEndScene (s : State) (delay : Int) : State :=
  { s with
    timerIDGenerator := s.timerIDGenerator + 1
    endTimers := s.endTimers ++ [⟨s.timerIDGenerator + 1, s.tick + delay⟩]
    endScene := some (s.timerIDGenerator + 1) }

/-- `setInterval` of `onTimerSwitchScene`; without the ticker it is an error. -/
def setSwitchScene (s : State) : Option State := if s.isTickerEnable then some s.addSwitchScene else none

/-- `setTimeout` of `onTimerEndScene`; without the ticker it is an error. -/
def setEndScene (s : State) (delay : Int) : Option State := if s.isTickerEnable then some (s.addEndScene delay) else none

/-- The repeated block that clears `timerIDHash.switchScene`. -/
def clearSwitchScene (s : State) : State :=
  match s.switchScene with
  | some timerID => { s with switchTimers := s.switchTimers.filter fun i => i.timerID ≠ timerID, switchScene := none }
  | none => s

/-- The repeated block that clears `timerIDHash.endScene`. -/
def clearEndScene (s : State) : State :=
  match s.endScene with
  | some timerID => { s with endTimers := s.endTimers.filter fun i => i.timerID ≠ timerID, endScene := none }
  | none => s

/-- Before the first game. -/
def loaded : State where
  now := 0
  tick := 0
  tickStep := false
  isTickerEnable := false
  timerIDGenerator := 10
  switchTimers := []
  endTimers := []
  queued := none
  switchScene := none
  endScene := none
  bWorldBossScene := false
  bFengHuangScene := false
  specialSceneEndTick := 0
  startTime := 0
  elapseTime := 0
  holder := none
  flushes := 0
  ends := []
  paused := none
  lost := false

/-- The start of a game: `start` and `onEventGameStart`, which sets the switch interval with the ticker there. -/
def gameStart (s : State) : State := s.start.addSwitchScene

/-- When the game has been started. -/
def init : State := gameStart loaded

end State

/-- The last lines of `_onTimerEndScene`: they end a phoenix scene, but not during a boss. -/
def onTimerEndSceneRest (s : State) : State :=
  if ¬s.bWorldBossScene ∧ s.bFengHuangScene then { s with startTime := 0, elapseTime := 0, bFengHuangScene := false } else s

/-- The function of a timer has returned, or has raised an error: the ticker sets the next tick of an
interval and clears a timeout. -/
def returned (s : State) (func : Func) (timerID : Nat) : State :=
  match func with
  | .onTimerSwitchScene =>
    { s with
      switchTimers := s.switchTimers.map fun i =>
        if i.timerID = timerID then { i with nextTick := s.tick + tickspanSwitchScene * tickStep } else i
      queued := none
      holder := none }
  | .onTimerEndScene =>
    { s with endTimers := s.endTimers.filter fun i => i.timerID ≠ timerID, queued := none, holder := none }

/-- `_onTimerSwitchScene` up to the building of the scene. An end timeout that is there is not cleared. -/
def onTimerSwitchScene (s : State) (timerID : Nat) : State :=
  let s := { s with specialSceneEndTick := s.now + tickspanSpecialScene * tickStep }
  match s.setEndScene (tickspanSpecialScene * tickStep) with
  | none => returned s .onTimerSwitchScene timerID
  | some s => { s with holder := some (.onTimerSwitchScene timerID) }

/-- A function of a timer that has the critical section. `_onTimerEndScene` sets the interval of the building
of fish before it waits. -/
def runTimer (s : State) (func : Func) (timerID : Nat) : State :=
  match func with
  | .onTimerSwitchScene => onTimerSwitchScene s timerID
  | .onTimerEndScene =>
    if s.isTickerEnable then { s with holder := some (.onTimerEndScene timerID) } else returned s .onTimerEndScene timerID

/-- `_flushWorldBoss`. An end timeout that is there is not cleared. Without the ticker it ends before
it has built the boss. -/
def flushWorldBoss (s : State) : State :=
  let s := { s with specialSceneEndTick := s.now + worldBossLiveTime * tickStep }
  match s.setEndScene (worldBossLiveTime * tickStep) with
  | none => { s with holder := none }
  | some s =>
    let s := { s with holder := some .flushWorldBoss }
    if s.bFengHuangScene then { s with elapseTime := s.now - s.startTime } else s

/-- The critical section is free. -/
def free (s : State) : Bool := s.holder = none ∧ s.flushes = 0 ∧ s.queued = none

/-- `worldBossStart` up to `flushWorldBoss`. -/
def worldBossStart (s : State) : State :=
  { s with
    paused := if s.bWorldBossScene then s.paused
      else if s.bFengHuangScene then some (s.specialSceneEndTick - s.now) else none
    bWorldBossScene := true }.clearSwitchScene.clearEndScene

/-- `worldBossEnd` up to the wait in `_onTimerEndScene`, which sets the interval of the building of fish first: without
the ticker it ends there. -/
def worldBossEnd (s : State) : State :=
  let s' := { s.clearEndScene with bWorldBossScene := false, paused := none }
  if s.isTickerEnable then { s' with ends := s.ends ++ [s.paused] } else s'

/-- The end of `worldBossEnd`, which lets a phoenix go on. A negative delay is an error. -/
def resumeFengHuang (s : State) : State :=
  if s.bFengHuangScene then
    let s := s.clearSwitchScene.clearEndScene
    let leftTime := fengHuangLiveTime * tickStep - s.elapseTime
    let s := { s with specialSceneEndTick := s.now + leftTime }
    if 0 ≤ leftTime then (s.setEndScene leftTime).getD s else s
  else s

/-- The phoenix runs, with the time `left`. -/
def running (s : State) (left : Int) : Bool :=
  s.bFengHuangScene ∧ s.specialSceneEndTick = s.now + left ∧ ∃ i ∈ s.endTimers, i.nextTick = s.tick + left

/-- `worldBossEnd` from its wait on. A switch interval that is there is not cleared. -/
def worldBossEndRest (s : State) (paused : Option Int) : State :=
  let s := onTimerEndSceneRest s
  let s := s.setSwitchScene.elim s resumeFengHuang
  { s with lost := s.lost || paused.any fun left => !running s left }

/-- `flushFengHuang` up to `buildFishTrace`. It looks for the boss in a global variable that does not exist. -/
def flushFengHuang (s : State) : State :=
  if s.bFengHuangScene then { s with holder := none }
  else
    let s := { s.clearSwitchScene.clearEndScene with specialSceneEndTick := s.now + fengHuangLiveTime * tickStep }
    match s.setEndScene (fengHuangLiveTime * tickStep) with
    | none => { s with holder := none }
    | some s => { s with holder := some .flushFengHuang }

/-- `fengHuangEnd` up to the wait in `_onTimerEndScene`. -/
def fengHuangEnd (s : State) : State :=
  { s.clearEndScene with
    startTime := 0
    elapseTime := 0
    bFengHuangScene := false
    paused := none
    holder := if s.isTickerEnable then some .fengHuangEnd else none }

/-- The handler in the critical section goes on. `enough` says that a summons has the items. -/
def proceed (s : State) (enough : Bool) : Holder → State
  | .other | .flushWorldBoss => { s with holder := none }
  | .onTimerSwitchScene timerID => returned s .onTimerSwitchScene timerID
  | .onTimerEndScene timerID => returned (onTimerEndSceneRest s) .onTimerEndScene timerID
  | .callFish => if enough then flushFengHuang s else { s with holder := none }
  | .flushFengHuang => { s with bFengHuangScene := true, startTime := s.now, holder := none }
  | .kill => fengHuangEnd s
  | .fengHuangEnd =>
    let s := onTimerEndSceneRest s
    { s.setSwitchScene.getD s with holder := none }

/-- What happens next. `call` is the ticker, `enter` and `enterFlush` are a function and a `flushWorldBoss` that have waited
for the critical section, `worldBossInit` is a `worldBossStart` of the handler that is in it. -/
inductive Label where
  | time (n : Nat)
  | tick
  | call (func : Func) (timerID : Nat)
  | enter
  | enterFlush
  | other
  | callFish
  | kill
  | proceed (enough : Bool)
  | worldBossStart
  | worldBossInit
  | worldBossEnd
  | worldBossEndRest (k : Nat)
  deriving DecidableEq, Repr

def timers (s : State) : Func → List Item
  | .onTimerSwitchScene => s.switchTimers
  | .onTimerEndScene => s.endTimers

/-- The ticker has called a function that has not returned. -/
def calling (s : State) : Bool :=
  s.queued.isSome ||
    match s.holder with
    | some (.onTimerSwitchScene _) | some (.onTimerEndScene _) => true
    | _ => false

/-- One label. The ticker wakes up when no timer is due any more, or ends when it has been stopped. -/
def step (s : State) : Label → Option State
  | .time n => some { s with now := s.now + n }
  | .tick =>
    if s.isTickerEnable ∧ ¬calling s ∧ ∀ i ∈ s.switchTimers ++ s.endTimers, s.tick < i.nextTick then
      some (if s.tickStep then { s with tick := s.tick + tickStep } else { s with isTickerEnable := false })
    else none
  | .call func timerID =>
    if s.isTickerEnable ∧ ¬calling s ∧ ∃ i ∈ timers s func, i.timerID = timerID ∧ i.nextTick ≤ s.tick then
      some (if free s then runTimer s func timerID else { s with queued := some (func, timerID) })
    else none
  | .enter =>
    if s.holder = none then s.queued.map fun (func, timerID) => runTimer { s with queued := none } func timerID else none
  | .enterFlush =>
    if s.holder = none ∧ 0 < s.flushes then some (flushWorldBoss { s with flushes := s.flushes - 1 }) else none
  | .other => if s.holder = none then some { s with holder := some .other } else none
  | .callFish =>
    if s.holder = none ∧ ¬s.bFengHuangScene ∧ ¬s.bWorldBossScene then some { s with holder := some .callFish } else none
  | .kill => if s.holder = none ∧ s.bFengHuangScene ∧ ¬s.bWorldBossScene then some { s with holder := some .kill } else none
  | .proceed enough => s.holder.map (proceed s enough)
  | .worldBossStart =>
    some (if free s then flushWorldBoss (worldBossStart s) else { worldBossStart s with flushes := s.flushes + 1 })
  | .worldBossInit => if s.holder = some .other then some (flushWorldBoss (worldBossStart s)) else none
  | .worldBossEnd => some (worldBossEnd s)
  | .worldBossEndRest k =>
    s.ends[k]?.map fun paused => worldBossEndRest { s with ends := s.ends.eraseIdx k } paused

end SasyServer.Scenes
