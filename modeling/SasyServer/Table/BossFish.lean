import SasyServer.Table.FishTraces
import SasyServer.Table.Gold
import SasyServer.Table.Scenes

/-!
# The world boss among the fish of a table

`comprise/testGame/lualib/tableFrameSink.lua`: what the functions of `Scenes` do to `fishTraceHash`, with everything else
that puts fish in or takes fish out: the building of other fish, `doCatchFish`, `pbCatchSweepFish`, the clean-up of
`onTimerClearTrace` and the end of a game. `doCatchFish`, `pbCatchSweepFish` and the clean-up run in the critical section, in
a handler that is `other` there, and `doCatchFish` waits for other services between its look at the fish and the catch. A
kill of the phoenix is `kill` of `Scenes`.

How likely a catch is, and what it pays, is not here, nor is the age of a phoenix after a boss. The timers of the clean-up
and of the building of fish are left out: what they call may come at any moment.
-/

namespace SasyServer.BossFish

open Catch (Fish FishTrace isWorldBoss fishLiveTicks)

/-- A `doCatchFish` that waits. -/
structure Caught where
  chairID : Nat
  fishID : Int
  fishKind : Nat
  deriving DecidableEq, Repr

/-- The table: the scenes, the fish, the two fields of the boss, the bombs that have been caught as
pairs of `sweepID` and chair.

Not in the code: `killed` says that a `doCatchFish` has taken the boss out since the last `worldBossStart`. -/
structure State where
  scenes : Scenes.State
  fish : Fish
  bSpecial : Bool
  worldBossStartTime : Int
  sweepFishHash : List (Int × Nat)
  catching : Option Caught
  killed : Bool
  deriving DecidableEq, Repr

/-- A table at the start of its first game, with the number of the last fish. -/
def State.init (fishID : Int) : State where
  scenes := Scenes.State.init
  fish := ⟨fishID, [], 0⟩
  bSpecial := false
  worldBossStartTime := 0
  sweepFishHash := []
  catching := none
  killed := false

/-- The arguments of `worldBossStart`. -/
structure Data where
  bSpecial : Bool
  startTime : Option Int
  deriving DecidableEq, Repr

/-- `clearFishTrace`. -/
def clearFishTrace (s : State) (c : Catch.Clear) : State := { s with fish := s.fish.clearFishTrace c }

/-- `buildFishTrace` of one fish; `time` is `os.time()`. -/
def buildFishTrace (s : State) (fishKind : Nat) (time : Int) : State :=
  { s with fish := s.fish.createFishTraceItem fishKind s.scenes.now s.worldBossStartTime time }

/-- `_flushWorldBoss`, which ends with an error when the end timeout cannot be set. -/
def flushWorldBoss (s : State) (time : Int) : State :=
  if s.scenes.isTickerEnable then buildFishTrace s (if s.bSpecial then 33 else 29) time else s

/-- `worldBossStart` up to `flushWorldBoss`. -/
def worldBossStart (s : State) (data : Data) : State :=
  { clearFishTrace s .forceWorldBoss with
    bSpecial := data.bSpecial
    worldBossStartTime := data.startTime.getD s.worldBossStartTime
    killed := false }

/-- `worldBossEnd` up to the wait in `_onTimerEndScene`. -/
def worldBossEnd (s : State) : State := { clearFishTrace s .forceWorldBoss with bSpecial := false, worldBossStartTime := 0 }

/-- `worldBossEnd` from its wait on, when the intervals can be set. -/
def worldBossEndRest (s : State) : State :=
  if s.scenes.isTickerEnable ∧ (Scenes.onTimerEndSceneRest s.scenes).bFengHuangScene then clearFishTrace s .forceWorldBoss
  else s

/-- `_onTimerSwitchScene` and `_onTimerEndScene` up to their waits. -/
def runTimer (s : State) : Scenes.Func → State
  | .onTimerSwitchScene => clearFishTrace s .force
  | .onTimerEndScene => s

/-- `flushFengHuang` up to `buildFishTrace` and with it, when the end timeout can be set. -/
def flushFengHuang (s : State) (time : Int) : State :=
  if s.scenes.bFengHuangScene then s
  else if s.scenes.isTickerEnable then buildFishTrace (clearFishTrace s .force) 30 time
  else clearFishTrace s .force

/-- The handler in the critical section goes on. `fengHuangEnd` of a kill clears the fish. -/
def proceed (s : State) (enough : Bool) (time : Int) : Scenes.Holder → State
  | .callFish => if enough then flushFengHuang s time else s
  | .kill => clearFishTrace s .force
  | _ => s

/-- What a step of the scenes does to the fish and the boss. -/
def runScene (s : State) (data : Data) (time : Int) : Scenes.Label → State
  | .call func _ => if Scenes.free s.scenes then runTimer s func else s
  | .enter => s.scenes.queued.elim s fun q => runTimer s q.1
  | .enterFlush => flushWorldBoss s time
  | .proceed enough => s.scenes.holder.elim s (proceed s enough time)
  | .worldBossStart => if Scenes.free s.scenes then flushWorldBoss (worldBossStart s data) time else worldBossStart s data
  | .worldBossInit => flushWorldBoss (worldBossStart s data) time
  | .worldBossEnd => worldBossEnd s
  | .worldBossEndRest _ => worldBossEndRest s
  | _ => s

/-- `doCatchFish` up to its wait: nothing but the boss is caught in its scene. -/
def doCatchFish (s : State) (chairID : Nat) (fishID : Int) : State :=
  match s.fish.find fishID with
  | none => s
  | some f =>
    if s.scenes.bWorldBossScene ∧ ¬isWorldBoss f.fishKind then s
    else { s with catching := some ⟨chairID, fishID, f.fishKind⟩ }

/-- `doCatchFish` from its wait on: the fish is caught, or not. A bomb can be cashed after that. -/
def caught (s : State) (c : Caught) (hit : Bool) : State :=
  if hit then
    { s with
      fish := s.fish.remove c.fishID
      sweepFishHash :=
        if Catch.isBomb c.fishKind then (c.fishID, c.chairID) :: s.sweepFishHash.filter fun b => b.1 ≠ c.fishID
        else s.sweepFishHash
      catching := none
      killed := s.killed || s.fish.fishTraceHash.any fun f => f.fishID = c.fishID && isWorldBoss f.fishKind }
  else { s with catching := none }

/-- `pbCatchSweepFish`: whatever fish the player names. -/
def catchSweepFish (s : State) (chairID : Nat) (sweepID : Int) (fishIDList : List Int) : State :=
  match s.sweepFishHash.find? fun b => b.1 = sweepID with
  | none => s
  | some b =>
    if b.2 ≠ chairID then s
    else
      { s with
        sweepFishHash := s.sweepFishHash.filter fun b => b.1 ≠ sweepID,
        fish := fishIDList.foldl Fish.remove s.fish }

/-- `stop` of the ticker, which ends when it wakes up next, and `onEventGameConclude`. -/
def gameConclude (s : State) : State :=
  { clearFishTrace s .force with
    scenes := { s.scenes.stop with
      switchScene := none, endScene := none, bWorldBossScene := false, bFengHuangScene := false, startTime :=
        0, elapseTime := 0,
      paused := none }
    bSpecial := false
    worldBossStartTime := 0
    sweepFishHash := [] }

/-- What happens next: a step of the scenes, with the arguments of a `worldBossStart`, and what else changes the fish. -/
inductive Label where
  | scene (l : Scenes.Label) (data : Data) (time : Int)
  | createFishTraceItem (fishKind : Nat) (time : Int)
  | doCatchFish (chairID : Nat) (fishID : Int)
  | caught (hit : Bool)
  | catchSweepFish (chairID : Nat) (sweepID : Int) (fishIDList : List Int)
  | clearTrace
  | gameConclude
  | gameStart
  deriving DecidableEq, Repr

/-- A handler that is `other` has the critical section, and its `doCatchFish` does not wait. -/
def inSection (s : State) : Bool := s.scenes.holder = some .other ∧ s.catching = none

/-- The steps of the handler that is in the critical section. -/
def ofHandler : Scenes.Label → Bool
  | .proceed _ | .worldBossInit => true
  | _ => false

/-- One label. A `doCatchFish` that waits keeps its handler in the critical section; nobody but the boss
itself builds its two kinds. -/
def step (s : State) : Label → Option State
  | .scene l data time =>
    if s.catching.isSome ∧ ofHandler l then none
    else (Scenes.step s.scenes l).map fun t => { runScene s data time l with scenes := t }
  | .createFishTraceItem fishKind time => if isWorldBoss fishKind then none else some (buildFishTrace s fishKind time)
  | .doCatchFish chairID fishID => if inSection s then some (doCatchFish s chairID fishID) else none
  | .caught hit => s.catching.map fun c => caught s c hit
  | .catchSweepFish chairID sweepID fishIDList =>
    if inSection s then some (catchSweepFish s chairID sweepID fishIDList) else none
  | .clearTrace => if inSection s then some (clearFishTrace s (.old s.scenes.now)) else none
  | .gameConclude => if inSection s then some (gameConclude s) else none
  | .gameStart => if inSection s then some { s with scenes := s.scenes.gameStart } else none

end SasyServer.BossFish
