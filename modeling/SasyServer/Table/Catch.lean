import SasyServer.Table.FishTraces
import SasyServer.Table.Gold

/-!
# The shots and the catches at a table

`pbUserFire`, `pbBigNetCatchFish`, `pbAndroidBigNetCatchFish`, `doCatchFish` and `pbCatchSweepFish` of
`comprise/testGame/lualib/tableFrameSink.lua`, for all the players of a table, with what else changes the bullets, the fish,
the caught bombs and the scene in between. The handlers run in the critical section of the table and wait there for other
services: `pbUserFire` between its checks and the storing of the bullet, `pbBigNetCatchFish` before its fish and within each
`doCatchFish`. The world boss starts and ends outside of the critical section, and so come the refunds of its shots.

How likely a catch is, and what it pays in the ordinary branch of `doCatchFish`, is in the label. Left out are the bag and
the other services, the packets, the pools of the system and the compensation of missed shots, of which nothing here reads
anything. Handlers that end with an error in the middle, behind one of their waits, are not modelled.
-/

namespace SasyServer.Catch

open Table (CannonMultiple UserFire multipleAllowed)

def tickspanSpecialScene : Int := 45

/-- An entry of `bulletInfoHash`. Not in the code: `bWorldBossScene` says in which scene it was fired, `shot` is
the number of the shot. -/
structure BulletInfo where
  id : Int
  kind : Int
  multiple : Int
  bWorldBossScene : Bool
  shot : Nat
  deriving DecidableEq, Repr

/-- The game data of a chair, with the bullets and the user who sits there. -/
structure GameData extends Table.GameData where
  userID : Nat
  isAndroid : Bool
  bulletInfoHash : List BulletInfo
  deriving DecidableEq, Repr

/-- `createGameDataItem`, for a user who sits down. -/
def createGameDataItem (userID : Nat) (isAndroid : Bool) (score : Int) : GameData :=
  ⟨Table.createGameDataItem score, userID, isAndroid, []⟩

/-- The branch of `doCatchFish`. -/
inductive Branch where
  | worldBoss
  | fengHuang
  | ordinary
  deriving DecidableEq, Repr

/-- Where the handler in the critical section waits: `fire` before it stores the bullet, `net` with the fish that are still
to be tried and the one that is being tried. -/
inductive Work where
  | fire (chairID : Nat) (bulletInfo : BulletInfo)
  | net (chairID userID : Nat) (bulletInfo : BulletInfo) (rest : List Int) (fish : Option (Branch × FishTrace))
  deriving DecidableEq, Repr

/-- `_data`, and the handler that waits. What has happened so far is not in the code: `fires` and `nets` are the shots that
were accepted and the net catches that were completed, each with its user, `awards` the serials of the fish that were paid
for, and `cashed` the bombs that were cashed, each with the user who did. -/
structure State where
  fish : Fish
  sweepFishHash : List SweepFish
  chairID2GameData : Nat → Option GameData
  bWorldBossScene : Bool
  bFengHuangScene : Bool
  isSpecialScene : Bool
  rewardPool : Int
  fengHuangGunCount : Int
  fengHuangPoolGold : Int
  work : Option Work
  fires : List (Nat × Nat)
  nets : List (Nat × Nat)
  awards : List Nat
  cashed : List (SweepFish × Nat)

namespace State

/-- A table before its first player. -/
def init : State where
  fish := .init
  sweepFishHash := []
  chairID2GameData := fun _ => none
  bWorldBossScene := false
  bFengHuangScene := false
  isSpecialScene := false
  rewardPool := 0
  fengHuangGunCount := 0
  fengHuangPoolGold := 0
  work := none
  fires := []
  nets := []
  awards := []
  cashed := []

def setGameData (s : State) (chairID : Nat) (gameData : Option GameData) : State :=
  { s with chairID2GameData := Function.update s.chairID2GameData chairID gameData }

/-- A change of the game data of a chair, if there are any. -/
def modifyGameData (s : State) (chairID : Nat) (f : GameData → GameData) : State :=
  s.setGameData chairID ((s.chairID2GameData chairID).map f)

/-- A fish is paid for. -/
def pay (s : State) (chairID : Nat) (score : Int) (serial : Nat) : State :=
  { s.modifyGameData chairID fun g => { g with fishScore := g.fishScore + score } with awards := serial :: s.awards }

end State

/-! ## Shots -/

/-- An android may not fire at the beginning and at the end of a special scene. -/
def androidWaits (s : State) (gameData : GameData) (specialSceneLeftTime : Int) : Bool :=
  gameData.isAndroid ∧ s.isSpecialScene ∧ (specialSceneLeftTime < 5 ∨ specialSceneLeftTime > tickspanSpecialScene - 10)

/-- The rest of `pbUserFire` up to its waits, for a shot that is fired. -/
def fire (s : State) (chairID : Nat) (gameData : GameData) (m : UserFire) : State :=
  let gameData :=
    if s.bWorldBossScene then { gameData with iWorldBossGold := gameData.iWorldBossGold + m.bulletMultiple } else gameData
  let t := s.setGameData chairID (some { gameData with fishScore := gameData.fishScore - m.bulletMultiple })
  { t with
    fengHuangGunCount := if s.bFengHuangScene then s.fengHuangGunCount + 1 else s.fengHuangGunCount
    fengHuangPoolGold := if s.bFengHuangScene then s.fengHuangPoolGold + m.bulletMultiple else s.fengHuangPoolGold
    work := some (.fire chairID ⟨gameData.bulletID, m.bulletKind, m.bulletMultiple, s.bWorldBossScene, s.fires.length⟩)
    fires := (s.fires.length, gameData.userID) :: s.fires }

/-- The number of the bullet is counted, whatever comes of the shot. -/
def countBullet (gameData : GameData) : GameData := { gameData with bulletID := gameData.bulletID + 1 }

/-- `pbUserFire` up to its waits. `specialSceneLeftTime` is how long the special scene still lasts. -/
def userFire (cfg : CannonMultiple) (s : State) (chairID : Nat) (gameData : GameData) (m : UserFire)
    (specialSceneLeftTime : Int) : State :=
  if gameData.isScoreLocked then s
  else
    let counted := s.setGameData chairID (some (countBullet gameData))
    if gameData.bulletID + 1 ≠ m.bulletID then counted
    else if ¬multipleAllowed cfg s.bWorldBossScene s.bFengHuangScene m.bulletMultiple then counted
    else if gameData.fishScore < m.bulletMultiple then
      if gameData.isAndroid then s.setGameData chairID none else counted
    else if androidWaits s gameData specialSceneLeftTime then counted
    else fire s chairID (countBullet gameData) m

/-- The bullet is stored under its number. -/
def storeBullet (bulletInfo : BulletInfo) (g : GameData) : GameData :=
  { g with bulletInfoHash := bulletInfo :: g.bulletInfoHash.filter fun b => b.id ≠ bulletInfo.id }

/-! ## Net catches -/

/-- `bulletInfoHash[bulletID]`. -/
def GameData.findBullet (g : GameData) (bulletID : Int) : Option BulletInfo :=
  g.bulletInfoHash.find? fun b => b.id = bulletID

/-- `pbBigNetCatchFish` up to its first wait, and `pbAndroidBigNetCatchFish`, whose fish is drawn by the server. -/
def netCatch (s : State) (chairID : Nat) (gameData : GameData) (bulletID : Int) (catchIDList : List Int) : State :=
  match gameData.findBullet bulletID with
  | none => s
  | some bulletInfo => { s with work := some (.net chairID gameData.userID bulletInfo catchIDList none) }

/-- `doCatchFish` up to its waits: the fish that is tried, and in which branch. -/
def target (s : State) (fishID : Int) : Option (Branch × FishTrace) :=
  (s.fish.find fishID).bind fun f =>
    if s.bWorldBossScene then if isWorldBoss f.fishKind then some (.worldBoss, f) else none
    else if s.bFengHuangScene then if f.fishKind = 30 then some (.fengHuang, f) else none
    else some (.ordinary, f)

/-- `fengHuangEnd`, as far as it is about the fish and the phoenix. -/
def fengHuangEnd (s : State) : State :=
  { s with fish := s.fish.clearFishTrace .force, bFengHuangScene := false, fengHuangGunCount := 0, fengHuangPoolGold := 0 }

/-- The rest of a `doCatchFish` that catches. `score` is what an ordinary fish pays, and what the drops of a phoenix add. -/
def caught (s : State) (chairID userID : Nat) (bulletInfo : BulletInfo) (branch : Branch) (f : FishTrace)
    (score : Int) : State :=
  let s := { s with fish := s.fish.remove f.fishID }
  match branch with
  | .worldBoss => s.pay chairID s.rewardPool f.serial
  | .fengHuang => fengHuangEnd (s.pay chairID (s.fengHuangPoolGold + score) f.serial)
  | .ordinary =>
    if isBomb f.fishKind then
      { s with sweepFishHash :=
          ⟨chairID, f.fishID, f.fishKind, bulletInfo.kind, bulletInfo.multiple, userID, f.serial⟩ ::
            s.sweepFishHash.filter fun b => b.fishID ≠ f.fishID }
    else s.pay chairID score f.serial

/-- The handler in the critical section goes on. `score` is `none` when the fish that is tried is not caught. -/
def proceed (s : State) (score : Option Int) : Work → State
  | .fire chairID bulletInfo => { s.modifyGameData chairID (storeBullet bulletInfo) with work := none }
  | .net chairID userID bulletInfo rest (some (branch, f)) =>
    let s := match score with
      | some score => caught s chairID userID bulletInfo branch f score
      | none => s
    { s with work := some (.net chairID userID bulletInfo rest none) }
  | .net chairID userID bulletInfo (fishID :: rest) none =>
    { s with work := some (.net chairID userID bulletInfo rest (target s fishID)) }
  | .net chairID userID bulletInfo [] none =>
    { s.modifyGameData chairID fun g =>
        { g with bulletInfoHash := g.bulletInfoHash.filter fun b => b.id ≠ bulletInfo.id } with
      work := none
      nets := (bulletInfo.shot, userID) :: s.nets }

/-! ## Bombs -/

/-- The rest of `pbCatchSweepFish` up to its wait, for the player in the chair of the bomb. -/
def cash (s : State) (chairID : Nat) (gameData : GameData) (bomb : SweepFish) (w : Sweep) (fishMultipleMax : Nat) : State :=
  { s with
    fish := w.fish
    sweepFishHash := s.sweepFishHash.filter fun b => b.fishID ≠ bomb.fishID
    awards := w.awards
    cashed := (bomb, gameData.userID) :: s.cashed }.pay
      chairID (sweepScore gameData.isAndroid bomb (min w.fishMultiple fishMultipleMax)) bomb.serial

/-- `pbCatchSweepFish` up to its wait; a fish that is no bomb is an error. -/
def catchSweepFish (s : State) (chairID : Nat) (gameData : GameData) (sweepID : Int) (fishIDList : List Int)
    (draws : FishTrace → Nat) (fishMultipleMax : Nat) :
    Option State :=
  match s.sweepFishHash.find? fun b => b.fishID = sweepID with
  | none => some s
  | some bomb =>
    if bomb.chairID ≠ chairID then some s
    else if ¬isBomb bomb.fishKind then none
    else some (cash s chairID gameData bomb (sweepLoop draws fishIDList ⟨s.fish, 0, s.awards⟩) fishMultipleMax)

/-! ## The runs -/

/-- The refund of `sendWorldBossInvalidGold` and `SaveInvalidGunGold`. -/
def refund (g : GameData) : GameData := { g with fishScore := g.fishScore + g.iWorldBossGold, iWorldBossGold := 0 }

/-- What happens next. The messages of the players come with what is drawn for them; then the players themselves, the fish,
the scenes, and what other services do to `fishScore`. -/
inductive Label where
  | userFire (chairID : Nat) (m : UserFire) (specialSceneLeftTime : Int)
  | bigNetCatchFish (chairID : Nat) (bulletID : Int) (catchFishIDList : List Int)
  | bigNetCatchFishAndroid (chairID : Nat) (bulletID : Int) (fishID : Option Int)
  | catchSweepFish (chairID : Nat) (sweepID : Int) (fishIDList : List Int) (draws : FishTrace → Nat) (fishMultipleMax : Nat)
  | proceed (score : Option Int)
  | sitDown (chairID userID : Nat) (isAndroid : Bool) (score : Int)
  | standUp (chairID : Nat)
  | gameOption (chairID : Nat)
  | scoreLock (chairID : Nat) (isScoreLocked : Bool)
  | createFishTraceItem (fishKind : Nat) (buildTick worldBossStartTime time : Int)
  | clearFishTrace (c : Clear)
  | specialScene (isSpecialScene : Bool)
  | worldBossStart (rewardPool : Int)
  | worldBossEnd
  | sendWorldBossInvalidGold
  | saveInvalidGunGold (chairID : Nat)
  | fengHuang (bFengHuangScene : Bool)
  | fishScore (chairID : Nat) (fishScore : Int)
  | gameConclude

/-- One label. The messages of a chair need the critical section and a player in the chair. -/
def step (cfg : CannonMultiple) (s : State) : Label → Option State
  | .userFire chairID m specialSceneLeftTime =>
    if s.work = none then (s.chairID2GameData chairID).map fun g => userFire cfg s chairID g m specialSceneLeftTime else none
  | .bigNetCatchFish chairID bulletID catchFishIDList =>
    if s.work = none then
      (s.chairID2GameData chairID).map fun g =>
        netCatch s chairID g bulletID (catchFishIDList.filter fun fishID => (s.fish.find fishID).isSome)
    else none
  | .bigNetCatchFishAndroid chairID bulletID fishID =>
    if s.work = none then
      (s.chairID2GameData chairID).bind fun g =>
        if g.isAndroid then some (netCatch s chairID g bulletID fishID.toList) else none
    else none
  | .catchSweepFish chairID sweepID fishIDList draws fishMultipleMax =>
    if s.work = none then
      (s.chairID2GameData chairID).bind fun g => catchSweepFish s chairID g sweepID fishIDList draws fishMultipleMax
    else none
  | .proceed score => s.work.map (proceed s score)
  | .sitDown chairID userID isAndroid score =>
    if s.work = none ∧ s.chairID2GameData chairID = none then
      some (s.setGameData chairID (some (createGameDataItem userID isAndroid score)))
    else none
  | .standUp chairID => if s.work = none then some (s.setGameData chairID none) else none
  | .gameOption chairID => if s.work = none then some (s.modifyGameData chairID fun g => { g with bulletID := 0 }) else none
  | .scoreLock chairID b => some (s.modifyGameData chairID fun g => { g with isScoreLocked := b })
  | .createFishTraceItem fishKind buildTick worldBossStartTime time =>
    some { s with fish := s.fish.createFishTraceItem fishKind buildTick worldBossStartTime time }
  | .clearFishTrace c => some { s with fish := s.fish.clearFishTrace c }
  | .specialScene b => some { s with isSpecialScene := b }
  | .worldBossStart rewardPool =>
    some { s with
      fish := s.fish.clearFishTrace .forceWorldBoss, bWorldBossScene := true, isSpecialScene := true,
      rewardPool := rewardPool }
  | .worldBossEnd => some { s with fish := s.fish.clearFishTrace .forceWorldBoss, bWorldBossScene := false, rewardPool := 0 }
  | .sendWorldBossInvalidGold => some { s with chairID2GameData := fun chairID => (s.chairID2GameData chairID).map refund }
  | .saveInvalidGunGold chairID => some (s.modifyGameData chairID refund)
  | .fengHuang b => some { s with bFengHuangScene := b }
  | .fishScore chairID fishScore => some (s.modifyGameData chairID fun g => { g with fishScore := fishScore })
  | .gameConclude =>
    if s.work = none then
      some { s with
        fish := s.fish.clearFishTrace .force
        sweepFishHash := []
        bWorldBossScene := false
        isSpecialScene := false
        rewardPool := 0
        bFengHuangScene := false
        fengHuangGunCount := 0
        fengHuangPoolGold := 0 }
    else none

end SasyServer.Catch
