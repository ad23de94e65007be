import SasyServer.Bag.Service
import SasyServer.Table.FishTraces

/-!
# The gold of a player at a table

What `comprise/testGame/lualib/tableFrameSink.lua` does to `gameData.fishScore` of one seated player, and to the gold in the
player's bag, in `pbUserFire`, `pbCatchSweepFish` and the refunds of a world boss. The table sends the bag a
`ChangeItemCount` for each change; the messages are handled in the order in which they were sent, by the bag service.

`pbUserFire` and `pbCatchSweepFish` run in the critical section of the table and wait there for other services; the
refunds run outside of it. Waits after the last message of a handler are left out, and so are the packets, the
bullets, the score pools and whatever else of these handlers does not touch gold. Scenes, locks, fish and caught
bombs change by labels of their own.
-/

namespace SasyServer.Table

open SasyServer.Bag (itemIdGold itemIdJewel itemIdFish)
open SasyServer.Catch (Fish FishTrace SweepFish isBomb sweepLoop sweepScore)

/-- The limits `cannonMultiple` of the table's configuration. -/
structure CannonMultiple where
  min : Int
  max : Int
  deriving DecidableEq, Repr

/-- The fields of `gameData` that are about gold. -/
structure GameData where
  bulletID : Int
  isScoreLocked : Bool
  fishScore : Int
  iWorldBossGold : Int
  deriving DecidableEq, Repr

/-- `createGameDataItem`. -/
def createGameDataItem (score : Int) : GameData := ⟨0, false, score, 0⟩

/-- The message `UserFire`, with the entries of `UserGoodsInfo` as pairs of `goodsID` and `goodsCount`. -/
structure UserFire where
  bulletKind : Int
  bulletID : Int
  bulletMultiple : Int
  userGoodsInfo : List (Nat × Int)
  deriving DecidableEq, Repr

/-- Where the handler in the critical section waits: `fire` before the rest of `UserGoodsInfo`,
`sweep` before its message. -/
inductive Work where
  | fire (bulletMultiple : Int) (rest : List (Nat × Int))
  | sweep (score : Int)
  deriving DecidableEq, Repr

/-- A `ChangeItemCount` of gold that the table has sent. -/
structure Message where
  goodsCount : Int
  bNeedNotify : Bool
  deriving DecidableEq, Repr

/-- The player's seat, the messages on their way, and the bag service. -/
structure Seat where
  userID : Nat
  chairID : Nat
  gameData : GameData
  bWorldBossScene : Bool
  bFengHuangScene : Bool
  sweepFishHash : List SweepFish
  fish : Fish
  work : Option Work
  messages : List Message
  bag : Bag.State

namespace Seat

def send (s : Seat) (goodsCount : Int) (bNeedNotify : Bool) : Seat :=
  { s with messages := s.messages ++ [⟨goodsCount, bNeedNotify⟩] }

def addFishScore (s : Seat) (x : Int) : Seat :=
  { s with gameData := { s.gameData with fishScore := s.gameData.fishScore + x } }

end Seat

/-- `onActionUserSitDown`, once the bag has answered. -/
def onActionUserSitDown (s : Seat) : Seat :=
  { s with gameData := createGameDataItem (s.bag.getItemCount s.userID itemIdGold) }

/-- `pbUserFire` counts the shot and goes on: the player is not locked and the number of the bullet is the next one. -/
def inSequence (s : Seat) (m : UserFire) : Bool := !s.gameData.isScoreLocked && s.gameData.bulletID + 1 = m.bulletID

/-- The check of the multiple, by the scene of the table. In a phoenix scene the `return` for a wrong one is a comment. -/
def multipleAllowed (cfg : CannonMultiple) (bWorldBossScene bFengHuangScene : Bool) (bulletMultiple : Int) : Bool :=
  if bWorldBossScene then bulletMultiple = 100
  else if bFengHuangScene then true
  else cfg.min ≤ bulletMultiple ∧ bulletMultiple ≤ cfg.max

/-- A shot that is fired. -/
def accepts (cfg : CannonMultiple) (s : Seat) (m : UserFire) : Bool :=
  inSequence s m && multipleAllowed cfg s.bWorldBossScene s.bFengHuangScene m.bulletMultiple && m.bulletMultiple ≤
    s.gameData.fishScore

/-- The loop of `pbUserFire` over `UserGoodsInfo`, up to an entry for which it asks the bag. -/
def fireLoop (s : Seat) (bulletMultiple : Int) : List (Nat × Int) → Seat
  | [] => { s with work := none }
  | (goodsID, goodsCount) :: rest =>
    if goodsID = itemIdGold then fireLoop (s.send (-bulletMultiple) (s.gameData.fishScore ≠ goodsCount)) bulletMultiple rest
    else if goodsID = itemIdJewel ∨ goodsID = itemIdFish then { s with work := some (.fire bulletMultiple rest) }
    else fireLoop s bulletMultiple rest

/-- `pbUserFire` up to its first wait. Only outside of the two scenes does it wait before the loop. -/
def userFire (cfg : CannonMultiple) (s : Seat) (m : UserFire) : Seat :=
  if s.gameData.isScoreLocked then s
  else
    let allowed := accepts cfg s m
    let s := { s with gameData := { s.gameData with bulletID := s.gameData.bulletID + 1 } }
    if allowed then
      let s :=
        if s.bWorldBossScene then
          { s with gameData := { s.gameData with iWorldBossGold := s.gameData.iWorldBossGold + m.bulletMultiple } }
        else s
      let s := s.addFishScore (-m.bulletMultiple)
      if ¬s.bWorldBossScene ∧ ¬s.bFengHuangScene then { s with work := some (.fire m.bulletMultiple m.userGoodsInfo) }
      else fireLoop s m.bulletMultiple m.userGoodsInfo
    else s

/-- The entry of `sweepFishHash` a `CatchSweepFish` is about. -/
def sweepFishInfo (s : Seat) (sweepID : Int) : Option SweepFish := s.sweepFishHash.find? fun f => f.fishID = sweepID

/-- `pbCatchSweepFish` up to its wait, of a player who is no android. `draws` and `fishMultipleMax` are what
`getfishMultiple` gives. -/
def catchSweepFish (s : Seat) (sweepID : Int) (fishIDList : List Int) (draws : FishTrace → Nat)
    (fishMultipleMax : Nat) : Seat :=
  match sweepFishInfo s sweepID with
  | none => s
  | some fish =>
    if fish.chairID = s.chairID then
      let s := { s with sweepFishHash := s.sweepFishHash.filter fun f => f.fishID ≠ sweepID }
      if isBomb fish.fishKind then
        let sweep := sweepLoop draws fishIDList ⟨s.fish, 0, []⟩
        let score := sweepScore false fish (min sweep.fishMultiple fishMultipleMax)
        { s with fish := sweep.fish, work := some (.sweep score) }.addFishScore score
      else s
    else s

/-- The handler in the critical section goes on after a wait. -/
def proceed (s : Seat) : Work → Seat
  | .fire bulletMultiple rest => fireLoop s bulletMultiple rest
  | .sweep score => { s.send score false with work := none }

/-- The refund of the shots at a world boss, in `sendWorldBossInvalidGold` and `SaveInvalidGunGold`. -/
def refund (s : Seat) (bNeedNotify : Bool) : Seat :=
  if s.gameData.iWorldBossGold ≠ 0 then
    let s' := (s.addFishScore s.gameData.iWorldBossGold).send s.gameData.iWorldBossGold bNeedNotify
    { s' with gameData := { s'.gameData with iWorldBossGold := 0 } }
  else s

/-- `worldBossEnd`. -/
def worldBossEnd (s : Seat) : Seat := refund { s with bWorldBossScene := false } true

/-- `SaveInvalidGunGold`. -/
def saveInvalidGunGold (s : Seat) : Seat := refund s false

/-- What happens next at the table or in the bag service. -/
inductive Label where
  | userFire (m : UserFire)
  | catchSweepFish (sweepID : Int) (fishIDList : List Int) (draws : FishTrace → Nat) (fishMultipleMax : Nat)
  | proceed
  | worldBossStart
  | worldBossEnd
  | saveInvalidGunGold
  | fengHuang (bFengHuangScene : Bool)
  | scoreLock (isScoreLocked : Bool)
  | fishTrace (fish : Fish)
  | sweepFish (fish : SweepFish)
  | deliver (now : Int)
  | bag (k : Nat) (online : Bool) (now : Int)

/-- One label. The handlers of the players' messages need the critical section. -/
def step (cfg : CannonMultiple) (s : Seat) : Label → Option Seat
  | .userFire m => if s.work = none then some (userFire cfg s m) else none
  | .catchSweepFish sweepID fishIDList draws fishMultipleMax =>
    if s.work = none then some (catchSweepFish s sweepID fishIDList draws fishMultipleMax) else none
  | .proceed => s.work.map (proceed s)
  | .worldBossStart => some { s with bWorldBossScene := true }
  | .worldBossEnd => some (worldBossEnd s)
  | .saveInvalidGunGold => some (saveInvalidGunGold s)
  | .fengHuang b => some { s with bFengHuangScene := b }
  | .scoreLock b => some { s with gameData := { s.gameData with isScoreLocked := b } }
  | .fishTrace fish => some { s with fish := fish }
  | .sweepFish fish => some { s with sweepFishHash := fish :: s.sweepFishHash }
  | .deliver now =>
    match s.messages with
    | [] => none
    | m :: rest =>
      some { s with
        messages := rest
        bag := Bag.changeItemCount s.bag ⟨s.userID, itemIdGold, m.goodsCount, .byFish, m.bNeedNotify⟩ false now }
  | .bag k online now => (Bag.step s.bag (.resume k 0 [] online now)).map fun bag => { s with bag := bag }

end SasyServer.Table
