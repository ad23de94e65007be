import SasyServer.Table.Gold

/-!
# The score of a player at a table

`calcScore` and `onUserScoreNotify` of `comprise/testGame/lualib/tableFrameSink.lua`, `writeUserScore` of
`service/gameServer/GS_model_tableFrame.lua` and `l_writeUserScore` of `luaclib-src/lua-sui.c`, for one seated player who is
not an android. `gameData.countedFishScore` is the part of `fishScore` that has been written to the record of the user. The
record is shared: other services change its score with `addAttribute` and then notify the table.

The gold of the seat is that of `Table.Gold`, whose labels are labels here too. `pbCatchFish` is a label for each of its
changes of `fishScore` and of the presents; how it draws them does not matter here. `calcScore`, the handlers of the players'
messages and `cmd_onUserScoreNotify` run in the critical section of the table; `CompleteTask`, the refunds and the other
services do not. The source credits nothing but gifts to `additionalCredit`; `credit` lets it be credited with anything.
Scores are unbounded integers.
-/

namespace SasyServer.Table

open SasyServer.Bag (itemIdGold)

/-! ## The record of the user -/

/-- The bits of `GAME_GENRE` that are tested. -/
def genreGold : Nat := 0x0001
def genreMatch : Nat := 0x0004
def genreEducate : Nat := 0x0008

/-- `SCORE_TYPE`. -/
inductive ScoreType where
  | stNull | stWin | stLose | stDraw | stFlee | stPresent | stService
  deriving DecidableEq, Repr

/-- The types from `ST_WIN` to `ST_FLEE`. -/
def ScoreType.isDraw : ScoreType → Bool
  | .stWin | .stLose | .stDraw | .stFlee => true
  | _ => false

/-- `tagScoreInfo` as `calcScore` passes it on. -/
structure TagScoreInfo where
  score : Int
  present : Int
  gift : Int
  medal : Int
  type : ScoreType
  deriving DecidableEq, Repr

/-- `additionalCredit`. -/
structure Credit where
  score : Int
  present : Int
  gift : Int
  deriving DecidableEq, Repr

/-- The fields of `user_info` that a write from `calcScore` changes. -/
structure UserInfo where
  score : Int
  medal : Int
  gift : Int
  present : Int
  deriving DecidableEq, Repr

/-- The configuration of the server and the table. -/
structure Config where
  nodeID : Nat
  serverType : Nat
  serviceScore : Int
  cannonMultiple : CannonMultiple
  deriving DecidableEq, Repr

/-- `isBasicRoom`. -/
def isBasicRoom (nodeID : Nat) : Bool := nodeID = 1100

/-- Neither a training nor a match. -/
def Config.counts (cfg : Config) : Bool := cfg.serverType &&& genreEducate = 0 ∧ cfg.serverType &&& genreMatch = 0

/-- `l_writeUserScore`, with `testWrite` for each field. -/
def UserInfo.write (p : UserInfo) (tag : TagScoreInfo) : UserInfo :=
  ⟨p.score + tag.score, p.medal + tag.medal, p.gift + tag.gift, p.present + tag.present⟩

/-- `writeUserScore` of the table frame. -/
def writeUserScore (cfg : Config) (p : UserInfo) (tag : TagScoreInfo) : UserInfo :=
  if cfg.serverType &&& genreMatch ≠ 0 then { p with score := if p.score + tag.score ≤ 0 then 0 else p.score + tag.score }
  else if tag.type.isDraw ∧ cfg.serviceScore > 0 ∧ cfg.serverType = genreGold then
    p.write { tag with score := tag.score - cfg.serviceScore }
  else p.write tag

/-! ## The chair -/

/-- A seated player. `calculating` is the credit `calcScore` has taken while it waits, `external` counts the changes by other
services that are still to be notified, and `writes` is what `calcScore` has passed to `writeUserScore`, the newest first. -/
structure Chair where
  seat : Seat
  countedFishScore : Int
  additionalCredit : Credit
  totalScore : Int
  totalPresent : Int
  recordScore : Int
  recordPresent : Int
  isPayUser : Bool
  calculating : Option Credit
  sui : UserInfo
  external : Nat
  writes : List TagScoreInfo

namespace Chair

def fishScore (s : Chair) : Int := s.seat.gameData.fishScore

/-- No handler is in the critical section. -/
def free (s : Chair) : Bool := s.seat.work.isNone && s.calculating.isNone

end Chair

/-- What `calcScore` passes to `writeUserScore`. -/
def calcTag (cfg : Config) (score : Int) (credit : Credit) : TagScoreInfo :=
  if cfg.counts then
    if score > 0 then ⟨score, credit.present, credit.gift, score / 1000, .stWin⟩
    else if score < 0 then ⟨score, credit.present, credit.gift, 0, .stLose⟩
    else ⟨score, credit.present, credit.gift, 0, .stDraw⟩
  else ⟨score, credit.present, credit.gift, 0, .stPresent⟩

/-- `calcScore` after the record of the caught fish. -/
def calcRest (cfg : Config) (s : Chair) (credit : Credit) : Chair :=
  let score := if cfg.counts then credit.score + s.fishScore - s.countedFishScore else credit.score
  let s := { s with countedFishScore := s.fishScore }
  if score ≠ 0 ∨ credit.present ≠ 0 ∨ credit.gift ≠ 0 then
    let tag := calcTag cfg score credit
    { s with sui := writeUserScore cfg s.sui tag, writes := tag :: s.writes }
  else s

/-- `calcScore` up to its wait, which it has only when there is something to record. -/
def calcScore (cfg : Config) (s : Chair) : Chair :=
  let credit := s.additionalCredit
  let s := { s with additionalCredit := ⟨0, 0, 0⟩ }
  let addscore := s.totalScore - s.recordScore
  let addpresent := s.totalPresent - s.recordPresent
  if (addscore > 0 ∨ addpresent > 0) ∧ (isBasicRoom cfg.nodeID ∨ s.isPayUser) then { s with calculating := some credit }
  else calcRest cfg s credit

/-- `onUserScoreNotify`. -/
def onUserScoreNotify (s : Chair) : Chair :=
  let uncountedScore := s.fishScore - s.countedFishScore
  let gameData := { s.seat.gameData with fishScore := s.sui.score + uncountedScore }
  { s with seat := { s.seat with gameData := gameData }, countedFishScore := s.sui.score }

/-- `addAttribute` on the score. -/
def addAttribute (s : Chair) (x : Int) : Chair := { s with sui := { s.sui with score := s.sui.score + x } }

/-- What happens next: something at the seat, the catches of `pbCatchFish`, a credit, `calcScore` and the end of its
wait with the totals the database gives, a change by another service and its notification, a task reward, and the news
that the user has paid. -/
inductive ChairLabel where
  | seat (i : Label)
  | catchFish (fishScore : Int)
  | catchPresent (present : Int)
  | credit (c : Credit)
  | calcScore
  | recorded (recordScore recordPresent : Int)
  | external (x : Int)
  | onUserScoreNotify
  | completeTask (x : Int)
  | goldRecordChange

/-- The labels of the seat that enter the critical section. -/
def Label.enters : Label → Bool
  | .userFire _ | .catchSweepFish _ _ _ _ => true
  | _ => false

/-- One label. -/
def chairStep (cfg : Config) (s : Chair) : ChairLabel → Option Chair
  | .seat i =>
    if i.enters ∧ s.calculating.isSome then none else (step cfg.cannonMultiple s.seat i).map
      fun seat => { s with seat := seat }
  | .catchFish x =>
    if s.free then some { s with seat := (s.seat.addFishScore x).send x false, totalScore := s.totalScore + x } else none
  | .catchPresent present =>
    if s.free then
      some { s with
        totalPresent := s.totalPresent + present
        additionalCredit := { s.additionalCredit with gift := s.additionalCredit.gift + present } }
    else none
  | .credit c =>
    some { s with additionalCredit :=
      ⟨s.additionalCredit.score + c.score, s.additionalCredit.present + c.present, s.additionalCredit.gift + c.gift⟩ }
  | .calcScore => if s.free then some (calcScore cfg s) else none
  | .recorded recordScore recordPresent =>
    s.calculating.map
      (calcRest cfg { s with calculating := none, recordScore := recordScore, recordPresent := recordPresent })
  | .external x => some { addAttribute s x with external := s.external + 1 }
  | .onUserScoreNotify =>
    if s.free ∧ 0 < s.external then some { onUserScoreNotify s with external := s.external - 1 } else none
  | .completeTask x => some (onUserScoreNotify (addAttribute s x))
  | .goldRecordChange => if s.free then some { s with isPayUser := true } else none

end SasyServer.Table
