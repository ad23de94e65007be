import SasyServer.Sui.UserInfo
import SasyServer.Table.Score

/-!
# The play of a user at a practice table

What a table does to the record of one user from `cmd_sitDown` to `standUp`: `cmd_sitDown`, `writeUserScore` and `standUp` of
`service/gameServer/GS_model_tableFrame.lua`, `calcScore` of `comprise/testGame/lualib/tableFrameSink.lua`, and
`writeVariation` of `GS_model_attemperEngine.lua`, which is called by the table and when the user logs out. `cmd_sitDown` and
`calcScore` test the bit of `EDUCATE`, `writeUserScore` and `standUp` whether `ServerType` is `EDUCATE`.

The record is that of `lua-sui.c`. Other services change its score with `addAttribute` and `setAttribute`. Of those that call
`writeUserScore`, `cmd_buyProperty` refuses to on a server with the bit; `cmd_useProperty` does not, but writes loveliness
only, which is left out. What is fished changes `fishScore`, and only presents are credited. The waits of `calcScore` and
`standUp` are left out, as are the database's own totals. An error, and an addition that overflows, is `none`.
-/

namespace SasyServer.Practice

open Table (Credit TagScoreInfo ScoreType calcTag genreGold genreMatch genreEducate)

/-- The configuration: `tryScore` is what the sink gives, and `immediateWriteScore` the rule `SR_IMMEDIATE_WRITE_SCORE`. -/
structure Config extends Table.Config where
  tryScore : Int
  immediateWriteScore : Bool
  deriving DecidableEq, Repr

/-- `SCORE_TYPE`. -/
def code : ScoreType → Int
  | .stNull => 0
  | .stWin => 1
  | .stLose => 2
  | .stDraw => 3
  | .stFlee => 4
  | .stPresent => 0x10
  | .stService => 0x11

/-- The fields of the sink's game data that `calcScore` reads. -/
structure GameData where
  fishScore : Int
  countedFishScore : Int
  additionalCredit : Credit
  enterTime : Int
  deriving DecidableEq, Repr

/-- The record of the user, the game data while the user sits, and the variations handed to
`sp_write_score`, the newest first. -/
structure Player where
  userItem : Sui.UserInfo
  siteDownScore : Int
  gameData : Option GameData
  handed : List Sui.Distilled
  deriving DecidableEq, Repr

/-- `ServerUserItem.setAttribute` with a score. -/
def setScore (p : Player) (score : Int) : Option Player :=
  if p.userItem.isInit then some { p with userItem := { p.userItem with score := score } } else none

/-- `writeVariation`. -/
def writeVariation (p : Player) : Option Player :=
  (Sui.distillVariation p.userItem).map fun (tmp, userItem) =>
    { p with userItem := userItem, handed := tmp.toList ++ p.handed }

/-- `cmd_writeVariation`. -/
def cmdWriteVariation (cfg : Config) (p : Player) : Option Player :=
  if cfg.immediateWriteScore then writeVariation p else some p

/-- The fee of `writeUserScore`. -/
def fee (cfg : Config) (type : ScoreType) : Int :=
  if type.isDraw ∧ cfg.serviceScore > 0 ∧ cfg.serverType = genreGold then cfg.serviceScore else 0

/-- `writeUserScore` of the table frame. -/
def writeUserScore (cfg : Config) (p : Player) (tag : TagScoreInfo) (gamePlayTime : Int) : Option Player :=
  if cfg.serverType &&& genreMatch ≠ 0 then
    setScore p (if p.userItem.score + tag.score ≤ 0 then 0 else p.userItem.score + tag.score)
  else
    (Sui.writeUserScore p.userItem
      [("score", tag.score - fee cfg tag.type), ("revenue", fee cfg tag.type), ("medal", tag.medal), ("gift", tag.gift),
        ("present", tag.present)] (code tag.type) gamePlayTime).bind fun userItem =>
      let p := { p with userItem := userItem }
      if cfg.serverType ≠ genreEducate then cmdWriteVariation cfg p else some p

/-- `calcScore`. -/
def calcScore (cfg : Config) (now : Int) (p : Player) : Option Player :=
  match p.gameData with
  | none => some p
  | some gameData =>
    let credit := gameData.additionalCredit
    let score := if cfg.counts then credit.score + gameData.fishScore - gameData.countedFishScore else credit.score
    let gameData := { gameData with additionalCredit := ⟨0, 0, 0⟩, countedFishScore := gameData.fishScore }
    if score ≠ 0 ∨ credit.present ≠ 0 ∨ credit.gift ≠ 0 then
      let gamePlayTime := if cfg.counts then now - gameData.enterTime else 0
      let gameData := if cfg.counts then { gameData with enterTime := now } else gameData
      writeUserScore cfg { p with gameData := some gameData } (calcTag cfg.toConfig score credit) gamePlayTime
    else some { p with gameData := some gameData }

/-- `cmd_sitDown`, where it succeeds, with `onActionUserSitDown`: the game data begins with the gold of the bag. -/
def sitDown (cfg : Config) (gold now : Int) (p : Player) : Option Player :=
  if p.gameData = none ∧ p.userItem.isInit then
    let p :=
      if cfg.serverType &&& genreEducate ≠ 0 then
        { p with siteDownScore := p.userItem.score, userItem := { p.userItem with score := cfg.tryScore } }
      else p
    some { p with gameData := some ⟨gold, gold, ⟨0, 0, 0⟩, now⟩ }
  else none

/-- `standUp`, with `onActionUserStandUp`. -/
def standUp (cfg : Config) (now : Int) (p : Player) : Option Player :=
  if p.gameData = none then none
  else
    (calcScore cfg now p).bind fun t =>
      let t := { t with gameData := none }
      if cfg.serverType = genreEducate then setScore t p.siteDownScore else some t

/-- What happens: the user sits down or stands up, fishes or catches a present, `calcScore` of a timer, another service sets
the score, and a call of `writeVariation`, at the latest when the user logs out. -/
inductive Label where
  | sitDown (gold now : Int)
  | standUp (now : Int)
  | fish (fishScore : Int)
  | present (present : Int)
  | calcScore (now : Int)
  | setScore (score : Int)
  | writeVariation
  deriving DecidableEq, Repr

/-- The user stays in the chair. -/
def Label.isPlay : Label → Bool
  | .sitDown _ _ | .standUp _ => false
  | _ => true

/-- One label. -/
def step (cfg : Config) (p : Player) : Label → Option Player
  | .sitDown gold now => sitDown cfg gold now p
  | .standUp now => standUp cfg now p
  | .fish fishScore => p.gameData.map fun g => { p with gameData := some { g with fishScore := fishScore } }
  | .present present =>
    p.gameData.map fun g =>
      { p with
        gameData := some
          { g with additionalCredit := { g.additionalCredit with gift := g.additionalCredit.gift + present } } }
  | .calcScore now => calcScore cfg now p
  | .setScore score => setScore p score
  | .writeVariation => writeVariation p

end SasyServer.Practice
