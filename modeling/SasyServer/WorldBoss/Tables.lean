import Mathlib.Logic.Function.Basic
import SasyServer.WorldBoss.LoginServer

/-!
# The world boss on the game servers

The part of `service/gameServer/GS_model_tableManager.lua` and of `comprise/testGame/lualib/tableFrameSink.lua` that
starts, pays and ends a world boss, for any number of game servers and tables, with the messages between them and the
login server. A message is on its way until a label takes it, in any order; those of the login server, which go through
`LS_model_GSProxy`, can also be lost.

`doCatchFish` is the branch of a table in the world boss scene. It waits for `GS_model_operatorLimit` between its first
checks and the random draw, inside the critical section of the table; `worldBossStart` and `worldBossEnd` run outside of it,
only the building of the boss fish waits for it. The odds of a catch, and the data of the boss that only change them, are
left out: the label says how the draw ends. Fish of other kinds are left out.
-/

namespace SasyServer.WorldBoss

/-- The data of the boss in `_data` of the table manager, and the tables of its `_tableHash` with `isStarted`. -/
structure Manager where
  status : Nat
  rewardPool : Int
  startTime : Int
  bSpecial : Bool
  tableHash : List Nat
  isStarted : Nat → Bool

/-- What a table is told of a boss: `_data` of the table manager. -/
structure BossData where
  status : Nat
  rewardPool : Int
  startTime : Int
  bSpecial : Bool
  deriving DecidableEq, Repr

/-- `NotifyWorldBossStart`, `NotifyWorldBossEnd` and the answer to `GetTableStatus`. -/
inductive TableMessage where
  | notifyWorldBossStart (data : BossData)
  | notifyWorldBossEnd
  | tableStatus (data : BossData)
  deriving DecidableEq, Repr

/-- An entry of `fishTraceHash`. -/
structure FishTrace where
  fishKind : Nat
  fishID : Nat
  deriving DecidableEq, Repr

/-- The data of a table. `flushes` counts the calls of `_flushWorldBoss` that wait for the critical section, and `catching`
is the player and the fish of the `doCatchFish` that waits in it. -/
structure Table where
  bWorldBossScene : Bool
  rewardPool : Int
  bSpecial : Bool
  worldBossStartTime : Int
  fishTraceHash : List FishTrace
  fishID : Nat
  flushes : Nat
  catching : Option (Nat × Nat)
  deriving DecidableEq, Repr

namespace Table

/-- `getNewFishID`. -/
def getNewFishID (t : Table) : Nat := if t.fishID + 1 > 0xffffffff then 1 else t.fishID + 1

/-- `worldBossStart`, up to the critical section. -/
def worldBossStart (t : Table) (data : BossData) (startTime : Option Int) : Table :=
  { t with fishTraceHash := [], bWorldBossScene := true, rewardPool := data.rewardPool, bSpecial := data.bSpecial,
           worldBossStartTime := startTime.getD t.worldBossStartTime, flushes := t.flushes + 1 }

/-- `_flushWorldBoss`. -/
def flushWorldBoss (t : Table) : Table :=
  { t with fishTraceHash := t.fishTraceHash ++ [⟨if t.bSpecial then 33 else 29, t.getNewFishID⟩], fishID := t.getNewFishID,
           flushes := t.flushes - 1 }

/-- `worldBossEnd`. -/
def worldBossEnd (t : Table) : Table :=
  { t with fishTraceHash := [], bWorldBossScene := false, worldBossStartTime := 0, rewardPool := 0, bSpecial := false }

/-- `onEventGameConclude`, with `cleanUp`. -/
def gameConclude (t : Table) : Table :=
  { t with fishTraceHash := [], bWorldBossScene := false, worldBossStartTime := 0, rewardPool := 0, bSpecial := false }

/-- A message to the table. `worldBossInit` starts a boss that is there already. -/
def receive (t : Table) : TableMessage → Table
  | .notifyWorldBossStart data => t.worldBossStart data none
  | .notifyWorldBossEnd => t.worldBossEnd
  | .tableStatus data => if data.status = 1 then t.worldBossStart data (some data.startTime) else t

/-- `doCatchFish` up to its wait. -/
def catchFish (t : Table) (userID fishID : Nat) : Table :=
  match t.fishTraceHash.find? fun f => f.fishID = fishID with
  | none => t
  | some f =>
    if t.bWorldBossScene ∧ (f.fishKind = 29 ∨ f.fishKind = 33) then { t with catching := some (userID, fishID) } else t

/-- `doCatchFish` after its wait: with a draw that kills the boss the fish is gone. -/
def catchEnd (t : Table) (fishID : Nat) (killed : Bool) : Table :=
  { t with catching := none
           fishTraceHash := if killed then t.fishTraceHash.filter fun f => f.fishID ≠ fishID else t.fishTraceHash }

end Table

/-- A message `killWorldBoss`: `forwarded` when the table manager has sent it on to the login server, and the
appearance in which it was sent. -/
structure Kill where
  userID : Nat
  forwarded : Bool
  appearance : Nat
  deriving DecidableEq, Repr

/-- A payment of `doCatchFish`, and the appearance in which it was made. -/
structure Pay where
  appearance : Nat
  serverID : Nat
  tableID : Nat
  userID : Nat
  addScore : Int
  deriving DecidableEq, Repr

/-- The login server, the game servers with their tables, the messages on their way and the payments so far. The messages
from the login server are in `ls.sent`. -/
structure World where
  ls : State
  managers : Nat → Manager
  tables : Nat → Nat → Table
  toTable : List ((Nat × Nat) × TableMessage)
  kills : List Kill
  pays : List Pay

namespace World

/-- Before the first message. -/
def init : World :=
  { ls := State.init
    managers := fun _ => ⟨0, 0, 0, false, [], fun _ => false⟩
    tables := fun _ _ => ⟨false, 0, false, 0, [], 0, 0, none⟩
    toTable := []
    kills := []
    pays := [] }

def setManager (w : World) (serverID : Nat) (m : Manager) : World :=
  { w with managers := Function.update w.managers serverID m }

def setTable (w : World) (serverID tableID : Nat) (t : Table) : World :=
  { w with tables := Function.update w.tables serverID (Function.update (w.tables serverID) tableID t) }

/-- A message to every table of a game server that has started. -/
def notifyTables (w : World) (serverID : Nat) (message : TableMessage) : World :=
  let started := (w.managers serverID).tableHash.filter fun tableID => (w.managers serverID).isStarted tableID
  { w with toTable := w.toTable ++ started.map fun tableID => ((serverID, tableID), message) }

end World

/-- `_data` of a table manager. -/
def Manager.data (m : Manager) : BossData := ⟨m.status, m.rewardPool, m.startTime, m.bSpecial⟩

/-- `cmd_NotifyWorldBossStartOrEnd`. -/
def notifyWorldBossStartOrEnd (w : World) (serverID : Nat) (info : Info) (now : Int) : World :=
  let m := w.managers serverID
  if info.status = 1 then
    let m := { m with status := 1, startTime := now, rewardPool := info.poolScore, bSpecial := info.bSpecial }
    (w.setManager serverID m).notifyTables serverID (.notifyWorldBossStart m.data)
  else if info.status = 2 then
    (w.setManager serverID { m with status := 0, bSpecial := false }).notifyTables serverID .notifyWorldBossEnd
  else w

/-- `initFunc` of a table manager, with the answer of `GetWorldBossInfo`. -/
def managerInit (w : World) (serverID : Nat) (tableHash : List Nat) : World :=
  w.setManager serverID ⟨w.ls.status, w.ls.poolScore, w.ls.startTime, false, tableHash, fun _ => false⟩

/-- The end of `doCatchFish`: the boss pays the reward pool of the table, and the kill is sent. -/
def catchEnd (w : World) (serverID tableID userID fishID : Nat) (killed : Bool) : World :=
  let t := w.tables serverID tableID
  let w := w.setTable serverID tableID (t.catchEnd fishID killed)
  if killed then
    { w with
      pays := ⟨w.ls.startCount, serverID, tableID, userID, t.rewardPool⟩ :: w.pays
      kills := w.kills ++ [⟨userID, false, w.ls.startCount⟩] }
  else w

/-- What happens next. `ls` is a step of the login server other than a kill, `uploaded` the answer to
`uploadWorldBossPoolAdd`, and `clearTrace` the timers that remove old fish. -/
inductive WorldLabel where
  | ls (l : Label)
  | forwardKill (k : Nat)
  | killWorldBoss (k : Nat) (now : Int)
  | notifyWorldBossStartOrEnd (k : Nat) (now : Int)
  | lose (k : Nat)
  | managerInit (serverID : Nat) (tableHash : List Nat)
  | tableStateChange (serverID tableID : Nat) (isStarted : Bool)
  | uploaded (serverID : Nat) (poolScore : Int)
  | getTableStatus (serverID tableID : Nat)
  | receive (k : Nat)
  | flushWorldBoss (serverID tableID : Nat)
  | clearTrace (serverID tableID : Nat)
  | gameConclude (serverID tableID : Nat)
  | catchFish (serverID tableID userID fishID : Nat)
  | catchEnd (serverID tableID : Nat) (killed : Bool)
  deriving DecidableEq, Repr

/-- One label. -/
def worldStep (w : World) : WorldLabel → Option World
  | .ls (.killWorldBoss _ _) => none
  | .ls l => (step w.ls l).map fun ls => { w with ls := ls }
  | .forwardKill k => w.kills[k]?.map fun kill => { w with kills := w.kills.set k { kill with forwarded := true } }
  | .killWorldBoss k now =>
    match w.kills[k]? with
    | none => none
    | some kill =>
      if kill.forwarded then some { w with ls := killWorldBoss w.ls kill.userID now, kills := w.kills.eraseIdx k } else none
  | .notifyWorldBossStartOrEnd k now =>
    w.ls.sent[k]?.map fun m =>
      notifyWorldBossStartOrEnd { w with ls := { w.ls with sent := w.ls.sent.eraseIdx k } } m.1 m.2 now
  | .lose k => some { w with ls := { w.ls with sent := w.ls.sent.eraseIdx k } }
  | .managerInit serverID tableHash => some (managerInit w serverID tableHash)
  | .tableStateChange serverID tableID isStarted =>
    let m := w.managers serverID
    some (w.setManager serverID { m with isStarted := Function.update m.isStarted tableID isStarted })
  | .uploaded serverID poolScore => some (w.setManager serverID { w.managers serverID with rewardPool := poolScore })
  | .getTableStatus serverID tableID =>
    some { w with toTable := w.toTable ++ [((serverID, tableID), .tableStatus (w.managers serverID).data)] }
  | .receive k =>
    w.toTable[k]?.map fun m =>
      { w with toTable := w.toTable.eraseIdx k }.setTable m.1.1 m.1.2 ((w.tables m.1.1 m.1.2).receive m.2)
  | .flushWorldBoss serverID tableID =>
    let t := w.tables serverID tableID
    if t.catching = none ∧ 0 < t.flushes then some (w.setTable serverID tableID t.flushWorldBoss) else none
  | .clearTrace serverID tableID => some (w.setTable serverID tableID { w.tables serverID tableID with fishTraceHash := [] })
  | .gameConclude serverID tableID => some (w.setTable serverID tableID (w.tables serverID tableID).gameConclude)
  | .catchFish serverID tableID userID fishID =>
    let t := w.tables serverID tableID
    if t.catching = none then some (w.setTable serverID tableID (t.catchFish userID fishID)) else none
  | .catchEnd serverID tableID killed =>
    (w.tables serverID tableID).catching.map fun c => catchEnd w serverID tableID c.1 c.2 killed

end SasyServer.WorldBoss
