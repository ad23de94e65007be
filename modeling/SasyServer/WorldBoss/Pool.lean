import Mathlib.Algebra.BigOperators.Fin
import Mathlib.Algebra.Field.Rat
import Mathlib.Algebra.Order.Ring.NNRat
import SasyServer.WorldBoss.Tables

/-!
# The way of the missed shots into the pool of the world boss

The part of `tableFrameSink.lua` and of `GS_model_tableManager.lua` that collects four per cent of each missed shot in the
table, sends what a table has to the table manager and passes on what the manager has to the login server, for the tables of
one game server. The scenes of the tables, the data of the manager and the login server are those of `World`.

The numbers are exact. A shot is one of a player who is not an android, which `pbBigNetCatchFish` looks at only then.
`initFunc` has asked for the address of the login server before it sets the timer of `uploadWorldBossPoolAdd`.
-/

namespace SasyServer.WorldBoss

/-- The game server `serverID` in the world, with `n` tables. `passed` and `contributed` are not in the code: what has been
passed to `addWorldBossPoolScore`, and what the shots have contributed. -/
structure Pools (n : Nat) where
  world : World
  /-- `m_iWorldBossLocalPool` of the tables. -/
  tablePool : Fin n → ℚ≥0
  /-- The messages `addWorldBossLocalPool` on their way. -/
  messages : List ℚ≥0
  localPool : ℚ≥0
  /-- The calls of `addWorldBossPoolScore` on their way. -/
  calls : List ℚ≥0
  passed : ℚ≥0
  contributed : ℚ≥0

namespace Pools

variable {n : Nat}

/-- Before the first shot. -/
def init (n : Nat) (world : World) : Pools n := ⟨world, fun _ => 0, [], 0, [], 0, 0⟩

/-- The end of `pbBigNetCatchFish` for a shot that has hit nothing. -/
def missedShot (s : Pools n) (serverID : Nat) (tableID : Fin n) (multiple : Nat) : Pools n :=
  if (s.world.tables serverID tableID).bWorldBossScene then s
  else
    { s with
      tablePool := Function.update s.tablePool tableID (s.tablePool tableID + multiple * (4 / 100))
      contributed := s.contributed + multiple * (4 / 100) }

/-- `_onTimerUploadWorldBossPollScore`. -/
def onTimerUploadWorldBossPollScore (s : Pools n) (serverID : Nat) (tableID : Fin n) : Pools n :=
  if (s.world.tables serverID tableID).bWorldBossScene then s
  else if s.tablePool tableID > 0 then
    { s with
      tablePool := Function.update s.tablePool tableID 0
      messages := s.messages ++ [s.tablePool tableID] }
  else s

/-- `cmd_addWorldBossLocalPool`. -/
def addWorldBossLocalPool (s : Pools n) (num : ℚ≥0) : Pools n := { s with localPool := s.localPool + num }

/-- `uploadWorldBossPoolAdd`, up to the answer. -/
def uploadWorldBossPoolAdd (s : Pools n) (serverID : Nat) : Pools n :=
  if (s.world.managers serverID).bSpecial then s
  else if s.localPool > 0 then
    { s with
      localPool := 0
      calls := s.calls ++ [s.localPool]
      passed := s.passed + s.localPool }
  else s

/-- What `cleanUp` does to the pool of a table whose game is concluded. -/
def cleanUp (s : Pools n) (tableID : Nat) : Pools n :=
  { s with tablePool := fun i => if i = tableID then 0 else s.tablePool i }

end Pools

/-- What happens next. `world` is a step of the world, among them the starts and ends of the boss and
the conclusions of games. -/
inductive PoolLabel (n : Nat) where
  | world (l : WorldLabel)
  | missedShot (tableID : Fin n) (multiple : Nat)
  | uploadTimer (tableID : Fin n)
  | addWorldBossLocalPool (k : Nat)
  | uploadWorldBossPoolAdd
  | addWorldBossPoolScore (k : Nat) (c : Clock)
  deriving DecidableEq, Repr

/-- One label. -/
def poolStep {n : Nat} (serverID : Nat) (s : Pools n) : PoolLabel n → Option (Pools n)
  | .world l =>
    (worldStep s.world l).map fun w =>
      match l with
      | .gameConclude server tableID =>
        if server = serverID then { s with world := w }.cleanUp tableID else { s with world := w }
      | _ => { s with world := w }
  | .missedShot tableID multiple => some (s.missedShot serverID tableID multiple)
  | .uploadTimer tableID => some (s.onTimerUploadWorldBossPollScore serverID tableID)
  | .addWorldBossLocalPool k =>
    s.messages[k]?.map fun num => { s with messages := s.messages.eraseIdx k }.addWorldBossLocalPool num
  | .uploadWorldBossPoolAdd => some (s.uploadWorldBossPoolAdd serverID)
  | .addWorldBossPoolScore k c =>
    s.calls[k]?.bind fun score =>
      (worldStep s.world (.ls (.addWorldBossPoolScore (score : ℚ).floor c))).map fun w =>
        { s with world := w, calls := s.calls.eraseIdx k }

end SasyServer.WorldBoss
