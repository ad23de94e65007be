import SasyServer.Table.Gold

/-!
# The refunds of a world boss

The three ways in which a seated player gets back the price of the shots at a world boss: `sendWorldBossInvalidGold` at
the end of `worldBossEnd`, `SaveInvalidGunGold` when the user goes offline, and `SaveInvalidGunGold` at the beginning
of `onActionUserStandUp`.

The seat is that of `Table.Gold`. There `worldBossEnd` is one step; here it waits, in `_onTimerEndScene`, between the end of
the scene and the refund, outside of the critical section. `standUp` holds the critical section until the player has left:
`calcScore` and the services it asks make it wait after the refund.
-/

namespace SasyServer.Table

/-- Where the player is. -/
inductive Standing where
  | seated
  | standingUp
  | stoodUp
  deriving DecidableEq, Repr

/-- A player at the table. `ends` counts the `worldBossEnd` that wait. -/
structure BossSeat where
  seat : Seat
  standing : Standing
  ends : Nat

/-- A player who has sat down. -/
def BossSeat.sitDown (s : Seat) : BossSeat := ⟨onActionUserSitDown s, .seated, 0⟩

/-- `sendWorldBossInvalidGold`, for the game data of the player, if there still are any. -/
def sendWorldBossInvalidGold (s : BossSeat) : BossSeat :=
  if s.standing = .stoodUp then s else { s with seat := refund s.seat true }

/-- `cmd_SaveInvalidGunGold`; without game data it is an error. -/
def cmdSaveInvalidGunGold (s : BossSeat) : BossSeat :=
  if s.standing = .stoodUp then s else { s with seat := saveInvalidGunGold s.seat }

/-- A label of the seat that needs its game data or the critical section. -/
def needsSeated : Label → Bool
  | .userFire _ | .catchSweepFish _ _ _ _ | .proceed | .scoreLock _ | .sweepFish _ => true
  | _ => false

/-- What happens next. `seat` is a label of the seat, but for the two that are here in steps of their own. -/
inductive BossSeatLabel where
  | seat (l : Label)
  | worldBossEnd
  | sendWorldBossInvalidGold
  | saveInvalidGunGold
  | standUp
  | stoodUp

/-- One label. -/
def bossSeatStep (cfg : CannonMultiple) (s : BossSeat) : BossSeatLabel → Option BossSeat
  | .seat .worldBossEnd | .seat .saveInvalidGunGold => none
  | .seat l =>
    if needsSeated l ∧ s.standing ≠ .seated then none else (step cfg s.seat l).map fun seat => { s with seat := seat }
  | .worldBossEnd => some { s with seat := { s.seat with bWorldBossScene := false }, ends := s.ends + 1 }
  | .sendWorldBossInvalidGold => if 0 < s.ends then some (sendWorldBossInvalidGold { s with ends := s.ends - 1 }) else none
  | .saveInvalidGunGold => some (cmdSaveInvalidGunGold s)
  | .standUp =>
    if s.standing = .seated ∧
      s.seat.work = none then some { s with seat := saveInvalidGunGold s.seat, standing := .standingUp } else none
  | .stoodUp => if s.standing = .standingUp then some { s with standing := .stoodUp } else none

end SasyServer.Table
