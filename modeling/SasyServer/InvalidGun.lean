import Mathlib.Data.List.Basic

/-!
# The invalid shots of a user

`service/gameServer/GS_model_invalidGun.lua`: the shots that have hit nothing are counted with the gold they have cost, and
paid out to a user who has been online for long enough. `timeCount` is in seconds.
-/

namespace SasyServer.InvalidGun

/-- An item of `_invalidGunHash`. `lastTime` is the moment of the last pay-out, 0 before the first. -/
structure Info where
  timeCount : Int
  gunCount : Int
  gold : Int
  iFishCount : Int
  lastTime : Int
  deriving DecidableEq, Repr

/-- `LoadData`, with the columns of the row if there is one. -/
def loadData : Option (Int × Int × Int × Int) → Info
  | none => ⟨0, 0, 0, 0, 0⟩
  | some (timeCount, gunCount, gold, fishCount) => ⟨timeCount, gunCount, gold, fishCount, 0⟩

/-- `timeCount` and the time since the last pay-out or the login. -/
def Info.timeUntil (info : Info) (logonTime now : Int) : Int :=
  if info.lastTime ≠ 0 then info.timeCount + now - info.lastTime else info.timeCount + now - logonTime

/-- `SaveData`, which writes what it leaves. -/
def saveData (info : Info) (logonTime now : Int) : Info := { info with timeCount := info.timeUntil logonTime now }

/-- `AddInvalidGunData`. -/
def addInvalidGunData (info : Info) (score : Int) : Info :=
  { info with gunCount := info.gunCount + 1, gold := info.gold + score }

/-- The user has been online for five minutes, and has missed thirty times. -/
def isDue (info : Info) (logonTime now : Int) : Bool := info.timeUntil logonTime now ≥ 5 * 60 ∧ info.gunCount ≥ 30

/-- `CheckInvalidGun` pays out: the thirtieth time, or with luck before. -/
def paysOut (info : Info) (logonTime now iRate : Int) : Bool :=
  isDue info logonTime now ∧ (info.iFishCount + 1 ≥ 30 ∨ iRate ≤ 60)

/-- `CheckInvalidGun`, and the gold it gives. -/
def checkInvalidGun (info : Info) (logonTime now iRate : Int) : Info × Int :=
  if paysOut info logonTime now iRate then (⟨0, 0, 0, 0, now⟩, info.gold)
  else if isDue info logonTime now then ({ info with iFishCount := info.iFishCount + 1 }, 0)
  else (info, 0)

end SasyServer.InvalidGun
