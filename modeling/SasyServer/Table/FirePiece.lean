import Mathlib.Data.Rat.Floor
import SasyServer.OperatorLimit
import SasyServer.Table.FishTraces

/-!
# The pieces a fire cannon drops

The end of `doCatchFish` in `comprise/testGame/lualib/tableFrameSink.lua`: a user with the fire cannon may get fire pieces
for a fish that has been caught. They are paid for by a pool of the user's own, and when that is empty by the allowance for
boxes. Both are counters of `GS_model_operatorLimit`; the table asks for them and then sends the charge to the same service,
which handles the messages of the table in the order in which they were sent. Nothing else charges these two for a user
between a question and the charge.
-/

namespace SasyServer.Table

open Catch (isRewardGoldFish)
open OperatorLimit (OpLimitHash getLimitCount addLimit opLimitIdPaoTaiLv opLimitIdFirePiece opLimitIdBoxDropValue)

def cannonFire : Int := 13

/-- `isBossFish`. -/
def isBossFish (kindId : Nat) : Bool := kindId = 20 ∨ kindId = 27 ∨ kindId = 28

/-- `iMaxBoxDropValue`: what the allowance for boxes has left. -/
def iMaxBoxDropValue (contribution nowBoxValue : Int) : ℚ :=
  if contribution - 200 > 0 then 40 - nowBoxValue + (contribution - 200) * 0.2 else 40 - nowBoxValue

/-- The pieces that are sent to the bag, and the `AddLimit` that is sent for them. -/
structure FirePieceDrop where
  goodsCount : Int
  limitId : Nat
  limitCount : Int
  deriving DecidableEq, Repr

/-- The drop of a catch. `iRandRate` is the draw from 1 to 100. -/
def firePieceDrop (opLimitHash : OpLimitHash) (userID : Nat) (contribution : Int) (fishKind : Nat)
    (iRandRate : Int) : Option FirePieceDrop :=
  if getLimitCount opLimitHash userID opLimitIdPaoTaiLv = cannonFire then
    let nowFirePieceTotal := getLimitCount opLimitHash userID opLimitIdFirePiece
    let iMaxBoxDropValue := iMaxBoxDropValue contribution (getLimitCount opLimitHash userID opLimitIdBoxDropValue)
    if nowFirePieceTotal > 0 then
      if isRewardGoldFish fishKind then
        if iRandRate < 20 then some ⟨1, opLimitIdFirePiece, -1⟩ else none
      else if isBossFish fishKind then
        let count := 2 + iRandRate % 2
        if iRandRate < 80 then
          let count := if nowFirePieceTotal < count then nowFirePieceTotal else count
          some ⟨count, opLimitIdFirePiece, count * -1⟩
        else none
      else none
    else if iMaxBoxDropValue ≥ 10 then
      if isRewardGoldFish fishKind then
        if iRandRate < 20 then some ⟨1, opLimitIdBoxDropValue, 10⟩ else none
      else if isBossFish fishKind then
        let count := 2 + iRandRate % 2
        if iRandRate < 80 then
          let count := if iMaxBoxDropValue / 10 < count then ⌈(nowFirePieceTotal : ℚ) / 10⌉ else count
          some ⟨count, opLimitIdBoxDropValue, count * 10⟩
        else none
      else none
    else none
  else none

/-- The limits when the charge has been handled. -/
def FirePieceDrop.charge (d : FirePieceDrop) (opLimitHash : OpLimitHash) (userID : Nat) (day time : Int) : OpLimitHash :=
  addLimit opLimitHash userID d.limitId d.limitCount day time

end SasyServer.Table
