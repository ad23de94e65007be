import Mathlib.Data.List.Basic
import Mathlib.Data.Int.Notation

/-!
# The entries of a bag

`lualib/define/commonConst.lua` (item ids and times) and the part of `cmd_ChangeItemCount` of
`service/gameServer/GS_model_bag.lua` that changes an entry. Times are in seconds. The fields of an entry that only
describe the item to the client (`isGive`, `isUse`, `isCompositing`, `needGoodsItem`, `getGoodsItem`,
`equipGoodsID`, `useType`) are left out.
-/

namespace SasyServer.Bag

/-- `ITEM_SYSTEM_TYPE`: where a change of an item comes from. -/
inductive ItemSystemType where
  | byUse | byGive | byCompose | rewardGoldFish | gunUpLevel | exchange | payAdd | signIn | rescueCoin | bugGoods | byEuqip
  | useChangeName | messageBoard | emailReward | getFreeScore | getVipScore | byChangScoreApi | byFish | byTask |
    byNiuniubattle
  | byAndroid | byDropBox | byHuoDong | byHuoDongReward | emailRewardUser | byFlyBirdRM | byChangeGold | byFromLs
  deriving DecidableEq, Repr

def itemIdGold : Nat := 1001
def itemIdJewel : Nat := 1002
def itemIdFish : Nat := 1003
def itemIdPaoTai1 : Nat := 1014
def itemIdPaoTai2 : Nat := 1016
def itemIdComposeCard1 : Nat := 1020
def itemIdComposeCard2 : Nat := 1021
def itemIdSpecCannon1 : Nat := 1027
def itemIdSpecCannon2 : Nat := 1028

def paoTaiUseTime : Int := 24 * 60 * 60 * 3
def specCannonTime : Int := 24 * 60 * 60
def timeCardUseTime : Int := 6 * 60 * 60

/-- `CheckIsTimeCardItem`. -/
def checkIsTimeCardItem (itemId : Nat) : Bool := itemId = itemIdComposeCard1 ∨ itemId = itemIdComposeCard2

/-- `CheckIsPaoTaiItem`. -/
def checkIsPaoTaiItem (itemId : Nat) : Bool := itemIdPaoTai1 ≤ itemId ∧ itemId ≤ itemIdPaoTai2

/-- `CheckIsSpecCannonItem`. -/
def checkIsSpecCannonItem (itemId : Nat) : Bool := itemIdSpecCannon1 ≤ itemId ∧ itemId ≤ itemIdSpecCannon2

/-- The items that are none of the three timed kinds. -/
def isOrdinary (itemId : Nat) : Bool :=
  !checkIsTimeCardItem itemId && !checkIsPaoTaiItem itemId && !checkIsSpecCannonItem itemId

/-- `IsOperatorByLoginServer`: changes that the login server has already written. -/
def isOperatorByLoginServer : ItemSystemType → Bool
  | .payAdd | .rescueCoin | .useChangeName | .byFromLs => true
  | _ => false

/-- An entry of a bag. -/
structure Goods where
  goodsID : Nat
  goodsCount : Int
  oldGoodsCount : Int
  useTime : Int
  endTime : Option Int
  deriving DecidableEq, Repr

/-- The entry `AddItemToBag` inserts. It sets no `endTime`. -/
def Goods.added (goodsID : Nat) (goodsCount : Int) : Goods :=
  let useTime :=
    if checkIsSpecCannonItem goodsID ∧ goodsCount ≠ 0 then specCannonTime
    else if checkIsTimeCardItem goodsID ∧ goodsCount ≠ 0 then timeCardUseTime
    else if checkIsPaoTaiItem goodsID ∧ goodsCount ≠ 0 then paoTaiUseTime
    else 0
  ⟨goodsID, goodsCount, goodsCount, useTime, none⟩

/-- The end of the time of a cannon or a time card, after a change of its count. -/
def Goods.changeTime (v : Goods) (goodsCount now : Int) : Goods :=
  let endTime := v.endTime.getD 0
  if v.goodsCount ≤ 0 then { v with endTime := some 0 }
  else
    let useTime :=
      if checkIsTimeCardItem v.goodsID then timeCardUseTime
      else if checkIsSpecCannonItem v.goodsID then specCannonTime
      else paoTaiUseTime
    if endTime ≤ now then { v with useTime := useTime, endTime := some (now + useTime) }
    else if checkIsTimeCardItem v.goodsID then
      if goodsCount > 0 then { v with useTime := useTime, endTime := some (now + useTime) }
      else { v with endTime := some endTime }
    else { v with useTime := endTime - now + useTime, endTime := some (endTime + useTime) }

/-- What `cmd_ChangeItemCount` does to the entry it finds. -/
def Goods.change (v : Goods) (goodsCount : Int) (fromWhere : ItemSystemType) (bReset : Bool) (now : Int) : Goods :=
  let v := { v with goodsCount := if bReset then goodsCount else v.goodsCount + goodsCount }
  let v := if isOperatorByLoginServer fromWhere then { v with oldGoodsCount := v.oldGoodsCount + goodsCount } else v
  let v :=
    if checkIsPaoTaiItem v.goodsID then
      if goodsCount > 0 then { v with goodsCount := 1 } else { v with goodsCount := 0, useTime := 0 }
    else v
  let v := if v.goodsCount < 0 then { v with goodsCount := 0 } else v
  if checkIsPaoTaiItem v.goodsID ∨ checkIsTimeCardItem v.goodsID then v.changeTime goodsCount now else v

/-- The expiry in `cmd_GoodsInfo`; the flag says whether the row in the database is to be cleared. A missing `endTime` is an
error there. -/
def Goods.info (v : Goods) (now : Int) : Option (Goods × Bool) :=
  if ¬isOrdinary v.goodsID ∧ v.useTime ≠ 0 then
    match v.endTime with
    | none => none
    | some endTime =>
      if endTime ≤ now then some (⟨v.goodsID, 0, 0, 0, some 0⟩, true) else some ({ v with useTime := endTime - now }, false)
  else some (v, false)

/-- An entry that `cmd_GoodsInfo` has reported to the client: as it has been found, as it has been sent, and when. -/
structure Report where
  found : Goods
  sent : Goods
  now : Int
  deriving DecidableEq, Repr

/-- `cmd_GetItemCount` on a list. -/
def getItemCount (list : List Goods) (goodsID : Nat) : Int :=
  ((list.find? fun v => v.goodsID = goodsID).map Goods.goodsCount).getD 0

/-- The loop of `cmd_ChangeItemCount`: the first entry of the item is changed. `none` if there is none. -/
def changeFirst (goodsID : Nat) (f : Goods → Goods) : List Goods → Option (List Goods)
  | [] => none
  | v :: list => if v.goodsID = goodsID then some (f v :: list) else (changeFirst goodsID f list).map (v :: ·)

/-- The first entry of an item. -/
def findGoods (list : List Goods) (goodsID : Nat) : Option Goods := list.find? fun v => v.goodsID = goodsID

/-- The first entry of the item of `w` becomes `w`. -/
def setGoods (list : List Goods) (w : Goods) : List Goods := (changeFirst w.goodsID (fun _ => w) list).getD list

end SasyServer.Bag
