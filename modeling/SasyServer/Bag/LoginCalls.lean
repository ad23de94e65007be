import SasyServer.Bag.LoginServer
import SasyServer.Bag.Spending
import SasyServer.Lib.Attempt

/-!
# Whole calls of the bag service of the login server

`service/loginServer/LS_model_bag.lua` and the procedure `sp_write_bag` of `mysql/ssfishdb.sql`, for one user whose bag is
loaded, when nothing else happens to the bag and to its rows while a call waits. A call is made at one moment. What the other
services answer during it is given, and what has been done before an error, or before a write that fails, stays.

Kept are the rows of `t_bag`, with the `EndTime` that was sent last for an item, the changes that are sent to the game server
of the user, and the entries that `cmd_GoodsInfo` reports to the client; the newest are first. The record at the end of
`cmd_ChangeItemCount` is left out.
-/

namespace SasyServer.LoginCall

open Bag (Goods ItemSystemType Report)

/-- The bag of the user. -/
structure UserBag where
  goods : List Goods
  itemCounts : Nat → Option Int
  endTimes : Nat → Int
  announced : List (Nat × Int)
  reports : List Report

/-- The user's record: the game server, if it is not 0, whether `userStatus` is `US_LS_GS`, and whether there is an agent. -/
structure LoginUser where
  serverID : Nat
  inGame : Bool
  hasAgent : Bool
  deriving DecidableEq, Repr

/-- What a call is answered. `dbError` is about a call of `sp_write_bag`, which an error in the database rolls back. -/
structure Answers where
  user : Option LoginUser
  dbError : Bool
  now : Int
  deriving DecidableEq, Repr

/-- Why a call stops: a return code of `sp_write_bag` that is not 0, or an error, of a missing
`endTime` or a missing user. -/
inductive Failure where
  | write (retCode : Int)
  | endTime
  | user
  deriving DecidableEq, Repr

namespace UserBag

def find (b : UserBag) (goodsID : Nat) : Option Goods := Bag.findGoods b.goods goodsID

/-- An entry that has changed. -/
def set (b : UserBag) (w : Goods) : UserBag := { b with goods := Bag.setGoods b.goods w }

def sendEndTime (b : UserBag) (goodsID : Nat) (endTime : Int) : UserBag :=
  { b with endTimes := Function.update b.endTimes goodsID endTime }

def setRow (b : UserBag) (goodsID : Nat) (row : Option Int) : UserBag :=
  { b with itemCounts := Function.update b.itemCounts goodsID row }

end UserBag

/-- The changes the game server is told of, unless they are handled there already. -/
def isAnnounced (user : Option LoginUser) (fromWhere : ItemSystemType) : Bool :=
  user.any fun u => u.serverID ≠ 0 && fromWhere ≠ .payAdd && fromWhere ≠ .rescueCoin && fromWhere ≠ .useChangeName

/-- `bNeedNotify`. -/
def needsNotify (user : Option LoginUser) : Bool := !user.any fun u => u.serverID ≠ 0 && u.inGame

/-- `sp_write_bag`, and its return code. -/
def writeBag (b : UserBag) (goodsID : Nat) (goodsCount : Int) (dbError : Bool) : UserBag × Int :=
  if dbError then (b, -1)
  else
    (b.setRow goodsID (LoginBag.spWriteBag (b.itemCounts goodsID) goodsCount).1,
      (LoginBag.spWriteBag (b.itemCounts goodsID) goodsCount).2)

/-- `AddItemToBag`. A second row of an item is refused. -/
def addItemToBag (b : UserBag) (goodsID : Nat) (goodsCount now : Int) : UserBag :=
  let item := LoginBag.addedGoods goodsID goodsCount
  let b := { b with goods := b.goods ++ [item] }.sendEndTime goodsID (if item.useTime ≠ 0 then now + item.useTime else 0)
  b.setRow goodsID (some ((b.itemCounts goodsID).getD goodsCount))

/-- `cmd_GoodsInfo`. A special cannon does not expire here. -/
def goodsInfo (b : UserBag) (goodsID : Nat) (a : Answers) : Attempt UserBag Failure :=
  match a.user with
  | none => .fail b .user
  | some user =>
    if ¬user.hasAgent then .ok b
    else
      match b.find goodsID with
      | none => .ok b
      | some v =>
        if Bag.checkIsPaoTaiItem goodsID ∨ Bag.checkIsTimeCardItem goodsID then
          match v.info a.now with
          | none => .fail b .endTime
          | some (w, cleared) =>
            let b := b.set w
            let b := if cleared then (b.sendEndTime goodsID 0).setRow goodsID ((b.itemCounts goodsID).map fun _ => 0) else b
            .ok { b with reports := ⟨v, w, a.now⟩ :: b.reports }
        else .ok { b with reports := ⟨v, v, a.now⟩ :: b.reports }

/-- `cmd_ChangeItemCount` once the entry is found: it is changed, and then the change is written. -/
def changeEntry (b : UserBag) (v : Goods) (goodsCount : Int) (a : Answers) : Attempt UserBag Failure :=
  let w := LoginBag.changeGoods v goodsCount
  match writeBag (b.set w) v.goodsID goodsCount a.dbError with
  | (b, retCode) =>
    if retCode ≠ 0 then .fail b (.write retCode)
    else if Bag.isOrdinary v.goodsID then .ok b
    else
      let w := w.changeTime goodsCount a.now
      let b := b.set w
      .ok (if Bag.checkIsTimeCardItem v.goodsID ∧ goodsCount < 0 then b else b.sendEndTime v.goodsID (w.endTime.getD 0))

/-- `cmd_ChangeItemCount` before the item is looked up: the game server is told. -/
def announce (b : UserBag) (goodsID : Nat) (goodsCount : Int) (fromWhere : ItemSystemType)
    (user : Option LoginUser) : UserBag :=
  if isAnnounced user fromWhere then { b with announced := (goodsID, goodsCount) :: b.announced } else b

/-- `cmd_ChangeItemCount`. -/
def changeItemCount (b : UserBag) (goodsID : Nat) (goodsCount : Int) (fromWhere : ItemSystemType)
    (a : Answers) : Attempt UserBag Failure :=
  let b := announce b goodsID goodsCount fromWhere a.user
  let change : Attempt UserBag Failure :=
    match b.find goodsID with
    | none => .ok (addItemToBag b goodsID goodsCount a.now)
    | some v => changeEntry b v goodsCount a
  change.andThen fun b => if needsNotify a.user then goodsInfo b goodsID a else .ok b

/-- A call of `cmd_ChangeItemCount` within another function, which goes on when a write has failed. -/
def returned (change : Attempt UserBag Failure) : Attempt UserBag Failure :=
  match change.failure with
  | some (.write _) => .ok change.state
  | _ => change

/-- An item of the list in the second loop of `CheckItemAndComsume`: a change for every entry of the item. -/
def comsumeItem (fromWhere : ItemSystemType) (user : Option LoginUser) (now : Int) (b : UserBag) (v : (Nat × Int) × Bool) :
    Attempt UserBag Failure :=
  Attempt.forEach (fun b _ => returned (changeItemCount b v.1.1 (-v.1.2) fromWhere ⟨user, v.2, now⟩))
    (b.goods.filter fun vv => vv.goodsID = v.1.1) b

/-- `CheckItemAndComsume`, and what it returns if it comes to its end. With each item of the list it is given whether its
write meets an error in the database. -/
def checkItemAndComsume (b : UserBag) (itemlist : List ((Nat × Int) × Bool)) (fromWhere : ItemSystemType)
    (user : Option LoginUser) (now : Int) :
    Attempt UserBag Failure × Bool :=
  if Spending.checkItem b.goods (itemlist.map Prod.fst) then
    (Attempt.forEach (comsumeItem fromWhere user now) itemlist b, true)
  else (.ok b, false)

/-- The row of a bag as `cmd_LoadUserItem` reads it: an item that has expired, or of which nothing is left, is cleared, and
there is one special cannon at most. -/
def loadRow (now : Int) (goodsID : Nat) (itemCount endTime : Int) : Goods :=
  let item : Goods :=
    if endTime ≠ 0 then
      if endTime ≤ now ∨ itemCount = 0 then ⟨goodsID, 0, 0, 0, some 0⟩
      else ⟨goodsID, itemCount, itemCount, endTime - now, some endTime⟩
    else ⟨goodsID, itemCount, itemCount, endTime, some endTime⟩
  if Bag.checkIsSpecCannonItem goodsID ∧ item.goodsCount > 0 then { item with goodsCount := 1, oldGoodsCount := 1 } else item

/-- `cmd_LoadUserItem`: the rows as pairs of an item and its count, with the `EndTime` that was last sent. The items of the
configuration that have no row are added, with a count of 0. -/
def loadUserItem (b : UserBag) (rows : List (Nat × Int)) (itemInfoConfig : List Nat) (now : Int) : UserBag :=
  let cleared := fun r : Nat × Int => b.endTimes r.1 ≠ 0 ∧ (b.endTimes r.1 ≤ now ∨ r.2 = 0)
  let loaded : UserBag :=
    { b with
      goods := rows.map fun r => loadRow now r.1 r.2 (b.endTimes r.1)
      itemCounts := fun goodsID => (rows.find? fun r => r.1 = goodsID).map fun r => if cleared r then 0 else r.2
      endTimes := fun goodsID =>
        if (rows.find? fun r => r.1 = goodsID).any fun r => cleared r then 0 else b.endTimes goodsID }
  itemInfoConfig.foldl (fun b goodsID => if (b.find goodsID).isSome then b else addItemToBag b goodsID 0 now) loaded

/-! ## Sequences of calls -/

/-- A call. An addition of an item is a change of an item the bag has no entry of. -/
inductive Call where
  | loadUserItem (rows : List (Nat × Int)) (itemInfoConfig : List Nat) (now : Int)
  | changeItemCount (goodsID : Nat) (goodsCount : Int) (fromWhere : ItemSystemType) (a : Answers)
  | goodsInfo (goodsID : Nat) (a : Answers)
  deriving DecidableEq, Repr

def Call.now : Call → Int
  | .loadUserItem _ _ now => now
  | .changeItemCount _ _ _ a | .goodsInfo _ a => a.now

/-- The rows of a bag have different items. -/
def Call.keyed : Call → Bool
  | .loadUserItem rows _ _ => (rows.map Prod.fst).Nodup
  | _ => true

def Call.run (b : UserBag) : Call → Attempt UserBag Failure
  | .loadUserItem rows itemInfoConfig now => .ok (LoginCall.loadUserItem b rows itemInfoConfig now)
  | .changeItemCount goodsID goodsCount fromWhere a => LoginCall.changeItemCount b goodsID goodsCount fromWhere a
  | .goodsInfo goodsID a => LoginCall.goodsInfo b goodsID a

/-- The bag, the errors so far, and the moment of the last call. -/
structure Service where
  bag : UserBag
  failures : List Failure
  now : Int

/-- One call. The moments do not go back. -/
def step (s : Service) (c : Call) : Option Service :=
  if s.now ≤ c.now ∧ c.keyed then some ⟨(c.run s.bag).state, (c.run s.bag).failure.toList ++ s.failures, c.now⟩ else none

end SasyServer.LoginCall
