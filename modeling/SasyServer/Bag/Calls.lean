import Mathlib.Logic.Function.Basic
import SasyServer.Bag.Service
import SasyServer.Bag.Spending
import SasyServer.Lib.Attempt

/-!
# Whole calls of the bag service of a game server

`service/gameServer/GS_model_bag.lua`, for one user whose bag is loaded, when nothing else happens to the bag while
a call waits. A call is made at one moment. What the other services answer during it is given, and an error leaves
what has been done so far.

Of what is sent to the database only the `EndTime` of an item is kept, the last one sent, and of what is sent to the client
the entries that `cmd_GoodsInfo` reports, the newest first.
-/

namespace SasyServer.BagCall

open Bag (Goods ItemSystemType Report)

/-- The bag of the user, the `score` of the user's record, the last `EndTime` of each item, and the reports. -/
structure UserBag where
  goods : List Goods
  score : Int
  endTimes : Nat → Int
  reports : List Report

/-- What a call is answered: the user's record, its agent, the address of the user's table. -/
structure Answers where
  userFound : Bool
  hasAgent : Bool
  tableFound : Bool
  now : Int
  deriving DecidableEq, Repr

/-- The user's record is found and has an agent. -/
def Answers.online (a : Answers) : Bool := a.userFound && a.hasAgent

/-- The errors: a timed item without an `endTime`, and a user without a table. -/
inductive Failure where
  | endTime | table
  deriving DecidableEq, Repr

def UserBag.sendEndTime (b : UserBag) (goodsID : Nat) (endTime : Int) : UserBag :=
  { b with endTimes := Function.update b.endTimes goodsID endTime }

/-- The first entry of an item. -/
def UserBag.find (b : UserBag) (goodsID : Nat) : Option Goods := Bag.findGoods b.goods goodsID

/-- An entry that has changed. -/
def UserBag.set (b : UserBag) (w : Goods) : UserBag := { b with goods := Bag.setGoods b.goods w }

/-- `AddItemToBag`. -/
def addItemToBag (b : UserBag) (goodsID : Nat) (goodsCount now : Int) : UserBag :=
  let item := Goods.added goodsID goodsCount
  { b with goods := b.goods ++ [item] }.sendEndTime goodsID (if item.useTime ≠ 0 then now + item.useTime else 0)

/-- `cmd_GoodsInfo`. -/
def goodsInfo (b : UserBag) (goodsID : Nat) (a : Answers) : Attempt UserBag Failure :=
  if a.online then
    match b.find goodsID with
    | none => .ok b
    | some v =>
      match v.info a.now with
      | none => .fail b .endTime
      | some (w, cleared) =>
        let b := b.set w
        let b := if cleared then b.sendEndTime goodsID 0 else b
        .ok { b with reports := ⟨v, w, a.now⟩ :: b.reports }
  else .ok b

/-- The `EndTime` of a cannon or a time card is sent, unless time cards are taken. -/
def sendsEndTime (goodsID : Nat) (goodsCount : Int) : Bool :=
  (Bag.checkIsPaoTaiItem goodsID || Bag.checkIsTimeCardItem goodsID) &&
    !(Bag.checkIsTimeCardItem goodsID && decide (goodsCount < 0))

/-- `cmd_ChangeItemCount`, without the notification. -/
def changeEntry (b : UserBag) (goodsID : Nat) (goodsCount : Int) (fromWhere : ItemSystemType) (bReset : Bool)
    (now : Int) : UserBag :=
  match b.find goodsID with
  | none => addItemToBag b goodsID goodsCount now
  | some v =>
    let w := v.change goodsCount fromWhere bReset now
    let b := b.set w
    if sendsEndTime goodsID goodsCount then b.sendEndTime goodsID (w.endTime.getD 0) else b

/-- `cmd_ChangeItemCount`. The record it writes at its end is left out. -/
def changeItemCount (b : UserBag) (goodsID : Nat) (goodsCount : Int) (fromWhere : ItemSystemType) (bNeedNotify bReset : Bool)
    (a : Answers) :
    Attempt UserBag Failure :=
  let b := changeEntry b goodsID goodsCount fromWhere bReset a.now
  if bNeedNotify then goodsInfo b goodsID a else .ok b

/-- An item of the list in the second loop of `CheckItemAndComsume`: gold is taken from the score of the user's record as
well, and the table is told. -/
def comsumeItem (fromWhere : ItemSystemType) (a : Answers) (b : UserBag) (v : Nat × Int) : Attempt UserBag Failure :=
  match b.find v.1 with
  | none => .ok b
  | some _ =>
    if v.1 = Bag.itemIdGold then
      if ¬a.userFound then .ok b
      else
        let b := { b with score := b.score - v.2 }
        if a.tableFound then changeItemCount b v.1 (-v.2) fromWhere true false a else .fail b .table
    else changeItemCount b v.1 (-v.2) fromWhere true false a

/-- `CheckItemAndComsume`, and what it returns if it comes to its end. -/
def checkItemAndComsume (b : UserBag) (itemlist : List (Nat × Int)) (fromWhere : ItemSystemType) (a : Answers) :
    Attempt UserBag Failure × Bool :=
  if Spending.checkItem b.goods itemlist then (Attempt.forEach (comsumeItem fromWhere a) itemlist b, true)
  else (.ok b, false)

/-- `cmd_LoadUserItem`: the rows of the bag as pairs of an item and its count, with the `EndTime` that was last sent. The
score of the user's record becomes the count of the gold. -/
def loadUserItem (b : UserBag) (rows : List (Nat × Int)) (now : Int) : UserBag :=
  let goods := rows.map fun r => Bag.loadRow now r.1 r.2 (b.endTimes r.1)
  { b with
    goods := goods
    score := ((goods.find? fun v => v.goodsID = Bag.itemIdGold).map Goods.goodsCount).getD b.score
    endTimes := fun goodsID => if goodsID ∈ rows.map Prod.fst ∧ b.endTimes goodsID ≤ now then 0 else b.endTimes goodsID }

/-! ## Sequences of calls -/

/-- A call. An addition of an item is a change of an item the bag has no entry of. -/
inductive Call where
  | loadUserItem (rows : List (Nat × Int)) (now : Int)
  | changeItemCount (goodsID : Nat) (goodsCount : Int) (fromWhere : ItemSystemType) (bNeedNotify bReset : Bool) (a : Answers)
  | goodsInfo (goodsID : Nat) (a : Answers)
  deriving DecidableEq, Repr

def Call.now : Call → Int
  | .loadUserItem _ now => now
  | .changeItemCount _ _ _ _ _ a | .goodsInfo _ a => a.now

/-- The rows of a bag have different items. -/
def Call.keyed : Call → Bool
  | .loadUserItem rows _ => (rows.map Prod.fst).Nodup
  | _ => true

def Call.run (b : UserBag) : Call → Attempt UserBag Failure
  | .loadUserItem rows now => .ok (BagCall.loadUserItem b rows now)
  | .changeItemCount goodsID goodsCount fromWhere bNeedNotify bReset a =>
    BagCall.changeItemCount b goodsID goodsCount fromWhere bNeedNotify bReset a
  | .goodsInfo goodsID a => BagCall.goodsInfo b goodsID a

/-- The bag, the errors so far, and the moment of the last call. -/
structure Service where
  bag : UserBag
  failures : List Failure
  now : Int

/-- One call. The moments do not go back. -/
def step (s : Service) (c : Call) : Option Service :=
  if s.now ≤ c.now ∧ c.keyed then some ⟨(c.run s.bag).state, (c.run s.bag).failure.toList ++ s.failures, c.now⟩ else none

end SasyServer.BagCall
