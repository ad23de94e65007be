import Mathlib.Logic.Function.Basic
import SasyServer.Bag.Goods
import SasyServer.Lib.Steps

/-!
# The bag service of the login server

`service/loginServer/LS_model_bag.lua`: `cmd_ChangeItemCount`, `AddItemToBag`, `cmd_OffsetGoodsInfo` and the expiry in
`cmd_GoodsInfo`, with the column `ItemCount` of `t_bag` and the procedure `sp_write_bag` of `mysql/ssfishdb.sql`. Unlike the
service of a game server it writes every change to the database at once. An entry is never removed from its list, so a
position stands for the entry a loop variable refers to.

A handler that waits is a `Thread`, and so is an `insert` statement that has been sent: the connections of the pool take
statements independently of each other. A wait for a connection is part of the wait for the statement. Left out are the test
mode, what is sent to clients and, for a user who is in a game as well, to the game server, the records of `t_item_record`,
and the column `EndTime`.
-/

namespace SasyServer.LoginBag

open SasyServer.Bag

/-- The arguments of `cmd_ChangeItemCount`. -/
structure Change where
  userID : Nat
  goodsID : Nat
  goodsCount : Int
  deriving DecidableEq, Repr

/-- A handler that waits: `change` for the user's record, `write` for `sp_write_bag`, `add` for the configuration of an item,
`offset` for `sp_write_bag` in the loop of `cmd_OffsetGoodsInfo`, `info` for the user's record in `cmd_GoodsInfo`; `insert`
is the statement that `AddItemToBag` sends. -/
inductive Thread where
  | change (c : Change)
  | write (c : Change) (position : Nat)
  | add (c : Change)
  | insert (c : Change)
  | offset (userID goodsID itemCount : Nat) (rest : List (Nat × Int))
  | info (userID goodsID : Nat)
  deriving DecidableEq, Repr

/-- The service, the rows of `t_bag`, and the messages the service has sent to itself. -/
structure State where
  hash : Nat → Option (List Goods)
  tBag : Nat → Nat → Option Int
  messages : List Change
  suspended : List Thread

namespace State

def suspend (s : State) (t : Thread) : State := { s with suspended := s.suspended ++ [t] }

def setList (s : State) (userID : Nat) (list : List Goods) : State :=
  { s with hash := Function.update s.hash userID (some list) }

def setRow (s : State) (userID goodsID : Nat) (row : Option Int) : State :=
  { s with tBag := Function.update s.tBag userID (Function.update (s.tBag userID) goodsID row) }

end State

/-- `sp_write_bag` on the row of an item, and its return code. A row that is not there stays so, without an error. -/
def spWriteBag (row : Option Int) (inGoodsCount : Int) : Option Int × Int :=
  match row with
  | none => (none, 0)
  | some itemCount => if itemCount + inGoodsCount < 0 then (some 0, -2) else (some (itemCount + inGoodsCount), 0)

/-- A call of `sp_write_bag`, which an error in the database rolls back. -/
def callWriteBag (s : State) (userID goodsID : Nat) (inGoodsCount : Int) (dbError : Bool) : State × Int :=
  if dbError then (s, -1)
  else (s.setRow userID goodsID (spWriteBag (s.tBag userID goodsID) inGoodsCount).1,
    (spWriteBag (s.tBag userID goodsID) inGoodsCount).2)

/-- What `cmd_ChangeItemCount` does to the entry it finds, before it writes. -/
def changeGoods (v : Goods) (goodsCount : Int) : Goods :=
  let v := { v with goodsCount := v.goodsCount + goodsCount, oldGoodsCount := v.oldGoodsCount + goodsCount }
  let v :=
    if checkIsPaoTaiItem v.goodsID ∨ checkIsSpecCannonItem v.goodsID then
      if goodsCount > 0 then { v with goodsCount := 1, oldGoodsCount := 1 }
      else { v with goodsCount := 0, oldGoodsCount := 0, useTime := 0 }
    else v
  if v.goodsCount < 0 then { v with goodsCount := 0, oldGoodsCount := 0 } else v

theorem goodsID_changeGoods (v : Goods) (n : Int) : (changeGoods v n).goodsID = v.goodsID := by
  unfold changeGoods
  dsimp only
  repeat' split
  all_goals rfl

/-- `cmd_ChangeItemCount` after the user's record has been read. -/
def changeItemCount (s : State) (c : Change) : State :=
  match s.hash c.userID with
  | none => s
  | some list =>
    match list.findIdx? fun v => v.goodsID = c.goodsID with
    | none => s.suspend (.add c)
    | some k => (s.setList c.userID (list.modify k fun v => changeGoods v c.goodsCount)).suspend (.write c k)

/-- `cmd_ChangeItemCount` after `sp_write_bag`: the time of a timed item. Without success the handler ends. -/
def changeWritten (s : State) (c : Change) (k : Nat) (dbError : Bool) (now : Int) : State :=
  match callWriteBag s c.userID c.goodsID c.goodsCount dbError with
  | (s, retCode) =>
    if retCode ≠ 0 then s
    else
      match s.hash c.userID with
      | none => s
      | some list =>
        let s := if isOrdinary c.goodsID then s
          else s.setList c.userID (list.modify k fun v => v.changeTime c.goodsCount now)
        s.suspend (.info c.userID c.goodsID)

/-- The entry of `AddItemToBag`. -/
def addedGoods (goodsID : Nat) (goodsCount : Int) : Goods :=
  let useTime :=
    if checkIsTimeCardItem goodsID ∧ goodsCount ≠ 0 then timeCardUseTime
    else if checkIsPaoTaiItem goodsID ∧ goodsCount ≠ 0 then paoTaiUseTime
    else 0
  ⟨goodsID, goodsCount, goodsCount, useTime, none⟩

/-- `AddItemToBag` after the configuration has been read: the handler does not wait for the statement it sends. Without a bag
the insertion is an error, which ends the handler. -/
def addItemToBag (s : State) (c : Change) : State :=
  match s.hash c.userID with
  | none => s
  | some list =>
    ((s.setList c.userID (list ++ [addedGoods c.goodsID c.goodsCount])).suspend (.insert c)).suspend
      (.info c.userID c.goodsID)

/-- The `insert` statement: a second row of an item is refused. -/
def insertRow (s : State) (c : Change) : State :=
  match s.tBag c.userID c.goodsID with
  | none => s.setRow c.userID c.goodsID (some c.goodsCount)
  | some _ => s

/-- The expiry in `cmd_GoodsInfo`. -/
def goodsExpired (v : Goods) : Goods := ⟨v.goodsID, 0, 0, 0, some 0⟩

/-- `cmd_GoodsInfo` after its wait: a cannon or a time card may have expired. `online` says that the user has an agent. A
missing `endTime` is an error, which ends the handler. -/
def goodsInfo (s : State) (userID goodsID : Nat) (online : Bool) (now : Int) : State :=
  if online ∧ (checkIsPaoTaiItem goodsID ∨ checkIsTimeCardItem goodsID) then
    match s.hash userID with
    | none => s
    | some list =>
      match list.findIdx? fun v => v.goodsID = goodsID with
      | none => s
      | some k =>
        match list[k]?.bind fun v => if v.useTime ≠ 0 then v.endTime else none with
        | none => s
        | some endTime =>
          if endTime ≤ now then
            (s.setList userID (list.modify k goodsExpired)).setRow userID goodsID ((s.tBag userID goodsID).map fun _ => 0)
          else s.setList userID (list.modify k fun v => { v with useTime := endTime - now })
  else s

/-- The loop of `cmd_OffsetGoodsInfo` that writes. -/
def offsetLoop (s : State) (userID : Nat) : List (Nat × Int) → State
  | [] => s
  | (goodsID, goodsCount) :: rest => s.suspend (.offset userID goodsID goodsCount.natAbs rest)

/-- The loop of `cmd_OffsetGoodsInfo` that checks. -/
def offsetAccepted (list : List Goods) (offsetGoodsItem : List (Nat × Int)) : Bool :=
  offsetGoodsItem.all fun e =>
    match list.find? fun v => v.goodsID = e.1 with
    | none => false
    | some v => e.2.natAbs ≤ v.goodsCount && e.2 ≠ 0

/-- `cmd_OffsetGoodsInfo`. -/
def offsetGoodsInfo (s : State) (userID : Nat) (offsetGoodsItem : List (Nat × Int)) : State :=
  match s.hash userID with
  | none => s
  | some list => if offsetAccepted list offsetGoodsItem then offsetLoop s userID offsetGoodsItem else s

/-- `cmd_OffsetGoodsInfo` after `sp_write_bag`: the change is sent whatever the return code is. -/
def offsetWritten (s : State) (userID goodsID itemCount : Nat) (rest : List (Nat × Int)) (dbError : Bool) : State :=
  let s := (callWriteBag s userID goodsID (-itemCount) dbError).1
  offsetLoop { s with messages := s.messages ++ [⟨userID, goodsID, -itemCount⟩] } userID rest

/-- A handler whose wait is over. -/
def resumeThread (s : State) (dbError online : Bool) (now : Int) : Thread → State
  | .change c => changeItemCount s c
  | .write c k => changeWritten s c k dbError now
  | .add c => addItemToBag s c
  | .insert c => insertRow s c
  | .offset userID goodsID itemCount rest => offsetWritten s userID goodsID itemCount rest dbError
  | .info userID goodsID => goodsInfo s userID goodsID online now

/-- A request of a client, a change that another service sends, a change the service has sent to
itself, or the end of a wait. -/
inductive Label where
  | offsetGoodsInfo (userID : Nat) (offsetGoodsItem : List (Nat × Int))
  | changeItemCount (c : Change)
  | deliver (k : Nat)
  | resume (k : Nat) (dbError online : Bool) (now : Int)
  deriving DecidableEq, Repr

/-- One label. -/
def step (s : State) : Label → Option State
  | .offsetGoodsInfo userID offsetGoodsItem => some (offsetGoodsInfo s userID offsetGoodsItem)
  | .changeItemCount c => some (s.suspend (.change c))
  | .deliver k => s.messages[k]?.map fun c => { s with messages := s.messages.eraseIdx k }.suspend (.change c)
  | .resume k dbError online now =>
    s.suspended[k]?.map fun t => resumeThread { s with suspended := s.suspended.eraseIdx k } dbError online now t

end SasyServer.LoginBag
