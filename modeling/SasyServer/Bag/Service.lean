import Mathlib.Logic.Function.Basic
import SasyServer.Bag.Goods
import SasyServer.Lib.Steps

/-!
# The bag service of a game server

`service/gameServer/GS_model_bag.lua`: loading, changing, adding, reporting and saving items. The lists `_hash[userID]` are
cells of a heap, because a handler that waits keeps the list it has found while `_hash` may be given another one; an entry is
never removed from its list, so a list and a position stand for the entry a loop variable refers to.

A handler that waits for another service is a `Thread`, as in the session manager. The requests to the database
are noted in the log, the newest first: those that are only sent at the time they are sent, and a call of
`sp_write_bag` when it has returned.
-/

namespace SasyServer.Bag

/-- What is sent to the database. -/
inductive Request where
  | insertBag (userID goodsID : Nat) (itemCount endTime : Int)
  | updateBag (userID goodsID : Nat) (itemCount endTime : Int)
  | updateEndTime (userID goodsID : Nat) (endTime : Int)
  | writeBag (userID goodsID : Nat) (addCount : Int) (retCode : Int)
  | itemRecord (userID : Nat) (fromWhere : ItemSystemType) (addOrDel goodsID : Nat) (goodsCount : Int)
  deriving DecidableEq, Repr

/-- The rest of `cmd_ChangeItemCount` after the entry has been changed or added. -/
structure ChangeRest where
  userID : Nat
  goodsID : Nat
  goodsCount : Int
  fromWhere : ItemSystemType
  bNeedNotify : Bool
  deriving DecidableEq, Repr

/-- A handler that waits: `save` for `sp_write_bag`, `add` for the configuration of an item, `info` for the user's record and
`load` for the rows of a bag and the configuration of their items. -/
inductive Thread where
  | save (userID list position goodsID : Nat) (addCount : Int)
  | add (rest : ChangeRest)
  | info (rest : ChangeRest)
  | load (userID : Nat) (rows : List Goods)
  deriving DecidableEq, Repr

/-- The service. -/
structure State where
  lists : Nat → List Goods
  listCount : Nat
  hash : Nat → Option Nat
  suspended : List Thread
  log : List Request

namespace State

/-- Before the first load. -/
def init : State := ⟨fun _ => [], 0, fun _ => none, [], []⟩

def request (s : State) (r : Request) : State := { s with log := r :: s.log }

def suspend (s : State) (t : Thread) : State := { s with suspended := s.suspended ++ [t] }

def setList (s : State) (l : Nat) (list : List Goods) : State := { s with lists := Function.update s.lists l list }

end State

/-- The row of a bag as `cmd_LoadUserItem` reads it: an expired item is cleared. -/
def loadRow (now : Int) (goodsID : Nat) (itemCount endTime : Int) : Goods :=
  if endTime ≠ 0 then
    if endTime ≤ now then ⟨goodsID, 0, 0, 0, some 0⟩ else ⟨goodsID, itemCount, itemCount, endTime - now, some endTime⟩
  else ⟨goodsID, itemCount, itemCount, endTime, some endTime⟩

/-- `cmd_LoadUserItem`, up to its last wait. `rows` is what the query gives. -/
def loadUserItem (s : State) (userID : Nat) (rows : List (Nat × Int × Int)) (now : Int) : State :=
  let expired := rows.filter fun r => r.2.2 ≠ 0 ∧ r.2.2 ≤ now
  let s := expired.foldl (fun s r => s.request (.updateBag userID r.1 0 0)) s
  s.suspend (.load userID (rows.map fun r => loadRow now r.1 r.2.1 r.2.2))

/-- The end of `cmd_LoadUserItem`. -/
def loadDone (s : State) (userID : Nat) (rows : List Goods) : State :=
  { s with
    lists := Function.update s.lists s.listCount rows
    listCount := s.listCount + 1
    hash := Function.update s.hash userID (some s.listCount) }

/-- `cmd_ReleaseUserItem`. -/
def releaseUserItem (s : State) (userID : Nat) : State := { s with hash := Function.update s.hash userID none }

/-- `cmd_GetItemCount`. -/
def State.getItemCount (s : State) (userID goodsID : Nat) : Int :=
  match s.hash userID with
  | none => 0
  | some l => Bag.getItemCount (s.lists l) goodsID

/-- The record at the end of `cmd_ChangeItemCount`. -/
def changeRecord (s : State) (c : ChangeRest) : State :=
  let record :=
    s.request (.itemRecord c.userID c.fromWhere (if c.goodsCount > 0 then 1 else 2) c.goodsID c.goodsCount.natAbs)
  if c.fromWhere = .byFish then (if c.goodsID ≠ itemIdGold then record else s)
  else if isOperatorByLoginServer c.fromWhere then s
  else record

/-- `cmd_ChangeItemCount` after the entry: `cmd_GoodsInfo` if the client is to be told, which waits, and the record. -/
def changeRest (s : State) (c : ChangeRest) : State := if c.bNeedNotify then s.suspend (.info c) else changeRecord s c

/-- `cmd_ChangeItemCount`. A missing item is added, after a wait. -/
def changeItemCount (s : State) (c : ChangeRest) (bReset : Bool) (now : Int) : State :=
  match s.hash c.userID with
  | none => s
  | some l =>
    match changeFirst c.goodsID (fun v => v.change c.goodsCount c.fromWhere bReset now) (s.lists l) with
    | none => s.suspend (.add c)
    | some list =>
      let s := s.setList l list
      let s :=
        if (checkIsPaoTaiItem c.goodsID ∨ checkIsTimeCardItem c.goodsID) ∧
          ¬(checkIsTimeCardItem c.goodsID ∧ c.goodsCount < 0) then
          s.request (.updateEndTime c.userID c.goodsID
            (((list.find? fun v => v.goodsID = c.goodsID).bind Goods.endTime).getD 0))
        else s
      changeRest s c

/-- The end of `AddItemToBag`, and of the `cmd_ChangeItemCount` that called it. The list is looked up again; without one the
insert is an error, which ends the handler. -/
def addItemToBag (s : State) (c : ChangeRest) (now : Int) : State :=
  match s.hash c.userID with
  | none => s
  | some l =>
    let item := Goods.added c.goodsID c.goodsCount
    let endTime := if item.useTime ≠ 0 then now + item.useTime else 0
    let s := s.setList l (s.lists l ++ [item])
    changeRest (s.request (.insertBag c.userID c.goodsID c.goodsCount endTime)) c

/-- `cmd_GoodsInfo` after its wait, on the list the user has then; `online` says that the user's record was found and has an
agent. `none` is the error of a timed item without an `endTime`, which ends the handler. -/
def goodsInfo (s : State) (userID goodsID : Nat) (online : Bool) (now : Int) : Option State :=
  if online then
    match s.hash userID with
    | none => some s
    | some l =>
      match (s.lists l).find? fun v => v.goodsID = goodsID with
      | none => some s
      | some v =>
        match v.info now with
        | none => none
        | some (_, cleared) =>
          let s := s.setList l
            ((changeFirst goodsID (fun v => ((v.info now).map Prod.fst).getD v) (s.lists l)).getD (s.lists l))
          some (if cleared then s.request (.updateBag userID goodsID 0 0) else s)
  else some s

/-- The loop of `cmd_SaveUserItem` over the positions `order`, up to the first entry with something to write. -/
def saveLoop (s : State) (userID l : Nat) : List Nat → State
  | [] => s
  | k :: order =>
    match (s.lists l)[k]? with
    | none => saveLoop s userID l order
    | some v =>
      if v.goodsCount ≠ v.oldGoodsCount then
        let goodsCount := if v.goodsCount < 0 then 0 else v.goodsCount
        let s := s.setList l ((s.lists l).set k { v with goodsCount := goodsCount })
        s.suspend (.save userID l k v.goodsID (goodsCount - v.oldGoodsCount))
      else saveLoop s userID l order

/-- `cmd_SaveUserItem`. The order in which `pairs` gives the entries is `order`. -/
def saveUserItem (s : State) (userID : Nat) (order : List Nat) : State :=
  match s.hash userID with
  | none => s
  | some l => saveLoop s userID l order

/-- `cmd_SaveUserItem` after `sp_write_bag` has returned: `oldGoodsCount` becomes the count the entry has now. -/
def saveResume (s : State) (userID l k goodsID : Nat) (addCount retCode : Int) (order : List Nat) : State :=
  let s := s.request (.writeBag userID goodsID addCount retCode)
  match (s.lists l)[k]? with
  | none => s
  | some v => saveLoop (s.setList l ((s.lists l).set k { v with oldGoodsCount := v.goodsCount })) userID l order

/-- A message, or the end of a wait. The values a wait can give are in `resume`: the return code of `sp_write_bag`, the order
of the rest of a loop, whether the user is online, and the time. -/
inductive Label where
  | loadUserItem (userID : Nat) (rows : List (Nat × Int × Int)) (now : Int)
  | releaseUserItem (userID : Nat)
  | changeItemCount (c : ChangeRest) (bReset : Bool) (now : Int)
  | goodsInfo (userID goodsID : Nat) (online : Bool) (now : Int)
  | saveUserItem (userID : Nat) (order : List Nat)
  | resume (k : Nat) (retCode : Int) (order : List Nat) (online : Bool) (now : Int)
  deriving DecidableEq, Repr

/-- A handler whose wait is over. -/
def resumeThread (s : State) (retCode : Int) (order : List Nat) (online : Bool) (now : Int) : Thread → State
  | .save userID l k goodsID addCount => saveResume s userID l k goodsID addCount retCode order
  | .add c => addItemToBag s c now
  | .info c =>
    match goodsInfo s c.userID c.goodsID online now with
    | none => s
    | some s => changeRecord s c
  | .load userID rows => loadDone s userID rows

/-- One label. -/
def step (s : State) : Label → Option State
  | .loadUserItem userID rows now => some (loadUserItem s userID rows now)
  | .releaseUserItem userID => some (releaseUserItem s userID)
  | .changeItemCount c bReset now => some (changeItemCount s c bReset now)
  | .goodsInfo userID goodsID online now => some ((goodsInfo s userID goodsID online now).getD s)
  | .saveUserItem userID order => some (saveUserItem s userID order)
  | .resume k retCode order online now =>
    s.suspended[k]?.map fun t => resumeThread { s with suspended := s.suspended.eraseIdx k } retCode order online now t

/-- `cmd_SetUserItemList`: the bag becomes the list, which is a new one, or is loaded if there is none. -/
def setUserItemList (s : State) (userID : Nat) (itemList : Option (List Goods)) (rows : List (Nat × Int × Int))
    (now : Int) : State :=
  match itemList with
  | none => loadUserItem s userID rows now
  | some itemList => loadDone s userID itemList

/-- The labels, with `SetUserItemList`. -/
inductive Message where
  | label (l : Label)
  | setUserItemList (userID : Nat) (itemList : Option (List Goods)) (rows : List (Nat × Int × Int)) (now : Int)
  deriving DecidableEq, Repr

/-- One message, or the end of a wait. -/
def handle (s : State) : Message → Option State
  | .label l => step s l
  | .setUserItemList userID itemList rows now => some (setUserItemList s userID itemList rows now)

end SasyServer.Bag
