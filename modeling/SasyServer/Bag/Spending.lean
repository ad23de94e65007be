import SasyServer.Bag.Goods
import SasyServer.Lib.Steps

/-!
# Spending the items of one bag

`service/gameServer/GS_model_bag.lua`: the operations that check the bag of a user and then take items from it, for one
user whose bag has been loaded or has not. An operation that has passed its check is a list of changes, which are made one
after the other. Between two of them the handler waits, for the user's record in `cmd_GoodsInfo`, for the configuration of
a missing item in `AddItemToBag`, or for the user and the table when gold is changed. Waits in a row between which the bag
is not read are one wait.

`cmd_OffsetGoodsInfo` sends its changes to the service itself, as messages of their own. What the database and the client are
told is left out, and so are the attribute `score` of the user and the end of the cool-down, which nothing here reads.
-/

namespace SasyServer.Spending

open Bag (Goods ItemSystemType)

def itemIdFireCrystal : Nat := 1030

/-- What a change of gold waits for: nothing in a direct call of `cmd_ChangeItemCount`, the user and the table in
`CheckItemAndComsume`, the table in the local function `ChangeItemCount`. -/
inductive Route where
  | direct | comsume | give
  deriving DecidableEq, Repr

/-- A call of `cmd_ChangeItemCount`, without `bReset`. -/
structure Change where
  goodsID : Nat
  goodsCount : Int
  fromWhere : ItemSystemType
  bNeedNotify : Bool
  route : Route
  deriving DecidableEq, Repr

/-- A change that has been made, or passed over: what it has removed from the count of the item, and whether the count was
negative and has been reset to 0. -/
structure Event where
  change : Change
  removed : Int
  clamped : Bool
  deriving DecidableEq, Repr

/-- An operation that has passed its check: all its changes, those that have been made, and those
that are still to be made. -/
structure Operation where
  changes : List Change
  done : List Event
  todo : List Change
  deriving DecidableEq, Repr

/-- The end of an operation that reports success. -/
structure Report where
  changes : List Change
  done : List Event
  deriving DecidableEq, Repr

/-- A handler that waits: `useGoods`, `compositing`, `giveGoods` and `equipGoods` for the configuration they read before
their check, `useGive` for what the item gives, after the check of `cmd_UseGoodsInfo`, and the others within an operation. -/
inductive Thread where
  | useGoods (goodsID getGoodsID : Nat)
  | useGive (goodsID getGoodsID : Nat)
  | compositing (goodsID : Nat)
  | giveGoods (goodsID : Nat) (goodsCount : Option Int)
  | equipGoods (goodsID : Nat)
  | gold (change : Change) (op : Operation)
  | add (change : Change) (op : Operation)
  | info (goodsID : Nat) (op : Operation)
  deriving DecidableEq, Repr

/-- The bag of the user if it has been loaded, the messages the service has sent to itself, the handlers that wait, the
changes made and the successes reported, the newest first. -/
structure State where
  bag : Option (List Goods)
  messages : List Change
  suspended : List Thread
  log : List Event
  reports : List Report
  deriving DecidableEq, Repr

/-- The service with the bag in `_hash`. -/
def State.init (bag : Option (List Goods)) : State := ⟨bag, [], [], [], []⟩

/-- The items that a handler finds. -/
def State.goods (s : State) : List Goods := s.bag.getD []

def State.suspend (s : State) (t : Thread) : State := { s with suspended := s.suspended ++ [t] }

def State.event (s : State) (e : Event) : State := { s with log := e :: s.log }

def State.report (s : State) (changes : List Change) (done : List Event) : State :=
  { s with reports := ⟨changes, done⟩ :: s.reports }

/-! ## Changes -/

/-- What a change does to the entry it finds: the event, with the count before and after. -/
def changeEvent (c : Change) (v : Goods) (now : Int) : Event where
  change := c
  removed := v.goodsCount - (v.change c.goodsCount c.fromWhere false now).goodsCount
  clamped := !Bag.checkIsPaoTaiItem c.goodsID && decide (v.goodsCount + c.goodsCount < 0)

/-- `cmd_ChangeItemCount` in a loaded bag, up to the notification; `none` if the bag has no entry of the item. -/
def changeItemCount (s : State) (bag : List Goods) (c : Change) (now : Int) : Option (State × Event) :=
  match bag.find? fun v => v.goodsID = c.goodsID with
  | none => none
  | some v =>
    let bag := (Bag.changeFirst c.goodsID (fun v => v.change c.goodsCount c.fromWhere false now) bag).getD bag
    some (({ s with bag := some bag }).event (changeEvent c v now), changeEvent c v now)

/-- The changes of an operation, up to the next wait. `asked` says that the user and the table have been asked about the
first one. A change of a bag that is not loaded is passed over, and nobody is notified. -/
def advance (now : Int) : Bool → State → List Change → List Event → List Change → State
  | _, s, changes, done, [] => s.report changes done
  | asked, s, changes, done, c :: todo =>
    if c.goodsID = Bag.itemIdGold ∧ c.route ≠ .direct ∧ ¬asked then s.suspend (.gold c ⟨changes, done, todo⟩)
    else
      match s.bag with
      | none => advance now false (s.event ⟨c, 0, false⟩) changes (done ++ [⟨c, 0, false⟩]) todo
      | some bag =>
        match changeItemCount s bag c now with
        | none => s.suspend (.add c ⟨changes, done, todo⟩)
        | some (s, e) =>
          if c.bNeedNotify then s.suspend (.info c.goodsID ⟨changes, done ++ [e], todo⟩)
          else advance now false s changes (done ++ [e]) todo

/-- An operation that has passed its check. -/
def start (s : State) (now : Int) (changes : List Change) : State := advance now false s changes [] changes

/-! ## Checks -/

/-- The part of `GetItemConfigInfo` that is read. -/
structure ItemConfig where
  isUse : Nat
  isGive : Nat
  equipId : Nat
  deriving DecidableEq, Repr

/-- What an item gives when it is used. -/
structure GiveItem where
  itemId : Nat
  itemCount : Int
  minRate : Int
  maxRate : Int
  deriving DecidableEq, Repr

/-- `GetItemGiveInfo`. -/
structure GiveConfig where
  itemType : Nat
  itemList : List GiveItem
  deriving DecidableEq, Repr

/-- `GetItemComposeInfo`. -/
structure ComposeConfig where
  sourceItem : List (Nat × Int)
  itemCount : Int
  deriving DecidableEq, Repr

/-- What a wait can give. `limitCount` and `cdTimes` are those of the operator limits, `userFound`, `tableFound` and `online`
are about the user of the bag. -/
structure Answer where
  itemConfig : Option ItemConfig := none
  giveConfig : Option GiveConfig := none
  composeConfig : Option ComposeConfig := none
  limitCount : Int := 0
  cdTimes : Int := 0
  randRate : Int := 1
  userFound : Bool := true
  tableFound : Bool := true
  online : Bool := true
  now : Int
  deriving DecidableEq, Repr

/-- The list `itemlist` of `cmd_UseGoodsInfo`. -/
def giveList (giveConfig : GiveConfig) (getGoodsID : Nat) (randRate : Int) : List GiveItem :=
  if giveConfig.itemType = 1 then giveConfig.itemList.filter fun v => v.minRate ≤ randRate ∧ randRate ≤ v.maxRate
  else if giveConfig.itemType = 2 then (giveConfig.itemList.find? fun v => v.itemId = getGoodsID).toList
  else giveConfig.itemList

/-- The end of `cmd_UseGoodsInfo`: one unit of the item, and then what it gives. -/
def useGiveChanges (goodsID getGoodsID : Nat) (a : Answer) : Option (List Change) :=
  match a.giveConfig with
  | none => none
  | some giveConfig =>
    let itemlist := giveList giveConfig getGoodsID a.randRate
    if itemlist.length = 0 then none
    else some (⟨goodsID, -1, .byUse, true, .direct⟩ :: itemlist.map fun v => ⟨v.itemId, v.itemCount, .byUse, true, .give⟩)

/-- `CheckItemAndComsume`, the check of a loaded bag. -/
def checkItem (bag : List Goods) (itemlist : List (Nat × Int)) : Bool :=
  itemlist.all fun v => (bag.find? fun vv => vv.goodsID = v.1).any fun vv => v.2 ≤ vv.goodsCount

/-- `CheckItemAndComsume`, the check. -/
def checkItemAndComsume (bag : Option (List Goods)) (itemlist : List (Nat × Int)) : Bool :=
  bag.any fun bag => checkItem bag itemlist

/-- `cmd_GetItemCount`. -/
def getItemCount (bag : Option (List Goods)) (goodsID : Nat) : Int :=
  match bag with
  | none => 0
  | some bag => Bag.getItemCount bag goodsID

/-- `CheckItemAndComsume`, the changes. -/
def comsumeChanges (itemlist : List (Nat × Int)) (fromWhere : ItemSystemType) : List Change :=
  itemlist.map fun v => ⟨v.1, -v.2, fromWhere, true, .comsume⟩

/-- `CheckComposeCD`. -/
def checkComposeCD (composeItemID : Nat) (limitCount now : Int) : Int :=
  if composeItemID = itemIdFireCrystal ∧ limitCount - now > 0 then limitCount - now else 0

/-- `GetCleanComposeCDItem`. -/
def getCleanComposeCDItem (cdTimes : Int) : Option (Nat × Int) :=
  if cdTimes ≠ 0 then
    some (Bag.itemIdJewel,
      if cdTimes = 1 then 10 else if cdTimes = 2 then 20 else if cdTimes = 3 then 50 else if cdTimes ≥ 4 then 100 else 0)
  else none

/-- `cmd_CompositingGoodsInfo` once the configuration is there: the sources, and then the item. -/
def compositingChanges (bag : Option (List Goods)) (goodsID : Nat) (a : Answer) : Option (List Change) :=
  match a.itemConfig, a.composeConfig with
  | some _, some composeConfig =>
    let sourceItem := composeConfig.sourceItem ++
      if checkComposeCD goodsID a.limitCount a.now > 0 then (getCleanComposeCDItem a.cdTimes).toList else []
    if checkItemAndComsume bag sourceItem then
      some (comsumeChanges sourceItem .byCompose ++ [⟨goodsID, composeConfig.itemCount, .byCompose, true, .direct⟩])
    else none
  | _, _ => none

/-- `cmd_GiveGoodsInfo` once the configuration is there. -/
def giveChanges (bag : Option (List Goods)) (goodsID : Nat) (goodsCount : Option Int) (a : Answer) : Option (List Change) :=
  match a.itemConfig, goodsCount with
  | some itemInfoConfig, some goodsCount =>
    if itemInfoConfig.isGive ≠ 1 ∨ goodsCount ≤ 0 ∨ getItemCount bag goodsID < goodsCount then none
    else some [⟨goodsID, -goodsCount, .byGive, true, .direct⟩]
  | _, _ => none

/-- `cmd_equipGoodsInfo` once the configuration is there. -/
def equipChanges (bag : Option (List Goods)) (goodsID : Nat) (a : Answer) : Option (List Change) :=
  match a.itemConfig with
  | none => none
  | some itemInfoConfig =>
    if itemInfoConfig.equipId = 0 ∨ getItemCount bag goodsID < 1 then none
    else some [⟨goodsID, -1, .byEuqip, true, .direct⟩, ⟨itemInfoConfig.equipId, 1, .byEuqip, true, .direct⟩]

/-- `cmd_OffsetGoodsInfo`, the check of a loaded bag. -/
def checkOffset (bag : List Goods) (offsetGoodsItem : List (Nat × Int)) : Bool :=
  offsetGoodsItem.all fun v =>
    (bag.find? fun vv => vv.goodsID = v.1).any fun vv => (v.2.natAbs : Int) ≤ vv.goodsCount ∧ v.2 ≠ 0

/-- `cmd_OffsetGoodsInfo`, the messages. -/
def offsetMessages (offsetGoodsItem : List (Nat × Int)) : List Change :=
  offsetGoodsItem.map fun v => ⟨v.1, -(v.2.natAbs : Int), .byUse, true, .direct⟩

/-! ## The service -/

/-- A message, or the end of a wait. -/
inductive Label where
  | useGoodsInfo (goodsID getGoodsID : Nat)
  | compositingGoodsInfo (goodsID : Nat)
  | giveGoodsInfo (goodsID : Nat) (goodsCount : Option Int) (memberOrder : Nat)
  | equipGoodsInfo (goodsID : Nat)
  | checkItemAndComsume (itemlist : List (Nat × Int)) (fromWhere : ItemSystemType) (now : Int)
  | offsetGoodsInfo (offsetGoodsItem : List (Nat × Int))
  | changeItemCount (goodsID : Nat) (goodsCount : Int) (fromWhere : ItemSystemType) (bNeedNotify : Bool) (now : Int)
  | deliver (now : Int)
  | resume (k : Nat) (answer : Answer)
  deriving DecidableEq, Repr

/-- `cmd_OffsetGoodsInfo`. Without a bag it returns the code 0 at once. -/
def offsetGoodsInfo (s : State) (offsetGoodsItem : List (Nat × Int)) : State :=
  match s.bag with
  | none => s.report (offsetMessages offsetGoodsItem) []
  | some bag =>
    if checkOffset bag offsetGoodsItem then { s with messages := s.messages ++ offsetMessages offsetGoodsItem } else s

/-- The changes of the operation that the handler begins when its wait is over, if it passes its check. -/
def Thread.begins (bag : Option (List Goods)) (a : Answer) : Thread → Option (List Change)
  | .useGive goodsID getGoodsID => useGiveChanges goodsID getGoodsID a
  | .compositing goodsID => compositingChanges bag goodsID a
  | .giveGoods goodsID goodsCount => giveChanges bag goodsID goodsCount a
  | .equipGoods goodsID => equipChanges bag goodsID a
  | _ => none

/-- `cmd_GoodsInfo` after its wait; `none` is the error of a timed item without an `endTime`. -/
def goodsInfo (s : State) (goodsID : Nat) (a : Answer) : Option State :=
  if a.online then
    match s.bag with
    | none => some s
    | some bag =>
      match bag.find? fun v => v.goodsID = goodsID with
      | none => some s
      | some v =>
        match v.info a.now with
        | none => none
        | some _ =>
          some
            { s with bag := some ((Bag.changeFirst goodsID (fun v => ((v.info a.now).map Prod.fst).getD v) bag).getD bag) }
  else some s

/-- A handler whose wait is over. An error ends it without a report. -/
def resumeThread (s : State) (a : Answer) : Thread → State
  | .useGoods goodsID getGoodsID =>
    match a.itemConfig with
    | none => s
    | some itemInfoConfig =>
      if itemInfoConfig.isUse ≠ 1 ∨ getItemCount s.bag goodsID ≤ 0 then s else s.suspend (.useGive goodsID getGoodsID)
  | .gold c op =>
    if c.route = .comsume ∧ ¬a.userFound then
      -- `break`: the item is passed over, and the rest of the list goes on
      advance a.now false (s.event ⟨c, 0, false⟩) op.changes (op.done ++ [⟨c, 0, false⟩]) op.todo
    else if a.tableFound then advance a.now true s op.changes op.done (c :: op.todo)
    else s
  | .add c op =>
    let e : Event := ⟨c, 0, false⟩
    let s := ({ s with bag := s.bag.map fun bag => bag ++ [Goods.added c.goodsID c.goodsCount] }).event e
    if c.bNeedNotify then s.suspend (.info c.goodsID { op with done := op.done ++ [e] })
    else advance a.now false s op.changes (op.done ++ [e]) op.todo
  | .info goodsID op =>
    match goodsInfo s goodsID a with
    | none => s
    | some s => advance a.now false s op.changes op.done op.todo
  | t => ((t.begins s.bag a).map (start s a.now)).getD s

/-- One label. -/
def step (s : State) : Label → Option State
  | .useGoodsInfo goodsID getGoodsID => some (s.suspend (.useGoods goodsID getGoodsID))
  | .compositingGoodsInfo goodsID => some (s.suspend (.compositing goodsID))
  | .giveGoodsInfo goodsID goodsCount memberOrder =>
    some (if memberOrder < 2 then s else s.suspend (.giveGoods goodsID goodsCount))
  | .equipGoodsInfo goodsID => some (s.suspend (.equipGoods goodsID))
  | .checkItemAndComsume itemlist fromWhere now =>
    some (if checkItemAndComsume s.bag itemlist then start s now (comsumeChanges itemlist fromWhere) else s)
  | .offsetGoodsInfo offsetGoodsItem => some (offsetGoodsInfo s offsetGoodsItem)
  | .changeItemCount goodsID goodsCount fromWhere bNeedNotify now =>
    some (start s now [⟨goodsID, goodsCount, fromWhere, bNeedNotify, .direct⟩])
  | .deliver now =>
    match s.messages with
    | [] => none
    | c :: messages => some (start { s with messages := messages } now [c])
  | .resume k a => s.suspended[k]?.map fun t => resumeThread { s with suspended := s.suspended.eraseIdx k } a t

end SasyServer.Spending
