import SasyServer.Bag.Calls
import SasyServer.OperatorLimit

/-!
# Compositions and their cool-down

`service/gameServer/GS_model_bag.lua`: `cmd_CompositingGoodsInfo` and what it uses of the limits of the user, for one user
whose bag is loaded, as whole calls at one moment. The messages to the limits arrive before the next call. Left out are the
configuration of the item beyond that there is one, and the message to the user's table about a box.
-/

namespace SasyServer.Compositing

open Bag (Goods)
open OperatorLimit (OpLimitHash)
open Spending (ComposeConfig itemIdFireCrystal)

/-- `FIRECRYSTAL_CD_TIME`. -/
def fireCrystalCdTime : Int := 3 * 60 * 60

/-- `CheckComposeCD`: the seconds that are left. Only a fire crystal has a limit. -/
def checkComposeCD (opLimitHash : OpLimitHash) (userID composeItemID : Nat) (now : Int) : Int :=
  Spending.checkComposeCD composeItemID
    (OperatorLimit.getLimitCount opLimitHash userID OperatorLimit.opLimitIdFireCrystalCd) now

/-- `GetCleanComposeCDItem`, with the limits after it. -/
def getCleanComposeCDItem (opLimitHash : OpLimitHash) (userID composeItemID : Nat) (day now : Int) :
    OpLimitHash × Option (Nat × Int) :=
  ((OperatorLimit.getLimitComposeCD opLimitHash userID composeItemID day now).1,
    Spending.getCleanComposeCDItem (OperatorLimit.getLimitComposeCD opLimitHash userID composeItemID day now).2)

/-- `CheckAndAddComposeCD`; an argument that is missing is `none`. -/
def checkAndAddComposeCD (opLimitHash : OpLimitHash) (userID composeItemID : Option Nat) (day now : Int) : OpLimitHash :=
  match userID, composeItemID with
  | some userID, some composeItemID =>
    if composeItemID = itemIdFireCrystal then
      OperatorLimit.setLimitComposeCD
        (OperatorLimit.addLimit opLimitHash userID OperatorLimit.opLimitIdFireCrystalCd (now + fireCrystalCdTime) day now)
          userID
        composeItemID day now
    else opLimitHash
  | _, _ => opLimitHash

/-- What a composition is answered: whether the item has a configuration, its `GetItemComposeInfo`, what `BagCall`
asks for, and the day. -/
structure Answers where
  itemFound : Bool
  composeConfig : Option ComposeConfig
  user : BagCall.Answers
  day : Int
  deriving DecidableEq, Repr

/-- The list that is taken: the sources, and within the cool-down what clears it, with the limits after
it has been asked for. -/
def sourceItem (opLimitHash : OpLimitHash) (userID goodsID : Nat) (composeConfig : ComposeConfig) (a : Answers) :
    OpLimitHash × List (Nat × Int) :=
  if checkComposeCD opLimitHash userID goodsID a.user.now > 0 then
    let needItem := getCleanComposeCDItem opLimitHash userID goodsID a.day a.user.now
    (needItem.1, composeConfig.sourceItem ++ needItem.2.toList)
  else (opLimitHash, composeConfig.sourceItem)

/-- What a composition leaves, and whether its code is 0. -/
structure Result where
  bag : BagCall.UserBag
  opLimitHash : OpLimitHash
  composed : Bool

/-- `cmd_CompositingGoodsInfo`. At its end `CheckAndAddComposeCD` is called without arguments. -/
def compositingGoodsInfo (bag : BagCall.UserBag) (opLimitHash : OpLimitHash) (userID goodsID : Nat) (a : Answers) : Result :=
  match a.itemFound, a.composeConfig with
  | true, some composeConfig =>
    let source := sourceItem opLimitHash userID goodsID composeConfig a
    let comsumed := BagCall.checkItemAndComsume bag source.2 .byCompose a.user
    let item := comsumed.1.andThen fun bag =>
      if comsumed.2 then BagCall.changeItemCount bag goodsID composeConfig.itemCount .byCompose true false a.user
      else .ok bag
    if comsumed.2 ∧ item.failure = none then ⟨item.state, checkAndAddComposeCD source.1 none none a.day a.user.now, true⟩
    else ⟨item.state, source.1, false⟩
  | _, _ => ⟨bag, opLimitHash, false⟩

/-! ## Sequences of calls -/

/-- A call, among them those of the bag and the messages to the limits that have nothing to do with a composition.
`compositingCDInfo` is `cmd_CompositingCDInfo`. -/
inductive Call where
  | compositingGoodsInfo (goodsID : Nat) (a : Answers)
  | compositingCDInfo (goodsID : Nat) (day now : Int)
  | bag (c : BagCall.Call)
  | limit (c : OperatorLimit.Call) (now : Int)
  deriving DecidableEq, Repr

def Call.now : Call → Int
  | .compositingGoodsInfo _ a => a.user.now
  | .compositingCDInfo _ _ now | .limit _ now => now
  | .bag c => c.now

/-- The bag and the limits, the moment of the last composition of a fire crystal that has succeeded, and
that of the last call. -/
structure State where
  bag : BagCall.UserBag
  opLimitHash : OpLimitHash
  last : Option Int
  now : Int

def Call.run (userID : Nat) (s : State) : Call → State
  | .compositingGoodsInfo goodsID a =>
    let r := Compositing.compositingGoodsInfo s.bag s.opLimitHash userID goodsID a
    ⟨r.bag, r.opLimitHash, if r.composed ∧ goodsID = itemIdFireCrystal then some a.user.now else s.last, a.user.now⟩
  | .compositingCDInfo goodsID day now =>
    { s with opLimitHash := (getCleanComposeCDItem s.opLimitHash userID goodsID day now).1, now := now }
  | .bag c => { s with bag := (c.run s.bag).state, now := c.now }
  | .limit c now => { s with opLimitHash := c.run s.opLimitHash, now := now }

/-- One call. The moments do not go back. -/
def step (userID : Nat) (s : State) (c : Call) : Option State := if s.now ≤ c.now then some (c.run userID s) else none

end SasyServer.Compositing
