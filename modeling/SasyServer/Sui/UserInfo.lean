import Mathlib.Data.Int.ModEq
import SasyServer.Lib.Steps

/-!
# The user record of `lua-sui.c`

`luaclib-src/lua-sui.c`: the record of a user, the dispatch on attribute names in `testSet` and `testWrite`, and the
functions `reset`, `initialize`, `writeUserScore` and `distillVariation`. A Lua table that is passed in is the list of its
pairs in the order in which `lua_next` gives them. The `int64_t` fields are integers that stay in the range of the type: an
addition that would leave it is undefined behaviour in C and is `none` here, as is a call on a record that is not
initialized, which is a Lua error.

Of the other attributes only `isAndroid`, `userID` and `inoutIndex` are kept, which these functions read.
-/

namespace SasyServer.Sui

/-- `struct VariationInfo`: what has been written to the record and not yet been taken out for the database. -/
structure VariationInfo where
  revenue : Int
  score : Int
  insure : Int
  grade : Int
  medal : Int
  gift : Int
  present : Int
  experience : Int
  loveliness : Int
  playTimeCount : Int
  winCount : Int
  lostCount : Int
  drawCount : Int
  fleeCount : Int
  deriving DecidableEq, Repr

/-- The structure after `memset` with 0. -/
def VariationInfo.zero : VariationInfo := ⟨0, 0, 0, 0, 0, 0, 0, 0, 0, 0, 0, 0, 0, 0⟩

/-- `struct user_info`. -/
structure UserInfo where
  isInit : Bool
  isModified : Bool
  variationInfo : VariationInfo
  grade : Int
  isAndroid : Bool
  inoutIndex : Int
  userID : Int
  score : Int
  insure : Int
  present : Int
  loveliness : Int
  medal : Int
  gift : Int
  experience : Int
  winCount : Int
  lostCount : Int
  drawCount : Int
  fleeCount : Int
  deriving DecidableEq, Repr

/-- `l_reset`, and what `l_new` gives. -/
def UserInfo.reset : UserInfo :=
  ⟨false, false, VariationInfo.zero, 0, false, 0, 0, 0, 0, 0, 0, 0, 0, 0, 0, 0, 0, 0⟩

/-- The values in the tables of attributes. -/
inductive LuaValue where
  | integer (n : Int)
  | boolean (b : Bool)
  | table (t : List (String × Int))
  deriving Repr

/-- `lua_tointeger`. -/
def LuaValue.toInteger : LuaValue → Int
  | .integer n => n
  | _ => 0

/-- `lua_toboolean`. -/
def LuaValue.toBoolean : LuaValue → Bool
  | .boolean b => b
  | _ => true

/-- The loop of `testSet` over a table for `variationInfo`. -/
def VariationInfo.set (v : VariationInfo) (k : String) (n : Int) : VariationInfo :=
  if k = "revenue" then { v with revenue := n }
  else if k = "score" then { v with score := n }
  else if k = "insure" then { v with insure := n }
  else if k = "grade" then { v with grade := n }
  else if k = "medal" then { v with medal := n }
  else if k = "gift" then { v with gift := n }
  else if k = "present" then { v with present := n }
  else if k = "experience" then { v with experience := n }
  else if k = "loveliness" then { v with loveliness := n }
  else if k = "playTimeCount" then { v with playTimeCount := n }
  else if k = "winCount" then { v with winCount := n }
  else if k = "lostCount" then { v with lostCount := n }
  else if k = "drawCount" then { v with drawCount := n }
  else if k = "fleeCount" then { v with fleeCount := n }
  else v

/-- `testSet`, for the attributes that are kept. -/
def testSet (p : UserInfo) (k : String) (v : LuaValue) : UserInfo :=
  if k = "isModified" then { p with isModified := v.toBoolean }
  else if k = "variationInfo" then
    match v with
    | .table t => { p with variationInfo := t.foldl (fun w e => w.set e.1 e.2) p.variationInfo }
    | _ => p
  else if k = "grade" then { p with grade := v.toInteger }
  else if k = "isAndroid" then { p with isAndroid := v.toBoolean }
  else if k = "inoutIndex" then { p with inoutIndex := v.toInteger % 2 ^ 32 }
  else if k = "userID" then { p with userID := v.toInteger % 2 ^ 32 }
  else if k = "score" then { p with score := v.toInteger }
  else if k = "insure" then { p with insure := v.toInteger }
  else if k = "present" then { p with present := v.toInteger }
  else if k = "loveliness" then { p with loveliness := v.toInteger }
  else if k = "medal" then { p with medal := v.toInteger }
  else if k = "gift" then { p with gift := v.toInteger }
  else if k = "experience" then { p with experience := v.toInteger }
  else if k = "winCount" then { p with winCount := v.toInteger }
  else if k = "lostCount" then { p with lostCount := v.toInteger }
  else if k = "drawCount" then { p with drawCount := v.toInteger }
  else if k = "fleeCount" then { p with fleeCount := v.toInteger }
  else p

/-- `l_initialize` with the tables `userInfo` and `userInfoPlus`. -/
def lInitialize (p : UserInfo) (userInfo userInfoPlus : List (String × LuaValue)) : Option UserInfo :=
  if p.isInit then none
  else some ((userInfo ++ userInfoPlus).foldl (fun p e => testSet p e.1 e.2) { p with isInit := true })

/-- `a + b` of two `int64_t`. -/
def addInt64 (a b : Int) : Option Int := if -2 ^ 63 ≤ a + b ∧ a + b < 2 ^ 63 then some (a + b) else none

/-- `testWrite`. -/
def testWrite (p : UserInfo) (k : String) (temp : Int) : Option UserInfo :=
  let v := p.variationInfo
  if k = "revenue" then do
    let r ← addInt64 v.revenue temp
    some { p with variationInfo := { v with revenue := r } }
  else if k = "score" then do
    let r ← addInt64 v.score temp
    let a ← addInt64 p.score temp
    some { p with variationInfo := { v with score := r }, score := a }
  else if k = "insure" then do
    let r ← addInt64 v.insure temp
    let a ← addInt64 p.insure temp
    some { p with variationInfo := { v with insure := r }, insure := a }
  else if k = "grade" then do
    let r ← addInt64 v.grade temp
    let a ← addInt64 p.grade temp
    some { p with variationInfo := { v with grade := r }, grade := a }
  else if k = "medal" then do
    let r ← addInt64 v.medal temp
    let a ← addInt64 p.medal temp
    some { p with variationInfo := { v with medal := r }, medal := a }
  else if k = "gift" then do
    let r ← addInt64 v.gift temp
    let a ← addInt64 p.gift temp
    some { p with variationInfo := { v with gift := r }, gift := a }
  else if k = "present" then do
    let r ← addInt64 v.present temp
    let a ← addInt64 p.present temp
    some { p with variationInfo := { v with present := r }, present := a }
  else if k = "experience" then do
    let r ← addInt64 v.experience temp
    let a ← addInt64 p.experience temp
    some { p with variationInfo := { v with experience := r }, experience := a }
  else if k = "loveliness" then do
    let r ← addInt64 v.loveliness temp
    let a ← addInt64 p.loveliness temp
    some { p with variationInfo := { v with loveliness := r }, loveliness := a }
  else some p

/-- The conversion of a `lua_Integer` to an `int`. -/
def toInt (n : Int) : Int := Int.bmod n (2 ^ 32)

/-- The counts of `l_writeUserScore`. -/
def countGame (p : UserInfo) (t : Int) : Option UserInfo :=
  let v := p.variationInfo
  if t = 1 then do
    let r ← addInt64 v.winCount 1
    let a ← addInt64 p.winCount 1
    some { p with variationInfo := { v with winCount := r }, winCount := a }
  else if t = 2 then do
    let r ← addInt64 v.lostCount 1
    let a ← addInt64 p.lostCount 1
    some { p with variationInfo := { v with lostCount := r }, lostCount := a }
  else if t = 3 then do
    let r ← addInt64 v.drawCount 1
    let a ← addInt64 p.drawCount 1
    some { p with variationInfo := { v with drawCount := r }, drawCount := a }
  else if t = 4 then do
    let r ← addInt64 v.fleeCount 1
    let a ← addInt64 p.fleeCount 1
    some { p with variationInfo := { v with fleeCount := r }, fleeCount := a }
  else some p

/-- The loop of `l_writeUserScore` over the table of scores. -/
def writeLoop : UserInfo → List (String × Int) → Option UserInfo
  | p, [] => some p
  | p, (k, n) :: scores => (testWrite p k n).bind fun p => writeLoop p scores

/-- `l_writeUserScore`. -/
def writeUserScore (p : UserInfo) (scores : List (String × Int)) (type gamePlayTime : Int) : Option UserInfo :=
  if p.isInit then do
    let time ← addInt64 p.variationInfo.playTimeCount gamePlayTime
    let p ← countGame { p with variationInfo := { p.variationInfo with playTimeCount := time } } (toInt type)
    let p := { p with isModified := true }
    if p.isAndroid then some p else writeLoop p scores
  else none

/-- What `l_distillVariation` returns for a record that was modified. -/
structure Distilled where
  variationInfo : VariationInfo
  userID : Int
  inoutIndex : Int
  deriving DecidableEq, Repr

/-- `l_distillVariation`. -/
def distillVariation (p : UserInfo) : Option (Option Distilled × UserInfo) :=
  if p.isInit then
    if p.isModified then
      some (some ⟨p.variationInfo, p.userID, p.inoutIndex⟩,
        { p with isModified := false, variationInfo := VariationInfo.zero })
    else some (none, p)
  else none

/-- The two calls. -/
inductive Call where
  | writeUserScore (scores : List (String × Int)) (type gamePlayTime : Int)
  | distillVariation
  deriving DecidableEq, Repr

/-- One call. -/
def step (p : UserInfo) : Call → Option UserInfo
  | .writeUserScore scores type gamePlayTime => writeUserScore p scores type gamePlayTime
  | .distillVariation => (distillVariation p).map Prod.snd

end SasyServer.Sui
