import Mathlib.Data.List.Basic
import SasyServer.Lib.Steps

/-!
# The limits of the users

`service/gameServer/GS_model_operatorLimit.lua`. The service keeps a list of counters for each user it has loaded, with one
entry for a limit: the rows have the user and the limit as their key. The counts are integers. The date of an entry is a day,
`os.date("%Y%m%d")`, or for two of the limits a moment, `os.time()`; both are given. Left out are `CheckIsForeverLimit`,
`CheckIsTimeLimit` and `GetLimitInfo`, which only read.
-/

namespace SasyServer.OperatorLimit

/-- The members of `OPERATOR_LIMIT` that are looked at. -/
def opLimitIdBoxDropValue : Nat := 6
def opLimitIdDoubleGold : Nat := 14
def opLimitIdOnlineTime : Nat := 30
def opLimitIdPayRmbNew : Nat := 38
def opLimitIdPayRmbNew1 : Nat := 39
def opLimitIdSendTitle : Nat := 44
def opLimitIdExperienceVip : Nat := 48
def opLimitIdPaoTaiLv : Nat := 49
def opLimitIdFirePiece : Nat := 50
def opLimitIdFireCrystalCd : Nat := 51

/-- An entry of a user. -/
structure LimitInfo where
  limitId : Nat
  limitCount : Int
  limitDate : Int
  deriving DecidableEq, Repr

/-- `_opLimitHash`. -/
def OpLimitHash := Nat → Option (List LimitInfo)

/-- The bounds `AddLimit` keeps an entry in. -/
def clamp (limitId : Nat) (limitCount : Int) : Int :=
  if limitId = opLimitIdPayRmbNew then
    let limitCount := if limitCount ≥ 800 then 800 else limitCount
    if limitCount ≤ 0 then 0 else limitCount
  else if limitId = opLimitIdPayRmbNew1 then
    let limitCount := if limitCount ≥ 2000 then 2000 else limitCount
    if limitCount ≤ -1000 then -1000 else limitCount
  else limitCount

/-- The date of an entry that is changed. -/
def limitDate (limitId : Nat) (day time : Int) : Int :=
  if limitId = opLimitIdSendTitle ∨ limitId = opLimitIdExperienceVip then time else day

/-- `AddLimit` in the list of a user: the first entry of the limit is changed, or there is a new one. -/
def addTo (limitId : Nat) (limitCount day time : Int) : List LimitInfo → List LimitInfo
  | [] => [⟨limitId, limitCount, limitDate limitId day time⟩]
  | v :: rest =>
    if v.limitId = limitId then
      { v with limitCount := clamp limitId (v.limitCount + limitCount), limitDate := limitDate limitId day time } :: rest
    else v :: addTo limitId limitCount day time rest

/-- `AddLimit`. -/
def addLimit (opLimitHash : OpLimitHash) (userID limitId : Nat) (limitCount day time : Int) : OpLimitHash :=
  match opLimitHash userID with
  | none => opLimitHash
  | some info => fun id => if id = userID then some (addTo limitId limitCount day time info) else opLimitHash id

/-- The count of a limit in the list of a user. -/
def countIn (limitId : Nat) (info : List LimitInfo) : Int :=
  ((info.find? fun v => v.limitId = limitId).map LimitInfo.limitCount).getD 0

/-- `GetLimitCount`. -/
def getLimitCount (opLimitHash : OpLimitHash) (userID limitId : Nat) : Int :=
  match opLimitHash userID with
  | none => 0
  | some info => countIn limitId info

/-- `CheckIsEverydayLimit` in the list of a user. A count of another day is dropped. -/
def everydayIn (limitId : Nat) (limitCount day : Int) : List LimitInfo → List LimitInfo × Bool
  | [] => ([], false)
  | v :: rest =>
    if v.limitId = limitId then
      if v.limitDate ≠ day then ({ v with limitDate := day, limitCount := 0 } :: rest, false)
      else (v :: rest, v.limitCount ≥ limitCount)
    else ((v :: (everydayIn limitId limitCount day rest).1), (everydayIn limitId limitCount day rest).2)

/-- `CheckIsEverydayLimit`. -/
def checkIsEverydayLimit (opLimitHash : OpLimitHash) (userID limitId : Nat) (limitCount day : Int) : OpLimitHash × Bool :=
  match opLimitHash userID with
  | none => (opLimitHash, true)
  | some info =>
    (fun id => if id = userID then some (everydayIn limitId limitCount day info).1 else opLimitHash id,
      (everydayIn limitId limitCount day info).2)

/-- `ResetLimitCount` in the list of a user. -/
def resetIn (limitId : Nat) (day time : Int) (info : List LimitInfo) : List LimitInfo :=
  info.map fun v =>
    if v.limitId = limitId then
      { v with limitCount := 0, limitDate := if limitId = opLimitIdExperienceVip then time else day } else v

/-- `ResetLimitCount`. -/
def resetLimitCount (opLimitHash : OpLimitHash) (userID limitId : Nat) (day time : Int) : OpLimitHash :=
  match opLimitHash userID with
  | none => opLimitHash
  | some info => fun id => if id = userID then some (resetIn limitId day time info) else opLimitHash id

/-- `GetLimitComposeCD`: the item is taken for a limit. A count of another day is reset. -/
def getLimitComposeCD (opLimitHash : OpLimitHash) (userID itemID : Nat) (day time : Int) : OpLimitHash × Int :=
  match (opLimitHash userID).bind fun info => info.find? fun v => v.limitId = itemID with
  | none => (opLimitHash, 0)
  | some v =>
    if day = v.limitDate then (opLimitHash, v.limitCount) else (resetLimitCount opLimitHash userID itemID day time, 0)

/-- `SetLimitComposeCD`. On the same day, `AddLimit` is given the count itself and one more. -/
def setLimitComposeCD (opLimitHash : OpLimitHash) (userID itemID : Nat) (day time : Int) : OpLimitHash :=
  match (opLimitHash userID).bind fun info => info.find? fun v => v.limitId = itemID with
  | none => addLimit opLimitHash userID itemID 1 day time
  | some v => addLimit opLimitHash userID itemID (if day = v.limitDate then v.limitCount + 1 else 1) day time

/-- `SaveData` in the list of a user, and the rows that are written. `logonTime` is that of the user's
record, if it is found. -/
def saveData (info : List LimitInfo) (logonTime : Option Int) (now : Int) : List LimitInfo × List LimitInfo :=
  let info := info.map fun v =>
    match logonTime with
    | some logonTime =>
      if v.limitId = opLimitIdOnlineTime then { v with limitCount := v.limitCount + now - logonTime } else v
    | none => v
  (info, info.filter fun v => v.limitId ≠ opLimitIdDoubleGold)

/-! ## The service -/

/-- A message to the service, with the day and the moment at which it is handled. -/
inductive Call where
  | addLimit (userID limitId : Nat) (limitCount day time : Int)
  | checkIsEverydayLimit (userID limitId : Nat) (limitCount day time : Int)
  | resetLimitCount (userID limitId : Nat) (day time : Int)
  | getLimitComposeCD (userID itemID : Nat) (day time : Int)
  | setLimitComposeCD (userID itemID : Nat) (day time : Int)
  deriving DecidableEq, Repr

/-- The lists, and the day of the last message. -/
structure State where
  opLimitHash : OpLimitHash
  day : Int

def Call.day : Call → Int
  | .addLimit _ _ _ day _ | .checkIsEverydayLimit _ _ _ day _ | .resetLimitCount _ _ day _ | .getLimitComposeCD _ _ day _
  | .setLimitComposeCD _ _ day _ => day

/-- The lists after a message. -/
def Call.run (opLimitHash : OpLimitHash) : Call → OpLimitHash
  | .addLimit userID limitId limitCount day time => OperatorLimit.addLimit opLimitHash userID limitId limitCount day time
  | .checkIsEverydayLimit userID limitId limitCount day _ =>
    (OperatorLimit.checkIsEverydayLimit opLimitHash userID limitId limitCount day).1
  | .resetLimitCount userID limitId day time => OperatorLimit.resetLimitCount opLimitHash userID limitId day time
  | .getLimitComposeCD userID itemID day time => (OperatorLimit.getLimitComposeCD opLimitHash userID itemID day time).1
  | .setLimitComposeCD userID itemID day time => OperatorLimit.setLimitComposeCD opLimitHash userID itemID day time

/-- One message. The days do not go back. -/
def step (s : State) (c : Call) : Option State := if s.day ≤ c.day then some ⟨c.run s.opLimitHash, c.day⟩ else none

/-! ## What a call changes -/

section Lemmas

variable {opLimitHash : OpLimitHash} {userID limitId : Nat} (limitCount day time : Int)

@[simp]
theorem countIn_nil : countIn limitId [] = 0 := rfl

theorem countIn_cons (v : LimitInfo) (info : List LimitInfo) :
    countIn limitId (v :: info) = if v.limitId = limitId then v.limitCount else countIn limitId info := by
  unfold countIn
  rw [List.find?_cons]
  by_cases h : v.limitId = limitId <;> simp [h]

/-- A limit without bounds goes up by what is added. -/
theorem countIn_addTo_self (hclamp : ∀ x, clamp limitId x = x) (info : List LimitInfo) :
    countIn limitId (addTo limitId limitCount day time info) = countIn limitId info + limitCount := by
  induction info with
  | nil => simp [addTo, countIn_cons]
  | cons v info ih =>
    rw [addTo, countIn_cons]
    split
    · rename_i hv
      rw [countIn_cons]
      simp [hv, hclamp]
    · rename_i hv
      rw [countIn_cons, if_neg hv, ih]

/-- The other limits stay what they are. -/
theorem countIn_addTo_of_ne {other : Nat} (hne : other ≠ limitId) (info : List LimitInfo) :
    countIn other (addTo limitId limitCount day time info) = countIn other info := by
  induction info with
  | nil => simp [addTo, countIn_cons, hne.symm]
  | cons v info ih =>
    rw [addTo, countIn_cons]
    split
    · rename_i hv
      rw [countIn_cons]
      simp [hv, hne.symm]
    · rw [countIn_cons, ih]

/-- A user with a count that is not 0 has been loaded. -/
theorem loaded_of_count (h : getLimitCount opLimitHash userID limitId ≠ 0) : ∃ info, opLimitHash userID = some info := by
  cases hinfo : opLimitHash userID with
  | none => simp [getLimitCount, hinfo] at h
  | some info => exact ⟨info, rfl⟩

theorem getLimitCount_addLimit_self {info : List LimitInfo} (hinfo : opLimitHash userID = some info)
    (hclamp : ∀ x, clamp limitId x = x) :
    getLimitCount (addLimit opLimitHash userID limitId limitCount day time) userID limitId =
      getLimitCount opLimitHash userID limitId + limitCount := by
  simp only [getLimitCount, addLimit, hinfo, if_true]
  exact countIn_addTo_self limitCount day time hclamp info

theorem getLimitCount_addLimit_of_ne {other : Nat} (hne : other ≠ limitId) :
    getLimitCount (addLimit opLimitHash userID limitId limitCount day time) userID other =
      getLimitCount opLimitHash userID other := by
  cases hinfo : opLimitHash userID with
  | none => simp only [addLimit, hinfo]
  | some info =>
    simp only [getLimitCount, addLimit, hinfo, if_true]
    exact countIn_addTo_of_ne limitCount day time hne info

theorem clamp_firePiece (x : Int) : clamp opLimitIdFirePiece x = x := rfl

theorem clamp_boxDropValue (x : Int) : clamp opLimitIdBoxDropValue x = x := rfl

end Lemmas

end SasyServer.OperatorLimit
