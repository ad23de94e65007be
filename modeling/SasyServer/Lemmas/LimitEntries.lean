import SasyServer.OperatorLimit

/-!
# The entry of a limit

What each message makes of the entry of a user for a limit: the messages about other users and other
limits leave it as it is.
-/

namespace SasyServer.OperatorLimit

/-- The entry of a limit in the list of a user. -/
def entryIn (limitId : Nat) (info : List LimitInfo) : Option LimitInfo := info.find? fun v => v.limitId = limitId

/-- The entry of a user for a limit. -/
def entry (opLimitHash : OpLimitHash) (userID limitId : Nat) : Option LimitInfo :=
  (opLimitHash userID).bind (entryIn limitId)

/-- `GetLimitCount` by the entry. -/
theorem getLimitCount_eq_entry (opLimitHash : OpLimitHash) (userID limitId : Nat) :
    getLimitCount opLimitHash userID limitId = ((entry opLimitHash userID limitId).map LimitInfo.limitCount).getD 0 := by
  unfold getLimitCount entry
  cases opLimitHash userID <;> rfl

/-- The entry after an addition. -/
def entryAdded (limitId : Nat) (limitCount day time : Int) : Option LimitInfo → LimitInfo
  | none => ⟨limitId, limitCount, limitDate limitId day time⟩
  | some v => { v with limitCount := clamp limitId (v.limitCount + limitCount), limitDate := limitDate limitId day time }

/-- The entry after a reset. -/
def entryReset (limitId : Nat) (day time : Int) (v : LimitInfo) : LimitInfo :=
  { v with limitCount := 0, limitDate := if limitId = opLimitIdExperienceVip then time else day }

/-- The user a message is about. -/
def Call.userID : Call → Nat
  | .addLimit userID _ _ _ _ | .checkIsEverydayLimit userID _ _ _ _ | .resetLimitCount userID _ _ _ |
    .getLimitComposeCD userID _ _ _
  | .setLimitComposeCD userID _ _ _ => userID

/-- The limit a message is about. -/
def Call.limitId : Call → Nat
  | .addLimit _ limitId _ _ _ | .checkIsEverydayLimit _ limitId _ _ _ | .resetLimitCount _ limitId _ _ |
    .getLimitComposeCD _ limitId _ _
  | .setLimitComposeCD _ limitId _ _ => limitId

/-- The list of the user after a message. -/
def Call.runIn (info : List LimitInfo) : Call → List LimitInfo
  | .addLimit _ limitId limitCount day time => addTo limitId limitCount day time info
  | .checkIsEverydayLimit _ limitId limitCount day _ => (everydayIn limitId limitCount day info).1
  | .resetLimitCount _ limitId day time => resetIn limitId day time info
  | .getLimitComposeCD _ itemID day time =>
    match entryIn itemID info with
    | none => info
    | some v => if day = v.limitDate then info else resetIn itemID day time info
  | .setLimitComposeCD _ itemID day time =>
    match entryIn itemID info with
    | none => addTo itemID 1 day time info
    | some v => addTo itemID (if day = v.limitDate then v.limitCount + 1 else 1) day time info

section Lists

variable {limitId : Nat} (limitCount day time : Int)

theorem entryIn_cons (v : LimitInfo) (info : List LimitInfo) :
    entryIn limitId (v :: info) = if v.limitId = limitId then some v else entryIn limitId info := by
  unfold entryIn
  rw [List.find?_cons]
  by_cases h : v.limitId = limitId <;> simp [h]

/-- The entry of the limit after an addition, or the new one. -/
theorem entryIn_addTo_self (info : List LimitInfo) :
    entryIn limitId (addTo limitId limitCount day time info) = some
      (entryAdded limitId limitCount day time (entryIn limitId info)) := by
  induction info with
  | nil =>
    rw [addTo, entryIn_cons, if_pos rfl]
    rfl
  | cons v info ih =>
    rw [addTo]
    by_cases hv : v.limitId = limitId
    · rw [if_pos hv, entryIn_cons, entryIn_cons, if_pos hv, if_pos hv]
      rfl
    · rw [if_neg hv, entryIn_cons, entryIn_cons, if_neg hv, if_neg hv, ih]

/-- The other limits have their entries. -/
theorem entryIn_addTo_of_ne {other : Nat} (hne : other ≠ limitId) (info : List LimitInfo) :
    entryIn other (addTo limitId limitCount day time info) = entryIn other info := by
  induction info with
  | nil => rw [addTo, entryIn_cons, if_neg hne.symm]
  | cons v info ih =>
    rw [addTo]
    by_cases hv : v.limitId = limitId
    · have hne' : v.limitId ≠ other := fun h => hne (h ▸ hv)
      rw [if_pos hv, entryIn_cons, entryIn_cons, if_neg hne', if_neg hne']
    · rw [if_neg hv, entryIn_cons, entryIn_cons, ih]

/-- The check of a day: an entry of another day is dropped to 0, and fails the check. -/
theorem entryIn_everydayIn_self (info : List LimitInfo) :
    entryIn limitId (everydayIn limitId limitCount day info).1 =
        (entryIn limitId info).map (fun v => if v.limitDate ≠ day then { v with limitDate := day, limitCount := 0 } else v) ∧
      (everydayIn limitId limitCount day info).2 =
        (entryIn limitId info).any fun v => v.limitDate = day && v.limitCount ≥ limitCount := by
  induction info with
  | nil => exact ⟨rfl, rfl⟩
  | cons v info ih =>
    rw [everydayIn, entryIn_cons]
    by_cases hv : v.limitId = limitId
    · by_cases hd : v.limitDate = day
      · simp [hv, hd, entryIn_cons]
      · simp [hv, hd, entryIn_cons]
    · simp only [hv, if_false, entryIn_cons]
      exact ih

/-- The other limits have their entries. -/
theorem entryIn_everydayIn_of_ne {other : Nat} (hne : other ≠ limitId) (info : List LimitInfo) :
    entryIn other (everydayIn limitId limitCount day info).1 = entryIn other info := by
  induction info with
  | nil => rfl
  | cons v info ih =>
    rw [everydayIn]
    by_cases hv : v.limitId = limitId
    · have hne' : v.limitId ≠ other := fun h => hne (h ▸ hv)
      rw [if_pos hv]
      split
      · rw [entryIn_cons, entryIn_cons, if_neg hne', if_neg hne']
      · rfl
    · rw [if_neg hv, entryIn_cons, entryIn_cons, ih]

/-- The entry of the limit after a reset, if there is one. -/
theorem entryIn_resetIn_self (info : List LimitInfo) :
    entryIn limitId (resetIn limitId day time info) = (entryIn limitId info).map (entryReset limitId day time) := by
  induction info with
  | nil => rfl
  | cons v info ih =>
    rw [resetIn, List.map_cons, ← resetIn]
    by_cases hv : v.limitId = limitId
    · simp [hv, entryIn_cons, entryReset]
    · simp only [hv, if_false, entryIn_cons]
      exact ih

/-- The other limits have their entries. -/
theorem entryIn_resetIn_of_ne {other : Nat} (hne : other ≠ limitId) (info : List LimitInfo) :
    entryIn other (resetIn limitId day time info) = entryIn other info := by
  induction info with
  | nil => rfl
  | cons v info ih =>
    rw [resetIn, List.map_cons, ← resetIn]
    by_cases hv : v.limitId = limitId
    · have hne' : v.limitId ≠ other := fun h => hne (h ▸ hv)
      simp only [hv, if_true, entryIn_cons, hne.symm, if_false, ih]
    · simp only [hv, if_false, entryIn_cons, ih]

end Lists

section Calls

variable {opLimitHash : OpLimitHash} {userID limitId : Nat}

/-- An operation on the list of one user, at any user. -/
theorem ofUser_apply (u : Nat) (write : List LimitInfo → List LimitInfo) {written : OpLimitHash}
    (hnone : opLimitHash u = none → written = opLimitHash)
    (hsome : ∀ info, opLimitHash u = some info → written = fun id => if id = u then some (write info) else opLimitHash id) :
    written userID = if userID = u then (opLimitHash userID).map write else opLimitHash userID := by
  by_cases hu : userID = u
  · subst hu
    cases hinfo : opLimitHash userID with
    | none => simp [hnone hinfo, hinfo]
    | some info => simp [hsome info hinfo]
  · cases hinfo : opLimitHash u with
    | none => simp [hnone hinfo, hu]
    | some info => simp [hsome info hinfo, hu]

theorem addLimit_apply (u l : Nat) (n day time : Int) :
    addLimit opLimitHash u l n day time userID =
      if userID = u then (opLimitHash userID).map (addTo l n day time) else opLimitHash userID := by
  refine ofUser_apply u (addTo l n day time) (fun hinfo => ?_) fun info hinfo => ?_ <;> rw [addLimit, hinfo]

theorem resetLimitCount_apply (u l : Nat) (day time : Int) :
    resetLimitCount opLimitHash u l day time userID =
      if userID = u then (opLimitHash userID).map (resetIn l day time) else opLimitHash userID := by
  refine ofUser_apply u (resetIn l day time) (fun hinfo => ?_) fun info hinfo => ?_ <;> rw [resetLimitCount, hinfo]

theorem checkIsEverydayLimit_apply (u l : Nat) (n day : Int) :
    (checkIsEverydayLimit opLimitHash u l n day).1 userID =
      if userID = u then (opLimitHash userID).map (fun info => (everydayIn l n day info).1) else opLimitHash userID := by
  refine ofUser_apply u (fun info => (everydayIn l n day info).1) (fun hinfo => ?_) fun info hinfo => ?_ <;>
    rw [checkIsEverydayLimit, hinfo]

/-- A message changes the list of its user, if the user is loaded, and no other. -/
theorem run_apply (c : Call) :
    c.run opLimitHash userID = if userID = c.userID then (opLimitHash userID).map fun info => c.runIn info
      else opLimitHash userID := by
  cases c with
  | addLimit u l n day time => exact addLimit_apply u l n day time
  | checkIsEverydayLimit u l n day time => exact checkIsEverydayLimit_apply u l n day
  | resetLimitCount u l day time => exact resetLimitCount_apply u l day time
  | getLimitComposeCD u l day time =>
    simp only [Call.run, getLimitComposeCD, Call.userID, Call.runIn]
    by_cases hu : userID = u
    · subst hu
      cases hinfo : opLimitHash userID with
      | none => simp [hinfo]
      | some info =>
        simp only [Option.bind_some, Option.map_some, entryIn, if_true]
        cases hv : info.find? fun v => v.limitId = l with
        | none => exact hinfo
        | some v => by_cases hd : day = v.limitDate <;> simp [hd, hinfo, resetLimitCount_apply]
    · refine Eq.trans ?_ (if_neg hu).symm
      split
      · rfl
      · split
        · rfl
        · exact (resetLimitCount_apply u l day time).trans (if_neg hu)
  | setLimitComposeCD u l day time =>
    simp only [Call.run, setLimitComposeCD, Call.userID, Call.runIn]
    by_cases hu : userID = u
    · subst hu
      cases hinfo : opLimitHash userID with
      | none => simp [hinfo, addLimit_apply]
      | some info =>
        simp only [Option.bind_some, Option.map_some, entryIn, if_true]
        cases hv : info.find? fun v => v.limitId = l <;> simp [hinfo, addLimit_apply]
    · refine Eq.trans ?_ (if_neg hu).symm
      cases (opLimitHash u).bind fun info => info.find? fun v => v.limitId = l with
      | none => exact (addLimit_apply u l _ day time).trans (if_neg hu)
      | some v => exact (addLimit_apply u l _ day time).trans (if_neg hu)

/-- The users that are loaded stay so. -/
theorem isSome_run (c : Call) : (c.run opLimitHash userID).isSome = (opLimitHash userID).isSome := by
  rw [run_apply]
  split
  · rw [Option.isSome_map]
  · rfl

/-- The entries for other limits stay in a list. -/
theorem entryIn_runIn_of_ne {c : Call} (hne : limitId ≠ c.limitId) (info : List LimitInfo) :
    entryIn limitId (c.runIn info) = entryIn limitId info := by
  cases c with
  | addLimit u l n day time => exact entryIn_addTo_of_ne n day time hne info
  | checkIsEverydayLimit u l n day time => exact entryIn_everydayIn_of_ne n day hne info
  | resetLimitCount u l day time => exact entryIn_resetIn_of_ne day time hne info
  | getLimitComposeCD u l day time =>
    simp only [Call.runIn]
    repeat' split
    all_goals first | rfl | exact entryIn_resetIn_of_ne day time hne info
  | setLimitComposeCD u l day time =>
    simp only [Call.runIn]
    split
    · exact entryIn_addTo_of_ne _ day time hne info
    · exact entryIn_addTo_of_ne _ day time hne info

/-- The messages about other users and other limits leave the entry as it is. -/
theorem entry_run_of_ne {c : Call} (h : userID ≠ c.userID ∨ limitId ≠ c.limitId) :
    entry (c.run opLimitHash) userID limitId = entry opLimitHash userID limitId := by
  rw [entry, entry, run_apply]
  split
  · rename_i hu
    rw [Option.bind_map]
    congr 1
    funext info
    exact entryIn_runIn_of_ne (h.resolve_left fun hne => hne hu) info
  · rfl

/-- The entry a message is about, in the list of a user who is loaded. -/
theorem entry_run_self {c : Call} {info : List LimitInfo} (hinfo : opLimitHash c.userID = some info) :
    entry (c.run opLimitHash) c.userID limitId = entryIn limitId (c.runIn info) := by
  rw [entry, run_apply, if_pos rfl, hinfo]
  rfl

end Calls

end SasyServer.OperatorLimit
