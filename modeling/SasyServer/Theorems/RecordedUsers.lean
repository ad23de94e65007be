import SasyServer.Theorems.SitDown

/-!
# Theorem: the entries of `_userItemHash` are records in use

The operations of a table write the records of users through `setUserStatus`, which takes the entry of a user out of
`_userItemHash` together with the record that it releases. So in every state the entries are records in use, of their users,
which is what the theorem about a `cmd_sitDown` that fails asks for.
-/

namespace SasyServer.TableFrame

open UserManager (UserStatus)

/-- The entries are records in use at the end of an operation, however it ends. -/
def KeepsRecords (a : Run) : Prop := a.Ends Recorded fun s _ => Recorded s

section Records

variable {cfg : ServerConfig} {attr : Nat → Attr} {s s' : State} {u : User}

/-- The record of a user is written, or it is released together with the entry of its user. -/
theorem Recorded.writeUser (h : Recorded s) {r : Nat} (hu : s.users r = some u) (st : UserStatus) (tableID chairID : Nat) :
    Recorded (writeUser s u.userID r u st tableID chairID) := by
  by_cases hst : st = .usNull
  · intro v w hw
    rw [userItemHash_writeUser, if_pos hst] at hw
    rw [users_writeUser, if_pos hst]
    have hv : v ≠ u.userID := by
      rintro rfl
      exact absurd ((Function.update_self _ _ _).symm.trans hw) (Option.some_ne_none w).symm
    obtain ⟨x, hx, hid⟩ := h v w ((Function.update_of_ne hv _ _).symm.trans hw)
    have hne : w ≠ r := by
      rintro rfl
      exact hv (hid.symm.trans (congrArg User.userID (Option.some.inj (hx.symm.trans hu))))
    exact ⟨x, (Function.update_of_ne hne _ _).trans hx, hid⟩
  · exact h.write hu u.userID hst tableID chairID

/-- A user gets a record that is not in use, and an entry. -/
theorem Recorded.login (h : Recorded s) {r userID : Nat} (hr : s.users r = none) (isAndroid : Bool) :
    Recorded { s with
      users := Function.update s.users r (some ⟨userID, isAndroid, .usFree, invalidTable, invalidChair⟩)
      userItemHash := Function.update s.userItemHash userID (some r) } := by
  intro v w hw
  by_cases hv : v = userID
  · subst hv
    cases (Function.update_self _ _ _).symm.trans hw
    exact ⟨_, Function.update_self _ _ _, rfl⟩
  · obtain ⟨x, hx, hid⟩ := h v w ((Function.update_of_ne hv _ _).symm.trans hw)
    have hne : w ≠ r := by
      rintro rfl
      exact Option.some_ne_none x (hx.symm.trans hr)
    exact ⟨x, (Function.update_of_ne hne _ _).trans hx, hid⟩

/-! ## The operations -/

theorem keepsRecords_setUserStatus (h : Recorded s) (userID : Nat) (st : UserStatus) (tableID chairID : Nat) :
    KeepsRecords (setUserStatus cfg s userID st tableID chairID) := by
  unfold setUserStatus
  split
  · exact h
  · rename_i r hr
    split
    · exact h
    · rename_i u hu
      split
      · exact h
      · obtain ⟨x, hx, rfl⟩ := h userID r hr
        cases hu.symm.trans hx
        exact h.writeUser hu st tableID chairID

/-- One turn of the loop of `startGame`. -/
theorem keepsRecords_startUser (h : Recorded s) (c : Nat) : KeepsRecords (startUser cfg s c) := by
  unfold startUser
  split
  · exact h
  · dsimp only
    split
    · exact h
    · split
      · exact h
      · split
        · exact keepsRecords_setUserStatus (by exact h) _ _ _ _
        · exact h

theorem keepsRecords_startGame (h : Recorded s) : KeepsRecords (startGame cfg s) := by
  unfold startGame
  split
  · exact h
  · dsimp only
    refine Attempt.Ends.andThen (P := Recorded) ?_ fun s hs => hs
    split
    · exact h
    · refine Attempt.Ends.andThen
        (Attempt.ends_forEach (fun s c hs => keepsRecords_startUser hs c) _ _ (by exact h)) fun s' hs' => ?_
      refine Attempt.ends_ok ?_
      split <;> exact hs'

/-- The sink, the chair, the user and the owner. -/
theorem keepsRecords_leaveChair (h : Recorded s) (u : User) : KeepsRecords (leaveChair cfg attr s u) := by
  unfold leaveChair
  split
  · exact h
  · refine Attempt.Ends.andThen (keepsRecords_setUserStatus (by exact h) _ _ _ _) fun s hs => ?_
    split
    · unfold handOver
      dsimp only
      split
      · exact hs
      · split <;> exact hs
    · exact hs

/-- `standUp`, from the `concludeGame` that it calls. -/
theorem keepsRecords_standUpWith {conclude : State → Run} (hconclude : ∀ t, Recorded t → KeepsRecords (conclude t))
    (h : Recorded s) (silent : Bool) (r : Nat) : KeepsRecords (standUpWith conclude cfg attr silent s r) := by
  unfold standUpWith
  split
  · exact h
  · split
    · exact h
    · refine Attempt.Ends.andThen (keepsRecords_leaveChair h _) fun s hs => ?_
      refine Attempt.Ends.andThen (P := Recorded) ?_ fun s hs => ?_
      · split
        · exact hconclude _ (by exact hs)
        · exact hs
      · refine Attempt.ends_ok ?_
        split <;> exact hs

/-- One turn of the loop of `concludeGame`, from the `standUp` that it calls. -/
theorem keepsRecords_concludeUser {standUp : State → Nat → Run} (hstand : ∀ t r, Recorded t → KeepsRecords (standUp t r))
    (h : Recorded s) (c : Nat) : KeepsRecords (concludeUser standUp cfg attr s c) := by
  unfold concludeUser
  split
  · exact h
  · split
    · exact h
    · split
      · exact hstand _ _ h
      · refine Attempt.Ends.andThen (P := Recorded) ?_ fun s hs => ?_
        · split
          · exact keepsRecords_setUserStatus h _ _ _ _
          · exact h
        · split
          · exact hstand _ _ hs
          · exact hs

/-- By induction on the depth. -/
theorem keepsRecords_concludeAt (n : Nat) (gameStatus : GameStatus) :
    ∀ s, Recorded s → KeepsRecords (concludeAt n cfg attr gameStatus s) := by
  induction n generalizing gameStatus with
  | zero => exact fun s h => h
  | succ n ih =>
    intro s h
    unfold concludeAt
    split
    · exact h
    · dsimp only
      refine Attempt.Ends.andThen (P := Recorded) ?_ fun s hs => ?_
      · split
        · exact h
        · exact Attempt.ends_forEach
            (fun s c hs => keepsRecords_concludeUser (fun t r ht => keepsRecords_standUpWith (ih .free) ht true r) hs c) _ _
            (by exact h)
      · refine Attempt.ends_ok ?_
        unfold concludeTable
        split <;> exact hs

theorem keepsRecords_standUp (h : Recorded s) (r : Nat) : KeepsRecords (standUp cfg attr s r) :=
  keepsRecords_standUpWith (keepsRecords_concludeAt 2 .free) h false r

/-- The chair is taken, also where the user manager does not know the user. -/
theorem keepsRecords_takeChair (h : Recorded s) (r userID c : Nat) : KeepsRecords (takeChair cfg s r userID c) := by
  unfold takeChair
  dsimp only
  split
  · exact h
  · split
    · exact h
    · exact keepsRecords_setUserStatus (by exact h) _ _ _ _

theorem keepsRecords_sitDown (h : Recorded s) (r c : Nat) (a : SitArgs) : KeepsRecords (sitDown cfg attr s r c a) := by
  unfold sitDown
  split
  · exact h
  · split
    · exact h
    · split
      · exact h
      · refine Attempt.Ends.andThen (keepsRecords_takeChair h _ _ _) fun s hs => ?_
        refine Attempt.Ends.andThen (P := Recorded) ?_ fun s hs => Attempt.Ends.andThen (P := Recorded) ?_ fun s hs => ?_
        · unfold sitOwner
          repeat' split
          all_goals exact hs
        · unfold sitVip
          repeat' split
          all_goals exact hs
        · unfold onActionUserSitDown
          dsimp only
          split
          · exact keepsRecords_startGame (by exact hs)
          · exact hs

theorem keepsRecords_setOfflineTimer (h : Recorded s) (delay c : Nat) : KeepsRecords (setOfflineTimer s delay c) := by
  unfold setOfflineTimer
  split <;> exact h

theorem keepsRecords_onTimerOfflineWait (h : Recorded s) (c : Nat) : KeepsRecords (onTimerOfflineWait cfg attr s c) := by
  unfold onTimerOfflineWait
  split
  · exact h
  · dsimp only
    split
    · exact h
    · refine Attempt.Ends.andThen (keepsRecords_standUp (by exact h) _) fun s hs => ?_
      split
      · exact keepsRecords_setOfflineTimer hs _ _
      · exact hs

theorem keepsRecords_userOffLine (h : Recorded s) (r : Nat) : KeepsRecords (userOffLine cfg attr s r) := by
  unfold userOffLine
  split
  · exact h
  · split
    · exact keepsRecords_setUserStatus h _ _ _ _
    · split
      · refine Attempt.Ends.andThen (keepsRecords_setUserStatus h _ _ _ _) fun s hs => ?_
        dsimp only
        split
        · exact keepsRecords_setOfflineTimer (by exact hs) _ _
        · exact hs
      · exact Attempt.Ends.andThen (keepsRecords_standUp h r) fun s hs => keepsRecords_setUserStatus hs _ _ _ _

theorem keepsRecords_gameOption (h : Recorded s) (r : Nat) : KeepsRecords (gameOption s r) := by
  unfold gameOption
  split
  · exact h
  · split
    · exact h
    · refine Attempt.Ends.andThen (P := Recorded) ?_ fun s hs => ?_
      · split
        · dsimp only
          split
          · exact h
          · split
            · exact h
            · exact keepsRecords_setOfflineTimer (by exact h) _ _
        · exact h
      · split <;> exact hs

theorem keepsRecords_kickUser (h : Recorded s) (r c : Nat) : KeepsRecords (kickUser cfg attr s r c) := by
  unfold kickUser
  repeat' split
  all_goals first | exact keepsRecords_standUp h _ | exact h

theorem keepsRecords_lockRoom (h : Recorded s) (r : Nat) (isLock : Bool) : KeepsRecords (lockRoom attr s r isLock) := by
  unfold lockRoom
  repeat' split
  all_goals exact h

/-! ## Runs -/

/-- An operation is settled. -/
theorem recorded_settle {a : Run} (h : KeepsRecords a) : Recorded (settle a) := by
  unfold settle
  split <;> exact h.always

/-- One label. -/
theorem Recorded.step {i : Label} (h : Recorded s) (hs : step cfg s i = some s') : Recorded s' := by
  cases i with
  | sitDown attr r c a => exact Option.some.inj hs ▸ recorded_settle (keepsRecords_sitDown h r c a)
  | standUp attr r => exact Option.some.inj hs ▸ recorded_settle (keepsRecords_standUp h r)
  | userOffLine attr r => exact Option.some.inj hs ▸ recorded_settle (keepsRecords_userOffLine h r)
  | kickUser attr r c => exact Option.some.inj hs ▸ recorded_settle (keepsRecords_kickUser h r c)
  | gameOption r => exact Option.some.inj hs ▸ recorded_settle (keepsRecords_gameOption h r)
  | lockRoom attr r isLock => exact Option.some.inj hs ▸ recorded_settle (keepsRecords_lockRoom h r isLock)
  | startGame => exact Option.some.inj hs ▸ recorded_settle (keepsRecords_startGame h)
  | concludeGame attr gameStatus =>
    exact Option.some.inj hs ▸ recorded_settle (keepsRecords_concludeAt 2 gameStatus s h)
  | wake =>
    obtain ⟨timer, -, rfl⟩ := Option.map_eq_some_iff.1 hs
    exact h
  | call timerID =>
    obtain ⟨timer, -, rfl⟩ := Option.map_eq_some_iff.1 hs
    exact h
  | timeout attr =>
    obtain ⟨i, -, rfl⟩ := Option.map_eq_some_iff.1 hs
    exact recorded_settle (keepsRecords_onTimerOfflineWait h i.bindParameter)
  | sleep =>
    obtain ⟨timer, -, rfl⟩ := Option.map_eq_some_iff.1 hs
    exact h
  | clock seconds => exact Option.some.inj hs ▸ h
  | rehash chairs =>
    simp only [TableFrame.step] at hs
    split at hs
    · exact Option.some.inj hs ▸ h
    · cases hs
  | login r userID isAndroid =>
    simp only [TableFrame.step] at hs
    split at hs
    · rename_i hn
      exact Option.some.inj hs ▸ h.login hn.1 isAndroid
    · cases hs
  | switchUserItem r =>
    obtain ⟨u, hu, rfl | rfl⟩ := switchUserItem_cases hs
    · exact h
    · exact h.writeUser hu _ _ _
  | elsewhere r st t c =>
    obtain ⟨u, hu, -, rfl⟩ := elsewhere_cases hs
    exact h.writeUser hu _ _ _

/-- In every state that is reached from an empty table the entries of `_userItemHash` are records in use, of their users. -/
theorem recorded_of_exec {time : Nat} {is : List Label} (hrun : Steps.exec (step cfg) (State.init time) is = some s) :
    Recorded s :=
  Steps.exec_invariant (C := fun _ _ => True) (fun _ _ _ hs _ hstep => hs.step hstep) is _ s
    (fun _ r hr => absurd hr (Option.some_ne_none r).symm) (Steps.meets_of_forall (fun _ _ => trivial) is _) hrun

end Records

end SasyServer.TableFrame
