import SasyServer.Lemmas.TableSeats

/-!
# Lemmas: the chairs and the records agree in every run

At a table without a `ServiceScore` the chairs and the records of the users agree in every state, whatever the sink knows: an
operation that stops half-way has not taken them apart.
-/

namespace SasyServer.TableFrame

open UserManager (UserStatus)

/-- Nobody sits down, and nobody gets another name. -/
def Fewer (s t : State) : Prop :=
  ∀ c r u, t.chairs.lookup c = some r → t.users r = some u → ∃ v, s.chairs.lookup c = some r ∧ s.users r = some v ∧
    v.userID = u.userID

/-- The operation keeps the chairs and the records together, however it ends, and `P` holds at its end. -/
def Agrees (cfg : ServerConfig) (P : State → Prop) (a : Run) : Prop :=
  a.Ends (fun t => Placed cfg t ∧ P t) fun t _ => Placed cfg t

section Agrees

variable {cfg : ServerConfig} {attr : Nat → Attr} {s t : State} {c r : Nat} {u : User} {P Q : State → Prop} {a : Run}

theorem Fewer.refl (s : State) : Fewer s s := fun _ _ u hr hu => ⟨u, hr, hu, rfl⟩

theorem Fewer.trans {t' : State} (h : Fewer s t) (h' : Fewer t t') : Fewer s t' := by
  intro c r u hr hu
  obtain ⟨v, hr', hv, hid⟩ := h' c r u hr hu
  obtain ⟨w, hr'', hw, hid'⟩ := h c r v hr' hv
  exact ⟨w, hr'', hw, hid'.trans hid⟩

theorem Fewer.congr {t' : State} (h : Fewer s t) (hc : t'.chairs = t.chairs) (hu : t'.users = t.users) : Fewer s t' := by
  unfold Fewer
  rw [hc, hu]
  exact h

/-- A status other than `US_NULL` is written: the record of the user stays. -/
theorem Fewer.write (h : Fewer s t) (hu : t.users r = some u) {st : UserStatus} (hst : st ≠ .usNull) (x y : Nat) :
    Fewer s (writeUser t u.userID r u st x y) := by
  refine h.trans fun c r' u' hr' hu' => ?_
  have hchairs : (writeUser t u.userID r u st x y).chairs = t.chairs := by rw [writeUser_eq]
  rw [hchairs] at hr'
  rw [users_writeUser, if_neg hst] at hu'
  by_cases hrr : r' = r
  · subst hrr
    rw [Function.update_self] at hu'
    obtain rfl := Option.some.inj hu'
    exact ⟨u, hr', hu, rfl⟩
  · rw [Function.update_of_ne hrr] at hu'
    exact ⟨u', hr', hu', rfl⟩

theorem Agrees.andThen {f : State → Run} (h : Agrees cfg P a)
    (hf : ∀ t, Placed cfg t → P t → Agrees cfg Q (f t)) : Agrees cfg Q (a.andThen f) :=
  Attempt.Ends.andThen h fun t ht => hf t ht.1 ht.2

theorem Agrees.mono (h : Agrees cfg P a) (hP : ∀ t, P t → Q t) : Agrees cfg Q a :=
  Attempt.Ends.mono h (fun t ht => ⟨ht.1, hP t ht.2⟩) fun _ _ ht => ht

theorem agrees_ok (h : Placed cfg s) (hP : P s) : Agrees cfg P (.ok s) := ⟨h, hP⟩

theorem agrees_fail (h : Placed cfg s) (e : Failure) : Agrees cfg P (.fail s e) := h

theorem agrees_forEach {f : State → Nat → Run} (hf : ∀ t x, Placed cfg t → P t → Agrees cfg P (f t x)) (xs : List Nat)
    (h : Placed cfg s) (hP : P s) :
    Agrees cfg P (Attempt.forEach f xs s) :=
  Attempt.ends_forEach (fun t x ht => hf t x ht.1 ht.2) xs s ⟨h, hP⟩

/-! ## Leaving -/

theorem Placed.sendTableState (h : Placed cfg s) : Placed cfg (sendTableState s) := h.congr rfl rfl rfl

theorem fewer_away (h : Placed cfg s) (attr : Nat → Attr) (hu : s.users r = some u) : Fewer s (s.away attr r u) := by
  intro c r' u' hr' hu'
  rw [chairs_away, ← chairs_left s r u] at hr'
  obtain ⟨hold, -, -, husers⟩ := h.lookup_left hu hr'
  exact ⟨u', hold, by rw [← husers, ← users_away s attr r u, hu'], rfl⟩

/-- Without knowing the game data of the sink, `leaveChair` either raises an error before it changes anything or takes
the user away. -/
theorem agrees_leaveChair (h : Placed cfg s) (hu : s.users r = some u) :
    Agrees cfg (fun t => t = s.away attr r u) (leaveChair cfg attr s u) := by
  cases hd : s.gameData u.chairID with
  | false =>
    rw [leaveChair, if_pos (by simp [hd])]
    exact agrees_fail h _
  | true =>
    rw [leaveChair_eq h attr hu hd]
    exact agrees_ok (h.away attr hu) rfl

/-- `standUp`, when the `concludeGame` it calls keeps them together. The user does not sit any more. -/
theorem agrees_standUpWith {conclude : State → Run} (hconclude : ∀ t, Placed cfg t → Agrees cfg (Fewer t) (conclude t))
    (silent : Bool) (h : Placed cfg s) (r : Nat) :
    Agrees cfg (fun t => Fewer s t ∧ ∀ u, s.users r = some u → s.chairs.lookup u.chairID = some r →
      Fewer (s.away attr r u) t)
      (standUpWith conclude cfg attr silent s r) := by
  unfold standUpWith
  cases hu : s.users r with
  | none => exact agrees_fail h _
  | some u =>
    dsimp only
    split
    · rename_i hc
      refine agrees_ok h ⟨.refl s, ?_⟩
      rintro _ ⟨⟩ hsits
      exact absurd hsits hc
    · refine Agrees.andThen (agrees_leaveChair h hu) ?_
      rintro _ haway rfl
      have hfewer := fewer_away h attr hu
      refine Agrees.andThen (P := Fewer (s.away attr r u)) ?_ fun t ht hless => ?_
      · split
        · refine (hconclude { s.away attr r u with timer := (s.away attr r u).timer.stop } (haway.congr rfl rfl rfl)).mono
            fun t ht => ?_
          exact Fewer.trans ((Fewer.refl _).congr rfl rfl) ht
        · exact agrees_ok haway (.refl _)
      · have hboth : Fewer s t ∧ ∀ v, some u = some v → s.chairs.lookup v.chairID = some r → Fewer (s.away attr r v) t := by
          refine ⟨hfewer.trans hless, ?_⟩
          rintro _ ⟨⟩ -
          exact hless
        split
        · exact agrees_ok ht hboth
        · exact agrees_ok ht.sendTableState ⟨hboth.1.congr rfl rfl, fun v hv hsits => (hboth.2 v hv hsits).congr rfl rfl⟩

/-- One turn of the loop of `concludeGame`, from what `standUp` does. -/
theorem agrees_concludeUser {standUp : State → Nat → Run} (hstand : ∀ t r, Placed cfg t → Agrees cfg (Fewer t) (standUp t r))
    (h : Placed cfg t) (hless : Fewer s t) (c : Nat) :
    Agrees cfg (Fewer s) (concludeUser standUp cfg attr t c) := by
  unfold concludeUser
  cases hr : t.chairs.lookup c with
  | none => exact agrees_ok h hless
  | some r =>
    obtain ⟨u, hu, -, rfl, -⟩ := h.sits c r hr
    simp only [hu]
    split
    · exact (hstand t r h).mono fun _ ht => hless.trans ht
    · refine Agrees.andThen (P := Fewer s) ?_ fun t' ht' hless' => ?_
      · split
        · rw [setUserStatus_eq h hu _ _ _ (fun hst => by cases hst)]
          exact agrees_ok (h.write hu hr (by decide)) (hless.write hu (by decide) _ _)
        · exact agrees_ok h hless
      · split
        · exact (hstand t' r ht').mono fun _ ht => hless'.trans ht
        · exact agrees_ok ht' hless'

theorem Placed.concludeTable (h : Placed cfg s) :
    Placed cfg (concludeTable cfg s) ∧ (concludeTable cfg s).chairs = s.chairs ∧
    (concludeTable cfg s).users = s.users := by
  unfold TableFrame.concludeTable
  split
  · exact ⟨h.congr rfl rfl rfl, rfl, rfl⟩
  · exact ⟨h, rfl, rfl⟩

/-- `concludeGame`, by induction on the depth of its calls. -/
theorem agrees_concludeAt (n : Nat) (gameStatus : GameStatus) :
    ∀ s, Placed cfg s → Agrees cfg (Fewer s) (concludeAt n cfg attr gameStatus s) := by
  induction n generalizing gameStatus with
  | zero => exact fun s h => agrees_ok h (.refl s)
  | succ n ih =>
    intro s h
    unfold concludeAt
    split
    · exact agrees_ok h (.refl s)
    · dsimp only
      refine Agrees.andThen (P := Fewer s) ?_ fun t ht hless => ?_
      · split
        · exact agrees_ok (h.congr rfl rfl rfl) ((Fewer.refl s).congr rfl rfl)
        · refine agrees_forEach (fun t c ht hless => agrees_concludeUser (fun t r ht => ?_) ht hless c) _
            (h.congr rfl rfl rfl)
            ((Fewer.refl s).congr rfl rfl)
          exact (agrees_standUpWith (ih .free) true ht r).mono fun _ ht => ht.1
      · obtain ⟨ht', hc, hu⟩ := ht.concludeTable
        exact agrees_ok ht'.sendTableState (hless.congr hc hu)

theorem agrees_standUp (h : Placed cfg s) (r : Nat) :
    Agrees cfg (fun t => Fewer s t ∧ ∀ u, s.users r = some u → s.chairs.lookup u.chairID = some r →
      Fewer (s.away attr r u) t)
      (standUp cfg attr s r) :=
  agrees_standUpWith (fun t ht => agrees_concludeAt 2 .free t ht) false h r

/-- The user does not sit at the table, and nobody else has the name. -/
theorem not_sits_away (h : Placed cfg s) (attr : Nat → Attr) (hu : s.users r = some u) {r' : Nat} {v : User}
    (hless : Fewer (s.away attr r u) t) (hv : t.users r' = some v) (hid : v.userID = u.userID) :
    t.chairs.lookup v.chairID ≠ some r' := by
  intro hsits
  obtain ⟨w, hold, hw, hwid⟩ := hless _ r' v hsits hv
  rw [chairs_away, ← chairs_left s r u] at hold
  obtain ⟨-, -, hne, husers⟩ := h.lookup_left hu hold
  rw [users_away, husers] at hw
  have hhash := h.users r' w hw
  rw [hwid, hid, h.users r u hu] at hhash
  exact hne (Option.some.inj hhash).symm

/-! ## Sitting down -/

/-- One turn of the loop of `startGame`. -/
theorem agrees_startUser (hscore : cfg.serviceScore ≤ 0) (h : Placed cfg s) (c : Nat) :
    Agrees cfg (fun _ => True) (startUser cfg s c) := by
  unfold startUser
  cases hr : s.chairs.lookup c with
  | none => exact agrees_ok h trivial
  | some r =>
    obtain ⟨u, hu, -, rfl, -⟩ := h.sits c r hr
    dsimp only
    rw [if_neg (Int.not_lt.2 hscore), hu]
    dsimp only
    have hback : Placed cfg { s with offlineTime := Function.update s.offlineTime u.chairID 0 } := h.congr rfl rfl rfl
    split
    · have heq := setUserStatus_eq hback hu .usPlaying cfg.id u.chairID fun hst => by cases hst
      rw [heq]
      exact agrees_ok (hback.write hu hr (by decide)) trivial
    · exact agrees_ok hback trivial

/-- `startGame` writes the records of the users in the chairs. -/
theorem agrees_startGame (hscore : cfg.serviceScore ≤ 0) (h : Placed cfg s) :
    Agrees cfg (fun _ => True) (startGame cfg s) := by
  unfold startGame
  split
  · exact agrees_ok h trivial
  · dsimp only
    refine Agrees.andThen (P := fun _ => True) ?_ fun t ht _ => agrees_ok (ht.congr rfl rfl rfl) trivial
    split
    · exact agrees_ok (h.congr rfl rfl rfl) trivial
    · refine Agrees.andThen (P := fun _ => True) ?_ fun t ht _ => ?_
      · exact agrees_forEach (fun t c ht _ => agrees_startUser hscore ht c) _ (h.congr rfl rfl rfl) trivial
      · split
        · exact agrees_ok ht trivial
        · exact agrees_ok ht.sendTableState trivial

theorem agrees_sitOwner (h : Placed cfg s) (r userID : Nat) (a : SitArgs) :
    Agrees cfg (fun _ => True) (sitOwner cfg attr s r userID a) := by
  unfold sitOwner
  repeat' split
  all_goals first | exact agrees_fail h _ | exact agrees_ok (h.congr rfl rfl rfl) trivial

theorem agrees_sitVip (h : Placed cfg s) (r : Nat) (a : SitArgs) : Agrees cfg (fun _ => True) (sitVip cfg attr s r a) := by
  unfold sitVip
  repeat' split
  all_goals first | exact agrees_fail h _ | exact agrees_ok h trivial

/-- `cmd_sitDown`, wherever it ends: before the chair is taken, or behind it. -/
theorem agrees_sitDown (hscore : cfg.serviceScore ≤ 0) (h : Placed cfg s) (r c : Nat) (a : SitArgs) :
    Agrees cfg (fun _ => True) (sitDown cfg attr s r c a) := by
  unfold sitDown
  cases hu : s.users r with
  | none => exact agrees_fail h _
  | some u =>
    dsimp only
    split
    · exact agrees_fail h _
    · rename_i hat
      rw [not_not] at hat
      cases sitRefusal cfg attr s r c a with
      | some code => exact agrees_fail h _
      | none =>
        dsimp only
        rw [takeChair_eq h hu fun hpos => absurd hpos.2 (Int.not_lt.2 hscore), Attempt.ok_andThen]
        have htaken := h.taken hu hat.1 (sitChair cfg s c a)
        refine (agrees_sitOwner htaken r u.userID a).andThen fun t ht _ => ?_
        refine (agrees_sitVip ht r a).andThen fun t' ht' _ => ?_
        have hdata : Placed cfg { sendTableState t' with
            gameData := Function.update (sendTableState t').gameData (sitChair cfg s c a) true } := ht'.congr rfl rfl rfl
        unfold onActionUserSitDown
        dsimp only
        split
        · exact agrees_startGame hscore hdata
        · exact agrees_ok hdata trivial

/-! ## The others -/

theorem agrees_setOfflineTimer (h : Placed cfg s) (delay c : Nat) :
    Agrees cfg (fun _ => True) (setOfflineTimer s delay c) := by
  unfold setOfflineTimer
  split
  · exact agrees_fail h _
  · exact agrees_ok (h.congr rfl rfl rfl) trivial

/-- A user who goes offline stands up, or gets another status. -/
theorem agrees_userOffLine (h : Placed cfg s) (r : Nat) : Agrees cfg (fun _ => True) (userOffLine cfg attr s r) := by
  unfold userOffLine
  cases hu : s.users r with
  | none => exact agrees_fail h _
  | some u =>
    dsimp only
    split
    · rename_i hc
      rw [setUserStatus_eq h hu _ _ _ (fun hst => by cases hst)]
      exact agrees_ok (h.write_other hu hc _ _ _) trivial
    · rename_i hc
      rw [ne_eq, not_not] at hc
      split
      · refine Agrees.andThen (P := fun _ => True) ?_ fun t ht _ => ?_
        · unfold setUserStatus
          rw [h.users r u hu]
          simp only [hu]
          split
          · exact agrees_fail h _
          · exact agrees_ok (h.write hu hc (by decide)) trivial
        · have hnow : Placed cfg { t with
              offlineTime := Function.update t.offlineTime u.chairID t.time
              offlineTick := Function.update t.offlineTick u.chairID t.ticks } := ht.congr rfl rfl rfl
          split
          · exact agrees_setOfflineTimer hnow _ _
          · exact agrees_ok hnow trivial
      · refine (agrees_standUp h r).andThen fun t ht hless => ?_
        -- The user has left the table, so that the record can go.
        unfold setUserStatus
        cases hw : t.userItemHash u.userID with
        | none => exact agrees_ok ht trivial
        | some r' =>
          obtain ⟨v, hv, hid⟩ := ht.hash _ _ hw
          have haway := not_sits_away h attr hu (hless.2 u hu hc) hv hid
          simp only [hv]
          rw [if_neg (by rintro ⟨hst, -⟩; cases hst), ← hid]
          exact agrees_ok (ht.write_other hv haway _ _ _) trivial

/-- A user who is back gets another status. -/
theorem agrees_gameOption (h : Placed cfg s) (r : Nat) : Agrees cfg (fun _ => True) (gameOption s r) := by
  unfold gameOption
  cases s.users r with
  | none => exact agrees_fail h _
  | some u =>
    dsimp only
    split
    · exact agrees_fail h _
    · refine Agrees.andThen (P := fun _ => True) ?_ fun t ht _ => ?_
      · split
        · split
          · exact agrees_ok (h.congr rfl rfl rfl) trivial
          · rename_i timerID _
            have hclear : Placed cfg { s with
                offlineTime := Function.update s.offlineTime u.chairID 0
                timer := s.timer.clearTimer timerID
                offlineCheckTimerID := none } := h.congr rfl rfl rfl
            split
            · exact agrees_ok hclear trivial
            · exact agrees_setOfflineTimer hclear _ _
        · exact agrees_ok h trivial
      · split
        · exact agrees_fail ht _
        · exact agrees_ok ht trivial

theorem agrees_kickUser (h : Placed cfg s) (r c : Nat) : Agrees cfg (fun _ => True) (kickUser cfg attr s r c) := by
  have hstand : ∀ r', Agrees cfg (fun _ => True) (standUp cfg attr s r') :=
    fun r' => (agrees_standUp h r').mono fun _ _ => trivial
  unfold kickUser
  repeat' split
  all_goals first | exact agrees_fail h _ | exact hstand _

theorem agrees_lockRoom (h : Placed cfg s) (r : Nat) (isLock : Bool) :
    Agrees cfg (fun _ => True) (lockRoom attr s r isLock) := by
  unfold lockRoom
  repeat' split
  all_goals first | exact agrees_fail h _ | exact agrees_ok (h.congr rfl rfl rfl) trivial

/-- The user in the chair of the timeout stands up. -/
theorem agrees_onTimerOfflineWait (h : Placed cfg s) (c : Nat) :
    Agrees cfg (fun _ => True) (onTimerOfflineWait cfg attr s c) := by
  unfold onTimerOfflineWait
  split
  · exact agrees_ok h trivial
  · have hnone : Placed cfg { s with offlineCheckTimerID := none } := h.congr rfl rfl rfl
    dsimp only
    split
    · exact agrees_fail hnone _
    · rename_i r _
      have hexpiry : Placed cfg { s with
          offlineCheckTimerID := none
          expiries := ⟨r, s.offlineTime c, s.ticks - s.offlineTick c⟩ :: s.expiries } := h.congr rfl rfl rfl
      refine (agrees_standUp hexpiry r).andThen fun t ht _ => ?_
      split
      · exact agrees_setOfflineTimer ht _ _
      · exact agrees_ok ht trivial

/-! ## The runs -/

/-- An operation is settled. -/
theorem placed_settle (h : Agrees cfg P a) : Placed cfg (settle a) := by
  unfold Agrees Attempt.Ends at h
  unfold settle
  split at h
  · rename_i hn
    rw [hn]
    exact h.1
  · rename_i e he
    rw [he]
    exact h.congr rfl rfl rfl

/-- One label. -/
theorem Placed.step {s' : State} {i : Label} (hscore : cfg.serviceScore ≤ 0) (h : Placed cfg s)
    (hs : step cfg s i = some s') :
    Placed cfg s' := by
  cases i with
  | sitDown attr r c a => exact Option.some.inj hs ▸ placed_settle (agrees_sitDown hscore h r c a)
  | standUp attr r => exact Option.some.inj hs ▸ placed_settle (agrees_standUp h r)
  | userOffLine attr r => exact Option.some.inj hs ▸ placed_settle (agrees_userOffLine h r)
  | kickUser attr r c => exact Option.some.inj hs ▸ placed_settle (agrees_kickUser h r c)
  | gameOption r => exact Option.some.inj hs ▸ placed_settle (agrees_gameOption h r)
  | lockRoom attr r isLock => exact Option.some.inj hs ▸ placed_settle (agrees_lockRoom h r isLock)
  | startGame => exact Option.some.inj hs ▸ placed_settle (agrees_startGame hscore h)
  | concludeGame attr gameStatus => exact Option.some.inj hs ▸ placed_settle (agrees_concludeAt 2 gameStatus s h)
  | wake =>
    obtain ⟨timer, -, rfl⟩ := Option.map_eq_some_iff.1 hs
    exact h.congr rfl rfl rfl
  | call timerID =>
    obtain ⟨timer, -, rfl⟩ := Option.map_eq_some_iff.1 hs
    exact h.congr rfl rfl rfl
  | timeout attr =>
    obtain ⟨i, -, rfl⟩ := Option.map_eq_some_iff.1 hs
    exact (placed_settle (agrees_onTimerOfflineWait h i.bindParameter)).congr rfl rfl rfl
  | sleep =>
    obtain ⟨timer, -, rfl⟩ := Option.map_eq_some_iff.1 hs
    exact h.congr rfl rfl rfl
  | clock seconds => exact Option.some.inj hs ▸ h.congr rfl rfl rfl
  | rehash chairs =>
    simp only [TableFrame.step] at hs
    split at hs
    · rename_i hp
      exact Option.some.inj hs ▸ h.rehash (List.isPerm_iff.1 hp)
    · cases hs
  | login r userID isAndroid =>
    simp only [TableFrame.step] at hs
    split at hs
    · rename_i hn
      exact Option.some.inj hs ▸ h.login isAndroid hn.1 hn.2.1 hn.2.2
    · cases hs
  | switchUserItem r =>
    obtain ⟨u, hu, rfl | rfl⟩ := switchUserItem_cases hs
    · exact h
    · exact h.back hu
  | elsewhere r st t c =>
    obtain ⟨u, hu, ht, rfl⟩ := elsewhere_cases hs
    exact h.write_other hu (fun hc => ht (h.record_of_sits hu hc).1) _ _ _

/-- In every state of every run at a table without a `ServiceScore` the chairs and the records agree. -/
theorem placed_of_exec (hscore : cfg.serviceScore ≤ 0) {time : Nat} {is : List Label}
    (h : Steps.exec (step cfg) (State.init time) is = some s) : Placed cfg s :=
  Steps.exec_invariant (C := fun _ _ => True) (fun _ _ _ hs _ hstep => hs.step hscore hstep) is _ s (placed_init cfg time)
    (Steps.meets_of_forall (fun _ _ => trivial) is _) h

end Agrees

end SasyServer.TableFrame
