import SasyServer.Lemmas.OfflineWait
import SasyServer.Theorems.SeatMap

/-!
# Theorem: the timeout finds a user who has been offline, as long as its chair stays theirs

One timeout stands for all users who are offline, and it is bound to a chair. When the user in that chair stands up before
the timeout comes, the chair is empty then, or somebody else sits there; when the id is forgotten, the timeout still comes,
and it takes the id of another one for its own; and the time that is left is reckoned in seconds of the clock, of which there
may have been more than ticks.
-/

namespace SasyServer.TableFrame

open UserManager (UserStatus)

/-! ## The condition -/

/-- The timeout whose id is kept is bound to the chair. -/
def State.awaits (s : State) (c : Nat) : Bool :=
  (s.timer.activeTimer ++ s.timer.running.toList).any fun i => s.offlineCheckTimerID = some i.timerID && i.bindParameter = c

/-- The table has no owner when the user has left. -/
def leavesOwnerless (attr : Nat → Attr) (s : State) (u : User) : Bool :=
  if s.tableOwnerID = u.userID then !(s.chairs.erase u.chairID).entries.any fun e => 0 < (attr e.2).contribution
  else s.tableOwnerID = 0

/-- The user may leave: no timeout is bound to the chair, or the game ends. -/
def leaveTimely (attr : Nat → Attr) (s : State) (userItem : Nat) : Bool :=
  match s.users userItem with
  | none => true
  | some u =>
    s.chairs.lookup u.chairID ≠ some userItem || !s.awaits u.chairID || (s.isGameStarted && leavesOwnerless attr s u)

/-- Nobody in a chair is offline. -/
def State.nobodyOffline (s : State) : Bool := s.chairs.keys.all fun c => s.offlineTime c = 0

/-- The table where the user in the chair is not offline any more. -/
def State.back (s : State) (c : Nat) : State := { s with offlineTime := Function.update s.offlineTime c 0 }

/-- The clock has not run ahead of the ticks since the user went offline who has been offline longest. -/
def adjustSafe (s : State) : Bool :=
  (oldestOfflineChairID s).all fun c => min tickspanTableOfflineWait (s.time - s.offlineTime c) ≤ s.ticks - s.offlineTick c

/-- The condition. -/
def timerSafe (cfg : ServerConfig) (s : State) : Label → Bool
  | .sitDown attr userItem chairID a =>
    sitSafe cfg s (.sitDown attr userItem chairID a) &&
      match s.users userItem with
      | none => true
      | some u =>
        !(u.tableID = invalidTable && u.chairID = invalidChair) || (sitRefusal cfg attr s userItem chairID a).isSome ||
          s.gameStatus ≠ .free || s.isDrawStarted || cfg.serviceScore ≤ 0
  | .standUp attr userItem => leaveTimely attr s userItem
  | .userOffLine attr userItem =>
    match s.users userItem with
    | none => true
    | some u =>
      s.chairs.lookup u.chairID ≠ some userItem ||
        if u.userStatus = .usPlaying then !s.awaits u.chairID else leaveTimely attr s userItem
  | .kickUser attr _ kickChairID => (s.chairs.lookup kickChairID).all (leaveTimely attr s)
  | .gameOption userItem =>
    match s.users userItem with
    | none => true
    | some u =>
      s.chairs.lookup u.chairID ≠ some userItem || s.offlineTime u.chairID = 0 || s.offlineCheckTimerID = none ||
        adjustSafe (s.back u.chairID)
  | .startGame => s.isDrawStarted || if s.isGameStarted then s.nobodyOffline else cfg.serviceScore ≤ 0 || s.sitUserCount = 0
  | .concludeGame _ gameStatus => !s.isGameStarted || gameStatus = .free || s.nobodyOffline
  | .timeout _ =>
    s.timer.running.all fun i => s.offlineCheckTimerID = none ||
      (s.offlineCheckTimerID = some i.timerID &&
        (!s.isGameStarted || adjustSafe { s with chairs := s.chairs.erase i.bindParameter }))
  | _ => true

/-! ## The moves of the operations -/

/-- The invariant holds at the end of an operation, however it ends, and the operation is not a timeout that finds nobody. -/
def Keeps (a : Run) : Prop :=
  a.Ends (fun s => s.offlineWait.Right) fun s e => s.offlineWait.Right ∧ e ≠ .raised .offlineUserNotFound

section Moves

variable {cfg : ServerConfig} {attr : Nat → Attr} {s : State} {r : Nat} {u : User}

theorem keeps_refused (hr : s.offlineWait.Right) (code : RetCode) : Keeps (.fail s (.refused code)) := ⟨hr, by simp⟩

theorem keeps_raised (hr : s.offlineWait.Right) {e : LuaError} (he : e ≠ .offlineUserNotFound) : Keeps
    (.fail s (.raised e)) :=
  ⟨hr, fun h => he (Failure.raised.inj h)⟩

theorem taken_iff {c : Nat} : s.offlineWait.taken c = true ↔ c ∈ s.chairs := decide_eq_true_iff

theorem offlineWait_writeUser (s : State) (userID r : Nat) (u : User) (st : UserStatus) (t c : Nat) :
    (writeUser s userID r u st t c).offlineWait = s.offlineWait := by
  rw [writeUser_eq]
  rfl

/-- The record of a user who leaves is cleared without a change of the timer: only the chair is free. -/
theorem offlineWait_left (s : State) (r : Nat) (u : User) : (s.left r u).offlineWait = s.offlineWait.leave u.chairID := by
  have htaken : (fun c => decide (c ∈ s.chairs.erase u.chairID)) =
      Function.update (fun c => decide (c ∈ s.chairs)) u.chairID false := by
    funext c
    by_cases hc : c = u.chairID
    · simp [hc, AList.mem_erase]
    · simp [hc, AList.mem_erase]
  rw [left_eq, State.offlineWait, htaken]
  rfl

theorem offlineWait_away (s : State) (attr : Nat → Attr) (r : Nat) (u : User) :
    (s.away attr r u).offlineWait = s.offlineWait.leave u.chairID := by
  rw [← offlineWait_left]
  unfold State.away State.handedOver
  repeat' split
  all_goals rfl

theorem offlineWait_concluding (s : State) (gameStatus : GameStatus) :
    (s.concluding gameStatus).offlineWait = s.offlineWait.conclude (decide (gameStatus = .free)) := by
  cases gameStatus <;> rfl

theorem offlineWait_concludeTable (cfg : ServerConfig) (s : State) : (concludeTable cfg s).offlineWait = s.offlineWait := by
  unfold concludeTable
  split
  · rfl
  · rfl

/-- The loop of `concludeGame`: nothing is waited for. -/
theorem stable_quiet (cfg : ServerConfig) (attr : Nat → Attr) : Stable cfg attr fun s => s.offlineWait.Quiet where
  write := by
    intro s r u _ hq _ _
    rw [offlineWait_writeUser]
    exact hq
  away := by
    intro s r u _ hq _ _ _
    rw [offlineWait_away]
    exact ⟨hq.toTimed.leave _, hq.ended, hq.forgotten⟩
  stop := fun s _ hq => ⟨hq.toTimed.halt, hq.ended, hq.forgotten⟩

/-- A game that ends with every user sent away leaves nothing to wait for. -/
theorem ends_concludeGame_free (h : Seated cfg s) (ht : s.offlineWait.Timed) (hg : s.isGameStarted = true) :
    (concludeGame cfg attr .free s).Ends (fun t => t.offlineWait.Quiet) fun _ _ => False := by
  have hq : (s.concluding .free).offlineWait.Quiet := by
    rw [offlineWait_concluding]
    exact ⟨ht.conclude _, rfl, rfl⟩
  refine (ends_concludeAt (stable_quiet cfg attr) 1 .free h hg hq).mono ?_ fun _ _ hf => hf
  rintro _ ⟨t, -, ht, -, rfl⟩
  have heq : (sendTableState (concludeTable cfg t)).offlineWait = t.offlineWait := offlineWait_concludeTable cfg t
  rw [heq]
  exact ht

/-- How `standUp` of a user in the chair ends, with the owner after the user has left: the game ends, or the ticker is
stopped where none is started, or the user leaves the chair. -/
def StoodUp (s : State) (c tableOwnerID : Nat) (t : State) : Prop :=
  (s.isGameStarted = true ∧ tableOwnerID = 0 ∧ t.offlineWait.Quiet) ∨
  (s.isGameStarted = false ∧ t.offlineWait = (s.offlineWait.leave c).halt) ∨
  (tableOwnerID ≠ 0 ∧ t.offlineWait = s.offlineWait.leave c ∧ t.chairs = s.chairs.erase c)

/-- `standUp` of a user in the chair comes to its end, in one of the three ways of `StoodUp`. -/
theorem ends_standUp_wait (h : Seated cfg s) (hkind : cfg.kindID ≠ 104 ∧ cfg.kindID ≠ 800) (ht : s.offlineWait.Timed)
    (hu : s.users r = some u) (hc : s.chairs.lookup u.chairID = some r) :
    (standUp cfg attr s r).Ends (StoodUp s u.chairID (s.away attr r u).tableOwnerID) fun _ _ => False := by
  have haway := h.away attr hu
  have hwait := offlineWait_away s attr r u
  have hchairs := chairs_away s attr r u
  have hgame := isGameStarted_away s attr r u
  rw [standUp, standUpWith_eq h _ attr false hu hc]
  generalize s.away attr r u = t at haway hwait hchairs hgame ⊢
  refine Attempt.Ends.andThen (P := StoodUp s u.chairID t.tableOwnerID) ?_ fun t' ht' => ht'
  have hstop : t.stopTimer.offlineWait = (s.offlineWait.leave u.chairID).halt := congrArg OfflineWait.halt hwait
  split
  · rename_i hzero
    cases hg : s.isGameStarted with
    | true =>
      have htimed : t.stopTimer.offlineWait.Timed := by
        rw [hstop]
        exact (ht.leave _).halt
      refine (ends_concludeGame_free haway.stopTimer htimed (hgame.trans hg)).mono ?_ fun _ _ hf => hf
      exact fun t' ht' => Or.inl ⟨hg, hzero.1, ht'⟩
    | false =>
      have hnot : t.stopTimer.isGameStarted = false := hgame.trans hg
      rw [concludeGame, concludeAt_of_not_started 2 .free hnot]
      exact Or.inr (Or.inl ⟨hg, hstop⟩)
  · rename_i hzero
    exact Attempt.ends_ok (Or.inr (Or.inr ⟨fun ho => hzero ⟨ho, hkind⟩, hwait, hchairs⟩))

/-- Who leaves the table ownerless. -/
theorem tableOwnerID_away (h : Placed cfg s) (hu : s.users r = some u) (hl : leavesOwnerless attr s u) :
    (s.away attr r u).tableOwnerID = 0 := by
  have howner : (s.left r u).tableOwnerID = s.tableOwnerID := by rw [left_eq]
  unfold leavesOwnerless at hl
  unfold State.away
  rw [howner]
  split
  · rename_i ho
    rw [if_pos ho] at hl
    rcases (h.left hu).handedOver_cases attr with ⟨-, heq⟩ | ⟨c, v, w, hv, -, hpos, -⟩
    · rw [heq]
    · rw [chairs_left] at hv
      have hany : ((s.chairs.erase u.chairID).entries.any fun e => decide (0 < (attr e.2).contribution)) = true :=
        List.any_eq_true.2 ⟨⟨c, v⟩, AList.mem_lookup_iff.1 hv, decide_eq_true hpos⟩
      rw [hany] at hl
      cases hl
  · rename_i ho
    rw [if_neg ho, decide_eq_true_eq] at hl
    exact howner.trans hl

/-- Where no timeout is bound to the chair, the one whose id is kept is bound to another. -/
theorem ne_of_not_awaits {c : Nat} (h : s.awaits c = false) (i : Timeout) (hi : s.offlineWait.Pending i)
    (hid : s.offlineWait.checkTimerID = some i.timerID) : i.bindParameter ≠ c := by
  intro hc
  unfold State.awaits at h
  rw [List.any_eq_false] at h
  refine h i ?_ ?_
  · rw [List.mem_append, Option.mem_toList]
    exact hi
  · rw [Bool.and_eq_true]
    exact ⟨decide_eq_true hid, decide_eq_true hc⟩

/-- A user who may leave stands up: no timeout is bound to the chair, or the game ends with it. -/
theorem keeps_standUp (h : Seated cfg s) (hkind : cfg.kindID ≠ 104 ∧ cfg.kindID ≠ 800) (hr : s.offlineWait.Right)
    (hsafe : leaveTimely attr s r) : Keeps (standUp cfg attr s r) := by
  cases hu : s.users r with
  | none =>
    rw [standUp, standUpWith, hu]
    exact keeps_raised hr (by decide)
  | some u =>
    by_cases hc : s.chairs.lookup u.chairID = some r
    · simp only [leaveTimely, hu, hc, ne_eq, not_true_eq_false, decide_false, Bool.false_or, Bool.or_eq_true,
        Bool.not_eq_true', Bool.and_eq_true] at hsafe
      refine (ends_standUp_wait h hkind hr.toTimed hu hc).mono ?_ fun _ _ hf => hf.elim
      rintro t (⟨-, -, ht⟩ | ⟨hg, ht⟩ | ⟨ho, ht, -⟩)
      · exact ht.right
      · rcases hsafe with hb | ⟨hg', -⟩
        · rw [ht]
          exact (hr.leave (ne_of_not_awaits hb)).halt hg
        · exact absurd (hg.symm.trans hg') Bool.false_ne_true
      · rcases hsafe with hb | ⟨-, hl⟩
        · rw [ht]
          exact hr.leave (ne_of_not_awaits hb)
        · exact absurd (tableOwnerID_away h.toPlaced hu hl) ho
    · rw [standUp, standUpWith_other _ attr false hu hc]
      exact hr

theorem nobodyOffline_iff : s.nobodyOffline = true ↔ ∀ c, ¬s.offlineWait.Offline c := by
  unfold State.nobodyOffline OfflineWait.Offline
  rw [List.all_eq_true]
  simp only [State.offlineWait, decide_eq_true_eq, AList.mem_keys, not_and, not_not, ne_eq]

/-- A game that ends free leaves nothing to be waited for; otherwise nobody is offline, by the condition. -/
theorem keeps_concludeGame (h : Seated cfg s) (hr : s.offlineWait.Right) {gameStatus : GameStatus}
    (hsafe : timerSafe cfg s (.concludeGame attr gameStatus)) : Keeps (concludeGame cfg attr gameStatus s) := by
  cases hg : s.isGameStarted with
  | false =>
    rw [concludeGame, concludeAt_of_not_started 2 gameStatus hg]
    exact hr
  | true =>
    by_cases hfree : gameStatus = .free
    · rw [hfree]
      exact (ends_concludeGame_free h hr.toTimed hg).mono (fun t ht => ht.right) fun _ _ hf => hf.elim
    · simp only [timerSafe, hg, hfree, Bool.not_true, decide_false, Bool.or_false, Bool.false_or] at hsafe
      rw [concludeGame_of_ne_free hg hfree]
      have heq : (sendTableState (concludeTable cfg (s.concluding gameStatus))).offlineWait =
        s.offlineWait.conclude false := by
        refine (offlineWait_concludeTable cfg (s.concluding gameStatus)).trans ?_
        rw [offlineWait_concluding, decide_eq_false hfree]
      refine Attempt.ends_ok ?_
      rw [heq]
      exact hr.conclude hg (nobodyOffline_iff.1 hsafe)

/-! ## The start of the game -/

theorem offlineWait_back (s : State) (c : Nat) : (s.back c).offlineWait = s.offlineWait.back c := rfl

theorem offline_back {c c' : Nat} : (s.back c).offlineWait.Offline c' ↔ c' ≠ c ∧ s.offlineWait.Offline c' := by
  rw [offlineWait_back]
  exact OfflineWait.offline_back

/-- One turn of the loop of `startGame` for a chair that is taken. -/
theorem startUser_eq (hscore : cfg.serviceScore ≤ 0) {c v : Nat} (hv : s.chairs.lookup c = some v) :
    startUser cfg s c =
      match (s.back c).users v with
      | none => .fail (s.back c) (.raised .unusedObject)
      | some u =>
        if u.userStatus ≠ .usOffline ∧ u.userStatus ≠ .usPlaying then
          setUserStatus cfg (s.back c) u.userID .usPlaying cfg.id c
        else .ok (s.back c) := by
  rw [startUser, hv]
  simp only
  rw [if_neg (Int.not_lt.2 hscore)]
  rfl

/-- What the loop of `startGame` keeps: only the times since when users are offline have changed, and
none of them has grown. -/
def Starting (cfg : ServerConfig) (w : OfflineWait) (s : State) : Prop :=
  Seated cfg s ∧ ∃ f, s.offlineWait = { w with offlineTime := f } ∧ ∀ c, f c ≤ w.offlineTime c

/-- A user who is taken to be back is offline no more, and nothing else has changed. -/
theorem Starting.back {w : OfflineWait} (h : Starting cfg w s) (c : Nat) : Starting cfg w (s.back c) := by
  obtain ⟨hseated, f, hf, hle⟩ := h
  refine ⟨hseated.congr rfl rfl rfl rfl, Function.update f c 0, ?_, ?_⟩
  · rw [offlineWait_back, hf]
    rfl
  · intro c'
    by_cases hc : c' = c
    · simp [hc]
    · rw [Function.update_of_ne hc]
      exact hle c'

/-- One turn of the loop. -/
theorem ends_startUser {w : OfflineWait} (hscore : cfg.serviceScore ≤ 0) (h : Starting cfg w s) (c : Nat) :
    (startUser cfg s c).Ends
      (fun t => Starting cfg w t ∧ ¬t.offlineWait.Offline c ∧ ∀ c', ¬s.offlineWait.Offline c' → ¬t.offlineWait.Offline c')
      fun _ _ => False := by
  cases hv : s.chairs.lookup c with
  | none =>
    rw [startUser, hv]
    refine Attempt.ends_ok ⟨h, ?_, fun _ hc' => hc'⟩
    exact fun hoff => absurd (of_decide_eq_true hoff.1) (AList.lookup_eq_none.1 hv)
  | some v =>
    have hback := h.back c
    have hnot : ¬(s.back c).offlineWait.Offline c := fun hoff => (offline_back.1 hoff).1 rfl
    have hkeep : ∀ c', ¬s.offlineWait.Offline c' → ¬(s.back c).offlineWait.Offline c' :=
      fun c' hc' hoff => hc' (offline_back.1 hoff).2
    have hv' : (s.back c).chairs.lookup c = some v := hv
    rw [startUser_eq hscore hv]
    generalize s.back c = t at hback hnot hkeep hv' ⊢
    obtain ⟨x, hx, ht, rfl, -⟩ := hback.1.sits c v hv'
    simp only [hx]
    split
    · rw [setUserStatus_eq hback.1.toPlaced hx _ _ _ (fun hst => by cases hst)]
      refine Attempt.ends_ok ?_
      unfold Starting
      rw [offlineWait_writeUser]
      exact ⟨⟨hback.1.write hx hv' (by decide), hback.2⟩, hnot, hkeep⟩
    · exact Attempt.ends_ok ⟨hback, hnot, hkeep⟩

/-- The loop of `startGame` has every user back, so that the timer need not have been set. -/
theorem keeps_startGame (h : Seated cfg s) (hr : s.offlineWait.Right) (hsafe : timerSafe cfg s .startGame) : Keeps
    (startGame cfg s) := by
  cases hd : s.isDrawStarted with
  | true =>
    rw [startGame, if_pos hd]
    exact hr
  | false =>
    simp only [timerSafe, hd, Bool.false_or] at hsafe
    rw [startGame, if_neg (by simp [hd])]
    cases hg : s.isGameStarted with
    | true =>
      rw [hg, if_pos rfl] at hsafe
      have hno := nobodyOffline_iff.1 hsafe
      have hzero : ∀ c, s.offlineWait.taken c = true → s.offlineWait.offlineTime c = 0 := by
        intro c hc
        by_contra hoff
        exact hno c ⟨hc, hoff⟩
      exact Attempt.ends_ok (OfflineWait.right_start hr.toTimed (fun _ => Nat.le_refl _) hzero)
    | false =>
      rw [hg, if_neg Bool.false_ne_true, Bool.or_eq_true, decide_eq_true_eq, decide_eq_true_eq] at hsafe
      dsimp only
      rw [if_neg Bool.false_ne_true]
      have hinit : Starting cfg { s.offlineWait with isGameStarted := true, isFree := false }
          { s with isGameStarted := true, isDrawStarted := true, isTableStarted := true, gameStatus := .play } :=
        ⟨h.congr rfl rfl rfl rfl, s.offlineTime, rfl, fun _ => Nat.le_refl _⟩
      generalize
        hstarted : { s with isGameStarted := true, isDrawStarted := true, isTableStarted := true, gameStatus := .play } = t
      rw [hstarted] at hinit
      have hloop : (Attempt.forEach (startUser cfg) s.chairs.keys t).Ends
          (fun t' => Starting cfg { s.offlineWait with isGameStarted := true, isFree := false } t' ∧
            ∀ c ∈ s.chairs.keys, ¬t'.offlineWait.Offline c) fun _ _ => False := by
        rcases hsafe with hscore | hzero
        · refine (Attempt.ends_forEach_all (P := Starting cfg { s.offlineWait with isGameStarted := true, isFree := false })
            (D := fun c t' => ¬t'.offlineWait.Offline c) (fun t' c ht' => ends_startUser hscore ht' c) s.chairs.keys t
              hinit).mono ?_ fun _ _ hf => hf
          exact fun t' ht' => ⟨ht'.1, ht'.2.1⟩
        · rw [List.eq_nil_of_length_eq_zero hzero]
          exact Attempt.ends_ok ⟨hinit, nofun⟩
      refine Attempt.Ends.andThen
        (P := fun t' => Starting cfg { s.offlineWait with isGameStarted := true, isFree := false } t' ∧
          ∀ c ∈ s.chairs.keys, ¬t'.offlineWait.Offline c) ?_ ?_
      · refine Attempt.Ends.andThen (hloop.mono (fun _ ht' => ht') fun _ _ hf => hf.elim) fun t' ht' => ?_
        split
        · exact ht'
        · exact Attempt.ends_ok ⟨⟨ht'.1.1.sendTableState, ht'.1.2⟩, ht'.2⟩
      · rintro t' ⟨⟨-, f, hf, hle⟩, hno⟩
        have hlast : { t' with offlineCheckTimerID := none, timer := t'.timer.start }.offlineWait =
            { t'.offlineWait with checkTimerID := none, timer := t'.offlineWait.timer.start } := rfl
        refine Attempt.ends_ok ?_
        rw [hlast, hf]
        refine OfflineWait.right_start hr.toTimed hle fun c hc => ?_
        by_contra hoff
        refine hno c (AList.mem_keys.2 (taken_iff.1 hc)) ?_
        rw [hf]
        exact ⟨hc, hoff⟩

/-! ## Sitting down -/

/-- A user who sits down is not offline, and the timer is the same. -/
theorem offlineWait_taken (cfg : ServerConfig) (s : State) (r : Nat) (u : User) (c : Nat) :
    (s.taken cfg r u c).offlineWait = s.offlineWait.sit c := by
  have htaken : (fun c' => decide (c' ∈ s.chairs.insert c r)) =
    Function.update (fun c' => decide (c' ∈ s.chairs)) c true := by
    funext c'
    by_cases hc : c' = c
    · simp [hc]
    · simp [hc]
  rw [State.taken, offlineWait_writeUser, State.offlineWait, htaken]
  rfl

theorem offlineWait_owned (s : State) (cfg : ServerConfig) (userID : Nat) (a : SitArgs) :
    (s.owned cfg userID a).offlineWait = s.offlineWait := by
  rw [owned_eq]
  rfl

/-- A call that is refused changes nothing that the invariant is about, and one that goes through takes a chair in
which nobody was waited for. -/
theorem keeps_sitDown (h : Sound cfg s) (hr : s.offlineWait.Right) {c : Nat} {a : SitArgs}
    (hsafe : timerSafe cfg s (.sitDown attr r c a)) : Keeps (sitDown cfg attr s r c a) := by
  obtain ⟨hsit, hsafe⟩ := Bool.and_eq_true_iff.1 hsafe
  cases hu : s.users r with
  | none =>
    rw [sitDown, hu]
    exact keeps_raised hr (by decide)
  | some u =>
    by_cases hat : u.tableID = invalidTable ∧ u.chairID = invalidChair
    · cases href : sitRefusal cfg attr s r c a with
      | some failure =>
        rw [sitDown, hu]
        simp only
        rw [if_neg (not_not.2 hat), href]
        cases failure with
        | refused code => exact keeps_refused hr code
        | raised e => exact keeps_raised hr (by rw [sitRefusal_raised href]; decide)
      | none =>
        have hc := chair_free href
        simp only [hu, hat.1, hat.2, href, decide_true, Bool.and_self, Bool.not_true, Option.isSome_none, Bool.or_self,
          Bool.false_or, Bool.or_eq_true, decide_eq_true_eq] at hsafe
        rw [sitDown_eq h.1 hu hat hsit href hc, onActionUserSitDown]
        have hsound := h.sat hu hat.1 (sitChair cfg s c a) a
        have hwait : ((s.taken cfg r u (sitChair cfg s c a)).owned cfg u.userID a).offlineWait =
          s.offlineWait.sit (sitChair cfg s c a) :=
          (offlineWait_owned _ _ _ _).trans (offlineWait_taken _ _ _ _ _)
        have hstatus : ((s.taken cfg r u (sitChair cfg s c a)).owned cfg u.userID a).gameStatus = s.gameStatus := by
          rw [owned_eq, State.taken, writeUser_eq]
        have hdraw : ((s.taken cfg r u (sitChair cfg s c a)).owned cfg u.userID a).isDrawStarted = s.isDrawStarted := by
          rw [owned_eq, State.taken, writeUser_eq]
        have hright : (s.offlineWait.sit (sitChair cfg s c a)).Right := hr.sit (decide_eq_false hc)
        rw [← hwait] at hright
        generalize (s.taken cfg r u (sitChair cfg s c a)).owned cfg u.userID a = o at hsound hstatus hdraw hright ⊢
        split
        · rename_i hfree
          refine keeps_startGame hsound.1 hright ?_
          have hgame : o.isGameStarted = false := hright.free (decide_eq_true hfree)
          rcases hsafe with (hne | hd) | hscore
          · exact absurd (hstatus.symm.trans hfree) hne
          · exact Bool.or_eq_true_iff.2 (Or.inl (hdraw.trans hd))
          · refine Bool.or_eq_true_iff.2 (Or.inr ?_)
            show (if o.isGameStarted = true then _ else _) = true
            rw [if_neg (by simp [hgame])]
            exact Bool.or_eq_true_iff.2 (Or.inl (decide_eq_true hscore))
        · exact Attempt.ends_ok hright
    · rw [sitDown, hu]
      simp only
      rw [if_pos hat]
      exact keeps_raised hr (by decide)

/-! ## Users who are offline -/

/-- The search of `getOldestOfflineChairID`, from what has been found so far. -/
theorem foldl_oldest (offlineTime : Nat → Nat) (l : List Nat) (oldest : Option Nat) :
    (l.foldl (fun oldest c =>
        if offlineTime c ≠ 0 ∧ oldest.all (fun o => offlineTime c < offlineTime o) then some c else oldest) oldest = none →
      oldest = none ∧ ∀ c ∈ l, offlineTime c = 0) ∧
    ∀ c, l.foldl
      (fun oldest c => if offlineTime c ≠ 0 ∧ oldest.all (fun o => offlineTime c < offlineTime o) then some c else oldest)
        oldest = some c →
      (oldest = some c ∨ c ∈ l ∧ offlineTime c ≠ 0) ∧ (∀ o, oldest = some o → offlineTime c ≤ offlineTime o) ∧
        ∀ c' ∈ l, offlineTime c' ≠ 0 → offlineTime c ≤ offlineTime c' := by
  induction l generalizing oldest with
  | nil => exact ⟨fun h => ⟨h, by simp⟩, fun c h => ⟨Or.inl h, fun o ho => by rw [Option.some.inj (h.symm.trans ho)], nofun⟩⟩
  | cons x l ih =>
    rw [List.foldl_cons]
    split
    · rename_i hx
      obtain ⟨hnone, hsome⟩ := ih (some x)
      refine ⟨fun h => absurd (hnone h).1 nofun, fun c h => ?_⟩
      obtain ⟨hmem, hle, hmin⟩ := hsome c h
      have hlex := hle x rfl
      refine ⟨Or.inr ?_, ?_, ?_⟩
      · rcases hmem with heq | ⟨hl, hc⟩
        · obtain rfl := Option.some.inj heq
          exact ⟨List.mem_cons_self, hx.1⟩
        · exact ⟨List.mem_cons_of_mem _ hl, hc⟩
      · rintro o rfl
        have hlt : offlineTime x < offlineTime o := by simpa using hx.2
        omega
      · exact List.forall_mem_cons.2 ⟨fun _ => hlex, hmin⟩
    · rename_i hx
      obtain ⟨hnone, hsome⟩ := ih oldest
      refine ⟨fun h => ?_, fun c h => ?_⟩
      · obtain ⟨hold, hl⟩ := hnone h
        refine ⟨hold, List.forall_mem_cons.2 ⟨?_, hl⟩⟩
        by_contra hzero
        exact hx ⟨hzero, by rw [hold]; rfl⟩
      · obtain ⟨hmem, hle, hmin⟩ := hsome c h
        refine ⟨hmem.imp_right fun hl => ⟨List.mem_cons_of_mem _ hl.1, hl.2⟩, hle,
          List.forall_mem_cons.2 ⟨fun hzero => ?_, hmin⟩⟩
        cases hold : oldest with
        | none => exact absurd ⟨hzero, by rw [hold]; rfl⟩ hx
        | some o =>
          have hge : ¬offlineTime x < offlineTime o := fun hlt => hx ⟨hzero, by rw [hold]; simpa using hlt⟩
          have hleo := hle o hold
          omega

/-- Where `getOldestOfflineChairID` finds no chair, nobody is offline. -/
theorem not_offline_of_oldest (h : oldestOfflineChairID s = none) (c : Nat) : ¬s.offlineWait.Offline c :=
  fun hc => hc.2 (((foldl_oldest s.offlineTime s.chairs.keys none).1 h).2 c (AList.mem_keys.2 (taken_iff.1 hc.1)))

/-- It finds a chair whose user has been offline longest. -/
theorem offline_of_oldest {c : Nat} (h : oldestOfflineChairID s = some c) :
    s.offlineWait.Offline c ∧ ∀ c', s.offlineWait.Offline c' → s.offlineTime c ≤ s.offlineTime c' := by
  obtain ⟨hmem, -, hmin⟩ := (foldl_oldest s.offlineTime s.chairs.keys none).2 c h
  rcases hmem with heq | ⟨hl, hc⟩
  · cases heq
  · exact ⟨⟨taken_iff.2 (AList.mem_keys.1 hl), hc⟩, fun c' hc' => hmin c' (AList.mem_keys.2 (taken_iff.1 hc'.1)) hc'.2⟩

/-- The timeout is set; without the ticker it is an error, but then no game is started. -/
theorem keeps_setOfflineTimer {delay c : Nat} (ht : s.offlineWait.Timed) (hk : s.offlineWait.Ticking)
    (hid : s.offlineCheckTimerID = none) (hset : (s.offlineWait.set delay c).Right) :
    (setOfflineTimer s delay c).Ends
      (fun t => t.offlineWait.Right ∧ t.offlineCheckTimerID = some (s.timer.timerIDGenerator + 1)) fun t e =>
      t.offlineWait.Right ∧ t.offlineCheckTimerID = none ∧ e = .raised .timerNotActive := by
  unfold setOfflineTimer Timer.setTimeout
  split
  · rename_i hnone
    have hnot : s.isGameStarted = true → False := by
      intro hg
      have hen : s.timer.isTickerEnable = true := (hk.ticks hg).1
      rw [if_pos hen] at hnone
      cases hnone
    exact Attempt.ends_fail ⟨OfflineWait.right_of_none ht hk hid fun hg => (hnot hg).elim, hid, rfl⟩
  · rename_i timer timerID hsome
    split at hsome
    case isFalse => cases hsome
    obtain ⟨rfl, rfl⟩ := Prod.mk.inj (Option.some.inj hsome)
    exact Attempt.ends_ok ⟨hset, rfl⟩

/-- The timer is adjusted to the one who has been offline longest. -/
theorem keeps_adjust (ht : s.offlineWait.Timed) (hk : s.offlineWait.Ticking) (hid : s.offlineCheckTimerID = none)
    (hsafe : adjustSafe s) {c : Nat} (hc : oldestOfflineChairID s = some c) :
    (adjustOfflineTimer s c).Ends
      (fun t => t.offlineWait.Right ∧ t.offlineCheckTimerID = some (s.timer.timerIDGenerator + 1)) fun t e =>
      t.offlineWait.Right ∧ t.offlineCheckTimerID = none ∧ e = .raised .timerNotActive := by
  obtain ⟨hoff, hmin⟩ := offline_of_oldest hc
  simp only [adjustSafe, hc, Option.all_some, decide_eq_true_eq] at hsafe
  have hpast : s.offlineTime c ≤ s.time ∧ s.offlineTick c ≤ s.ticks := ht.past c
  refine keeps_setOfflineTimer ht hk hid (OfflineWait.right_set ht hk hoff (fun _ => hmin) ?_)
  show s.offlineTick c + tickspanTableOfflineWait ≤ tickspanTableOfflineWait - (s.time - s.offlineTime c) + s.ticks
  omega

/-- The status of a user is not one of the times the timer goes by. -/
theorem keeps_setUserStatus (hr : s.offlineWait.Right) (userID : Nat) (st : UserStatus) (t c : Nat) :
    Keeps (setUserStatus cfg s userID st t c) := by
  unfold setUserStatus
  split
  case h_1 => exact hr
  split
  case h_1 => exact keeps_raised hr (by decide)
  split
  · exact keeps_raised hr (by decide)
  · refine Attempt.ends_ok ?_
    rw [offlineWait_writeUser]
    exact hr

/-- The table where the user in the chair has gone offline. -/
def State.goOffline (s : State) (c : Nat) : State :=
  { s with
    offlineTime := Function.update s.offlineTime c s.time
    offlineTick := Function.update s.offlineTick c s.ticks }

/-- A user who plays goes offline, whom the timeout is not for. -/
theorem keeps_goOffline (hkind : cfg.kindID ≠ 104 ∧ cfg.kindID ≠ 800) (hr : s.offlineWait.Right) {c : Nat}
    (hc : s.offlineWait.taken c = true)
    (hb : ∀ i, s.offlineWait.Pending i → s.offlineWait.checkTimerID = some i.timerID → i.bindParameter ≠ c) :
    Keeps (if (s.goOffline c).offlineCheckTimerID = none ∧ cfg.kindID ≠ 104 ∧ cfg.kindID ≠ 800 then
      setOfflineTimer (s.goOffline c) tickspanTableOfflineWait c else .ok (s.goOffline c)) := by
  have hid : (s.goOffline c).offlineCheckTimerID = s.offlineCheckTimerID := rfl
  rw [hid]
  cases hnone : s.offlineCheckTimerID with
  | none =>
    rw [if_pos ⟨rfl, hkind⟩]
    have htimed : (s.goOffline c).offlineWait.Timed := hr.toTimed.goOffline c
    have hticking : (s.goOffline c).offlineWait.Ticking := ⟨hr.ticks, hr.free⟩
    refine (keeps_setOfflineTimer htimed hticking hnone (hr.goOffline_set hnone hc)).mono (fun _ ht => ht.1)
      fun _ _ ht => ⟨ht.1, ?_⟩
    rw [ht.2.2]
    exact nofun
  | some timerID =>
    rw [if_neg (fun hif => absurd hif.1 nofun)]
    have hoff : (s.goOffline c).offlineWait.Right := hr.goOffline hnone hb
    exact Attempt.ends_ok hoff

/-- A user who goes offline stands up, or is waited for from now on. -/
theorem keeps_userOffLine (h : Seated cfg s) (hkind : cfg.kindID ≠ 104 ∧ cfg.kindID ≠ 800) (hr : s.offlineWait.Right)
    (hsafe : timerSafe cfg s (.userOffLine attr r)) : Keeps (userOffLine cfg attr s r) := by
  unfold userOffLine
  split
  case h_1 => exact keeps_raised hr (by decide)
  rename_i u hu
  split
  · exact keeps_setUserStatus hr _ _ _ _
  rename_i hc
  rw [ne_eq, not_not] at hc
  simp only [timerSafe, hu, hc, ne_eq, not_true_eq_false, decide_false, Bool.false_or] at hsafe
  split
  · rename_i hst
    rw [if_pos hst, Bool.not_eq_true'] at hsafe
    have htaken : s.offlineWait.taken u.chairID = true := taken_iff.2 (AList.lookup_isSome.1 (by rw [hc]; rfl))
    rw [setUserStatus_eq h.toPlaced hu _ _ _ fun _ => h.data_of_sits hc, Attempt.ok_andThen]
    have hwait := offlineWait_writeUser s u.userID r u .usOffline cfg.id u.chairID
    exact keeps_goOffline hkind (hwait ▸ hr) (hwait ▸ htaken) (hwait ▸ ne_of_not_awaits hsafe)
  · rename_i hst
    rw [if_neg hst] at hsafe
    exact Attempt.Ends.andThen (keeps_standUp h hkind hr hsafe) fun t ht => keeps_setUserStatus ht _ _ _ _

/-- The table where the timeout has been cleared. -/
def State.forget (s : State) (timerID : Nat) : State :=
  { s with timer := s.timer.clearTimer timerID, offlineCheckTimerID := none }

/-- A user who is back clears the timeout, and it is set again for the one who has been offline longest. -/
theorem keeps_gameOption (hr : s.offlineWait.Right) (hsafe : timerSafe cfg s (.gameOption r)) : Keeps (gameOption s r) := by
  unfold gameOption
  split
  case h_1 => exact keeps_raised hr (by decide)
  rename_i u hu
  split
  case isTrue => exact keeps_raised hr (by decide)
  rename_i hc
  rw [ne_eq, not_not] at hc
  simp only [timerSafe, hu, hc, ne_eq, not_true_eq_false, decide_false, Bool.false_or, Bool.or_eq_true,
    decide_eq_true_eq] at hsafe
  dsimp only
  refine Attempt.Ends.andThen (P := fun t => t.offlineWait.Right) ?_ ?_
  · split
    · rename_i hback
      split
      · -- No id is kept: the user was not offline in a game that is started.
        rename_i hnone
        refine Attempt.ends_ok ?_
        have hid : (s.back u.chairID).offlineWait.checkTimerID = none := hnone
        refine OfflineWait.right_of_none (hr.toTimed.back _) ⟨hr.ticks, hr.free⟩ hid fun hg c hoff => ?_
        exact hr.not_offline hnone hg c (offline_back.1 hoff).2
      · rename_i timerID hsome
        have hadjust : adjustSafe (s.back u.chairID) := by
          rcases hsafe with (hzero | hnone) | hadjust
          · exact absurd hzero hback.2
          · rw [hsome] at hnone
            cases hnone
          · exact hadjust
        have htimed : ((s.back u.chairID).offlineWait.forget timerID).Timed := (hr.toTimed.back _).forget timerID
        have hticking : ((s.back u.chairID).offlineWait.forget timerID).Ticking := ⟨hr.ticks, hr.free⟩
        split
        · rename_i hold
          refine Attempt.ends_ok ?_
          have hnobody : ∀ c, ¬(s.back u.chairID).offlineWait.Offline c := not_offline_of_oldest hold
          exact OfflineWait.right_of_none htimed hticking rfl fun _ c => hnobody c
        · rename_i c hold
          refine (keeps_adjust (s := (s.back u.chairID).forget timerID) htimed hticking rfl hadjust hold).mono
            (fun _ ht => ht.1)
            fun _ _ ht => ⟨ht.1, ?_⟩
          rw [ht.2.2]
          exact nofun
    · exact hr
  · intro t ht
    split
    · exact ⟨ht, nofun⟩
    · exact ht

/-- A user who is kicked stands up. -/
theorem keeps_kickUser (h : Seated cfg s) (hkind : cfg.kindID ≠ 104 ∧ cfg.kindID ≠ 800) (hr : s.offlineWait.Right) {c : Nat}
    (hsafe : timerSafe cfg s (.kickUser attr r c)) : Keeps (kickUser cfg attr s r c) := by
  unfold kickUser
  split
  case h_1 => exact keeps_refused hr _
  rename_i v hv
  simp only [timerSafe, hv, Option.all_some] at hsafe
  split
  case h_1 => exact keeps_raised hr (by decide)
  split_ifs
  · exact keeps_refused hr _
  · exact keeps_raised hr (by decide)
  · exact keeps_refused hr _
  · exact keeps_refused hr _
  · exact keeps_standUp h hkind hr hsafe
  · exact keeps_standUp h hkind hr hsafe
  · exact keeps_refused hr _
  · exact keeps_refused hr _

/-- The lock of a room has nothing to do with the timer. -/
theorem keeps_lockRoom (hr : s.offlineWait.Right) (r : Nat) (isLock : Bool) : Keeps (lockRoom attr s r isLock) := by
  unfold lockRoom
  split
  case h_1 => exact keeps_raised hr (by decide)
  split
  case isTrue => exact keeps_refused hr _
  split
  case isTrue => exact keeps_refused hr _
  exact Attempt.ends_ok hr

/-! ## The timeout comes -/

/-- The table where the timeout has found the user in the chair. -/
def State.expire (s : State) (userItem c : Nat) : State :=
  { s with
    offlineCheckTimerID := none
    expiries := ⟨userItem, s.offlineTime c, s.ticks - s.offlineTick c⟩ :: s.expiries }

/-- What the function of the timeout does for a chair that is taken: the user stands up, and in a game that is started
the timer is adjusted. -/
theorem onTimerOfflineWait_eq {c : Nat} (hid : s.offlineCheckTimerID ≠ none) (hr : s.chairs.lookup c = some r) :
    onTimerOfflineWait cfg attr s c =
      (standUp cfg attr (s.expire r c) r).andThen fun s =>
        match s.isGameStarted, oldestOfflineChairID s with
        | true, some c => adjustOfflineTimer s c
        | _, _ => .ok s := by
  rw [onTimerOfflineWait, if_neg hid]
  simp only [hr]
  rfl

theorem adjustSafe_congr {t : State} (hc : t.chairs = s.chairs) (ho : t.offlineTime = s.offlineTime)
    (hk : t.offlineTick = s.offlineTick) (ht : t.time = s.time) (hn : t.ticks = s.ticks) :
    adjustSafe t = adjustSafe s := by
  unfold adjustSafe oldestOfflineChairID
  rw [hc, ho, hk, ht, hn]

/-- After `standUp` the timer is adjusted in a game that is started. -/
theorem keeps_readjust {i : Timeout} (ht : s.offlineWait.Timed) (hk : s.offlineWait.Ticking)
    (hid : s.offlineCheckTimerID = none) (hi : i.timerID ≤ s.timer.timerIDGenerator)
    (hsafe : s.isGameStarted = true → adjustSafe s) :
    (match s.isGameStarted, oldestOfflineChairID s with
      | true, some c => adjustOfflineTimer s c
      | _, _ => .ok s : Run).Ends
      (fun t => t.offlineWait.Right ∧ t.offlineCheckTimerID ≠ some i.timerID) fun t e =>
      (t.offlineWait.Right ∧ t.offlineCheckTimerID ≠ some i.timerID) ∧ e ≠ .raised .offlineUserNotFound := by
  have hne : s.offlineCheckTimerID ≠ some i.timerID := by rw [hid]; exact nofun
  cases hg : s.isGameStarted with
  | false =>
    refine Attempt.ends_ok ⟨OfflineWait.right_of_none ht hk hid fun hg' => ?_, hne⟩
    exact absurd (hg'.symm.trans hg) (by decide)
  | true =>
    cases hold : oldestOfflineChairID s with
    | none => exact Attempt.ends_ok ⟨OfflineWait.right_of_none ht hk hid fun _ => not_offline_of_oldest hold, hne⟩
    | some c =>
      refine (keeps_adjust ht hk hid (hsafe hg) hold).mono ?_ ?_
      · rintro t ⟨hright, hnew⟩
        refine ⟨hright, fun heq => ?_⟩
        have hnum : s.timer.timerIDGenerator + 1 = i.timerID := Option.some.inj (hnew.symm.trans heq)
        omega
      · rintro t e ⟨hright, hnone, rfl⟩
        exact ⟨⟨hright, by rw [hnone]; exact nofun⟩, nofun⟩

/-- The timeout finds the user in the chair it is bound to. -/
theorem keeps_onTimerOfflineWait (attr : Nat → Attr) (h : Seated cfg s) (hkind : cfg.kindID ≠ 104 ∧ cfg.kindID ≠ 800)
    (hr : s.offlineWait.Right) {i : Timeout} (hrun : s.timer.running = some i)
    (hsafe : s.offlineCheckTimerID = none ∨ s.offlineCheckTimerID = some i.timerID ∧
      (s.isGameStarted = false ∨ adjustSafe { s with chairs := s.chairs.erase i.bindParameter })) :
    (onTimerOfflineWait cfg attr s i.bindParameter).Ends
      (fun t => t.offlineWait.Right ∧ t.offlineCheckTimerID ≠ some i.timerID) fun t e =>
      (t.offlineWait.Right ∧ t.offlineCheckTimerID ≠ some i.timerID) ∧ e ≠ .raised .offlineUserNotFound := by
  rcases hsafe with hnone | ⟨hid, hadjust⟩
  · rw [onTimerOfflineWait, if_pos hnone]
    exact Attempt.ends_ok ⟨hr, by rw [hnone]; exact nofun⟩
  · have hoff : s.offlineWait.Offline i.bindParameter := hr.offline i (Or.inr hrun) hid
    obtain ⟨r, hlookup⟩ := Option.isSome_iff_exists.1 (AList.lookup_isSome.2 (taken_iff.1 hoff.1))
    obtain ⟨u, hu, -, hchair, -⟩ := h.sits _ _ hlookup
    have hlookup' : (s.expire r i.bindParameter).chairs.lookup u.chairID = some r := by rw [hchair]; exact hlookup
    have hexpire : (s.expire r i.bindParameter).offlineWait.Timed := hr.expire hrun hid r
    have hseated : Seated cfg (s.expire r i.bindParameter) := h.congr rfl rfl rfl rfl
    have hfresh : i.timerID ≤ s.timer.timerIDGenerator := hr.fresh i (Or.inr hrun)
    rw [onTimerOfflineWait_eq (by rw [hid]; exact nofun) hlookup]
    refine Attempt.Ends.andThen
      ((ends_standUp_wait hseated hkind hexpire hu hlookup').mono (fun _ ht => ht) fun _ _ hf => hf.elim) ?_
    rintro t (⟨-, -, hquiet⟩ | ⟨hg, hwait⟩ | ⟨-, hwait, hchairs⟩)
    · have hover : t.isGameStarted = false := hquiet.ended
      have hforgotten : t.offlineCheckTimerID = none := hquiet.forgotten
      rw [hover]
      exact Attempt.ends_ok ⟨hquiet.right, by rw [hforgotten]; exact nofun⟩
    · have hnot : t.isGameStarted = false := (congrArg OfflineWait.isGameStarted hwait).trans hg
      have hforgotten : t.offlineCheckTimerID = none := congrArg OfflineWait.checkTimerID hwait
      have hquiet : t.offlineWait.Quiet := ⟨hwait ▸ (hexpire.leave _).halt, hnot, hforgotten⟩
      rw [hnot]
      exact Attempt.ends_ok ⟨hquiet.right, by rw [hforgotten]; exact nofun⟩
    · have hticking : t.offlineWait.Ticking := hwait ▸ ⟨hr.ticks, hr.free⟩
      have hforgotten : t.offlineCheckTimerID = none := congrArg OfflineWait.checkTimerID hwait
      have htimer : t.timer = s.timer := congrArg OfflineWait.timer hwait
      refine keeps_readjust (hwait ▸ hexpire.leave _) hticking hforgotten (htimer ▸ hfresh) fun hg => ?_
      have hstart : s.isGameStarted = true := (congrArg OfflineWait.isGameStarted hwait).symm.trans hg
      rcases hadjust with hnot | hadjust
      · exact absurd (hnot.symm.trans hstart) Bool.false_ne_true
      · rw [adjustSafe_congr (s := { s with chairs := s.chairs.erase i.bindParameter }) (hchairs.trans (by rw [hchair]; rfl))
          (congrArg OfflineWait.offlineTime hwait) (congrArg OfflineWait.offlineTick hwait) (congrArg OfflineWait.time hwait)
          (congrArg OfflineWait.ticks hwait)]
        exact hadjust

end Moves

/-! ## The run -/

section Run

variable {cfg : ServerConfig} {s s' : State}

/-- An operation is settled. -/
theorem right_settle {a : Run} (h : Keeps a) : (settle a).offlineWait.Right := by
  unfold Keeps Attempt.Ends at h
  unfold settle
  split at h
  · rename_i hn
    rw [hn]
    exact h
  · rename_i e he
    rw [he]
    have hlog : { a.state with log := e :: a.state.log }.offlineWait = a.state.offlineWait := by
      have hmem : decide (Failure.raised .offlineUserNotFound ∈ e :: a.state.log) =
          decide (Failure.raised .offlineUserNotFound ∈ a.state.log) := by
        simp [h.2.symm]
      simp only [State.offlineWait, hmem]
    simp only
    rw [hlog]
    exact h.1

/-- The timeout has come, and its function has returned. -/
theorem right_timeout {attr : Nat → Attr} (h : Seated cfg s) (hkind : cfg.kindID ≠ 104 ∧ cfg.kindID ≠ 800)
    (hr : s.offlineWait.Right) (hsafe : timerSafe cfg s (.timeout attr)) (hs : step cfg s (.timeout attr) = some s') :
    s'.offlineWait.Right := by
  obtain ⟨i, hrun, rfl⟩ := Option.map_eq_some_iff.1 hs
  simp only [timerSafe, hrun, Option.all_some, Bool.or_eq_true, Bool.and_eq_true, Bool.not_eq_true',
    decide_eq_true_eq] at hsafe
  have hends := keeps_onTimerOfflineWait attr h hkind hr hrun hsafe
  have hright := right_settle (hends.mono (fun _ ht => ht.1) fun _ _ ht => ⟨ht.1.1, ht.2⟩)
  have hid : (settle (onTimerOfflineWait cfg attr s i.bindParameter)).offlineCheckTimerID ≠ some i.timerID := by
    unfold settle
    unfold Attempt.Ends at hends
    split at hends
    · rename_i hn
      rw [hn]
      exact hends.2
    · rename_i e he
      rw [he]
      exact hends.1.2
  exact hright.returned hid

theorem sitSafe_of_timerSafe {i : Label} (h : timerSafe cfg s i) : sitSafe cfg s i := by
  cases i with
  | sitDown attr r c a => exact (Bool.and_eq_true_iff.1 h).1
  | _ => rfl

/-- One label. -/
theorem right_step {i : Label} (hkind : cfg.kindID ≠ 104 ∧ cfg.kindID ≠ 800) (h : Sound cfg s) (hr : s.offlineWait.Right)
    (hsafe : timerSafe cfg s i) (hs : step cfg s i = some s') : s'.offlineWait.Right := by
  cases i with
  | sitDown attr r c a => exact Option.some.inj hs ▸ right_settle (keeps_sitDown h hr hsafe)
  | standUp attr r => exact Option.some.inj hs ▸ right_settle (keeps_standUp h.1 hkind hr hsafe)
  | userOffLine attr r => exact Option.some.inj hs ▸ right_settle (keeps_userOffLine h.1 hkind hr hsafe)
  | kickUser attr r c => exact Option.some.inj hs ▸ right_settle (keeps_kickUser h.1 hkind hr hsafe)
  | gameOption r => exact Option.some.inj hs ▸ right_settle (keeps_gameOption hr hsafe)
  | lockRoom attr r isLock => exact Option.some.inj hs ▸ right_settle (keeps_lockRoom hr r isLock)
  | startGame => exact Option.some.inj hs ▸ right_settle (keeps_startGame h.1 hr hsafe)
  | concludeGame attr gameStatus => exact Option.some.inj hs ▸ right_settle (keeps_concludeGame h.1 hr hsafe)
  | wake =>
    obtain ⟨timer, ht, rfl⟩ := Option.map_eq_some_iff.1 hs
    exact hr.wake ht
  | call timerID =>
    obtain ⟨timer, ht, rfl⟩ := Option.map_eq_some_iff.1 hs
    exact hr.call ht
  | timeout attr => exact right_timeout h.1 hkind hr hsafe hs
  | sleep =>
    obtain ⟨timer, ht, rfl⟩ := Option.map_eq_some_iff.1 hs
    exact hr.sleep ht
  | clock seconds => exact Option.some.inj hs ▸ hr.clock seconds
  | rehash chairs =>
    simp only [TableFrame.step] at hs
    split at hs
    · rename_i hp
      obtain rfl := Option.some.inj hs
      have htaken : (fun c => decide (c ∈ chairs)) = fun c => decide (c ∈ s.chairs) := by
        funext c
        simp only [AList.mem_of_perm (List.isPerm_iff.1 hp)]
      have heq : { s with chairs := chairs }.offlineWait = s.offlineWait := by
        simp only [State.offlineWait, htaken]
      rw [heq]
      exact hr
    · cases hs
  | login r userID isAndroid =>
    simp only [TableFrame.step] at hs
    split at hs
    · exact Option.some.inj hs ▸ hr
    · cases hs
  | switchUserItem r =>
    obtain ⟨u, -, rfl | rfl⟩ := switchUserItem_cases hs
    · exact hr
    · rw [offlineWait_writeUser]
      exact hr
  | elsewhere r st t c =>
    obtain ⟨u, -, -, rfl⟩ := elsewhere_cases hs
    rw [offlineWait_writeUser]
    exact hr

end Run

/-- In every run at a table of another kind than 104 and 800, all of whose steps meet the condition: every user whom the
timeout has stood up was offline and had been for at least `TICKSPAN_TABLE_OFFLINE_WAIT` ticks; the timeout has always found
a user in its chair; and in a game that is started, while a user in a chair is offline, a timeout is set for the chair of one
who has been offline longest. -/
theorem timeout_for_oldest_of_timerSafe (cfg : ServerConfig) (hkind : cfg.kindID ≠ 104 ∧ cfg.kindID ≠ 800) (time : Nat)
    (htime : time ≠ 0) (is : List Label) (s : State)
    (hm : Steps.Meets (step cfg) (fun s i => timerSafe cfg s i) (State.init time) is)
    (h : Steps.exec (step cfg) (State.init time) is = some s) :
    (∀ e ∈ s.expiries, e.offlineTime ≠ 0 ∧ tickspanTableOfflineWait ≤ e.waited) ∧
    .raised .offlineUserNotFound ∉ s.log ∧
    (s.isGameStarted = true → (∃ c ∈ s.chairs, s.offlineTime c ≠ 0) →
      ∃ i ∈ s.timer.activeTimer, s.offlineCheckTimerID = some i.timerID ∧ i.bindParameter ∈ s.chairs ∧
        s.offlineTime i.bindParameter ≠ 0 ∧
        ∀ c ∈ s.chairs, s.offlineTime c ≠ 0 → s.offlineTime i.bindParameter ≤ s.offlineTime c) := by
  have hinit : (State.init time).offlineWait.Right := by
    have htimed : (State.init time).offlineWait.Timed := by
      refine ⟨?_, fun _ => ⟨Nat.zero_le _, Nat.le_refl _⟩, htime, nofun, rfl⟩
      rintro i (hi | hi) <;> cases hi
    exact OfflineWait.Quiet.right ⟨htimed, rfl, rfl⟩
  have hinv : Sound cfg s ∧ s.offlineWait.Right := by
    refine Steps.exec_invariant (I := fun s => Sound cfg s ∧ s.offlineWait.Right) ?_ is _ s ⟨sound_init cfg time, hinit⟩ hm h
    intro s i s' hs hsafe hstep
    exact ⟨hs.1.step (sitSafe_of_timerSafe hsafe) hstep, right_step hkind hs.1 hs.2 hsafe hstep⟩
  refine ⟨hinv.2.expired, of_decide_eq_false hinv.2.found, ?_⟩
  rintro hg ⟨c, hc, hoff⟩
  obtain ⟨i, hi, hid, hmin⟩ := hinv.2.oldest hg ⟨c, taken_iff.2 hc, hoff⟩
  have hbound : s.offlineWait.Offline i.bindParameter := hinv.2.offline i (Or.inl hi) hid
  exact ⟨i, hi, hid, taken_iff.1 hbound.1, hbound.2, fun c' hc' hoff' => hmin c' ⟨taken_iff.2 hc', hoff'⟩⟩

/-- Two users sit down, whom the rules do not concern, and the first one goes offline, at a tick. -/
def firstOffline : List Label :=
  [.login 1 101 false, .login 2 102 false, .sitDown (fun _ => { masterOrder := 1 }) 1 1 {},
    .sitDown (fun _ => { masterOrder := 1 }) 2 2 {}, .wake, .userOffLine (fun _ => {}) 1]

/-- Sixty ticks later the timeout comes, and then the second user goes offline too. -/
def stoodUp : List Label :=
  firstOffline ++ (List.replicate 60 [Label.sleep, .wake]).flatten ++
    [.call 11, .timeout (fun _ => { contribution := 1 }), .userOffLine (fun _ => {}) 2]

/-- After the first user has been stood up the table waits for the second one. -/
theorem timeout_for_oldest_of_timerSafe_stoodUp :
    ∃ s, Steps.exec (step { id := 7, serverID := 1, kindID := 1, chairPerTable := 4 }) (State.init 1000) stoodUp = some s ∧
      s.expiries.length = 1 ∧ ∀ e ∈ s.expiries, e.offlineTime ≠ 0 ∧ tickspanTableOfflineWait ≤ e.waited := by
  have hsome : (Steps.exec (step { id := 7, serverID := 1, kindID := 1, chairPerTable := 4 }) (State.init 1000)
    stoodUp).isSome := by
    decide +kernel
  refine ⟨_, (Option.some_get hsome).symm, by decide +kernel +revert, ?_⟩
  exact (timeout_for_oldest_of_timerSafe { id := 7, serverID := 1, kindID := 1, chairPerTable := 4 } (by decide) 1000
    (by decide) stoodUp _
    (by decide +kernel) (Option.some_get hsome).symm).1

/-- Both users go offline, and the first one comes back and stands up before the game has had a message. -/
def standsUpInstead : List Label :=
  firstOffline ++ [.userOffLine (fun _ => {}) 2, .switchUserItem 1, .standUp (fun _ => { contribution := 1 }) 1]

/-- The timeout of the user who has stood up instead finds nobody in the chair, while the other user is not waited
for. -/
theorem timeout_for_empty_chair :
    ¬∀ (cfg : ServerConfig), cfg.kindID ≠ 104 ∧ cfg.kindID ≠ 800 → ∀ (time : Nat), time ≠ 0 →
      ∀ (is : List Label) (s : State),
      Steps.exec (step cfg) (State.init time) is = some s →
      (∀ e ∈ s.expiries, e.offlineTime ≠ 0 ∧ tickspanTableOfflineWait ≤ e.waited) ∧
      .raised .offlineUserNotFound ∉ s.log ∧
      (s.isGameStarted = true → (∃ c ∈ s.chairs, s.offlineTime c ≠ 0) →
        ∃ i ∈ s.timer.activeTimer, s.offlineCheckTimerID = some i.timerID ∧ i.bindParameter ∈ s.chairs ∧
          s.offlineTime i.bindParameter ≠ 0 ∧
          ∀ c ∈ s.chairs, s.offlineTime c ≠ 0 → s.offlineTime i.bindParameter ≤ s.offlineTime c) := by
  intro h
  have hsome : (Steps.exec (step { id := 7, serverID := 1, kindID := 1, chairPerTable := 4 }) (State.init 1000)
    standsUpInstead).isSome := by
    decide +kernel
  obtain ⟨-, -, hlive⟩ :=
    h { id := 7, serverID := 1, kindID := 1, chairPerTable := 4 } (by decide) 1000 (by decide) standsUpInstead _
    (Option.some_get hsome).symm
  obtain ⟨i, hi, -, hmem, -⟩ := hlive (by decide +kernel +revert) ⟨2, by decide +kernel +revert, by decide +kernel +revert⟩
  revert i
  decide +kernel +revert

end SasyServer.TableFrame
