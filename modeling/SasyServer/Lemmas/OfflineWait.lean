import SasyServer.Lemmas.TableSeats

/-!
# Lemmas: the timeout of the users who are offline

What the timeout has to do with is only a part of the table: which chairs are taken and since when their users are offline,
the timer and the id that is kept of it, and whether the game is started. The users and what they own play no part. The
operations of the table are moves of this part, and the moves keep the invariant, each under a condition of its own.
-/

namespace SasyServer.TableFrame

/-- What the timeout has to do with. `isFree` is the game status `FREE`, and `notFound` that a
timeout has raised its error. -/
structure OfflineWait where
  taken : Nat → Bool
  offlineTime : Nat → Nat
  offlineTick : Nat → Nat
  isGameStarted : Bool
  isFree : Bool
  checkTimerID : Option Nat
  timer : Timer
  time : Nat
  ticks : Nat
  expiries : List Expiry
  notFound : Bool

/-- This part of a table. -/
def State.offlineWait (s : State) : OfflineWait where
  taken c := decide (c ∈ s.chairs)
  offlineTime := s.offlineTime
  offlineTick := s.offlineTick
  isGameStarted := s.isGameStarted
  isFree := decide (s.gameStatus = .free)
  checkTimerID := s.offlineCheckTimerID
  timer := s.timer
  time := s.time
  ticks := s.ticks
  expiries := s.expiries
  notFound := decide (.raised .offlineUserNotFound ∈ s.log)

namespace OfflineWait

/-! ## The invariant -/

/-- A timeout is set, or its function has been called. -/
def Pending (w : OfflineWait) (i : Timeout) : Prop := i ∈ w.timer.activeTimer ∨ w.timer.running = some i

/-- A user in a chair is offline. -/
def Offline (w : OfflineWait) (c : Nat) : Prop := w.taken c = true ∧ w.offlineTime c ≠ 0

/-- What has happened so far: the numbers of the timeouts are not yet used, the times are not in the future, and every user
who was stood up had waited. -/
structure Timed (w : OfflineWait) : Prop where
  fresh : ∀ i, w.Pending i → i.timerID ≤ w.timer.timerIDGenerator
  past : ∀ c, w.offlineTime c ≤ w.time ∧ w.offlineTick c ≤ w.ticks
  now : w.time ≠ 0
  expired : ∀ e ∈ w.expiries, e.offlineTime ≠ 0 ∧ tickspanTableOfflineWait ≤ e.waited
  found : w.notFound = false

/-- The timeout whose id is kept is bound to the chair of a user who is offline, and is not due
before that user has waited. -/
structure Bound (w : OfflineWait) : Prop where
  offline : ∀ i, w.Pending i → w.checkTimerID = some i.timerID → w.Offline i.bindParameter
  due : ∀ i ∈ w.timer.activeTimer, w.checkTimerID = some i.timerID →
    w.offlineTick i.bindParameter + tickspanTableOfflineWait + w.timer.tick ≤ i.nextTick + w.ticks
  waited : ∀ i, w.timer.running = some i → w.checkTimerID = some i.timerID →
    w.offlineTick i.bindParameter + tickspanTableOfflineWait ≤ w.ticks

/-- In a game that is started the ticker runs. -/
structure Ticking (w : OfflineWait) : Prop where
  ticks : w.isGameStarted = true → w.timer.isTickerEnable = true ∧ w.timer.tickStep = true
  free : w.isFree = true → w.isGameStarted = false

/-- The timeout for the one who has been offline longest is set. -/
def Oldest (w : OfflineWait) : Prop :=
  (∃ c, w.Offline c) → ∃ i ∈ w.timer.activeTimer, w.checkTimerID = some i.timerID ∧
    ∀ c, w.Offline c → w.offlineTime i.bindParameter ≤ w.offlineTime c

/-- The invariant. In a game that is started the timeout whose id is kept is set. -/
structure Right (w : OfflineWait) : Prop extends Timed w, Bound w, Ticking w where
  alive : w.isGameStarted = true → ∀ timerID, w.checkTimerID = some timerID → ∃ i ∈ w.timer.activeTimer, i.timerID = timerID
  oldest : w.isGameStarted = true → w.Oldest

/-- After the end of the game: nothing is waited for. -/
structure Quiet (w : OfflineWait) : Prop extends Timed w where
  ended : w.isGameStarted = false
  forgotten : w.checkTimerID = none

variable {w : OfflineWait}

/-- Where no id is kept, nothing is bound. -/
theorem bound_of_none (h : w.checkTimerID = none) : w.Bound := by
  refine ⟨?_, ?_, ?_⟩
  all_goals
    intro i _ hid
    rw [h] at hid
    cases hid

/-- Where no id is kept, nobody is offline in a game that is started. -/
theorem right_of_none (h : w.Timed) (ht : w.Ticking) (hid : w.checkTimerID = none)
    (hno : w.isGameStarted = true → ∀ c, ¬w.Offline c) :
    w.Right := by
  refine ⟨h, bound_of_none hid, ht, ?_, ?_⟩
  · intro _ timerID hsome
    rw [hid] at hsome
    cases hsome
  · rintro hg ⟨c, hc⟩
    exact absurd hc (hno hg c)

theorem Quiet.right (h : w.Quiet) : w.Right := by
  have hg : w.isGameStarted = true → False := fun hg => absurd (hg.symm.trans h.ended) (by decide)
  exact right_of_none h.toTimed ⟨fun hs => (hg hs).elim, fun _ => h.ended⟩ h.forgotten fun hs => (hg hs).elim

/-- While nothing is waited for, nobody is offline in a game that is started. -/
theorem Right.not_offline (h : w.Right) (hid : w.checkTimerID = none) (hg : w.isGameStarted = true)
    (c : Nat) : ¬w.Offline c := by
  intro hc
  obtain ⟨i, -, hi, -⟩ := h.oldest hg ⟨c, hc⟩
  rw [hid] at hi
  cases hi

/-! ## Sitting down, leaving and the end of the game -/

/-- The user in the chair leaves. -/
def leave (w : OfflineWait) (c : Nat) : OfflineWait := { w with taken := Function.update w.taken c false }

/-- The ticker is stopped. -/
def halt (w : OfflineWait) : OfflineWait := { w with timer := w.timer.stop }

/-- `concludeGame` has set its flags. -/
def conclude (w : OfflineWait) (isFree : Bool) : OfflineWait :=
  { w with checkTimerID := none, isFree := isFree, isGameStarted := !isFree }

/-- A user takes the chair. -/
def sit (w : OfflineWait) (c : Nat) : OfflineWait :=
  { w with taken := Function.update w.taken c true, offlineTime := Function.update w.offlineTime c 0 }

theorem offline_leave {c c' : Nat} : (w.leave c).Offline c' ↔ c' ≠ c ∧ w.Offline c' := by
  unfold Offline leave
  by_cases h : c' = c
  · simp [h]
  · simp [h]

theorem offline_sit {c c' : Nat} : (w.sit c).Offline c' ↔ c' ≠ c ∧ w.Offline c' := by
  unfold Offline sit
  by_cases h : c' = c
  · simp [h]
  · simp [h]

theorem Timed.leave (h : w.Timed) (c : Nat) : (w.leave c).Timed := ⟨h.fresh, h.past, h.now, h.expired, h.found⟩

theorem Ticking.leave (h : w.Ticking) (c : Nat) : (w.leave c).Ticking := ⟨h.ticks, h.free⟩

/-- The user leaves whom the timeout is not for. -/
theorem Right.leave (h : w.Right) {c : Nat} (hc : ∀ i, w.Pending i → w.checkTimerID = some i.timerID → i.bindParameter ≠ c) :
    (w.leave c).Right := by
  refine ⟨h.toTimed.leave c, ⟨?_, h.due, h.waited⟩, h.toTicking.leave c, h.alive, ?_⟩
  · exact fun i hi hid => offline_leave.2 ⟨hc i hi hid, h.offline i hi hid⟩
  · rintro hg ⟨c', hc'⟩
    obtain ⟨i, hi, hid, hmin⟩ := h.oldest hg ⟨c', (offline_leave.1 hc').2⟩
    exact ⟨i, hi, hid, fun c'' hc'' => hmin c'' (offline_leave.1 hc'').2⟩

theorem Timed.halt (h : w.Timed) : w.halt.Timed := by
  refine ⟨?_, h.past, h.now, h.expired, h.found⟩
  rintro i (hi | hi)
  · cases hi
  · exact h.fresh i (Or.inr hi)

/-- The ticker is stopped where no game is started. -/
theorem Right.halt (h : w.Right) (hg : w.isGameStarted = false) : w.halt.Right := by
  refine ⟨h.toTimed.halt, ⟨?_, nofun, h.waited⟩, ⟨?_, fun _ => hg⟩, ?_, ?_⟩
  · rintro i (hi | hi) hid
    · cases hi
    · exact h.offline i (Or.inr hi) hid
  all_goals
    intro hg'
    exact absurd (hg'.symm.trans hg) (by decide)

theorem Timed.conclude (h : w.Timed) (isFree : Bool) : (w.conclude isFree).Timed :=
  ⟨h.fresh, h.past, h.now, h.expired, h.found⟩

/-- The game goes on, and nobody is offline. -/
theorem Right.conclude (h : w.Right) (hg : w.isGameStarted = true) (hno : ∀ c, ¬w.Offline c) : (w.conclude false).Right :=
   right_of_none (h.toTimed.conclude false) ⟨fun _ => h.ticks hg, nofun⟩ rfl fun _ => hno

/-- A user takes a chair that is free. -/
theorem Right.sit (h : w.Right) {c : Nat} (hc : w.taken c = false) : (w.sit c).Right := by
  have hne : ∀ c', w.Offline c' → c' ≠ c := by
    rintro c' hc' rfl
    exact absurd (hc.symm.trans hc'.1) Bool.false_ne_true
  have hsame : ∀ c', c' ≠ c → (w.sit c).offlineTime c' = w.offlineTime c' := fun c' hc' => Function.update_of_ne hc' _ _
  refine ⟨⟨h.fresh, ?_, h.now, h.expired, h.found⟩, ⟨?_, h.due, h.waited⟩, ⟨h.ticks, h.free⟩, h.alive, ?_⟩
  · intro c'
    by_cases hc' : c' = c
    · subst hc'
      exact ⟨by simp [OfflineWait.sit], (h.past c').2⟩
    · rw [hsame c' hc']
      exact h.past c'
  · exact fun i hi hid => offline_sit.2 ⟨hne _ (h.offline i hi hid), h.offline i hi hid⟩
  · rintro hg ⟨c', hc'⟩
    obtain ⟨i, hi, hid, hmin⟩ := h.oldest hg ⟨c', (offline_sit.1 hc').2⟩
    refine ⟨i, hi, hid, fun c'' hc'' => ?_⟩
    obtain ⟨hne'', hoff⟩ := offline_sit.1 hc''
    rw [hsame _ hne'', hsame _ (hne _ (h.offline i (Or.inl hi) hid))]
    exact hmin c'' hoff

/-! ## The timeout -/

/-- The timeout for a chair is set. -/
def set (w : OfflineWait) (delay c : Nat) : OfflineWait :=
  { w with
    checkTimerID := some (w.timer.timerIDGenerator + 1)
    timer := { w.timer with
      timerIDGenerator := w.timer.timerIDGenerator + 1
      activeTimer := w.timer.activeTimer ++ [⟨w.timer.timerIDGenerator + 1, w.timer.tick + delay, c⟩] } }

/-- The timeout is set for the one who has been offline longest, with what is left to wait. -/
theorem right_set (h : w.Timed) (ht : w.Ticking) {delay c : Nat} (hc : w.Offline c)
    (hmin : w.isGameStarted = true → ∀ c', w.Offline c' → w.offlineTime c ≤ w.offlineTime c')
    (hdue : w.offlineTick c + tickspanTableOfflineWait ≤ delay + w.ticks) : (w.set delay c).Right := by
  -- The number is new, so that the timeout is the only one with it.
  have hnew : ∀ i ∈ (w.set delay c).timer.activeTimer, (w.set delay c).checkTimerID = some i.timerID →
      i = ⟨w.timer.timerIDGenerator + 1, w.timer.tick + delay, c⟩ := by
    intro i hi hid
    rcases List.mem_append.1 hi with hi | hi
    · have hle := h.fresh i (Or.inl hi)
      have heq : w.timer.timerIDGenerator + 1 = i.timerID := Option.some.inj hid
      omega
    · exact List.mem_singleton.1 hi
  have hrun : ∀ i, (w.set delay c).timer.running = some i → (w.set delay c).checkTimerID ≠ some i.timerID := by
    intro i hi hid
    have hle := h.fresh i (Or.inr hi)
    have heq : w.timer.timerIDGenerator + 1 = i.timerID := Option.some.inj hid
    omega
  have hlast : (⟨w.timer.timerIDGenerator + 1, w.timer.tick + delay, c⟩ : Timeout) ∈ (w.set delay c).timer.activeTimer :=
    List.mem_append_right _ (List.mem_singleton.2 rfl)
  refine ⟨⟨?_, h.past, h.now, h.expired, h.found⟩, ⟨?_, ?_, ?_⟩, ⟨ht.ticks, ht.free⟩, ?_, ?_⟩
  · rintro i (hi | hi)
    · rcases List.mem_append.1 hi with hi | hi
      · exact Nat.le_succ_of_le (h.fresh i (Or.inl hi))
      · obtain rfl := List.mem_singleton.1 hi
        exact Nat.le_refl _
    · exact Nat.le_succ_of_le (h.fresh i (Or.inr hi))
  · rintro i (hi | hi) hid
    · obtain rfl := hnew i hi hid
      exact hc
    · exact absurd hid (hrun i hi)
  · intro i hi hid
    obtain rfl := hnew i hi hid
    simp only [OfflineWait.set]
    omega
  · intro i hi hid
    exact absurd hid (hrun i hi)
  · intro _ timerID hid
    exact ⟨_, hlast, Option.some.inj hid⟩
  · rintro hg -
    exact ⟨_, hlast, rfl, hmin hg⟩

/-- The id is forgotten and the timeout is cleared. -/
def forget (w : OfflineWait) (timerID : Nat) : OfflineWait :=
  { w with timer := w.timer.clearTimer timerID, checkTimerID := none }

theorem Timed.forget (h : w.Timed) (timerID : Nat) : (w.forget timerID).Timed := by
  refine ⟨?_, h.past, h.now, h.expired, h.found⟩
  rintro i (hi | hi)
  · exact h.fresh i (Or.inl (List.mem_of_mem_filter hi))
  · exact h.fresh i (Or.inr hi)

/-- The game starts: nobody is offline. -/
theorem right_start (h : w.Timed) {offlineTime : Nat → Nat} (hle : ∀ c, offlineTime c ≤ w.offlineTime c)
    (hzero : ∀ c, w.taken c = true → offlineTime c = 0) :
    { w with
      isGameStarted := true
      isFree := false
      offlineTime := offlineTime
      checkTimerID := none
      timer := w.timer.start }.Right := by
  have hpending : ∀ i, (i ∈ w.timer.start.activeTimer ∨ w.timer.start.running = some i) →
    i.timerID ≤ w.timer.start.timerIDGenerator := by
    unfold Timer.start
    split
    · exact h.fresh
    · rintro i (hi | hi)
      · cases hi
      · exact h.fresh i (Or.inr hi)
  refine right_of_none ⟨hpending, ?_, h.now, h.expired, h.found⟩ ⟨fun _ => ?_, nofun⟩ rfl ?_
  · exact fun c => ⟨Nat.le_trans (hle c) (h.past c).1, (h.past c).2⟩
  · show w.timer.start.isTickerEnable = true ∧ w.timer.start.tickStep = true
    unfold Timer.start
    split
    · exact ⟨‹_›, rfl⟩
    · exact ⟨rfl, rfl⟩
  · exact fun _ c hc => hc.2 (hzero c hc.1)

/-! ## Going offline and coming back -/

/-- The user in the chair goes offline. -/
def goOffline (w : OfflineWait) (c : Nat) : OfflineWait :=
  { w with
    offlineTime := Function.update w.offlineTime c w.time
    offlineTick := Function.update w.offlineTick c w.ticks }

/-- The user in the chair is back. -/
def back (w : OfflineWait) (c : Nat) : OfflineWait := { w with offlineTime := Function.update w.offlineTime c 0 }

/-- The time since when a user is offline is none of the timer's. -/
theorem Timed.goOffline (h : w.Timed) (c : Nat) : (w.goOffline c).Timed := by
  refine ⟨h.fresh, ?_, h.now, h.expired, h.found⟩
  intro c'
  by_cases hc : c' = c
  · subst hc
    simp [OfflineWait.goOffline]
  · simp only [OfflineWait.goOffline, Function.update_of_ne hc]
    exact h.past c'

/-- Nor is it when the user is back. -/
theorem Timed.back (h : w.Timed) (c : Nat) : (w.back c).Timed := by
  refine ⟨h.fresh, ?_, h.now, h.expired, h.found⟩
  intro c'
  by_cases hc : c' = c
  · subst hc
    exact ⟨by simp [OfflineWait.back], (h.past c').2⟩
  · simp only [OfflineWait.back, Function.update_of_ne hc]
    exact h.past c'

theorem offline_back {c c' : Nat} : (w.back c).Offline c' ↔ c' ≠ c ∧ w.Offline c' := by
  unfold Offline back
  by_cases h : c' = c
  · simp [h]
  · simp [h]

/-- A user whom the timeout is not for goes offline: there is somebody who has been offline longer. -/
theorem Right.goOffline (h : w.Right) {c timerID : Nat} (hid : w.checkTimerID = some timerID)
    (hb : ∀ i, w.Pending i → w.checkTimerID = some i.timerID → i.bindParameter ≠ c) : (w.goOffline c).Right := by
  have hsame : ∀ c', c' ≠ c → (w.goOffline c).offlineTime c' = w.offlineTime c' ∧
    (w.goOffline c).offlineTick c' = w.offlineTick c' :=
    fun c' hc' => ⟨Function.update_of_ne hc' _ _, Function.update_of_ne hc' _ _⟩
  have hother : ∀ c', c' ≠ c → ((w.goOffline c).Offline c' ↔ w.Offline c') := by
    intro c' hc'
    rw [Offline, Offline, (hsame c' hc').1]
    rfl
  refine ⟨h.toTimed.goOffline c, ⟨?_, ?_, ?_⟩, ⟨h.ticks, h.free⟩, h.alive, ?_⟩
  · exact fun i hi hi' => (hother _ (hb i hi hi')).2 (h.offline i hi hi')
  · intro i hi hi'
    rw [(hsame _ (hb i (Or.inl hi) hi')).2]
    exact h.due i hi hi'
  · intro i hi hi'
    rw [(hsame _ (hb i (Or.inr hi) hi')).2]
    exact h.waited i hi hi'
  · rintro hg -
    obtain ⟨i₀, hi₀, rfl⟩ := h.alive hg timerID hid
    obtain ⟨i, hi, hi', hmin⟩ := h.oldest hg ⟨_, h.offline i₀ (Or.inl hi₀) hid⟩
    refine ⟨i, hi, hi', fun c' hc' => ?_⟩
    rw [(hsame _ (hb i (Or.inl hi) hi')).1]
    by_cases hcc : c' = c
    · subst hcc
      simp only [OfflineWait.goOffline, Function.update_self]
      exact (h.past _).1
    · rw [(hsame c' hcc).1]
      exact hmin c' ((hother c' hcc).1 hc')

/-- The first user goes offline, and the timeout is set. -/
theorem Right.goOffline_set (h : w.Right) {c : Nat} (hid : w.checkTimerID = none) (hc : w.taken c = true) :
    ((w.goOffline c).set tickspanTableOfflineWait c).Right := by
  refine right_set (h.toTimed.goOffline c) ⟨h.ticks, h.free⟩ ⟨hc, ?_⟩ ?_ ?_
  · simp only [OfflineWait.goOffline, Function.update_self]
    exact h.now
  · intro hg c' hc'
    by_cases hcc : c' = c
    · rw [hcc]
    · have hoff : w.Offline c' := by
        have hsame : (w.goOffline c).offlineTime c' = w.offlineTime c' := Function.update_of_ne hcc _ _
        rw [Offline, hsame] at hc'
        exact hc'
      exact absurd hoff (h.not_offline hid hg c')
  · simp only [OfflineWait.goOffline, Function.update_self]
    omega

/-! ## The ticker and the clock -/

/-- A new tick, or the end of the ticker. -/
theorem Right.wake (h : w.Right) {timer : Timer} (ht : w.timer.wake = some timer) :
    { w with timer := timer, ticks := if timer.awake then w.ticks + 1 else w.ticks }.Right := by
  unfold Timer.wake at ht
  split at ht
  case isFalse => cases ht
  rename_i hen
  split at ht
  · obtain rfl := Option.some.inj ht
    refine ⟨⟨h.fresh, ?_, h.now, h.expired, h.found⟩, ⟨h.offline, ?_, ?_⟩, ⟨h.ticks, h.free⟩, h.alive, h.oldest⟩
    · exact fun c => ⟨(h.past c).1, Nat.le_succ_of_le (h.past c).2⟩
    · intro i hi hid
      have hdue := h.due i hi hid
      simp only [if_true]
      omega
    · exact fun i hi hid => Nat.le_succ_of_le (h.waited i hi hid)
  · rename_i hstep
    obtain rfl := Option.some.inj ht
    have hawake : w.timer.awake = false := Bool.eq_false_iff.2 hen.2
    have hnot : w.isGameStarted = true → False := fun hg => hstep (h.ticks hg).2
    simp only [hawake, Bool.false_eq_true, if_false]
    exact ⟨⟨h.fresh, h.past, h.now, h.expired, h.found⟩, ⟨h.offline, h.due, h.waited⟩, ⟨fun hg => (hnot hg).elim, h.free⟩,
      h.alive, h.oldest⟩

/-- The function of a timeout that is due is called. -/
theorem Right.call (h : w.Right) {timerID : Nat} {timer : Timer} (ht : w.timer.call timerID = some timer) :
    { w with timer := timer }.Right := by
  unfold Timer.call at ht
  split at ht
  case h_2 => cases ht
  rename_i i hrun hfind
  split at ht
  case isFalse => cases ht
  rename_i hdue
  obtain rfl := Option.some.inj ht
  have hmem := List.mem_of_find?_eq_some hfind
  have hpending : ∀ j, (j ∈ w.timer.activeTimer ∨ some i = some j) → w.Pending j := by
    rintro j (hj | hj)
    · exact Or.inl hj
    · exact Or.inl (Option.some.inj hj ▸ hmem)
  refine ⟨⟨fun j hj => h.fresh j (hpending j hj), h.past, h.now, h.expired, h.found⟩,
    ⟨fun j hj => h.offline j (hpending j hj), h.due, ?_⟩, ⟨h.ticks, h.free⟩, h.alive, h.oldest⟩
  intro j hj hid
  obtain rfl := Option.some.inj hj
  have hle := h.due i hmem hid
  have hnext := hdue.2
  show w.offlineTick i.bindParameter + tickspanTableOfflineWait ≤ w.ticks
  omega

theorem Right.sleep (h : w.Right) {timer : Timer} (ht : w.timer.sleep = some timer) : { w with timer := timer }.Right := by
  unfold Timer.sleep at ht
  split at ht
  case isFalse => cases ht
  obtain rfl := Option.some.inj ht
  exact ⟨⟨h.fresh, h.past, h.now, h.expired, h.found⟩, ⟨h.offline, h.due, h.waited⟩,
    ⟨fun hg => ⟨(h.ticks hg).2, (h.ticks hg).2⟩, h.free⟩, h.alive, h.oldest⟩

theorem Right.clock (h : w.Right) (seconds : Nat) : { w with time := w.time + seconds }.Right := by
  refine ⟨⟨h.fresh, ?_, ?_, h.expired, h.found⟩, ⟨h.offline, h.due, h.waited⟩, ⟨h.ticks, h.free⟩, h.alive, h.oldest⟩
  · exact fun c => ⟨Nat.le_add_right_of_le (h.past c).1, (h.past c).2⟩
  · have hnow := h.now
    show w.time + seconds ≠ 0
    omega

/-- The function of a timeout whose id is not kept has returned. -/
theorem Right.returned (h : w.Right) {i : Timeout} (hid : w.checkTimerID ≠ some i.timerID) :
    { w with timer := w.timer.returned i }.Right := by
  have hkeep : ∀ j ∈ w.timer.activeTimer, w.checkTimerID = some j.timerID → j ∈ (w.timer.returned i).activeTimer := by
    intro j hj hidj
    refine List.mem_filter.2 ⟨hj, decide_eq_true ?_⟩
    intro heq
    exact hid (heq ▸ hidj)
  have hpending : ∀ j, (j ∈ (w.timer.returned i).activeTimer ∨ none = some j) → w.Pending j := by
    rintro j (hj | hj)
    · exact Or.inl (List.mem_of_mem_filter hj)
    · cases hj
  refine ⟨⟨fun j hj => h.fresh j (hpending j hj), h.past, h.now, h.expired, h.found⟩,
    ⟨fun j hj => h.offline j (hpending j hj), fun j hj => h.due j (List.mem_of_mem_filter hj), nofun⟩,
      ⟨h.ticks, h.free⟩, ?_, ?_⟩
  · intro hg timerID hsome
    obtain ⟨j, hj, rfl⟩ := h.alive hg timerID hsome
    exact ⟨j, hkeep j hj hsome, rfl⟩
  · intro hg hex
    obtain ⟨j, hj, hidj, hmin⟩ := h.oldest hg hex
    exact ⟨j, hkeep j hj hidj, hidj, hmin⟩

/-! ## The timeout comes -/

/-- The timeout whose id is kept comes: the user in its chair has waited. -/
theorem Right.expire (h : w.Right) {i : Timeout} (hrun : w.timer.running = some i) (hid : w.checkTimerID = some i.timerID)
    (userItem : Nat) :
    { w with
      checkTimerID := none
      expiries := ⟨userItem, w.offlineTime i.bindParameter, w.ticks - w.offlineTick i.bindParameter⟩ ::
        w.expiries }.Timed := by
  refine ⟨h.fresh, h.past, h.now, ?_, h.found⟩
  intro e he
  rcases List.mem_cons.1 he with rfl | he
  · have hwaited := h.waited i hrun hid
    refine ⟨(h.offline i (Or.inr hrun) hid).2, ?_⟩
    show tickspanTableOfflineWait ≤ w.ticks - w.offlineTick i.bindParameter
    omega
  · exact h.expired e he

end OfflineWait

end SasyServer.TableFrame
