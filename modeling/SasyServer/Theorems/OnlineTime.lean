import SasyServer.InvalidGun
import SasyServer.Lemmas.LimitEntries

/-!
# Theorem: the time online is counted once by the first save, and again by every other

`SaveData` of the limits adds the time since the login to the counter, and `SaveData` of the invalid shots that since
the login or the last pay-out. Neither sets the moment from which it counts. So the saved value is right as long as no
earlier save has added anything.
-/

namespace SasyServer.OnlineTime

open OperatorLimit (LimitInfo entryIn opLimitIdOnlineTime)

/-- The limits and the invalid shots of a user during a login. Not in the code: `paid` is the moment of the last
pay-out, and the flags say that a save at a later moment than the one it counts from has been made, since the login and
since the last pay-out. -/
structure State where
  limits : List LimitInfo
  gun : InvalidGun.Info
  logonTime : Int
  now : Int
  paid : Option Int
  limitsMoved : Bool
  gunMoved : Bool
  deriving DecidableEq, Repr

/-- The moment from which `timeCount` counts. -/
def State.since (s : State) : Int := s.paid.getD s.logonTime

/-- After `LoadData` of both services, and the `AddLimit` that the first sends itself. -/
def login (rows : List LimitInfo) (gunRow : Option (Int × Int × Int × Int)) (logonTime day : Int) : State where
  limits := OperatorLimit.addTo opLimitIdOnlineTime 0 day logonTime rows
  gun := InvalidGun.loadData gunRow
  logonTime := logonTime
  now := logonTime
  paid := none
  limitsMoved := false
  gunMoved := false

/-- What happens during a login. -/
inductive Label where
  | saveLimits (now : Int)
  | saveGun (now : Int)
  | addInvalidGunData (score : Int)
  | checkInvalidGun (now iRate : Int)
  deriving DecidableEq, Repr

/-- One label. The time does not go back. -/
def step (s : State) : Label → Option State
  | .saveLimits now =>
    if s.now ≤ now then
      some { s with
        limits := (OperatorLimit.saveData s.limits (some s.logonTime) now).1
        now := now
        limitsMoved := s.limitsMoved || now ≠ s.logonTime }
    else none
  | .saveGun now =>
    if s.now ≤ now then
      some { s with
        gun := InvalidGun.saveData s.gun s.logonTime now
        now := now
        gunMoved := s.gunMoved || now ≠ s.since }
    else none
  | .addInvalidGunData score => some { s with gun := InvalidGun.addInvalidGunData s.gun score }
  | .checkInvalidGun now iRate =>
    if s.now ≤ now then
      if InvalidGun.paysOut s.gun s.logonTime now iRate then
        some { s with
          gun := (InvalidGun.checkInvalidGun s.gun s.logonTime now iRate).1
          now := now
          paid := some now
          gunMoved := false }
      else some { s with gun := (InvalidGun.checkInvalidGun s.gun s.logonTime now iRate).1, now := now }
    else none

/-- The count of the row that a save of the limits writes for the time online. -/
def savedOnline (s : State) (now : Int) : Option Int :=
  (entryIn opLimitIdOnlineTime (OperatorLimit.saveData s.limits (some s.logonTime) now).2).map LimitInfo.limitCount

/-- The `TimeCount` that a save of the invalid shots writes. -/
def savedTimeCount (s : State) (now : Int) : Int := (InvalidGun.saveData s.gun s.logonTime now).timeCount

/-- The time that was there before the counting: what was loaded, and 0 after a pay-out. -/
def timeCountBefore (gunRow : Option (Int × Int × Int × Int)) (s : State) : Int :=
  if s.paid = none then (InvalidGun.loadData gunRow).timeCount else 0

/-- The counters are what they were before the counting, until a save moves them up. -/
structure Counts (online : Int) (gunRow : Option (Int × Int × Int × Int)) (logonTime : Int) (s : State) : Prop where
  same : s.logonTime = logonTime
  logon : 0 < s.logonTime
  since : s.logonTime ≤ s.since ∧ s.since ≤ s.now
  last : s.gun.lastTime = s.paid.getD 0
  limits : ∃ v, entryIn opLimitIdOnlineTime s.limits = some v ∧
    (s.limitsMoved = false → v.limitCount = online) ∧ (s.limitsMoved = true → online < v.limitCount)
  gun : (s.gunMoved = false → s.gun.timeCount = timeCountBefore gunRow s) ∧
    (s.gunMoved = true → timeCountBefore gunRow s < s.gun.timeCount)

section Lemmas

variable {online logonTime : Int} {gunRow : Option (Int × Int × Int × Int)} {s s' : State} {now : Int}

/-- A save moves the counter of the time online, and writes it. -/
theorem entryIn_saveData (info : List LimitInfo) (logonTime now : Int) :
    entryIn opLimitIdOnlineTime (OperatorLimit.saveData info (some logonTime) now).1 =
        (entryIn opLimitIdOnlineTime info).map (fun v => { v with limitCount := v.limitCount + now - logonTime }) ∧
      entryIn opLimitIdOnlineTime (OperatorLimit.saveData info (some logonTime) now).2 =
        entryIn opLimitIdOnlineTime (OperatorLimit.saveData info (some logonTime) now).1 := by
  unfold OperatorLimit.saveData
  dsimp only
  induction info with
  | nil => exact ⟨rfl, rfl⟩
  | cons v info ih =>
    rw [List.map_cons, OperatorLimit.entryIn_cons, OperatorLimit.entryIn_cons]
    by_cases hv : v.limitId = opLimitIdOnlineTime
    · have hne : ¬opLimitIdOnlineTime = OperatorLimit.opLimitIdDoubleGold := by decide
      simp [hv, hne, OperatorLimit.entryIn_cons]
    · simp only [hv, if_false]
      refine ⟨ih.1, ?_⟩
      rw [List.filter_cons]
      split
      · rw [OperatorLimit.entryIn_cons, if_neg hv]
        exact ih.2
      · exact ih.2

/-- The counting is from the last pay-out, or from the login. -/
theorem timeUntil_eq (h : Counts online gunRow logonTime s) (now : Int) :
    s.gun.timeUntil s.logonTime now = s.gun.timeCount + now - s.since := by
  have hlast := h.last
  have hsince := h.since.1
  have hlogon := h.logon
  unfold InvalidGun.Info.timeUntil State.since at *
  cases hpaid : s.paid with
  | none =>
    rw [hpaid, Option.getD_none] at hlast
    rw [if_neg (not_not_intro hlast)]
    rfl
  | some p =>
    rw [hpaid] at hlast hsince
    rw [Option.getD_some] at hlast hsince ⊢
    rw [if_pos (by omega), hlast]

/-- A save adds the time since the moment from which it counts. -/
theorem savedTimeCount_eq (h : Counts online gunRow logonTime s) (now : Int) :
    savedTimeCount s now = s.gun.timeCount + (now - s.since) := by
  rw [savedTimeCount, InvalidGun.saveData]
  dsimp only
  rw [timeUntil_eq h]
  omega

/-- One label: the time that is counted is the time that has passed, and each save writes what is new. -/
theorem Counts.step {i : Label} (h : Counts online gunRow logonTime s) (hs : step s i = some s') :
    Counts online gunRow logonTime s' := by
  obtain ⟨v, hv, hstill, hmoved⟩ := h.limits
  cases i with
  | saveLimits now =>
    simp only [OnlineTime.step] at hs
    split at hs
    · rename_i hle
      cases hs
      have hsince := h.since
      refine ⟨h.same, h.logon, ⟨hsince.1, Int.le_trans hsince.2 hle⟩, h.last,
        ⟨_, (entryIn_saveData ..).1.trans (congrArg _ hv), ?_, ?_⟩, h.gun⟩
      · intro hflag
        simp only [Bool.or_eq_false_iff, decide_eq_false_iff_not, not_not] at hflag
        have := hstill hflag.1
        dsimp only
        omega
      · intro hflag
        dsimp only
        cases hm : s.limitsMoved with
        | true =>
          have := hmoved hm
          omega
        | false =>
          have := hstill hm
          simp only [hm, Bool.false_or, decide_eq_true_eq] at hflag
          omega
    · cases hs
  | saveGun now =>
    simp only [OnlineTime.step] at hs
    split at hs
    · rename_i hle
      cases hs
      have hsince := h.since
      have hsaved : (InvalidGun.saveData s.gun s.logonTime now).timeCount = s.gun.timeCount + (now - s.since) :=
        savedTimeCount_eq h now
      refine ⟨h.same, h.logon, ⟨hsince.1, Int.le_trans hsince.2 hle⟩, h.last, h.limits, ?_, ?_⟩
      · intro hflag
        simp only [Bool.or_eq_false_iff, decide_eq_false_iff_not, not_not] at hflag
        have := h.gun.1 hflag.1
        show (InvalidGun.saveData s.gun s.logonTime now).timeCount = timeCountBefore gunRow s
        omega
      · intro hflag
        show timeCountBefore gunRow s < (InvalidGun.saveData s.gun s.logonTime now).timeCount
        cases hm : s.gunMoved with
        | true =>
          have := h.gun.2 hm
          omega
        | false =>
          have := h.gun.1 hm
          simp only [hm, Bool.false_or, decide_eq_true_eq] at hflag
          omega
    · cases hs
  | addInvalidGunData score =>
    cases hs
    exact ⟨h.same, h.logon, h.since, h.last, h.limits, h.gun⟩
  | checkInvalidGun now iRate =>
    simp only [OnlineTime.step] at hs
    split at hs
    · rename_i hle
      have hsince := h.since
      split at hs
      · rename_i hpays
        cases hs
        have hlogon := h.logon
        have hgun : (InvalidGun.checkInvalidGun s.gun s.logonTime now iRate).1 = ⟨0, 0, 0, 0, now⟩ := by
          rw [InvalidGun.checkInvalidGun, if_pos hpays]
        refine ⟨h.same, h.logon, ⟨?_, Int.le_refl now⟩, ?_, h.limits, ?_, fun hh => by cases hh⟩
        · show s.logonTime ≤ now
          omega
        · rw [hgun]
          rfl
        · intro _
          rw [hgun]
          rfl
      · rename_i hpays
        cases hs
        have hgun : (InvalidGun.checkInvalidGun s.gun s.logonTime now iRate).1.timeCount = s.gun.timeCount ∧
            (InvalidGun.checkInvalidGun s.gun s.logonTime now iRate).1.lastTime = s.gun.lastTime := by
          rw [InvalidGun.checkInvalidGun, if_neg hpays]
          split
          · exact ⟨rfl, rfl⟩
          · exact ⟨rfl, rfl⟩
        refine ⟨h.same, h.logon, ⟨hsince.1, Int.le_trans hsince.2 hle⟩, hgun.2.trans h.last, h.limits, ?_, ?_⟩
        · exact fun hm => hgun.1.trans (h.gun.1 hm)
        · exact fun hm => hgun.1.symm ▸ h.gun.2 hm
    · cases hs

/-- At the login nothing has been counted yet. -/
theorem counts_login (rows : List LimitInfo) (gunRow : Option (Int × Int × Int × Int)) (day : Int)
    (hlogon : 0 < logonTime) :
    Counts (OperatorLimit.countIn opLimitIdOnlineTime rows) gunRow logonTime (login rows gunRow logonTime day) := by
  refine ⟨rfl, hlogon, ⟨Int.le_refl _, Int.le_refl _⟩, ?_,
    ⟨_, OperatorLimit.entryIn_addTo_self .., ?_, fun hm => by cases hm⟩, fun _ => rfl, fun hm => by cases hm⟩
  · cases gunRow <;> rfl
  · intro _
    show _ = ((entryIn opLimitIdOnlineTime rows).map LimitInfo.limitCount).getD 0
    cases entryIn opLimitIdOnlineTime rows with
    | none => rfl
    | some v => exact Int.add_zero v.limitCount

end Lemmas

/-- In every run of a login and for every save at its end: the time online that is saved is what was loaded and the
time since the login, if and only if no earlier save of the login was later than it; and the `TimeCount` that is
saved is what was loaded and the time since the login, or the time since the last pay-out, if and only if no save
since then was later than it. -/
theorem saved_iff_not_moved (rows : List LimitInfo) (gunRow : Option (Int × Int × Int × Int)) (logonTime day : Int)
    (hlogon : 0 < logonTime) (is : List Label) (s : State)
    (h : Steps.exec step (login rows gunRow logonTime day) is = some s) (now : Int) :
    (savedOnline s now = some (OperatorLimit.countIn opLimitIdOnlineTime rows + (now - logonTime)) ↔ s.limitsMoved = false) ∧
      (savedTimeCount s now = timeCountBefore gunRow s + (now - s.since) ↔ s.gunMoved = false) := by
  have hc : Counts (OperatorLimit.countIn opLimitIdOnlineTime rows) gunRow logonTime s :=
    Steps.exec_invariant (C := fun _ _ => True) (fun _ _ _ hc _ hs => hc.step hs) is _ s
      (counts_login rows gunRow day hlogon)
      (Steps.meets_of_forall (fun _ _ => trivial) is _) h
  obtain ⟨v, hv, hstill, hmoved⟩ := hc.limits
  obtain rfl := hc.same
  refine ⟨?_, ?_⟩
  · rw [savedOnline, (entryIn_saveData ..).2, (entryIn_saveData ..).1, hv, Option.map_some, Option.map_some,
      Option.some.injEq]
    dsimp only
    cases hm : s.limitsMoved with
    | false =>
      have := hstill hm
      exact iff_of_true (by omega) rfl
    | true =>
      have := hmoved hm
      exact iff_of_false (by omega) (by decide)
  · rw [savedTimeCount_eq hc]
    cases hm : s.gunMoved with
    | false =>
      have := hc.gun.1 hm
      exact iff_of_true (by omega) rfl
    | true =>
      have := hc.gun.2 hm
      exact iff_of_false (by omega) (by decide)

/-- The user logs in at 1000 with an hour on the counter, is saved at once, misses thirty times, is paid out at
1400 and saved at once. -/
def paidLogin : List Label :=
  [.saveLimits 1000, .saveGun 1000] ++ List.replicate 30 (.addInvalidGunData 10) ++ [.checkInvalidGun 1400 50, .saveGun 1400]

theorem saved_iff_not_moved_paid :
    ∃ s, Steps.exec step (login [⟨30, 3600, 20170101⟩] (some (120, 0, 0, 0)) 1000 20170102) paidLogin = some s ∧
      (savedOnline s 1500 = some (OperatorLimit.countIn opLimitIdOnlineTime [⟨30, 3600, 20170101⟩] + (1500 - 1000)) ↔
        s.limitsMoved = false) ∧
      (savedTimeCount s 1500 = timeCountBefore (some (120, 0, 0, 0)) s + (1500 - s.since) ↔ s.gunMoved = false) :=
  ⟨_, rfl, saved_iff_not_moved [⟨30, 3600, 20170101⟩] (some (120, 0, 0, 0)) 1000 20170102 (by decide) paidLogin _ rfl 1500⟩

/-- After saves at 1060 and 1120, two minutes online are counted as three. -/
theorem two_minutes_counted_as_three :
    ¬∀ (rows : List LimitInfo) (gunRow : Option (Int × Int × Int × Int)) (logonTime day : Int), 0 < logonTime →
      ∀ (is : List Label) (s : State), Steps.exec step (login rows gunRow logonTime day) is = some s → ∀ now, s.now ≤ now →
        savedOnline s now = some (OperatorLimit.countIn opLimitIdOnlineTime rows + (now - logonTime)) ∧
          savedTimeCount s now = timeCountBefore gunRow s + (now - s.since) := by
  intro h
  have hfail := (h [] none 1000 20170102 (by decide) [.saveLimits 1060, .saveGun 1060] _ rfl 1120 (by decide)).1
  exact absurd hfail (by decide +kernel)

end SasyServer.OnlineTime
