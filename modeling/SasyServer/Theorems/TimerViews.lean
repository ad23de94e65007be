import Mathlib.Algebra.Order.Field.Rat
import Mathlib.Algebra.Order.Ring.Cast
import Mathlib.Data.List.Forall2
import SasyServer.Table.Scenes
import SasyServer.Ticker
import SasyServer.Timer

/-!
# Two views of the ticker

`Ticker` has all of `lualib/utility/timer.lua`. The table frame has a `Timer`, with what there is to timeouts of one
function, and the sink has the timers of its scenes. `Timer.Shows` and `Scenes.Shows` say what each of the two shows of a
ticker, and a lemma for each of their operations says that the ticker does the same: it refuses what they refuse, and
shows what they make of it.
-/

namespace SasyServer

/-! ## The timer of the table frame -/

/-- A timeout and its item. -/
structure Timeout.Shows (i : Timeout) (item : Ticker.Item) : Prop where
  timerID : item.timerID = i.timerID
  isInterval : item.isInterval = false
  nextTick : item.nextTick = i.nextTick

namespace Timer

variable {t t' : Timer} {s : Ticker.State}

/-- Where the ticker is, when there is one. -/
inductive ShowsPlace : Bool → Option Timeout → Ticker.Place → Prop where
  | tests : ShowsPlace false none .tests
  | traverses : ShowsPlace true none .traverses
  | calls {i : Timeout} {item : Ticker.Item} (h : i.Shows item) : ShowsPlace true (some i) (.calls item)

/-- What the timer shows of the ticker. -/
structure Shows (t : Timer) (s : Ticker.State) : Prop where
  timerIDGenerator : s.timerIDGenerator = t.timerIDGenerator
  tick : s.tick = t.tick
  tickStep : 0 < s.tickStep ↔ t.tickStep = true
  isTickerEnable : s.isTickerEnable = t.isTickerEnable
  activeTimer : List.Forall₂ Timeout.Shows t.activeTimer s.activeTimer
  running : t.isTickerEnable = true → ∃ p, s.tickers = [p] ∧ ShowsPlace t.awake t.running p
  ended : t.isTickerEnable = false → s.tickers = [] ∧ t.awake = false ∧ t.running = none

/-- Both begin without a timer. -/
theorem shows_init : Timer.init.Shows .init where
  timerIDGenerator := rfl
  tick := rfl
  tickStep := by decide
  isTickerEnable := rfl
  activeTimer := .nil
  running := fun h => by cases h
  ended := fun _ => ⟨rfl, rfl, rfl⟩

/-- A ticker that is awake has not ended. -/
theorem Shows.enabled (h : t.Shows s) (hawake : t.awake = true) : t.isTickerEnable = true := by
  by_contra hnot
  have hended := (h.ended (Bool.eq_false_iff.2 hnot)).2.1
  rw [hawake] at hended
  cases hended

theorem forall₂_filter_ne {is : List Timeout} {items : List Ticker.Item} (h : List.Forall₂ Timeout.Shows is items)
    (timerID : Nat) :
    List.Forall₂ Timeout.Shows (is.filter fun i => i.timerID ≠ timerID) (items.filter fun i => i.timerID ≠ timerID) :=
  List.rel_filter (fun i item hi => by simp only [hi.timerID]) h

/-- A timer that is there is the first with its number in both. -/
theorem forall₂_find? {is : List Timeout} {items : List Ticker.Item} (h : List.Forall₂ Timeout.Shows is items)
    {timerID : Nat} {i : Timeout} (hi : is.find? (fun i => i.timerID = timerID) = some i) :
    ∃ item, items.find? (fun i => i.timerID = timerID) = some item ∧ i.Shows item := by
  induction h with
  | nil => cases hi
  | @cons j item is items hj _ ih =>
    by_cases hid : j.timerID = timerID
    · rw [List.find?_cons_of_pos (by simpa using hid)] at hi
      obtain rfl := Option.some.inj hi
      exact ⟨item, List.find?_cons_of_pos (by simpa [hj.timerID] using hid), hj⟩
    · rw [List.find?_cons_of_neg (by simpa using hid)] at hi
      rw [List.find?_cons_of_neg (by simpa [hj.timerID] using hid)]
      exact ih hi

theorem forall₂_all {is : List Timeout} {items : List Ticker.Item} (h : List.Forall₂ Timeout.Shows is items) (tick : Nat) :
    (items.all fun i => (tick : ℚ) < i.nextTick) = is.all fun i => tick < i.nextTick := by
  induction h with
  | nil => rfl
  | cons hi _ ih => simp only [List.all_cons, ih, hi.nextTick, Nat.cast_lt]

/-- `setTimeout` is refused by both, or gives the same number. -/
theorem Shows.setTimeout (h : t.Shows s) (delay bindParameter : Nat) :
    match t.setTimeout delay bindParameter with
    | some (t', timerID) => ∃ s', Ticker.setTimeout s delay = .ok (s', timerID) ∧ t'.Shows s'
    | none => Ticker.setTimeout s delay = .error .notActive := by
  have hdelay : ¬(delay : ℚ) < 0 := not_lt.2 (Nat.cast_nonneg delay)
  unfold Timer.setTimeout Ticker.setTimeout Ticker.doAddTimer
  rw [if_neg hdelay, h.isTickerEnable]
  by_cases henable : t.isTickerEnable = true
  · rw [if_pos henable, if_neg (not_not_intro henable), h.timerIDGenerator, h.tick]
    refine ⟨_, rfl, rfl, rfl, h.tickStep, rfl, ?_, h.running, h.ended⟩
    exact List.rel_append h.activeTimer (.cons ⟨rfl, rfl, (Nat.cast_add _ _).symm⟩ .nil)
  · rw [if_neg henable, if_pos henable]

theorem Shows.clearTimer (h : t.Shows s) (timerID : Nat) : (t.clearTimer timerID).Shows (Ticker.clearTimer s timerID) :=
  ⟨h.timerIDGenerator, h.tick, h.tickStep, h.isTickerEnable, forall₂_filter_ne h.activeTimer timerID, h.running, h.ended⟩

/-- The ticker is started with any interval. -/
theorem Shows.start (h : t.Shows s) {tickStep : ℚ} (hpos : 0 < tickStep) :
    ∃ s', Ticker.start s tickStep = .ok s' ∧ t.start.Shows s' := by
  unfold Ticker.start Timer.start
  rw [if_neg (not_le.2 hpos), h.isTickerEnable]
  by_cases henable : t.isTickerEnable = true
  · rw [if_pos henable, if_pos henable]
    exact ⟨_, rfl, h.timerIDGenerator, h.tick, iff_of_true hpos rfl, rfl, h.activeTimer, h.running, h.ended⟩
  · rw [if_neg henable, if_neg henable]
    obtain ⟨htickers, hawake, hrunning⟩ := h.ended (Bool.eq_false_iff.2 henable)
    refine ⟨_, rfl, h.timerIDGenerator, rfl, iff_of_true hpos rfl, rfl, .nil, fun _ => ⟨.tests, ?_, ?_⟩,
      fun hnot => by cases hnot⟩
    · dsimp only
      rw [htickers, List.nil_append]
    · dsimp only
      rw [hawake, hrunning]
      exact .tests

theorem Shows.stop (h : t.Shows s) : t.stop.Shows (Ticker.stop s) :=
  ⟨h.timerIDGenerator, rfl, iff_of_false (lt_irrefl 0) Bool.false_ne_true, h.isTickerEnable, .nil, h.running, h.ended⟩

/-- The end of the ticker. -/
theorem Shows.ends (h : t.Shows s) {p : Ticker.Place} (hp : s.tickers = [p]) (hrunning : t.running = none)
    {awake isTickerEnable : Bool} (hawake : awake = false) (hdisable : isTickerEnable = false) :
    { t with awake := awake, isTickerEnable := isTickerEnable }.Shows (s.ends 0) := by
  refine ⟨h.timerIDGenerator, h.tick, h.tickStep, hdisable.symm, h.activeTimer, fun hnot => ?_,
    fun _ => ⟨?_, hawake, hrunning⟩⟩
  · exact absurd (hdisable.symm.trans hnot) Bool.false_ne_true
  · show s.tickers.eraseIdx 0 = []
    rw [hp]
    rfl

/-- The coroutine of the ticker has slept and counts a tick. -/
theorem Shows.wake (h : t.Shows s) (ht : t.wake = some t') : ∃ s', Ticker.tests s 0 = some s' ∧ t'.Shows s' := by
  unfold Timer.wake at ht
  split at ht
  · rename_i hboth
    obtain ⟨henable, hawake⟩ := hboth
    obtain ⟨p, hp, hplace⟩ := h.running henable
    have hfalse := Bool.eq_false_iff.2 hawake
    rw [hfalse] at hplace
    unfold Ticker.tests
    generalize hrunning : t.running = running at hplace
    cases hplace
    rw [hp]
    dsimp only [List.getElem?_cons_zero]
    refine ⟨_, rfl, ?_⟩
    obtain rfl := Option.some.inj ht
    by_cases hstep : t.tickStep = true
    · rw [if_pos hstep, if_pos (h.tickStep.2 hstep)]
      refine ⟨h.timerIDGenerator, congrArg _ h.tick, h.tickStep, h.isTickerEnable, h.activeTimer,
        fun _ => ⟨.traverses, rfl, ?_⟩, fun hnot => ?_⟩
      · dsimp only
        rw [hrunning]
        exact .traverses
      · rw [henable] at hnot
        cases hnot
    · rw [if_neg hstep, if_neg fun hpos => hstep (h.tickStep.1 hpos)]
      exact h.ends hp hrunning hfalse rfl
  · cases ht

/-- The first timer that is due is called. -/
theorem Shows.call (h : t.Shows s) {timerID : Nat} (ht : t.call timerID = some t') :
    ∃ s', Ticker.calls s 0 timerID = some s' ∧ t'.Shows s' := by
  unfold Timer.call at ht
  split at ht
  · rename_i i hrunning hi
    split at ht
    · rename_i hdue
      obtain rfl := Option.some.inj ht
      have henable := h.enabled hdue.1
      obtain ⟨p, hp, hplace⟩ := h.running henable
      rw [hrunning, hdue.1] at hplace
      cases hplace
      obtain ⟨item, hitem, hshows⟩ := forall₂_find? h.activeTimer hi
      have hle : item.nextTick ≤ (s.tick : ℚ) := by
        rw [hshows.nextTick, h.tick]
        exact Nat.cast_le.2 hdue.2
      unfold Ticker.calls
      rw [hp, hitem]
      dsimp only [List.getElem?_cons_zero]
      rw [if_pos hle]
      refine ⟨_, rfl, h.timerIDGenerator, h.tick, h.tickStep, h.isTickerEnable, h.activeTimer,
        fun _ => ⟨.calls item, rfl, ?_⟩, fun hnot => ?_⟩
      · dsimp only
        rw [hdue.1]
        exact .calls hshows
      · dsimp only at hnot
        rw [henable] at hnot
        cases hnot
    · cases ht
  · cases ht

/-- The function has returned, and its timer is cleared. -/
theorem Shows.returned (h : t.Shows s) {i : Timeout} (hrunning : t.running = some i) (hawake : t.awake = true) :
    ∃ s', Ticker.returns s 0 = some s' ∧ (t.returned i).Shows s' := by
  have henable := h.enabled hawake
  obtain ⟨p, hp, hplace⟩ := h.running henable
  rw [hrunning, hawake] at hplace
  cases hplace with
  | @calls i item hshows =>
  have hclear := h.clearTimer i.timerID
  unfold Ticker.returns
  rw [hp]
  dsimp only [List.getElem?_cons_zero]
  refine ⟨_, rfl, ?_⟩
  have hreturned : s.returned item = Ticker.clearTimer s i.timerID := by
    rw [Ticker.State.returned, hshows.isInterval, hshows.timerID]
    rfl
  rw [hreturned]
  refine ⟨hclear.timerIDGenerator, hclear.tick, hclear.tickStep, hclear.isTickerEnable, hclear.activeTimer,
    fun _ => ⟨.traverses, rfl, ?_⟩, fun hnot => ?_⟩
  · show ShowsPlace t.awake none .traverses
    rw [hawake]
    exact .traverses
  · have henabled : (t.clearTimer i.timerID).isTickerEnable = true := henable
    exact absurd (henabled.symm.trans hnot) (by decide)

/-- No timer is due any more. -/
theorem Shows.sleep (h : t.Shows s) (ht : t.sleep = some t') : ∃ s', Ticker.sleeps s 0 = some s' ∧ t'.Shows s' := by
  unfold Timer.sleep at ht
  split at ht
  · rename_i hall
    obtain ⟨hawake, hrunning, hnone⟩ := hall
    obtain rfl := Option.some.inj ht
    have henable := h.enabled hawake
    obtain ⟨p, hp, hplace⟩ := h.running henable
    rw [hrunning, hawake] at hplace
    cases hplace
    unfold Ticker.sleeps
    rw [hp]
    dsimp only [List.getElem?_cons_zero]
    rw [h.tick, forall₂_all h.activeTimer, if_pos hnone]
    refine ⟨_, rfl, ?_⟩
    by_cases hstep : t.tickStep = true
    · rw [if_pos (h.tickStep.2 hstep)]
      refine ⟨h.timerIDGenerator, rfl, h.tickStep, ?_, h.activeTimer, fun _ => ⟨.tests, rfl, ?_⟩, fun hnot => ?_⟩
      · exact h.isTickerEnable.trans (henable.trans hstep.symm)
      · dsimp only
        rw [hrunning]
        exact .tests
      · dsimp only at hnot
        rw [hstep] at hnot
        cases hnot
    · rw [if_neg fun hpos => hstep (h.tickStep.1 hpos)]
      exact h.ends hp hrunning rfl (Bool.eq_false_iff.2 hstep)
  · cases ht

end Timer

/-! ## The timers of the scenes -/

namespace Scenes

/-- A timer of the scenes and its item. -/
structure Item.Shows (i : Item) (item : Ticker.Item) : Prop where
  timerID : item.timerID = i.timerID
  nextTick : (i.nextTick : ℚ) = item.nextTick * Scenes.tickStep

/-- Numbers are new when they are given, and those that are kept are of timers of their own kind. -/
structure State.Numbered (s : State) : Prop where
  switchTimers : ∀ i ∈ s.switchTimers, i.timerID ≤ s.timerIDGenerator
  endTimers : ∀ i ∈ s.endTimers, i.timerID ≤ s.timerIDGenerator
  switchScene : ∀ timerID, s.switchScene = some timerID → timerID ≤ s.timerIDGenerator ∧
    ∀ i ∈ s.endTimers, i.timerID ≠ timerID
  endScene : ∀ timerID, s.endScene = some timerID → timerID ≤ s.timerIDGenerator ∧ ∀ i ∈ s.switchTimers, i.timerID ≠ timerID

/-- What the scenes show of a ticker that has no timers but theirs: the intervals are those of `onTimerSwitchScene`. -/
structure State.Shows (s : State) (t : Ticker.State) : Prop where
  timerIDGenerator : t.timerIDGenerator = s.timerIDGenerator
  tick : s.tick = t.tick * Scenes.tickStep
  tickStep : 0 < t.tickStep ↔ s.tickStep = true
  isTickerEnable : t.isTickerEnable = s.isTickerEnable
  switchTimers : List.Forall₂ Item.Shows s.switchTimers (t.activeTimer.filter fun i => i.isInterval)
  endTimers : List.Forall₂ Item.Shows s.endTimers (t.activeTimer.filter fun i => !i.isInterval)
  numbered : s.Numbered

variable {s s' : State} {t : Ticker.State}

/-- Timers go. -/
theorem State.Numbered.of_sublist (h : s.Numbered) (hswitch : s'.switchTimers.Sublist s.switchTimers)
    (hend : s'.endTimers.Sublist s.endTimers) (hgenerator : s'.timerIDGenerator = s.timerIDGenerator)
    (hswitchScene : s'.switchScene = s.switchScene) (hendScene : s'.endScene = s.endScene) :
    s'.Numbered where
  switchTimers i hi := hgenerator ▸ h.switchTimers i (hswitch.subset hi)
  endTimers i hi := hgenerator ▸ h.endTimers i (hend.subset hi)
  switchScene timerID hid := by
    obtain ⟨hle, hne⟩ := h.switchScene timerID (hswitchScene ▸ hid)
    exact ⟨hgenerator ▸ hle, fun i hi => hne i (hend.subset hi)⟩
  endScene timerID hid := by
    obtain ⟨hle, hne⟩ := h.endScene timerID (hendScene ▸ hid)
    exact ⟨hgenerator ▸ hle, fun i hi => hne i (hswitch.subset hi)⟩

/-- Both begin without a timer. -/
theorem shows_loaded : State.loaded.Shows .init where
  timerIDGenerator := rfl
  tick := rfl
  tickStep := by decide
  isTickerEnable := rfl
  switchTimers := .nil
  endTimers := .nil
  numbered := ⟨fun _ hi => (by cases hi), fun _ hi => (by cases hi), fun _ h => (by cases h), fun _ h => (by cases h)⟩

/-- A moment of the ticker in hundredths. -/
theorem State.Shows.nextTick (h : s.Shows t) {delay : Int} {interval : ℚ}
    (hdelay : (delay : ℚ) = interval * Scenes.tickStep) :
    ((s.tick + delay : Int) : ℚ) = (t.tick + interval) * Scenes.tickStep := by
  rw [Int.cast_add, hdelay, h.tick, add_mul]
  push_cast
  rfl

/-! ### Calls of the module -/

/-- A game starts: with the ticker there, the timers that are left stay. -/
theorem State.Shows.start (h : s.Shows t) {tickStep : ℚ} (hpos : 0 < tickStep) :
    ∃ t', Ticker.start t tickStep = .ok t' ∧ s.start.Shows t' := by
  unfold Ticker.start State.start
  rw [if_neg (not_le.2 hpos), h.isTickerEnable]
  by_cases henable : s.isTickerEnable = true
  · rw [if_pos henable, if_pos henable]
    exact ⟨_, rfl, h.timerIDGenerator, h.tick, iff_of_true hpos rfl, rfl, h.switchTimers, h.endTimers,
      h.numbered.of_sublist (.refl _) (.refl _) rfl rfl rfl⟩
  · rw [if_neg henable, if_neg henable]
    exact ⟨_, rfl, h.timerIDGenerator, rfl, iff_of_true hpos rfl, rfl, .nil, .nil,
      h.numbered.of_sublist (List.nil_sublist _) (List.nil_sublist _) rfl rfl rfl⟩

theorem State.Shows.stop (h : s.Shows t) : s.stop.Shows (Ticker.stop t) :=
  ⟨h.timerIDGenerator, rfl, iff_of_false (lt_irrefl 0) Bool.false_ne_true, h.isTickerEnable, .nil, .nil,
    h.numbered.of_sublist (List.nil_sublist _) (List.nil_sublist _) rfl rfl rfl⟩

/-- With a timer of the next number, the numbers are those given so far. -/
theorem timerID_le_of_mem_concat {timers : List Item} {n : Nat} (h : ∀ i ∈ timers, i.timerID ≤ n) (nextTick : Int) :
    ∀ i ∈ timers ++ [⟨n + 1, nextTick⟩], i.timerID ≤ n + 1 := by
  intro i hi
  rcases List.mem_append.1 hi with hi | hi
  · exact Nat.le_succ_of_le (h i hi)
  · exact (congrArg Item.timerID (List.mem_singleton.1 hi)).le

/-- The next number is not one that is kept. -/
theorem timerID_ne_of_mem_concat {timers : List Item} {n timerID : Nat}
    (h : timerID ≤ n ∧ ∀ i ∈ timers, i.timerID ≠ timerID) (nextTick : Int) :
    timerID ≤ n + 1 ∧ ∀ i ∈ timers ++ [⟨n + 1, nextTick⟩], i.timerID ≠ timerID := by
  refine ⟨Nat.le_succ_of_le h.1, fun i hi => ?_⟩
  rcases List.mem_append.1 hi with hi | hi
  · exact h.2 i hi
  · rw [List.mem_singleton.1 hi]
    exact Nat.ne_of_gt (Nat.lt_succ_of_le h.1)

/-- The next number is none of the others'. -/
theorem timerID_ne_succ {timers : List Item} {n timerID : Nat} (h : ∀ i ∈ timers, i.timerID ≤ n)
    (hid : some (n + 1) = some timerID) : timerID ≤ n + 1 ∧ ∀ i ∈ timers, i.timerID ≠ timerID := by
  obtain rfl := Option.some.inj hid
  exact ⟨Nat.le_refl _, fun i hi => Nat.ne_of_lt (Nat.lt_succ_of_le (h i hi))⟩

theorem State.Numbered.addSwitchScene (h : s.Numbered) : s.addSwitchScene.Numbered where
  switchTimers := timerID_le_of_mem_concat h.switchTimers _
  endTimers i hi := Nat.le_succ_of_le (h.endTimers i hi)
  switchScene _ hid := timerID_ne_succ h.endTimers hid
  endScene timerID hid := timerID_ne_of_mem_concat (h.endScene timerID hid) _

theorem State.Numbered.addEndScene (h : s.Numbered) (delay : Int) : (s.addEndScene delay).Numbered where
  switchTimers i hi := Nat.le_succ_of_le (h.switchTimers i hi)
  endTimers := timerID_le_of_mem_concat h.endTimers _
  switchScene timerID hid := timerID_ne_of_mem_concat (h.switchScene timerID hid) _
  endScene _ hid := timerID_ne_succ h.switchTimers hid

/-- The interval of `onTimerSwitchScene` is refused, or its number is kept. -/
theorem State.Shows.setSwitchScene (h : s.Shows t) :
    match s.setSwitchScene with
    | some s' =>
      ∃ t' timerID, Ticker.setInterval t tickspanSwitchScene = .ok (t', timerID) ∧
        s'.switchScene = some timerID ∧ s'.Shows t'
    | none => Ticker.setInterval t tickspanSwitchScene = .error .notActive := by
  have hnot : ¬((tickspanSwitchScene : Int) : ℚ) < 0 := by decide
  unfold State.setSwitchScene Ticker.setInterval Ticker.doAddTimer
  rw [if_neg hnot, h.isTickerEnable]
  by_cases henable : s.isTickerEnable = true
  · rw [if_pos henable, if_neg (not_not_intro henable), h.timerIDGenerator]
    refine ⟨_, _, rfl, rfl, rfl, h.tick, h.tickStep, rfl, ?_, ?_, h.numbered.addSwitchScene⟩
    · rw [List.filter_append]
      exact List.rel_append h.switchTimers (.cons ⟨rfl, h.nextTick (Int.cast_mul _ _)⟩ .nil)
    · rw [List.filter_append]
      exact (List.append_nil _).symm ▸ h.endTimers
  · rw [if_neg henable, if_pos henable]

/-- The timeout of `onTimerEndScene` is refused, or its number is kept. -/
theorem State.Shows.setEndScene (h : s.Shows t) {delay : Int} (hdelay : 0 ≤ delay) :
    match s.setEndScene delay with
    | some s' =>
      ∃ t' timerID, Ticker.setTimeout t (delay / Scenes.tickStep) = .ok (t', timerID) ∧
        s'.endScene = some timerID ∧ s'.Shows t'
    | none => Ticker.setTimeout t (delay / Scenes.tickStep) = .error .notActive := by
  have hpos : (0 : ℚ) < Scenes.tickStep := by decide
  have hnot : ¬(delay : ℚ) / Scenes.tickStep < 0 := not_lt.2 (div_nonneg (Int.cast_nonneg hdelay) hpos.le)
  unfold State.setEndScene Ticker.setTimeout Ticker.doAddTimer
  rw [if_neg hnot, h.isTickerEnable]
  by_cases henable : s.isTickerEnable = true
  · rw [if_pos henable, if_neg (not_not_intro henable), h.timerIDGenerator]
    refine ⟨_, _, rfl, rfl, rfl, h.tick, h.tickStep, rfl, ?_, ?_, h.numbered.addEndScene delay⟩
    · rw [List.filter_append]
      exact (List.append_nil _).symm ▸ h.switchTimers
    · rw [List.filter_append]
      exact List.rel_append h.endTimers (.cons ⟨rfl, h.nextTick (div_mul_cancel₀ _ hpos.ne').symm⟩ .nil)
  · rw [if_neg henable, if_pos henable]

/-- Timers of which none has a number stay when this number is cleared. -/
theorem forall₂_clear {is : List Item} {items : List Ticker.Item} (h : List.Forall₂ Item.Shows is items) (timerID : Nat) :
    List.Forall₂ Item.Shows (is.filter fun i => i.timerID ≠ timerID) (items.filter fun i => i.timerID ≠ timerID) :=
  List.rel_filter (fun i item hi => by simp only [hi.timerID]) h

theorem filter_ne_of_forall {is : List Item} {timerID : Nat} (h : ∀ i ∈ is, i.timerID ≠ timerID) :
    is.filter (fun i => i.timerID ≠ timerID) = is :=
  List.filter_eq_self.2 fun i hi => decide_eq_true (h i hi)

/-- `clearTimer` of a number in both kinds of timers. -/
theorem State.Shows.clearTimer (h : s.Shows t) (timerID : Nat) :
    { s with
      switchTimers := s.switchTimers.filter fun i => i.timerID ≠ timerID
      endTimers := s.endTimers.filter fun i => i.timerID ≠ timerID }.Shows (Ticker.clearTimer t timerID) := by
  refine ⟨h.timerIDGenerator, h.tick, h.tickStep, h.isTickerEnable, ?_, ?_, ?_⟩
  · show List.Forall₂ Item.Shows _ ((t.activeTimer.filter _).filter _)
    rw [List.filter_comm]
    exact forall₂_clear h.switchTimers timerID
  · show List.Forall₂ Item.Shows _ ((t.activeTimer.filter _).filter _)
    rw [List.filter_comm]
    exact forall₂_clear h.endTimers timerID
  · exact h.numbered.of_sublist List.filter_sublist List.filter_sublist rfl rfl rfl

/-- No number is kept any more. -/
theorem State.Shows.forget (h : s.Shows t) {switchScene endScene : Option Nat}
    (hswitch : switchScene = none ∨ switchScene = s.switchScene) (hend : endScene = none ∨ endScene = s.endScene) :
    { s with switchScene := switchScene, endScene := endScene }.Shows t := by
  refine ⟨h.timerIDGenerator, h.tick, h.tickStep, h.isTickerEnable, h.switchTimers, h.endTimers, h.numbered.switchTimers,
    h.numbered.endTimers, fun timerID hid => ?_, fun timerID hid => ?_⟩
  · rcases hswitch with rfl | rfl
    · cases hid
    · exact h.numbered.switchScene timerID hid
  · rcases hend with rfl | rfl
    · cases hid
    · exact h.numbered.endScene timerID hid

/-- The block that clears `timerIDHash.switchScene`. -/
theorem State.Shows.clearSwitchScene (h : s.Shows t) :
    s.clearSwitchScene.Shows (s.switchScene.elim t (Ticker.clearTimer t)) := by
  unfold State.clearSwitchScene
  cases hid : s.switchScene with
  | none => exact h
  | some timerID =>
    have hclear := (h.clearTimer timerID).forget (Or.inl rfl) (Or.inr rfl)
    dsimp only at hclear
    rw [filter_ne_of_forall (h.numbered.switchScene timerID hid).2] at hclear
    exact hclear

/-- The block that clears `timerIDHash.endScene`. -/
theorem State.Shows.clearEndScene (h : s.Shows t) : s.clearEndScene.Shows (s.endScene.elim t (Ticker.clearTimer t)) := by
  unfold State.clearEndScene
  cases hid : s.endScene with
  | none => exact h
  | some timerID =>
    have hclear := (h.clearTimer timerID).forget (Or.inr rfl) (Or.inl rfl)
    dsimp only at hclear
    rw [filter_ne_of_forall (h.numbered.endScene timerID hid).2] at hclear
    exact hclear

/-! ### The ticker -/

/-- The items of a kind. -/
def kind (t : Ticker.State) : Func → List Ticker.Item
  | .onTimerSwitchScene => t.activeTimer.filter fun i => i.isInterval
  | .onTimerEndScene => t.activeTimer.filter fun i => !i.isInterval

theorem State.Shows.timers (h : s.Shows t) (func : Func) : List.Forall₂ Item.Shows (timers s func) (kind t func) := by
  cases func with
  | onTimerSwitchScene => exact h.switchTimers
  | onTimerEndScene => exact h.endTimers

/-- A timer is due when its item is. -/
theorem State.Shows.due_iff (h : s.Shows t) {i : Item} {item : Ticker.Item} (hi : i.Shows item) :
    i.nextTick ≤ s.tick ↔ item.nextTick ≤ t.tick := by
  have hpos : (0 : ℚ) < Scenes.tickStep := by decide
  have htick : (s.tick : ℚ) = t.tick * Scenes.tickStep := by
    rw [h.tick]
    push_cast
    rfl
  rw [← Int.cast_le (R := ℚ), hi.nextTick, htick, mul_le_mul_iff_of_pos_right hpos]

/-- Each of the timers shows one of the others, and each of the others is shown. -/
theorem exists_shows {is : List Item} {items : List Ticker.Item} (h : List.Forall₂ Item.Shows is items) :
    (∀ i ∈ is, ∃ item ∈ items, i.Shows item) ∧ ∀ item ∈ items, ∃ i ∈ is, i.Shows item := by
  induction h with
  | nil => exact ⟨fun _ hi => absurd hi List.not_mem_nil, fun _ hi => absurd hi List.not_mem_nil⟩
  | @cons i item is items hi _ ih =>
    refine ⟨List.forall_mem_cons.2 ⟨⟨item, List.mem_cons_self, hi⟩, fun j hj => ?_⟩,
      List.forall_mem_cons.2 ⟨⟨i, List.mem_cons_self, hi⟩, fun j hj => ?_⟩⟩
    · obtain ⟨item, hitem, hshows⟩ := ih.1 j hj
      exact ⟨item, List.mem_cons_of_mem _ hitem, hshows⟩
    · obtain ⟨i, hi, hshows⟩ := ih.2 j hj
      exact ⟨i, List.mem_cons_of_mem _ hi, hshows⟩

/-- The function of a timer is called when its item is due. -/
theorem State.Shows.call (h : s.Shows t) {func : Func} {timerID : Nat} (hs : step s (.call func timerID) = some s') :
    ∃ item ∈ kind t func, item.timerID = timerID ∧ item.nextTick ≤ t.tick := by
  simp only [step] at hs
  split at hs
  · rename_i hcall
    obtain ⟨i, hi, hid, hdue⟩ := hcall.2.2
    obtain ⟨item, hitem, hshows⟩ := (exists_shows (h.timers func)).1 i hi
    exact ⟨item, hitem, hshows.timerID.trans hid, (h.due_iff hshows).1 hdue⟩
  · cases hs

/-- No timer is due in the scenes, and so none in the ticker. -/
theorem State.Shows.none_due (h : s.Shows t) (hs : ∀ i ∈ s.switchTimers ++ s.endTimers, s.tick < i.nextTick) :
    (t.activeTimer.all fun i => t.tick < i.nextTick) = true := by
  refine List.all_eq_true.2 fun item hitem => decide_eq_true (not_le.1 fun hdue => ?_)
  have hkind : ∃ i ∈ s.switchTimers ++ s.endTimers, i.Shows item := by
    by_cases hinterval : item.isInterval = true
    · obtain ⟨i, hi, hshows⟩ := (exists_shows h.switchTimers).2 item (List.mem_filter.2 ⟨hitem, hinterval⟩)
      exact ⟨i, List.mem_append_left _ hi, hshows⟩
    · have hnot : (!item.isInterval) = true := by rw [Bool.eq_false_iff.2 hinterval]; rfl
      obtain ⟨i, hi, hshows⟩ := (exists_shows h.endTimers).2 item (List.mem_filter.2 ⟨hitem, hnot⟩)
      exact ⟨i, List.mem_append_right _ hi, hshows⟩
  obtain ⟨i, hi, hshows⟩ := hkind
  exact absurd ((h.due_iff hshows).2 hdue) (not_le.2 (hs i hi))

/-- The tick of the scenes is two of the ticker's steps: it sleeps when no timer is due, and wakes up to the
next tick; or it ends. -/
theorem State.Shows.step_tick (h : s.Shows t) {k : Nat} (hk : t.tickers[k]? = some .traverses)
    (hs : step s .tick = some s') :
    ∃ t', Ticker.sleeps t k = some t' ∧ if s.tickStep then ∃ t'', Ticker.tests t' k = some t'' ∧
      s'.Shows t'' else s'.Shows t' := by
  simp only [step] at hs
  split at hs
  · rename_i htick
    obtain rfl := Option.some.inj hs
    unfold Ticker.sleeps
    rw [hk]
    dsimp only
    rw [if_pos (h.none_due htick.2.2)]
    refine ⟨_, rfl, ?_⟩
    by_cases hstep : s.tickStep = true
    · have hpos := h.tickStep.2 hstep
      rw [if_pos hstep, if_pos hstep, if_pos hpos]
      have hlt : k < t.tickers.length := (List.getElem?_eq_some_iff.1 hk).1
      unfold Ticker.tests
      dsimp only
      rw [List.getElem?_set_self hlt]
      dsimp only
      rw [if_pos hpos]
      refine ⟨_, rfl, h.timerIDGenerator, ?_, h.tickStep, h.isTickerEnable, h.switchTimers, h.endTimers,
        h.numbered.of_sublist (.refl _) (.refl _) rfl rfl rfl⟩
      show s.tick + Scenes.tickStep = ((t.tick + 1 : Nat) : Int) * Scenes.tickStep
      rw [h.tick]
      push_cast
      rw [add_mul, one_mul]
    · rw [if_neg hstep, if_neg hstep, if_neg fun hpos => hstep (h.tickStep.1 hpos)]
      exact ⟨h.timerIDGenerator, h.tick, h.tickStep, rfl, h.switchTimers, h.endTimers,
        h.numbered.of_sublist (.refl _) (.refl _) rfl rfl rfl⟩
  · cases hs

/-- What the ticker makes of an interval, which concerns no timer with another number. -/
theorem forall₂_map {is : List Item} {items : List Ticker.Item} (h : List.Forall₂ Item.Shows is items) (timerID : Nat)
    {nextTick : Int} {next : ℚ} (hnext : (nextTick : ℚ) = next * Scenes.tickStep) :
    List.Forall₂ Item.Shows (is.map fun i => if i.timerID = timerID then { i with nextTick := nextTick } else i)
      (items.map fun i => if i.timerID = timerID then { i with nextTick := next } else i) := by
  refine List.rel_map (fun i item hi => ?_) h
  by_cases hid : i.timerID = timerID
  · rw [if_pos hid, if_pos (hi.timerID.trans hid)]
    exact ⟨hi.timerID, hnext⟩
  · rw [if_neg hid, if_neg fun he => hid (hi.timerID.symm.trans he)]
    exact hi

/-- A number that none of the timers has is none of the others either. -/
theorem map_of_forall_ne {is : List Item} {items : List Ticker.Item} (h : List.Forall₂ Item.Shows is items) {timerID : Nat}
    (hne : ∀ i ∈ is, i.timerID ≠ timerID) (next : ℚ) :
    (items.map fun i => if i.timerID = timerID then { i with nextTick := next } else i) = items := by
  have hid : ∀ item ∈ items, item.timerID ≠ timerID := fun item hitem => by
    obtain ⟨i, hi, hshows⟩ := (exists_shows h).2 item hitem
    rw [hshows.timerID]
    exact hne i hi
  exact (List.map_congr_left fun item hitem => if_neg (hid item hitem)).trans (List.map_id items)

/-- A new tick leaves the kinds of the timers. -/
theorem filter_same_kind {p : Ticker.Item → Bool} (hp : ∀ i next, p { i with nextTick := next } = p i)
    {items : List Ticker.Item} {timerID : Nat} {next : ℚ} :
    (items.filter (p ∘ fun i => if i.timerID = timerID then { i with nextTick := next } else i)) = items.filter p :=
  List.filter_congr fun i _ => by
    dsimp only [Function.comp]
    split
    · exact hp i next
    · rfl

/-- The function of the interval returns: the ticker sets its next tick. -/
theorem State.Shows.returned_interval (h : s.Shows t) {item : Ticker.Item} (hinterval : item.isInterval = true)
    (hspan : item.interval = tickspanSwitchScene) (hother : ∀ i ∈ s.endTimers, i.timerID ≠ item.timerID) :
    (returned s .onTimerSwitchScene item.timerID).Shows (t.returned item) := by
  have hnext : ((s.tick + tickspanSwitchScene * Scenes.tickStep : Int) : ℚ) = (t.tick + item.interval) * Scenes.tickStep :=
    h.nextTick (by rw [hspan, Int.cast_mul])
  rw [Ticker.State.returned, if_pos hinterval]
  refine ⟨h.timerIDGenerator, h.tick, h.tickStep, h.isTickerEnable, ?_, ?_, ?_⟩
  · rw [List.filter_map, filter_same_kind fun i next => rfl]
    exact forall₂_map h.switchTimers item.timerID hnext
  · rw [List.filter_map, filter_same_kind fun i next => rfl, map_of_forall_ne h.endTimers hother]
    exact h.endTimers
  · -- the numbers are those that were there
    have hids : ∀ i ∈ (returned s .onTimerSwitchScene item.timerID).switchTimers, ∃ j ∈ s.switchTimers,
      j.timerID = i.timerID := by
      intro i hi
      obtain ⟨j, hj, rfl⟩ := List.mem_map.1 hi
      exact ⟨j, hj, by split <;> rfl⟩
    refine ⟨fun i hi => ?_, h.numbered.endTimers, h.numbered.switchScene, fun timerID hid => ?_⟩
    · obtain ⟨j, hj, hid⟩ := hids i hi
      exact hid ▸ h.numbered.switchTimers j hj
    · obtain ⟨hle, hne⟩ := h.numbered.endScene timerID hid
      refine ⟨hle, fun i hi => ?_⟩
      obtain ⟨j, hj, hid⟩ := hids i hi
      exact hid ▸ hne j hj

/-- The function of a timeout returns: the ticker clears it. -/
theorem State.Shows.returned_timeout (h : s.Shows t) {item : Ticker.Item} (hinterval : item.isInterval = false)
    (hother : ∀ i ∈ s.switchTimers, i.timerID ≠ item.timerID) :
    (returned s .onTimerEndScene item.timerID).Shows (t.returned item) := by
  have hclear := h.clearTimer item.timerID
  rw [filter_ne_of_forall hother] at hclear
  rw [Ticker.State.returned, if_neg (Bool.eq_false_iff.1 hinterval)]
  exact ⟨hclear.timerIDGenerator, hclear.tick, hclear.tickStep, hclear.isTickerEnable, hclear.switchTimers, hclear.endTimers,
    hclear.numbered.of_sublist (.refl _) (.refl _) rfl rfl rfl⟩

end Scenes

end SasyServer
