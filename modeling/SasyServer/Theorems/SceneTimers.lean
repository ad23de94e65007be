import SasyServer.Lib.Steps
import SasyServer.Table.Scenes

/-!
# Theorem: the timers of the scenes, as long as none is set over another

`worldBossEnd` and `fengHuangEnd` set the switch interval without clearing one that is there,
`_onTimerSwitchScene` and `_flushWorldBoss` do the same with the end timeout, a phoenix that times out sets no
switch interval at all, and `worldBossEnd` ends a phoenix scene before it looks whether there is one to let go
on. The condition says that none of this happens.
-/

namespace SasyServer.Scenes

variable {s s' : State}

/-- No handler runs, waits or is waited for. -/
def quiet (s : State) : Prop := s.holder = none ∧ s.flushes = 0 ∧ s.ends = [] ∧ s.queued = none

/-- What the timers are to be when no handler is running. -/
structure Restored (s : State) : Prop where
  atMostOne : s.switchTimers.length ≤ 1
  one : ¬s.bWorldBossScene → ¬s.bFengHuangScene → s.switchTimers.length = 1
  ending : s.bWorldBossScene ∨ s.bFengHuangScene → s.endTimers.length ≤ 1
  resumed : s.lost = false

/-- The condition on a label in the state in which it is taken. -/
def timerSafe (s : State) : Label → Bool
  | .call .onTimerSwitchScene _ => !free s || s.endTimers = []
  | .enter => s.queued.all fun q => q.1 ≠ .onTimerSwitchScene || s.endTimers = []
  | .enterFlush => s.endTimers = []
  | .worldBossEnd => s.paused = none
  | .worldBossEndRest _ => s.switchTimers = []
  | .proceed _ =>
    match s.holder with
    | some .fengHuangEnd => s.switchTimers = []
    | some (.onTimerEndScene _) => s.bWorldBossScene || !s.bFengHuangScene || s.switchTimers ≠ []
    | _ => true
  | _ => true

/-- There is at most one timer, and it is the one that is kept. -/
structure Single (timers : List Item) (timerID : Option Nat) : Prop where
  length : timers.length ≤ 1
  kept : ∀ i ∈ timers, timerID = some i.timerID

theorem single_nil (timerID : Option Nat) : Single [] timerID := ⟨Nat.zero_le 1, by simp⟩

theorem single_set (timerID : Nat) (nextTick : Int) : Single ([] ++ [⟨timerID, nextTick⟩]) (some timerID) :=
  ⟨Nat.le_refl 1, by simp⟩

theorem Single.filter {timers : List Item} {timerID : Option Nat} (h : Single timers timerID) (p : Item → Bool) :
    Single (timers.filter p) timerID :=
  ⟨Nat.le_trans (List.length_filter_le p timers) h.length, fun i hi => h.kept i (List.mem_of_mem_filter hi)⟩

/-- Clearing the timer that is kept clears them all. -/
theorem Single.filter_ne {timers : List Item} {timerID : Nat} (h : Single timers (some timerID)) :
    timers.filter (fun i => i.timerID ≠ timerID) = [] := by
  rw [List.filter_eq_nil_iff]
  intro i hi
  simpa using (Option.some.inj (h.kept i hi)).symm

theorem Single.eq_nil {timers : List Item} (h : Single timers none) : timers = [] :=
  List.eq_nil_iff_forall_not_mem.2 fun i hi => by simpa using h.kept i hi

/-- The one timer is the one that is kept, so it is cleared. -/
theorem clearSwitchScene_eq (h : Single s.switchTimers s.switchScene) :
    s.clearSwitchScene = { s with switchTimers := [], switchScene := none } := by
  unfold State.clearSwitchScene
  split
  · rename_i timerID hid
    rw [hid] at h
    rw [h.filter_ne]
  · rename_i hid
    rw [hid] at h
    rw [← h.eq_nil, ← hid]

/-- So is the timer of the end. -/
theorem clearEndScene_eq (h : Single s.endTimers s.endScene) :
    s.clearEndScene = { s with endTimers := [], endScene := none } := by
  unfold State.clearEndScene
  split
  · rename_i timerID hid
    rw [hid] at h
    rw [h.filter_ne]
  · rename_i hid
    rw [hid] at h
    rw [← h.eq_nil, ← hid]

/-- The invariant of the runs whose labels meet the condition. -/
structure Inv (s : State) : Prop where
  switch : Single s.switchTimers s.switchScene
  ending : Single s.endTimers s.endScene
  covered : s.switchTimers = [] → s.bWorldBossScene ∨ s.bFengHuangScene ∨ s.ends ≠ [] ∨ s.holder = some .flushFengHuang ∨
    s.holder = some .fengHuangEnd
  ends : ∀ paused ∈ s.ends, paused = none
  kept : s.lost = false
  started : s.isTickerEnable = true ∧ s.tickStep = true

theorem inv_init : Inv State.init := ⟨single_set _ _, single_nil _, by decide, by decide, rfl, ⟨rfl, rfl⟩⟩

/-- Where no handler is running, the invariant is what is to be shown. -/
theorem Inv.restored (h : Inv s) (hquiet : quiet s) : Restored s := by
  obtain ⟨hholder, -, hends, -⟩ := hquiet
  refine ⟨h.switch.length, fun hboss hphoenix => ?_, fun _ => h.ending.length, h.kept⟩
  have hne : s.switchTimers ≠ [] := by
    intro hnil
    simpa [hboss, hphoenix, hends, hholder] using h.covered hnil
  have hpos := List.length_pos_iff.2 hne
  have hle := h.switch.length
  omega

/-! ## What the handlers keep -/

/-- In a started game the ticker is there, and a timeout can be set. -/
theorem Inv.setEndScene_eq (h : Inv s) (delay : Int) : s.setEndScene delay = some (s.addEndScene delay) := if_pos h.started.1

/-- The set timers of `_onTimerSwitchScene` and `_flushWorldBoss`, by a handler that leaves the switch interval alone. -/
theorem Inv.addEndScene (h : Inv s) (hend : s.endTimers = []) (delay : Int) : Inv (s.addEndScene delay) := by
  refine ⟨h.switch, ?_, h.covered, h.ends, h.kept, h.started⟩
  simp only [State.addEndScene, hend]
  exact single_set _ _

/-- Another handler has the critical section, or none, and it has not cleared the switch interval. -/
theorem Inv.setHolder (h : Inv s) (holder : Option Holder)
    (hfree : s.holder ≠ some .flushFengHuang ∧ s.holder ≠ some .fengHuangEnd) :
    Inv { s with holder := holder } := by
  refine ⟨h.switch, h.ending, fun hnil => ?_, h.ends, h.kept, h.started⟩
  rcases h.covered hnil with hc | hc | hc | hc | hc
  · exact Or.inl hc
  · exact Or.inr (Or.inl hc)
  · exact Or.inr (Or.inr (Or.inl hc))
  · exact absurd hc hfree.1
  · exact absurd hc hfree.2

/-- What the functions do not look at. -/
theorem Inv.frame (h : Inv s) (now tick specialSceneEndTick startTime elapseTime : Int) (queued : Option (Func × Nat))
    (flushes : Nat) :
    Inv { s with
      now := now, tick := tick, specialSceneEndTick := specialSceneEndTick, startTime := startTime,
      elapseTime := elapseTime, queued := queued, flushes := flushes } :=
  ⟨h.switch, h.ending, h.covered, h.ends, h.kept, h.started⟩

/-- The switch interval is set, whoever did without it. -/
theorem Inv.addSwitchScene (hend : Single s.endTimers s.endScene) (hends : ∀ paused ∈ s.ends, paused = none)
    (hkept : s.lost = false) (hstarted : s.isTickerEnable = true ∧ s.tickStep = true) (hnil : s.switchTimers = []) :
    Inv s.addSwitchScene := by
  refine ⟨?_, hend, fun h => ?_, hends, hkept, hstarted⟩
  · simp only [State.addSwitchScene, hnil]
    exact single_set _ _
  · simp [State.addSwitchScene] at h

/-- The last lines of `_onTimerEndScene`, with a switch interval there or not needed. -/
theorem Inv.onTimerEndSceneRest (h : Inv s) (hc : ¬s.bWorldBossScene → s.bFengHuangScene → s.switchTimers ≠ []) :
    Inv (onTimerEndSceneRest s) := by
  unfold Scenes.onTimerEndSceneRest
  split
  · rename_i hphoenix
    exact ⟨h.switch, h.ending, fun hnil => absurd hnil (hc hphoenix.1 hphoenix.2), h.ends, h.kept, h.started⟩
  · exact h

/-- The function of a timer is called: it builds its scene, or waits for the critical section. -/
theorem Inv.runTimer (h : Inv s) (func : Func) (timerID : Nat) (hfree : s.holder = none)
    (hend : func = .onTimerSwitchScene → s.endTimers = []) : Inv (runTimer s func timerID) := by
  cases func with
  | onTimerSwitchScene =>
    have hlate := h.frame s.now s.tick (s.now + tickspanSpecialScene * tickStep) s.startTime s.elapseTime s.queued s.flushes
    unfold Scenes.runTimer Scenes.onTimerSwitchScene
    dsimp only
    rw [hlate.setEndScene_eq]
    exact (hlate.addEndScene (hend rfl) _).setHolder (some (.onTimerSwitchScene timerID))
      (by simp [State.addEndScene, hfree])
  | onTimerEndScene =>
    unfold Scenes.runTimer
    dsimp only
    rw [if_pos h.started.1]
    exact h.setHolder _ (by simp [hfree])

/-- The boss comes: the scene gets its end. -/
theorem Inv.flushWorldBoss (h : Inv s) (hend : s.endTimers = [])
    (hfree : s.holder ≠ some .flushFengHuang ∧ s.holder ≠ some .fengHuangEnd) : Inv (flushWorldBoss s) := by
  have hlate := h.frame s.now s.tick (s.now + worldBossLiveTime * tickStep) s.startTime s.elapseTime s.queued s.flushes
  have hholder := (hlate.addEndScene hend (worldBossLiveTime * tickStep)).setHolder (some .flushWorldBoss) hfree
  unfold Scenes.flushWorldBoss
  dsimp only
  rw [hlate.setEndScene_eq]
  dsimp only
  split
  · exact ⟨hholder.switch, hholder.ending, hholder.covered, hholder.ends, hholder.kept, hholder.started⟩
  · exact ⟨hholder.switch, hholder.ending, hholder.covered, hholder.ends, hholder.kept, hholder.started⟩

/-- The two blocks that clear leave no timer. -/
theorem clear_eq (h : Inv s) : s.clearSwitchScene.clearEndScene =
    { s with switchTimers := [], switchScene := none, endTimers := [], endScene := none } := by
  rw [clearSwitchScene_eq h.switch, clearEndScene_eq]
  exact h.ending

/-- `worldBossStart` leaves no timer. -/
theorem worldBossStart_eq (h : Inv s) : worldBossStart s =
    { s with
      paused := if s.bWorldBossScene then s.paused else if s.bFengHuangScene then some
        (s.specialSceneEndTick - s.now) else none
      bWorldBossScene := true, switchTimers := [], switchScene := none, endTimers := [], endScene := none } := by
  unfold Scenes.worldBossStart
  rw [clearSwitchScene_eq, clearEndScene_eq]
  · exact h.ending
  · exact h.switch

theorem Inv.worldBossStart (h : Inv s) : Inv (worldBossStart s) := by
  rw [worldBossStart_eq h]
  exact ⟨single_nil _, single_nil _, fun _ => Or.inl rfl, h.ends, h.kept, h.started⟩

theorem Inv.worldBossEnd (h : Inv s) (hpaused : s.paused = none) : Inv (worldBossEnd s) := by
  unfold Scenes.worldBossEnd
  rw [clearEndScene_eq h.ending, if_pos h.started.1]
  refine ⟨h.switch, single_nil _, fun _ => Or.inr (Or.inr (Or.inl (by simp))), fun paused hmem => ?_, h.kept, h.started⟩
  rcases List.mem_append.1 hmem with hmem | hmem
  · exact h.ends paused hmem
  · rw [List.mem_singleton.1 hmem, hpaused]

/-- The end of `worldBossEnd`, once the switch interval is set. -/
theorem Inv.resumeFengHuang (h : Inv s) (hboss : s.bFengHuangScene → s.bWorldBossScene) : Inv (resumeFengHuang s) := by
  unfold Scenes.resumeFengHuang
  split
  · rename_i hphoenix
    rw [clear_eq h]
    have hclear : Inv { s with
        switchTimers := [], switchScene := none, endTimers := [], endScene := none,
        specialSceneEndTick := s.now + (fengHuangLiveTime * tickStep - s.elapseTime) } :=
      ⟨single_nil _, single_nil _, fun _ => Or.inl (hboss hphoenix), h.ends, h.kept, h.started⟩
    dsimp only
    split
    · rw [hclear.setEndScene_eq]
      exact hclear.addEndScene rfl _
    · exact hclear
  · exact h

/-- `worldBossEnd` after its wait, when no phoenix was there at the start of its boss. -/
theorem Inv.worldBossEndRest (h : Inv s) (hnil : s.switchTimers = []) (k : Nat) :
    Inv (worldBossEndRest { s with ends := s.ends.eraseIdx k } none) := by
  have hends : ∀ paused ∈ s.ends.eraseIdx k, paused = none :=
    fun paused hmem => h.ends paused (List.mem_of_mem_eraseIdx hmem)
  have hset : (Scenes.onTimerEndSceneRest { s with ends := s.ends.eraseIdx k }).isTickerEnable = true ∧
      Inv (Scenes.onTimerEndSceneRest { s with ends := s.ends.eraseIdx k }).addSwitchScene ∧
      ((Scenes.onTimerEndSceneRest { s with ends := s.ends.eraseIdx k }).addSwitchScene.bFengHuangScene →
        (Scenes.onTimerEndSceneRest { s with ends := s.ends.eraseIdx k }).addSwitchScene.bWorldBossScene) := by
    unfold Scenes.onTimerEndSceneRest
    split
    · exact ⟨h.started.1, Inv.addSwitchScene h.ending hends h.kept h.started hnil, by simp [State.addSwitchScene]⟩
    · rename_i hphoenix
      refine ⟨h.started.1, Inv.addSwitchScene h.ending hends h.kept h.started hnil, fun hp => ?_⟩
      by_contra hboss
      exact hphoenix ⟨hboss, hp⟩
  have hresume := hset.2.1.resumeFengHuang hset.2.2
  unfold Scenes.worldBossEndRest
  dsimp only
  rw [State.setSwitchScene, if_pos hset.1, Option.elim_some, Option.any_none]
  exact ⟨hresume.switch, hresume.ending, hresume.covered, hresume.ends, by simpa using hresume.kept, hresume.started⟩

/-- A summons leaves the end timeout of the phoenix, and no switch interval. -/
theorem Inv.flushFengHuang (h : Inv s) (hholder : s.holder = some .callFish) : Inv (flushFengHuang s) := by
  unfold Scenes.flushFengHuang
  split
  · exact h.setHolder none (by simp [hholder])
  · rw [clear_eq h]
    unfold State.setEndScene
    dsimp only
    rw [if_pos h.started.1]
    refine ⟨single_nil _, ?_, fun _ => Or.inr (Or.inr (Or.inr (Or.inl rfl))), h.ends, h.kept, h.started⟩
    exact single_set _ _

theorem Inv.fengHuangEnd (h : Inv s) : Inv (fengHuangEnd s) := by
  unfold Scenes.fengHuangEnd
  rw [clearEndScene_eq h.ending, if_pos h.started.1]
  exact ⟨h.switch, single_nil _, fun _ => Or.inr (Or.inr (Or.inr (Or.inr rfl))), h.ends, h.kept, h.started⟩

/-- What has the critical section goes on behind its wait. -/
theorem Inv.proceed (h : Inv s) (enough : Bool) {holder : Holder} (hholder : s.holder = some holder)
    (hsafe : timerSafe s (.proceed enough)) : Inv (proceed s enough holder) := by
  cases holder with
  | other => exact h.setHolder none (by simp [hholder])
  | flushWorldBoss => exact h.setHolder none (by simp [hholder])
  | onTimerSwitchScene timerID =>
    have hnone := h.setHolder none (by simp [hholder])
    refine ⟨⟨by simpa [Scenes.proceed, returned] using h.switch.length, ?_⟩, h.ending, fun hnil => ?_, h.ends,
      h.kept, h.started⟩
    · intro i hi
      obtain ⟨j, hj, rfl⟩ := List.mem_map.1 hi
      have hkept := h.switch.kept j hj
      split <;> exact hkept
    · exact hnone.covered (List.map_eq_nil_iff.1 hnil)
  | onTimerEndScene timerID =>
    have hrest := h.onTimerEndSceneRest fun hboss hphoenix => by
      simpa [timerSafe, hholder, hboss, hphoenix] using hsafe
    have hnone := hrest.setHolder none (by unfold Scenes.onTimerEndSceneRest; split <;> simp [hholder])
    exact ⟨hnone.switch, hnone.ending.filter _, hnone.covered, hnone.ends, hnone.kept, hnone.started⟩
  | callFish =>
    cases enough with
    | true => exact h.flushFengHuang hholder
    | false => exact h.setHolder none (by simp [hholder])
  | flushFengHuang => exact ⟨h.switch, h.ending, fun _ => Or.inr (Or.inl rfl), h.ends, h.kept, h.started⟩
  | kill => exact h.fengHuangEnd
  | fengHuangEnd =>
    have hnil : s.switchTimers = [] := by simpa [timerSafe, hholder] using hsafe
    have hset : (Scenes.onTimerEndSceneRest s).isTickerEnable = true ∧
      Inv (Scenes.onTimerEndSceneRest s).addSwitchScene := by
      unfold Scenes.onTimerEndSceneRest
      split <;> exact ⟨h.started.1, Inv.addSwitchScene h.ending h.ends h.kept h.started hnil⟩
    unfold Scenes.proceed
    dsimp only
    rw [State.setSwitchScene, if_pos hset.1, Option.getD_some]
    refine ⟨hset.2.switch, hset.2.ending, fun hempty => ?_, hset.2.ends, hset.2.kept, hset.2.started⟩
    simp [State.addSwitchScene] at hempty

/-- One label keeps the invariant, under the condition. -/
theorem Inv.step (h : Inv s) (l : Label) (hsafe : timerSafe s l) (hs : step s l = some s') : Inv s' := by
  cases l with
  | time n => cases hs; exact h.frame _ _ _ _ _ _ _
  | tick =>
    simp only [Scenes.step, Option.ite_none_right_eq_some, Option.some.injEq, if_pos h.started.2] at hs
    obtain ⟨-, rfl⟩ := hs
    exact h.frame _ _ _ _ _ _ _
  | call func timerID =>
    simp only [Scenes.step, Option.ite_none_right_eq_some, Option.some.injEq] at hs
    obtain ⟨-, rfl⟩ := hs
    split
    · rename_i hfree
      refine h.runTimer func timerID (by simp [free] at hfree; exact hfree.1) ?_
      rintro rfl
      simpa [timerSafe, hfree] using hsafe
    · exact h.frame _ _ _ _ _ _ _
  | enter =>
    simp only [Scenes.step, Option.ite_none_right_eq_some, Option.map_eq_some_iff] at hs
    obtain ⟨hfree, ⟨func, timerID⟩, hqueued, rfl⟩ := hs
    refine (h.frame s.now s.tick s.specialSceneEndTick s.startTime s.elapseTime none s.flushes).runTimer func
      timerID hfree ?_
    rintro rfl
    simpa [timerSafe, hqueued] using hsafe
  | enterFlush =>
    simp only [Scenes.step, Option.ite_none_right_eq_some, Option.some.injEq] at hs
    obtain ⟨⟨hfree, -⟩, rfl⟩ := hs
    refine (h.frame s.now s.tick s.specialSceneEndTick s.startTime s.elapseTime s.queued (s.flushes - 1)).flushWorldBoss ?_
      (by simp [hfree])
    simpa [timerSafe] using hsafe
  | other =>
    simp only [Scenes.step, Option.ite_none_right_eq_some, Option.some.injEq] at hs
    obtain ⟨hfree, rfl⟩ := hs
    exact h.setHolder _ (by simp [hfree])
  | callFish =>
    simp only [Scenes.step, Option.ite_none_right_eq_some, Option.some.injEq] at hs
    obtain ⟨⟨hfree, -⟩, rfl⟩ := hs
    exact h.setHolder _ (by simp [hfree])
  | kill =>
    simp only [Scenes.step, Option.ite_none_right_eq_some, Option.some.injEq] at hs
    obtain ⟨⟨hfree, -⟩, rfl⟩ := hs
    exact h.setHolder _ (by simp [hfree])
  | proceed enough =>
    simp only [Scenes.step, Option.map_eq_some_iff] at hs
    obtain ⟨holder, hholder, rfl⟩ := hs
    exact h.proceed enough hholder hsafe
  | worldBossStart =>
    cases hs
    split
    · rename_i hfree
      refine h.worldBossStart.flushWorldBoss (by rw [worldBossStart_eq h]) ?_
      rw [worldBossStart_eq h]
      simp only [free, decide_eq_true_eq] at hfree
      simp [hfree.1]
    · exact h.worldBossStart.frame _ _ _ _ _ _ _
  | worldBossInit =>
    simp only [Scenes.step, Option.ite_none_right_eq_some, Option.some.injEq] at hs
    obtain ⟨hholder, rfl⟩ := hs
    refine h.worldBossStart.flushWorldBoss (by rw [worldBossStart_eq h]) ?_
    rw [worldBossStart_eq h]
    simp [hholder]
  | worldBossEnd =>
    cases hs
    exact h.worldBossEnd (by simpa [timerSafe] using hsafe)
  | worldBossEndRest k =>
    simp only [Scenes.step, Option.map_eq_some_iff] at hs
    obtain ⟨paused, hk, rfl⟩ := hs
    rw [h.ends paused (List.mem_of_getElem? hk)]
    exact h.worldBossEndRest (by simpa [timerSafe] using hsafe) k

/-- Every run of a table from the start of its game whose labels all meet the condition: whenever no handler is running, the
timers of the scenes are as they are to be. -/
theorem restored_of_timerSafe (labels : List Label) (t : State)
    (hsafe : Steps.Meets step (fun s l => timerSafe s l) .init labels) (hrun : Steps.exec step .init labels = some t)
    (hquiet : quiet t) : Restored t :=
  (Steps.exec_invariant (I := Inv) (fun _ l _ h hc hs => h.step l hc hs) labels _ t inv_init hsafe hrun).restored hquiet

/-- A phoenix is summoned and killed, and a boss is started twice and ended. -/
theorem restored_of_timerSafe_phoenix_boss :
    ∃ t, Steps.exec step .init
      [.callFish, .proceed true, .proceed true, .tick, .kill, .proceed true, .proceed true, .worldBossStart,
        .proceed true, .worldBossStart, .proceed true, .worldBossEnd, .worldBossEndRest 0] = some t ∧ Restored t :=
  ⟨_, rfl, restored_of_timerSafe
    [.callFish, .proceed true, .proceed true, .tick, .kill, .proceed true, .proceed true, .worldBossStart,
    .proceed true, .worldBossStart, .proceed true, .worldBossEnd, .worldBossEndRest 0] _ (by decide +kernel) rfl
    ⟨rfl, rfl, rfl, rfl⟩⟩

/-- The end of a boss is notified twice: two intervals switch the scenes. -/
theorem two_switch_timers :
    ¬∀ (labels : List Label) (t : State), Steps.exec step .init labels = some t → quiet t → Restored t := by
  intro h
  have hone :=
    (h [.worldBossStart, .proceed true, .worldBossEnd, .worldBossEndRest 0, .worldBossEnd, .worldBossEndRest 0] _ rfl
    ⟨rfl, rfl, rfl, rfl⟩).atMostOne
  exact absurd hone (by decide)

end SasyServer.Scenes
