import SasyServer.Table.BossFish
import SasyServer.Theorems.SceneTimers

/-!
# Theorem: when the world boss is at its table

Only a bomb that is cashed against it, a switch of the scenes, a clean-up that finds it too old, a `worldBossEnd` that
comes late and finds a phoenix, or a fish that gets its number take the boss away without a kill, only a second
`worldBossStart` while the boss of the first is still to come brings two, and only a `flushWorldBoss` after the end of
the ticker, when the game has been concluded, brings none. A summons of the phoenix cannot: it has the critical
section, and the boss waits for that.
-/

namespace SasyServer.BossFish

open Catch (Fish FishTrace isWorldBoss fishLiveTicks)

/-- The fish that are a world boss. -/
def bosses (fish : Fish) : List FishTrace := fish.fishTraceHash.filter fun f => isWorldBoss f.fishKind

/-- During the scene of the boss, when no handler runs or waits, and the boss has not been killed, it is
there, and of its kind. -/
def BossThere (s : State) : Prop :=
  s.scenes.bWorldBossScene → Scenes.quiet s.scenes → s.catching = none → ¬s.killed →
    (bosses s.fish).map FishTrace.fishKind = [if s.bSpecial then 33 else 29]

/-- The boss is to be there. -/
def watched (s : State) : Bool := s.scenes.bWorldBossScene && s.scenes.flushes = 0 && !s.killed

/-- The condition on a step of the scenes: a switch of the scenes and the end of a `worldBossEnd` during a phoenix come when
no boss is to be there, a `worldBossStart` when no boss is still to come, and a `flushWorldBoss` gets the critical section
before the ticker has ended. -/
def sceneSafe (s : State) : Scenes.Label → Bool
  | .call func _ => !watched s || !Scenes.free s.scenes || func ≠ .onTimerSwitchScene
  | .enter => !watched s || s.scenes.queued.all fun q => q.1 ≠ .onTimerSwitchScene
  | .enterFlush => !s.scenes.bWorldBossScene || s.scenes.isTickerEnable
  | .worldBossStart => s.scenes.flushes = 0 && (!Scenes.free s.scenes || s.scenes.isTickerEnable)
  | .worldBossInit => s.scenes.flushes = 0 && s.scenes.isTickerEnable
  | .worldBossEndRest _ => !watched s || !s.scenes.bFengHuangScene
  | _ => true

/-- The condition on a label: besides, no fish gets the number of the boss, no bomb is cashed against it, and no
clean-up finds it too old. -/
def bossSafe (s : State) : Label → Bool
  | .scene l _ _ => sceneSafe s l
  | .createFishTraceItem _ _ => !watched s || (bosses s.fish).all fun f => f.fishID ≠ s.fish.getNewFishID
  | .catchSweepFish chairID sweepID fishIDList =>
    !watched s || (s.sweepFishHash.find? fun b => b.1 = sweepID).all (fun b => b.2 ≠ chairID) ||
      (bosses s.fish).all fun f => f.fishID ∉ fishIDList
  | .clearTrace => !watched s || (bosses s.fish).all fun f => s.scenes.now < f.buildTick + fishLiveTicks
  | _ => true

/-! ## The fish -/

section Fish

variable {fish : Fish} {fishKind : Nat} {buildTick worldBossStartTime time fishID : Int}

theorem bosses_force (fish : Fish) : bosses (fish.clearFishTrace .force) = [] := rfl

/-- A phoenix is no world boss. -/
theorem bosses_forceWorldBoss (fish : Fish) : bosses (fish.clearFishTrace .forceWorldBoss) = [] := by
  unfold bosses Fish.clearFishTrace
  rw [List.filter_filter, List.filter_eq_nil_iff]
  intro f _
  simp only [isWorldBoss, Bool.and_eq_true, decide_eq_true_eq]
  omega

/-- The fish that have lived too long are cleared, and the boss is not one of them. -/
theorem bosses_old {nowTick : Int} (h : ∀ f ∈ bosses fish, nowTick < f.buildTick + fishLiveTicks) :
    bosses (fish.clearFishTrace (.old nowTick)) = bosses fish := by
  unfold bosses Fish.clearFishTrace
  dsimp only
  rw [List.filter_filter, List.filter_congr]
  intro f hf
  by_cases hk : isWorldBoss f.fishKind
  · have := h f (List.mem_filter.2 ⟨hf, hk⟩)
    simp only [hk, Bool.true_and, decide_eq_true_eq]
    omega
  · simp [hk]

/-- A fish that is no boss is removed. -/
theorem bosses_remove (h : ∀ f ∈ bosses fish, f.fishID ≠ fishID) : bosses (fish.remove fishID) = bosses fish := by
  unfold bosses Fish.remove
  dsimp only
  rw [List.filter_filter, List.filter_congr]
  intro f hf
  by_cases hk : isWorldBoss f.fishKind
  · simpa [hk] using h f (List.mem_filter.2 ⟨hf, hk⟩)
  · simp [hk]

/-- So are several. -/
theorem bosses_removeAll : ∀ (fishIDList : List Int) (fish : Fish), (∀ f ∈ bosses fish, f.fishID ∉ fishIDList) →
    bosses (fishIDList.foldl Fish.remove fish) = bosses fish := by
  intro fishIDList
  induction fishIDList with
  | nil => exact fun _ _ => rfl
  | cons fishID fishIDList ih =>
    intro fish h
    have hfirst : bosses (fish.remove fishID) = bosses fish :=
      bosses_remove fun f hf heq => h f hf (heq ▸ List.mem_cons_self)
    rw [List.foldl_cons, ih, hfirst]
    rw [hfirst]
    exact fun f hf hmem => h f hf (List.mem_cons_of_mem _ hmem)

/-- A fish that is built is added to the bosses if it is one, and takes the place of a boss with its number. -/
theorem bosses_create (h : ∀ f ∈ bosses fish, f.fishID ≠ fish.getNewFishID) :
    (bosses (fish.createFishTraceItem fishKind buildTick worldBossStartTime time)).map FishTrace.fishKind =
      (if isWorldBoss fishKind then [fishKind] else []) ++ (bosses fish).map FishTrace.fishKind := by
  have hrest := bosses_remove h
  unfold bosses Fish.remove at hrest
  unfold bosses Fish.createFishTraceItem
  dsimp only at hrest ⊢
  rw [List.filter_cons, hrest]
  dsimp only
  split <;> rfl

/-- No boss comes of taking fish out. -/
theorem bosses_of_sublist {fish fish' : Fish} (h : fish'.fishTraceHash.Sublist fish.fishTraceHash)
    (hnone : bosses fish = []) :
    bosses fish' = [] :=
  List.sublist_nil.1 (hnone ▸ h.filter _)

theorem sublist_remove (fish : Fish) (fishID : Int) : (fish.remove fishID).fishTraceHash.Sublist fish.fishTraceHash :=
  List.filter_sublist

theorem sublist_removeAll (fishIDList : List Int) : ∀ fish : Fish,
    (fishIDList.foldl Fish.remove fish).fishTraceHash.Sublist fish.fishTraceHash := by
  induction fishIDList with
  | nil => exact fun fish => List.Sublist.refl _
  | cons fishID fishIDList ih => exact fun fish => (ih _).trans (sublist_remove fish fishID)

end Fish

/-! ## The scenes -/

/-- A summons or a kill has the critical section. -/
def summons : Option Scenes.Holder → Bool
  | some .callFish | some .kill => true
  | _ => false

section Scenes

variable (t : Scenes.State)

theorem clearSwitchScene_fields :
    t.clearSwitchScene.bWorldBossScene = t.bWorldBossScene ∧ t.clearSwitchScene.flushes = t.flushes ∧
    t.clearSwitchScene.holder = t.holder := by
  unfold Scenes.State.clearSwitchScene
  split <;> exact ⟨rfl, rfl, rfl⟩

theorem clearEndScene_fields : t.clearEndScene.bWorldBossScene = t.bWorldBossScene ∧ t.clearEndScene.flushes = t.flushes ∧
    t.clearEndScene.holder = t.holder := by
  unfold Scenes.State.clearEndScene
  split <;> exact ⟨rfl, rfl, rfl⟩

theorem onTimerEndSceneRest_fields : (Scenes.onTimerEndSceneRest t).bWorldBossScene = t.bWorldBossScene ∧
    (Scenes.onTimerEndSceneRest t).flushes = t.flushes ∧ (Scenes.onTimerEndSceneRest t).holder = t.holder := by
  unfold Scenes.onTimerEndSceneRest
  split <;> exact ⟨rfl, rfl, rfl⟩

/-- A timer that is set, or not, is none of these fields. -/
theorem setEndScene_fields {t' : Scenes.State} {delay : Int} (h : t.setEndScene delay = some t') :
    t'.bWorldBossScene = t.bWorldBossScene ∧ t'.flushes = t.flushes ∧ t'.holder = t.holder := by
  unfold Scenes.State.setEndScene at h
  split at h
  · cases h
    exact ⟨rfl, rfl, rfl⟩
  · cases h

theorem setSwitchScene_fields {t' : Scenes.State} (h : t.setSwitchScene = some t') :
    t'.bWorldBossScene = t.bWorldBossScene ∧ t'.flushes = t.flushes ∧ t'.holder = t.holder := by
  unfold Scenes.State.setSwitchScene at h
  split at h
  · cases h
    exact ⟨rfl, rfl, rfl⟩
  · cases h

/-- The timeout of the boss changes neither the scene nor the other timeouts that wait. -/
theorem flushWorldBoss_fields : (Scenes.flushWorldBoss t).bWorldBossScene = t.bWorldBossScene ∧
    (Scenes.flushWorldBoss t).flushes = t.flushes ∧ summons (Scenes.flushWorldBoss t).holder = false := by
  unfold Scenes.flushWorldBoss
  dsimp only
  split
  · exact ⟨rfl, rfl, rfl⟩
  · rename_i t' hset
    obtain ⟨hboss, hflushes, -⟩ := setEndScene_fields _ hset
    split <;> exact ⟨hboss, hflushes, rfl⟩

/-- The start of the boss sets the flag of its scene. -/
theorem worldBossStart_fields :
    (Scenes.worldBossStart t).bWorldBossScene = true ∧ (Scenes.worldBossStart t).flushes = t.flushes ∧
    (Scenes.worldBossStart t).holder = t.holder := by
  unfold Scenes.worldBossStart
  obtain ⟨hboss, hflushes, hholder⟩ := clearEndScene_fields (Scenes.State.clearSwitchScene { t with
    paused := if t.bWorldBossScene then t.paused
      else if t.bFengHuangScene then some (t.specialSceneEndTick - t.now) else none
    bWorldBossScene := true })
  rw [hboss, hflushes, hholder, (clearSwitchScene_fields _).1, (clearSwitchScene_fields _).2.1,
    (clearSwitchScene_fields _).2.2]
  exact ⟨rfl, rfl, rfl⟩

theorem worldBossEnd_fields : (Scenes.worldBossEnd t).bWorldBossScene = false ∧ (Scenes.worldBossEnd t).flushes = t.flushes ∧
    (Scenes.worldBossEnd t).holder = t.holder := by
  unfold Scenes.worldBossEnd
  dsimp only
  split <;> exact ⟨rfl, (clearEndScene_fields t).2.1, (clearEndScene_fields t).2.2⟩

/-- What the end of the boss does behind its wait changes the timers only. -/
theorem worldBossEndRest_fields (paused : Option Int) :
    (Scenes.worldBossEndRest t paused).bWorldBossScene = t.bWorldBossScene ∧
    (Scenes.worldBossEndRest t paused).flushes = t.flushes ∧ (Scenes.worldBossEndRest t paused).holder = t.holder := by
  have hresume : ∀ t : Scenes.State, (Scenes.resumeFengHuang t).bWorldBossScene = t.bWorldBossScene ∧
      (Scenes.resumeFengHuang t).flushes = t.flushes ∧ (Scenes.resumeFengHuang t).holder = t.holder := by
    intro t
    obtain ⟨h1, h2, h3⟩ := clearEndScene_fields t.clearSwitchScene
    obtain ⟨h4, h5, h6⟩ := clearSwitchScene_fields t
    unfold Scenes.resumeFengHuang
    split
    · dsimp only
      split
      · unfold Scenes.State.setEndScene
        split <;> exact ⟨h1.trans h4, h2.trans h5, h3.trans h6⟩
      · exact ⟨h1.trans h4, h2.trans h5, h3.trans h6⟩
    · exact ⟨rfl, rfl, rfl⟩
  obtain ⟨h4, h5, h6⟩ := onTimerEndSceneRest_fields t
  unfold Scenes.worldBossEndRest
  dsimp only
  cases hset : (Scenes.onTimerEndSceneRest t).setSwitchScene with
  | none => exact ⟨h4, h5, h6⟩
  | some t' =>
    obtain ⟨h1, h2, h3⟩ := hresume t'
    obtain ⟨h7, h8, h9⟩ := setSwitchScene_fields _ hset
    exact ⟨h1.trans (h7.trans h4), h2.trans (h8.trans h5), h3.trans (h9.trans h6)⟩

/-- A handler that goes on does not start a summons or a kill. -/
theorem proceed_fields (enough : Bool) (holder : Scenes.Holder) :
    (Scenes.proceed t enough holder).bWorldBossScene = t.bWorldBossScene ∧
    (Scenes.proceed t enough holder).flushes = t.flushes ∧ summons (Scenes.proceed t enough holder).holder = false := by
  obtain ⟨h1, h2, -⟩ := onTimerEndSceneRest_fields t
  cases holder with
  | other => exact ⟨rfl, rfl, rfl⟩
  | onTimerSwitchScene timerID => exact ⟨rfl, rfl, rfl⟩
  | onTimerEndScene timerID => exact ⟨h1, h2, rfl⟩
  | flushWorldBoss => exact ⟨rfl, rfl, rfl⟩
  | callFish =>
    obtain ⟨h3, h4, -⟩ := clearEndScene_fields t.clearSwitchScene
    obtain ⟨h5, h6, -⟩ := clearSwitchScene_fields t
    unfold Scenes.proceed
    dsimp only
    split
    · unfold Scenes.flushFengHuang
      split
      · exact ⟨rfl, rfl, rfl⟩
      · unfold Scenes.State.setEndScene
        dsimp only
        split
        · exact ⟨h3.trans h5, h4.trans h6, rfl⟩
        · rename_i hset
          split at hset
          · cases hset
            exact ⟨h3.trans h5, h4.trans h6, rfl⟩
          · cases hset
    · exact ⟨rfl, rfl, rfl⟩
  | flushFengHuang => exact ⟨rfl, rfl, rfl⟩
  | kill =>
    refine ⟨(clearEndScene_fields t).1, (clearEndScene_fields t).2.1, ?_⟩
    unfold Scenes.proceed Scenes.fengHuangEnd
    dsimp only
    split <;> rfl
  | fengHuangEnd =>
    unfold Scenes.proceed
    dsimp only
    cases hset : (Scenes.onTimerEndSceneRest t).setSwitchScene with
    | none => exact ⟨h1, h2, rfl⟩
    | some t' =>
      obtain ⟨h3, h4, -⟩ := setSwitchScene_fields _ hset
      exact ⟨h3.trans h1, h4.trans h2, rfl⟩

theorem gameStart_fields : t.gameStart.bWorldBossScene = t.bWorldBossScene ∧ t.gameStart.flushes = t.flushes ∧
    t.gameStart.holder = t.holder := by
  unfold Scenes.State.gameStart Scenes.State.start
  split <;> exact ⟨rfl, rfl, rfl⟩

/-- The function of a timer does not change the flag of the boss. -/
theorem runTimer_fields (func : Scenes.Func) (timerID : Nat) :
    (Scenes.runTimer t func timerID).bWorldBossScene = t.bWorldBossScene ∧
    (Scenes.runTimer t func timerID).flushes = t.flushes ∧ summons (Scenes.runTimer t func timerID).holder = false := by
  cases func with
  | onTimerSwitchScene =>
    unfold Scenes.runTimer Scenes.onTimerSwitchScene
    dsimp only
    split
    · exact ⟨rfl, rfl, rfl⟩
    · rename_i t' hset
      obtain ⟨hboss, hflushes, -⟩ := setEndScene_fields _ hset
      exact ⟨hboss, hflushes, rfl⟩
  | onTimerEndScene =>
    unfold Scenes.runTimer
    dsimp only
    split <;> exact ⟨rfl, rfl, rfl⟩

end Scenes

/-! ## The invariant -/

/-- The invariant: at most one boss is still to come, and then there is none; and a summons or a kill in the critical
section keeps it waiting. -/
structure Inv (s : State) : Prop where
  one : s.scenes.flushes ≤ 1
  waiting : s.scenes.bWorldBossScene → s.scenes.flushes ≠ 0 → bosses s.fish = []
  there : s.scenes.bWorldBossScene → s.scenes.flushes = 0 → ¬s.killed →
    (bosses s.fish).map FishTrace.fishKind = [if s.bSpecial then 33 else 29]
  summoned : summons s.scenes.holder → s.scenes.bWorldBossScene → s.scenes.flushes ≠ 0

variable {s s' : State}

theorem inv_init (fishID : Int) : Inv (State.init fishID) where
  one := Nat.zero_le 1
  waiting h := by cases h
  there h := by cases h
  summoned _ h := by cases h

theorem Inv.bossThere (h : Inv s) : BossThere s := fun hboss hquiet _ hkilled => h.there hboss hquiet.2.1 hkilled

/-- A step that does not start or end the scene of the boss: no boss comes, and the one that is to be there stays. -/
theorem Inv.mono (h : Inv s) (hboss : s'.scenes.bWorldBossScene = s.scenes.bWorldBossScene)
    (hflushes : s'.scenes.flushes = s.scenes.flushes) (hholder : summons s'.scenes.holder → summons s.scenes.holder)
    (hspecial : s'.bSpecial = s.bSpecial) (hkilled : s.killed → s'.killed)
    (hnone : bosses s.fish = [] → bosses s'.fish = [])
    (hkeep : watched s → ¬s'.killed → (bosses s'.fish).map FishTrace.fishKind = (bosses s.fish).map FishTrace.fishKind) :
    Inv s' where
  one := hflushes ▸ h.one
  waiting hb hf := hnone (h.waiting (hboss ▸ hb) (hflushes ▸ hf))
  there hb hf hk := by
    have hk' : ¬s.killed := fun hs => hk (hkilled hs)
    rw [hboss] at hb
    rw [hflushes] at hf
    rw [hkeep (by simp [watched, hb, hf, hk']) hk, hspecial]
    exact h.there hb hf hk'
  summoned hh hb := hflushes ▸ h.summoned (hholder hh) (hboss ▸ hb)

/-- A step of the scenes that leaves the fish. -/
theorem Inv.scenes (h : Inv s) {t : Scenes.State} (hboss : t.bWorldBossScene = s.scenes.bWorldBossScene)
    (hflushes : t.flushes = s.scenes.flushes) (hholder : summons t.holder → summons s.scenes.holder) : Inv
    { s with scenes := t } :=
  h.mono hboss hflushes hholder rfl id id fun _ _ => rfl

/-- A step of the scenes that clears the fish, while no boss is to be there. -/
theorem Inv.cleared (h : Inv s) {t : Scenes.State} (hboss : t.bWorldBossScene = s.scenes.bWorldBossScene)
    (hflushes : t.flushes = s.scenes.flushes) (hholder : summons t.holder → summons s.scenes.holder) {fish : Fish}
    (hnone : bosses fish = []) (hnot : ¬watched s) :
    Inv { s with scenes := t, fish := fish } :=
  h.mono hboss hflushes hholder rfl id (fun _ => hnone) fun hw => absurd hw hnot

/-- The boss comes when there is none, if the ticker is there. -/
theorem inv_flush {t : Scenes.State} (time : Int) (hnone : t.bWorldBossScene → bosses s.fish = []) (hflushes : t.flushes = 0)
    (hholder : summons t.holder = false) (hticker : t.bWorldBossScene → s.scenes.isTickerEnable = true) :
    Inv { flushWorldBoss s time with scenes := t } where
  one := hflushes ▸ Nat.zero_le 1
  waiting _ hf := absurd hflushes hf
  there hb _ _ := by
    have hnil := hnone hb
    have hkind : isWorldBoss (if s.bSpecial then 33 else 29) := by split <;> rfl
    unfold BossFish.flushWorldBoss
    rw [if_pos (hticker hb)]
    show (bosses (s.fish.createFishTraceItem _ _ _ _)).map FishTrace.fishKind = _
    rw [bosses_create (by simp [hnil]), hnil, if_pos hkind]
    rfl
  summoned hh := by simp [hholder] at hh

/-- Outside of the scene of the boss. -/
theorem inv_out (hboss : s.scenes.bWorldBossScene = false) (hflushes : s.scenes.flushes ≤ 1) : Inv s where
  one := hflushes
  waiting hb := by simp [hboss] at hb
  there hb := by simp [hboss] at hb
  summoned _ hb := by simp [hboss] at hb

/-- A boss that is still to come. -/
theorem inv_waiting (hflushes : s.scenes.flushes = 1) (hnone : bosses s.fish = []) : Inv s where
  one := hflushes ▸ Nat.le_refl 1
  waiting _ _ := hnone
  there _ hf := by simp [hflushes] at hf
  summoned _ _ := by simp [hflushes]

/-- A function of a timer gets the critical section. -/
theorem Inv.runTimer (h : Inv s) (func : Scenes.Func) (timerID : Nat) (queued : Option (Scenes.Func × Nat))
    (hc : func = .onTimerSwitchScene → ¬watched s) :
    Inv { runTimer s func with scenes := Scenes.runTimer { s.scenes with queued := queued } func timerID } := by
  obtain ⟨hboss, hflushes, hnot⟩ := runTimer_fields { s.scenes with queued := queued } func timerID
  have hholder : summons (Scenes.runTimer { s.scenes with queued := queued } func timerID).holder →
    summons s.scenes.holder :=
    fun hh => by simp [hnot] at hh
  cases func with
  | onTimerSwitchScene => exact h.cleared hboss hflushes hholder (bosses_force s.fish) (hc rfl)
  | onTimerEndScene => exact h.scenes hboss hflushes hholder

/-- The handler in the critical section goes on. A summons or a kill finds no boss: one that is to come is kept waiting. -/
theorem Inv.proceed (h : Inv s) {holder : Scenes.Holder} (hh : s.scenes.holder = some holder) (enough : Bool) (time : Int) :
    Inv { proceed s enough time holder with scenes := Scenes.proceed s.scenes enough holder } := by
  obtain ⟨hboss, hflushes, hdone⟩ := proceed_fields s.scenes enough holder
  have hholder : summons (Scenes.proceed s.scenes enough holder).holder → summons s.scenes.holder :=
    fun h => by simp [hdone] at h
  have hnot : summons s.scenes.holder → ¬watched s := by
    intro hsummons hw
    simp only [watched, Bool.and_eq_true, decide_eq_true_eq] at hw
    exact h.summoned hsummons hw.1.1 hw.1.2
  cases holder with
  | callFish =>
    unfold BossFish.proceed BossFish.flushFengHuang
    dsimp only
    split
    · split
      · exact h.scenes hboss hflushes hholder
      · have hnone : bosses ((s.fish.clearFishTrace .force).createFishTraceItem 30 s.scenes.now s.worldBossStartTime time) =
          [] := rfl
        have hout := hnot (by rw [hh]; rfl)
        split
        · exact h.cleared hboss hflushes hholder hnone hout
        · exact h.cleared hboss hflushes hholder (bosses_force s.fish) hout
    · exact h.scenes hboss hflushes hholder
  | kill => exact h.cleared hboss hflushes hholder (bosses_force s.fish) (hnot (by rw [hh]; rfl))
  | other => exact h.scenes hboss hflushes hholder
  | onTimerSwitchScene timerID => exact h.scenes hboss hflushes hholder
  | onTimerEndScene timerID => exact h.scenes hboss hflushes hholder
  | flushWorldBoss => exact h.scenes hboss hflushes hholder
  | flushFengHuang => exact h.scenes hboss hflushes hholder
  | fengHuangEnd => exact h.scenes hboss hflushes hholder

/-- A `worldBossStart` clears the fish of a boss that has been there. -/
theorem bosses_worldBossStart (s : State) (data : Data) : bosses (worldBossStart s data).fish = [] :=
  bosses_forceWorldBoss s.fish

/-- One step of the scenes keeps the invariant, under the condition. -/
theorem Inv.scene (h : Inv s) {l : Scenes.Label} {data : Data} {time : Int} {t : Scenes.State} (hc : sceneSafe s l)
    (hs : Scenes.step s.scenes l = some t) : Inv { runScene s data time l with scenes := t } := by
  cases l with
  | time n =>
    cases hs
    exact h.scenes rfl rfl id
  | tick =>
    simp only [Scenes.step] at hs
    split at hs
    · cases hs
      split <;> exact h.scenes rfl rfl id
    · cases hs
  | call func timerID =>
    simp only [Scenes.step] at hs
    split at hs
    · cases hs
      by_cases hfree : Scenes.free s.scenes
      · simp only [runScene, hfree, if_true]
        refine h.runTimer func timerID s.scenes.queued fun hfunc hw => ?_
        simp [sceneSafe, hw, hfree, hfunc] at hc
      · simp only [runScene, hfree]
        exact h.scenes rfl rfl id
    · cases hs
  | enter =>
    simp only [Scenes.step] at hs
    split at hs
    · obtain ⟨⟨func, timerID⟩, hq, rfl⟩ := Option.map_eq_some_iff.1 hs
      simp only [runScene, hq, Option.elim_some]
      refine h.runTimer func timerID none fun hfunc hw => ?_
      simp [sceneSafe, hw, hq, hfunc] at hc
    · cases hs
  | enterFlush =>
    simp only [Scenes.step] at hs
    split at hs
    · rename_i hguard
      cases hs
      obtain ⟨hboss, hflushes, hholder⟩ := flushWorldBoss_fields { s.scenes with flushes := s.scenes.flushes - 1 }
      refine inv_flush time (fun hb => h.waiting (hboss ▸ hb) (by omega)) ?_ hholder fun hb => ?_
      · have := h.one
        rw [hflushes]
        dsimp only
        omega
      · have hb : s.scenes.bWorldBossScene = true := hboss ▸ hb
        simpa [sceneSafe, hb] using hc
    · cases hs
  | other =>
    simp only [Scenes.step] at hs
    split at hs
    · cases hs
      exact h.scenes rfl rfl (by simp [summons])
    · cases hs
  | callFish =>
    simp only [Scenes.step] at hs
    split at hs
    · rename_i hguard
      cases hs
      exact inv_out (by simpa using hguard.2.2) h.one
    · cases hs
  | kill =>
    simp only [Scenes.step] at hs
    split at hs
    · rename_i hguard
      cases hs
      exact inv_out (by simpa using hguard.2.2) h.one
    · cases hs
  | proceed enough =>
    obtain ⟨holder, hholder, rfl⟩ := Option.map_eq_some_iff.1 hs
    simp only [runScene, hholder, Option.elim_some]
    exact h.proceed hholder enough time
  | worldBossStart =>
    obtain ⟨hzero, hticker⟩ : s.scenes.flushes = 0 ∧ (Scenes.free s.scenes = true → s.scenes.isTickerEnable = true) := by
      simp only [sceneSafe, Bool.and_eq_true, decide_eq_true_eq, Bool.or_eq_true, Bool.not_eq_true'] at hc
      exact ⟨hc.1, fun hfree => hc.2.resolve_left (by simp [hfree])⟩
    obtain ⟨-, hflushes, -⟩ := worldBossStart_fields s.scenes
    cases hs
    by_cases hfree : Scenes.free s.scenes
    · obtain ⟨-, hflushes', hholder⟩ := flushWorldBoss_fields (Scenes.worldBossStart s.scenes)
      simp only [runScene, hfree, if_true]
      exact inv_flush time (fun _ => bosses_worldBossStart s data) (hflushes'.trans (hflushes.trans hzero)) hholder
        fun _ => hticker hfree
    · simp only [runScene, hfree]
      exact inv_waiting (by simp [hzero]) (bosses_worldBossStart s data)
  | worldBossInit =>
    obtain ⟨hzero, hticker⟩ : s.scenes.flushes = 0 ∧ s.scenes.isTickerEnable = true := by simpa [sceneSafe] using hc
    obtain ⟨-, hflushes, -⟩ := worldBossStart_fields s.scenes
    obtain ⟨-, hflushes', hholder⟩ := flushWorldBoss_fields (Scenes.worldBossStart s.scenes)
    simp only [Scenes.step] at hs
    split at hs
    · cases hs
      exact inv_flush time (fun _ => bosses_worldBossStart s data) (hflushes'.trans (hflushes.trans hzero)) hholder
        fun _ => hticker
    · cases hs
  | worldBossEnd =>
    cases hs
    obtain ⟨hboss, hflushes, -⟩ := worldBossEnd_fields s.scenes
    exact inv_out hboss (hflushes ▸ h.one)
  | worldBossEndRest k =>
    obtain ⟨paused, -, rfl⟩ := Option.map_eq_some_iff.1 hs
    obtain ⟨hboss, hflushes, hholder⟩ := worldBossEndRest_fields { s.scenes with ends := s.scenes.ends.eraseIdx k } paused
    simp only [runScene, worldBossEndRest]
    split
    · rename_i hphoenix
      refine h.cleared hboss hflushes (by rw [hholder]; exact id) (bosses_forceWorldBoss s.fish) fun hw => ?_
      simp only [sceneSafe, hw, Bool.not_true, Bool.false_or, Bool.not_eq_true'] at hc
      unfold Scenes.onTimerEndSceneRest at hphoenix
      split at hphoenix
      · simp at hphoenix
      · simp [hc] at hphoenix
    · exact h.scenes hboss hflushes (by rw [hholder]; exact id)

/-- A fish that is built, and is none of the two kinds. -/
theorem Inv.buildFishTrace (h : Inv s) {fishKind : Nat} (hkind : isWorldBoss fishKind = false) (time : Int)
    (hc : watched s → ∀ f ∈ bosses s.fish, f.fishID ≠ s.fish.getNewFishID) : Inv (buildFishTrace s fishKind time) := by
  have hkept : (∀ f ∈ bosses s.fish, f.fishID ≠ s.fish.getNewFishID) →
      (bosses (BossFish.buildFishTrace s fishKind time).fish).map FishTrace.fishKind =
        (bosses s.fish).map FishTrace.fishKind :=
    fun hnew => (bosses_create hnew).trans (by rw [hkind]; rfl)
  refine h.mono rfl rfl id rfl id (fun hnone => ?_) fun hw _ => hkept (hc hw)
  have hnil := hkept (by simp [hnone])
  rwa [hnone, List.map_nil, List.map_eq_nil_iff] at hnil

/-- A catch takes the boss only as a kill. -/
theorem Inv.caught (h : Inv s) (c : Caught) (hit : Bool) : Inv (caught s c hit) := by
  unfold BossFish.caught
  split
  · refine h.mono rfl rfl id rfl (fun hk => by simp [hk]) (bosses_of_sublist (sublist_remove s.fish c.fishID)) fun _ hk => ?_
    refine congrArg _ (bosses_remove fun f hf heq => hk ?_)
    obtain ⟨hf, hkind⟩ := List.mem_filter.1 hf
    exact Bool.or_eq_true_iff.2 (Or.inr (List.any_eq_true.2 ⟨f, hf, by simp [heq, hkind]⟩))
  · exact h.mono rfl rfl id rfl id id fun _ _ => rfl

/-- The look of a `doCatchFish` changes no fish. -/
theorem Inv.doCatchFish (h : Inv s) (chairID : Nat) (fishID : Int) : Inv (doCatchFish s chairID fishID) := by
  unfold BossFish.doCatchFish
  split
  · exact h
  · split
    · exact h
    · exact h.mono rfl rfl id rfl id id fun _ _ => rfl

/-- A bomb that is cashed, not against the boss. -/
theorem Inv.catchSweepFish (h : Inv s) {chairID : Nat} {sweepID : Int} {fishIDList : List Int}
    (hc : bossSafe s (.catchSweepFish chairID sweepID fishIDList)) : Inv (catchSweepFish s chairID sweepID fishIDList) := by
  unfold BossFish.catchSweepFish
  split
  · exact h
  · rename_i b hb
    split
    · exact h
    · rename_i hchair
      refine h.mono rfl rfl id rfl id (bosses_of_sublist (sublist_removeAll fishIDList s.fish)) fun hw _ => ?_
      refine congrArg _ (bosses_removeAll fishIDList s.fish ?_)
      simpa [bossSafe, hw, hb, hchair] using hc

/-- One label keeps the invariant, under the condition. -/
theorem Inv.step (h : Inv s) {l : Label} (hc : bossSafe s l) (hs : step s l = some s') : Inv s' := by
  cases l with
  | scene l data time =>
    simp only [BossFish.step] at hs
    split at hs
    · cases hs
    · obtain ⟨t, ht, rfl⟩ := Option.map_eq_some_iff.1 hs
      exact h.scene hc ht
  | createFishTraceItem fishKind time =>
    simp only [BossFish.step] at hs
    split at hs
    · cases hs
    · rename_i hkind
      cases hs
      exact h.buildFishTrace (by simpa using hkind) time fun hw => by simpa [bossSafe, hw] using hc
  | doCatchFish chairID fishID =>
    simp only [BossFish.step] at hs
    split at hs
    · cases hs
      exact h.doCatchFish chairID fishID
    · cases hs
  | caught hit =>
    obtain ⟨c, -, rfl⟩ := Option.map_eq_some_iff.1 hs
    exact h.caught c hit
  | catchSweepFish chairID sweepID fishIDList =>
    simp only [BossFish.step] at hs
    split at hs
    · cases hs
      exact h.catchSweepFish hc
    · cases hs
  | clearTrace =>
    simp only [BossFish.step] at hs
    split at hs
    · cases hs
      refine h.mono rfl rfl id rfl id (bosses_of_sublist List.filter_sublist) fun hw _ => congrArg _ (bosses_old ?_)
      simpa [bossSafe, hw] using hc
    · cases hs
  | gameConclude =>
    simp only [BossFish.step] at hs
    split at hs
    · cases hs
      exact inv_out rfl h.one
    · cases hs
  | gameStart =>
    simp only [BossFish.step] at hs
    split at hs
    · cases hs
      obtain ⟨hboss, hflushes, hholder⟩ := gameStart_fields s.scenes
      exact h.scenes hboss hflushes fun hh => hholder ▸ hh
    · cases hs

/-- From the start of its first game, throughout every run of a table whose labels meet the condition, the boss is there in
its scene unless it has been killed. -/
theorem bossThere_of_bossSafe (fishID : Int) (labels : List Label) (s : State)
    (hm : Steps.Meets step (fun s l => bossSafe s l) (State.init fishID) labels)
    (hs : Steps.exec step (State.init fishID) labels = some s) :
    BossThere s :=
  (Steps.exec_invariant (fun _ _ _ h hc hs => Inv.step h hc hs) labels _ s (inv_init fishID) hm hs).bossThere

/-- A bomb is caught, the boss comes while the section is taken, a phoenix is summoned in vain, the bomb is cashed against
another fish, and there is a clean-up. -/
def bombAndBoss : List Label :=
  [.createFishTraceItem 22 0, .scene .other ⟨false, none⟩ 0, .doCatchFish 3 1, .caught true,
    .scene .worldBossStart ⟨true, some 100⟩ 130, .createFishTraceItem 5 130, .scene (.proceed true) ⟨false, none⟩ 130,
    .scene .enterFlush ⟨false, none⟩ 130, .scene (.proceed true) ⟨false, none⟩ 130, .scene .other ⟨false, none⟩ 130,
    .catchSweepFish 3 1 [2], .clearTrace, .scene (.proceed true) ⟨false, none⟩ 130]

theorem bossThere_of_bossSafe_bomb : ∃ s, Steps.exec step (State.init 0) bombAndBoss = some s ∧ BossThere s :=
  ⟨_, rfl, bossThere_of_bossSafe 0 bombAndBoss _ (by decide +kernel) rfl⟩

/-- A bomb that has been caught before is cashed against the boss, which is gone. -/
theorem boss_swept : ¬∀ (fishID : Int) (labels : List Label) (s : State), Steps.exec step
    (State.init fishID) labels = some s → BossThere s := by
  intro h
  have hthere := h 0 [.createFishTraceItem 22 0, .scene .other ⟨false, none⟩ 0, .doCatchFish 3 1, .caught true,
    .scene (.proceed true) ⟨false, none⟩ 0, .scene .worldBossStart ⟨false, none⟩ 0, .scene (.proceed true) ⟨false, none⟩ 0,
    .scene .other ⟨false, none⟩ 0, .catchSweepFish 3 1 [2], .scene (.proceed true) ⟨false, none⟩ 0] _ rfl
  exact absurd (hthere rfl ⟨rfl, rfl, rfl, rfl⟩ rfl (by decide)) (by decide)

end SasyServer.BossFish
