import SasyServer.Lemmas.CatchSteps
import SasyServer.Lib.Steps

/-!
# The price and the multiple of a shot

The multiple of a shot is checked by the scene in which it is fired. In the scene of a phoenix the check finds a wrong
multiple and does not return: a multiple out of the range, or a negative one, is fired.
-/

namespace SasyServer.Catch

open Table (CannonMultiple UserFire multipleAllowed)

/-- The multiple a bullet may have: that of the boss if it was fired in the scene of one, and else one that is configured. -/
def legal (cfg : CannonMultiple) (b : BulletInfo) : Prop :=
  if b.bWorldBossScene then b.multiple = 100 else cfg.min ≤ b.multiple ∧ b.multiple ≤ cfg.max

/-- All bullets that are stored have such a multiple, and so has the one that is about to be. -/
structure Loaded (cfg : CannonMultiple) (s : State) : Prop where
  stored : ∀ chairID g, s.chairID2GameData chairID = some g → ∀ b ∈ g.bulletInfoHash, legal cfg b
  firing : ∀ chairID b, s.work = some (.fire chairID b) → legal cfg b

/-- What a step is to do: the bullets it leaves are as they are to be, and a shot is paid for by a score that covers it. -/
structure FairStep (cfg : CannonMultiple) (s : State) (i : Label) : Prop where
  loaded : ∀ s', step cfg s i = some s' → Loaded cfg s'
  paid : ∀ chairID m left, i = .userFire chairID m left → ∀ g, s.chairID2GameData chairID = some g →
    ∀ s', step cfg s i = some s' →
    ∀ g', s'.chairID2GameData chairID = some g' → g'.fishScore ≤ g.fishScore ∧ (0 ≤ g.fishScore → 0 ≤ g'.fishScore)

/-- The condition on a label: an accepted shot has no negative multiple, and in the scene of a phoenix, without a boss, a
multiple in the range. -/
def shotSafe (cfg : CannonMultiple) (s : State) : Label → Bool
  | .userFire chairID m left =>
    s.work.isSome || (s.chairID2GameData chairID).all fun g =>
      !accepted cfg s g m left || (0 ≤ m.bulletMultiple && (s.bWorldBossScene || !s.bFengHuangScene ||
        (cfg.min ≤ m.bulletMultiple && m.bulletMultiple ≤ cfg.max)))
  | _ => true

section Step

variable {cfg : CannonMultiple} {s s' : State} {chairID : Nat} {g g' : GameData} {m : UserFire} {left : Int}

theorem shotSafe_userFire : shotSafe cfg s (.userFire chairID m left) ↔
    (s.work = none → ∀ g, s.chairID2GameData chairID = some g → accepted cfg s g m left → 0 ≤ m.bulletMultiple ∧
      (s.bWorldBossScene = false → s.bFengHuangScene → cfg.min ≤ m.bulletMultiple ∧ m.bulletMultiple ≤ cfg.max)) := by
  simp only [shotSafe]
  cases s.work <;> cases s.chairID2GameData chairID <;> cases s.bWorldBossScene <;> cases s.bFengHuangScene <;>
    simp <;> grind

/-- The bullet of an accepted shot, by the scene. -/
theorem legal_newBullet_iff (ha : accepted cfg s g m left) : legal cfg (newBullet s g m) ↔
    (s.bWorldBossScene = false → s.bFengHuangScene → cfg.min ≤ m.bulletMultiple ∧ m.bulletMultiple ≤ cfg.max) := by
  have hmultiple : multipleAllowed cfg s.bWorldBossScene s.bFengHuangScene m.bulletMultiple := by
    simp only [accepted, Bool.and_eq_true] at ha
    exact ha.1.1.2
  unfold multipleAllowed at hmultiple
  unfold legal newBullet
  cases hboss : s.bWorldBossScene <;> cases hphoenix : s.bFengHuangScene <;> simp_all

/-- The score after an accepted shot. -/
theorem fishScore_of_accepted (ha : accepted cfg s g m left)
    (hg' : (userFire cfg s chairID g m left).chairID2GameData chairID = some g') :
    g'.fishScore = g.fishScore - m.bulletMultiple := by
  obtain ⟨g₁, hfire, -, -, hscore⟩ := gameData_fire s chairID (countBullet g) m
  rw [eq_userFire_of_accepted chairID ha, hfire, Function.update_self] at hg'
  obtain rfl := Option.some.inj hg'
  exact hscore

theorem fishScore_of_not_accepted (hg : s.chairID2GameData chairID = some g) (ha : ¬accepted cfg s g m left)
    (hg' : (userFire cfg s chairID g m left).chairID2GameData chairID = some g') : g'.fishScore = g.fishScore := by
  obtain ⟨data, heq, hdata⟩ := eq_userFire_of_not_accepted hg ha
  rw [heq, gameData_setGameData_self] at hg'
  rcases hdata with rfl | rfl | rfl
  · cases hg'
  · rw [Option.some.inj hg']
  · rw [← Option.some.inj hg']
    rfl

/-- A step under the condition leaves the bullets as they are to be. -/
theorem Loaded.step (h : Loaded cfg s) {i : Label} (hsafe : shotSafe cfg s i)
    (hs : step cfg s i = some s') : Loaded cfg s' := by
  refine ⟨fun chairID g' hg' b hb => ?_, fun chairID b hw => ?_⟩
  · obtain ⟨g, hg, -, hb | hw⟩ := (shotStep_of_step hs).bullet hg' hb
    · exact h.stored chairID g hg b hb
    · exact h.firing chairID b hw
  · rcases (shotStep_of_step hs).firing hw with hw | ⟨m, left, g, rfl, hfree, hg, ha, rfl⟩
    · exact h.firing chairID b hw
    · exact (legal_newBullet_iff ha).2 (shotSafe_userFire.1 hsafe hfree g hg ha).2

/-- For every step from a table whose bullets are as they are to be. -/
theorem fairStep_iff (h : Loaded cfg s) (i : Label) : FairStep cfg s i ↔ shotSafe cfg s i := by
  constructor
  · intro hfair
    cases i with
    | userFire chairID m left =>
      rw [shotSafe_userFire]
      intro hfree g hg ha
      have hs : Catch.step cfg s (.userFire chairID m left) = some (userFire cfg s chairID g m left) := by
        simp [Catch.step, hfree, hg]
      have hwork : (fire s chairID (countBullet g) m).work = some (.fire chairID (newBullet s g m)) := by
        rw [fire]
        dsimp only
        split <;> rfl
      obtain ⟨g₁, hfire, -, -, hscore⟩ := gameData_fire s chairID (countBullet g) m
      rw [eq_userFire_of_accepted chairID ha] at hs
      refine ⟨?_, (legal_newBullet_iff ha).1 ((hfair.loaded _ hs).firing chairID _ hwork)⟩
      have hpaid := (hfair.paid chairID m left rfl g hg _ hs g₁ (by rw [hfire, Function.update_self])).1
      rw [hscore] at hpaid
      have hsame : (countBullet g).fishScore = g.fishScore := rfl
      omega
    | _ => rfl
  · intro hsafe
    refine ⟨fun s' hs => h.step hsafe hs, ?_⟩
    rintro chairID m left rfl g hg s' hs g' hg'
    obtain ⟨hfree, hs⟩ := Option.ite_none_right_eq_some.1 hs
    rw [hg, Option.map_some] at hs
    obtain rfl := Option.some.inj hs
    by_cases ha : accepted cfg s g m left
    · have hscore := fishScore_of_accepted ha hg'
      have hnonneg := (shotSafe_userFire.1 hsafe hfree g hg ha).1
      simp only [accepted, Bool.and_eq_true, decide_eq_true_eq] at ha
      obtain ⟨⟨-, hcovered⟩, -⟩ := ha
      omega
    · have hscore := fishScore_of_not_accepted hg ha hg'
      omega

end Step

/-- For every run from a table whose bullets are as they are to be: each step leaves them so, and each shot lowers a score
that covers it, if and only if each shot meets the condition. -/
theorem fair_shots_iff (cfg : CannonMultiple) (s : State) (labels : List Label) (h : Loaded cfg s) :
    Steps.Meets (step cfg) (FairStep cfg) s labels ↔ Steps.Meets (step cfg) (fun s i => shotSafe cfg s i) s labels :=
  Steps.meets_iff_of_invariant (fun _ _ _ h hc hs => Loaded.step h hc hs) (fun _ i h => fairStep_iff h i) labels s h

/-- The configured range. -/
def cannons : CannonMultiple := ⟨100, 500⟩

theorem loaded_init (cfg : CannonMultiple) : Loaded cfg .init := by
  refine ⟨?_, ?_⟩
  · intro chairID g h
    cases h
  · intro chairID b h
    cases h

/-- A shot in each of the scenes. -/
def scenes : List Label :=
  [.sitDown 1 7 false 1000, .userFire 1 ⟨0, 1, 500, []⟩ 0, .fengHuang true, .proceed none, .userFire 1 ⟨0, 2, 100, []⟩ 0,
    .worldBossStart 0, .proceed none, .userFire 1 ⟨0, 3, 100, []⟩ 0, .proceed none, .userFire 1 ⟨0, 4, -7, []⟩ 0]

theorem fair_shots_iff_scenes : Steps.Meets (step cannons) (FairStep cannons) .init scenes :=
  (fair_shots_iff cannons .init scenes (loaded_init cannons)).2 (by decide +kernel)

/-- A shot of -1000000 in the scene of a phoenix. -/
theorem not_fair_shots_phoenix :
    ¬∀ (s : State) (labels : List Label), Loaded cannons s → Steps.Meets (step cannons) (FairStep cannons) s labels := by
  intro h
  have hfair :=
    (h .init [.sitDown 1 7 false 1000, .fengHuang true, .userFire 1 ⟨0, 1, -1000000, []⟩ 0] (loaded_init cannons)).2 _ rfl
  have hshot := (hfair.2 _ rfl).1
  have hpaid := (hshot.paid 1 _ _ rfl _ rfl _ rfl _ rfl).1
  exact absurd hpaid (by decide)

end SasyServer.Catch
