import SasyServer.Lemmas.FishAwards
import SasyServer.Lemmas.NetCatches
import SasyServer.Lib.Steps

/-!
# The awards of the catches

A bullet is used once and a fish is paid for once, however the messages of the players are mixed. A bomb belongs to the chair
of the player who has caught it: a player who stands up leaves it behind, and the next one in the chair may cash it.
-/

namespace SasyServer.Catch

open Table (CannonMultiple)

/-- What is to hold of a table at any time. -/
structure Fair (s : State) : Prop where
  nets : ∀ userID, (s.nets.filter fun x => x.2 = userID).length ≤ (s.fires.filter fun x => x.2 = userID).length
  awards : s.awards.Nodup
  cashed : (s.cashed.map fun x => x.1.serial).Nodup
  owners : ∀ x ∈ s.cashed, x.2 = x.1.userID

/-- The condition on a label: nobody sits down at a chair for which there is a bomb that somebody else has caught. -/
def bombSafe (s : State) : Label → Bool
  | .sitDown chairID userID _ _ => s.sweepFishHash.all fun x => x.chairID ≠ chairID || x.userID = userID
  | _ => true

/-- A bomb belongs to the player in its chair, if there is one, and so does a net catch. -/
structure OwnerInv (s : State) : Prop where
  bombs : ∀ x ∈ s.sweepFishHash, ∀ g, s.chairID2GameData x.chairID = some g → g.userID = x.userID
  netting : ∀ c userID b rest fish, s.work = some (.net c userID b rest fish) → ∀ g, s.chairID2GameData c = some g →
    g.userID = userID
  owners : ∀ x ∈ s.cashed, x.2 = x.1.userID

theorem ownerInv_init : OwnerInv .init := by
  refine ⟨?_, ?_, ?_⟩ <;> intros <;> contradiction

section Step

variable {cfg : CannonMultiple} {s s' : State} {i : Label}

/-- The bombs after a step are from before, or of the player whose net catch is under way. -/
theorem bombs_of_step (h : AwardStep s s') {x : SweepFish} (hx : x ∈ s'.sweepFishHash) :
    x ∈ s.sweepFishHash ∨ ∃ b rest fish, s.work = some (.net x.chairID x.userID b rest fish) := by
  cases h with
  | created fishKind buildTick worldBossStartTime time hfish hwork hbombs hawards hcashed => exact Or.inl (hbombs ▸ hx)
  | paid c userID b rest branch f hheld hwork hcreated hfish hbombs hawards hcashed => exact Or.inl (hbombs ▸ hx)
  | bomb c userID b rest branch f new hheld hwork hcreated hfish hserial hchair huser hbombs hawards hcashed =>
    rcases hbombs x hx with rfl | hx
    · rw [hchair, huser]
      exact Or.inr ⟨b, rest, _, hheld⟩
    · exact Or.inl hx
  | cashed g bomb draws fishIDList hbomb hg hfree hwork hfish hbombs hawards hcashed => exact Or.inl (hbombs x hx).1
  | other hcreated hfish hbombs hawards hcashed htrying => exact Or.inl (hbombs x hx)

/-- What is cashed in a step is a bomb, by the player in its chair. -/
theorem cashed_of_step (h : AwardStep s s') {x : SweepFish × Nat} (hx : x ∈ s'.cashed) :
    x ∈ s.cashed ∨ (x.1 ∈ s.sweepFishHash ∧ ∃ g, s.chairID2GameData x.1.chairID = some g ∧ x.2 = g.userID) := by
  cases h with
  | created fishKind buildTick worldBossStartTime time hfish hwork hbombs hawards hcashed => exact Or.inl (hcashed ▸ hx)
  | paid c userID b rest branch f hheld hwork hcreated hfish hbombs hawards hcashed => exact Or.inl (hcashed ▸ hx)
  | bomb c userID b rest branch f new hheld hwork hcreated hfish hserial hchair huser hbombs hawards hcashed =>
    exact Or.inl (hcashed ▸ hx)
  | cashed g bomb draws fishIDList hbomb hg hfree hwork hfish hbombs hawards hcashed =>
    rw [hcashed] at hx
    rcases List.mem_cons.1 hx with rfl | hx
    · exact Or.inr ⟨hbomb, g, hg, rfl⟩
    · exact Or.inl hx
  | other hcreated hfish hbombs hawards hcashed htrying => exact Or.inl (hcashed ▸ hx)

/-- A net catch after a step was under way before, or is that of the player in the chair. -/
theorem ShotStep.netting (h : ShotStep cfg s i s') {c userID : Nat} {b : BulletInfo} {rest : List Int}
    {fish : Option (Branch × FishTrace)} (hw : s'.work = some (.net c userID b rest fish)) :
    (∃ rest fish, s.work = some (.net c userID b rest fish)) ∨ ∃ g, s.chairID2GameData c = some g ∧ g.userID = userID := by
  cases h with
  | fired d m left g hlabel hfree hold ha hwork hfires hnets hchairs =>
    rw [hwork] at hw
    cases hw
  | stored d b' hheld hwork hfires hnets hchairs =>
    rw [hwork] at hw
    cases hw
  | completed d u b' hheld hwork hfires hnets hchairs hgone =>
    rw [hwork] at hw
    cases hw
  | other hfire hnet hfires hnets hchairs =>
    refine (hnet c userID b rest fish hw).imp_right ?_
    rintro ⟨g, hg, huser, -⟩
    exact ⟨g, hg, huser⟩

theorem OwnerInv.step (h : OwnerInv s) (hsafe : bombSafe s i) (hs : step cfg s i = some s') : OwnerInv s' := by
  have hshot := shotStep_of_step hs
  have haward := awardStep_of_step hs
  refine ⟨fun x hx g' hg' => ?_, fun c userID b rest fish hw g' hg' => ?_, fun x hx => ?_⟩
  · rcases hshot.seated hg' with ⟨g, hg, huser⟩ | ⟨hfree, -, isAndroid, score, rfl⟩
    · rw [← huser]
      rcases bombs_of_step haward hx with hx | ⟨b, rest, fish, hw⟩
      · exact h.bombs x hx g hg
      · exact h.netting _ _ b rest fish hw g hg
    · rcases bombs_of_step haward hx with hx | ⟨b, rest, fish, hw⟩
      · have hmine := List.all_eq_true.1 hsafe x hx
        simp only [ne_eq, not_true_eq_false, decide_false, Bool.false_or, decide_eq_true_eq] at hmine
        exact hmine.symm
      · rw [hfree] at hw
        cases hw
  · rcases hshot.seated hg' with ⟨g, hg, huser⟩ | ⟨hfree, -, isAndroid, score, rfl⟩
    · rw [← huser]
      rcases hshot.netting hw with ⟨rest₁, fish₁, hw⟩ | ⟨g₁, hg₁, rfl⟩
      · exact h.netting c userID b rest₁ fish₁ hw g hg
      · rw [hg] at hg₁
        rw [Option.some.inj hg₁]
    · obtain ⟨hc, hs⟩ := Option.ite_none_right_eq_some.1 hs
      obtain rfl := Option.some.inj hs
      rw [hc.1] at hfree
      rw [State.setGameData, hc.1] at hw
      cases hw
  · rcases cashed_of_step haward hx with hx | ⟨hbomb, g, hg, huser⟩
    · exact h.owners x hx
    · rw [huser]
      exact h.bombs x.1 hbomb g hg

end Step

/-- Every run from a table without players in which nobody sits down at a chair with a bomb of somebody else: no player has
completed more net catches than shots of that player were accepted, no fish has been paid for twice, and each bomb was cashed
once, by the player who had caught it. -/
theorem fair_of_bombSafe (cfg : CannonMultiple) (labels : List Label) (t : State)
    (hsafe : Steps.Meets (step cfg) (fun s i => bombSafe s i) .init labels)
    (hrun : Steps.exec (step cfg) .init labels = some t) : Fair t := by
  have h := Steps.exec_invariant (I := fun s => ShotInv s ∧ AwardInv s ∧ OwnerInv s)
    (fun s i s' h hc hs => ⟨h.1.step hs, h.2.1.step (awardStep_of_step hs), h.2.2.step hc hs⟩) labels .init t
    ⟨shotInv_init, awardInv_init, ownerInv_init⟩ hsafe hrun
  exact ⟨h.1.count_le, h.2.1.once, h.2.1.cashed.1, h.2.2.owners⟩

/-- The player 7 catches a bomb and a fish with one bullet, a fish twice in the list, and the bomb is cashed with a fish and
a number that is not there. -/
def bombRun : List Label :=
  [.sitDown 1 7 false 1000, .createFishTraceItem 22 0 0 0, .createFishTraceItem 3 0 0 0, .createFishTraceItem 5 0 0 0,
    .userFire 1 ⟨0, 1, 100, []⟩ 0, .proceed none, .gameOption 1, .bigNetCatchFish 1 1 [2, 1, 2, 9], .proceed none,
      .proceed (some 300), .proceed none,
    .proceed (some 0), .proceed none, .proceed none]

theorem fair_of_bombSafe_bomb :
    ∃ t, Steps.exec (step ⟨100, 500⟩) .init (bombRun ++ [.catchSweepFish 1 1 [3, 8] (fun _ => 6) 1000]) = some t ∧ Fair t :=
  ⟨_, rfl, fair_of_bombSafe ⟨100, 500⟩ (bombRun ++ [.catchSweepFish 1 1 [3, 8] (fun _ => 6) 1000]) _ (by decide +kernel) rfl⟩

/-- The player 7 stands up, the player 8 sits down at the same chair and cashes the bomb. -/
theorem not_fair_nextPlayer :
    ¬∀ (cfg : CannonMultiple) (labels : List Label) (t : State), Steps.exec (step cfg) .init labels = some t → Fair t := by
  intro h
  have howners := (h ⟨100, 500⟩
    (bombRun ++
      [.sitDown 2 9 false 1000, .standUp 1, .sitDown 1 8 false 1000, .catchSweepFish 1 1 [3] (fun _ => 6) 1000])
    _ rfl).owners
  have hbomb := howners _ List.mem_cons_self
  exact absurd hbomb (by decide)

end SasyServer.Catch
