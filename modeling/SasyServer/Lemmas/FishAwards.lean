import SasyServer.Lemmas.CatchSteps

/-!
# Each fish is paid for once

What a step does to the fish, the caught bombs and the awards, and the invariant that comes of it: a fish that has been paid
for is neither in the water nor a bomb that is still to be cashed, and the fish that is being tried has not been paid for,
even if it has been cleared in the meantime.
-/

namespace SasyServer.Catch

open Table (CannonMultiple UserFire)

/-- What a step does to them: a fish is created, the fish that is tried is paid for or caught as a bomb, a bomb is cashed, or
fish and bombs only go away. -/
inductive AwardStep (s s' : State) : Prop where
  | created (fishKind : Nat) (buildTick worldBossStartTime time : Int)
      (hfish : s'.fish = s.fish.createFishTraceItem fishKind buildTick worldBossStartTime time)
      (hwork : s'.work = s.work) (hbombs : s'.sweepFishHash = s.sweepFishHash) (hawards : s'.awards = s.awards)
        (hcashed : s'.cashed = s.cashed)
  | paid (c userID : Nat) (b : BulletInfo) (rest : List Int) (branch : Branch) (f : FishTrace)
      (hheld : s.work = some (.net c userID b rest (some (branch, f)))) (hwork : s'.work = some (.net c userID b rest none))
      (hcreated : s'.fish.created = s.fish.created)
      (hfish : ∀ f' ∈ s'.fish.fishTraceHash, f' ∈ s.fish.fishTraceHash ∧ f'.fishID ≠ f.fishID)
      (hbombs : s'.sweepFishHash = s.sweepFishHash) (hawards : s'.awards = f.serial :: s.awards)
        (hcashed : s'.cashed = s.cashed)
  | bomb (c userID : Nat) (b : BulletInfo) (rest : List Int) (branch : Branch) (f : FishTrace) (new : SweepFish)
      (hheld : s.work = some (.net c userID b rest (some (branch, f)))) (hwork : s'.work = some (.net c userID b rest none))
      (hcreated : s'.fish.created = s.fish.created)
      (hfish : ∀ f' ∈ s'.fish.fishTraceHash, f' ∈ s.fish.fishTraceHash ∧ f'.fishID ≠ f.fishID)
      (hserial : new.serial = f.serial) (hchair : new.chairID = c) (huser : new.userID = userID)
      (hbombs : ∀ x ∈ s'.sweepFishHash, x = new ∨ x ∈ s.sweepFishHash) (hawards : s'.awards = s.awards)
        (hcashed : s'.cashed = s.cashed)
  | cashed (g : GameData) (bomb : SweepFish) (draws : FishTrace → Nat) (fishIDList : List Int)
    (hbomb : bomb ∈ s.sweepFishHash)
      (hg : s.chairID2GameData bomb.chairID = some g) (hfree : s.work = none) (hwork : s'.work = none)
      (hfish : s'.fish = (sweepLoop draws fishIDList ⟨s.fish, 0, s.awards⟩).fish)
      (hbombs : ∀ x ∈ s'.sweepFishHash, x ∈ s.sweepFishHash ∧ x.fishID ≠ bomb.fishID)
      (hawards : s'.awards = bomb.serial :: (sweepLoop draws fishIDList ⟨s.fish, 0, s.awards⟩).awards)
      (hcashed : s'.cashed = (bomb, g.userID) :: s.cashed)
  | other (hcreated : s'.fish.created = s.fish.created) (hfish : ∀ f ∈ s'.fish.fishTraceHash, f ∈ s.fish.fishTraceHash)
      (hbombs : ∀ x ∈ s'.sweepFishHash, x ∈ s.sweepFishHash) (hawards : s'.awards = s.awards)
        (hcashed : s'.cashed = s.cashed)
      (htrying : ∀ c userID b rest branch f, s'.work = some (.net c userID b rest (some (branch, f))) →
        s.work = some (.net c userID b rest (some (branch, f))) ∨ f ∈ s.fish.fishTraceHash)

section Steps

variable {cfg : CannonMultiple} {s s' : State} {chairID : Nat} {g : GameData}

/-- A step that leaves the fish, the bombs and the awards alone and tries no new fish. -/
theorem awardStep_of_frame (hfish : s'.fish = s.fish) (hbombs : s'.sweepFishHash = s.sweepFishHash)
    (hawards : s'.awards = s.awards) (hcashed : s'.cashed = s.cashed)
    (hwork : s'.work = s.work ∨ ∀ c userID b rest fish, s'.work ≠ some (.net c userID b rest (some fish))) :
    AwardStep s s' := by
  refine .other (by rw [hfish]) (fun f hf => hfish ▸ hf) (fun x hx => hbombs ▸ hx) hawards hcashed ?_
  intro c userID b rest branch f hw
  rcases hwork with heq | hnone
  · exact Or.inl (heq ▸ hw)
  · exact absurd hw (hnone c userID b rest (branch, f))

/-- A step that clears fish. -/
theorem awardStep_of_clear (c : Clear) (hfish : s'.fish = s.fish.clearFishTrace c)
    (hbombs : ∀ x ∈ s'.sweepFishHash, x ∈ s.sweepFishHash) (hawards : s'.awards = s.awards)
    (hcashed : s'.cashed = s.cashed) (hwork : s'.work = s.work) : AwardStep s s' := by
  refine .other ?_ ?_ hbombs hawards hcashed ?_
  · rw [hfish, Fish.created_clearFishTrace]
  · intro f hf
    rw [hfish] at hf
    exact Fish.mem_of_mem_clearFishTrace hf
  · intro c userID b rest branch f hw
    exact Or.inl (hwork ▸ hw)

/-- A shot awards nothing. -/
theorem awardStep_userFire {m : UserFire} {left : Int} (hg : s.chairID2GameData chairID = some g) :
    AwardStep s (userFire cfg s chairID g m left) := by
  by_cases ha : accepted cfg s g m left
  · rw [eq_userFire_of_accepted chairID ha]
    refine awardStep_of_frame rfl rfl rfl rfl (Or.inr fun c userID b rest fish hw => ?_)
    cases hw
  · obtain ⟨data, heq, -⟩ := eq_userFire_of_not_accepted hg ha
    rw [heq]
    exact awardStep_of_frame rfl rfl rfl rfl (Or.inl rfl)

theorem awardStep_netCatch {bulletID : Int} {catchIDList : List Int} :
    AwardStep s (netCatch s chairID g bulletID catchIDList) := by
  unfold netCatch
  split
  · exact awardStep_of_frame rfl rfl rfl rfl (Or.inl rfl)
  · refine awardStep_of_frame rfl rfl rfl rfl (Or.inr fun c userID b rest fish hw => ?_)
    cases hw

/-- The fish that is tried is one that is there. -/
theorem mem_of_target {fishID : Int} {branch : Branch} {f : FishTrace} (h : target s fishID = some (branch, f)) :
    f ∈ s.fish.fishTraceHash := by
  obtain ⟨f', hfind, h⟩ := Option.bind_eq_some_iff.1 h
  have hf : f' = f := by
    split at h
    · obtain ⟨-, h⟩ := Option.ite_none_right_eq_some.1 h
      exact (Prod.mk.inj (Option.some.inj h)).2
    · split at h
      · obtain ⟨-, h⟩ := Option.ite_none_right_eq_some.1 h
        exact (Prod.mk.inj (Option.some.inj h)).2
      · exact (Prod.mk.inj (Option.some.inj h)).2
  exact hf ▸ (Fish.of_find hfind).1

/-- A fish that is caught. -/
theorem awardStep_caught {userID : Nat} {b : BulletInfo} {rest : List Int} {branch : Branch} {f : FishTrace} (score : Int)
    (hheld : s.work = some (.net chairID userID b rest (some (branch, f)))) :
    AwardStep s { caught s chairID userID b branch f score with work := some (.net chairID userID b rest none) } := by
  cases branch with
  | worldBoss => exact .paid chairID userID b rest _ f hheld rfl rfl (fun f' hf' => Fish.mem_remove.1 hf') rfl rfl rfl
  | fengHuang =>
    refine .paid chairID userID b rest _ f hheld rfl rfl (fun f' hf' => ?_) rfl rfl rfl
    cases hf'
  | ordinary =>
    unfold caught
    dsimp only
    split
    · refine .bomb chairID userID b rest _ f ⟨chairID, f.fishID, f.fishKind, b.kind, b.multiple, userID, f.serial⟩ hheld rfl
        rfl
        (fun f' hf' => Fish.mem_remove.1 hf') rfl rfl rfl ?_ rfl rfl
      intro x hx
      exact (List.mem_cons.1 hx).imp_right List.mem_of_mem_filter
    · exact .paid chairID userID b rest _ f hheld rfl rfl (fun f' hf' => Fish.mem_remove.1 hf') rfl rfl rfl

/-- What a catch does behind its wait: the fish is taken, and becomes a bomb or is paid for. -/
theorem awardStep_proceed {w : Work} {score : Option Int} (hheld : s.work = some w) : AwardStep s (proceed s score w) := by
  cases w with
  | fire c b =>
    refine awardStep_of_frame rfl rfl rfl rfl (Or.inr fun c userID b rest fish hw => ?_)
    cases hw
  | net c userID b rest fish =>
    cases fish with
    | some fish =>
      cases score with
      | some score => exact awardStep_caught score hheld
      | none =>
        refine awardStep_of_frame rfl rfl rfl rfl (Or.inr fun c userID b rest fish hw => ?_)
        cases hw
    | none =>
      cases rest with
      | nil =>
        refine awardStep_of_frame rfl rfl rfl rfl (Or.inr fun c userID b rest fish hw => ?_)
        cases hw
      | cons fishID rest =>
        refine .other rfl (fun f hf => hf) (fun x hx => hx) rfl rfl ?_
        intro c userID b rest' branch f hw
        exact Or.inr (mem_of_target (Work.net.inj (Option.some.inj hw)).2.2.2.2)

/-- Every step. -/
theorem awardStep_of_step {i : Label} (h : step cfg s i = some s') : AwardStep s s' := by
  cases i with
  | userFire c m left =>
    obtain ⟨-, h⟩ := Option.ite_none_right_eq_some.1 h
    obtain ⟨g, hc, rfl⟩ := Option.map_eq_some_iff.1 h
    exact awardStep_userFire hc
  | bigNetCatchFish c bulletID catchFishIDList =>
    obtain ⟨-, h⟩ := Option.ite_none_right_eq_some.1 h
    obtain ⟨g, -, rfl⟩ := Option.map_eq_some_iff.1 h
    exact awardStep_netCatch
  | bigNetCatchFishAndroid c bulletID fishID =>
    obtain ⟨-, h⟩ := Option.ite_none_right_eq_some.1 h
    obtain ⟨g, -, h⟩ := Option.bind_eq_some_iff.1 h
    obtain ⟨-, h⟩ := Option.ite_none_right_eq_some.1 h
    obtain rfl := Option.some.inj h
    exact awardStep_netCatch
  | catchSweepFish c sweepID fishIDList draws fishMultipleMax =>
    obtain ⟨hfree, h⟩ := Option.ite_none_right_eq_some.1 h
    obtain ⟨g, hg, h⟩ := Option.bind_eq_some_iff.1 h
    obtain rfl | ⟨bomb, hbomb, rfl, rfl⟩ := eq_catchSweepFish h
    · exact awardStep_of_frame rfl rfl rfl rfl (Or.inl rfl)
    · exact .cashed g bomb draws fishIDList hbomb hg hfree hfree rfl
        (fun x hx => by simpa using List.mem_filter.1 hx) rfl rfl
  | proceed score =>
    obtain ⟨w, hw, rfl⟩ := Option.map_eq_some_iff.1 h
    exact awardStep_proceed hw
  | sitDown | standUp | gameOption =>
    obtain ⟨-, h⟩ := Option.ite_none_right_eq_some.1 h
    obtain rfl := Option.some.inj h
    exact awardStep_of_frame rfl rfl rfl rfl (Or.inl rfl)
  | createFishTraceItem fishKind buildTick worldBossStartTime time =>
    obtain rfl := Option.some.inj h
    exact .created fishKind buildTick worldBossStartTime time rfl rfl rfl rfl rfl
  | clearFishTrace c =>
    obtain rfl := Option.some.inj h
    exact awardStep_of_clear c rfl (fun x hx => hx) rfl rfl rfl
  | worldBossStart | worldBossEnd =>
    obtain rfl := Option.some.inj h
    exact awardStep_of_clear .forceWorldBoss rfl (fun x hx => hx) rfl rfl rfl
  | gameConclude =>
    obtain ⟨-, h⟩ := Option.ite_none_right_eq_some.1 h
    obtain rfl := Option.some.inj h
    refine awardStep_of_clear .force rfl (fun x hx => ?_) rfl rfl rfl
    cases hx
  | scoreLock | specialScene | sendWorldBossInvalidGold | saveInvalidGunGold | fengHuang | fishScore =>
    obtain rfl := Option.some.inj h
    exact awardStep_of_frame rfl rfl rfl rfl (Or.inl rfl)

end Steps

/-! ## Awards -/

/-- The fish so far: those in the water, the bombs, the one that is tried, and those that have been paid for. -/
structure AwardInv (s : State) : Prop where
  once : s.awards.Nodup
  paid : ∀ n ∈ s.awards, n < s.fish.created ∧ (∀ f ∈ s.fish.fishTraceHash, f.serial ≠ n) ∧
    ∀ x ∈ s.sweepFishHash, x.serial ≠ n
  fish : ∀ f ∈ s.fish.fishTraceHash, f.serial < s.fish.created ∧ ∀ f' ∈ s.fish.fishTraceHash, f'.serial = f.serial →
    f'.fishID = f.fishID
  bombs : ∀ x ∈ s.sweepFishHash, x.serial < s.fish.created ∧ (∀ f ∈ s.fish.fishTraceHash, f.serial ≠ x.serial) ∧
    ∀ x' ∈ s.sweepFishHash, x'.serial = x.serial → x'.fishID = x.fishID
  trying : ∀ c userID b rest branch f, s.work = some (.net c userID b rest (some (branch, f))) →
    f.serial < s.fish.created ∧ f.serial ∉ s.awards ∧ (∀ x ∈ s.sweepFishHash, x.serial ≠ f.serial) ∧
      ∀ f' ∈ s.fish.fishTraceHash, f'.serial = f.serial → f'.fishID = f.fishID
  cashed : (s.cashed.map fun x => x.1.serial).Nodup ∧ ∀ x ∈ s.cashed, x.1.serial ∈ s.awards

theorem awardInv_init : AwardInv .init := by
  refine ⟨List.nodup_nil, ?_, ?_, ?_, ?_, List.nodup_nil, ?_⟩ <;> intros <;> contradiction

section Inv

variable {s s' : State}

/-- Fish and bombs only go away, and a fish that is in the water may be tried. -/
theorem AwardInv.other (h : AwardInv s) (hcreated : s'.fish.created = s.fish.created)
    (hfish : ∀ f ∈ s'.fish.fishTraceHash, f ∈ s.fish.fishTraceHash) (hbombs : ∀ x ∈ s'.sweepFishHash, x ∈ s.sweepFishHash)
    (hawards : s'.awards = s.awards) (hcashed : s'.cashed = s.cashed)
    (htrying : ∀ c userID b rest branch f, s'.work = some (.net c userID b rest (some (branch, f))) →
      s.work = some (.net c userID b rest (some (branch, f))) ∨ f ∈ s.fish.fishTraceHash) : AwardInv s' := by
  refine ⟨hawards ▸ h.once, ?_, ?_, ?_, ?_, ?_⟩
  · rw [hawards, hcreated]
    intro n hn
    obtain ⟨hlt, hwater, hbomb⟩ := h.paid n hn
    exact ⟨hlt, fun f hf => hwater f (hfish f hf), fun x hx => hbomb x (hbombs x hx)⟩
  · rw [hcreated]
    intro f hf
    obtain ⟨hlt, hsame⟩ := h.fish f (hfish f hf)
    exact ⟨hlt, fun f' hf' => hsame f' (hfish f' hf')⟩
  · rw [hcreated]
    intro x hx
    obtain ⟨hlt, hwater, hsame⟩ := h.bombs x (hbombs x hx)
    exact ⟨hlt, fun f hf => hwater f (hfish f hf), fun x' hx' => hsame x' (hbombs x' hx')⟩
  · rw [hawards, hcreated]
    intro c userID b rest branch f hw
    rcases htrying c userID b rest branch f hw with hw | hf
    · obtain ⟨hlt, hunpaid, hbomb, hsame⟩ := h.trying c userID b rest branch f hw
      exact ⟨hlt, hunpaid, fun x hx => hbomb x (hbombs x hx), fun f' hf' => hsame f' (hfish f' hf')⟩
    · obtain ⟨hlt, hsame⟩ := h.fish f hf
      exact ⟨hlt, fun hmem => (h.paid _ hmem).2.1 f hf rfl, fun x hx => ((h.bombs x (hbombs x hx)).2.1 f hf).symm,
        fun f' hf' => hsame f' (hfish f' hf')⟩
  · rw [hawards, hcashed]
    exact h.cashed

/-- A fish is created: its serial is new. -/
theorem AwardInv.created (h : AwardInv s) {fishKind : Nat} {buildTick worldBossStartTime time : Int}
    (hfish : s'.fish = s.fish.createFishTraceItem fishKind buildTick worldBossStartTime time) (hwork : s'.work = s.work)
    (hbombs : s'.sweepFishHash = s.sweepFishHash) (hawards : s'.awards = s.awards) (hcashed : s'.cashed = s.cashed) :
    AwardInv s' := by
  have hcreated : s'.fish.created = s.fish.created + 1 := by rw [hfish]; rfl
  have hmem : ∀ f ∈ s'.fish.fishTraceHash,
      (f.serial = s.fish.created ∧ f.fishID = s.fish.getNewFishID) ∨
        (f ∈ s.fish.fishTraceHash ∧ f.serial < s.fish.created) := by
    intro f hf
    rw [hfish] at hf
    rcases Fish.mem_createFishTraceItem hf with ⟨hserial, hid, -⟩ | ⟨hf, -⟩
    · exact Or.inl ⟨hserial, hid⟩
    · exact Or.inr ⟨hf, (h.fish f hf).1⟩
  refine ⟨hawards ▸ h.once, ?_, ?_, ?_, ?_, ?_⟩
  · rw [hawards, hcreated, hbombs]
    intro n hn
    obtain ⟨hlt, hwater, hbomb⟩ := h.paid n hn
    refine ⟨Nat.lt_succ_of_lt hlt, fun f hf => ?_, hbomb⟩
    rcases hmem f hf with ⟨hserial, -⟩ | ⟨hf, -⟩
    · rw [hserial]
      exact Nat.ne_of_gt hlt
    · exact hwater f hf
  · rw [hcreated]
    intro f hf
    rcases hmem f hf with ⟨hserial, hid⟩ | ⟨hold, hlt⟩
    · refine ⟨hserial ▸ Nat.lt_succ_self _, fun f' hf' heq => ?_⟩
      rcases hmem f' hf' with ⟨-, hid'⟩ | ⟨-, hlt'⟩
      · rw [hid, hid']
      · rw [heq, hserial] at hlt'
        exact absurd hlt' (Nat.lt_irrefl _)
    · refine ⟨Nat.lt_succ_of_lt hlt, fun f' hf' heq => ?_⟩
      rcases hmem f' hf' with ⟨hserial', -⟩ | ⟨hold', -⟩
      · rw [← heq, hserial'] at hlt
        exact absurd hlt (Nat.lt_irrefl _)
      · exact (h.fish f hold).2 f' hold' heq
  · rw [hcreated, hbombs]
    intro x hx
    obtain ⟨hlt, hwater, hsame⟩ := h.bombs x hx
    refine ⟨Nat.lt_succ_of_lt hlt, fun f hf => ?_, hsame⟩
    rcases hmem f hf with ⟨hserial, -⟩ | ⟨hf, -⟩
    · rw [hserial]
      exact Nat.ne_of_gt hlt
    · exact hwater f hf
  · rw [hwork, hcreated, hawards, hbombs]
    intro c userID b rest branch f hw
    obtain ⟨hlt, hunpaid, hbomb, hsame⟩ := h.trying c userID b rest branch f hw
    refine ⟨Nat.lt_succ_of_lt hlt, hunpaid, hbomb, fun f' hf' heq => ?_⟩
    rcases hmem f' hf' with ⟨hserial, -⟩ | ⟨hold, -⟩
    · rw [← heq, hserial] at hlt
      exact absurd hlt (Nat.lt_irrefl _)
    · exact hsame f' hold heq
  · rw [hawards, hcashed]
    exact h.cashed

/-- A fish is paid for that has not been paid for before and is gone then, with the bomb it may have been. -/
theorem AwardInv.award (h : AwardInv s) {n : Nat} (hn : n < s.fish.created) (hunpaid : n ∉ s.awards)
    (hcreated : s'.fish.created = s.fish.created)
    (hfish : ∀ f ∈ s'.fish.fishTraceHash, f ∈ s.fish.fishTraceHash ∧ f.serial ≠ n)
    (hbombs : ∀ x ∈ s'.sweepFishHash, x ∈ s.sweepFishHash ∧ x.serial ≠ n) (hawards : s'.awards = n :: s.awards)
    (hcashed : s'.cashed = s.cashed ∨ ∃ x : SweepFish × Nat, x.1.serial = n ∧ s'.cashed = x :: s.cashed)
    (hidle : ∀ c userID b rest fish, s'.work ≠ some (.net c userID b rest (some fish))) : AwardInv s' := by
  refine ⟨hawards ▸ List.nodup_cons.2 ⟨hunpaid, h.once⟩, ?_, ?_, ?_, ?_, ?_⟩
  · rw [hawards, hcreated]
    intro k hk
    rcases List.mem_cons.1 hk with rfl | hk
    · exact ⟨hn, fun f hf => (hfish f hf).2, fun x hx => (hbombs x hx).2⟩
    · obtain ⟨hlt, hwater, hbomb⟩ := h.paid k hk
      exact ⟨hlt, fun f hf => hwater f (hfish f hf).1, fun x hx => hbomb x (hbombs x hx).1⟩
  · rw [hcreated]
    intro f hf
    obtain ⟨hlt, hsame⟩ := h.fish f (hfish f hf).1
    exact ⟨hlt, fun f' hf' => hsame f' (hfish f' hf').1⟩
  · rw [hcreated]
    intro x hx
    obtain ⟨hlt, hwater, hsame⟩ := h.bombs x (hbombs x hx).1
    exact ⟨hlt, fun f hf => hwater f (hfish f hf).1, fun x' hx' => hsame x' (hbombs x' hx').1⟩
  · intro c userID b rest branch f hw
    exact absurd hw (hidle c userID b rest (branch, f))
  · rw [hawards]
    rcases hcashed with heq | ⟨x, hserial, heq⟩
    · rw [heq]
      exact ⟨h.cashed.1, fun x hx => List.mem_cons_of_mem _ (h.cashed.2 x hx)⟩
    · rw [heq, List.map_cons]
      refine ⟨List.nodup_cons.2 ⟨fun hmem => ?_, h.cashed.1⟩, fun y hy => ?_⟩
      · obtain ⟨y, hy, hsame⟩ := List.mem_map.1 hmem
        exact hunpaid (hserial ▸ hsame ▸ h.cashed.2 y hy)
      · rcases List.mem_cons.1 hy with rfl | hy
        · exact hserial ▸ List.mem_cons_self
        · exact List.mem_cons_of_mem _ (h.cashed.2 y hy)

/-- The fish that is tried is caught as a bomb. -/
theorem AwardInv.bomb (h : AwardInv s) {c userID : Nat} {b : BulletInfo} {rest : List Int} {branch : Branch} {f : FishTrace}
    {new : SweepFish} (hheld : s.work = some (.net c userID b rest (some (branch, f))))
    (hwork : s'.work = some (.net c userID b rest none)) (hcreated : s'.fish.created = s.fish.created)
    (hfish : ∀ f' ∈ s'.fish.fishTraceHash, f' ∈ s.fish.fishTraceHash ∧ f'.fishID ≠ f.fishID)
    (hserial : new.serial = f.serial) (hbombs : ∀ x ∈ s'.sweepFishHash, x = new ∨ x ∈ s.sweepFishHash)
    (hawards : s'.awards = s.awards) (hcashed : s'.cashed = s.cashed) :
    AwardInv s' := by
  obtain ⟨hlt, hunpaid, hbomb, hsame⟩ := h.trying c userID b rest branch f hheld
  have hgone : ∀ f' ∈ s'.fish.fishTraceHash, f'.serial ≠ f.serial :=
    fun f' hf' heq => (hfish f' hf').2 (hsame f' (hfish f' hf').1 heq)
  refine ⟨hawards ▸ h.once, ?_, ?_, ?_, ?_, ?_⟩
  · rw [hawards, hcreated]
    intro n hn
    obtain ⟨hltn, hwater, hbombn⟩ := h.paid n hn
    refine ⟨hltn, fun f' hf' => hwater f' (hfish f' hf').1, fun x hx => ?_⟩
    rcases hbombs x hx with rfl | hx
    · rintro rfl
      exact hunpaid (hserial ▸ hn)
    · exact hbombn x hx
  · rw [hcreated]
    intro f' hf'
    obtain ⟨hlt', hsame'⟩ := h.fish f' (hfish f' hf').1
    exact ⟨hlt', fun f'' hf'' => hsame' f'' (hfish f'' hf'').1⟩
  · rw [hcreated]
    intro x hx
    rcases hbombs x hx with rfl | hold
    · refine ⟨hserial ▸ hlt, fun f' hf' => hserial ▸ hgone f' hf', fun x' hx' heq => ?_⟩
      rcases hbombs x' hx' with rfl | hold'
      · rfl
      · exact absurd (heq.trans hserial) (hbomb x' hold')
    · obtain ⟨hltx, hwater, hsamex⟩ := h.bombs x hold
      refine ⟨hltx, fun f' hf' => hwater f' (hfish f' hf').1, fun x' hx' heq => ?_⟩
      rcases hbombs x' hx' with rfl | hold'
      · exact absurd (heq.symm.trans hserial) (hbomb x hold)
      · exact hsamex x' hold' heq
  · rw [hwork]
    intro c userID b rest branch f hw
    cases hw
  · rw [hawards, hcashed]
    exact h.cashed

/-- The loop of `pbCatchSweepFish`: every fish it finds is gone then, and paid for if it is no bomb. -/
theorem AwardInv.sweepLoop (hfree : s.work = none) (draws : FishTrace → Nat) : ∀ (fishIDList : List Int) (w : Sweep),
    AwardInv { s with fish := w.fish, awards := w.awards } →
      AwardInv { s with fish := (sweepLoop draws fishIDList w).fish, awards := (sweepLoop draws fishIDList w).awards } := by
  intro fishIDList
  induction fishIDList with
  | nil => exact fun w h => h
  | cons fishID rest ih =>
    intro w h
    rw [Catch.sweepLoop]
    cases hfind : w.fish.find fishID with
    | none => exact ih w h
    | some f =>
      obtain ⟨hf, hid⟩ := Fish.of_find hfind
      refine ih _ ?_
      dsimp only
      split
      · exact h.other rfl (fun f' hf' => (Fish.mem_remove.1 hf').1) (fun x hx => hx) rfl rfl
          fun c userID b rest branch f hw => Or.inl hw
      · refine h.award (h.fish f hf).1 (fun hmem => (h.paid _ hmem).2.1 f hf rfl) rfl (fun f' hf' => ?_) (fun x hx => ?_) rfl
          (Or.inl rfl) ?_
        · obtain ⟨hold, hne⟩ := Fish.mem_remove.1 hf'
          exact ⟨hold, fun heq => hne (((h.fish f hf).2 f' hold heq).trans hid)⟩
        · exact ⟨hx, ((h.bombs x hx).2.1 f hf).symm⟩
        · intro c userID b rest fish hw
          rw [hfree] at hw
          cases hw

/-- One label, by what it does to the fish and the bombs. -/
theorem AwardInv.step (h : AwardInv s) (hstep : AwardStep s s') : AwardInv s' := by
  cases hstep with
  | created fishKind buildTick worldBossStartTime time hfish hwork hbombs hawards hcashed =>
    exact h.created hfish hwork hbombs hawards hcashed
  | paid c userID b rest branch f hheld hwork hcreated hfish hbombs hawards hcashed =>
    obtain ⟨hlt, hunpaid, hbomb, hsame⟩ := h.trying c userID b rest branch f hheld
    refine h.award hlt hunpaid hcreated (fun f' hf' => ?_) (fun x hx => ?_) hawards (Or.inl hcashed) ?_
    · exact ⟨(hfish f' hf').1, fun heq => (hfish f' hf').2 (hsame f' (hfish f' hf').1 heq)⟩
    · rw [hbombs] at hx
      exact ⟨hx, hbomb x hx⟩
    · rw [hwork]
      intro c userID b rest fish hw
      cases hw
  | bomb c userID b rest branch f new hheld hwork hcreated hfish hserial hchair huser hbombs hawards hcashed =>
    exact h.bomb hheld hwork hcreated hfish hserial hbombs hawards hcashed
  | cashed g bomb draws fishIDList hbomb hg hfree hwork hfish hbombs hawards hcashed =>
    have hswept := AwardInv.sweepLoop hfree draws fishIDList ⟨s.fish, 0, s.awards⟩ h
    obtain ⟨hlt, hwater, hsame⟩ := hswept.bombs bomb hbomb
    refine hswept.award hlt (fun hmem => (hswept.paid _ hmem).2.2 bomb hbomb rfl) (by rw [hfish]) (fun f hf => ?_)
      (fun x hx => ?_)
      hawards (Or.inr ⟨_, rfl, hcashed⟩) ?_
    · rw [hfish] at hf
      exact ⟨hf, hwater f hf⟩
    · exact ⟨(hbombs x hx).1, fun heq => (hbombs x hx).2 (hsame x (hbombs x hx).1 heq)⟩
    · rw [hwork]
      intro c userID b rest fish hw
      cases hw
  | other hcreated hfish hbombs hawards hcashed htrying => exact h.other hcreated hfish hbombs hawards hcashed htrying

end Inv

end SasyServer.Catch
