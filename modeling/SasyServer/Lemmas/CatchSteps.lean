import SasyServer.Table.Catch

/-!
# The chairs, step by step

`pbUserFire` is accepted or it is not. What a chair has after a step it had before, or a bullet was about to be stored, or
the user has just sat down.
-/

namespace SasyServer.Catch

open Table (CannonMultiple UserFire multipleAllowed)

section Lemmas

variable {cfg : CannonMultiple} {s s' : State} {chairID : Nat} {g g' : GameData} {b : BulletInfo} {m : UserFire}
  {specialSceneLeftTime : Int}

/-! ## Game data -/

@[simp]
theorem gameData_setGameData_self (data : Option GameData) : (s.setGameData chairID data).chairID2GameData chairID = data :=
  Function.update_self _ _ _

theorem gameData_setGameData_of_ne {data : Option GameData} {other : Nat} (h : other ≠ chairID) :
    (s.setGameData chairID data).chairID2GameData other = s.chairID2GameData other :=
  Function.update_of_ne h _ _

/-- A chair after the change of one: it is the changed one, or it is as before. -/
theorem of_gameData_setGameData {data : Option GameData} {other : Nat}
    (h : (s.setGameData chairID data).chairID2GameData other = some g') :
    (other = chairID ∧ data = some g') ∨ (other ≠ chairID ∧ s.chairID2GameData other = some g') := by
  by_cases hc : other = chairID
  · subst hc
    rw [gameData_setGameData_self] at h
    exact Or.inl ⟨rfl, h⟩
  · rw [gameData_setGameData_of_ne hc] at h
    exact Or.inr ⟨hc, h⟩

theorem of_gameData_modifyGameData {f : GameData → GameData} {other : Nat}
    (h : (s.modifyGameData chairID f).chairID2GameData other = some g') :
    ∃ g, s.chairID2GameData other = some g ∧ ((other = chairID ∧ g' = f g) ∨ (other ≠ chairID ∧ g' = g)) := by
  rcases of_gameData_setGameData h with ⟨rfl, hd⟩ | ⟨hne, hd⟩
  · obtain ⟨g, hg, rfl⟩ := Option.map_eq_some_iff.1 hd
    exact ⟨g, hg, Or.inl ⟨rfl, rfl⟩⟩
  · exact ⟨g', hd, Or.inr ⟨hne, rfl⟩⟩

/-! ## Shots -/

/-- `pbUserFire` gets to the end of its checks. -/
def accepted (cfg : CannonMultiple) (s : State) (gameData : GameData) (m : UserFire) (specialSceneLeftTime : Int) : Bool :=
  !gameData.isScoreLocked && gameData.bulletID + 1 = m.bulletID &&
    multipleAllowed cfg s.bWorldBossScene s.bFengHuangScene m.bulletMultiple &&
    m.bulletMultiple ≤ gameData.fishScore && !androidWaits s gameData specialSceneLeftTime

/-- A shot that is accepted is counted and fired. -/
theorem eq_userFire_of_accepted (chairID : Nat) (h : accepted cfg s g m specialSceneLeftTime) :
    userFire cfg s chairID g m specialSceneLeftTime = fire s chairID (countBullet g) m := by
  simp only [accepted, Bool.and_eq_true, Bool.not_eq_true', decide_eq_true_eq] at h
  obtain ⟨⟨⟨⟨hlock, hid⟩, hmultiple⟩, hscore⟩, hwaits⟩ := h
  unfold userFire
  dsimp only
  rw [if_neg (by simp [hlock]), if_neg (not_not.2 hid), if_neg (not_not.2 hmultiple), if_neg (Int.not_lt.2 hscore),
    if_neg (by simp [hwaits])]

/-- A shot that is not accepted leaves the game data but for the number, or the player stands up. -/
theorem eq_userFire_of_not_accepted (hg : s.chairID2GameData chairID = some g)
    (h : ¬accepted cfg s g m specialSceneLeftTime) :
    ∃ data, userFire cfg s chairID g m specialSceneLeftTime = s.setGameData chairID data ∧
      (data = none ∨ data = some g ∨ data = some (countBullet g)) := by
  have hself : s = s.setGameData chairID (some g) := by
    unfold State.setGameData
    rw [← hg, Function.update_eq_self]
  simp only [accepted, Bool.and_eq_true, Bool.not_eq_true', decide_eq_true_eq, not_and] at h
  unfold userFire
  dsimp only
  split
  · exact ⟨some g, hself, Or.inr (Or.inl rfl)⟩
  rename_i hlock
  split
  · exact ⟨_, rfl, Or.inr (Or.inr rfl)⟩
  rename_i hid
  split
  · exact ⟨_, rfl, Or.inr (Or.inr rfl)⟩
  rename_i hmultiple
  split
  · split
    · exact ⟨none, rfl, Or.inl rfl⟩
    · exact ⟨_, rfl, Or.inr (Or.inr rfl)⟩
  rename_i hscore
  split
  · exact ⟨_, rfl, Or.inr (Or.inr rfl)⟩
  rename_i hwaits
  exact absurd (by simpa using hwaits)
    (h ⟨⟨⟨by simpa using hlock, not_not.1 hid⟩, not_not.1 hmultiple⟩, Int.not_lt.1 hscore⟩)

/-- The game data a shot leaves. -/
theorem gameData_fire (s : State) (chairID : Nat) (g : GameData) (m : UserFire) :
    ∃ g', (fire s chairID g m).chairID2GameData = Function.update s.chairID2GameData chairID (some g') ∧
      g'.userID = g.userID ∧
      g'.bulletInfoHash = g.bulletInfoHash ∧ g'.fishScore = g.fishScore - m.bulletMultiple := by
  unfold fire
  dsimp only
  split
  · exact ⟨_, rfl, rfl, rfl, rfl⟩
  · exact ⟨_, rfl, rfl, rfl, rfl⟩

/-! ## Chairs -/

/-- The same user was in the chair, with these bullets or more. -/
def Was (s : State) (chairID : Nat) (g' : GameData) : Prop :=
  ∃ g, s.chairID2GameData chairID = some g ∧ g.userID = g'.userID ∧ g'.bulletInfoHash ⊆ g.bulletInfoHash

theorem Was.refl (hg : s.chairID2GameData chairID = some g) : Was s chairID g := ⟨g, hg, rfl, List.Subset.refl _⟩

/-- A change of game data that brings no bullet. -/
theorem was_modifyGameData {f : GameData → GameData} {other : Nat}
    (hg : (s.modifyGameData chairID f).chairID2GameData other = some g') (hf : ∀ g, (f g).userID = g.userID)
    (hbullets : ∀ g, (f g).bulletInfoHash ⊆ g.bulletInfoHash) : Was s other g' := by
  obtain ⟨g, hold, ⟨-, rfl⟩ | ⟨-, rfl⟩⟩ := of_gameData_modifyGameData hg
  · exact ⟨g, hold, (hf g).symm, hbullets g⟩
  · exact .refl hold

/-- Game data that are put in place of others. -/
theorem was_setGameData {data : Option GameData} {other : Nat}
    (hg : (s.setGameData chairID data).chairID2GameData other = some g') (hdata : ∀ g', data = some g' → Was s chairID g') :
    Was s other g' := by
  rcases of_gameData_setGameData hg with ⟨rfl, hd⟩ | ⟨-, hd⟩
  · exact hdata g' hd
  · exact .refl hd

/-- A shot changes the data of its own chair only, and the bullets that were kept before it are kept. -/
theorem was_userFire {other : Nat} (hg : s.chairID2GameData chairID = some g)
    (hg' : (userFire cfg s chairID g m specialSceneLeftTime).chairID2GameData other = some g') : Was s other g' := by
  by_cases ha : accepted cfg s g m specialSceneLeftTime
  · rw [eq_userFire_of_accepted chairID ha] at hg'
    obtain ⟨g₁, hfire, huser, hbullets, -⟩ := gameData_fire s chairID (countBullet g) m
    rw [hfire] at hg'
    refine was_setGameData hg' ?_
    rintro g₂ ⟨⟩
    exact ⟨g, hg, huser.symm, fun b hb => hbullets ▸ hb⟩
  · obtain ⟨data, heq, hdata⟩ := eq_userFire_of_not_accepted hg ha
    rw [heq] at hg'
    refine was_setGameData hg' ?_
    rcases hdata with rfl | rfl | rfl
    · intro g₂ h
      cases h
    · rintro g₂ ⟨⟩
      exact .refl hg
    · rintro g₂ ⟨⟩
      exact ⟨g, hg, rfl, List.Subset.refl _⟩

/-- What a fish pays. -/
theorem was_addFishScore (score : Int) {other : Nat}
    (hg : (s.modifyGameData chairID fun g => { g with fishScore := g.fishScore + score }).chairID2GameData other = some g') :
    Was s other g' :=
  was_modifyGameData hg (fun _ => rfl) fun _ => List.Subset.refl _

/-- The data of every chair but that of the catcher is as before, and that one has the bullets it had. -/
theorem was_caught {userID : Nat} {bulletInfo : BulletInfo} {branch : Branch} {f : FishTrace} {score : Int} {other : Nat}
    (hg : (caught s chairID userID bulletInfo branch f score).chairID2GameData other = some g') : Was s other g' := by
  cases branch with
  | worldBoss => exact was_addFishScore s.rewardPool hg
  | fengHuang => exact was_addFishScore (s.fengHuangPoolGold + score) hg
  | ordinary =>
    unfold caught at hg
    dsimp only at hg
    split at hg
    · exact .refl hg
    · exact was_addFishScore score hg

/-- `pbCatchSweepFish` leaves everything as it is, or cashes a bomb that was there for the chair. -/
theorem eq_catchSweepFish {sweepID : Int} {fishIDList : List Int} {draws : FishTrace → Nat} {fishMultipleMax : Nat}
    (h : catchSweepFish s chairID g sweepID fishIDList draws fishMultipleMax = some s') :
    s' = s ∨ ∃ bomb ∈ s.sweepFishHash, bomb.chairID = chairID ∧
      s' = cash s chairID g bomb (sweepLoop draws fishIDList ⟨s.fish, 0, s.awards⟩) fishMultipleMax := by
  unfold catchSweepFish at h
  split at h
  · exact Or.inl (Option.some.inj h).symm
  · rename_i bomb hbomb
    split at h
    · exact Or.inl (Option.some.inj h).symm
    · rename_i hchair
      split at h
      · cases h
      · exact Or.inr ⟨bomb, List.mem_of_find?_eq_some hbomb, not_not.1 hchair, (Option.some.inj h).symm⟩

/-! ## Steps -/

/-- The user has just sat down. -/
def SatDown (s : State) (i : Label) (chairID : Nat) (g' : GameData) : Prop :=
  s.work = none ∧ g'.bulletInfoHash = [] ∧ ∃ isAndroid score, i = .sitDown chairID g'.userID isAndroid score

/-- The bullet of a shot that is fired. -/
def newBullet (s : State) (g : GameData) (m : UserFire) : BulletInfo :=
  ⟨g.bulletID + 1, m.bulletKind, m.bulletMultiple, s.bWorldBossScene, s.fires.length⟩

/-- What a step does to the bullets: a shot is fired, its bullet is stored, a net catch is completed, or none of these. -/
inductive ShotStep (cfg : CannonMultiple) (s : State) (i : Label) (s' : State) : Prop where
  | fired (c : Nat) (m : UserFire) (left : Int) (g : GameData) (hlabel : i = .userFire c m left) (hfree : s.work = none)
      (hg : s.chairID2GameData c = some g) (ha : accepted cfg s g m left)
        (hwork : s'.work = some (.fire c (newBullet s g m)))
      (hfires : s'.fires = (s.fires.length, g.userID) :: s.fires) (hnets : s'.nets = s.nets)
      (hchairs : ∀ d g', s'.chairID2GameData d = some g' → Was s d g')
  | stored (c : Nat) (b : BulletInfo) (hheld : s.work = some (.fire c b)) (hwork : s'.work = none)
    (hfires : s'.fires = s.fires)
      (hnets : s'.nets = s.nets)
      (hchairs : ∀ d g', s'.chairID2GameData d = some g' →
        Was s d g' ∨ (d = c ∧ ∃ g, s.chairID2GameData c = some g ∧ g' = storeBullet b g))
  | completed (c userID : Nat) (b : BulletInfo) (hheld : s.work = some (.net c userID b [] none)) (hwork : s'.work = none)
      (hfires : s'.fires = s.fires) (hnets : s'.nets = (b.shot, userID) :: s.nets)
      (hchairs : ∀ d g', s'.chairID2GameData d = some g' → Was s d g')
      (hgone : ∀ g', s'.chairID2GameData c = some g' → ∀ b' ∈ g'.bulletInfoHash, b'.id ≠ b.id)
  | other (hfire : ∀ c b, s'.work = some (.fire c b) → s.work = some (.fire c b))
      (hnet : ∀ c userID b rest fish, s'.work = some (.net c userID b rest fish) →
        (∃ rest fish, s.work = some (.net c userID b rest fish)) ∨
          ∃ g, s.chairID2GameData c = some g ∧ g.userID = userID ∧ b ∈ g.bulletInfoHash)
      (hfires : s'.fires = s.fires) (hnets : s'.nets = s.nets)
      (hchairs : ∀ d g', s'.chairID2GameData d = some g' → Was s d g' ∨ SatDown s i d g')

/-- A step that leaves the handler in the critical section, the shots and the net catches alone. -/
theorem shotStep_of_frame {i : Label} (hwork : s'.work = s.work) (hfires : s'.fires = s.fires) (hnets : s'.nets = s.nets)
    (hchairs : ∀ d g', s'.chairID2GameData d = some g' → Was s d g' ∨ SatDown s i d g') : ShotStep cfg s i s' := by
  refine .other (fun c b hw => hwork ▸ hw) (fun c userID b rest fish hw => Or.inl ⟨rest, fish, hwork ▸ hw⟩)
    hfires hnets hchairs

/-- A shot: it is accepted, counted only, or refused. -/
theorem shotStep_userFire {i : Label} (hi : i = .userFire chairID m specialSceneLeftTime) (hfree : s.work = none)
    (hg : s.chairID2GameData chairID = some g) : ShotStep cfg s i (userFire cfg s chairID g m specialSceneLeftTime) := by
  by_cases ha : accepted cfg s g m specialSceneLeftTime
  · have heq := eq_userFire_of_accepted chairID ha
    refine .fired chairID m specialSceneLeftTime g hi hfree hg ha ?_ ?_ ?_ fun d g' hg' => was_userFire hg hg'
    · rw [heq, fire]
      dsimp only
      split <;> rfl
    · rw [heq, fire]
      dsimp only
      split <;> rfl
    · rw [heq]
      rfl
  · obtain ⟨data, heq, -⟩ := eq_userFire_of_not_accepted hg ha
    refine shotStep_of_frame ?_ ?_ ?_ fun d g' hg' => Or.inl (was_userFire hg hg')
    · rw [heq]
      rfl
    · rw [heq]
      rfl
    · rw [heq]
      rfl

/-- A net: the bullet is taken out of the hash, or there is none and nothing happens. -/
theorem shotStep_netCatch {i : Label} (hg : s.chairID2GameData chairID = some g) {bulletID : Int}
    {catchIDList : List Int} : ShotStep cfg s i (netCatch s chairID g bulletID catchIDList) := by
  unfold netCatch
  split
  · exact shotStep_of_frame rfl rfl rfl fun d g' hg' => Or.inl (.refl hg')
  · rename_i bulletInfo hfind
    refine .other ?_ ?_ rfl rfl fun d g' hg' => Or.inl (.refl hg')
    · intro c b hw
      cases hw
    · rintro c userID b rest fish ⟨⟩
      exact Or.inr ⟨g, hg, rfl, List.mem_of_find?_eq_some hfind⟩

/-- A catch counts neither a shot nor a net. -/
theorem frame_caught {userID : Nat} {bulletInfo : BulletInfo} {branch : Branch} {f : FishTrace} {score : Int} :
    (caught s chairID userID bulletInfo branch f score).fires = s.fires ∧
      (caught s chairID userID bulletInfo branch f score).nets = s.nets := by
  cases branch with
  | worldBoss | fengHuang => exact ⟨rfl, rfl⟩
  | ordinary =>
    unfold caught
    dsimp only
    split <;> exact ⟨rfl, rfl⟩

/-- The handler in the critical section goes on. -/
theorem shotStep_proceed {w : Work} {score : Option Int} {i : Label} (hheld : s.work = some w) :
    ShotStep cfg s i (proceed s score w) := by
  cases w with
  | fire c b =>
    refine .stored c b hheld rfl rfl rfl fun d g' hg' => ?_
    obtain ⟨g, hold, ⟨rfl, rfl⟩ | ⟨-, rfl⟩⟩ := of_gameData_modifyGameData hg'
    · exact Or.inr ⟨rfl, g, hold, rfl⟩
    · exact Or.inl (.refl hold)
  | net c userID b rest fish =>
    cases fish with
    | some fish =>
      refine .other (fun c b hw => by cases hw) ?_ ?_ ?_ ?_
      · rintro c userID b rest fish' ⟨⟩
        exact Or.inl ⟨_, _, hheld⟩
      · cases score with
        | some score => exact frame_caught.1
        | none => rfl
      · cases score with
        | some score => exact frame_caught.2
        | none => rfl
      · intro d g' hg'
        cases score with
        | some score => exact Or.inl (was_caught hg')
        | none => exact Or.inl (.refl hg')
    | none =>
      cases rest with
      | nil =>
        refine .completed c userID b hheld rfl rfl rfl ?_ ?_
        · exact fun d g' hg' => was_modifyGameData hg' (fun _ => rfl) fun _ => List.filter_sublist.subset
        · intro g' hg' b' hb'
          obtain ⟨g, -, ⟨-, rfl⟩ | ⟨hne, -⟩⟩ := of_gameData_modifyGameData hg'
          · simpa using (List.mem_filter.1 hb').2
          · exact absurd rfl hne
      | cons fishID rest =>
        refine .other (fun c b hw => by cases hw) ?_ rfl rfl fun d g' hg' => Or.inl (.refl hg')
        rintro c userID b rest fish' ⟨⟩
        exact Or.inl ⟨_, _, hheld⟩

/-- Every step. -/
theorem shotStep_of_step {i : Label} (h : step cfg s i = some s') : ShotStep cfg s i s' := by
  cases i with
  | userFire c m left =>
    obtain ⟨hfree, h⟩ := Option.ite_none_right_eq_some.1 h
    obtain ⟨g, hc, rfl⟩ := Option.map_eq_some_iff.1 h
    exact shotStep_userFire rfl hfree hc
  | bigNetCatchFish c bulletID catchFishIDList =>
    obtain ⟨-, h⟩ := Option.ite_none_right_eq_some.1 h
    obtain ⟨g, hc, rfl⟩ := Option.map_eq_some_iff.1 h
    exact shotStep_netCatch hc
  | bigNetCatchFishAndroid c bulletID fishID =>
    obtain ⟨-, h⟩ := Option.ite_none_right_eq_some.1 h
    obtain ⟨g, hc, h⟩ := Option.bind_eq_some_iff.1 h
    obtain ⟨-, h⟩ := Option.ite_none_right_eq_some.1 h
    obtain rfl := Option.some.inj h
    exact shotStep_netCatch hc
  | catchSweepFish c sweepID fishIDList draws fishMultipleMax =>
    obtain ⟨-, h⟩ := Option.ite_none_right_eq_some.1 h
    obtain ⟨g, -, h⟩ := Option.bind_eq_some_iff.1 h
    obtain rfl | ⟨bomb, -, -, rfl⟩ := eq_catchSweepFish h
    · exact shotStep_of_frame rfl rfl rfl fun d g' hg' => Or.inl (.refl hg')
    · exact shotStep_of_frame rfl rfl rfl fun d g' hg' => Or.inl (was_addFishScore _ hg')
  | proceed score =>
    obtain ⟨w, hw, rfl⟩ := Option.map_eq_some_iff.1 h
    exact shotStep_proceed hw
  | sitDown c userID isAndroid score =>
    obtain ⟨hfree, h⟩ := Option.ite_none_right_eq_some.1 h
    obtain rfl := Option.some.inj h
    refine shotStep_of_frame rfl rfl rfl fun d g' hg' => ?_
    rcases of_gameData_setGameData hg' with ⟨rfl, hd⟩ | ⟨-, hd⟩
    · obtain rfl := Option.some.inj hd
      exact Or.inr ⟨hfree.1, rfl, isAndroid, score, rfl⟩
    · exact Or.inl (.refl hd)
  | standUp c =>
    obtain ⟨-, h⟩ := Option.ite_none_right_eq_some.1 h
    obtain rfl := Option.some.inj h
    refine shotStep_of_frame rfl rfl rfl fun d g' hg' => Or.inl (was_setGameData hg' ?_)
    intro g₂ h
    cases h
  | gameOption c =>
    obtain ⟨-, h⟩ := Option.ite_none_right_eq_some.1 h
    obtain rfl := Option.some.inj h
    exact shotStep_of_frame rfl rfl rfl
      fun d g' hg' => Or.inl (was_modifyGameData hg' (fun _ => rfl) fun _ => List.Subset.refl _)
  | scoreLock | saveInvalidGunGold | fishScore =>
    obtain rfl := Option.some.inj h
    exact shotStep_of_frame rfl rfl rfl
      fun d g' hg' => Or.inl (was_modifyGameData hg' (fun _ => rfl) fun _ => List.Subset.refl _)
  | sendWorldBossInvalidGold =>
    obtain rfl := Option.some.inj h
    refine shotStep_of_frame rfl rfl rfl fun d g' hg' => ?_
    obtain ⟨g, hold, rfl⟩ := Option.map_eq_some_iff.1 hg'
    exact Or.inl ⟨g, hold, rfl, List.Subset.refl _⟩
  | gameConclude =>
    obtain ⟨-, h⟩ := Option.ite_none_right_eq_some.1 h
    obtain rfl := Option.some.inj h
    exact shotStep_of_frame rfl rfl rfl fun d g' hg' => Or.inl (.refl hg')
  | createFishTraceItem | clearFishTrace | specialScene | worldBossStart | worldBossEnd | fengHuang =>
    obtain rfl := Option.some.inj h
    exact shotStep_of_frame rfl rfl rfl fun d g' hg' => Or.inl (.refl hg')

/-- Every bullet that is stored after a step was stored before, or the handler in the critical section
was about to store it. -/
theorem ShotStep.bullet {i : Label} (h : ShotStep cfg s i s') (hg : s'.chairID2GameData chairID = some g')
    (hb : b ∈ g'.bulletInfoHash) :
    ∃ g, s.chairID2GameData chairID = some g ∧ g.userID = g'.userID ∧
      (b ∈ g.bulletInfoHash ∨ s.work = some (.fire chairID b)) := by
  have was : Was s chairID g' → ∃ g, s.chairID2GameData chairID = some g ∧ g.userID = g'.userID ∧
      (b ∈ g.bulletInfoHash ∨ s.work = some (.fire chairID b)) := by
    rintro ⟨g, hold, huser, hsub⟩
    exact ⟨g, hold, huser, Or.inl (hsub hb)⟩
  cases h with
  | fired c m left g hlabel hfree hold ha hwork hfires hnets hchairs => exact was (hchairs _ _ hg)
  | stored c b' hheld hwork hfires hnets hchairs =>
    rcases hchairs _ _ hg with hwas | ⟨rfl, g, hold, rfl⟩
    · exact was hwas
    · refine ⟨g, hold, rfl, ?_⟩
      rcases List.mem_cons.1 hb with rfl | hb
      · exact Or.inr hheld
      · exact Or.inl (List.mem_of_mem_filter hb)
  | completed c userID b' hheld hwork hfires hnets hchairs hgone => exact was (hchairs _ _ hg)
  | other hfire hnet hfires hnets hchairs =>
    rcases hchairs _ _ hg with hwas | ⟨-, hnone, -⟩
    · exact was hwas
    · rw [hnone] at hb
      cases hb

/-- Every player in a chair after a step was there before, or has just sat down. -/
theorem ShotStep.seated {i : Label} (h : ShotStep cfg s i s') (hg : s'.chairID2GameData chairID = some g') :
    (∃ g, s.chairID2GameData chairID = some g ∧ g.userID = g'.userID) ∨ SatDown s i chairID g' := by
  have was : Was s chairID g' → ∃ g, s.chairID2GameData chairID = some g ∧ g.userID = g'.userID := by
    rintro ⟨g, hold, huser, -⟩
    exact ⟨g, hold, huser⟩
  cases h with
  | fired c m left g hlabel hfree hold ha hwork hfires hnets hchairs => exact Or.inl (was (hchairs _ _ hg))
  | stored c b' hheld hwork hfires hnets hchairs =>
    rcases hchairs _ _ hg with hwas | ⟨rfl, g, hold, rfl⟩
    · exact Or.inl (was hwas)
    · exact Or.inl ⟨g, hold, rfl⟩
  | completed c userID b' hheld hwork hfires hnets hchairs hgone => exact Or.inl (was (hchairs _ _ hg))
  | other hfire hnet hfires hnets hchairs => exact (hchairs _ _ hg).imp_left was

/-- A bullet that is about to be stored after a step was so before, or the step was an accepted shot. -/
theorem ShotStep.firing {i : Label} (h : ShotStep cfg s i s') (hw : s'.work = some (.fire chairID b)) :
    s.work = some (.fire chairID b) ∨ ∃ m left g, i = .userFire chairID m left ∧ s.work = none ∧
      s.chairID2GameData chairID = some g ∧
      accepted cfg s g m left ∧ b = newBullet s g m := by
  cases h with
  | fired c m left g hlabel hfree hold ha hwork hfires hnets hchairs =>
    rw [hwork] at hw
    obtain ⟨rfl, rfl⟩ := Work.fire.inj (Option.some.inj hw)
    exact Or.inr ⟨m, left, g, hlabel, hfree, hold, ha, rfl⟩
  | stored c b' hheld hwork hfires hnets hchairs =>
    rw [hwork] at hw
    cases hw
  | completed c userID b' hheld hwork hfires hnets hchairs hgone =>
    rw [hwork] at hw
    cases hw
  | other hfire hnet hfires hnets hchairs => exact Or.inl (hfire _ _ hw)

end Lemmas

end SasyServer.Catch
