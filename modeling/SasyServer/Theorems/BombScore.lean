import Mathlib.Algebra.GroupWithZero.Nat
import Mathlib.Algebra.Ring.Int.Defs
import SasyServer.Lemmas.FishAwards
import SasyServer.Table.Bombs
import SasyServer.Theorems.Catches

/-!
# Theorem: a bomb pays for the fish it sweeps, once

The player names the fish, with numbers that may be there twice, that nobody has, or that are those of other
bombs. What is paid depends only on the fish that are in the water: a fish that has been counted is not there any
more when its number comes again.
-/

namespace SasyServer.Catch

open Table (CannonMultiple)

/-! ## The fish in the water -/

/-- Every number once, and only kinds that are built. -/
structure Stocked (s : Fish) : Prop where
  ids : (s.fishTraceHash.map fun f => f.fishID).Nodup
  built : ∀ f ∈ s.fishTraceHash, isBuilt f.fishKind = true

theorem Stocked.of_sublist {s s' : Fish} (h : Stocked s) (hsub : s'.fishTraceHash.Sublist s.fishTraceHash) : Stocked s' :=
  ⟨h.ids.sublist (hsub.map _), fun f hf => h.built f (hsub.subset hf)⟩

theorem Stocked.remove {s : Fish} (h : Stocked s) (fishID : Int) : Stocked (s.remove fishID) :=
  h.of_sublist List.filter_sublist

theorem Stocked.clearFishTrace {s : Fish} (h : Stocked s) (c : Clear) : Stocked (s.clearFishTrace c) := by
  cases c with
  | force => exact h.of_sublist (List.nil_sublist _)
  | forceWorldBoss => exact h.of_sublist List.filter_sublist
  | old nowTick => exact h.of_sublist List.filter_sublist

/-- A fish that is built gets a new number. -/
theorem Stocked.createFishTraceItem {s : Fish} (h : Stocked s) {fishKind : Nat} (hkind : isBuilt fishKind = true)
    (buildTick worldBossStartTime time : Int) :
    Stocked (s.createFishTraceItem fishKind buildTick worldBossStartTime time) := by
  constructor
  · refine List.nodup_cons.2 ⟨fun hmem => ?_, h.ids.sublist (List.filter_sublist.map _)⟩
    obtain ⟨f, hf, heq⟩ := List.mem_map.1 hmem
    exact absurd heq (by simpa using (List.mem_filter.1 hf).2)
  · intro f hf
    rcases Fish.mem_createFishTraceItem hf with ⟨-, -, rfl⟩ | ⟨hold, -⟩
    · exact hkind
    · exact h.built f hold

/-- The fish of a number, and the others. -/
theorem Stocked.perm_remove {s : Fish} (h : Stocked s) {f : FishTrace} (hf : f ∈ s.fishTraceHash) :
    s.fishTraceHash.Perm (f :: (s.remove f.fishID).fishTraceHash) := by
  have hnodup : s.fishTraceHash.Nodup := h.ids.of_map
  have herase : s.fishTraceHash.erase f = (s.remove f.fishID).fishTraceHash := by
    rw [hnodup.erase_eq_filter f]
    refine List.filter_congr fun f' hf' => ?_
    by_cases heq : f' = f
    · simp [heq]
    · have hne : f'.fishID ≠ f.fishID := fun hid => heq (List.inj_on_of_nodup_map h.ids hf' hf hid)
      simp [heq, hne]
  exact herase ▸ List.perm_cons_erase hf

/-! ## The loop -/

/-- The fish in the water that the player has named and that are no bombs. -/
def prey (s : Fish) (fishIDList : List Int) : List FishTrace :=
  s.fishTraceHash.filter fun f => f.fishID ∈ fishIDList ∧ ¬isBomb f.fishKind

/-- What is drawn for the fish. -/
def drawn (config : FishConfig) (random : FishTrace → Nat → Nat → Nat) (f : FishTrace) : Nat :=
  (getfishMultiple config (random f) f.fishKind).getD 0

/-- Every kind that is built has a multiple. -/
theorem getfishMultiple_of_isBuilt (config : FishConfig) (random : Nat → Nat → Nat) {fishKind : Nat}
    (h : isBuilt fishKind = true) :
    ∃ n, getfishMultiple config random fishKind = some n := by
  obtain ⟨multiple, hmultiple⟩ := Option.isSome_iff_exists.1 (config.complete fishKind h)
  unfold getfishMultiple
  split
  · exact ⟨0, rfl⟩
  · cases multiple with
    | number n => exact ⟨n, by rw [hmultiple]⟩
    | range low high => exact ⟨random low high, by rw [hmultiple]⟩

theorem getfishMultiple_eq_drawn (config : FishConfig) (random : FishTrace → Nat → Nat → Nat) {f : FishTrace}
    (h : isBuilt f.fishKind = true) :
    getfishMultiple config (random f) f.fishKind = some (drawn config random f) := by
  obtain ⟨n, hn⟩ := getfishMultiple_of_isBuilt config (random f) h
  rw [drawn, hn, Option.getD_some]

/-- With fish of known kinds there is no error, and the loop is the one of `Catch`. -/
theorem sweepFishes_eq (config : FishConfig) (random : FishTrace → Nat → Nat → Nat) (fishIDList : List Int) : ∀ {w : Sweep},
    Stocked w.fish →
    sweepFishes config random fishIDList w = some (sweepLoop (drawn config random) fishIDList w) := by
  induction fishIDList with
  | nil => exact fun _ => rfl
  | cons fishID rest ih =>
    intro w h
    rw [sweepFishes, sweepLoop]
    cases hfind : w.fish.find fishID with
    | none => exact ih h
    | some f =>
      simp only
      by_cases hbomb : isBomb f.fishKind = true
      · rw [if_pos hbomb, if_pos hbomb, if_pos hbomb]
        exact ih (h.remove fishID)
      · rw [if_neg hbomb, if_neg hbomb, if_neg hbomb,
          getfishMultiple_eq_drawn config random (h.built f (Fish.of_find hfind).1)]
        exact ih (h.remove fishID)

/-- The fish that remain. -/
theorem fish_sweepLoop (draws : FishTrace → Nat) (fishIDList : List Int) : ∀ w : Sweep,
    (sweepLoop draws fishIDList w).fish =
      { w.fish with fishTraceHash := w.fish.fishTraceHash.filter fun f => f.fishID ∉ fishIDList } := by
  induction fishIDList with
  | nil => intro w; simp [sweepLoop]
  | cons fishID rest ih =>
    intro w
    rw [sweepLoop]
    cases hfind : w.fish.find fishID with
    | none =>
      have hnone : ∀ f ∈ w.fish.fishTraceHash, f.fishID ≠ fishID := by simpa [Fish.find] using hfind
      simp only [ih]
      congr 1
      exact List.filter_congr fun f hf => by simp [hnone f hf]
    | some f =>
      simp only [ih, Fish.remove, List.filter_filter]
      congr 1
      refine List.filter_congr fun f hf => ?_
      by_cases hid : f.fishID = fishID
      · simp [hid]
      · simp [hid]

/-- The sum of the multiples: each fish counts once. -/
theorem fishMultiple_sweepLoop (draws : FishTrace → Nat) (fishIDList : List Int) : ∀ w : Sweep, Stocked w.fish →
    (sweepLoop draws fishIDList w).fishMultiple = w.fishMultiple + ((prey w.fish fishIDList).map draws).sum := by
  induction fishIDList with
  | nil => intro w _; simp [sweepLoop, prey]
  | cons fishID rest ih =>
    intro w h
    rw [sweepLoop]
    cases hfind : w.fish.find fishID with
    | none =>
      have hnone : ∀ f ∈ w.fish.fishTraceHash, f.fishID ≠ fishID := by simpa [Fish.find] using hfind
      have hprey : prey w.fish (fishID :: rest) = prey w.fish rest := List.filter_congr fun f hf => by simp [hnone f hf]
      rw [hprey]
      exact ih w h
    | some f =>
      obtain ⟨hf, rfl⟩ := Fish.of_find hfind
      -- the fish is counted now, and not among those that are left
      have hrest : prey (w.fish.remove f.fishID) (f.fishID :: rest) = prey (w.fish.remove f.fishID) rest :=
        List.filter_congr fun f' hf' => by simp [(Fish.mem_remove.1 hf').2]
      have hperm :=
        ((h.perm_remove hf).filter fun f' => decide (f'.fishID ∈ f.fishID :: rest ∧ ¬isBomb f'.fishKind)).map draws
      have hsum : ((prey w.fish (f.fishID :: rest)).map draws).sum =
          (if isBomb f.fishKind then 0 else draws f) + ((prey (w.fish.remove f.fishID) rest).map draws).sum := by
        rw [prey, hperm.sum_nat, ← hrest, prey, List.filter_cons]
        by_cases hbomb : isBomb f.fishKind = true
        · simp [hbomb]
        · simp [hbomb]
      simp only
      rw [ih _ (h.remove f.fishID), hsum]
      by_cases hbomb : isBomb f.fishKind = true
      · simp only [hbomb, if_true, Nat.zero_add]
      · simp only [hbomb, if_false, Nat.add_assoc, Bool.false_eq_true]

/-! ## The runs -/

/-- The fish of the table are known, and the bombs are bombs. -/
structure Known (s : State) : Prop where
  stocked : Stocked s.fish
  bombs : ∀ x ∈ s.sweepFishHash, isBomb x.fishKind = true

theorem known_init : Known .init := ⟨⟨List.nodup_nil, fun _ hf => by cases hf⟩, fun _ hx => by cases hx⟩

section Step

variable {cfg : CannonMultiple} {s s' : State}

theorem Known.of_fish (h : Known s) (hfish : Stocked s'.fish)
    (hbombs : ∀ x ∈ s'.sweepFishHash, x ∈ s.sweepFishHash) : Known s' :=
  ⟨hfish, fun x hx => h.bombs x (hbombs x hx)⟩

/-- A step that leaves the fish and the bombs alone. -/
theorem Known.of_frame (h : Known s) (hfish : s'.fish = s.fish) (hbombs : s'.sweepFishHash = s.sweepFishHash) : Known s' :=
  h.of_fish (hfish ▸ h.stocked) fun _ hx => hbombs ▸ hx

/-- A fish that is caught: only a bomb becomes one of the caught bombs. -/
theorem Known.caught (h : Known s) (chairID userID : Nat) (b : BulletInfo) (branch : Branch) (f : FishTrace) (score : Int) :
    Known (caught s chairID userID b branch f score) := by
  cases branch with
  | worldBoss => exact h.of_fish (h.stocked.remove f.fishID) fun x hx => hx
  | fengHuang => exact h.of_fish ((h.stocked.remove f.fishID).clearFishTrace .force) fun x hx => hx
  | ordinary =>
    unfold Catch.caught
    dsimp only
    split
    · rename_i hbomb
      refine ⟨h.stocked.remove f.fishID, fun x hx => ?_⟩
      rcases List.mem_cons.1 hx with rfl | hx
      · exact hbomb
      · exact h.bombs x (List.mem_of_mem_filter hx)
    · exact h.of_fish (h.stocked.remove f.fishID) fun x hx => hx

/-- Behind a wait fish are taken away and bombs are kept. -/
theorem Known.proceed (h : Known s) (score : Option Int) (w : Work) : Known (proceed s score w) := by
  cases w with
  | fire c b => exact h.of_frame rfl rfl
  | net c userID b rest fish =>
    cases fish with
    | some fish =>
      cases score with
      | some score => exact (h.caught c userID b fish.1 fish.2 score).of_frame rfl rfl
      | none => exact h.of_frame rfl rfl
    | none => cases rest <;> exact h.of_frame rfl rfl

/-- One label. -/
theorem Known.step (h : Known s) {i : Label} (hkind : buildsKnown i = true) (hs : step cfg s i = some s') : Known s' := by
  cases i with
  | userFire c m left =>
    obtain ⟨-, hs⟩ := Option.ite_none_right_eq_some.1 hs
    obtain ⟨g, hg, rfl⟩ := Option.map_eq_some_iff.1 hs
    by_cases ha : accepted cfg s g m left
    · exact h.of_frame (by rw [eq_userFire_of_accepted c ha]; rfl) (by rw [eq_userFire_of_accepted c ha]; rfl)
    · obtain ⟨data, heq, -⟩ := eq_userFire_of_not_accepted hg ha
      exact h.of_frame (by rw [heq]; rfl) (by rw [heq]; rfl)
  | bigNetCatchFish c bulletID catchFishIDList =>
    obtain ⟨-, hs⟩ := Option.ite_none_right_eq_some.1 hs
    obtain ⟨g, -, rfl⟩ := Option.map_eq_some_iff.1 hs
    unfold netCatch
    split <;> exact h.of_frame rfl rfl
  | bigNetCatchFishAndroid c bulletID fishID =>
    obtain ⟨-, hs⟩ := Option.ite_none_right_eq_some.1 hs
    obtain ⟨g, -, hs⟩ := Option.bind_eq_some_iff.1 hs
    obtain ⟨-, hs⟩ := Option.ite_none_right_eq_some.1 hs
    obtain rfl := Option.some.inj hs
    unfold netCatch
    split <;> exact h.of_frame rfl rfl
  | catchSweepFish c sweepID fishIDList draws fishMultipleMax =>
    obtain ⟨-, hs⟩ := Option.ite_none_right_eq_some.1 hs
    obtain ⟨g, -, hs⟩ := Option.bind_eq_some_iff.1 hs
    rcases eq_catchSweepFish hs with rfl | ⟨bomb, -, -, rfl⟩
    · exact h
    · refine h.of_fish (h.stocked.of_sublist ?_) fun x hx => List.mem_of_mem_filter hx
      change (sweepLoop draws fishIDList ⟨s.fish, 0, s.awards⟩).fish.fishTraceHash.Sublist s.fish.fishTraceHash
      rw [fish_sweepLoop]
      exact List.filter_sublist
  | proceed score =>
    obtain ⟨w, -, rfl⟩ := Option.map_eq_some_iff.1 hs
    exact h.proceed score w
  | sitDown | standUp | gameOption =>
    obtain ⟨-, hs⟩ := Option.ite_none_right_eq_some.1 hs
    obtain rfl := Option.some.inj hs
    exact h.of_frame rfl rfl
  | createFishTraceItem fishKind buildTick worldBossStartTime time =>
    obtain rfl := Option.some.inj hs
    exact h.of_fish (h.stocked.createFishTraceItem hkind buildTick worldBossStartTime time) fun x hx => hx
  | clearFishTrace c =>
    obtain rfl := Option.some.inj hs
    exact h.of_fish (h.stocked.clearFishTrace c) fun x hx => hx
  | worldBossStart | worldBossEnd =>
    obtain rfl := Option.some.inj hs
    exact h.of_fish (h.stocked.clearFishTrace .forceWorldBoss) fun x hx => hx
  | gameConclude =>
    obtain ⟨-, hs⟩ := Option.ite_none_right_eq_some.1 hs
    obtain rfl := Option.some.inj hs
    exact h.of_fish (h.stocked.clearFishTrace .force) fun x hx => by cases hx
  | scoreLock | specialScene | sendWorldBossInvalidGold | saveInvalidGunGold | fengHuang | fishScore =>
    obtain rfl := Option.some.inj hs
    exact h.of_frame rfl rfl

end Step

theorem known_of_run {cfg : CannonMultiple} {labels : List Label} {s : State}
    (hbuilt : Steps.Meets (step cfg) (fun _ i => buildsKnown i = true) .init labels)
    (hrun : Steps.exec (step cfg) .init labels = some s) :
    Known s :=
  Steps.exec_invariant (fun _ _ _ h hc hs => h.step hc hs) labels .init s known_init hbuilt hrun

/-! ## The bomb -/

/-- What is to hold when the player `g` cashes `bomb` with the fish of `fishIDList`. `multiple` is what was drawn for a fish,
and `fishMultipleMax` for the bomb. -/
structure Settled (config : FishConfig) (s : State) (chairID : Nat) (g : GameData) (bomb : SweepFish) (fishIDList : List Int)
    (random : FishTrace → Nat → Nat → Nat) (randomMax : Nat → Nat → Nat) (s' : State) (entries : List Entry)
    (multiple : FishTrace → Nat) (fishMultipleMax : Nat) (award : Int) :
    Prop where
  drawn : ∀ f ∈ prey s.fish fishIDList, getfishMultiple config (random f) f.fishKind = some (multiple f)
  drawnMax : getfishMultiple config randomMax bomb.fishKind = some fishMultipleMax
  worth : award = (min ((prey s.fish fishIDList).map multiple).sum fishMultipleMax : Nat) * bomb.bulletMultiple
  split : (entries.map Entry.share).sum + (entries.map Entry.bag).sum = award
  fishScore : s'.chairID2GameData chairID = some { g with fishScore := g.fishScore + (entries.map Entry.bag).sum }
  fish : s'.fish.fishTraceHash = s.fish.fishTraceHash.filter fun f => f.fishID ∉ fishIDList
  bombs : s'.sweepFishHash = s.sweepFishHash.filter fun b => b.fishID ≠ bomb.fishID

/-- The two parts of a score. -/
theorem sum_scoreEntries (g : GameData) (bomb : SweepFish) (fishMultiple : Nat) :
    ((scoreEntries g bomb fishMultiple).map Entry.bag).sum = sweepScore g.isAndroid bomb fishMultiple ∧
      ((scoreEntries g bomb fishMultiple).map Entry.share).sum + sweepScore g.isAndroid bomb fishMultiple = fishMultiple *
        bomb.bulletMultiple := by
  unfold scoreEntries sweepScore
  by_cases hshare : ¬g.isAndroid = true ∧ isRewardGoldFish bomb.fishKind = true
  · simp only [if_pos hshare]
    refine ⟨by simp [Entry.bag], ?_⟩
    rw [List.map_append, List.sum_append]
    simp only [List.map_cons, List.map_nil, List.sum_cons, List.sum_nil, Entry.share]
    omega
  · simp only [if_neg hshare]
    exact ⟨by simp [Entry.bag], by simp [Entry.share]⟩

/-- What `pbCatchSweepFish` does is a step of the table. -/
theorem pbCatchSweepFish_eq (config : FishConfig) {s : State} (h : Known s) {chairID : Nat} (g : GameData)
    {m : CatchSweepFish} {bomb : SweepFish}
    (hbomb : s.sweepFishHash.find? (fun b => b.fishID = m.sweepID) = some bomb) (howner : bomb.chairID = chairID)
    (random : FishTrace → Nat → Nat → Nat) (randomMax : Nat → Nat → Nat) :
    ∃ fishMultipleMax, getfishMultiple config randomMax bomb.fishKind = some fishMultipleMax ∧
      pbCatchSweepFish config s chairID g m random randomMax =
        (catchSweepFish s chairID g m.sweepID m.fishIDList (drawn config random) fishMultipleMax).map fun s' =>
          (s', scoreEntries g bomb (min ((prey s.fish m.fishIDList).map (drawn config random)).sum fishMultipleMax)) := by
  have hkind := h.bombs bomb (List.mem_of_find?_eq_some hbomb)
  have hbuilt : isBuilt bomb.fishKind = true := by
    simp only [isBomb, decide_eq_true_eq] at hkind
    simp only [isBuilt, decide_eq_true_eq]
    omega
  obtain ⟨fishMultipleMax, hmax⟩ := getfishMultiple_of_isBuilt config randomMax hbuilt
  refine ⟨fishMultipleMax, hmax, ?_⟩
  have hmultiple := fishMultiple_sweepLoop (drawn config random) m.fishIDList ⟨s.fish, 0, s.awards⟩ h.stocked
  have hne : ¬bomb.chairID ≠ chairID := not_not.2 howner
  have hisBomb : ¬¬isBomb bomb.fishKind = true := not_not.2 hkind
  unfold pbCatchSweepFish catchSweepFish
  simp only [hbomb, hmax, sweepFishes_eq config random m.fishIDList (w := ⟨s.fish, 0, s.awards⟩) h.stocked, if_neg hne,
    if_neg hisBomb, Option.map_some, hmultiple, Nat.zero_add]

/-- In every state a table reaches, for every list of fish the owner of a bomb sends and whatever is drawn: the bomb pays
the sum of the multiples of the fish that are there, at most its own multiple, times the multiple of the bullet that
caught it. The fish and the bomb are gone, the score grows by what the bag is told, and with the share of the reward fish
that is the whole award. -/
theorem bomb_settled (config : FishConfig) (cfg : CannonMultiple) (labels : List Label) (s : State)
    (hbuilt : Steps.Meets (step cfg) (fun _ i => buildsKnown i = true) .init labels)
    (hrun : Steps.exec (step cfg) .init labels = some s) (chairID : Nat) (g : GameData)
    (hg : s.chairID2GameData chairID = some g) (m : CatchSweepFish) (bomb : SweepFish)
    (hbomb : s.sweepFishHash.find? (fun b => b.fishID = m.sweepID) = some bomb) (howner : bomb.chairID = chairID)
    (random : FishTrace → Nat → Nat → Nat) (randomMax : Nat → Nat → Nat) :
    ∃ s' entries multiple fishMultipleMax award, pbCatchSweepFish config s chairID g m random randomMax = some
      (s', entries) ∧
      Settled config s chairID g bomb m.fishIDList random randomMax s' entries multiple fishMultipleMax award := by
  have h := known_of_run hbuilt hrun
  obtain ⟨fishMultipleMax, hmax, heq⟩ := pbCatchSweepFish_eq config h g hbomb howner random randomMax
  have hmultiple := fishMultiple_sweepLoop (drawn config random) m.fishIDList ⟨s.fish, 0, s.awards⟩ h.stocked
  obtain ⟨hbag, hsplit⟩ :=
    sum_scoreEntries g bomb (min ((prey s.fish m.fishIDList).map (drawn config random)).sum fishMultipleMax)
  have hcash : catchSweepFish s chairID g m.sweepID m.fishIDList (drawn config random) fishMultipleMax =
      some (cash s chairID g bomb (sweepLoop (drawn config random) m.fishIDList ⟨s.fish, 0, s.awards⟩) fishMultipleMax) := by
    unfold catchSweepFish
    simp only [hbomb, if_neg (not_not.2 howner), if_neg (not_not.2 (h.bombs bomb (List.mem_of_find?_eq_some hbomb)))]
  refine ⟨_, _, drawn config random, fishMultipleMax,
    (min ((prey s.fish m.fishIDList).map (drawn config random)).sum fishMultipleMax : Nat) * bomb.bulletMultiple,
      by rw [heq, hcash]; rfl, ?_⟩
  constructor
  · intro f hf
    exact getfishMultiple_eq_drawn config random (h.stocked.built f (List.mem_of_mem_filter hf))
  · exact hmax
  · rfl
  · rw [hbag]
    exact hsplit
  · rw [hbag]
    simp only [cash, State.pay, State.modifyGameData, State.setGameData, Function.update_self, hg, Option.map_some,
      hmultiple, Nat.zero_add]
  · change (sweepLoop (drawn config random) m.fishIDList ⟨s.fish, 0, s.awards⟩).fish.fishTraceHash = _
    rw [fish_sweepLoop]
  · rfl

/-- The player 7 has caught the bomb 1 and names the fish 3 twice, the bomb itself and a fish that nobody has. -/
theorem bomb_settled_bombRun :
    ∃ s, Steps.exec (step ⟨100, 500⟩) .init bombRun = some s ∧
      ∃ g bomb s' entries multiple fishMultipleMax award,
        pbCatchSweepFish testGame201 s 1 g ⟨1, [3, 3, 1, 8]⟩ (fun _ low _ => low) (fun low _ => low) = some (s', entries) ∧
          Settled testGame201 s 1 g bomb [3, 3, 1, 8] (fun _ low _ => low)
            (fun low _ => low) s' entries multiple fishMultipleMax award :=
  ⟨_, rfl, _, _, bomb_settled testGame201 ⟨100, 500⟩ bombRun _ (by decide +kernel) rfl 1 _ rfl ⟨1, [3, 3, 1, 8]⟩ _ rfl rfl
    (fun _ low _ => low) (fun low _ => low)⟩

end SasyServer.Catch
