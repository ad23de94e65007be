import SasyServer.Lemmas.GoldBalance

/-!
# The gold of the table and the gold of the bag

Two ledgers of one player's gold: `gameData.fishScore` at the table and the gold entry of the bag. They agree whenever all
messages have been handled, provided that every shot names gold exactly once in the list the client sends along: the shot
takes its price from `fishScore` once, and from the bag once for each gold entry of the list.
-/

namespace SasyServer.Table

open SasyServer.Bag (itemIdGold itemIdJewel)
open SasyServer.Catch (FishTrace SweepFish isBomb isRewardGoldFish sweepLoop sweepScore)

/-- The condition on a label: a shot that is fired names gold once, unless it is free, and a bomb was not hit by a bullet of
a negative multiple, which a phoenix scene lets pass. -/
def goldSafe (cfg : CannonMultiple) (s : Seat) : Label → Bool
  | .userFire m => !accepts cfg s m || m.bulletMultiple = 0 || goldEntries m.userGoodsInfo = 1
  | .catchSweepFish sweepID _ _ _ => (sweepFishInfo s sweepID).all fun fish => 0 ≤ fish.bulletMultiple
  | _ => true

/-- A player who has just sat down: nothing is under way, and the bag has an entry for gold, with the count `fishScore`. -/
structure Seated (l : Nat) (s : Seat) : Prop where
  work : s.work = none
  messages : s.messages = []
  holds : Bag.Holds s.userID l itemIdGold s.gameData.fishScore s.bag
  nonneg : 0 ≤ s.gameData.fishScore
  boss : s.gameData.iWorldBossGold = 0

/-- `onActionUserSitDown` seats a player, whose bag has an entry for gold that is not negative. -/
theorem seated_onActionUserSitDown {s : Seat} {l : Nat} {b : Int} (hw : s.work = none) (hm : s.messages = []) (hb : 0 ≤ b)
    (h : Bag.Holds s.userID l itemIdGold b s.bag) : Seated l (onActionUserSitDown s) := by
  have hscore : (onActionUserSitDown s).gameData.fishScore = b := h.getItemCount
  exact ⟨hw, hm, hscore ▸ h, hscore ▸ hb, rfl⟩

/-- Seated players are balanced. -/
theorem Seated.balanced {l : Nat} {s : Seat} (h : Seated l s) : Balanced l (Work.owes s.work) s := by
  refine ⟨⟨_, h.holds, ?_, ?_⟩, h.nonneg, h.boss.ge⟩
  · rw [h.messages]
    exact h.nonneg
  · rw [h.messages, h.work]
    simp [Work.owes]

section Step

variable {cfg : CannonMultiple} {l : Nat} {owed : Int} {s : Seat}

theorem sweepScore_nonneg {fish : SweepFish} (h : 0 ≤ fish.bulletMultiple) (n : Nat) : 0 ≤ sweepScore false fish n := by
  have hs : 0 ≤ (n : Int) * fish.bulletMultiple := mul_nonneg (Int.natCast_nonneg n) h
  unfold sweepScore
  dsimp only
  split
  · omega
  · exact hs

/-- A shot: its price is owed, as often as the list of the client names gold. -/
theorem Balanced.userFire (h : Balanced l (Work.owes s.work) s) {m : UserFire} (hw : s.work = none)
    (hsafe : goldSafe cfg s (.userFire m)) :
    Balanced l (Work.owes (userFire cfg s m).work) (userFire cfg s m) := by
  by_cases ha : accepts cfg s m
  · obtain ⟨hlock, hle, hboss⟩ := accepts_spec ha
    have howes : 0 + -m.bulletMultiple = -(m.bulletMultiple * goldEntries m.userGoodsInfo) := by
      simp only [goldSafe, ha, Bool.not_true, Bool.false_or, Bool.or_eq_true, decide_eq_true_eq] at hsafe
      rcases hsafe with h0 | h1
      · simp [h0]
      · simp [h1]
    -- The bullet is counted, and in the scene of a world boss its price too.
    have hcounted : ∀ s' : Seat, s'.userID = s.userID → s'.messages = s.messages → s'.bag = s.bag →
        s'.gameData.fishScore = s.gameData.fishScore → 0 ≤ s'.gameData.iWorldBossGold →
        Balanced l (-(m.bulletMultiple * goldEntries m.userGoodsInfo)) (s'.addFishScore (-m.bulletMultiple)) := by
      intro s' hu hm hbag hf hb
      rw [hw] at h
      have hs' := (h.frame hu hm hbag hf hb).addFishScore (x := -m.bulletMultiple) (by rw [hf]; omega)
      exact howes ▸ hs'
    have hgold := h.boss
    rw [Table.userFire, if_neg (Bool.eq_false_iff.1 hlock)]
    dsimp only
    rw [if_pos ha]
    split
    · rename_i hscene
      have hpaid := hboss hscene
      have hfired := hcounted
        { s with gameData := { s.gameData with
          bulletID := s.gameData.bulletID + 1, iWorldBossGold := s.gameData.iWorldBossGold + m.bulletMultiple } }
        rfl rfl rfl rfl (by show 0 ≤ _ + _; omega)
      split
      · exact hfired.frame rfl rfl rfl rfl hfired.boss
      · exact hfired.fireLoop
    · have hfired :=
        hcounted { s with gameData := { s.gameData with bulletID := s.gameData.bulletID + 1 } } rfl rfl rfl rfl hgold
      split
      · exact hfired.frame rfl rfl rfl rfl hfired.boss
      · exact hfired.fireLoop
  · simp only [Table.userFire, ha, Bool.false_eq_true, if_false]
    split
    · exact h
    · exact h.frame rfl rfl rfl rfl h.boss

/-- The sweep of a bomb: what it brings is owed until the wait is over. -/
theorem Balanced.catchSweepFish (h : Balanced l (Work.owes s.work) s) (hw : s.work = none) {sweepID : Int}
    {fishIDList : List Int} {draws : FishTrace → Nat} {fishMultipleMax : Nat}
    (hsafe : goldSafe cfg s (.catchSweepFish sweepID fishIDList draws fishMultipleMax)) :
    Balanced l (Work.owes (catchSweepFish s sweepID fishIDList draws fishMultipleMax).work)
      (catchSweepFish s sweepID fishIDList draws fishMultipleMax) := by
  cases hfish : sweepFishInfo s sweepID with
  | none =>
    simp only [Table.catchSweepFish, hfish]
    exact h
  | some fish =>
    simp only [goldSafe, hfish, Option.all_some, decide_eq_true_eq] at hsafe
    simp only [Table.catchSweepFish, hfish]
    by_cases hm : fish.chairID = s.chairID
    · by_cases hb : isBomb fish.fishKind
      · simp only [hm, hb, if_true]
        have hscore :=
          sweepScore_nonneg hsafe (min (sweepLoop draws fishIDList ⟨s.fish, 0, []⟩).fishMultiple fishMultipleMax)
        have hn := h.nonneg
        rw [hw] at h
        have hs := h.addFishScore
          (x := sweepScore false fish (min (sweepLoop draws fishIDList ⟨s.fish, 0, []⟩).fishMultiple fishMultipleMax))
          (by omega)
        rw [Work.owes, zero_add] at hs
        exact hs.frame rfl rfl rfl rfl hs.boss
      · simp only [hm, hb, Bool.false_eq_true, if_true, if_false]
        exact h.frame rfl rfl rfl rfl h.boss
    · simp only [hm, if_false]
      exact h

/-- The handler in the critical section goes on. -/
theorem Balanced.proceed {w : Work} (h : Balanced l (Work.owes (some w)) s) :
    Balanced l (Work.owes (proceed s w).work) (proceed s w) := by
  cases w with
  | fire m rest => exact Balanced.fireLoop h
  | sweep x =>
    have hs := h.send (x := x) false fun total ht hsum => by
      have hn := h.nonneg
      simp only [Work.owes] at hsum
      omega
    rw [Work.owes, sub_self] at hs
    exact hs.frame rfl rfl rfl rfl hs.boss

/-- A refund goes to both ledgers. -/
theorem Balanced.refund (h : Balanced l owed s) (n : Bool) : Balanced l owed (refund s n) := by
  unfold Table.refund
  have hb := h.boss
  have hn := h.nonneg
  split
  · have hs := (h.addFishScore (x := s.gameData.iWorldBossGold) (by omega)).send (x := s.gameData.iWorldBossGold) n
      fun total ht _ => by omega
    rw [add_sub_cancel_right] at hs
    exact hs.frame rfl rfl rfl rfl le_rfl
  · exact h

theorem work_refund (s : Seat) (n : Bool) : (refund s n).work = s.work := by
  unfold Table.refund
  split <;> rfl

/-- A message of the table reaches the bag. -/
theorem Balanced.deliver (h : Balanced l owed s) {m : Message} {rest : List Message}
    (hm : s.messages = m :: rest) (now : Int) :
    Balanced l owed { s with
      messages := rest
      bag := Bag.changeItemCount s.bag ⟨s.userID, itemIdGold, m.goodsCount, .byFish, m.bNeedNotify⟩ false now } := by
  obtain ⟨b, hb, hc, hsum⟩ := h.covered
  rw [hm, List.map_cons] at hc
  rw [hm, List.map_cons, List.sum_cons, ← add_assoc] at hsum
  have hb' := hb.changeItemCount (c := ⟨s.userID, itemIdGold, m.goodsCount, .byFish, m.bNeedNotify⟩) (by decide) now rfl rfl
    Bool.false_ne_true hc.2.nonneg
  exact ⟨⟨b + m.goodsCount, hb', hc.2, hsum⟩, h.nonneg, h.boss⟩

/-- Every label that meets the condition keeps the balance. -/
theorem Balanced.step (h : Balanced l (Work.owes s.work) s) (i : Label) {s' : Seat} (hsafe : goldSafe cfg s i)
    (hs : step cfg s i = some s') : Balanced l (Work.owes s'.work) s' := by
  cases i with
  | userFire m =>
    simp only [Table.step] at hs
    split at hs
    · rename_i hw
      cases hs
      exact h.userFire hw hsafe
    · cases hs
  | catchSweepFish sweepID fishIDList draws fishMultipleMax =>
    simp only [Table.step] at hs
    split at hs
    · rename_i hw
      cases hs
      exact h.catchSweepFish hw hsafe
    · cases hs
  | proceed =>
    simp only [Table.step, Option.map_eq_some_iff] at hs
    obtain ⟨w, hw, rfl⟩ := hs
    rw [hw] at h
    exact h.proceed
  | worldBossEnd =>
    cases hs
    rw [Table.worldBossEnd, work_refund]
    exact Balanced.refund (s := { s with bWorldBossScene := false }) (h.frame rfl rfl rfl rfl h.boss) true
  | saveInvalidGunGold =>
    cases hs
    rw [Table.saveInvalidGunGold, work_refund]
    exact h.refund false
  | deliver now =>
    simp only [Table.step] at hs
    split at hs
    · cases hs
    · rename_i m rest hm
      cases hs
      exact h.deliver hm now
  | bag k online now =>
    simp only [Table.step, Option.map_eq_some_iff] at hs
    obtain ⟨bag, hbag, rfl⟩ := hs
    obtain ⟨b, hb, hc, hsum⟩ := h.covered
    exact ⟨⟨b, hb.resume (by decide) hbag, hc, hsum⟩, h.nonneg, h.boss⟩
  | worldBossStart | fengHuang | scoreLock | fishTrace | sweepFish =>
    cases hs
    exact h.frame rfl rfl rfl rfl h.boss

end Step

/-- Every run from a seat just taken whose labels all meet the condition when they are taken: once the handlers are done and
the bag has handled all messages, the gold in the bag is `fishScore` again, and both have changed by what the labels of the
run gain: an accepted shot its price less, a sweep its score, a refund the price of the shots at the boss. -/
theorem bag_gold_eq_fishScore_of_goldSafe (cfg : CannonMultiple) (s t : Seat) (l : Nat) (labels : List Label)
    (hseat : Seated l s) (hsafe : Steps.Meets (step cfg) (fun s i => goldSafe cfg s i) s labels)
    (hrun : Steps.exec (step cfg) s labels = some t) (hwork : t.work = none) (hmessages : t.messages = []) :
    t.bag.getItemCount t.userID itemIdGold = t.gameData.fishScore ∧
    t.gameData.fishScore = s.gameData.fishScore + Steps.total (step cfg) (gain cfg) s labels := by
  have h := Steps.exec_invariant (I := fun s => Balanced l (Work.owes s.work) s)
    (fun s i s' h hc hs => h.step i hc hs) labels s t
    hseat.balanced hsafe hrun
  have hscore := Steps.exec_total (I := fun s score => s.gameData.fishScore = score) (f := gain cfg)
    (fun s i s' score h _ hs => h ▸ fishScore_step i hs) labels s t _ rfl hsafe hrun
  obtain ⟨b, hb, -, hsum⟩ := h.covered
  refine ⟨?_, hscore⟩
  rw [hmessages, hwork, List.map_nil, List.sum_nil, Work.owes, add_zero, add_zero] at hsum
  rw [hb.getItemCount, hsum]

/-- The user 7, with 1000 gold in the bag, sits down. -/
def goldSeat : Seat :=
  onActionUserSitDown ⟨7, 1, createGameDataItem 0, false, false, [], .init, none, [],
    Bag.loadDone Bag.State.init 7 ([(itemIdGold, 1000, 0)].map fun r => Bag.loadRow 0 r.1 r.2.1 r.2.2)⟩

theorem seated_goldSeat : Seated 0 goldSeat :=
  seated_onActionUserSitDown (b := 1000) rfl rfl (by decide) ⟨rfl, ⟨⟨itemIdGold, 1000, 1000, 0, some 0⟩, rfl, rfl⟩, by
    intro t ht
    cases ht⟩

/-- A shot with a list that names gold once, with a wrong count, a shot at a world boss and its refund. -/
theorem bag_gold_eq_fishScore_of_goldSafe_refund :
    ∃ t, Steps.exec (step ⟨1, 100⟩) goldSeat [.userFire ⟨0, 1, 10, [(itemIdJewel, 3), (itemIdGold, 5)]⟩, .proceed, .proceed,
        .worldBossStart, .userFire ⟨0, 2, 100, [(itemIdGold, 890)]⟩, .deliver 0, .worldBossEnd, .bag 0 true 0,
          .deliver 0, .deliver 0]
        = some t ∧
      t.bag.getItemCount t.userID itemIdGold = t.gameData.fishScore ∧
      t.gameData.fishScore = goldSeat.gameData.fishScore + Steps.total (step ⟨1, 100⟩) (gain ⟨1, 100⟩) goldSeat
        [.userFire ⟨0, 1, 10, [(itemIdJewel, 3), (itemIdGold, 5)]⟩, .proceed, .proceed,
          .worldBossStart, .userFire ⟨0, 2, 100, [(itemIdGold, 890)]⟩, .deliver 0, .worldBossEnd, .bag 0 true 0, .deliver 0,
            .deliver 0] :=
  ⟨_, rfl, bag_gold_eq_fishScore_of_goldSafe ⟨1, 100⟩ goldSeat _ 0
    [.userFire ⟨0, 1, 10, [(itemIdJewel, 3), (itemIdGold, 5)]⟩, .proceed, .proceed,
      .worldBossStart, .userFire ⟨0, 2, 100, [(itemIdGold, 890)]⟩, .deliver 0, .worldBossEnd, .bag 0 true 0,
        .deliver 0, .deliver 0]
    seated_goldSeat (by decide +kernel) rfl rfl rfl⟩

/-- A shot of 10 with an empty list takes 10 from `fishScore` and nothing from the bag. -/
theorem shot_without_gold_entry_is_free_in_bag :
    ∃ t, Seated 0 goldSeat ∧ accepts ⟨1, 100⟩ goldSeat ⟨0, 1, 10, []⟩ ∧
      Steps.exec (step ⟨1, 100⟩) goldSeat [.userFire ⟨0, 1, 10, []⟩, .proceed] = some t ∧ t.work = none ∧ t.messages = [] ∧
      t.gameData.fishScore = 990 ∧ t.bag.getItemCount t.userID itemIdGold = 1000 :=
  ⟨_, seated_goldSeat, by decide, rfl, rfl, rfl, rfl, rfl⟩

end SasyServer.Table
