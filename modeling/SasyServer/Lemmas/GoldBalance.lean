import Mathlib.Algebra.Order.Ring.Int
import SasyServer.Lemmas.BagLedger
import SasyServer.Table.Gold

/-!
# Lemmas: the two balances of a player's gold

The count of an item as `cmd_GetItemCount` gives it, under the changes the table asks for, and the invariant that
ties it to `gameData.fishScore`: the gold in the bag, the changes on their way and what the waiting handler is going
to send make up `fishScore`.
-/

namespace SasyServer.Bag

/-- The user has the list `l`, its first entry of the item `g` has the count `b`, and the handlers that
wait only report items. -/
structure Holds (user l g : Nat) (b : Int) (s : State) : Prop where
  hash : s.hash user = some l
  found : ∃ v, (s.lists l).find? (fun v => v.goodsID = g) = some v ∧ v.goodsCount = b
  infos : ∀ t ∈ s.suspended, ∃ c, t = .info c

section Holds

variable {user l g : Nat} {b : Int} {s : State}

theorem Holds.getItemCount (h : Holds user l g b s) : s.getItemCount user g = b := by
  obtain ⟨v, hf, hv⟩ := h.found
  simp only [State.getItemCount, h.hash, Bag.getItemCount, hf, Option.map_some, Option.getD_some, hv]

theorem Holds.request (h : Holds user l g b s) (r : Request) : Holds user l g b (s.request r) := ⟨h.hash, h.found, h.infos⟩

theorem Holds.changeRecord (h : Holds user l g b s) (c : ChangeRest) : Holds user l g b (changeRecord s c) := by
  unfold Bag.changeRecord
  dsimp only
  repeat' split
  all_goals first | exact h | exact h.request _

/-- A change of the bag leaves another entry as it is. -/
theorem Holds.changeRest (h : Holds user l g b s) (c : ChangeRest) : Holds user l g b (changeRest s c) := by
  unfold Bag.changeRest
  split
  · refine ⟨h.hash, h.found, ?_⟩
    intro t ht
    simp only [State.suspend, List.mem_append, List.mem_singleton] at ht
    rcases ht with ht | rfl
    · exact h.infos t ht
    · exact ⟨c, rfl⟩
  · exact h.changeRecord c

/-- A change of an ordinary item that the bag has and can bear. -/
theorem Holds.changeItemCount (h : Holds user l g b s) (hg : isOrdinary g) {c : ChangeRest} (now : Int)
    (hu : c.userID = user) (hcg : c.goodsID = g) (hw : ¬isOperatorByLoginServer c.fromWhere)
    (hb : 0 ≤ b + c.goodsCount) :
    Holds user l g (b + c.goodsCount) (changeItemCount s c false now) := by
  obtain ⟨v, hf, hv⟩ := h.found
  have hid : v.goodsID = g := by simpa using List.find?_some hf
  have hchange : v.change c.goodsCount c.fromWhere false now = { v with goodsCount := v.goodsCount + c.goodsCount } :=
    Goods.change_ordinary now (hid ▸ hg) hw (by simpa [hv] using hb)
  unfold Bag.changeItemCount
  simp only [hu, hcg, h.hash]
  split
  · rename_i hnone
    rw [changeFirst_eq_none hnone] at hf
    cases hf
  · rename_i list' hlist
    have hf' := find?_changeFirst hlist hf (by rw [Goods.goodsID_change, hid])
    have hset : Holds user l g (b + c.goodsCount) (s.setList l list') := by
      refine ⟨h.hash, ⟨_, (Function.update_self (β := fun _ => List Goods) l list' s.lists).symm ▸ hf', ?_⟩, h.infos⟩
      rw [hchange, hv]
    split
    · exact (hset.request _).changeRest c
    · exact hset.changeRest c

/-- The first entry of an item, when an entry is set that is of another item or stays as it is. -/
theorem find?_set {list : List Goods} {k : Nat} {v w : Goods} (hk : list[k]? = some v) (hid : w.goodsID = v.goodsID)
    (hw : v.goodsID = g → w = v) : (list.set k w).find? (fun v => v.goodsID = g) = list.find? (fun v => v.goodsID = g) := by
  induction list generalizing k with
  | nil => simp at hk
  | cons x list ih =>
    cases k with
    | zero =>
      cases Option.some.inj hk
      by_cases hx : v.goodsID = g
      · rw [hw hx, List.set_cons_zero]
      · simp [hid, hx]
    | succ k => rw [List.set_cons_succ, List.find?_cons, List.find?_cons, ih (by simpa using hk)]

/-- An ordinary item is reported as it is. -/
theorem Holds.goodsInfo (h : Holds user l g b s) (hg : isOrdinary g) {u g' : Nat} {online : Bool} {now : Int} {s' : State}
    (hs : goodsInfo s u g' online now = some s') : Holds user l g b s' := by
  rcases goodsInfo_cases hs with rfl | ⟨l', k, v, w, cleared, -, hk, -, hi, hs⟩
  · exact h
  have hset : Holds user l g b (s.setList l' ((s.lists l').set k w)) := by
    obtain ⟨x, hf, hx⟩ := h.found
    refine ⟨h.hash, ⟨x, ?_, hx⟩, h.infos⟩
    by_cases hl : l' = l
    · subst hl
      show (Function.update s.lists l' _ l').find? _ = _
      rw [Function.update_self, find?_set hk (Goods.goodsID_info hi), hf]
      intro hv
      rw [Goods.info_ordinary now (hv ▸ hg)] at hi
      cases hi
      rfl
    · show (Function.update s.lists l' _ l).find? _ = _
      rw [Function.update_of_ne (Ne.symm hl), hf]
  rcases hs with rfl | rfl
  · exact hset
  · exact hset.request _

/-- A handler that waits in the bag goes on. -/
theorem Holds.resume (h : Holds user l g b s) (hg : isOrdinary g) {k : Nat} {retCode : Int} {order : List Nat}
    {online : Bool} {now : Int} {s' : State} (hs : step s (.resume k retCode order online now) = some s') :
    Holds user l g b s' := by
  simp only [step, Option.map_eq_some_iff] at hs
  obtain ⟨t, ht, rfl⟩ := hs
  obtain ⟨c, rfl⟩ := h.infos t (List.mem_of_getElem? ht)
  have hwake : Holds user l g b { s with suspended := s.suspended.eraseIdx k } :=
    ⟨h.hash, h.found, fun t ht => h.infos t (List.mem_of_mem_eraseIdx ht)⟩
  unfold resumeThread
  dsimp only
  split
  · exact hwake
  · rename_i s' hs'
    exact (hwake.goodsInfo hg hs').changeRecord c

end Holds

end SasyServer.Bag

namespace SasyServer.Table

open SasyServer.Bag (itemIdGold itemIdJewel itemIdFish)
open SasyServer.Catch (FishTrace isBomb sweepLoop sweepScore)

/-! ## What a label changes `fishScore` by -/

/-- What a label changes `fishScore` by. -/
def gain (cfg : CannonMultiple) (s : Seat) : Label → Int
  | .userFire m => if accepts cfg s m then -m.bulletMultiple else 0
  | .catchSweepFish sweepID fishIDList draws fishMultipleMax =>
    match sweepFishInfo s sweepID with
    | none => 0
    | some fish =>
      if fish.chairID = s.chairID ∧ isBomb fish.fishKind then
        sweepScore false fish (min (sweepLoop draws fishIDList ⟨s.fish, 0, []⟩).fishMultiple fishMultipleMax)
      else 0
  | .worldBossEnd | .saveInvalidGunGold => s.gameData.iWorldBossGold
  | _ => 0

section Gain

variable {cfg : CannonMultiple} {s : Seat}

/-- What is known of a shot that is fired. -/
theorem accepts_spec {m : UserFire} (h : accepts cfg s m) :
    s.gameData.isScoreLocked = false ∧ m.bulletMultiple ≤ s.gameData.fishScore ∧
      (s.bWorldBossScene → m.bulletMultiple = 100) := by
  simp only [accepts, inSequence, Bool.and_eq_true, Bool.not_eq_true', decide_eq_true_eq] at h
  refine ⟨h.1.1.1, h.2, ?_⟩
  intro hb
  have hm := h.1.2
  simp only [multipleAllowed, hb, if_true, decide_eq_true_eq] at hm
  exact hm

/-- The loop over `UserGoodsInfo` leaves `gameData` as it is. -/
theorem gameData_fireLoop (s : Seat) (m : Int) (goods : List (Nat × Int)) : (fireLoop s m goods).gameData = s.gameData := by
  induction goods generalizing s with
  | nil => rfl
  | cons v goods ih =>
    rw [fireLoop]
    split
    · exact ih _
    · split
      · rfl
      · exact ih _

/-- The score at the table after a shot. -/
theorem fishScore_userFire (m : UserFire) :
    (userFire cfg s m).gameData.fishScore = s.gameData.fishScore + gain cfg s (.userFire m) := by
  by_cases ha : accepts cfg s m
  · rw [gain, if_pos ha, userFire, if_neg (Bool.eq_false_iff.1 (accepts_spec ha).1)]
    dsimp only
    rw [if_pos ha]
    repeat' split
    all_goals first | rfl | rw [gameData_fireLoop]; rfl
  · simp only [userFire, gain, ha, Bool.false_eq_true, if_false, add_zero]
    split <;> rfl

/-- The score at the table after a bomb. -/
theorem fishScore_catchSweepFish (sweepID : Int) (fishIDList : List Int) (draws : FishTrace → Nat) (fishMultipleMax : Nat) :
    (catchSweepFish s sweepID fishIDList draws fishMultipleMax).gameData.fishScore =
      s.gameData.fishScore + gain cfg s (.catchSweepFish sweepID fishIDList draws fishMultipleMax) := by
  cases hfish : sweepFishInfo s sweepID with
  | none => simp only [catchSweepFish, gain, hfish, add_zero]
  | some fish =>
    simp only [catchSweepFish, gain, hfish]
    by_cases hm : fish.chairID = s.chairID
    · by_cases hb : isBomb fish.fishKind
      · simp only [hm, hb, and_self, if_true]
        rfl
      · simp only [hm, hb, and_false, Bool.false_eq_true, if_true, if_false, add_zero]
    · simp only [hm, false_and, if_false, add_zero]

theorem fishScore_refund (s : Seat) (n : Bool) :
    (refund s n).gameData.fishScore = s.gameData.fishScore + s.gameData.iWorldBossGold := by
  unfold refund
  split
  · rfl
  · rename_i hz
    rw [not_not.1 hz, add_zero]

/-- Every label changes `fishScore` by what it gains. -/
theorem fishScore_step (i : Label) {s' : Seat} (hs : step cfg s i = some s') :
    s'.gameData.fishScore = s.gameData.fishScore + gain cfg s i := by
  cases i with
  | userFire m =>
    simp only [step] at hs
    split at hs
    · cases hs
      exact fishScore_userFire m
    · cases hs
  | catchSweepFish sweepID fishIDList draws fishMultipleMax =>
    simp only [step] at hs
    split at hs
    · cases hs
      exact fishScore_catchSweepFish sweepID fishIDList draws fishMultipleMax
    · cases hs
  | proceed =>
    simp only [step, Option.map_eq_some_iff] at hs
    obtain ⟨w, -, rfl⟩ := hs
    simp only [gain, add_zero]
    cases w with
    | fire m rest => exact congrArg GameData.fishScore (gameData_fireLoop s m rest)
    | sweep score => rfl
  | worldBossEnd =>
    cases hs
    exact fishScore_refund { s with bWorldBossScene := false } true
  | saveInvalidGunGold =>
    cases hs
    exact fishScore_refund s false
  | deliver now =>
    simp only [step] at hs
    split at hs
    · cases hs
    · cases hs
      simp only [gain, add_zero]
  | bag k online now =>
    simp only [step, Option.map_eq_some_iff] at hs
    obtain ⟨bag, -, rfl⟩ := hs
    simp only [gain, add_zero]
  | worldBossStart | fengHuang | scoreLock | fishTrace | sweepFish =>
    cases hs
    simp only [gain, add_zero]

end Gain

/-! ## The invariant of a seat -/

/-- The gold entries of a `UserGoodsInfo`. -/
def goldEntries (goods : List (Nat × Int)) : Nat := goods.countP fun v => v.1 = itemIdGold

/-- What the handler in the critical section is going to send. -/
def Work.owes : Option Work → Int
  | none => 0
  | some (.fire bulletMultiple rest) => -(bulletMultiple * goldEntries rest)
  | some (.sweep score) => score

/-- The gold in the bag, the messages on their way and what is `owed` make up `fishScore`, and the bag can bear the
messages, one after the other. -/
structure Balanced (l : Nat) (owed : Int) (s : Seat) : Prop where
  covered : ∃ b, Bag.Holds s.userID l itemIdGold b s.bag ∧ Waiting.Covers b (s.messages.map Message.goodsCount) ∧
    b + (s.messages.map Message.goodsCount).sum + owed = s.gameData.fishScore
  nonneg : 0 ≤ s.gameData.fishScore
  boss : 0 ≤ s.gameData.iWorldBossGold

section Balanced

variable {l : Nat} {owed : Int} {s : Seat}

/-- Whatever else changes at the table. -/
theorem Balanced.frame (h : Balanced l owed s) {s' : Seat} (hu : s'.userID = s.userID) (hm : s'.messages = s.messages)
    (hbag : s'.bag = s.bag) (hf : s'.gameData.fishScore = s.gameData.fishScore) (hb : 0 ≤ s'.gameData.iWorldBossGold) :
    Balanced l owed s' := by
  refine ⟨?_, hf.symm ▸ h.nonneg, hb⟩
  rw [hu, hm, hbag, hf]
  exact h.covered

/-- A message that is owed is sent. -/
theorem Balanced.send (h : Balanced l owed s) {x : Int} (n : Bool)
    (hx : ∀ total : Int, 0 ≤ total → total + owed = s.gameData.fishScore → 0 ≤ total + x) :
    Balanced l (owed - x) (s.send x n) := by
  obtain ⟨b, hb, hc, hsum⟩ := h.covered
  refine ⟨⟨b, hb, ?_, ?_⟩, h.nonneg, h.boss⟩
  · simp only [Seat.send, List.map_append, List.map_cons, List.map_nil]
    exact hc.concat (hx _ hc.sum hsum)
  · simp only [Seat.send, List.map_append, List.map_cons, List.map_nil, List.sum_append, List.sum_cons, List.sum_nil]
    omega

/-- `fishScore` changes, and the change is owed. -/
theorem Balanced.addFishScore (h : Balanced l owed s) {x : Int} (hx : 0 ≤ s.gameData.fishScore + x) :
    Balanced l (owed + x) (s.addFishScore x) := by
  obtain ⟨b, hb, hc, hsum⟩ := h.covered
  refine ⟨⟨b, hb, hc, ?_⟩, hx, h.boss⟩
  simp only [Seat.addFishScore]
  omega

/-- The loop over `UserGoodsInfo` sends what it owes. -/
theorem Balanced.fireLoop {m : Int} {goods : List (Nat × Int)} (h : Balanced l (-(m * goldEntries goods)) s) :
    Balanced l (Work.owes (fireLoop s m goods).work) (fireLoop s m goods) := by
  induction goods generalizing s with
  | nil =>
    have h0 : Balanced l 0 s := by simpa [goldEntries] using h
    exact h0.frame rfl rfl rfl rfl h0.boss
  | cons v goods ih =>
    obtain ⟨goodsID, goodsCount⟩ := v
    rw [Table.fireLoop]
    split
    · rename_i hgold
      refine ih ?_
      have hn : (goldEntries ((goodsID, goodsCount) :: goods) : Int) = goldEntries goods + 1 := by
        simp [goldEntries, hgold]
      rw [hn] at h
      have hsend := h.send (x := -m) (s.gameData.fishScore ≠ goodsCount) fun total ht hsum => by
        -- With `m` positive the entries that follow bound the balance, otherwise the balance grows.
        rcases le_total 0 m with hm | hm
        · have : 0 ≤ m * (goldEntries goods : Int) := mul_nonneg hm (Int.natCast_nonneg _)
          have := h.nonneg
          rw [mul_add, mul_one] at hsum
          omega
        · omega
      have howed : -(m * ((goldEntries goods : Int) + 1)) - -m = -(m * goldEntries goods) := by
        rw [mul_add, mul_one]
        omega
      rwa [howed] at hsend
    · rename_i hgold
      have hn : goldEntries ((goodsID, goodsCount) :: goods) = goldEntries goods := by simp [goldEntries, hgold]
      rw [hn] at h
      split
      · exact h.frame rfl rfl rfl rfl h.boss
      · exact ih h

end Balanced

end SasyServer.Table
