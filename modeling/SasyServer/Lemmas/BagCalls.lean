import SasyServer.Bag.Calls
import SasyServer.Lemmas.GoodsEntries

/-!
# Lemmas: what a call makes of a bag

A call of `cmd_ChangeItemCount` changes the entry of the item in its place or adds one at the end, and `cmd_GoodsInfo`
changes an entry in its place.
-/

namespace SasyServer.BagCall

open Bag

variable {b : UserBag} {g : Nat} {v w : Goods}

/-! ## `cmd_GoodsInfo` and `cmd_ChangeItemCount` -/

/-- What a call of `cmd_ChangeItemCount` makes of the entry it finds. -/
def changed (v : Goods) (n : Int) (fromWhere : ItemSystemType) (bNeedNotify bReset : Bool) (a : Answers) : Goods :=
  let w := v.change n fromWhere bReset a.now
  if bNeedNotify && a.online then informed w a.now else w

theorem goodsID_changed (v : Goods) (n : Int) (fromWhere : ItemSystemType) (bNeedNotify bReset : Bool) (a : Answers) :
    (changed v n fromWhere bNeedNotify bReset a).goodsID = v.goodsID := by
  unfold changed
  dsimp only
  split
  · rw [goodsID_informed, Goods.goodsID_change]
  · exact Goods.goodsID_change _ _ _ _ _

/-- The entries after `cmd_GoodsInfo`. -/
theorem goods_goodsInfo (h : b.find g = some v) (a : Answers) :
    (goodsInfo b g a).state.goods = if a.online then setGoods b.goods (informed v a.now) else b.goods := by
  unfold goodsInfo informed
  split
  · simp only [h]
    cases hi : v.info a.now with
    | none => exact (setGoods_self h).symm
    | some r =>
      obtain ⟨w, cleared⟩ := r
      cases cleared <;> rfl
  · rfl

/-- A change that finds an entry, without the notification. -/
theorem goods_changeEntry (h : b.find g = some v) (n : Int) (fromWhere : ItemSystemType) (bReset : Bool) (now : Int) :
    (changeEntry b g n fromWhere bReset now).goods = setGoods b.goods (v.change n fromWhere bReset now) := by
  simp only [changeEntry, h]
  split <;> rfl

/-- The entry after the change. -/
theorem find_changeEntry (h : b.find g = some v) (n : Int) (fromWhere : ItemSystemType) (bReset : Bool) (now : Int) :
    (changeEntry b g n fromWhere bReset now).find g = some (v.change n fromWhere bReset now) := by
  have hid : (v.change n fromWhere bReset now).goodsID = g :=
    (Goods.goodsID_change v n fromWhere bReset now).trans (goodsID_of_find h)
  have hfind : findGoods (setGoods b.goods (v.change n fromWhere bReset now)) (v.change n fromWhere bReset now).goodsID =
      some (v.change n fromWhere bReset now) := findGoods_setGoods (v := v) (by rw [hid]; exact h)
  rw [UserBag.find, goods_changeEntry h]
  rwa [hid] at hfind

/-- The entries after a change that finds one of the item. -/
theorem goods_changeItemCount (h : b.find g = some v) (n : Int) (fromWhere : ItemSystemType) (bNeedNotify bReset : Bool)
    (a : Answers) :
    (changeItemCount b g n fromWhere bNeedNotify bReset a).state.goods =
      setGoods b.goods (changed v n fromWhere bNeedNotify bReset a) := by
  have hgoods := goods_changeEntry h n fromWhere bReset a.now
  unfold changeItemCount changed
  cases bNeedNotify with
  | false => simpa [Attempt.ok] using hgoods
  | true =>
    simp only [if_true, goods_goodsInfo (find_changeEntry h n fromWhere bReset a.now), Bool.true_and, hgoods]
    split
    · exact setGoods_setGoods (goodsID_informed _ _).symm b.goods
    · rfl

/-- `cmd_GoodsInfo` stops only at an entry without an end. -/
theorem failure_goodsInfo (h : b.find g = some v) (a : Answers) :
    (goodsInfo b g a).failure = none ↔ ¬(a.online ∧ endless v) := by
  unfold goodsInfo
  by_cases hon : a.online
  · simp only [hon, if_true, h, true_and]
    by_cases hend : endless v
    · simp [info_of_endless hend, hend, Attempt.fail]
    by_cases hexp : expired v a.now
    · simp [info_of_expired hexp, hend, Attempt.ok]
    · simp [info_of_running hend hexp, hend, Attempt.ok]
  · simp [hon, Attempt.ok]

/-- A change of an item with an entry fails only when the client is told of an item that has no end. -/
theorem failure_changeItemCount (h : b.find g = some v) (n : Int) (fromWhere : ItemSystemType) (bNeedNotify bReset : Bool)
    (a : Answers) :
    (changeItemCount b g n fromWhere bNeedNotify bReset a).failure = none ↔
      ¬(bNeedNotify ∧ a.online ∧ endless (v.change n fromWhere bReset a.now)) := by
  unfold changeItemCount
  cases bNeedNotify with
  | false => simp [Attempt.ok]
  | true =>
    simp only [if_true, true_and]
    exact failure_goodsInfo (find_changeEntry h n fromWhere bReset a.now) a

theorem score_goodsInfo (b : UserBag) (g : Nat) (a : Answers) : (goodsInfo b g a).state.score = b.score := by
  unfold goodsInfo
  repeat' split
  all_goals rfl

/-- `ChangeItemCount` does not touch the score of the user's record. -/
theorem score_changeItemCount (b : UserBag) (g : Nat) (n : Int) (fromWhere : ItemSystemType) (bNeedNotify bReset : Bool)
    (a : Answers) :
    (changeItemCount b g n fromWhere bNeedNotify bReset a).state.score = b.score := by
  have hentry : (changeEntry b g n fromWhere bReset a.now).score = b.score := by
    unfold changeEntry
    split
    · rfl
    · dsimp only
      split <;> rfl
  unfold changeItemCount
  split
  · rw [score_goodsInfo, hentry]
  · exact hentry

/-- The entry that `AddItemToBag` inserts is not changed by the notification: it has no end to expire at. -/
theorem informed_added (n now : Int) : informed (Goods.added g n) now = Goods.added g n := by
  unfold informed Goods.info
  split <;> rfl

/-- The entries after a change that finds none of the item. -/
theorem goods_changeItemCount_of_missing (h : b.find g = none) (n : Int) (fromWhere : ItemSystemType)
    (bNeedNotify bReset : Bool) (a : Answers) :
    (changeItemCount b g n fromWhere bNeedNotify bReset a).state.goods = b.goods ++ [Goods.added g n] := by
  have hgoods : (changeEntry b g n fromWhere bReset a.now).goods = b.goods ++ [Goods.added g n] := by
    simp only [changeEntry, h]
    rfl
  have hfind : (changeEntry b g n fromWhere bReset a.now).find g = some (Goods.added g n) := by
    rw [UserBag.find, hgoods, findGoods, List.find?_append, show b.goods.find? (fun v => v.goodsID = g) = none from h]
    simp [Goods.added]
  unfold changeItemCount
  cases bNeedNotify with
  | false => simpa [Attempt.ok] using hgoods
  | true =>
    have hself : setGoods (b.goods ++ [Goods.added g n]) (Goods.added g n) = b.goods ++ [Goods.added g n] := by
      rw [← hgoods]
      exact setGoods_self hfind
    simp only [if_true, goods_goodsInfo hfind, informed_added, hgoods, hself, ite_self]

end SasyServer.BagCall
