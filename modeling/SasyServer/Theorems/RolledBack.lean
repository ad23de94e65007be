import SasyServer.Lemmas.LoginCalls

/-!
# Theorem: what a change leaves behind when the database has rolled it back

`cmd_ChangeItemCount` of the login server changes the entry, and tells the game server, before it calls `sp_write_bag`, and
takes nothing back. What it has done is nothing exactly when the change makes no difference to the entry, and the game server
is not told of such changes.
-/

namespace SasyServer.LoginCall

open Bag

/-- A change that leaves the entry as it is. -/
def leavesEntry (v : Goods) (n : Int) : Bool :=
  if checkIsPaoTaiItem v.goodsID ∨ checkIsSpecCannonItem v.goodsID then
    if n > 0 then v.goodsCount = 1 ∧ v.oldGoodsCount = 1 else v.goodsCount = 0 ∧ v.oldGoodsCount = 0 ∧ v.useTime = 0
  else if v.goodsCount + n < 0 then v.goodsCount = 0 ∧ v.oldGoodsCount = 0
  else n = 0

/-- The condition on a change: the database has no error, or the bag has no entry of the item, so that nothing is written, or
the entry is left as it is and the game server is not told. -/
def rollbackSafe (b : UserBag) (g : Nat) (n : Int) (fromWhere : ItemSystemType) (a : Answers) : Bool :=
  !a.dbError || (b.find g).all fun v => leavesEntry v n && !isAnnounced a.user fromWhere

variable {b : UserBag} {g : Nat} {v : Goods}

/-- The entry as it is changed in memory. -/
theorem changeGoods_eq_self_iff (v : Goods) (n : Int) : LoginBag.changeGoods v n = v ↔ leavesEntry v n := by
  obtain ⟨id, count, old, use, fin⟩ := v
  unfold LoginBag.changeGoods leavesEntry
  dsimp only
  by_cases hk : checkIsPaoTaiItem id ∨ checkIsSpecCannonItem id
  · by_cases hn : n > 0
    · simp only [hk, hn, if_true, decide_eq_true_eq]
      grind
    · simp only [hk, hn, if_true, if_false, decide_eq_true_eq]
      grind
  · by_cases hc : count + n < 0
    · simp only [hk, hc, if_true, if_false, Goods.mk.injEq, decide_eq_true_eq]
      grind
    · simp only [hk, hc, if_false, Goods.mk.injEq, decide_eq_true_eq]
      grind

/-- An entry that is put in the place of the first one of its item leaves the list as it is only if it is that entry. -/
theorem setGoods_eq_self_iff {list : List Goods} {w : Goods} (h : findGoods list g = some v) (hw : w.goodsID = g) :
    setGoods list w = list ↔ w = v := by
  constructor
  · intro hself
    have hfind : findGoods (setGoods list w) w.goodsID = some w := findGoods_setGoods (v := v) (by rw [hw]; exact h)
    rw [hself, hw, h, Option.some.injEq] at hfind
    exact hfind.symm
  · rintro rfl
    exact setGoods_self h

/-- A call whose write is rolled back: the entry has been changed. -/
theorem changeItemCount_of_dbError {a : Answers} (ha : a.dbError) (hf : b.find g = some v) (n : Int)
    (fromWhere : ItemSystemType) :
    changeItemCount b g n fromWhere a =
      .fail ((announce b g n fromWhere a.user).set (LoginBag.changeGoods v n)) (.write (-1)) := by
  have hrows : writeRows b.itemCounts g n a.dbError = (b.itemCounts, -1) := by rw [writeRows, if_pos ha]
  have hkept := (announce_eq b g n fromWhere a.user).2.1
  rw [changeItemCount_of_refused hf fromWhere (by simp [hrows]), hrows, ← hkept]
  rfl

/-- Without an error the code of a write is another one. -/
theorem writeRows_retCode (rows : Nat → Option Int) (g : Nat) (n : Int) : (writeRows rows g n false).2 ≠ -1 := by
  simp only [writeRows, LoginBag.spWriteBag, Bool.false_eq_true, if_false]
  repeat' split
  all_goals simp

/-- A call that does not write, or meets no error, does not stop with the code −1. -/
theorem failure_changeItemCount {a : Answers} (h : ¬(a.dbError ∧ (b.find g).isSome)) (n : Int) (fromWhere : ItemSystemType) :
    (changeItemCount b g n fromWhere a).failure ≠ some (.write (-1)) := by
  cases hf : b.find g with
  | none =>
    unfold changeItemCount
    simp only [find_announce, hf, Attempt.ok_andThen]
    split
    · exact failure_goodsInfo _ _ _ _
    · exact nofun
  | some v =>
    have ha : a.dbError = false := by
      by_contra ha
      exact h ⟨by simpa using ha, by rw [hf, Option.isSome_some]⟩
    by_cases hcode : (writeRows b.itemCounts g n a.dbError).2 = 0
    · rw [changeItemCount_of_written hf fromWhere hcode]
      split
      · exact failure_goodsInfo _ _ _ _
      · exact nofun
    · rw [changeItemCount_of_refused hf fromWhere hcode]
      have hother := writeRows_retCode b.itemCounts g n
      rw [← ha] at hother
      exact fun heq => hother (by simpa [Attempt.fail] using heq)

/-- When the write of a change has been rolled back, the bag is as it was and the game server has not been told, exactly when
the change makes no difference to the entry and is not one that is told. -/
theorem changeItemCount_rolledBack_iff (b : UserBag) (g : Nat) (n : Int) (fromWhere : ItemSystemType) (a : Answers) :
    ((changeItemCount b g n fromWhere a).failure = some (.write (-1)) →
      (changeItemCount b g n fromWhere a).state.goods = b.goods ∧
        (changeItemCount b g n fromWhere a).state.announced = b.announced) ↔
    rollbackSafe b g n fromWhere a := by
  unfold rollbackSafe
  by_cases ha : a.dbError
  · cases hf : b.find g with
    | none => exact iff_of_true (fun h => absurd h (failure_changeItemCount (by simp [hf]) n fromWhere)) (by simp)
    | some v =>
      have hgoods : ∀ w, ((announce b g n fromWhere a.user).set w).goods = setGoods b.goods w := by
        intro w
        unfold announce
        split <;> rfl
      have hsent : ∀ w, ((announce b g n fromWhere a.user).set w).announced = b.announced ↔
        ¬isAnnounced a.user fromWhere := by
        intro w
        unfold announce
        split
        · simp_all [UserBag.set]
        · simp_all [UserBag.set]
      have hid : (LoginBag.changeGoods v n).goodsID = g := (LoginBag.goodsID_changeGoods v n).trans (goodsID_of_find hf)
      rw [changeItemCount_of_dbError ha hf]
      simp only [Attempt.fail, hgoods, hsent, setGoods_eq_self_iff hf hid, changeGoods_eq_self_iff, forall_const,
        Option.all_some, ha]
      simp
  · exact iff_of_true (fun h => absurd h (failure_changeItemCount (fun h => ha h.1) n fromWhere)) (by simp [ha])

/-- A purchase of 5 for a user in no game: the write is rolled back, and the bag has the 5 nevertheless. -/
theorem changeItemCount_rolledBack_changed :
    ¬∀ (b : UserBag) (g : Nat) (n : Int) (fromWhere : ItemSystemType) (a : Answers),
      (changeItemCount b g n fromWhere a).failure = some (.write (-1)) →
        (changeItemCount b g n fromWhere a).state.goods = b.goods ∧
          (changeItemCount b g n fromWhere a).state.announced = b.announced := by
  intro h
  have hgoods := (h ⟨[⟨itemIdJewel, 10, 10, 0, some 0⟩], fun _ => some 10, fun _ => 0, [], []⟩ itemIdJewel 5 .bugGoods
    ⟨some ⟨0, false, true⟩, true, 100⟩ rfl).1
  exact absurd hgoods (by decide)

end SasyServer.LoginCall
