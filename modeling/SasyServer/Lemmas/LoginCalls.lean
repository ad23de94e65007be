import SasyServer.Bag.LoginCalls
import SasyServer.Lemmas.GoodsEntries

/-!
# Lemmas: what a call of the login server makes of a bag

A call of `cmd_ChangeItemCount` that finds an entry ends in one of three ways: the change has not been written, or it has
been written and its time is set, and then the entry may be reported.
-/

namespace SasyServer.LoginCall

open Bag

variable {b : UserBag} {g : Nat} {v : Goods}

/-- The entry after a change that has been written. -/
def written (v : Goods) (n now : Int) : Goods :=
  if isOrdinary v.goodsID then LoginBag.changeGoods v n else (LoginBag.changeGoods v n).changeTime n now

theorem goodsID_written (v : Goods) (n now : Int) : (written v n now).goodsID = v.goodsID := by
  unfold written
  split
  · exact LoginBag.goodsID_changeGoods v n
  · rw [Goods.goodsID_changeTime, LoginBag.goodsID_changeGoods]

/-- Telling the game server changes nothing here. -/
theorem announce_eq (b : UserBag) (g : Nat) (n : Int) (fromWhere : ItemSystemType) (user : Option LoginUser) :
    (announce b g n fromWhere user).goods = b.goods ∧ (announce b g n fromWhere user).itemCounts = b.itemCounts ∧
      (announce b g n fromWhere user).endTimes = b.endTimes ∧ (announce b g n fromWhere user).reports = b.reports := by
  unfold announce
  split <;> exact ⟨rfl, rfl, rfl, rfl⟩

theorem find_announce (b : UserBag) (g : Nat) (n : Int) (fromWhere : ItemSystemType) (user : Option LoginUser) (g' : Nat) :
    (announce b g n fromWhere user).find g' = b.find g' := by
      rw [UserBag.find, (announce_eq b g n fromWhere user).1, UserBag.find]

/-- The code of a write, and the rows after it. -/
def writeRows (rows : Nat → Option Int) (g : Nat) (n : Int) (dbError : Bool) : (Nat → Option Int) × Int :=
  if dbError then (rows, -1)
  else (Function.update rows g (LoginBag.spWriteBag (rows g) n).1, (LoginBag.spWriteBag (rows g) n).2)

theorem writeBag_eq (b : UserBag) (g : Nat) (n : Int) (dbError : Bool) :
    writeBag b g n dbError =
      ({ b with itemCounts := (writeRows b.itemCounts g n dbError).1 }, (writeRows b.itemCounts g n dbError).2) := by
  unfold writeBag writeRows
  split <;> rfl

/-- A change of an entry that is not written. -/
theorem changeEntry_of_refused {n : Int} {a : Answers} (h : (writeRows b.itemCounts v.goodsID n a.dbError).2 ≠ 0) :
    changeEntry b v n a =
      .fail { b.set (LoginBag.changeGoods v n) with itemCounts := (writeRows b.itemCounts v.goodsID n a.dbError).1 }
        (.write (writeRows b.itemCounts v.goodsID n a.dbError).2) := by
  unfold changeEntry
  simp only [writeBag_eq]
  exact if_pos h

/-- A change of an entry that is written. -/
theorem changeEntry_of_written {n : Int} {a : Answers} (h : (writeRows b.itemCounts v.goodsID n a.dbError).2 = 0) :
    changeEntry b v n a = .ok
      { b with
        goods := setGoods b.goods (written v n a.now)
        itemCounts := (writeRows b.itemCounts v.goodsID n a.dbError).1
        endTimes :=
          if isOrdinary v.goodsID ∨ (checkIsTimeCardItem v.goodsID ∧ n < 0) then b.endTimes
          else Function.update b.endTimes v.goodsID ((written v n a.now).endTime.getD 0) } := by
  unfold changeEntry written
  have hrows : (b.set (LoginBag.changeGoods v n)).itemCounts = b.itemCounts := rfl
  simp only [writeBag_eq, hrows, h, ne_eq, not_true_eq_false, if_false]
  by_cases hk : isOrdinary v.goodsID
  · simp only [hk, if_true, true_or]
    rfl
  · have hset := setGoods_setGoods (Goods.goodsID_changeTime (LoginBag.changeGoods v n) n a.now).symm b.goods
    by_cases ht : checkIsTimeCardItem v.goodsID ∧ n < 0
    · simp only [hk, ht, if_false, if_true, or_true, UserBag.set, hset, Bool.false_eq_true, and_self]
    · simp only [hk, ht, if_false, or_self, UserBag.set, UserBag.sendEndTime, hset, Bool.false_eq_true]

/-- The bag after a change of an entry that is written, before the notification. -/
def afterWrite (b : UserBag) (v : Goods) (n : Int) (fromWhere : ItemSystemType) (a : Answers) : UserBag :=
  { announce b v.goodsID n fromWhere a.user with
    goods := setGoods b.goods (written v n a.now)
    itemCounts := (writeRows b.itemCounts v.goodsID n a.dbError).1
    endTimes :=
      if isOrdinary v.goodsID ∨ (checkIsTimeCardItem v.goodsID ∧ n < 0) then b.endTimes
      else Function.update b.endTimes v.goodsID ((written v n a.now).endTime.getD 0) }

/-- A call that is not written. -/
theorem changeItemCount_of_refused {n : Int} {a : Answers} (h : b.find g = some v) (fromWhere : ItemSystemType)
    (hcode : (writeRows b.itemCounts g n a.dbError).2 ≠ 0) :
    changeItemCount b g n fromWhere a =
      .fail { (announce b g n fromWhere a.user).set (LoginBag.changeGoods v n) with
        itemCounts := (writeRows b.itemCounts g n a.dbError).1 }
        (.write (writeRows b.itemCounts g n a.dbError).2) := by
  have hid := goodsID_of_find h
  obtain ⟨-, hrows, -, -⟩ := announce_eq b g n fromWhere a.user
  unfold changeItemCount
  simp only [find_announce, h]
  rw [changeEntry_of_refused (by rw [hrows, hid]; exact hcode), hrows, hid]
  rfl

/-- A call that is written. -/
theorem changeItemCount_of_written {n : Int} {a : Answers} (h : b.find g = some v) (fromWhere : ItemSystemType)
    (hcode : (writeRows b.itemCounts g n a.dbError).2 = 0) :
    changeItemCount b g n fromWhere a =
      if needsNotify a.user then goodsInfo (afterWrite b v n fromWhere a) g a else .ok (afterWrite b v n fromWhere a) := by
  have hid := goodsID_of_find h
  obtain ⟨hgoods, hrows, hends, -⟩ := announce_eq b g n fromWhere a.user
  unfold changeItemCount afterWrite
  simp only [find_announce, h]
  rw [changeEntry_of_written (by rw [hrows, hid]; exact hcode), hrows, hgoods, hends, hid, Attempt.ok_andThen]

theorem find_afterWrite {n : Int} {a : Answers} (h : b.find g = some v) (fromWhere : ItemSystemType) :
    (afterWrite b v n fromWhere a).find g = some (written v n a.now) := by
  have hw : (written v n a.now).goodsID = g := (goodsID_written v n a.now).trans (goodsID_of_find h)
  have hfind : findGoods (setGoods b.goods (written v n a.now)) (written v n a.now).goodsID = some (written v n a.now) :=
    findGoods_setGoods (v := v) (by rw [hw]; exact h)
  rwa [hw] at hfind

/-- The entries whose time `cmd_GoodsInfo` looks at. -/
def isTimed (g : Nat) : Bool := checkIsPaoTaiItem g || checkIsTimeCardItem g

/-- `cmd_GoodsInfo` does not write to the database. -/
theorem failure_goodsInfo (b : UserBag) (g : Nat) (a : Answers) (retCode : Int) :
    (goodsInfo b g a).failure ≠ some (.write retCode) := by
  unfold goodsInfo
  repeat' split
  all_goals exact nofun

/-- The entries after `cmd_GoodsInfo`. -/
theorem goods_goodsInfo (h : b.find g = some v) (a : Answers) :
    (goodsInfo b g a).state.goods =
      if (a.user.any LoginUser.hasAgent) && isTimed g then setGoods b.goods (informed v a.now) else b.goods := by
  unfold goodsInfo informed isTimed
  cases a.user with
  | none => rfl
  | some u =>
    cases hu : u.hasAgent with
    | false => simp [hu, Attempt.ok]
    | true =>
      simp only [hu, h, Option.any_some, Bool.true_and, Bool.or_eq_true, not_true_eq_false, if_false]
      by_cases hk : checkIsPaoTaiItem g ∨ checkIsTimeCardItem g
      · rw [if_pos hk, if_pos hk]
        cases hi : v.info a.now with
        | none => exact (setGoods_self h).symm
        | some r =>
          obtain ⟨w, cleared⟩ := r
          cases cleared <;> rfl
      · rw [if_neg hk, if_neg hk]
        rfl

/-- `cmd_GoodsInfo` stops without the user's record, and at an entry without an end. -/
theorem failure_goodsInfo_iff (h : b.find g = some v) (a : Answers) :
    (goodsInfo b g a).failure = none ↔ a.user.isSome ∧ ¬(a.user.any LoginUser.hasAgent ∧ isTimed g ∧ endless v) := by
  unfold goodsInfo isTimed
  cases a.user with
  | none => simp [Attempt.fail]
  | some u =>
    cases hu : u.hasAgent with
    | false => simp [hu, Attempt.ok]
    | true =>
      simp only [hu, h, Option.any_some, Option.isSome_some, Bool.or_eq_true, not_true_eq_false, if_false, true_and]
      by_cases hk : checkIsPaoTaiItem g ∨ checkIsTimeCardItem g
      · simp only [hk, if_true, true_and]
        by_cases hend : endless v
        · simp [info_of_endless hend, hend, Attempt.fail]
        by_cases hexp : expired v a.now
        · simp [info_of_expired hexp, hend, Attempt.ok]
        · simp [info_of_running hend hexp, hend, Attempt.ok]
      · simp [hk, Attempt.ok]

/-- The entries whose time `cmd_GoodsInfo` looks at are timed. -/
theorem not_ordinary_of_isTimed (h : isTimed g) : isOrdinary g = false :=
  (not_ordinary_iff g).2 (by simp only [isTimed, Bool.or_eq_true] at h; tauto)

/-- A timed entry has an end once its change has been written. -/
theorem endTime_written (n now : Int) (h : isOrdinary v.goodsID = false) : ∃ e, (written v n now).endTime = some e ∧
    (0 < (written v n now).goodsCount → now < e) := by
  rw [written, h]
  simp only [Bool.false_eq_true, if_false, Goods.goodsCount_changeTime]
  exact endTime_changeTime (LoginBag.changeGoods v n) n now

/-- A call that has not stopped at a write. -/
theorem returned_of_ne {change : Attempt UserBag Failure} (h : ∀ retCode, change.failure ≠ some (.write retCode)) :
    returned change = change := by
  unfold returned
  split
  · rename_i heq
    exact absurd heq (h _)
  · rfl

/-- A line of a list, when the bag has one entry of the item. -/
theorem comsumeItem_eq (hnodup : (b.goods.map Goods.goodsID).Nodup) {x : (Nat × Int) × Bool} (h : b.find x.1.1 = some v)
    (fromWhere : ItemSystemType) (user : Option LoginUser) (now : Int) :
    comsumeItem fromWhere user now b x = returned (changeItemCount b x.1.1 (-x.1.2) fromWhere ⟨user, x.2, now⟩) := by
  have hone : b.goods.filter (fun vv => vv.goodsID = x.1.1) = [v] := by
    have hmem := List.mem_of_find?_eq_some h
    have hid := goodsID_of_find h
    refine List.perm_singleton.1
      ((List.perm_ext_iff_of_nodup (hnodup.of_map.filter _) (List.nodup_singleton v)).2 fun w => ?_)
    simp only [List.mem_filter, decide_eq_true_eq, List.mem_singleton]
    constructor
    · exact fun hw => List.inj_on_of_nodup_map hnodup hw.1 hmem (hw.2.trans hid.symm)
    · rintro rfl
      exact ⟨hmem, hid⟩
  unfold comsumeItem
  rw [hone, Attempt.forEach]
  unfold Attempt.andThen
  split
  · rename_i hnone
    generalize returned (changeItemCount b x.1.1 (-x.1.2) fromWhere ⟨user, x.2, now⟩) = c at hnone ⊢
    obtain ⟨state, failure⟩ := c
    cases hnone
    rfl
  · rfl

end SasyServer.LoginCall
