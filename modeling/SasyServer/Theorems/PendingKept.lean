import SasyServer.Lemmas.BagCalls

/-!
# Theorem: when a change that the login server has written leaves what is still to be written

`cmd_ChangeItemCount` adds the amount of such a change to `oldGoodsCount` as it is, while `goodsCount` may be reset, is 1 or
0 for a cannon, and is not negative. The two go up alike exactly when none of this makes a difference.
-/

namespace SasyServer.BagCall

open Bag

/-- What `cmd_SaveUserItem` is going to write of an entry. -/
def unwritten (v : Goods) : Int := v.goodsCount - v.oldGoodsCount

/-- The entries of a bag still have the same to be written, and there is nothing to be written of a new one. -/
def KeepsUnwritten (before after : List Goods) : Prop :=
  ∃ k, after.map unwritten = before.map unwritten ++ List.replicate k 0

/-- `goodsCount` goes up by the amount. -/
def countsAmount (v : Goods) (n : Int) (bReset : Bool) : Bool :=
  if checkIsPaoTaiItem v.goodsID then v.goodsCount + n = if 0 < n then 1 else 0
  else if bReset ∧ 0 ≤ n then v.goodsCount = 0
  else if bReset then v.goodsCount + n = 0
  else 0 ≤ v.goodsCount + n

/-- `cmd_GoodsInfo` is going to clear the entry: none is left of a time card, or a special cannon has expired. -/
def clearsAfter (v : Goods) (n : Int) (bReset : Bool) (now : Int) : Bool :=
  v.useTime ≠ 0 ∧
    ((checkIsTimeCardItem v.goodsID ∧ (if bReset then n else v.goodsCount + n) ≤ 0 ∧ 0 ≤ now) ∨
      (checkIsSpecCannonItem v.goodsID ∧ v.endTime.any fun endTime => endTime ≤ now))

/-- The condition on a change: the bag has no entry of the item, or the amount is counted as it is; where the entry is
cleared, there has been nothing to write. -/
def changeKeeps (b : UserBag) (g : Nat) (n : Int) (bNeedNotify bReset : Bool) (a : Answers) : Bool :=
  (b.find g).all fun v =>
    if bNeedNotify ∧ a.online ∧ clearsAfter v n bReset a.now then v.goodsCount = v.oldGoodsCount else countsAmount v n bReset

/-- One entry that changes in its place. -/
theorem map_set_eq_iff {α β : Type} {f : α → β} {list : List α} {k : Nat} {v w : α} (hk : list[k]? = some v) :
    (list.set k w).map f = list.map f ↔ f w = f v := by
  obtain ⟨hlt, hv⟩ := List.getElem?_eq_some_iff.1 hk
  constructor
  · intro h
    have := congrArg (fun l => l[k]?) h
    simpa [hlt, hv] using this
  · intro h
    rw [List.map_set, h, ← hv, ← List.getElem_map f (h := by simpa using hlt), List.set_getElem_self]

/-- The two counts after a change the login server has written. -/
theorem unwritten_change {v : Goods} {fromWhere : ItemSystemType} (hfrom : isOperatorByLoginServer fromWhere) (n : Int)
    (bReset : Bool) (now : Int) :
    unwritten (v.change n fromWhere bReset now) = unwritten v ↔ countsAmount v n bReset := by
  have hold : ∀ (x : Goods) (n : Int), (x.changeTime n now).oldGoodsCount = x.oldGoodsCount := by
    intro x n
    unfold Goods.changeTime
    dsimp only
    repeat' split
    all_goals rfl
  have hcounts : unwritten (v.change n fromWhere bReset now) = unwritten (counted v n fromWhere bReset) := by
    rw [change_eq]
    split
    · simp only [unwritten, Goods.goodsCount_changeTime, hold]
    · rfl
  rw [hcounts]
  unfold unwritten counted countsAmount
  by_cases hp : checkIsPaoTaiItem v.goodsID
  · simp only [hp, hfrom, if_true, decide_eq_true_eq]
    omega
  · cases bReset <;> simp only [hp, hfrom, if_true, Bool.false_eq_true, if_false, true_and, false_and] <;> (try split) <;>
      simp only [decide_eq_true_eq] <;> omega

/-- The two counts after the notification. -/
theorem unwritten_informed (w : Goods) (now : Int) :
    unwritten (informed w now) = if expired w now then 0 else unwritten w := by
  unfold informed
  by_cases hexp : expired w now
  · simp [info_of_expired hexp, hexp, unwritten]
  by_cases hend : endless w
  · simp [info_of_endless hend, hexp]
  · simp [info_of_running hend hexp, hexp, unwritten]

/-- A change that finds an entry leaves what is to be written of it exactly under the condition. -/
theorem unwritten_changed {v : Goods} {fromWhere : ItemSystemType} (hfrom : isOperatorByLoginServer fromWhere) (n : Int)
    (bNeedNotify bReset : Bool) (a : Answers) :
    unwritten (changed v n fromWhere bNeedNotify bReset a) = unwritten v ↔
      if bNeedNotify ∧ a.online ∧ clearsAfter v n bReset a.now then v.goodsCount = v.oldGoodsCount
      else countsAmount v n bReset := by
  have hclear : clearsAfter v n bReset a.now ↔ expired (v.change n fromWhere bReset a.now) a.now := by
    rw [expired_change]
    simp [clearsAfter]
  unfold changed
  by_cases hon : bNeedNotify ∧ a.online
  · simp only [hon.1, hon.2, Bool.and_true, if_true, true_and, unwritten_informed, hclear]
    split
    · simp only [unwritten]
      omega
    · exact unwritten_change hfrom n bReset a.now
  · have hoff : ¬(bNeedNotify && a.online) = true := by simpa using hon
    simp only [if_neg hoff]
    rw [if_neg (fun h : bNeedNotify ∧ a.online ∧ clearsAfter v n bReset a.now => hon ⟨h.1, h.2.1⟩)]
    exact unwritten_change hfrom n bReset a.now

/-- A change that the login server has already written leaves what is still to be written of every entry exactly when the
item is missing, or the count goes up by the amount as it is; where the notification clears the entry, when there was
nothing to write of it. -/
theorem changeItemCount_keepsUnwritten_iff (b : UserBag) (g : Nat) (n : Int) (fromWhere : ItemSystemType)
    (bNeedNotify bReset : Bool) (a : Answers) (hfrom : isOperatorByLoginServer fromWhere) :
    KeepsUnwritten b.goods (changeItemCount b g n fromWhere bNeedNotify bReset a).state.goods ↔
      changeKeeps b g n bNeedNotify bReset a := by
  unfold changeKeeps
  cases hf : b.find g with
  | none =>
    rw [goods_changeItemCount_of_missing hf]
    refine iff_of_true ⟨1, ?_⟩ rfl
    simp [unwritten, Goods.added]
  | some v =>
    rw [goods_changeItemCount hf, Option.all_some]
    obtain ⟨k, hk, hset⟩ := setGoods_eq_set hf
    rw [hset _ ((goodsID_changed _ _ _ _ _ _).trans (goodsID_of_find hf))]
    have hkeep : KeepsUnwritten b.goods (b.goods.set k (changed v n fromWhere bNeedNotify bReset a)) ↔
        unwritten (changed v n fromWhere bNeedNotify bReset a) = unwritten v := by
      rw [← map_set_eq_iff hk]
      constructor
      · rintro ⟨m, hm⟩
        have hlen := congrArg List.length hm
        simp only [List.length_map, List.length_set, List.length_append, List.length_replicate] at hlen
        obtain rfl : m = 0 := by omega
        simpa using hm
      · exact fun h => ⟨0, by simpa using h⟩
    rw [hkeep, unwritten_changed hfrom]
    split <;> simp

/-- A payment of 5 for a bag with 10 of which 3 are still to be written. -/
theorem changeItemCount_keepsUnwritten_iff_payAdd :
    KeepsUnwritten [⟨itemIdJewel, 10, 7, 0, none⟩]
      (changeItemCount ⟨[⟨itemIdJewel, 10, 7, 0, none⟩], 0, fun _ => 0, []⟩ itemIdJewel 5 .payAdd true false
        ⟨true, true, true, 100⟩).state.goods :=
  (changeItemCount_keepsUnwritten_iff ⟨[⟨itemIdJewel, 10, 7, 0, none⟩], 0, fun _ => 0, []⟩ itemIdJewel 5 .payAdd true false
    ⟨true, true, true, 100⟩ (by decide)).2 (by decide)

/-- A cannon the user has already, from the login server: its count stays 1, and `oldGoodsCount` becomes 2, so that the
next save takes one back. -/
theorem changeItemCount_not_keepsUnwritten :
    ¬∀ (b : UserBag) (g : Nat) (n : Int) (fromWhere : ItemSystemType) (bNeedNotify bReset : Bool) (a : Answers),
      isOperatorByLoginServer fromWhere →
        KeepsUnwritten b.goods (changeItemCount b g n fromWhere bNeedNotify bReset a).state.goods := by
  intro h
  obtain ⟨k, hk⟩ := h ⟨[⟨itemIdPaoTai1, 1, 1, 50, some 150⟩], 0, fun _ => 150, []⟩ itemIdPaoTai1 1 .byFromLs true false
    ⟨true, true, true, 100⟩ (by decide)
  have hhead : some (-1 : Int) = some 0 := congrArg List.head? hk
  exact absurd hhead (by decide)

end SasyServer.BagCall
