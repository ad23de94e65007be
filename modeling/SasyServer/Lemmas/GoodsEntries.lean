import SasyServer.Lemmas.BagLedger

/-!
# Lemmas: the entries of a bag and their time

What a change and a report make of one entry, by the kind of its item, and what changing the first entry
of an item makes of a list.
-/

namespace SasyServer.Bag

variable {g : Nat} {v w : Goods}

/-! ## Kinds -/

/-- An item is of one kind at most. -/
theorem kinds_disjoint (g : Nat) :
    ¬(checkIsPaoTaiItem g ∧ checkIsTimeCardItem g) ∧ ¬(checkIsPaoTaiItem g ∧ checkIsSpecCannonItem g) ∧
      ¬(checkIsTimeCardItem g ∧ checkIsSpecCannonItem g) := by
  unfold checkIsPaoTaiItem checkIsTimeCardItem checkIsSpecCannonItem itemIdPaoTai1 itemIdPaoTai2
    itemIdComposeCard1 itemIdComposeCard2 itemIdSpecCannon1 itemIdSpecCannon2
  grind

/-- The timed kinds. -/
theorem not_ordinary_iff (g : Nat) :
    isOrdinary g = false ↔ checkIsTimeCardItem g ∨ checkIsPaoTaiItem g ∨ checkIsSpecCannonItem g := by
  unfold isOrdinary
  cases checkIsTimeCardItem g <;> cases checkIsPaoTaiItem g <;> cases checkIsSpecCannonItem g <;> decide

/-! ## The time of an entry -/

/-- The time of a timed item is over. -/
def expired (v : Goods) (now : Int) : Bool :=
  !isOrdinary v.goodsID && v.useTime ≠ 0 && v.endTime.any fun endTime => endTime ≤ now

/-- A timed item whose end `cmd_GoodsInfo` compares although it is missing. -/
def endless (v : Goods) : Bool := !isOrdinary v.goodsID && v.useTime ≠ 0 && v.endTime.isNone

/-- An entry whose time is over is cleared. -/
theorem info_of_expired {now : Int} (h : expired v now) : v.info now = some (⟨v.goodsID, 0, 0, 0, some 0⟩, true) := by
  simp only [expired, Bool.and_eq_true, Bool.not_eq_true', decide_eq_true_eq, Option.any_eq_true] at h
  obtain ⟨⟨hkind, huse⟩, e, he, hle⟩ := h
  simp [Goods.info, hkind, huse, he, hle]

theorem info_of_endless {now : Int} (h : endless v) : v.info now = none := by
  simp only [endless, Bool.and_eq_true, Bool.not_eq_true', decide_eq_true_eq, Option.isNone_iff_eq_none] at h
  simp [Goods.info, h.1.1, h.1.2, h.2]

/-- Any other entry is reported with the rest of its time. -/
theorem info_of_running {now : Int} (hend : ¬endless v) (hexp : ¬expired v now) :
    v.info now = some
      ({ v with useTime := if isOrdinary v.goodsID ∨ v.useTime = 0 then v.useTime else v.endTime.getD 0 - now }, false) := by
  unfold Goods.info
  by_cases hkind : isOrdinary v.goodsID
  · simp [hkind]
  by_cases huse : v.useTime = 0
  · have hv : v = { v with useTime := 0 } := by rw [← huse]
    simpa [hkind, huse] using hv
  cases he : v.endTime with
  | none => exact absurd (by simp [endless, hkind, huse, he]) hend
  | some e =>
    have hle : ¬e ≤ now := fun hle => hexp (by simp [expired, hkind, huse, he, hle])
    simp [hkind, huse, hle]

/-- Nothing is left: there is no time either. -/
theorem changeTime_of_nonpos (n now : Int) (h : v.goodsCount ≤ 0) : v.changeTime n now = { v with endTime := some 0 } := by
  unfold Goods.changeTime
  rw [if_pos h]

/-- Something is left: it has an end still to come. -/
theorem changeTime_of_pos (n now : Int) (h : 0 < v.goodsCount) : ∃ e, (v.changeTime n now).endTime = some e ∧ now < e := by
  have h1 : 0 < timeCardUseTime := by decide
  have h2 : 0 < specCannonTime := by decide
  have h3 : 0 < paoTaiUseTime := by decide
  unfold Goods.changeTime
  rw [if_neg (by omega)]
  dsimp only
  generalize timeCardUseTime = t1 at h1 ⊢
  generalize specCannonTime = t2 at h2 ⊢
  generalize paoTaiUseTime = t3 at h3 ⊢
  repeat' split
  all_goals exact ⟨_, rfl, by omega⟩

/-- The time has been set: there is an end, which is still to come if something is left. -/
theorem endTime_changeTime (v : Goods) (n now : Int) :
    ∃ e, (v.changeTime n now).endTime = some e ∧ (0 < v.goodsCount → now < e) := by
  by_cases hc : 0 < v.goodsCount
  · obtain ⟨e, he, hlt⟩ := changeTime_of_pos n now hc
    exact ⟨e, he, fun _ => hlt⟩
  · rw [changeTime_of_nonpos n now (by omega)]
    exact ⟨0, rfl, fun h => absurd h hc⟩

/-- An entry with its new counts, before its time is set. -/
def counted (v : Goods) (n : Int) (fromWhere : ItemSystemType) (bReset : Bool) : Goods :=
  { v with
    goodsCount := if checkIsPaoTaiItem v.goodsID then if 0 < n then 1 else 0
      else max 0 (if bReset then n else v.goodsCount + n)
    oldGoodsCount := if isOperatorByLoginServer fromWhere then v.oldGoodsCount + n else v.oldGoodsCount
    useTime := if checkIsPaoTaiItem v.goodsID ∧ ¬0 < n then 0 else v.useTime }

/-- A change: the counts, and then the time of a cannon or a time card. -/
theorem change_eq (v : Goods) (n : Int) (fromWhere : ItemSystemType) (bReset : Bool) (now : Int) :
    v.change n fromWhere bReset now =
      if checkIsPaoTaiItem v.goodsID ∨ checkIsTimeCardItem v.goodsID then (counted v n fromWhere bReset).changeTime n now
      else counted v n fromWhere bReset := by
  have hmax : ∀ x : Int, max 0 x = if x < 0 then 0 else x := by omega
  unfold Goods.change counted
  rw [hmax]
  by_cases hp : checkIsPaoTaiItem v.goodsID
  · by_cases hn : 0 < n <;> cases isOperatorByLoginServer fromWhere <;> simp [hp, hn]
  · by_cases hc : (if bReset then n else v.goodsCount + n) < 0 <;> cases isOperatorByLoginServer fromWhere <;> simp [hp, hc]

/-- An entry with an end still to come has not expired. -/
theorem not_expired_of_lt {e now : Int} (he : v.endTime = some e) (hlt : now < e) : ¬expired v now := by
  simp [expired, he, hlt]

/-- When the time of an entry is over after a change: none is left of a time card that had time, or a special
cannon had expired before. -/
theorem expired_change (v : Goods) (n : Int) (fromWhere : ItemSystemType) (bReset : Bool) (now : Int) :
    expired (v.change n fromWhere bReset now) now ↔
      v.useTime ≠ 0 ∧ ((checkIsTimeCardItem v.goodsID ∧ (if bReset then n else v.goodsCount + n) ≤ 0 ∧ 0 ≤ now) ∨
        (checkIsSpecCannonItem v.goodsID ∧ v.endTime.any fun endTime => endTime ≤ now)) := by
  obtain ⟨hpt, hps, hts⟩ := kinds_disjoint v.goodsID
  rw [change_eq]
  by_cases hp : checkIsPaoTaiItem v.goodsID
  · have ht : ¬checkIsTimeCardItem v.goodsID := fun ht => hpt ⟨hp, ht⟩
    have hs : ¬checkIsSpecCannonItem v.goodsID := fun hs => hps ⟨hp, hs⟩
    rw [if_pos (Or.inl hp)]
    refine iff_of_false ?_ fun h => h.2.elim (fun h => ht h.1) fun h => hs h.1
    by_cases hn : 0 < n
    · obtain ⟨e, he, hlt⟩ := changeTime_of_pos n now (v := counted v n fromWhere bReset) (by simp [counted, hp, hn])
      exact not_expired_of_lt he hlt
    · rw [changeTime_of_nonpos n now (by simp [counted, hp, hn])]
      simp [expired, counted, hp, hn]
  by_cases ht : checkIsTimeCardItem v.goodsID
  · have hs : ¬checkIsSpecCannonItem v.goodsID := fun hs => hts ⟨ht, hs⟩
    have hkind : isOrdinary v.goodsID = false := (not_ordinary_iff _).2 (Or.inl ht)
    rw [if_pos (Or.inr ht)]
    by_cases hc : (if bReset then n else v.goodsCount + n) ≤ 0
    · rw [changeTime_of_nonpos n now (by simp [counted, hp]; omega)]
      simp [expired, counted, hp, ht, hs, hc, hkind]
    · obtain ⟨e, he, hlt⟩ := changeTime_of_pos n now (v := counted v n fromWhere bReset) (by simp [counted, hp]; omega)
      exact iff_of_false (not_expired_of_lt he hlt) fun h => h.2.elim (fun h => hc h.2.1) fun h => hs h.1
  · rw [if_neg (not_or.2 ⟨hp, ht⟩)]
    cases hs : checkIsSpecCannonItem v.goodsID <;> simp [expired, counted, isOrdinary, hp, ht, hs]

/-- Only a special cannon is without an end after a change, if it has been without one before. -/
theorem endless_change (v : Goods) (n : Int) (fromWhere : ItemSystemType) (bReset : Bool) (now : Int) :
    endless (v.change n fromWhere bReset now) ↔ checkIsSpecCannonItem v.goodsID ∧ v.useTime ≠ 0 ∧ v.endTime = none := by
  obtain ⟨hpt, hps, hts⟩ := kinds_disjoint v.goodsID
  rw [change_eq]
  split
  · rename_i hk
    have hs : ¬checkIsSpecCannonItem v.goodsID := fun hs => hk.elim (fun hp => hps ⟨hp, hs⟩) fun ht => hts ⟨ht, hs⟩
    refine iff_of_false ?_ fun h => hs h.1
    obtain ⟨e, he, -⟩ := endTime_changeTime (counted v n fromWhere bReset) n now
    simp [endless, he]
  · rename_i hk
    rw [not_or] at hk
    cases hs : checkIsSpecCannonItem v.goodsID <;> simp [endless, counted, isOrdinary, hk.1, hk.2, hs]

/-- What `cmd_GoodsInfo` makes of the entry it finds. -/
def informed (v : Goods) (now : Int) : Goods := ((v.info now).map Prod.fst).getD v

theorem goodsID_informed (v : Goods) (now : Int) : (informed v now).goodsID = v.goodsID := by
  unfold informed
  cases hi : v.info now with
  | none => rfl
  | some r => simpa using Goods.goodsID_info hi

/-- The count of an entry that `cmd_GoodsInfo` has looked at. -/
theorem goodsCount_informed (v : Goods) (now : Int) :
    (informed v now).goodsCount = if expired v now then 0 else v.goodsCount := by
  unfold informed
  by_cases hexp : expired v now
  · simp [info_of_expired hexp, hexp]
  by_cases hend : endless v
  · simp [info_of_endless hend, hexp]
  · simp [info_of_running hend hexp, hexp]

/-- An entry that has time after it has been reported had time before, with the same end. -/
theorem useTime_informed {now : Int} (h : (informed v now).useTime ≠ 0) :
    ¬expired v now ∧ v.useTime ≠ 0 ∧ (informed v now).endTime = v.endTime := by
  unfold informed at h ⊢
  by_cases hexp : expired v now
  · simp [info_of_expired hexp] at h
  by_cases hend : endless v
  · rw [info_of_endless hend] at h ⊢
    exact ⟨hexp, h, rfl⟩
  · rw [info_of_running hend hexp] at h ⊢
    refine ⟨hexp, fun huse => h ?_, rfl⟩
    simp [huse]

/-! ## Entries in their place -/

section Entries

variable {list : List Goods}

/-- The entry that is found is one of the item. -/
theorem goodsID_of_find (h : findGoods list g = some v) : v.goodsID = g := by simpa using List.find?_some h

/-- A step of a search that goes on. -/
theorem findGoods_cons_of_ne {x : Goods} (hx : x.goodsID ≠ g) : findGoods (x :: list) g = findGoods list g :=
  List.find?_cons_of_neg (by simpa using hx)

theorem findGoods_cons_self {x : Goods} (hx : x.goodsID = g) : findGoods (x :: list) g = some x :=
  List.find?_cons_of_pos (by simpa using hx)

theorem setGoods_cons_of_ne {x : Goods} (hx : x.goodsID ≠ w.goodsID) : setGoods (x :: list) w = x :: setGoods list w := by
  unfold setGoods
  rw [changeFirst, if_neg hx]
  cases changeFirst w.goodsID (fun _ => w) list <;> rfl

theorem setGoods_cons_self {x : Goods} (hx : x.goodsID = w.goodsID) : setGoods (x :: list) w = w :: list := by
  unfold setGoods
  rw [changeFirst, if_pos hx, Option.getD_some]

/-- The entry that is found, in its place. -/
theorem setGoods_eq_set (h : findGoods list g = some v) :
    ∃ k, list[k]? = some v ∧ ∀ w : Goods, w.goodsID = g → setGoods list w = list.set k w := by
  induction list with
  | nil => cases h
  | cons x list ih =>
    by_cases hx : x.goodsID = g
    · rw [findGoods_cons_self hx, Option.some.injEq] at h
      exact ⟨0, by simp [h], fun w hw => setGoods_cons_self (hx.trans hw.symm)⟩
    · rw [findGoods_cons_of_ne hx] at h
      obtain ⟨k, hk, hset⟩ := ih h
      exact ⟨k + 1, by simpa using hk, fun w hw => by rw [setGoods_cons_of_ne (hw ▸ hx), hset w hw, List.set_cons_succ]⟩

/-- The entry after a change. -/
theorem findGoods_setGoods (h : findGoods list w.goodsID = some v) : findGoods (setGoods list w) w.goodsID = some w := by
  induction list with
  | nil => cases h
  | cons x list ih =>
    by_cases hx : x.goodsID = w.goodsID
    · rw [setGoods_cons_self hx, findGoods_cons_self rfl]
    · rw [findGoods_cons_of_ne hx] at h
      rw [setGoods_cons_of_ne hx, findGoods_cons_of_ne hx, ih h]

/-- The entries of the other items stay what they are. -/
theorem findGoods_setGoods_of_ne (hne : g ≠ w.goodsID) : findGoods (setGoods list w) g = findGoods list g := by
  induction list with
  | nil => rfl
  | cons x list ih =>
    by_cases hx : x.goodsID = w.goodsID
    · rw [setGoods_cons_self hx, findGoods_cons_of_ne hne.symm, findGoods_cons_of_ne (fun h => hne (h.symm.trans hx))]
    · rw [setGoods_cons_of_ne hx]
      by_cases hg : x.goodsID = g
      · rw [findGoods_cons_self hg, findGoods_cons_self hg]
      · rw [findGoods_cons_of_ne hg, findGoods_cons_of_ne hg, ih]

/-- The items of a bag stay the same. -/
theorem goodsIDs_setGoods (list : List Goods) (w : Goods) :
    (setGoods list w).map Goods.goodsID = list.map Goods.goodsID := by
  induction list with
  | nil => rfl
  | cons x list ih =>
    by_cases hx : x.goodsID = w.goodsID
    · rw [setGoods_cons_self hx, List.map_cons, List.map_cons, hx]
    · rw [setGoods_cons_of_ne hx, List.map_cons, List.map_cons, ih]

/-- Two changes of an entry, one after the other. -/
theorem setGoods_setGoods {w' : Goods} (hw : w.goodsID = w'.goodsID) (list : List Goods) :
    setGoods (setGoods list w) w' = setGoods list w' := by
  induction list with
  | nil => rfl
  | cons x list ih =>
    by_cases hx : x.goodsID = w.goodsID
    · rw [setGoods_cons_self hx, setGoods_cons_self hw, setGoods_cons_self (hx.trans hw)]
    · rw [setGoods_cons_of_ne hx, setGoods_cons_of_ne (hw ▸ hx), setGoods_cons_of_ne (hw ▸ hx), ih]

/-- An entry that changes to itself. -/
theorem setGoods_self (h : findGoods list g = some v) : setGoods list v = list := by
  have hv := goodsID_of_find h
  induction list with
  | nil => rfl
  | cons x list ih =>
    by_cases hx : x.goodsID = g
    · rw [findGoods_cons_self hx, Option.some.injEq] at h
      rw [setGoods_cons_self (hx.trans hv.symm), h]
    · rw [findGoods_cons_of_ne hx] at h
      rw [setGoods_cons_of_ne (hv ▸ hx), ih h]

end Entries

end SasyServer.Bag
