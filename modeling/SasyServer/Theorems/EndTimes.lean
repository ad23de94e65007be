import SasyServer.Lemmas.BagCalls
import SasyServer.Lemmas.LoginCalls

/-!
# Theorem: when the end of a timed item is the one that was last sent to the database

A timed item with time left has its `endTime` in the entry and its `EndTime` in `t_bag`. The two are kept together as long as
no timed item is added to a bag that has no entry of it, and the time cards that are taken do not change their end; on the
login server, moreover, an expired special cannon is not cleared.
-/

namespace SasyServer.Bag

/-- A timed entry with time left has the end `endTime`. -/
def HasEnd (endTime : Int) (v : Goods) : Prop := isOrdinary v.goodsID = false → v.useTime ≠ 0 → v.endTime = some endTime

/-- The ends of the entries are those that were last sent, and what had expired was reported with none left. -/
structure TimesRight (goods : List Goods) (endTimes : Nat → Int) (reports : List Report) : Prop where
  ends : ∀ v ∈ goods, HasEnd (endTimes v.goodsID) v
  reported : ∀ r ∈ reports, expired r.found r.now → r.sent.goodsCount = 0

/-- The invariant: the items of a bag are different ones as well. -/
structure Times (goods : List Goods) (endTimes : Nat → Int) (reports : List Report) :
    Prop extends TimesRight goods endTimes reports where
  nodup : (goods.map Goods.goodsID).Nodup

variable {goods : List Goods} {endTimes : Nat → Int} {reports : List Report} {v w : Goods} {g : Nat}

/-- An entry without time. -/
theorem hasEnd_of_useTime {e : Int} (h : v.useTime = 0) : HasEnd e v := fun _ huse => absurd h huse

/-- The entries after one has changed. -/
theorem mem_setGoods (hnodup : (goods.map Goods.goodsID).Nodup) {u : Goods} (hu : u ∈ setGoods goods w) :
    u = w ∨ u ∈ goods ∧ u.goodsID ≠ w.goodsID := by
  induction goods with
  | nil => cases hu
  | cons x goods ih =>
    obtain ⟨hx, hnodup⟩ := List.nodup_cons.1 hnodup
    by_cases hid : x.goodsID = w.goodsID
    · rw [setGoods_cons_self hid] at hu
      obtain rfl | hu := List.mem_cons.1 hu
      · exact Or.inl rfl
      · refine Or.inr ⟨List.mem_cons_of_mem x hu, fun h => hx ?_⟩
        rw [hid, ← h]
        exact List.mem_map_of_mem hu
    · rw [setGoods_cons_of_ne hid] at hu
      obtain rfl | hu := List.mem_cons.1 hu
      · exact Or.inr ⟨List.mem_cons_self, hid⟩
      · obtain h | ⟨h, hne⟩ := ih hnodup hu
        · exact Or.inl h
        · exact Or.inr ⟨List.mem_cons_of_mem x h, hne⟩

/-- An entry that changes, with the end that is sent for it; what it has been does not matter. -/
theorem times_set (hnodup : (goods.map Goods.goodsID).Nodup)
    (hother : ∀ u ∈ goods, u.goodsID ≠ w.goodsID → HasEnd (endTimes u.goodsID) u)
    (hreports : ∀ r ∈ reports, expired r.found r.now → r.sent.goodsCount = 0) {e : Int} (hw : HasEnd e w) :
    Times (setGoods goods w) (Function.update endTimes w.goodsID e) reports := by
  refine ⟨⟨fun u hu => ?_, hreports⟩, by rwa [goodsIDs_setGoods]⟩
  obtain rfl | ⟨hu, hne⟩ := mem_setGoods hnodup hu
  · rw [Function.update_self]
    exact hw
  · rw [Function.update_of_ne hne]
    exact hother u hu hne

/-- An entry that changes while nothing is sent. -/
theorem times_set_kept (hnodup : (goods.map Goods.goodsID).Nodup)
    (hother : ∀ u ∈ goods, u.goodsID ≠ w.goodsID → HasEnd (endTimes u.goodsID) u)
    (hreports : ∀ r ∈ reports, expired r.found r.now → r.sent.goodsCount = 0) (hw : HasEnd (endTimes w.goodsID) w) :
    Times (setGoods goods w) endTimes reports := by
  have h := times_set hnodup hother hreports hw
  rwa [Function.update_eq_self] at h

theorem Times.other (h : Times goods endTimes reports) (w : Goods) :
    ∀ u ∈ goods, u.goodsID ≠ w.goodsID → HasEnd (endTimes u.goodsID) u :=
  fun u hu _ => h.ends u hu

/-- An entry of a missing item. -/
theorem Times.append (h : Times goods endTimes reports) (hmiss : findGoods goods w.goodsID = none) {e : Int}
    (hw : HasEnd e w) :
    Times (goods ++ [w]) (Function.update endTimes w.goodsID e) reports := by
  have hne : ∀ u ∈ goods, u.goodsID ≠ w.goodsID := fun u hu => by simpa using List.find?_eq_none.1 hmiss u hu
  refine ⟨⟨fun u hu => ?_, h.reported⟩, ?_⟩
  · obtain hu | hu := List.mem_append.1 hu
    · rw [Function.update_of_ne (hne u hu)]
      exact h.ends u hu
    · rw [List.mem_singleton.1 hu, Function.update_self]
      exact hw
  · rw [List.map_append, List.nodup_append]
    refine ⟨h.nodup, List.nodup_singleton _, fun a ha b hb => ?_⟩
    obtain ⟨u, hu, rfl⟩ := List.mem_map.1 ha
    rw [List.mem_singleton.1 hb]
    exact hne u hu

/-- A report that is right. -/
theorem Times.report (h : Times goods endTimes reports) {r : Report} (hr : expired r.found r.now → r.sent.goodsCount = 0) :
    Times goods endTimes (r :: reports) :=
  ⟨⟨h.ends, List.forall_mem_cons.2 ⟨hr, h.reported⟩⟩, h.nodup⟩

section Report

variable (hnodup : (goods.map Goods.goodsID).Nodup)
    (hother : ∀ u ∈ goods, u.goodsID ≠ v.goodsID → HasEnd (endTimes u.goodsID) u)
  (hreports : ∀ r ∈ reports, expired r.found r.now → r.sent.goodsCount = 0)

/-- An entry that has its end or has expired is not without an end. -/
theorem not_endless {e now : Int} (h : HasEnd e v ∨ expired v now) : ¬endless v := by
  intro hend
  simp only [endless, Bool.and_eq_true, Bool.not_eq_true', decide_eq_true_eq, Option.isNone_iff_eq_none] at hend
  obtain h | h := h
  · exact absurd (h hend.1.1 hend.1.2) (by simp [hend.2])
  · simp [expired, hend.2] at h

include hnodup hother hreports

/-- The bag as it is, when the entry has its end as the others have. -/
theorem times_of_find (hv : findGoods goods v.goodsID = some v) (h : HasEnd (endTimes v.goodsID) v) :
    Times goods endTimes reports := by
  refine ⟨⟨fun u hu => ?_, hreports⟩, hnodup⟩
  by_cases hg : u.goodsID = v.goodsID
  · rw [List.inj_on_of_nodup_map hnodup hu (List.mem_of_find?_eq_some hv) hg]
    exact h
  · exact hother u hu hg

/-- A report that clears the entry. -/
theorem times_cleared (now : Int) :
    Times (setGoods goods ⟨v.goodsID, 0, 0, 0, some 0⟩) (Function.update endTimes v.goodsID 0)
      (⟨v, ⟨v.goodsID, 0, 0, 0, some 0⟩, now⟩ :: reports) :=
  (times_set (w := ⟨v.goodsID, 0, 0, 0, some 0⟩) (e := 0) hnodup hother hreports (hasEnd_of_useTime rfl)).report fun _ => rfl

/-- A report of an entry whose time is not over. -/
theorem times_running (h : HasEnd (endTimes v.goodsID) v) {now : Int} (hexp : ¬expired v now) :
    Times
      (setGoods goods
        { v with useTime := if isOrdinary v.goodsID ∨ v.useTime = 0 then v.useTime else v.endTime.getD 0 - now }) endTimes
      (⟨v, { v with useTime := if isOrdinary v.goodsID ∨ v.useTime = 0 then v.useTime else v.endTime.getD 0 - now }, now⟩ ::
        reports) := by
  let w : Goods := { v with useTime := if isOrdinary v.goodsID ∨ v.useTime = 0 then v.useTime else v.endTime.getD 0 - now }
  have hw : HasEnd (endTimes w.goodsID) w := fun hkind huse => h hkind fun h0 => huse (by simp [w, h0])
  exact (times_set_kept (w := w) hnodup hother hreports hw).report fun h => absurd h hexp

end Report

/-- The condition on a change of time cards that takes some: those that remain have an end still to come, and where none
remains there was no time, or no end in the database, or the user is online and told. -/
def takesCardsSafely (endTime : Int) (v : Goods) (n : Int) (bReset told : Bool) (now : Int) : Bool :=
  let goodsCount := if bReset then n else v.goodsCount + n
  if goodsCount ≤ 0 then v.useTime = 0 ∨ endTime = 0 ∨ (told ∧ 0 ≤ now) else v.endTime.any fun e => now < e

/-- Time cards of which some are taken, while others remain whose time is not over: the end stays. -/
theorem changeTime_of_taken {n now e : Int} (ht : checkIsTimeCardItem v.goodsID) (hn : n < 0) (hc : 0 < v.goodsCount)
    (he : v.endTime = some e) (hlt : now < e) :
    v.changeTime n now = v := by
  unfold Goods.changeTime
  rw [if_neg (by omega)]
  simp only [he, Option.getD_some, ht, if_true, if_neg (show ¬e ≤ now by omega), if_neg (show ¬n > 0 by omega)]
  rw [← he]

/-- Time cards of which some are taken, `w` with the new count: the entry keeps its end, or it is going to be cleared. -/
theorem hasEnd_taken {n now endTime : Int} {bReset told : Bool} (hv : HasEnd endTime v)
    (ht : checkIsTimeCardItem v.goodsID) (hn : n < 0) (hid : w.goodsID = v.goodsID) (huse : w.useTime = v.useTime)
    (hend : w.endTime = v.endTime) (hcount : w.goodsCount ≤ 0 ↔ (if bReset then n else v.goodsCount + n) ≤ 0)
    (hsafe : takesCardsSafely endTime v n bReset told now) :
    HasEnd endTime (w.changeTime n now) ∨ told ∧ expired (w.changeTime n now) now := by
  unfold takesCardsSafely at hsafe
  by_cases hnone : (if bReset then n else v.goodsCount + n) ≤ 0
  · simp only [hnone, if_true, decide_eq_true_eq] at hsafe
    rw [changeTime_of_nonpos n now (hcount.2 hnone)]
    obtain h0 | h0 | ⟨htold, hnow⟩ := hsafe
    · exact Or.inl (hasEnd_of_useTime (huse.trans h0))
    · exact Or.inl fun _ _ => congrArg some h0.symm
    · by_cases h0 : v.useTime = 0
      · exact Or.inl (hasEnd_of_useTime (huse.trans h0))
      · refine Or.inr ⟨htold, ?_⟩
        have hkind : isOrdinary v.goodsID = false := (not_ordinary_iff _).2 (Or.inl ht)
        simp [expired, hid, hkind, huse, h0, hnow]
  · simp only [hnone, if_false, Option.any_eq_true, decide_eq_true_eq] at hsafe
    obtain ⟨e, he, hlt⟩ := hsafe
    rw [changeTime_of_taken (hid ▸ ht) hn (by omega) (hend.trans he) hlt]
    refine Or.inl fun hkind hw => ?_
    rw [hend]
    exact hv (hid ▸ hkind) (huse ▸ hw)

end SasyServer.Bag

/-! ## The game server -/

namespace SasyServer.BagCall

open Bag

variable {b : UserBag} {g : Nat} {v w : Goods}

/-- The condition on a call: what is added is not timed, or none of it, and time cards are taken safely. -/
def timesSafe (b : UserBag) : Call → Bool
  | .changeItemCount g n _ bNeedNotify bReset a =>
    match b.find g with
    | none => isOrdinary g || n = 0
    | some v =>
      !(checkIsTimeCardItem g && n < 0) || takesCardsSafely (b.endTimes g) v n bReset (bNeedNotify && a.online) a.now
  | _ => true

/-- A report of an entry that has its end, or that has expired and is cleared. -/
theorem times_goodsInfo (hv : b.find g = some v) (hnodup : (b.goods.map Goods.goodsID).Nodup)
    (hother : ∀ u ∈ b.goods, u.goodsID ≠ g → HasEnd (b.endTimes u.goodsID) u)
    (hreports : ∀ r ∈ b.reports, expired r.found r.now → r.sent.goodsCount = 0) (a : Answers)
    (h : HasEnd (b.endTimes g) v ∨ a.online ∧ expired v a.now) :
    (goodsInfo b g a).failure = none ∧
      Times (goodsInfo b g a).state.goods (goodsInfo b g a).state.endTimes (goodsInfo b g a).state.reports := by
  obtain rfl : v.goodsID = g := goodsID_of_find hv
  have hend : ¬endless v := not_endless (h.imp_right fun h => h.2)
  unfold goodsInfo
  by_cases hon : a.online
  swap
  · rw [if_neg hon]
    exact ⟨rfl, times_of_find hnodup hother hreports hv (h.resolve_right fun h => hon h.1)⟩
  simp only [hon, if_true, hv]
  by_cases hexp : expired v a.now
  · simp only [info_of_expired hexp, if_true]
    exact ⟨rfl, times_cleared hnodup hother hreports a.now⟩
  · simp only [info_of_running hend hexp, Bool.false_eq_true, if_false]
    exact ⟨rfl, times_running hnodup hother hreports (h.resolve_right fun h => hexp h.2) hexp⟩

/-- What is not sent: the entry keeps its end, or it is going to be cleared. -/
theorem hasEnd_change {endTime : Int} (hv : HasEnd endTime v) (fromWhere : ItemSystemType) {n : Int}
    {bNeedNotify bReset : Bool} {a : Answers} (hsend : ¬sendsEndTime v.goodsID n)
    (hc : ¬(checkIsTimeCardItem v.goodsID ∧ n < 0) ∨ takesCardsSafely endTime v n bReset (bNeedNotify && a.online) a.now) :
    HasEnd endTime (v.change n fromWhere bReset a.now) ∨
      bNeedNotify ∧ a.online ∧ expired (v.change n fromWhere bReset a.now) a.now := by
  by_cases ht : checkIsTimeCardItem v.goodsID ∧ n < 0
  swap
  · have hk : ¬(checkIsPaoTaiItem v.goodsID ∨ checkIsTimeCardItem v.goodsID) := by
      intro hk
      refine hsend ?_
      simp only [sendsEndTime, Bool.and_eq_true, Bool.or_eq_true, Bool.not_eq_true', Bool.and_eq_false_iff,
        decide_eq_false_iff_not]
      exact ⟨hk, by simpa [imp_iff_not_or] using not_and.1 ht⟩
    rw [change_eq, if_neg hk]
    refine Or.inl fun hkind huse => hv hkind ?_
    simpa [counted, (not_or.1 hk).1] using huse
  have hp : ¬checkIsPaoTaiItem v.goodsID := fun hp => (kinds_disjoint v.goodsID).1 ⟨hp, ht.1⟩
  rw [change_eq, if_pos (Or.inr ht.1)]
  have hcount : (counted v n fromWhere bReset).goodsCount ≤ 0 ↔ (if bReset then n else v.goodsCount + n) ≤ 0 := by
    simp only [counted, hp, Bool.false_eq_true, if_false]
    omega
  have htaken := hasEnd_taken (w := counted v n fromWhere bReset) hv ht.1 ht.2 rfl (by simp [counted, hp]) rfl hcount
    (hc.resolve_left fun h => h ht)
  simpa only [Bool.and_eq_true, and_assoc] using htaken

/-- A change that finds an entry. -/
theorem times_changeItemCount (hv : b.find g = some v) (h : Times b.goods b.endTimes b.reports) {n : Int}
    {bNeedNotify bReset : Bool} {a : Answers}
    (hc : ¬(checkIsTimeCardItem g ∧ n < 0) ∨ takesCardsSafely (b.endTimes g) v n bReset (bNeedNotify && a.online) a.now)
    (fromWhere : ItemSystemType) :
    (changeItemCount b g n fromWhere bNeedNotify bReset a).failure = none ∧
      Times (changeItemCount b g n fromWhere bNeedNotify bReset a).state.goods
        (changeItemCount b g n fromWhere bNeedNotify bReset a).state.endTimes
        (changeItemCount b g n fromWhere bNeedNotify bReset a).state.reports := by
  obtain rfl : v.goodsID = g := goodsID_of_find hv
  have hwid : (v.change n fromWhere bReset a.now).goodsID = v.goodsID := Goods.goodsID_change _ _ _ _ _
  -- the bag before the notification: the entry has its end, or the notification is going to clear it
  have hentry : (changeEntry b v.goodsID n fromWhere bReset a.now).goods =
    setGoods b.goods (v.change n fromWhere bReset a.now) ∧
      (changeEntry b v.goodsID n fromWhere bReset a.now).reports = b.reports ∧
      (∀ g, g ≠ v.goodsID → (changeEntry b v.goodsID n fromWhere bReset a.now).endTimes g = b.endTimes g) ∧
      (HasEnd ((changeEntry b v.goodsID n fromWhere bReset a.now).endTimes v.goodsID) (v.change n fromWhere bReset a.now) ∨
        bNeedNotify ∧ a.online ∧ expired (v.change n fromWhere bReset a.now) a.now) := by
    have hmem := h.ends v (List.mem_of_find?_eq_some hv)
    refine ⟨goods_changeEntry hv n fromWhere bReset a.now, ?_⟩
    simp only [changeEntry, hv]
    by_cases hsend : sendsEndTime v.goodsID n
    · rw [if_pos hsend]
      refine ⟨rfl, fun g hg => Function.update_of_ne hg _ _, Or.inl fun _ _ => ?_⟩
      simp only [sendsEndTime, Bool.and_eq_true, Bool.or_eq_true] at hsend
      obtain ⟨e, he, -⟩ := endTime_changeTime (counted v n fromWhere bReset) n a.now
      rw [change_eq, if_pos hsend.1]
      simp [UserBag.sendEndTime, he]
    · rw [if_neg hsend]
      exact ⟨rfl, fun _ _ => rfl, hasEnd_change hmem fromWhere hsend hc⟩
  obtain ⟨hgoods, hrep, hends, hlast⟩ := hentry
  have hfind := find_changeEntry hv n fromWhere bReset a.now
  have hnodup : ((changeEntry b v.goodsID n fromWhere bReset a.now).goods.map Goods.goodsID).Nodup := by
    rw [hgoods, goodsIDs_setGoods]
    exact h.nodup
  have hother : ∀ u ∈ (changeEntry b v.goodsID n fromWhere bReset a.now).goods, u.goodsID ≠ v.goodsID →
      HasEnd ((changeEntry b v.goodsID n fromWhere bReset a.now).endTimes u.goodsID) u := by
    intro u hu hne
    rw [hgoods] at hu
    obtain rfl | ⟨hu, -⟩ := mem_setGoods h.nodup hu
    · exact absurd hwid hne
    · rw [hends _ hne]
      exact h.ends u hu
  unfold BagCall.changeItemCount
  cases bNeedNotify with
  | true => exact times_goodsInfo hfind hnodup hother (by rw [hrep]; exact h.reported) a (hlast.imp_right fun h => h.2)
  | false =>
    refine ⟨rfl, ⟨fun u hu => ?_, by rw [← hrep] at h; exact h.reported⟩, hnodup⟩
    by_cases hg : u.goodsID = v.goodsID
    · rw [hg, List.inj_on_of_nodup_map hnodup hu (List.mem_of_find?_eq_some hfind) (hg.trans hwid.symm)]
      exact hlast.resolve_right fun h => by simp at h
    · exact hother u hu hg

/-- A change that finds no entry adds one without time. -/
theorem times_addItem (hv : b.find g = none) (h : Times b.goods b.endTimes b.reports) {n : Int} (hc : isOrdinary g ∨ n = 0)
    (fromWhere : ItemSystemType) (bNeedNotify bReset : Bool) (a : Answers) :
    (changeItemCount b g n fromWhere bNeedNotify bReset a).failure = none ∧
      Times (changeItemCount b g n fromWhere bNeedNotify bReset a).state.goods
        (changeItemCount b g n fromWhere bNeedNotify bReset a).state.endTimes
        (changeItemCount b g n fromWhere bNeedNotify bReset a).state.reports := by
  have hno : (Goods.added g n).useTime = 0 := by
    obtain hc | rfl := hc
    · simp only [isOrdinary, Bool.and_eq_true, Bool.not_eq_true'] at hc
      simp [Goods.added, hc.1.1, hc.1.2, hc.2]
    · simp [Goods.added]
  have hadded : Times (addItemToBag b g n a.now).goods (addItemToBag b g n a.now).endTimes
    (addItemToBag b g n a.now).reports :=
    h.append (w := Goods.added g n) hv (hasEnd_of_useTime hno)
  have hfind : (addItemToBag b g n a.now).find g = some (Goods.added g n) := by
    have hnone : b.goods.find? (fun v => v.goodsID = g) = none := hv
    show findGoods (b.goods ++ [Goods.added g n]) g = _
    rw [findGoods, List.find?_append, hnone]
    simp [Goods.added]
  unfold BagCall.changeItemCount
  simp only [changeEntry, hv]
  cases bNeedNotify with
  | true =>
    exact times_goodsInfo hfind hadded.nodup (fun u hu _ => hadded.ends u hu) hadded.reported a
      (Or.inl (hasEnd_of_useTime hno))
  | false => exact ⟨rfl, hadded⟩

/-- The rows of a bag. -/
theorem times_load (h : Times b.goods b.endTimes b.reports) {rows : List (Nat × Int)}
    (hrows : (rows.map Prod.fst).Nodup) (now : Int) :
    Times (loadUserItem b rows now).goods (loadUserItem b rows now).endTimes (loadUserItem b rows now).reports := by
  refine ⟨⟨fun v hv => ?_, h.reported⟩, ?_⟩
  · obtain ⟨r, hr, rfl⟩ := List.mem_map.1 hv
    rw [goodsID_loadRow]
    intro _ huse
    unfold loadRow at huse ⊢
    by_cases h0 : b.endTimes r.1 = 0
    · simp [h0] at huse
    by_cases hle : b.endTimes r.1 ≤ now
    · simp [h0, hle] at huse
    · simp [loadUserItem, h0, hle]
  · have hmap : (loadUserItem b rows now).goods.map Goods.goodsID = rows.map Prod.fst := by
      simp only [loadUserItem, List.map_map]
      exact List.map_congr_left fun r _ => goodsID_loadRow now r.1 r.2 _
    rw [hmap]
    exact hrows

/-- What holds throughout a run on the game server. -/
structure Right (s : Service) : Prop where
  times : Times s.bag.goods s.bag.endTimes s.bag.reports
  compares : Failure.endTime ∉ s.failures

/-- One call keeps it, under the condition. -/
theorem Right.step {s s' : Service} (h : Right s) {c : Call} (hc : timesSafe s.bag c)
    (hs : step s c = some s') : Right s' := by
  unfold BagCall.step at hs
  split at hs
  case isFalse => cases hs
  rename_i hguard
  cases hs
  have hcall : (c.run s.bag).failure ≠ some .endTime ∧
      Times (c.run s.bag).state.goods (c.run s.bag).state.endTimes (c.run s.bag).state.reports := by
    cases c with
    | loadUserItem rows now => exact ⟨Attempt.failure_ok_ne _ _, times_load h.times (of_decide_eq_true hguard.2) now⟩
    | changeItemCount g n fromWhere bNeedNotify bReset a =>
      cases hv : s.bag.find g with
      | none =>
        have hcond : isOrdinary g ∨ n = 0 := by simpa [timesSafe, hv] using hc
        obtain ⟨hf, ht⟩ := times_addItem hv h.times hcond fromWhere bNeedNotify bReset a
        exact ⟨fun heq => by simp [Call.run, hf] at heq, ht⟩
      | some v =>
        have hcond : ¬(checkIsTimeCardItem g ∧ n < 0) ∨
            takesCardsSafely (s.bag.endTimes g) v n bReset (bNeedNotify && a.online) a.now := by
          simpa [timesSafe, hv, imp_iff_not_or] using hc
        obtain ⟨hf, ht⟩ := times_changeItemCount hv h.times hcond fromWhere
        exact ⟨fun heq => by simp [Call.run, hf] at heq, ht⟩
    | goodsInfo g a =>
      cases hv : s.bag.find g with
      | none =>
        have hsame : goodsInfo s.bag g a = .ok s.bag := by simp [goodsInfo, hv]
        simp only [Call.run, hsame]
        exact ⟨Attempt.failure_ok_ne _ _, h.times⟩
      | some v =>
        have hend := h.times.ends v (List.mem_of_find?_eq_some hv)
        rw [goodsID_of_find hv] at hend
        obtain ⟨hf, ht⟩ :=
          times_goodsInfo hv h.times.nodup (fun u hu _ => h.times.ends u hu) h.times.reported a (Or.inl hend)
        exact ⟨fun heq => by simp [Call.run, hf] at heq, ht⟩
  refine ⟨hcall.2, fun hmem => ?_⟩
  obtain hmem | hmem := List.mem_append.1 hmem
  · exact hcall.1 (by simpa using hmem)
  · exact h.compares hmem

end SasyServer.BagCall

/-! ## The login server -/

namespace SasyServer.LoginCall

open Bag

variable {b : UserBag} {g : Nat} {v w : Goods}

/-- The user's record is found and has an agent. -/
def Answers.online (a : Answers) : Bool := a.user.any LoginUser.hasAgent

/-- The condition on a call: what is added is no cannon and no time card, or none of it, time cards are taken safely, and no
special cannon is reported whose time is over. -/
def timesSafe (b : UserBag) : Call → Bool
  | .changeItemCount g n _ a =>
    match b.find g with
    | none => !isTimed g || n = 0
    | some v =>
      !(checkIsTimeCardItem g && n < 0 && (writeRows b.itemCounts g n a.dbError).2 = 0) ||
        takesCardsSafely (b.endTimes g) v n false (needsNotify a.user && a.online) a.now
  | .goodsInfo g a => !(checkIsSpecCannonItem g && a.online) || (b.find g).all fun v => !expired v a.now || v.goodsCount = 0
  | _ => true

/-- A report of an entry that has its end, or that has expired and is cleared; a special cannon that has
expired has been used up. -/
theorem times_goodsInfo (hv : b.find g = some v) (hnodup : (b.goods.map Goods.goodsID).Nodup)
    (hother : ∀ u ∈ b.goods, u.goodsID ≠ g → HasEnd (b.endTimes u.goodsID) u)
    (hreports : ∀ r ∈ b.reports, expired r.found r.now → r.sent.goodsCount = 0) (a : Answers)
    (h : HasEnd (b.endTimes g) v ∨ a.online ∧ isTimed g ∧ expired v a.now)
    (hspec : a.online → ¬isTimed g → expired v a.now → v.goodsCount = 0) :
    (goodsInfo b g a).failure ≠ some .endTime ∧
      Times (goodsInfo b g a).state.goods (goodsInfo b g a).state.endTimes (goodsInfo b g a).state.reports := by
  obtain rfl : v.goodsID = g := goodsID_of_find hv
  have hend : ¬endless v := not_endless (h.imp_right fun h => h.2.2)
  unfold goodsInfo
  unfold Answers.online at h hspec
  cases hu : a.user with
  | none =>
    exact ⟨(by simp [Attempt.fail]), times_of_find hnodup hother hreports hv (h.resolve_right fun h => by simp [hu] at h)⟩
  | some u =>
    rw [hu, Option.any_some] at h hspec
    by_cases hag : u.hasAgent
    swap
    · simp only [hag, Bool.false_eq_true, not_false_eq_true, if_true]
      exact ⟨Attempt.failure_ok_ne _ _, times_of_find hnodup hother hreports hv (h.resolve_right fun h => hag h.1)⟩
    simp only [hag, hv, not_true_eq_false, if_false]
    by_cases hk : checkIsPaoTaiItem v.goodsID ∨ checkIsTimeCardItem v.goodsID
    swap
    · have hnot : ¬isTimed v.goodsID := by simpa [isTimed] using not_or.1 hk
      have hv' : HasEnd (b.endTimes v.goodsID) v := h.resolve_right fun h => hnot h.2.1
      rw [if_neg hk]
      exact ⟨Attempt.failure_ok_ne _ _, (times_of_find hnodup hother hreports hv hv').report (r := ⟨v, v, a.now⟩)
        fun hexp => hspec hag hnot hexp⟩
    rw [if_pos hk]
    by_cases hexp : expired v a.now
    · simp only [info_of_expired hexp, if_true]
      exact ⟨Attempt.failure_ok_ne _ _, times_cleared hnodup hother hreports a.now⟩
    · simp only [info_of_running hend hexp, Bool.false_eq_true, if_false]
      exact ⟨Attempt.failure_ok_ne _ _, times_running hnodup hother hreports (h.resolve_right fun h => hexp h.2.2) hexp⟩

/-- Nothing that `changeGoods` does touches the end of an entry, and it takes no time but all of it. -/
theorem changeGoods_fields (v : Goods) (n : Int) :
    (LoginBag.changeGoods v n).endTime = v.endTime ∧
      ((LoginBag.changeGoods v n).useTime = 0 ∨ (LoginBag.changeGoods v n).useTime = v.useTime) ∧
        0 ≤ (LoginBag.changeGoods v n).goodsCount := by
  unfold LoginBag.changeGoods
  dsimp only
  repeat' split
  all_goals simp_all

/-- What is left of time cards. -/
theorem changeGoods_of_card (ht : checkIsTimeCardItem v.goodsID) (n : Int) :
    (LoginBag.changeGoods v n).useTime = v.useTime ∧ ((LoginBag.changeGoods v n).goodsCount ≤ 0 ↔ v.goodsCount + n ≤ 0) := by
  obtain ⟨hpt, -, hts⟩ := kinds_disjoint v.goodsID
  have hp : ¬checkIsPaoTaiItem v.goodsID := fun hp => hpt ⟨hp, ht⟩
  have hs : ¬checkIsSpecCannonItem v.goodsID := fun hs => hts ⟨ht, hs⟩
  unfold LoginBag.changeGoods
  simp only [hp, hs, Bool.false_eq_true, or_self, if_false]
  split
  · exact ⟨rfl, by simp; omega⟩
  · exact ⟨rfl, Iff.rfl⟩

/-- A change that is not written leaves the end, or no time. -/
theorem hasEnd_changeGoods {endTime : Int} (hv : HasEnd endTime v) (n : Int) :
    HasEnd endTime (LoginBag.changeGoods v n) := by
  obtain ⟨hend, huse, -⟩ := changeGoods_fields v n
  intro hkind hne
  rw [LoginBag.goodsID_changeGoods] at hkind
  rw [hend]
  exact hv hkind fun h0 => hne (huse.elim id fun h => h.trans h0)

/-- An entry that has expired once its change has been written has been used up. -/
theorem goodsCount_written {n now : Int} (hexp : expired (written v n now) now) : (written v n now).goodsCount = 0 := by
  simp only [expired, Bool.and_eq_true, Bool.not_eq_true', decide_eq_true_eq, Option.any_eq_true, goodsID_written] at hexp
  obtain ⟨⟨hkind, -⟩, e, he, hle⟩ := hexp
  obtain ⟨e', he', hlt⟩ := endTime_written (v := v) n now hkind
  have hpos : 0 ≤ (written v n now).goodsCount := by
    rw [written, hkind]
    simp only [Bool.false_eq_true, if_false, Goods.goodsCount_changeTime]
    exact (changeGoods_fields v n).2.2
  rw [he, Option.some.injEq] at he'
  by_contra hne
  have := hlt (by omega)
  omega

/-- A change that is written: its end is sent, or the entry keeps its end, or it is going to be cleared. -/
theorem hasEnd_written {endTimes : Nat → Int} (hv : HasEnd (endTimes v.goodsID) v) {n : Int} {a : Answers} {told : Bool}
    (hc : ¬(checkIsTimeCardItem v.goodsID ∧ n < 0) ∨ takesCardsSafely (endTimes v.goodsID) v n false told a.now) :
    HasEnd
        ((if isOrdinary v.goodsID ∨ (checkIsTimeCardItem v.goodsID ∧ n < 0) then endTimes
          else Function.update endTimes v.goodsID ((written v n a.now).endTime.getD 0)) v.goodsID)
        (written v n a.now) ∨
      told ∧ isTimed v.goodsID ∧ expired (written v n a.now) a.now := by
  by_cases hk : isOrdinary v.goodsID
  · refine Or.inl fun hkind => ?_
    rw [goodsID_written, hk] at hkind
    cases hkind
  by_cases ht : checkIsTimeCardItem v.goodsID ∧ n < 0
  · obtain ⟨huse, hcount⟩ := changeGoods_of_card ht.1 n
    have htaken :=
      hasEnd_taken (w := LoginBag.changeGoods v n) hv ht.1 ht.2 (LoginBag.goodsID_changeGoods v n) huse
      (changeGoods_fields v n).1
      (by simpa using hcount) (hc.resolve_left fun h => h ht)
    rw [if_pos (Or.inr ht), written, if_neg hk]
    exact htaken.imp_right fun h => ⟨h.1, by simp [isTimed, ht.1], h.2⟩
  · obtain ⟨e, he, -⟩ := endTime_written (v := v) n a.now (by simpa using hk)
    refine Or.inl fun _ _ => ?_
    rw [if_neg (not_or.2 ⟨hk, ht⟩), Function.update_self, he, Option.getD_some]

/-- The ends of the other items are not sent. -/
theorem endTimes_afterWrite (b : UserBag) (v : Goods) (n : Int) (fromWhere : ItemSystemType) (a : Answers)
    (hne : g ≠ v.goodsID) :
    (afterWrite b v n fromWhere a).endTimes g = b.endTimes g := by
  show (if _ then b.endTimes else Function.update b.endTimes v.goodsID _) g = _
  split
  · rfl
  · exact Function.update_of_ne hne _ _

/-- A change that finds an entry. -/
theorem times_changeItemCount (hv : b.find g = some v) (h : Times b.goods b.endTimes b.reports) {n : Int} {a : Answers}
    (hc : ¬(checkIsTimeCardItem g ∧ n < 0 ∧ (writeRows b.itemCounts g n a.dbError).2 = 0) ∨
      takesCardsSafely (b.endTimes g) v n false (needsNotify a.user && a.online) a.now)
    (fromWhere : ItemSystemType) :
    (changeItemCount b g n fromWhere a).failure ≠ some .endTime ∧
      Times (changeItemCount b g n fromWhere a).state.goods (changeItemCount b g n fromWhere a).state.endTimes
        (changeItemCount b g n fromWhere a).state.reports := by
  obtain rfl : v.goodsID = g := goodsID_of_find hv
  obtain ⟨hgoods, -, hends, hrep⟩ := announce_eq b v.goodsID n fromWhere a.user
  have hmem := h.ends v (List.mem_of_find?_eq_some hv)
  by_cases hcode : (writeRows b.itemCounts v.goodsID n a.dbError).2 = 0
  swap
  · rw [changeItemCount_of_refused hv fromWhere hcode]
    refine ⟨(by simp [Attempt.fail]), ?_⟩
    show Times (setGoods (announce b v.goodsID n fromWhere a.user).goods (LoginBag.changeGoods v n))
      (announce b v.goodsID n fromWhere a.user).endTimes (announce b v.goodsID n fromWhere a.user).reports
    rw [hgoods, hends, hrep]
    refine times_set_kept h.nodup (h.other _) h.reported ?_
    rw [LoginBag.goodsID_changeGoods]
    exact hasEnd_changeGoods hmem n
  rw [changeItemCount_of_written hv fromWhere hcode]
  have hlast := hasEnd_written hmem (hc.imp_left fun hc ht => hc ⟨ht.1, ht.2, hcode⟩)
  have hfind := find_afterWrite (a := a) (n := n) hv fromWhere
  have hnodup : ((afterWrite b v n fromWhere a).goods.map Goods.goodsID).Nodup := by
    show ((setGoods b.goods (written v n a.now)).map Goods.goodsID).Nodup
    rw [goodsIDs_setGoods]
    exact h.nodup
  have hother : ∀ u ∈ (afterWrite b v n fromWhere a).goods, u.goodsID ≠ v.goodsID →
      HasEnd ((afterWrite b v n fromWhere a).endTimes u.goodsID) u := by
    intro u hu hne
    obtain rfl | ⟨hu, -⟩ := mem_setGoods h.nodup hu
    · exact absurd (goodsID_written v n a.now) hne
    · rw [endTimes_afterWrite b v n fromWhere a hne]
      exact h.ends u hu
  have hreported : ∀ r ∈ (afterWrite b v n fromWhere a).reports, expired r.found r.now → r.sent.goodsCount = 0 := by
    show ∀ r ∈ (announce b v.goodsID n fromWhere a.user).reports, _
    rw [hrep]
    exact h.reported
  by_cases hnot : needsNotify a.user
  · rw [if_pos hnot]
    refine times_goodsInfo hfind hnodup hother hreported a (hlast.imp_right fun h => ⟨?_, h.2⟩) fun _ _ => goodsCount_written
    simpa [hnot] using h.1
  · rw [if_neg hnot]
    refine ⟨Attempt.failure_ok_ne _ _, times_of_find (v := written v n a.now) hnodup ?_ hreported ?_ ?_⟩
    · rwa [goodsID_written]
    · rwa [goodsID_written]
    · rw [goodsID_written]
      exact hlast.resolve_right fun h => by simp [hnot] at h

/-- An item that is added without time. -/
theorem times_addItemToBag (hv : b.find g = none) (h : Times b.goods b.endTimes b.reports) {n : Int}
    (hc : ¬isTimed g ∨ n = 0) (now : Int) :
    Times (addItemToBag b g n now).goods (addItemToBag b g n now).endTimes (addItemToBag b g n now).reports ∧
      (LoginBag.addedGoods g n).useTime = 0 := by
  have hno : (LoginBag.addedGoods g n).useTime = 0 := by
    obtain hc | rfl := hc
    · simp only [isTimed, Bool.or_eq_true, not_or] at hc
      simp [LoginBag.addedGoods, hc.1, hc.2]
    · simp [LoginBag.addedGoods]
  exact ⟨h.append (w := LoginBag.addedGoods g n) hv (hasEnd_of_useTime hno), hno⟩

/-- A change that finds no entry adds one without time. -/
theorem times_addItem (hv : b.find g = none) (h : Times b.goods b.endTimes b.reports) {n : Int} (hc : ¬isTimed g ∨ n = 0)
    (fromWhere : ItemSystemType) (a : Answers) :
    (changeItemCount b g n fromWhere a).failure ≠ some .endTime ∧
      Times (changeItemCount b g n fromWhere a).state.goods (changeItemCount b g n fromWhere a).state.endTimes
        (changeItemCount b g n fromWhere a).state.reports := by
  obtain ⟨hgoods, -, hends, hrep⟩ := announce_eq b g n fromWhere a.user
  obtain ⟨hadded, hno⟩ := times_addItemToBag (b := announce b g n fromWhere a.user) (g := g) (n := n)
    (by rw [find_announce]; exact hv) (by rw [hgoods, hends, hrep]; exact h) hc a.now
  have hfind : (addItemToBag (announce b g n fromWhere a.user) g n a.now).find g = some (LoginBag.addedGoods g n) := by
    have hnone : b.goods.find? (fun v => v.goodsID = g) = none := hv
    show findGoods ((announce b g n fromWhere a.user).goods ++ [LoginBag.addedGoods g n]) g = _
    rw [hgoods, findGoods, List.find?_append, hnone]
    simp [LoginBag.addedGoods]
  unfold changeItemCount
  simp only [find_announce, hv, Attempt.ok_andThen]
  by_cases hnot : needsNotify a.user
  · rw [if_pos hnot]
    refine times_goodsInfo hfind hadded.nodup (fun u hu _ => hadded.ends u hu) hadded.reported a
      (Or.inl (hasEnd_of_useTime hno)) ?_
    intro _ _ hexp
    simp [expired, hno] at hexp
  · rw [if_neg hnot]
    exact ⟨Attempt.failure_ok_ne _ _, hadded⟩

/-- The items of the configuration that are added to a bag that is loaded. -/
theorem times_config (itemInfoConfig : List Nat) (now : Int) : ∀ b : UserBag, Times b.goods b.endTimes b.reports →
    let b' := itemInfoConfig.foldl (fun b g => if (b.find g).isSome then b else addItemToBag b g 0 now) b
    Times b'.goods b'.endTimes b'.reports := by
  induction itemInfoConfig with
  | nil => exact fun b h => h
  | cons g itemInfoConfig ih =>
    intro b h
    refine ih _ ?_
    dsimp only
    by_cases hv : (b.find g).isSome
    · rwa [if_pos hv]
    · rw [if_neg hv]
      exact (times_addItemToBag (by simpa using hv) h (Or.inr rfl) now).1

theorem goodsID_loadRow (now : Int) (goodsID : Nat) (itemCount endTime : Int) :
    (loadRow now goodsID itemCount endTime).goodsID = goodsID := by
  unfold loadRow
  dsimp only
  repeat' split
  all_goals rfl

/-- The row of a bag that is loaded. -/
theorem hasEnd_loadRow (now : Int) (g : Nat) (itemCount endTime : Int) :
    HasEnd (if endTime ≠ 0 ∧ (endTime ≤ now ∨ itemCount = 0) then 0 else endTime) (loadRow now g itemCount endTime) := by
  intro _ huse
  unfold loadRow at huse ⊢
  by_cases h0 : endTime = 0
  · subst h0
    simp only [ne_eq, not_true_eq_false, if_false] at huse
    exact absurd (by split <;> rfl) huse
  by_cases hc : endTime ≤ now ∨ itemCount = 0
  · simp only [ne_eq, h0, hc, not_false_eq_true, if_true] at huse
    exact absurd (by split <;> rfl) huse
  · simp only [ne_eq, h0, hc, not_false_eq_true, if_true, and_false, if_false]
    split <;> rfl

/-- The rows of a bag. -/
theorem times_load (h : Times b.goods b.endTimes b.reports) {rows : List (Nat × Int)} (hrows : (rows.map Prod.fst).Nodup)
    (itemInfoConfig : List Nat) (now : Int) :
    Times (loadUserItem b rows itemInfoConfig now).goods (loadUserItem b rows itemInfoConfig now).endTimes
      (loadUserItem b rows itemInfoConfig now).reports := by
  refine times_config itemInfoConfig now _ ⟨⟨fun v hv => ?_, h.reported⟩, ?_⟩
  · obtain ⟨r, hr, rfl⟩ := List.mem_map.1 hv
    have hfind : rows.find? (fun r' => r'.1 = r.1) = some r := by
      cases hf : rows.find? (fun r' => r'.1 = r.1) with
      | none => exact absurd (List.find?_eq_none.1 hf r hr) (by simp)
      | some r' =>
        have hid : r'.1 = r.1 := by simpa using List.find?_some hf
        rw [List.inj_on_of_nodup_map hrows (List.mem_of_find?_eq_some hf) hr hid]
    rw [goodsID_loadRow]
    have hrow := hasEnd_loadRow now r.1 r.2 (b.endTimes r.1)
    simpa only [hfind, Option.any_some, decide_eq_true_eq] using hrow
  · have hmap : (rows.map fun r => loadRow now r.1 r.2 (b.endTimes r.1)).map Goods.goodsID = rows.map Prod.fst := by
      rw [List.map_map]
      exact List.map_congr_left fun r _ => goodsID_loadRow now r.1 r.2 _
    rw [hmap]
    exact hrows

/-- What holds throughout a run on the login server. -/
structure Right (s : Service) : Prop where
  times : Times s.bag.goods s.bag.endTimes s.bag.reports
  compares : Failure.endTime ∉ s.failures

/-- One call keeps it, under the condition. -/
theorem Right.step {s s' : Service} (h : Right s) {c : Call} (hc : timesSafe s.bag c)
    (hs : step s c = some s') : Right s' := by
  unfold LoginCall.step at hs
  split at hs
  case isFalse => cases hs
  rename_i hguard
  cases hs
  have hcall : (c.run s.bag).failure ≠ some .endTime ∧
      Times (c.run s.bag).state.goods (c.run s.bag).state.endTimes (c.run s.bag).state.reports := by
    cases c with
    | loadUserItem rows itemInfoConfig now =>
      exact ⟨Attempt.failure_ok_ne _ _, times_load h.times (of_decide_eq_true hguard.2) itemInfoConfig now⟩
    | changeItemCount g n fromWhere a =>
      cases hv : s.bag.find g with
      | none =>
        have hcond : ¬isTimed g ∨ n = 0 := by simpa [timesSafe, hv] using hc
        exact times_addItem hv h.times hcond fromWhere a
      | some v =>
        have hcond : ¬(checkIsTimeCardItem g ∧ n < 0 ∧ (writeRows s.bag.itemCounts g n a.dbError).2 = 0) ∨
            takesCardsSafely (s.bag.endTimes g) v n false (needsNotify a.user && a.online) a.now := by
          simp only [timesSafe, hv] at hc
          simpa [imp_iff_not_or, or_assoc] using hc
        exact times_changeItemCount hv h.times hcond fromWhere
    | goodsInfo g a =>
      cases hv : s.bag.find g with
      | none =>
        have hsame : (goodsInfo s.bag g a).failure ≠ some .endTime ∧ (goodsInfo s.bag g a).state = s.bag := by
          unfold goodsInfo
          simp only [hv]
          repeat' split
          all_goals simp [Attempt.ok, Attempt.fail]
        refine ⟨hsame.1, ?_⟩
        simp only [Call.run, hsame.2]
        exact h.times
      | some v =>
        have hend := h.times.ends v (List.mem_of_find?_eq_some hv)
        rw [goodsID_of_find hv] at hend
        refine times_goodsInfo hv h.times.nodup (fun u hu _ => h.times.ends u hu) h.times.reported a (Or.inl hend) ?_
        intro hon hnot hexp
        have hkind : checkIsSpecCannonItem g := by
          have hk : isOrdinary g = false := by
            simp only [expired, Bool.and_eq_true, Bool.not_eq_true', goodsID_of_find hv] at hexp
            exact hexp.1.1
          have hkinds := (not_ordinary_iff g).1 hk
          simp only [isTimed, Bool.or_eq_true, not_or] at hnot
          tauto
        simp only [timesSafe, hv, hkind, hon, hexp, Option.all_some] at hc
        simpa using hc
  refine ⟨hcall.2, fun hmem => ?_⟩
  obtain hmem | hmem := List.mem_append.1 hmem
  · exact hcall.1 (by simpa using hmem)
  · exact h.compares hmem

end SasyServer.LoginCall

/-! ## Both servers -/

namespace SasyServer.Bag

open Steps

/-- From a user without entries, throughout every run of calls that meet the condition, on either server, a timed entry
with time left has the end that was last sent to the database, no missing end is compared, and what has expired is
reported with none left. -/
theorem exec_timesRight (score : Int) (ends ends' : Nat → Int) (itemCounts : Nat → Option Int) (now now' : Int)
    (calls : List BagCall.Call) (calls' : List LoginCall.Call) (s : BagCall.Service) (s' : LoginCall.Service)
    (hm : Meets BagCall.step (fun s c => BagCall.timesSafe s.bag c) ⟨⟨[], score, ends, []⟩, [], now⟩ calls)
    (h : exec BagCall.step ⟨⟨[], score, ends, []⟩, [], now⟩ calls = some s)
    (hm' : Meets LoginCall.step (fun s c => LoginCall.timesSafe s.bag c) ⟨⟨[], itemCounts, ends', [], []⟩, [], now'⟩ calls')
    (h' : exec LoginCall.step ⟨⟨[], itemCounts, ends', [], []⟩, [], now'⟩ calls' = some s') :
    (TimesRight s.bag.goods s.bag.endTimes s.bag.reports ∧ BagCall.Failure.endTime ∉ s.failures) ∧
      TimesRight s'.bag.goods s'.bag.endTimes s'.bag.reports ∧ LoginCall.Failure.endTime ∉ s'.failures := by
  have hempty : ∀ endTimes : Nat → Int, Times [] endTimes [] := fun _ => ⟨⟨by simp, by simp⟩, List.nodup_nil⟩
  have hgame : BagCall.Right s := by
    refine exec_invariant (fun _ _ _ hs hc hstep => hs.step hc hstep) calls _ s ?_ hm h
    exact ⟨hempty ends, List.not_mem_nil⟩
  have hlogin : LoginCall.Right s' := by
    refine exec_invariant (fun _ _ _ hs hc hstep => hs.step hc hstep) calls' _ s' ?_ hm' h'
    exact ⟨hempty ends', List.not_mem_nil⟩
  exact ⟨⟨hgame.times.toTimesRight, hgame.compares⟩, hlogin.times.toTimesRight, hlogin.compares⟩

/-- A cannon with time left. -/
def cannonEnds (g : Nat) : Int := if g = itemIdPaoTai1 then 500 else 0

/-- A cannon with time left gets more, two time cards are added to none and one is used, and the cannon expires. -/
def cannonCalls : List BagCall.Call :=
  [.loadUserItem [(itemIdPaoTai1, 1), (itemIdComposeCard1, 0)] 100,
    .changeItemCount itemIdPaoTai1 1 .bugGoods true false ⟨true, true, true, 200⟩,
    .changeItemCount itemIdComposeCard1 2 .bugGoods true false ⟨true, true, true, 300⟩,
    .changeItemCount itemIdComposeCard1 (-1) .byUse true false ⟨true, true, true, 400⟩,
    .goodsInfo itemIdPaoTai1 ⟨true, true, true, 300000⟩]

/-- A special cannon comes, and a cannon expires. -/
def cannonLogins : List LoginCall.Call :=
  [.loadUserItem [(itemIdPaoTai1, 1)] [itemIdPaoTai1, itemIdSpecCannon1] 100,
    .changeItemCount itemIdSpecCannon1 1 .bugGoods ⟨some ⟨0, false, true⟩, false, 200⟩,
    .goodsInfo itemIdPaoTai1 ⟨some ⟨0, false, true⟩, false, 600⟩]

theorem exec_timesRight_cannon :
    ∃ s s', exec BagCall.step ⟨⟨[], 0, cannonEnds, []⟩, [], 0⟩ cannonCalls = some s ∧
      exec LoginCall.step ⟨⟨[], fun _ => none, cannonEnds, [], []⟩, [], 0⟩ cannonLogins = some s' ∧
      (TimesRight s.bag.goods s.bag.endTimes s.bag.reports ∧ BagCall.Failure.endTime ∉ s.failures) ∧
      TimesRight s'.bag.goods s'.bag.endTimes s'.bag.reports ∧ LoginCall.Failure.endTime ∉ s'.failures :=
  ⟨_, _, rfl, rfl,
    exec_timesRight 0 cannonEnds cannonEnds (fun _ => none) 0 0 cannonCalls cannonLogins _ _ (by decide +kernel) rfl
    (by decide +kernel) rfl⟩

/-- A cannon is added to a bag that has no entry of it: the entry has time and no end, and reporting it is an error. -/
theorem added_without_end :
    ¬∀ (score : Int) (ends ends' : Nat → Int) (itemCounts : Nat → Option Int) (now now' : Int) (calls : List BagCall.Call)
      (calls' : List LoginCall.Call) (s : BagCall.Service) (s' : LoginCall.Service),
      exec BagCall.step ⟨⟨[], score, ends, []⟩, [], now⟩ calls = some s →
      exec LoginCall.step ⟨⟨[], itemCounts, ends', [], []⟩, [], now'⟩ calls' = some s' →
      (TimesRight s.bag.goods s.bag.endTimes s.bag.reports ∧ BagCall.Failure.endTime ∉ s.failures) ∧
        TimesRight s'.bag.goods s'.bag.endTimes s'.bag.reports ∧ LoginCall.Failure.endTime ∉ s'.failures := by
  intro h
  have hfail := (h 0 (fun _ => 0) (fun _ => 0) (fun _ => none) 0 0
    [.changeItemCount itemIdPaoTai1 1 .bugGoods true false ⟨true, true, true, 100⟩] [] _ _ rfl rfl).1.2
  exact absurd hfail (by decide)

end SasyServer.Bag
