import SasyServer.Lemmas.BagCalls
import SasyServer.Lemmas.LoginCalls

/-!
# Theorem: when a list of items is checked and taken as a whole

`CheckItemAndComsume` compares every item of its list with the bag by itself, and then takes one after the other. An item
that is twice in the list can pass the check without being there often enough; a cannon is taken as a whole, and on a game
server an expired special cannon, too; gold is passed over without the user's record.
-/

namespace SasyServer.Comsume

open Bag

/-- What the list takes of an item. -/
def required : List (Nat × Int) → Nat → Int
  | [], _ => 0
  | v :: itemlist, g => (if v.1 = g then v.2 else 0) + required itemlist g

/-- The bag has what the list takes of every item. -/
def covered (goods : List Goods) (itemlist : List (Nat × Int)) : Bool :=
  itemlist.all fun v => required itemlist v.1 ≤ getItemCount goods v.1

/-- What is promised of a call: it comes to its end, returns whether the bag has what the list takes, and takes
exactly that, or nothing. -/
structure Spends (goods : List Goods) (itemlist : List (Nat × Int)) (failed returned : Bool)
    (goods' : List Goods) : Prop where
  ends : ¬failed
  returns : returned ↔ covered goods itemlist
  taken : returned → ∀ g, getItemCount goods' g = getItemCount goods g - required itemlist g
  kept : ¬returned → goods' = goods

variable {itemlist : List (Nat × Int)}

/-- What a list of positive counts needs. -/
theorem required_nonneg (hpos : ∀ v ∈ itemlist, 0 < v.2) (g : Nat) : 0 ≤ required itemlist g := by
  induction itemlist with
  | nil => exact Int.le_refl 0
  | cons v itemlist ih =>
    obtain ⟨hv, hrest⟩ := List.forall_mem_cons.1 hpos
    have := ih hrest
    rw [required]
    split <;> omega

/-- An item that is not in the list. -/
theorem required_of_notMem {g : Nat} (h : g ∉ itemlist.map Prod.fst) : required itemlist g = 0 := by
  induction itemlist with
  | nil => rfl
  | cons v itemlist ih =>
    rw [List.map_cons, List.mem_cons, not_or] at h
    rw [required, if_neg (fun hv => h.1 hv.symm), ih h.2, Int.zero_add]

/-- One line of the list takes no more than the whole. -/
theorem le_required (hpos : ∀ v ∈ itemlist, 0 < v.2) {v : Nat × Int} (hv : v ∈ itemlist) : v.2 ≤ required itemlist v.1 := by
  induction itemlist with
  | nil => cases hv
  | cons x itemlist ih =>
    obtain ⟨hx, hrest⟩ := List.forall_mem_cons.1 hpos
    obtain rfl | hv := List.mem_cons.1 hv
    · have := required_nonneg hrest v.1
      rw [required, if_pos rfl]
      omega
    · have := ih hrest hv
      rw [required]
      split <;> omega

/-- The check refuses only lists that are not covered. -/
theorem not_covered_of_not_checked {goods : List Goods} (hpos : ∀ v ∈ itemlist, 0 < v.2)
    (h : ¬Spending.checkItem goods itemlist) :
    ¬covered goods itemlist := by
  intro hcov
  refine h (List.all_eq_true.2 fun v hv => ?_)
  have hle := le_required hpos hv
  have hv0 := hpos v hv
  have hown : required itemlist v.1 ≤ getItemCount goods v.1 := by simpa using List.all_eq_true.1 hcov v hv
  unfold getItemCount at hown
  cases hf : goods.find? fun vv => vv.goodsID = v.1 with
  | none =>
    rw [hf] at hown
    simp only [Option.map_none, Option.getD_none] at hown
    omega
  | some vv =>
    rw [hf] at hown
    simp only [Option.map_some, Option.getD_some] at hown
    simp only [Option.any_some, decide_eq_true_eq]
    omega

/-- A list that passes the check has only items the bag has. -/
theorem find_of_checked {goods : List Goods} (h : Spending.checkItem goods itemlist) {v : Nat × Int} (hv : v ∈ itemlist) :
    ∃ w, findGoods goods v.1 = some w := by
  have := List.all_eq_true.1 h v hv
  obtain ⟨w, hw, -⟩ := (Option.any_eq_true _ _).1 this
  exact ⟨w, hw⟩

/-! ## The loop over the list -/

/-- The rest of a loop whose first turn has come to its end. -/
theorem forEach_cons_of_ok {σ ε α : Type} {f : σ → α → Attempt σ ε} {s : σ} {x : α} (h : (f s x).failure = none)
    (xs : List α) :
    Attempt.forEach f (x :: xs) s = Attempt.forEach f xs (f s x).state := by
  rw [Attempt.forEach, Attempt.andThen, h]

/-- The first turn of a loop that comes to its end. -/
theorem failure_forEach_cons {σ ε α : Type} {f : σ → α → Attempt σ ε} {s : σ} {x : α} {xs : List α} :
    (Attempt.forEach f (x :: xs) s).failure = none ↔ (f s x).failure = none ∧
      (Attempt.forEach f xs (f s x).state).failure = none :=
  Attempt.failure_andThen

/-- A search after an entry has changed. -/
theorem findGoods_set {goods : List Goods} {v w : Goods} {g : Nat} (hv : findGoods goods g = some v)
    (hw : w.goodsID = g) (g' : Nat) :
    findGoods (setGoods goods w) g' = if g' = g then some w else findGoods goods g' := by
  subst hw
  split
  · rename_i hg
    rw [hg]
    exact findGoods_setGoods hv
  · rename_i hg
    exact findGoods_setGoods_of_ne hg

/-- What was found is found after an entry has changed. -/
theorem found_set {goods : List Goods} {v w : Goods} {g : Nat} (hv : findGoods goods g = some v) (hw : w.goodsID = g)
    (h : ∀ l ∈ itemlist, ∃ v', findGoods goods l.1 = some v') :
    ∀ l ∈ itemlist, ∃ v', findGoods (setGoods goods w) l.1 = some v' := by
  intro l hl
  rw [findGoods_set hv hw]
  split
  · exact ⟨w, rfl⟩
  · exact h l hl

section Loop

variable {σ ε α : Type} {goodsOf : σ → List Goods} {f : σ → α → Attempt σ ε} (line : α → Nat × Int)
    (left : Goods → Int → Int)

/-- The counts after a loop that comes to its end, when a turn puts an entry in the place of the one of its item, and what is
left after one turn and then others is what is left after all of them at once. -/
theorem counts_of_loop
    (turn : ∀ s x v, ((goodsOf s).map Goods.goodsID).Nodup → findGoods (goodsOf s) (line x).1 = some v → 0 < (line x).2 →
      (f s x).failure = none →
      ∃ w : Goods, w.goodsID = (line x).1 ∧ w.goodsCount = left v (line x).2 ∧
        (∀ m, 0 ≤ m → left w m = left v ((line x).2 + m)) ∧
        goodsOf (f s x).state = setGoods (goodsOf s) w) :
    ∀ (xs : List α) (s : σ), ((goodsOf s).map Goods.goodsID).Nodup → (∀ l ∈ xs.map line, 0 < l.2) →
      (∀ l ∈ xs.map line, ∃ v, findGoods (goodsOf s) l.1 = some v) →
      (Attempt.forEach f xs s).failure = none → ∀ g, getItemCount (goodsOf (Attempt.forEach f xs s).state) g =
        (findGoods (goodsOf s) g).elim 0 fun v =>
          if g ∈ (xs.map line).map Prod.fst then left v (required (xs.map line) g) else v.goodsCount := by
  intro xs
  induction xs with
  | nil =>
    intro s _ _ _ _ g
    rw [Attempt.forEach, Attempt.ok, getItemCount, findGoods]
    cases (goodsOf s).find? fun v => v.goodsID = g <;> simp
  | cons x xs ih =>
    intro s hnodup hpos hfound hnone g
    obtain ⟨hx, hrest⟩ := List.forall_mem_cons.1 hpos
    obtain ⟨⟨v, hv⟩, hfrest⟩ := List.forall_mem_cons.1 hfound
    obtain ⟨hok, hnone⟩ := failure_forEach_cons.1 hnone
    obtain ⟨w, hw, hcount, hleft, hgoods⟩ := turn s x v hnodup hv hx hok
    have hnodup' : ((goodsOf (f s x).state).map Goods.goodsID).Nodup := by rwa [hgoods, goodsIDs_setGoods]
    have hfind := findGoods_set hv hw
    rw [← hgoods] at hfind
    have hfound' := found_set hv hw hfrest
    rw [← hgoods] at hfound'
    rw [forEach_cons_of_ok hok, ih _ hnodup' hrest hfound' hnone g, hfind]
    simp only [List.map_cons, List.mem_cons]
    by_cases hg : g = (line x).1
    · subst hg
      rw [if_pos rfl, hv, Option.elim_some, Option.elim_some, required, if_pos rfl, if_pos (Or.inl rfl)]
      split
      · exact hleft _ (required_nonneg hrest _)
      · rename_i hnot
        rw [hcount, required_of_notMem hnot, Int.add_zero]
    · rw [if_neg hg, required, if_neg (fun h => hg h.symm), Int.zero_add]
      cases findGoods (goodsOf s) g with
      | none => rfl
      | some v' => simp only [Option.elim_some, hg, false_or]

end Loop

/-- The owned count of an entry that is found. -/
theorem getItemCount_of_find {goods : List Goods} {g : Nat} {v : Goods} (h : findGoods goods g = some v) :
    getItemCount goods g = v.goodsCount := by
  rw [getItemCount, show goods.find? _ = some v from h, Option.map_some, Option.getD_some]

/-- A call that has passed the check does what is promised when it comes to its end, the bag has what is required of every
item of the list, and exactly that is taken. -/
theorem spends_iff {goods goods' : List Goods} {failed : Bool} (left : Goods → Int → Int)
    (hfound : ∀ l ∈ itemlist, ∃ v, findGoods goods l.1 = some v)
    (hcounts : ¬failed → ∀ g, getItemCount goods' g =
      (findGoods goods g).elim 0 fun v => if g ∈ itemlist.map Prod.fst then left v (required itemlist g) else v.goodsCount) :
    Spends goods itemlist failed true goods' ↔ ¬failed ∧ ∀ l ∈ itemlist, ∀ v, findGoods goods l.1 = some v →
      required itemlist l.1 ≤ v.goodsCount ∧ left v (required itemlist l.1) = v.goodsCount - required itemlist l.1 := by
  constructor
  · refine fun h => ⟨h.ends, fun l hl v hv => ?_⟩
    have hcov : required itemlist l.1 ≤ getItemCount goods l.1 := by simpa using List.all_eq_true.1 (h.returns.1 rfl) l hl
    rw [getItemCount_of_find hv] at hcov
    have htaken := h.taken rfl l.1
    rw [hcounts h.ends l.1, hv, Option.elim_some, if_pos (List.mem_map_of_mem hl), getItemCount_of_find hv] at htaken
    exact ⟨hcov, htaken⟩
  · rintro ⟨hends, h⟩
    refine ⟨hends, iff_of_true rfl (List.all_eq_true.2 fun l hl => ?_), fun _ g => ?_, fun h => absurd rfl h⟩
    · obtain ⟨v, hv⟩ := hfound l hl
      rw [getItemCount_of_find hv]
      exact decide_eq_true (h l hl v hv).1
    · rw [hcounts hends g]
      cases hv : findGoods goods g with
      | none =>
        have hnot : g ∉ itemlist.map Prod.fst := by
          intro hg
          obtain ⟨l, hl, rfl⟩ := List.mem_map.1 hg
          obtain ⟨v, hv'⟩ := hfound l hl
          rw [hv] at hv'
          cases hv'
        rw [required_of_notMem hnot, getItemCount, show goods.find? _ = none from hv]
        rfl
      | some v =>
        rw [getItemCount_of_find hv, Option.elim_some]
        split
        · rename_i hg
          obtain ⟨l, hl, rfl⟩ := List.mem_map.1 hg
          exact (h l hl v hv).2
        · rename_i hg
          rw [required_of_notMem hg, Int.sub_zero]

/-- A call that is refused does what is promised. -/
theorem spends_of_refused {goods : List Goods} (hpos : ∀ v ∈ itemlist, 0 < v.2) (h : ¬Spending.checkItem goods itemlist) :
    Spends goods itemlist false false goods :=
  ⟨by decide, by simpa using not_covered_of_not_checked hpos h, fun h => by simp at h, fun _ => rfl⟩

/-! ## The game server -/

section GameServer

open BagCall

variable {b : BagCall.UserBag} {v : Goods} {a : BagCall.Answers}

/-- A change of the entry stops: gold of a user without a table, or a special cannon without an end. -/
def stops (v : Goods) (a : BagCall.Answers) : Bool :=
  (v.goodsID = itemIdGold && a.userFound && !a.tableFound) ||
    (a.online && checkIsSpecCannonItem v.goodsID && v.useTime ≠ 0 && v.endTime.isNone)

/-- What is left of an entry, when `n` have been taken in any number of changes. -/
def left (v : Goods) (n : Int) (a : BagCall.Answers) : Int :=
  if v.goodsID = itemIdGold ∧ ¬a.userFound then v.goodsCount
  else if checkIsPaoTaiItem v.goodsID ∨ (a.online ∧ checkIsSpecCannonItem v.goodsID ∧ expired v a.now) then 0
  else max 0 (v.goodsCount - n)

/-- An expired special cannon, field by field. -/
theorem expired_of_specCannon (hs : checkIsSpecCannonItem v.goodsID) (now : Int) :
    expired v now ↔ v.useTime ≠ 0 ∧ v.endTime.any fun endTime => endTime ≤ now := by
  simp [expired, isOrdinary, hs]

/-- The count of an entry after one line of the list. -/
theorem goodsCount_changed (v : Goods) {n : Int} (fromWhere : ItemSystemType) (a : BagCall.Answers) (hn : 0 < n) :
    (changed v (-n) fromWhere true false a).goodsCount =
      if checkIsPaoTaiItem v.goodsID ∨ (a.online ∧ checkIsSpecCannonItem v.goodsID ∧ expired v a.now) then 0
      else max 0 (v.goodsCount - n) := by
  have hw := Goods.goodsCount_change v (-n) fromWhere a.now
  rw [if_neg (show ¬0 < -n by omega), ← Int.sub_eq_add_neg] at hw
  have hexp := expired_change v (-n) fromWhere false a.now
  simp only [Bool.false_eq_true, if_false, ← Int.sub_eq_add_neg] at hexp
  unfold changed
  by_cases hp : checkIsPaoTaiItem v.goodsID
  · rw [if_pos hp] at hw
    rw [if_pos (Or.inl hp)]
    dsimp only
    split
    · rw [goodsCount_informed, hw, ite_self]
    · exact hw
  rw [if_neg hp] at hw
  by_cases hon : a.online
  · have hof : checkIsSpecCannonItem v.goodsID ∧ expired v a.now → expired (v.change (-n) fromWhere false a.now) a.now := by
      rintro ⟨hs, he⟩
      have he := (expired_of_specCannon hs a.now).1 he
      exact hexp.2 ⟨he.1, Or.inr ⟨hs, he.2⟩⟩
    have hto : expired (v.change (-n) fromWhere false a.now) a.now →
        (checkIsSpecCannonItem v.goodsID ∧ expired v a.now) ∨ v.goodsCount - n ≤ 0 := by
      intro he
      obtain ⟨huse, ⟨-, hnone, -⟩ | ⟨hs, hend⟩⟩ := hexp.1 he
      · exact Or.inr hnone
      · exact Or.inl ⟨hs, (expired_of_specCannon hs a.now).2 ⟨huse, hend⟩⟩
    simp only [hon, Bool.and_self, if_true, goodsCount_informed, hw]
    by_cases hs : checkIsSpecCannonItem v.goodsID ∧ expired v a.now
    · rw [if_pos (hof hs), if_pos (Or.inr ⟨trivial, hs⟩)]
    · have hnot : ¬(checkIsPaoTaiItem v.goodsID ∨ (True ∧ checkIsSpecCannonItem v.goodsID ∧ expired v a.now)) :=
        fun h => h.elim hp fun h => hs h.2
      rw [if_neg hnot]
      split
      · rename_i he
        have := (hto he).resolve_left hs
        omega
      · rfl
  · simp [hon, hp, hw]

/-- What is left after one line and then others is what is left after all of them. -/
theorem left_changed {n : Int} (fromWhere : ItemSystemType) (hn : 0 < n)
    (hgold : ¬(v.goodsID = itemIdGold ∧ ¬a.userFound)) {m : Int} (hm : 0 ≤ m) :
    left (changed v (-n) fromWhere true false a) m a = left v (n + m) a := by
  have hid := goodsID_changed v (-n) fromWhere true false a
  have hcount := goodsCount_changed v fromWhere a hn
  have hkind : a.online → checkIsSpecCannonItem v.goodsID → ¬expired (changed v (-n) fromWhere true false a) a.now := by
    intro hon hs he
    have he' := (expired_of_specCannon (by rw [hid]; exact hs) a.now).1 he
    have hw : changed v (-n) fromWhere true false a = informed (v.change (-n) fromWhere false a.now) a.now := by
      simp [changed, hon]
    rw [hw] at he'
    obtain ⟨hnot, huse, hend⟩ := useTime_informed he'.1
    rw [hend] at he'
    exact hnot ((expired_of_specCannon (by rw [Goods.goodsID_change]; exact hs) a.now).2 ⟨huse, he'.2⟩)
  unfold left
  rw [hid, hcount, if_neg hgold, if_neg hgold]
  by_cases hp : checkIsPaoTaiItem v.goodsID
  · simp [hp]
  by_cases hs : a.online ∧ checkIsSpecCannonItem v.goodsID ∧ expired v a.now
  · have hnot := hkind hs.1 hs.2.1
    simp only [hp, hs, hnot, Bool.false_eq_true, and_false, false_or, if_false, and_self, or_true, if_true]
    omega
  · have hnot : ¬(a.online ∧ checkIsSpecCannonItem v.goodsID ∧ expired (changed v (-n) fromWhere true false a) a.now) :=
      fun h => hkind h.1 h.2.1 h.2.2
    simp only [hp, hs, hnot, Bool.false_eq_true, or_self, if_false]
    omega

/-- An entry that has not stopped a change does not stop the next one. -/
theorem stops_changed (hv : ¬stops v a) (n : Int) (fromWhere : ItemSystemType) :
    ¬stops (changed v (-n) fromWhere true false a) a := by
  have hid := goodsID_changed v (-n) fromWhere true false a
  intro hstop
  refine hv ?_
  simp only [stops, hid, Bool.or_eq_true, Bool.and_eq_true, decide_eq_true_eq, Option.isNone_iff_eq_none] at hstop ⊢
  refine hstop.imp_right ?_
  rintro ⟨⟨⟨hon, hs⟩, huse⟩, hend⟩
  have hw : changed v (-n) fromWhere true false a = informed (v.change (-n) fromWhere false a.now) a.now := by
    simp [changed, hon]
  rw [hw] at huse hend
  obtain ⟨-, huse', hend'⟩ := useTime_informed huse
  rw [hend'] at hend
  have hless : endless (v.change (-n) fromWhere false a.now) := by
    simp [endless, Goods.goodsID_change, isOrdinary, hs, huse', hend]
  obtain ⟨-, h1, h2⟩ := (endless_change v (-n) fromWhere false a.now).1 hless
  exact ⟨⟨⟨hon, hs⟩, h1⟩, h2⟩

/-- A change in a line of the list stops exactly at a special cannon without an end. -/
theorem failure_of_line {l : Nat × Int} (h : b.find l.1 = some v) (fromWhere : ItemSystemType) :
    (changeItemCount b l.1 (-l.2) fromWhere true false a).failure = none ↔
      ¬(a.online ∧ checkIsSpecCannonItem v.goodsID ∧ v.useTime ≠ 0 ∧ v.endTime = none) := by
  rw [failure_changeItemCount h, endless_change]
  simp

/-- One line of the list: it stops, or it changes the entry of its item, and for gold the score. -/
theorem comsumeItem_cases {l : Nat × Int} (h : b.find l.1 = some v) (fromWhere : ItemSystemType) :
    stops v a ∧ (comsumeItem fromWhere a b l).failure ≠ none ∨
      ¬stops v a ∧ (comsumeItem fromWhere a b l).failure = none ∧ ∃ w : Goods, w.goodsID = l.1 ∧ ¬stops w a ∧
        w = (if l.1 = itemIdGold ∧ ¬a.userFound then v else changed v (-l.2) fromWhere true false a) ∧
        (comsumeItem fromWhere a b l).state.goods = setGoods b.goods w ∧
        (comsumeItem fromWhere a b l).state.score = b.score - if l.1 = itemIdGold ∧ a.userFound then l.2 else 0 := by
  have hid : v.goodsID = l.1 := goodsID_of_find h
  have hstops : stops v a ↔ (v.goodsID = itemIdGold ∧ a.userFound ∧ ¬a.tableFound) ∨
      (a.online ∧ checkIsSpecCannonItem v.goodsID ∧ v.useTime ≠ 0 ∧ v.endTime = none) := by
    simp [stops, and_assoc]
  -- the change itself, once gold has been taken from the score
  have hchange : ∀ b' : BagCall.UserBag, b'.goods = b.goods → ¬(l.1 = itemIdGold ∧ ¬a.userFound) →
      (∀ o, o = changeItemCount b' l.1 (-l.2) fromWhere true false a → ¬stops v a →
        o.failure = none ∧ ∃ w : Goods, w.goodsID = l.1 ∧ ¬stops w a ∧
          w = (if l.1 = itemIdGold ∧ ¬a.userFound then v else changed v (-l.2) fromWhere true false a) ∧
          o.state.goods = setGoods b.goods w ∧ o.state.score = b'.score) := by
    rintro b' hb hgold o rfl hv
    have hf : b'.find l.1 = some v := by rw [BagCall.UserBag.find, hb]; exact h
    refine ⟨(failure_of_line hf fromWhere).2 fun hs => hv (hstops.2 (Or.inr hs)), changed v (-l.2) fromWhere true false a,
      ?_, ?_, ?_, ?_, ?_⟩
    · rw [goodsID_changed, hid]
    · exact stops_changed hv l.2 fromWhere
    · rw [if_neg hgold]
    · rw [goods_changeItemCount hf, hb]
    · exact score_changeItemCount b' l.1 (-l.2) fromWhere true false a
  unfold comsumeItem
  simp only [h]
  by_cases hg : l.1 = itemIdGold
  · rw [if_pos hg]
    have hspec : ¬checkIsSpecCannonItem v.goodsID := by
      rw [hid, hg]
      decide
    by_cases hu : a.userFound
    · by_cases ht : a.tableFound
      · have hv : ¬stops v a := fun hs => (hstops.1 hs).elim (fun h => h.2.2 ht) fun h => hspec h.2.1
        have hgold : ¬(l.1 = itemIdGold ∧ ¬a.userFound) := fun h => h.2 hu
        simp only [hu, ht, not_true_eq_false, if_false, if_true]
        obtain ⟨h1, w, h2, h3, h4, h5, h6⟩ := hchange { b with score := b.score - l.2 } rfl hgold _ rfl hv
        exact Or.inr ⟨hv, h1, w, h2, h3, by simpa [hu] using h4, h5, by rw [h6]; simp [hg]⟩
      · refine Or.inl ⟨hstops.2 (Or.inl ⟨hid.trans hg, hu, ht⟩), ?_⟩
        simp [hu, ht, Attempt.fail]
    · have hv : ¬stops v a := fun hs => (hstops.1 hs).elim (fun h => hu h.2.1) fun h => hspec h.2.1
      refine Or.inr ⟨hv, by simp [hu, Attempt.ok], v, hid, hv, by simp [hg, hu], ?_, ?_⟩
      · simp [hu, Attempt.ok, setGoods_self (show findGoods b.goods l.1 = some v from h)]
      · simp [hu, Attempt.ok]
  · rw [if_neg hg]
    have hgold : ¬(l.1 = itemIdGold ∧ ¬a.userFound) := fun h => hg h.1
    by_cases hv : stops v a
    · refine Or.inl ⟨hv, fun hnone => ?_⟩
      obtain hs | hs := hstops.1 hv
      · exact hg (hid.symm.trans hs.1)
      · exact (failure_of_line h fromWhere).1 hnone hs
    · obtain ⟨h1, w, h2, h3, h4, h5, h6⟩ := hchange b rfl hgold _ rfl hv
      exact Or.inr ⟨hv, h1, w, h2, h3, h4, h5, by rw [h6]; simp [hg]⟩

/-- What is left of an entry after a line, and after others. -/
theorem left_of_line {l : Nat × Int} (hid : v.goodsID = l.1) (hl : 0 < l.2) (fromWhere : ItemSystemType) {w : Goods}
    (hw : w = if l.1 = itemIdGold ∧ ¬a.userFound then v else changed v (-l.2) fromWhere true false a) :
    w.goodsCount = left v l.2 a ∧ ∀ m, 0 ≤ m → left w m a = left v (l.2 + m) a := by
  subst hw
  rw [← hid]
  by_cases hgold : v.goodsID = itemIdGold ∧ ¬a.userFound
  · have hleft : ∀ m, left v m a = v.goodsCount := fun m => by rw [left, if_pos hgold]
    rw [if_pos hgold]
    exact ⟨(hleft _).symm, fun m _ => by rw [hleft, hleft]⟩
  · rw [if_neg hgold]
    refine ⟨?_, fun m hm => left_changed fromWhere hl hgold hm⟩
    rw [goodsCount_changed v fromWhere a hl, left, if_neg hgold]

/-- The second loop comes to its end exactly when no entry stops it. -/
theorem failure_comsume_loop (fromWhere : ItemSystemType) : ∀ (itemlist : List (Nat × Int)) (b : BagCall.UserBag),
    (∀ l ∈ itemlist, ∃ v, b.find l.1 = some v) →
    ((Attempt.forEach (comsumeItem fromWhere a) itemlist b).failure = none ↔ ∀ l ∈ itemlist, ∀ v, b.find l.1 = some v →
      ¬stops v a) := by
  intro itemlist
  induction itemlist with
  | nil => exact fun b _ => iff_of_true rfl fun l hl => by cases hl
  | cons l itemlist ih =>
    intro b hfound
    obtain ⟨⟨v, hv⟩, hfrest⟩ := List.forall_mem_cons.1 hfound
    rw [failure_forEach_cons]
    obtain ⟨hstop, hfail⟩ | ⟨hgo, hok, w, hw, hwgo, -, hgoods, -⟩ := comsumeItem_cases (a := a) hv fromWhere
    · exact iff_of_false (fun h => hfail h.1) fun h => h l List.mem_cons_self v hv hstop
    · have hfind := findGoods_set hv hw
      rw [← hgoods] at hfind
      have hfound' := found_set hv hw hfrest
      rw [← hgoods] at hfound'
      rw [ih _ hfound']
      constructor
      · rintro ⟨-, h⟩ l' hl' v' hv'
        by_cases hg : l'.1 = l.1
        · rw [hg, hv, Option.some.injEq] at hv'
          rw [← hv']
          exact hgo
        · obtain rfl | hl' := List.mem_cons.1 hl'
          · exact absurd rfl hg
          · exact h l' hl' v' (by rw [BagCall.UserBag.find, hfind, if_neg hg]; exact hv')
      · refine fun h => ⟨hok, fun l' hl' v' hv' => ?_⟩
        rw [BagCall.UserBag.find, hfind] at hv'
        split at hv'
        · rw [← Option.some.inj hv']
          exact hwgo
        · exact h l' (List.mem_cons_of_mem l hl') v' hv'

/-- What the second loop takes from the score. -/
theorem score_comsume_loop (fromWhere : ItemSystemType) : ∀ (itemlist : List (Nat × Int)) (b : BagCall.UserBag),
    (∀ l ∈ itemlist, ∃ v, b.find l.1 = some v) → (Attempt.forEach (comsumeItem fromWhere a) itemlist b).failure = none →
    (Attempt.forEach (comsumeItem fromWhere a) itemlist b).state.score = b.score - if a.userFound then
      required itemlist itemIdGold else 0 := by
  intro itemlist
  induction itemlist with
  | nil => exact fun b _ _ => by simp [Attempt.forEach, Attempt.ok, required]
  | cons l itemlist ih =>
    intro b hfound hnone
    obtain ⟨⟨v, hv⟩, hfrest⟩ := List.forall_mem_cons.1 hfound
    obtain ⟨hok, hnone⟩ := failure_forEach_cons.1 hnone
    obtain ⟨-, hfail⟩ | ⟨-, -, w, hw, -, -, hgoods, hscore⟩ := comsumeItem_cases (a := a) hv fromWhere
    · exact absurd hok hfail
    have hfound' := found_set hv hw hfrest
    rw [← hgoods] at hfound'
    rw [forEach_cons_of_ok hok, ih _ hfound' hnone, hscore, required]
    by_cases hu : a.userFound
    · by_cases hg : l.1 = itemIdGold
      · simp only [hu, hg, and_self, if_true]
        omega
      · simp [hu, hg]
    · simp [hu]

/-- The condition on a call: the check refuses the list, or the bag has what the list takes of every item, all there is
of a cannon, and of a special cannon whose time is over while the user is online, and there are the user's record and
table, if gold is taken. -/
def gameSafe (b : BagCall.UserBag) (itemlist : List (Nat × Int)) (a : BagCall.Answers) : Bool :=
  !Spending.checkItem b.goods itemlist ||
    itemlist.all fun l => (b.find l.1).all fun v =>
      required itemlist l.1 ≤ v.goodsCount ∧
        (checkIsPaoTaiItem l.1 → required itemlist l.1 = v.goodsCount) ∧
        (checkIsSpecCannonItem l.1 ∧ a.online ∧ v.useTime ≠ 0 →
          v.endTime.any fun endTime => a.now < endTime ∨ required itemlist l.1 = v.goodsCount) ∧
        (l.1 = itemIdGold → a.userFound ∧ a.tableFound)

/-- What is promised of a call on a game server: gold is taken from the score as well. -/
def GameSpends (b : BagCall.UserBag) (itemlist : List (Nat × Int))
    (o : Attempt BagCall.UserBag BagCall.Failure × Bool) : Prop :=
  Spends b.goods itemlist o.1.failure.isSome o.2 o.1.state.goods ∧
    o.1.state.score = b.score - if o.2 then required itemlist itemIdGold else 0

/-- What the condition says of an entry is that it stops no change and exactly what is required is taken from it. -/
theorem entry_iff {R : Int} (hid : v.goodsID = g) (hR : 0 < R) :
    (R ≤ v.goodsCount ∧ (checkIsPaoTaiItem g → R = v.goodsCount) ∧
      (checkIsSpecCannonItem g ∧ a.online ∧ v.useTime ≠ 0 → v.endTime.any fun endTime => a.now < endTime ∨
        R = v.goodsCount) ∧
      (g = itemIdGold → a.userFound ∧ a.tableFound)) ↔
    R ≤ v.goodsCount ∧ ¬stops v a ∧ left v R a = v.goodsCount - R := by
  subst hid
  have hmax : R ≤ v.goodsCount → max 0 (v.goodsCount - R) = v.goodsCount - R := fun h => Int.max_eq_right (by omega)
  by_cases hg : v.goodsID = itemIdGold
  · have hp : checkIsPaoTaiItem itemIdGold = false := by decide
    have hs : checkIsSpecCannonItem itemIdGold = false := by decide
    cases hu : a.userFound with
    | false =>
      simp only [hg, hp, hs, hu, left, Bool.false_eq_true, false_and, and_false, not_false_eq_true, and_self, if_true,
        forall_const, false_iff, not_and]
      omega
    | true =>
      cases ht : a.tableFound with
      | false => simp [hg, hu, ht, stops]
      | true =>
        simp only [hg, hp, hs, hu, ht, left, stops, Bool.false_eq_true, false_and, and_false, or_self,
          not_true_eq_false, if_false]
        simp only [false_implies, true_and, and_true, Bool.and_false, Bool.false_and, Bool.and_true, Bool.not_true,
          decide_true, Bool.or_self, Bool.false_eq_true, not_false_eq_true, implies_true]
        exact ⟨fun h => ⟨h, hmax h⟩, fun h => h.1⟩
  · have hgold : ¬(v.goodsID = itemIdGold ∧ ¬a.userFound) := fun h => hg h.1
    have hstops : stops v a ↔ a.online ∧ checkIsSpecCannonItem v.goodsID ∧ v.useTime ≠ 0 ∧ v.endTime = none := by
      simp [stops, hg, and_assoc]
    rw [left, if_neg hgold]
    by_cases hs : a.online ∧ checkIsSpecCannonItem v.goodsID ∧ v.useTime ≠ 0
    · have hp : ¬checkIsPaoTaiItem v.goodsID := fun hp => (kinds_disjoint v.goodsID).2.1 ⟨hp, hs.2.1⟩
      cases he : v.endTime with
      | none =>
        exact iff_of_false (fun h => by simpa [he] using h.2.2.1 ⟨hs.2.1, hs.1, hs.2.2⟩)
          fun h => h.2.1 (hstops.2 ⟨hs.1, hs.2.1, hs.2.2, he⟩)
      | some e =>
        have hexp : expired v a.now ↔ e ≤ a.now := by
          rw [expired_of_specCannon hs.2.1, he]
          simp [hs.2.2]
        have hgo : ¬stops v a := fun h => by simpa [he] using (hstops.1 h).2.2.2
        simp only [hp, hg, hgo, hexp, hs, Option.any_some, decide_eq_true_eq, false_implies, not_false_eq_true, and_self,
          true_and, and_true, forall_const, false_or, ne_eq, Bool.false_eq_true]
        by_cases hle : e ≤ a.now
        · simp only [hle, if_true]
          omega
        · simp only [hle, if_false]
          have hlt : a.now < e := by omega
          exact ⟨fun h => ⟨h.1, hmax h.1⟩, fun h => ⟨h.1, Or.inl hlt⟩⟩
    · have hgo : ¬stops v a := fun h => hs ⟨(hstops.1 h).1, (hstops.1 h).2.1, (hstops.1 h).2.2.1⟩
      have hnexp : ¬(a.online ∧ checkIsSpecCannonItem v.goodsID ∧ expired v a.now) := fun h =>
        hs ⟨h.1, h.2.1, ((expired_of_specCannon h.2.1 a.now).1 h.2.2).1⟩
      have hnspec : ¬(checkIsSpecCannonItem v.goodsID ∧ a.online ∧ v.useTime ≠ 0) := fun h => hs ⟨h.2.1, h.1, h.2.2⟩
      simp only [hg, hgo, hnexp, hnspec, Bool.false_eq_true, false_implies, not_false_eq_true, true_and, and_true, or_false]
      by_cases hp : checkIsPaoTaiItem v.goodsID
      · simp only [hp, if_true, forall_const]
        omega
      · simp only [hp, Bool.false_eq_true, false_implies, and_true, if_false]
        exact ⟨fun h => ⟨h, hmax h⟩, fun h => h.1⟩

/-- On a game server a call does what is promised exactly under the condition. -/
theorem gameSpends_iff (b : BagCall.UserBag) (itemlist : List (Nat × Int)) (fromWhere : ItemSystemType) (a : BagCall.Answers)
    (hnodup : (b.goods.map Goods.goodsID).Nodup) (hpos : ∀ l ∈ itemlist, 0 < l.2) :
    GameSpends b itemlist (BagCall.checkItemAndComsume b itemlist fromWhere a) ↔ gameSafe b itemlist a := by
  unfold BagCall.checkItemAndComsume gameSafe GameSpends
  by_cases hcheck : Spending.checkItem b.goods itemlist
  swap
  · simp only [hcheck, Bool.false_eq_true, if_false, Attempt.ok, Int.sub_zero, and_true, Bool.not_false,
      Bool.true_or, iff_true]
    exact spends_of_refused hpos hcheck
  have hfound : ∀ l ∈ itemlist, ∃ v, b.find l.1 = some v := fun l hl => find_of_checked hcheck hl
  have hfail := failure_comsume_loop (a := a) fromWhere itemlist b hfound
  have hscore := score_comsume_loop (a := a) fromWhere itemlist b hfound
  have turn : ∀ (s : BagCall.UserBag) (x : Nat × Int) (v : Goods), (s.goods.map Goods.goodsID).Nodup →
    findGoods s.goods x.1 = some v → 0 < x.2 →
      (comsumeItem fromWhere a s x).failure = none → ∃ w : Goods, w.goodsID = x.1 ∧ w.goodsCount = left v x.2 a ∧
        (∀ m, 0 ≤ m → left w m a = left v (x.2 + m) a) ∧ (comsumeItem fromWhere a s x).state.goods = setGoods s.goods w := by
    intro s x v _ hv hx hok
    obtain ⟨-, hbad⟩ | ⟨-, -, w, hw, -, heq, hgoods, -⟩ := comsumeItem_cases (a := a) hv fromWhere
    · exact absurd hok hbad
    · obtain ⟨hcount, hleft⟩ := left_of_line (goodsID_of_find hv) hx fromWhere heq
      exact ⟨w, hw, hcount, hleft, hgoods⟩
  have hcounts := counts_of_loop id (fun v n => left v n a) turn itemlist b hnodup (by simpa using hpos)
    (by simpa [BagCall.UserBag.find] using hfound)
  simp only [List.map_id_fun, id] at hcounts
  have hreq : ∀ l ∈ itemlist, 0 < required itemlist l.1 := fun l hl => by
    have := le_required hpos hl
    have := hpos l hl
    omega
  simp only [hcheck, if_true, Bool.not_true, Bool.false_or, List.all_eq_true, Option.all_eq_true]
  rw [spends_iff (fun v n => left v n a) hfound fun h => hcounts (Option.not_isSome_iff_eq_none.1 h),
    Option.not_isSome_iff_eq_none, hfail]
  constructor
  · rintro ⟨⟨hgo, h⟩, -⟩ l hl v hv
    have hl' := h l hl v hv
    exact decide_eq_true ((entry_iff (goodsID_of_find hv) (hreq l hl)).2 ⟨hl'.1, hgo l hl v hv, hl'.2⟩)
  · intro h
    have hentry : ∀ l ∈ itemlist, ∀ v, b.find l.1 = some v → required itemlist l.1 ≤ v.goodsCount ∧ ¬stops v a ∧
        left v (required itemlist l.1) a = v.goodsCount - required itemlist l.1 := fun l hl v hv =>
      (entry_iff (goodsID_of_find hv) (hreq l hl)).1 (of_decide_eq_true (h l hl v hv))
    have hgo : ∀ l ∈ itemlist, ∀ v, b.find l.1 = some v → ¬stops v a := fun l hl v hv => (hentry l hl v hv).2.1
    refine ⟨⟨hgo, fun l hl v hv => ⟨(hentry l hl v hv).1, (hentry l hl v hv).2.2⟩⟩, ?_⟩
    rw [hscore (hfail.2 hgo)]
    by_cases hu : a.userFound
    · rw [if_pos hu]
    · have hnot : itemIdGold ∉ itemlist.map Prod.fst := by
        intro hg
        obtain ⟨l, hl, hlg⟩ := List.mem_map.1 hg
        obtain ⟨v, hv⟩ := hfound l hl
        have hleft := (hentry l hl v hv).2.2
        rw [left, if_pos ⟨(goodsID_of_find hv).trans hlg, hu⟩] at hleft
        have := hreq l hl
        omega
      rw [if_neg hu, required_of_notMem hnot]

end GameServer

/-! ## The login server -/

section LoginServer

open LoginCall

variable {b : LoginCall.UserBag} {v : Goods}

/-- What is left of an entry, when `n` have been taken in any number of changes. -/
def leftOf (v : Goods) (n : Int) : Int :=
  if checkIsPaoTaiItem v.goodsID ∨ checkIsSpecCannonItem v.goodsID then 0 else max 0 (v.goodsCount - n)

theorem leftOf_add {w : Goods} {n m : Int} (hid : w.goodsID = v.goodsID) (hw : w.goodsCount = leftOf v n) (hm : 0 ≤ m) :
    leftOf w m = leftOf v (n + m) := by
  unfold leftOf at hw ⊢
  rw [hid, hw]
  split
  · rfl
  · omega

/-- The count of an entry on the login server after one line of the list. -/
theorem goodsCount_changeGoods (v : Goods) {n : Int} (hn : 0 < n) :
    (LoginBag.changeGoods v (-n)).goodsCount = leftOf v n := by
  have hneg : ¬-n > 0 := by omega
  unfold LoginBag.changeGoods leftOf
  dsimp only
  by_cases hk : checkIsPaoTaiItem v.goodsID ∨ checkIsSpecCannonItem v.goodsID
  · simp only [hk, hneg, if_true, if_false]
    rfl
  · by_cases hc : v.goodsCount + -n < 0
    · simp only [hk, hc, if_false, if_true]
      omega
    · simp only [hk, hc, if_false]
      omega

theorem goodsCount_written (v : Goods) {n : Int} (now : Int) (hn : 0 < n) :
    (written v (-n) now).goodsCount = leftOf v n := by
  unfold written
  split
  · exact goodsCount_changeGoods v hn
  · rw [Goods.goodsCount_changeTime, goodsCount_changeGoods v hn]

/-- The count of an entry after it has been written and reported. -/
theorem goodsCount_reported (v : Goods) {n : Int} (now : Int) (hn : 0 < n) (hk : isTimed v.goodsID) :
    (informed (written v (-n) now) now).goodsCount = leftOf v n := by
  rw [goodsCount_informed, goodsCount_written v now hn]
  split
  · rename_i hexp
    obtain ⟨e, he, hlt⟩ := endTime_written (-n) now (not_ordinary_of_isTimed hk)
    have hnone : ¬0 < (written v (-n) now).goodsCount := fun hc => not_expired_of_lt he (hlt hc) hexp
    rw [goodsCount_written v now hn] at hnone
    have hleft : 0 ≤ leftOf v n := by
      unfold leftOf
      split
      · exact Int.le_refl 0
      · exact Int.le_max_left _ _
    omega
  · rfl

/-- One line of the list changes the entry of its item, and stops only without the user's record,
when it has been written. -/
theorem comsumeItem_login {x : (Nat × Int) × Bool} (hnodup : (b.goods.map Goods.goodsID).Nodup) (h : b.find x.1.1 = some v)
    (hx : 0 < x.1.2) (fromWhere : ItemSystemType) (user : Option LoginUser) (now : Int) :
    (∃ w : Goods, w.goodsID = x.1.1 ∧ w.goodsCount = leftOf v x.1.2 ∧
        (LoginCall.comsumeItem fromWhere user now b x).state.goods = setGoods b.goods w) ∧
      ((LoginCall.comsumeItem fromWhere user now b x).failure = none ↔
        user.isSome ∨ (writeRows b.itemCounts x.1.1 (-x.1.2) x.2).2 ≠ 0) ∧
      (user = none →
        (LoginCall.comsumeItem fromWhere user now b x).state.itemCounts =
          (writeRows b.itemCounts x.1.1 (-x.1.2) x.2).1) := by
  have hid : v.goodsID = x.1.1 := goodsID_of_find h
  rw [comsumeItem_eq hnodup h]
  by_cases hcode : (writeRows b.itemCounts x.1.1 (-x.1.2) x.2).2 = 0
  swap
  · rw [changeItemCount_of_refused (a := ⟨user, x.2, now⟩) h fromWhere hcode]
    refine ⟨⟨LoginBag.changeGoods v (-x.1.2), (LoginBag.goodsID_changeGoods _ _).trans hid, goodsCount_changeGoods v hx, ?_⟩,
      iff_of_true rfl (Or.inr hcode), fun _ => rfl⟩
    exact congrArg (setGoods · _) (announce_eq b x.1.1 (-x.1.2) fromWhere user).1
  rw [changeItemCount_of_written (a := ⟨user, x.2, now⟩) h fromWhere hcode]
  generalize hbw : afterWrite b v (-x.1.2) fromWhere ⟨user, x.2, now⟩ = bw
  have hgoods : bw.goods = setGoods b.goods (written v (-x.1.2) now) := by rw [← hbw]; rfl
  have hrows : bw.itemCounts = (writeRows b.itemCounts x.1.1 (-x.1.2) x.2).1 := by rw [← hbw, ← hid]; rfl
  have hfind : bw.find x.1.1 = some (written v (-x.1.2) now) := hbw ▸ find_afterWrite (a := ⟨user, x.2, now⟩) h fromWhere
  have hwid : (written v (-x.1.2) now).goodsID = x.1.1 := (goodsID_written _ _ _).trans hid
  cases user with
  | none =>
    have hstop : returned (goodsInfo bw x.1.1 ⟨none, x.2, now⟩) = .fail bw .user := rfl
    simp only [needsNotify, Option.any_none, Bool.not_false, if_true, hstop]
    refine ⟨⟨_, hwid, goodsCount_written v now hx, hgoods⟩, ?_, fun _ => hrows⟩
    simp [Attempt.fail, hcode]
  | some u =>
    have hinfo : (goodsInfo bw x.1.1 ⟨some u, x.2, now⟩).failure = none := by
      refine (failure_goodsInfo_iff hfind ⟨some u, x.2, now⟩).2 ⟨rfl, fun hend => ?_⟩
      obtain ⟨e, he, -⟩ := endTime_written (v := v) (-x.1.2) now (by rw [hid]; exact not_ordinary_of_isTimed hend.2.1)
      simpa [endless, he] using hend.2.2
    rw [returned_of_ne (by split <;> simp [hinfo, Attempt.ok])]
    refine ⟨?_, iff_of_true (by split <;> simp [hinfo, Attempt.ok]) (Or.inl rfl), fun h => absurd h (Option.some_ne_none u)⟩
    split
    · rw [goods_goodsInfo hfind, hgoods]
      split
      · rename_i hk
        refine ⟨informed (written v (-x.1.2) now) now, (goodsID_informed _ _).trans hwid, ?_,
          setGoods_setGoods (goodsID_informed _ _).symm b.goods⟩
        exact goodsCount_reported v now hx (by rw [hid]; exact (Bool.and_eq_true _ _ ▸ hk).2)
      · exact ⟨_, hwid, goodsCount_written v now hx, rfl⟩
    · exact ⟨_, hwid, goodsCount_written v now hx, hgoods⟩

/-- None of the writes of a list is successful. -/
def noneWritten : (Nat → Option Int) → List ((Nat × Int) × Bool) → Bool
  | _, [] => true
  | rows, x :: itemlist =>
    (writeRows rows x.1.1 (-x.1.2) x.2).2 ≠ 0 && noneWritten (writeRows rows x.1.1 (-x.1.2) x.2).1 itemlist

/-- The condition on a call: the check refuses the list, or the bag has what the list takes of every item, and all there is
of a cannon, and there is the user's record, unless no write is successful. -/
def loginSafe (b : LoginCall.UserBag) (itemlist : List ((Nat × Int) × Bool)) (user : Option LoginUser) : Bool :=
  !Spending.checkItem b.goods (itemlist.map Prod.fst) ||
    ((itemlist.map Prod.fst).all fun l => (b.find l.1).all fun v =>
      required (itemlist.map Prod.fst) l.1 ≤ v.goodsCount ∧
        (checkIsPaoTaiItem l.1 ∨ checkIsSpecCannonItem l.1 → required (itemlist.map Prod.fst) l.1 = v.goodsCount)) &&
    (user.isSome || noneWritten b.itemCounts itemlist)

/-- What is promised of a call on the login server. -/
def LoginSpends (b : LoginCall.UserBag) (itemlist : List (Nat × Int))
    (o : Attempt LoginCall.UserBag LoginCall.Failure × Bool) : Prop :=
  Spends b.goods itemlist o.1.failure.isSome o.2 o.1.state.goods

/-- The second loop comes to its end with the user's record, or when no write is successful. -/
theorem failure_login_loop (fromWhere : ItemSystemType) (user : Option LoginUser) (now : Int) :
    ∀ (itemlist : List ((Nat × Int) × Bool)) (b : LoginCall.UserBag), (b.goods.map Goods.goodsID).Nodup →
      (∀ l ∈ itemlist.map Prod.fst, 0 < l.2) →
    (∀ l ∈ itemlist.map Prod.fst, ∃ v, b.find l.1 = some v) →
    ((Attempt.forEach (LoginCall.comsumeItem fromWhere user now) itemlist b).failure = none ↔
      user.isSome || noneWritten b.itemCounts itemlist) := by
  intro itemlist
  induction itemlist with
  | nil => exact fun b _ _ _ => iff_of_true rfl (by simp [noneWritten])
  | cons x itemlist ih =>
    intro b hnodup hpos hfound
    obtain ⟨hx, hrest⟩ := List.forall_mem_cons.1 hpos
    obtain ⟨⟨v, hv⟩, hfrest⟩ := List.forall_mem_cons.1 hfound
    obtain ⟨⟨w, hw, -, hgoods⟩, hok, hrows⟩ := comsumeItem_login hnodup hv hx fromWhere user now
    have hnodup' : ((LoginCall.comsumeItem fromWhere user now b x).state.goods.map Goods.goodsID).Nodup := by
      rwa [hgoods, goodsIDs_setGoods]
    have hfound' := found_set hv hw hfrest
    rw [← hgoods] at hfound'
    rw [failure_forEach_cons, ih _ hnodup' hrest hfound', hok]
    cases user with
    | none => simp [hrows rfl, noneWritten]
    | some u => simp

/-- On the login server a call does what is promised exactly under the condition. -/
theorem loginSpends_iff (b : LoginCall.UserBag) (itemlist : List ((Nat × Int) × Bool)) (fromWhere : ItemSystemType)
    (user : Option LoginUser) (now : Int) (hnodup : (b.goods.map Goods.goodsID).Nodup)
    (hpos : ∀ l ∈ itemlist.map Prod.fst, 0 < l.2) :
    LoginSpends b (itemlist.map Prod.fst) (LoginCall.checkItemAndComsume b itemlist fromWhere user now) ↔
      loginSafe b itemlist user := by
  unfold LoginCall.checkItemAndComsume loginSafe LoginSpends
  by_cases hcheck : Spending.checkItem b.goods (itemlist.map Prod.fst)
  swap
  · simp only [hcheck, Bool.false_eq_true, if_false, Attempt.ok, Bool.not_false, Bool.true_or, iff_true]
    exact spends_of_refused hpos hcheck
  have hfound : ∀ l ∈ itemlist.map Prod.fst, ∃ v, b.find l.1 = some v := fun l hl => find_of_checked hcheck hl
  have hfail := failure_login_loop fromWhere user now itemlist b hnodup hpos hfound
  have turn : ∀ (s : LoginCall.UserBag) (x : (Nat × Int) × Bool) (v : Goods), (s.goods.map Goods.goodsID).Nodup →
      findGoods s.goods x.1.1 = some v → 0 < x.1.2 →
      (LoginCall.comsumeItem fromWhere user now s x).failure = none → ∃ w : Goods, w.goodsID = x.1.1 ∧
        w.goodsCount = leftOf v x.1.2 ∧
        (∀ m, 0 ≤ m → leftOf w m = leftOf v (x.1.2 + m)) ∧
        (LoginCall.comsumeItem fromWhere user now s x).state.goods = setGoods s.goods w := by
    intro s x v hn hv hx _
    obtain ⟨⟨w, hw, hcount, hgoods⟩, -, -⟩ := comsumeItem_login hn hv hx fromWhere user now
    exact ⟨w, hw, hcount, fun m hm => leftOf_add (hw.trans (goodsID_of_find hv).symm) hcount hm, hgoods⟩
  have hcounts := counts_of_loop Prod.fst leftOf turn itemlist b hnodup hpos hfound
  have hentry : ∀ (v : Goods) (R : Int), (R ≤ v.goodsCount ∧ leftOf v R = v.goodsCount - R) ↔
      (R ≤ v.goodsCount ∧ (checkIsPaoTaiItem v.goodsID ∨ checkIsSpecCannonItem v.goodsID → R = v.goodsCount)) := by
    intro v R
    unfold leftOf
    by_cases hk : checkIsPaoTaiItem v.goodsID ∨ checkIsSpecCannonItem v.goodsID
    · simp only [hk, if_true, forall_const]
      omega
    · simp only [hk, if_false, false_implies, and_true, and_iff_left_iff_imp]
      exact fun h => Int.max_eq_right (by omega)
  simp only [hcheck, if_true, Bool.not_true, Bool.false_or, Bool.and_eq_true, List.all_eq_true, Option.all_eq_true]
  rw [spends_iff leftOf hfound fun h => hcounts (Option.not_isSome_iff_eq_none.1 h), Option.not_isSome_iff_eq_none,
    hfail, and_comm]
  refine and_congr_left fun _ => forall_congr' fun l => forall_congr' fun hl => forall_congr'
    fun v => forall_congr' fun hv => ?_
  rw [hentry, goodsID_of_find hv, decide_eq_true_eq]

end LoginServer

/-- On both servers: for every bag with different items and every list with positive counts, a call does what is promised
(it returns whether the bag has what the list takes of every item, and takes exactly that or nothing) exactly under the
condition for the server. -/
theorem checkItemAndComsume_iff (fromWhere : ItemSystemType) :
    (∀ (b : BagCall.UserBag) (itemlist : List (Nat × Int)) (a : BagCall.Answers), (b.goods.map Goods.goodsID).Nodup →
      (∀ l ∈ itemlist, 0 < l.2) →
        (GameSpends b itemlist (BagCall.checkItemAndComsume b itemlist fromWhere a) ↔ gameSafe b itemlist a)) ∧
    (∀ (b : LoginCall.UserBag) (itemlist : List ((Nat × Int) × Bool)) (user : Option LoginCall.LoginUser) (now : Int),
      (b.goods.map Goods.goodsID).Nodup → (∀ l ∈ itemlist.map Prod.fst, 0 < l.2) →
        (LoginSpends b (itemlist.map Prod.fst) (LoginCall.checkItemAndComsume b itemlist fromWhere user now) ↔
          loginSafe b itemlist user)) :=
  ⟨fun b itemlist a hnodup hpos => gameSpends_iff b itemlist fromWhere a hnodup hpos,
    fun b itemlist user now hnodup hpos => loginSpends_iff b itemlist fromWhere user now hnodup hpos⟩

/-- A bag with jewels only. -/
def jewels (n : Int) : List Goods := [⟨itemIdJewel, n, n, 0, some 0⟩]

/-- Two and three of six jewels. -/
theorem checkItemAndComsume_iff_jewels :
    GameSpends ⟨jewels 6, 0, fun _ => 0, []⟩ [(itemIdJewel, 2), (itemIdJewel, 3)]
        (BagCall.checkItemAndComsume ⟨jewels 6, 0, fun _ => 0, []⟩ [(itemIdJewel, 2), (itemIdJewel, 3)] .byCompose
          ⟨true, true, true, 100⟩) ∧
      LoginSpends ⟨jewels 6, fun _ => some 6, fun _ => 0, [], []⟩ [(itemIdJewel, 2), (itemIdJewel, 3)]
        (LoginCall.checkItemAndComsume ⟨jewels 6, fun _ => some 6, fun _ => 0, [], []⟩
          [((itemIdJewel, 2), false), ((itemIdJewel, 3), true)]
          .byCompose (some ⟨0, false, true⟩) 100) :=
  ⟨((checkItemAndComsume_iff .byCompose).1 ⟨jewels 6, 0, fun _ => 0, []⟩ [(itemIdJewel, 2), (itemIdJewel, 3)]
    ⟨true, true, true, 100⟩
      (by decide) (by decide)).2 (by decide),
    ((checkItemAndComsume_iff .byCompose).2 ⟨jewels 6, fun _ => some 6, fun _ => 0, [], []⟩
      [((itemIdJewel, 2), false), ((itemIdJewel, 3), true)] (some ⟨0, false, true⟩) 100 (by decide) (by decide)).2
        (by decide)⟩

/-- Three and three of five jewels: each line passes the check by itself, both servers return true, and one
jewel has not been there. -/
theorem five_jewels_spent_as_six :
    (¬∀ (b : BagCall.UserBag) (itemlist : List (Nat × Int)) (fromWhere : ItemSystemType) (a : BagCall.Answers),
      (b.goods.map Goods.goodsID).Nodup → (∀ l ∈ itemlist, 0 < l.2) →
        GameSpends b itemlist (BagCall.checkItemAndComsume b itemlist fromWhere a)) ∧
    (¬∀ (b : LoginCall.UserBag) (itemlist : List ((Nat × Int) × Bool)) (fromWhere : ItemSystemType)
      (user : Option LoginCall.LoginUser)
      (now : Int), (b.goods.map Goods.goodsID).Nodup → (∀ l ∈ itemlist.map Prod.fst, 0 < l.2) →
        LoginSpends b (itemlist.map Prod.fst) (LoginCall.checkItemAndComsume b itemlist fromWhere user now)) := by
  constructor
  · intro h
    have hspends :=
      (h ⟨jewels 5, 0, fun _ => 0, []⟩ [(itemIdJewel, 3), (itemIdJewel, 3)] .byCompose ⟨true, true, true, 100⟩ (by decide)
      (by decide)).1
    exact absurd (hspends.returns.1 rfl) (by decide)
  · intro h
    have hspends :=
      h ⟨jewels 5, fun _ => some 5, fun _ => 0, [], []⟩ [((itemIdJewel, 3), false), ((itemIdJewel, 3), false)] .byCompose
      (some ⟨0, false, true⟩) 100 (by decide) (by decide)
    exact absurd (hspends.returns.1 rfl) (by decide)

end SasyServer.Comsume
