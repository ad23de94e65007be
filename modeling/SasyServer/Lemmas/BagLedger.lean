import Mathlib.Algebra.BigOperators.Group.List.Basic
import Mathlib.Algebra.Ring.Int.Defs
import Mathlib.Data.List.Nodup
import SasyServer.Bag.Service
import SasyServer.Lib.Waiting

/-!
# Lemmas: the ledger of one item of one bag

Sums over the entries of an item, what the requests of the log have stored of it, and the invariant that ties them
together. The invariant is about one user, the user's list and one ordinary item; everything that happens to other users,
lists and items is unrestricted.
-/

namespace SasyServer.Bag

/-- The sum of a field over the entries of an item. -/
def sumOf (f : Goods → Int) (goodsID : Nat) (list : List Goods) : Int :=
  (list.map fun v => if v.goodsID = goodsID then f v else 0).sum

/-- The count of an item. -/
def count (list : List Goods) (goodsID : Nat) : Int := sumOf Goods.goodsCount goodsID list

/-- What is still to be written of an item. -/
def pending (list : List Goods) (goodsID : Nat) : Int := sumOf (fun v => v.goodsCount - v.oldGoodsCount) goodsID list

/-- What a request adds to the stored count of an item, if it succeeds. -/
def Request.stores (userID goodsID : Nat) : Request → Int
  | .insertBag u g itemCount _ => if u = userID ∧ g = goodsID then itemCount else 0
  | .writeBag u g addCount retCode => if u = userID ∧ g = goodsID ∧ retCode = 0 then addCount else 0
  | _ => 0

/-- What the requests of a log have added to the stored count of an item. -/
def stored (log : List Request) (userID goodsID : Nat) : Int := (log.map (Request.stores userID goodsID)).sum

/-- What a waiting handler is going to add to the count of an item. -/
def Thread.adds (userID goodsID : Nat) : Thread → Int
  | .add c => if c.userID = userID ∧ c.goodsID = goodsID then c.goodsCount else 0
  | _ => 0

/-- What the waiting handlers are going to add to the count of an item. -/
def waiting (suspended : List Thread) (userID goodsID : Nat) : Int := (suspended.map (Thread.adds userID goodsID)).sum

/-! ## Sums -/

theorem sumOf_append (f : Goods → Int) (g : Nat) (a b : List Goods) : sumOf f g (a ++ b) = sumOf f g a + sumOf f g b := by
  simp only [sumOf, List.map_append, List.sum_append]

/-- An entry of the item that changes in place. -/
theorem sumOf_set (f : Goods → Int) (g : Nat) {list : List Goods} {k : Nat} {v w : Goods} (hk : list[k]? = some v)
    (hid : w.goodsID = v.goodsID) : sumOf f g (list.set k w) = sumOf f g list + if v.goodsID = g then f w - f v else 0 := by
  induction list generalizing k with
  | nil => simp at hk
  | cons x list ih =>
    cases k with
    | zero =>
      cases Option.some.inj hk
      simp only [sumOf, List.set_cons_zero, List.map_cons, List.sum_cons, hid]
      split <;> omega
    | succ k =>
      have := ih (k := k) (by simpa using hk)
      simp only [sumOf] at this
      simp only [sumOf, List.set_cons_succ, List.map_cons, List.sum_cons, this]
      omega

/-- What is pending is the difference of the two counts. -/
theorem pending_eq (list : List Goods) (g : Nat) : pending list g = count list g - sumOf Goods.oldGoodsCount g list := by
  unfold pending count
  induction list with
  | nil => rfl
  | cons v list ih =>
    simp only [sumOf] at ih
    simp only [sumOf, List.map_cons, List.sum_cons, ih]
    split <;> omega

/-- Nothing is pending in a list as it is loaded. -/
theorem sumOf_old_of_balanced {list : List Goods} (h : ∀ v ∈ list, v.goodsCount = v.oldGoodsCount) (g : Nat) :
    sumOf Goods.oldGoodsCount g list = count list g := by
  unfold count sumOf
  congr 1
  refine List.map_congr_left ?_
  intro v hv
  rw [h v hv]

theorem waiting_append (a b : List Thread) (u g : Nat) : waiting (a ++ b) u g = waiting a u g + waiting b u g := by
  simp only [waiting, List.map_append, List.sum_append]

theorem waiting_singleton (t : Thread) (u g : Nat) : waiting [t] u g = t.adds u g := by
  simp only [waiting, List.map_cons, List.map_nil, List.sum_cons, List.sum_nil, add_zero]

/-- A handler that stops waiting. -/
theorem waiting_eraseIdx {ts : List Thread} {k : Nat} {t : Thread} (hk : ts[k]? = some t) (u g : Nat) :
    waiting ts u g = waiting (ts.eraseIdx k) u g + t.adds u g :=
  Waiting.sum_map_eraseIdx hk _

/-- `changeFirst` changes one entry in place, the one `find?` finds. -/
theorem changeFirst_eq_some {g : Nat} {f : Goods → Goods} {list list' : List Goods} (h : changeFirst g f list = some list') :
    ∃ k v, list[k]? = some v ∧ v.goodsID = g ∧ list.find? (fun v => v.goodsID = g) = some v ∧ list' = list.set k (f v) := by
  induction list generalizing list' with
  | nil => simp [changeFirst] at h
  | cons x list ih =>
    rw [changeFirst] at h
    split at h
    · rename_i hx
      cases h
      exact ⟨0, x, rfl, hx, by simp [hx], rfl⟩
    · rename_i hx
      rw [Option.map_eq_some_iff] at h
      obtain ⟨rest, hrest, rfl⟩ := h
      obtain ⟨k, v, hk, hv, hf, rfl⟩ := ih hrest
      exact ⟨k + 1, v, by simpa using hk, hv, by simp [hx, hf], rfl⟩

/-- Without an entry of the item there is nothing to find. -/
theorem changeFirst_eq_none {g : Nat} {f : Goods → Goods} {list : List Goods} (h : changeFirst g f list = none) :
    list.find? (fun v => v.goodsID = g) = none := by
  induction list with
  | nil => rfl
  | cons x list ih =>
    rw [changeFirst] at h
    split at h
    · cases h
    · rename_i hx
      rw [Option.map_eq_none_iff] at h
      simp [hx, ih h]

/-- The first entry of an item, when `changeFirst` changes it. -/
theorem find?_changeFirst {g : Nat} {f : Goods → Goods} {list list' : List Goods} {v : Goods}
    (h : changeFirst g f list = some list') (hf : list.find? (fun v => v.goodsID = g) = some v)
    (hid : (f v).goodsID = g) :
    list'.find? (fun v => v.goodsID = g) = some (f v) := by
  induction list generalizing list' with
  | nil => simp [changeFirst] at h
  | cons x list ih =>
    rw [changeFirst] at h
    by_cases hx : x.goodsID = g
    · simp only [List.find?_cons, hx, decide_true, Option.some.injEq] at hf
      simp only [hx, if_true, Option.some.injEq] at h
      subst hf h
      simp [hid]
    · simp only [List.find?_cons, hx, decide_false] at hf
      simp only [hx, if_false, Option.map_eq_some_iff] at h
      obtain ⟨rest, hrest, rfl⟩ := h
      simp [hx, ih hrest hf]

/-! ## Counts -/

/-- An entry in its place, in a list whose items are different. -/
theorem getItemCount_of_nodup {list : List Goods} {k : Nat} {v : Goods} (hnodup : (list.map Goods.goodsID).Nodup)
    (hk : list[k]? = some v) : getItemCount list v.goodsID = v.goodsCount := by
  have hmem := List.mem_of_getElem? hk
  cases hf : list.find? fun x => x.goodsID = v.goodsID with
  | none => exact absurd (List.find?_eq_none.1 hf v hmem) (by simp)
  | some x =>
    have hx : x.goodsID = v.goodsID := by simpa using List.find?_some hf
    have hxv := List.inj_on_of_nodup_map hnodup (List.mem_of_find?_eq_some hf) hmem hx
    rw [getItemCount, hf, hxv, Option.map_some, Option.getD_some]

/-- An entry that changes in place and keeps its count, if it is one of the item. -/
theorem getItemCount_set {list : List Goods} {g k : Nat} {v w : Goods} (hk : list[k]? = some v) (hid : w.goodsID = v.goodsID)
    (hcount : v.goodsID = g → w.goodsCount = v.goodsCount) : getItemCount (list.set k w) g = getItemCount list g := by
  induction list generalizing k with
  | nil => rfl
  | cons x list ih =>
    cases k with
    | zero =>
      cases Option.some.inj hk
      by_cases hv : v.goodsID = g
      · simp [getItemCount, hid, hv, hcount hv]
      · simp [getItemCount, hid, hv]
    | succ k =>
      have hrest := ih (k := k) (by simpa using hk)
      by_cases hx : x.goodsID = g
      · simp [getItemCount, hx]
      · simpa [getItemCount, hx] using hrest

/-- An entry at the end. -/
theorem getItemCount_append {g : Nat} (list : List Goods) (item : Goods) (hnew : item.goodsID ∉ list.map Goods.goodsID) :
    getItemCount (list ++ [item]) g = getItemCount list g + if item.goodsID = g then item.goodsCount else 0 := by
  simp only [getItemCount, List.find?_append]
  cases hf : list.find? fun v => v.goodsID = g with
  | none =>
    by_cases hg : item.goodsID = g
    · simp [hg]
    · simp [hg]
  | some v =>
    have hv : v.goodsID = g := by simpa using List.find?_some hf
    have hg : item.goodsID ≠ g := fun hh => hnew (List.mem_map.2 ⟨v, List.mem_of_find?_eq_some hf, hv.trans hh.symm⟩)
    simp [hg]

/-! ## Entries -/

theorem Goods.goodsID_changeTime (v : Goods) (c now : Int) : (v.changeTime c now).goodsID = v.goodsID := by
  unfold Goods.changeTime
  dsimp only
  repeat' split
  all_goals rfl

theorem Goods.goodsID_change (v : Goods) (c : Int) (w : ItemSystemType) (r : Bool) (now : Int) :
    (v.change c w r now).goodsID = v.goodsID := by
  unfold Goods.change
  simp only [apply_ite Goods.goodsID, Goods.goodsID_changeTime, ite_self]

/-- A change of an ordinary item that does not come from the login server and whose result is not negative. -/
theorem Goods.change_ordinary {v : Goods} {c : Int} {w : ItemSystemType} {r : Bool} (now : Int) (hv : isOrdinary v.goodsID)
    (hw : ¬isOperatorByLoginServer w) (hc : 0 ≤ if r then c else v.goodsCount + c) :
    v.change c w r now = { v with goodsCount := if r then c else v.goodsCount + c } := by
  simp only [isOrdinary, Bool.and_eq_true, Bool.not_eq_true'] at hv
  have hn : ¬(if r then c else v.goodsCount + c) < 0 := Int.not_lt.2 hc
  simp only [Goods.change, hv.1.1, hv.1.2, hw, hn, Bool.false_eq_true, if_false, or_self]

theorem goodsID_loadRow (now : Int) (goodsID : Nat) (itemCount endTime : Int) :
    (loadRow now goodsID itemCount endTime).goodsID = goodsID := by
  unfold loadRow
  repeat' split
  all_goals rfl

theorem Goods.goodsID_info {v : Goods} {now : Int} {r : Goods × Bool}
    (h : v.info now = some r) : r.1.goodsID = v.goodsID := by
  unfold Goods.info at h
  repeat' split at h
  all_goals cases h
  all_goals rfl

theorem Goods.info_ordinary {v : Goods} (now : Int) (hv : isOrdinary v.goodsID) : v.info now = some (v, false) := by
  simp [Goods.info, hv]

theorem Goods.goodsCount_changeTime (v : Goods) (c now : Int) : (v.changeTime c now).goodsCount = v.goodsCount := by
  unfold Goods.changeTime
  dsimp only
  repeat' split
  all_goals rfl

/-- The count of an entry after a change: a cannon is there or not, other items are counted from 0. -/
theorem Goods.goodsCount_change_reset (v : Goods) (c : Int) (w : ItemSystemType) (r : Bool) (now : Int) :
    (v.change c w r now).goodsCount =
      if checkIsPaoTaiItem v.goodsID then if 0 < c then 1 else 0 else max 0 (if r then c else v.goodsCount + c) := by
  have hid : ∀ (p : Prop) [Decidable p] (x : Goods) (n : Int),
    (if p then x.changeTime n now else x).goodsCount = x.goodsCount := by
    intro p _ x n
    split
    · exact Goods.goodsCount_changeTime x n now
    · rfl
  unfold Goods.change
  dsimp only
  rw [hid]
  by_cases hp : checkIsPaoTaiItem v.goodsID
  · by_cases hc : 0 < c <;> cases isOperatorByLoginServer w <;> simp [hp, hc]
  · by_cases hn : (if r then c else v.goodsCount + c) < 0 <;> cases isOperatorByLoginServer w <;> simp [hp, hn] <;> omega

/-- The count of an entry after a change without a reset. -/
theorem Goods.goodsCount_change (v : Goods) (c : Int) (w : ItemSystemType) (now : Int) :
    (v.change c w false now).goodsCount =
      if checkIsPaoTaiItem v.goodsID then if 0 < c then 1 else 0 else max 0 (v.goodsCount + c) := by
  simpa using v.goodsCount_change_reset c w false now

/-- An entry that is not cleared keeps its count. -/
theorem Goods.goodsCount_info {v w : Goods} {now : Int} (h : v.info now = some (w, false)) :
    w.goodsCount = v.goodsCount := by
  unfold Goods.info at h
  repeat' split at h
  all_goals cases h
  all_goals rfl

/-- An entry that is cleared has none left. -/
theorem Goods.goodsCount_cleared {v w : Goods} {now : Int} (h : v.info now = some (w, true)) : w.goodsCount = 0 := by
  unfold Goods.info at h
  repeat' split at h
  all_goals cases h
  all_goals rfl

/-- `cmd_GoodsInfo` either leaves the bags alone or writes the report of an entry in its place. -/
theorem goodsInfo_cases {s s' : State} {u g : Nat} {online : Bool} {now : Int} (hs : goodsInfo s u g online now = some s') :
    s' = s ∨ ∃ l k v w cleared, s.hash u = some l ∧ (s.lists l)[k]? = some v ∧
      (s.lists l).find? (fun v => v.goodsID = g) = some v ∧ v.info now = some (w, cleared) ∧
      (s' = s.setList l ((s.lists l).set k w) ∨ s' = (s.setList l ((s.lists l).set k w)).request (.updateBag u g 0 0)) := by
  unfold goodsInfo at hs
  split at hs
  case isFalse => exact Or.inl (Option.some.inj hs).symm
  split at hs
  case h_1 => exact Or.inl (Option.some.inj hs).symm
  rename_i l hl
  split at hs
  case h_1 => exact Or.inl (Option.some.inj hs).symm
  rename_i v hv
  split at hs
  case h_1 => cases hs
  rename_i w cleared hw
  right
  cases hf : changeFirst g (fun v => ((v.info now).map Prod.fst).getD v) (s.lists l) with
  | none =>
    rw [changeFirst_eq_none hf] at hv
    cases hv
  | some list =>
    obtain ⟨k, v', hk, -, hfind, rfl⟩ := changeFirst_eq_some hf
    rw [hfind] at hv
    cases hv
    refine ⟨l, k, v, w, cleared, hl, hk, hfind, hw, ?_⟩
    rw [hf, Option.getD_some, hw, Option.map_some, Option.getD_some, Option.some.injEq] at hs
    split at hs
    · exact Or.inr hs.symm
    · exact Or.inl hs.symm

/-! ## The invariant -/

/-- What a waiting handler knows of the list `l`: a save of the list belongs to its user and to an entry of the item it
writes, and the bag of the user is not being loaded. -/
def Thread.Fits (s : State) (user l : Nat) : Thread → Prop
  | .save u l' k goodsID _ => (u = user ↔ l' = l) ∧ (l' = l → ((s.lists l)[k]?).map Goods.goodsID = some goodsID)
  | .load u _ => u ≠ user
  | _ => True

/-- A handler still fits when the entries of the list keep their items. -/
theorem Thread.Fits.mono {s s' : State} {user l : Nat} {t : Thread} (h : t.Fits s user l)
    (hids : ∀ (j : Nat) id, ((s.lists l)[j]?).map Goods.goodsID = some id → ((s'.lists l)[j]?).map Goods.goodsID = some id) :
    t.Fits s' user l := by
  cases t with
  | save u l' k goodsID a => exact ⟨h.1, fun hl => hids _ _ (h.2 hl)⟩
  | load u rows => exact h
  | add c => trivial
  | info c => trivial

/-- An entry that is set to one of the same item. -/
theorem goodsID_set {list : List Goods} {k : Nat} {v w : Goods} (hk : list[k]? = some v)
    (hid : w.goodsID = v.goodsID) (j : Nat) :
    ((list.set k w)[j]?).map Goods.goodsID = (list[j]?).map Goods.goodsID := by
  by_cases hj : k = j
  · subst hj
    rw [List.getElem?_set_self (List.getElem?_eq_some_iff.1 hk).1, hk, Option.map_some, Option.map_some, hid]
  · rw [List.getElem?_set_ne hj]

/-- The ledger of the item `g` in the list `l` of a user. `storedBase` and `countBase` are what was stored, less what had
been loaded, and the count when the bag was loaded; `net` is what has been asked for since then. -/
structure Ledger (user l g : Nat) (storedBase countBase : Int) (s : State) (net : Int) : Prop where
  hash : s.hash user = some l
  own : ∀ u, s.hash u = some l → u = user
  lt : l < s.listCount
  fits : ∀ t ∈ s.suspended, t.Fits s user l
  settled : ∀ v ∈ s.lists l, v.goodsID = g → v.goodsCount = v.oldGoodsCount ∨ 0 ≤ v.goodsCount
  written : stored s.log user g = storedBase + sumOf Goods.oldGoodsCount g (s.lists l)
  counted : count (s.lists l) g + waiting s.suspended user g = countBase + net

section Ledger

variable {user l g : Nat} {storedBase countBase net : Int} {s : State}

/-- A request that stores nothing of the item. -/
theorem Ledger.request (h : Ledger user l g storedBase countBase s net) {r : Request} (hr : r.stores user g = 0) :
    Ledger user l g storedBase countBase (s.request r) net := by
  refine ⟨h.hash, h.own, h.lt, h.fits, h.settled, ?_, h.counted⟩
  have := h.written
  simp only [stored] at this
  simp only [State.request, stored, List.map_cons, List.sum_cons, hr, this]
  omega

/-- A handler that begins to wait. -/
theorem Ledger.suspend (h : Ledger user l g storedBase countBase s net) {t : Thread} (ht : t.Fits s user l) :
    Ledger user l g storedBase countBase (s.suspend t) (net + t.adds user g) := by
  refine ⟨h.hash, h.own, h.lt, ?_, h.settled, h.written, ?_⟩
  · intro x hx
    simp only [State.suspend, List.mem_append, List.mem_singleton] at hx
    rcases hx with hx | rfl
    · exact h.fits x hx
    · exact ht
  · have hc := h.counted
    simp only [State.suspend, waiting_append, waiting_singleton]
    omega

/-- A handler that stops waiting. -/
theorem Ledger.wake (h : Ledger user l g storedBase countBase s net) {k : Nat} {t : Thread} (hk : s.suspended[k]? = some t) :
    Ledger user l g storedBase countBase { s with suspended := s.suspended.eraseIdx k } (net - t.adds user g) := by
  refine ⟨h.hash, h.own, h.lt, fun x hx => h.fits x (List.mem_of_mem_eraseIdx hx), h.settled, h.written, ?_⟩
  have hc := h.counted
  rw [waiting_eraseIdx hk] at hc
  dsimp only
  omega

/-- Another list. -/
theorem Ledger.setList_other (h : Ledger user l g storedBase countBase s net) {l' : Nat} (hl : l' ≠ l) (list : List Goods) :
    Ledger user l g storedBase countBase (s.setList l' list) net := by
  have hs : (s.setList l' list).lists l = s.lists l := Function.update_of_ne hl.symm _ _
  exact ⟨h.hash, h.own, h.lt, fun t ht => Thread.Fits.mono (h.fits t ht) fun j id hj => hs ▸ hj, hs ▸ h.settled,
    hs ▸ h.written, hs ▸ h.counted⟩

/-- An entry that changes in place, its stored count apart. -/
theorem Ledger.set (h : Ledger user l g storedBase countBase s net) {k : Nat} {v w : Goods} (hk : (s.lists l)[k]? = some v)
    (hid : w.goodsID = v.goodsID)
    (hw : v.goodsID = g → w.oldGoodsCount = v.oldGoodsCount ∧ (w.goodsCount = w.oldGoodsCount ∨ 0 ≤ w.goodsCount)) :
    Ledger user l g storedBase countBase (s.setList l ((s.lists l).set k w))
      (net + if v.goodsID = g then w.goodsCount - v.goodsCount else 0) := by
  have hs : (s.setList l ((s.lists l).set k w)).lists l = (s.lists l).set k w := Function.update_self _ _ _
  refine ⟨h.hash, h.own, h.lt, fun t ht => Thread.Fits.mono (h.fits t ht) ?_, ?_, ?_, ?_⟩
  · intro j id hj
    rw [hs, goodsID_set hk hid]
    exact hj
  · intro x hx hxg
    rw [hs] at hx
    rcases List.mem_or_eq_of_mem_set hx with hx | rfl
    · exact h.settled x hx hxg
    · exact (hw (hid ▸ hxg)).2
  · rw [hs, sumOf_set _ _ hk hid]
    have := h.written
    have hold : (if v.goodsID = g then w.oldGoodsCount - v.oldGoodsCount else 0) = 0 := by
      split
      · rename_i hv
        rw [(hw hv).1, sub_self]
      · rfl
    rw [hold, add_zero]
    exact this
  · rw [hs]
    have hc := h.counted
    unfold count at hc ⊢
    rw [sumOf_set _ _ hk hid]
    show _ + waiting s.suspended user g = _
    omega

/-- An entry of the item whose difference is written: what is stored grows by what the stored count does. -/
theorem Ledger.write (h : Ledger user l g storedBase countBase s net) {k : Nat} {v : Goods} (hk : (s.lists l)[k]? = some v)
    (hg : v.goodsID = g) :
    Ledger user l g storedBase countBase
      ((s.request (.writeBag user g (v.goodsCount - v.oldGoodsCount) 0)).setList l
        ((s.lists l).set k { v with oldGoodsCount := v.goodsCount })) net := by
  -- The entry changes as in `Ledger.set`, with a count that is settled by being written.
  have hs : ∀ list, (s.setList l list).lists l = list := fun list => Function.update_self _ _ _
  refine ⟨h.hash, h.own, h.lt, fun t ht => Thread.Fits.mono (h.fits t ht) ?_, ?_, ?_, ?_⟩
  · intro j id hj
    show Option.map _ ((s.setList l _).lists l)[j]? = _
    rw [hs, goodsID_set (w := { v with oldGoodsCount := v.goodsCount }) hk rfl]
    exact hj
  · intro x hx hxg
    have hx' : x ∈ (s.lists l).set k { v with oldGoodsCount := v.goodsCount } := by
      rw [← hs ((s.lists l).set k { v with oldGoodsCount := v.goodsCount })]
      exact hx
    rcases List.mem_or_eq_of_mem_set hx' with hx' | rfl
    · exact h.settled x hx' hxg
    · exact Or.inl rfl
  · have hw := h.written
    simp only [stored] at hw
    show stored (_ :: s.log) user g = _ + sumOf _ g ((s.setList l _).lists l)
    rw [hs, sumOf_set (w := { v with oldGoodsCount := v.goodsCount }) _ _ hk rfl, if_pos hg]
    simp only [stored, List.map_cons, List.sum_cons, Request.stores, and_self, if_true, hw]
    omega
  · have hc := h.counted
    show count ((s.setList l _).lists l) g + waiting s.suspended user g = _
    unfold count at hc ⊢
    rw [hs, sumOf_set (w := { v with oldGoodsCount := v.goodsCount }) _ _ hk rfl, sub_self, ite_self, add_zero]
    exact hc

/-- An entry that is added to the list and inserted in the database. -/
theorem Ledger.append (h : Ledger user l g storedBase countBase s net) (item : Goods) (endTime : Int)
    (hb : item.oldGoodsCount = item.goodsCount) :
    Ledger user l g storedBase countBase
      ((s.setList l (s.lists l ++ [item])).request (.insertBag user item.goodsID item.goodsCount endTime))
      (net + if item.goodsID = g then item.goodsCount else 0) := by
  have hs : ∀ list, (s.setList l list).lists l = list := fun list => Function.update_self _ _ _
  have hone : ∀ f, sumOf f g [item] = if item.goodsID = g then f item else 0 := fun f => by
    simp only [sumOf, List.map_cons, List.map_nil, List.sum_cons, List.sum_nil, add_zero]
  refine ⟨h.hash, h.own, h.lt, fun t ht => Thread.Fits.mono (h.fits t ht) ?_, ?_, ?_, ?_⟩
  · intro j id hj
    show Option.map _ ((s.setList l _).lists l)[j]? = _
    rw [Option.map_eq_some_iff] at hj
    obtain ⟨v, hv, rfl⟩ := hj
    rw [hs, List.getElem?_append_left (List.getElem?_eq_some_iff.1 hv).1, hv, Option.map_some]
  · intro x hx hxg
    have hx' : x ∈ s.lists l ++ [item] := by
      rw [← hs (s.lists l ++ [item])]
      exact hx
    rw [List.mem_append, List.mem_singleton] at hx'
    rcases hx' with hx' | rfl
    · exact h.settled x hx' hxg
    · exact Or.inl hb.symm
  · have hw := h.written
    simp only [stored] at hw
    show stored (_ :: s.log) user g = _ + sumOf _ g ((s.setList l _).lists l)
    rw [hs, sumOf_append, hone, hb]
    simp only [stored, List.map_cons, List.sum_cons, Request.stores, true_and, hw]
    omega
  · have hc := h.counted
    show count ((s.setList l _).lists l) g + waiting s.suspended user g = _
    unfold count at hc ⊢
    rw [hs, sumOf_append, hone]
    omega

end Ledger

end SasyServer.Bag
