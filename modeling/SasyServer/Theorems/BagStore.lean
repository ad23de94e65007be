import Mathlib.Algebra.GroupWithZero.Nat
import SasyServer.Bag.LoginServer
import SasyServer.Lemmas.BagLedger

/-!
# Theorem: the bag of the login server and `t_bag` agree, unless items were offset

Every change of an item is made in the bag and written with `sp_write_bag`. `cmd_OffsetGoodsInfo` writes the items it accepts
as well, and sends itself the changes, which write them a second time: when everything has been handled, the count in the bag
is that of the row and all that was accepted.

The condition `writesThrough` has what the writes rely on: enough of the item, in the bag and in the row, no error in the
database, and no change of an item before the row of the item is there.
-/

namespace SasyServer.LoginBag

open SasyServer.Bag

/-- `cmd_GetItemCount`. -/
def State.getItemCount (s : State) (userID goodsID : Nat) : Int :=
  match s.hash userID with
  | none => 0
  | some list => Bag.getItemCount list goodsID

/-- `ItemCount` of the row, 0 without one. -/
def State.itemCount (s : State) (userID goodsID : Nat) : Int := (s.tBag userID goodsID).getD 0

/-- The item has an entry in the bag. -/
def State.has (s : State) (userID goodsID : Nat) : Bool := (s.hash userID).any fun list => goodsID ∈ list.map Goods.goodsID

/-- Nothing waits, and nothing is on its way. -/
def State.idle (s : State) : Bool := s.messages = [] && s.suspended = []

/-- What the items of a request take of an item. -/
def takes (goodsID : Nat) (offsetGoodsItem : List (Nat × Int)) : Nat :=
  (offsetGoodsItem.map fun e => if e.1 = goodsID then e.2.natAbs else 0).sum

/-- What an `OffsetGoodsInfo` that is accepted takes of an item. -/
def accepted (userID goodsID : Nat) (s : State) : Label → Nat
  | .offsetGoodsInfo u offsetGoodsItem =>
    match s.hash u with
    | none => 0
    | some list => if u = userID ∧ offsetAccepted list offsetGoodsItem then takes goodsID offsetGoodsItem else 0
  | _ => 0

/-- The row of the item is there, and `sp_write_bag` does not make it negative. -/
def writable (s : State) (userID goodsID : Nat) (inGoodsCount : Int) (dbError : Bool) : Bool :=
  !dbError && (s.tBag userID goodsID).any fun itemCount => 0 ≤ itemCount + inGoodsCount

/-- A wait of `AddItemToBag` for the item. -/
def Thread.adds (userID goodsID : Nat) : Thread → Bool
  | .add c => c.userID = userID && c.goodsID = goodsID
  | _ => false

/-- The condition on a label in the state in which it is taken, for an item of a user. -/
def writesThrough (userID goodsID : Nat) (s : State) : Label → Bool
  | .resume k dbError _ _ =>
    match s.suspended[k]? with
    | some (.change c) =>
      !(c.userID = userID && c.goodsID = goodsID) ||
        (if s.has userID goodsID then 0 ≤ s.getItemCount userID goodsID + c.goodsCount
          else s.suspended.countP (Thread.adds userID goodsID) = 0)
    | some (.write c _) => !(c.userID = userID && c.goodsID = goodsID) || writable s userID goodsID c.goodsCount dbError
    | some (.offset u g itemCount _) => !(u = userID && g = goodsID) || writable s userID goodsID (-itemCount) dbError
    | _ => true
  | _ => true

/-! ## Entries -/

section Entries

variable {f : Goods → Goods} {g : Nat}

/-- The first entry of an item, when it changes. -/
theorem getItemCount_modify_first (hid : ∀ v, (f v).goodsID = v.goodsID) {list : List Goods} {k : Nat}
    (hk : list.findIdx? (fun v => v.goodsID = g) = some k) :
    ∃ v, v.goodsID = g ∧ Bag.getItemCount list g = v.goodsCount ∧
      Bag.getItemCount (list.modify k f) g = (f v).goodsCount := by
  induction list generalizing k with
  | nil => simp at hk
  | cons x list ih =>
    rw [List.findIdx?_cons] at hk
    by_cases hx : x.goodsID = g
    · simp only [hx, decide_true, if_true, Option.some.injEq] at hk
      subst hk
      exact ⟨x, hx, by simp [Bag.getItemCount, hx], by simp [Bag.getItemCount, hid, hx]⟩
    · simp only [hx, decide_false, Bool.false_eq_true, if_false, Option.map_eq_some_iff] at hk
      obtain ⟨j, hj, rfl⟩ := hk
      obtain ⟨v, hv, hold, hnew⟩ := ih hj
      exact ⟨v, hv, by simpa [Bag.getItemCount, hx] using hold, by simpa [Bag.getItemCount, hx] using hnew⟩

/-- An entry in its place. -/
theorem modify_eq_set {list : List Goods} {k : Nat} {v : Goods} (hk : list[k]? = some v) :
    list.modify k f = list.set k (f v) := by
  refine List.ext_getElem? ?_
  intro j
  by_cases hj : k = j
  · subst hj
    rw [List.getElem?_modify_eq, hk, List.getElem?_set_self (List.getElem?_eq_some_iff.1 hk).1]
    rfl
  · rw [List.getElem?_modify_ne f list hj, List.getElem?_set_ne hj]

/-- An entry that keeps its count, if it is one of the item. -/
theorem getItemCount_modify_other (hid : ∀ v, (f v).goodsID = v.goodsID) {list : List Goods} {k : Nat}
    (hcount : ∀ v, list[k]? = some v → v.goodsID = g → (f v).goodsCount = v.goodsCount) :
    Bag.getItemCount (list.modify k f) g = Bag.getItemCount list g := by
  cases hk : list[k]? with
  | none => rw [List.modify_eq_self (List.getElem?_eq_none_iff.1 hk)]
  | some v =>
    rw [modify_eq_set hk]
    exact getItemCount_set hk (hid v) (hcount v hk)

/-- An entry is changed without another item. -/
theorem goodsIDs_modify (hid : ∀ v, (f v).goodsID = v.goodsID) (list : List Goods) (k : Nat) :
    (list.modify k f).map Goods.goodsID = list.map Goods.goodsID := by
  refine List.ext_getElem? ?_
  intro j
  rw [List.getElem?_map, List.getElem?_map, List.getElem?_modify]
  cases list[j]? with
  | none => rfl
  | some v =>
    by_cases hj : k = j
    · simp [hj, hid]
    · simp [hj]

/-- A change of an ordinary item whose result is not negative. -/
theorem goodsCount_changeGoods {v : Goods} {n : Int} (hv : isOrdinary v.goodsID) (hn : 0 ≤ v.goodsCount + n) :
    (changeGoods v n).goodsCount = v.goodsCount + n := by
  simp only [isOrdinary, Bool.and_eq_true, Bool.not_eq_true'] at hv
  have hlt : ¬v.goodsCount + n < 0 := Int.not_lt.2 hn
  simp [changeGoods, hv.1.2, hv.2, hlt]

theorem goodsCount_changeTime (v : Goods) (n now : Int) : (v.changeTime n now).goodsCount = v.goodsCount := by
  unfold Goods.changeTime
  dsimp only
  repeat' split
  all_goals rfl

end Entries

/-! ## The account of one item of one user -/

/-- What a waiting handler adds to the row less what it takes of an offset that has been accepted. -/
def Thread.owes (userID goodsID : Nat) : Thread → Int
  | .write c _ => if c.userID = userID ∧ c.goodsID = goodsID then c.goodsCount else 0
  | .insert c => if c.userID = userID ∧ c.goodsID = goodsID then c.goodsCount else 0
  | .offset u g itemCount rest =>
    if u = userID then -((if g = goodsID then itemCount else 0) + takes goodsID rest : Nat) else 0
  | _ => 0

/-- The row of the item is on its way. -/
def Thread.inserts (userID goodsID : Nat) : Thread → Bool
  | .insert c => c.userID = userID && c.goodsID = goodsID
  | _ => false

/-- The count in the bag is that of the row, what is still to be written and what has been accepted; the item has a row, or
one on its way, if it has an entry, and at most one entry on its way. `own` are the handlers that run. -/
structure Account (u g : Nat) (own : List Thread) (s : State) (total : Nat) : Prop where
  bag : (s.hash u).isSome
  count : s.getItemCount u g =
    s.itemCount u g + (s.suspended.map (Thread.owes u g)).sum + (own.map (Thread.owes u g)).sum + total
  rows : (s.tBag u g).isSome.toNat + s.suspended.countP (Thread.inserts u g) + own.countP (Thread.inserts u g) =
    (s.has u g).toNat
  adds : s.suspended.countP (Thread.adds u g) + own.countP (Thread.adds u g) + (s.has u g).toNat ≤ 1

section Account

variable {u g : Nat} {own w : List Thread} {s s' : State} {total : Nat}

/-- The running handlers end, and others begin to wait. -/
theorem Account.next (h : Account u g own s total) {total' : Nat} (hsus : s'.suspended = s.suspended ++ w)
    (hbag : (s'.hash u).isSome)
    (hcount : s'.getItemCount u g + s.itemCount u g + (own.map (Thread.owes u g)).sum + total =
      s.getItemCount u g + s'.itemCount u g + (w.map (Thread.owes u g)).sum + total')
    (hrows : (s'.tBag u g).isSome.toNat + w.countP (Thread.inserts u g) + (s.has u g).toNat =
      (s.tBag u g).isSome.toNat + own.countP (Thread.inserts u g) + (s'.has u g).toNat)
    (hadds : w.countP (Thread.adds u g) + (s'.has u g).toNat ≤ own.countP (Thread.adds u g) + (s.has u g).toNat ∨
      s.suspended.countP (Thread.adds u g) + w.countP (Thread.adds u g) + (s'.has u g).toNat ≤ 1) :
    Account u g [] s' total' := by
  have hc := h.count
  have hr := h.rows
  have ha := h.adds
  refine ⟨hbag, ?_, ?_, ?_⟩
  · rw [hsus, List.map_append, List.sum_append, List.map_nil, List.sum_nil]
    omega
  · rw [hsus, List.countP_append, List.countP_nil]
    omega
  · rw [hsus, List.countP_append, List.countP_nil]
    omega

/-- A handler that does nothing to the item. -/
structure Thread.Idle (u g : Nat) (t : Thread) : Prop where
  owes : t.owes u g = 0
  inserts : t.inserts u g = false
  adds : t.adds u g = false

/-- The item is left alone by a running handler that does nothing to it. -/
theorem Account.frame {t : Thread} (h : Account u g [t] s total) (ht : t.Idle u g) (hw : ∀ x ∈ w, x.Idle u g)
    (hsus : s'.suspended = s.suspended ++ w) (hbag : (s'.hash u).isSome) (hcount : s'.getItemCount u g = s.getItemCount u g)
    (hrow : s'.tBag u g = s.tBag u g) (hhas : s'.has u g = s.has u g) : Account u g [] s' total := by
  have howes : (w.map (Thread.owes u g)).sum = 0 :=
    List.sum_eq_zero fun x hx => by obtain ⟨y, hy, rfl⟩ := List.mem_map.1 hx; exact (hw y hy).owes
  have hins : w.countP (Thread.inserts u g) = 0 := List.countP_eq_zero.2 fun x hx => by simp [(hw x hx).inserts]
  have hadd : w.countP (Thread.adds u g) = 0 := List.countP_eq_zero.2 fun x hx => by simp [(hw x hx).adds]
  refine h.next hsus hbag ?_ ?_ (Or.inl ?_)
  · simp [hcount, State.itemCount, hrow, howes, ht.owes]
  · simp [hrow, hhas, hins, ht.inserts]
  · simp [hhas, hadd, ht.adds]

/-- A handler that has waited becomes the running one. -/
theorem Account.wake (h : Account u g [] s total) {k : Nat} {t : Thread} (hk : s.suspended[k]? = some t) :
    Account u g [t] { s with suspended := s.suspended.eraseIdx k } total := by
  have hc := h.count
  have hr := h.rows
  have ha := h.adds
  rw [Waiting.sum_map_eraseIdx hk, List.map_nil, List.sum_nil] at hc
  rw [Waiting.countP_eraseIdx hk, List.countP_nil] at hr
  rw [Waiting.countP_eraseIdx hk, List.countP_nil] at ha
  refine ⟨h.bag, ?_, ?_, ?_⟩
  · rw [List.map_cons, List.map_nil, List.sum_cons, List.sum_nil]
    show s.getItemCount u g = s.itemCount u g + _ + _ + _
    dsimp only
    omega
  · rw [List.countP_cons, List.countP_nil]
    show (s.tBag u g).isSome.toNat + _ + _ = (s.has u g).toNat
    cases hi : t.inserts u g <;> simp [hi] at hr ⊢ <;> omega
  · rw [List.countP_cons, List.countP_nil]
    show _ + _ + (s.has u g).toNat ≤ 1
    cases hi : t.adds u g <;> simp [hi] at ha ⊢ <;> omega

/-! ### Lists and rows -/

/-- Another user's list. -/
theorem setList_other {v : Nat} (hv : u ≠ v) (list : List Goods) :
    (s.setList v list).hash u = s.hash u ∧ (s.setList v list).getItemCount u g = s.getItemCount u g ∧
      (s.setList v list).has u g = s.has u g := by
  have hh : (s.setList v list).hash u = s.hash u := Function.update_of_ne hv _ _
  simp only [State.getItemCount, State.has, hh, and_self]

theorem setList_self (list : List Goods) :
    (s.setList u list).hash u = some list ∧ (s.setList u list).getItemCount u g = Bag.getItemCount list g ∧
      (s.setList u list).has u g = decide (g ∈ list.map Goods.goodsID) := by
  have hh : (s.setList u list).hash u = some list := Function.update_self _ _ _
  simp only [State.getItemCount, State.has, hh, Option.any_some, and_self]

theorem has_iff {list : List Goods} (hl : s.hash u = some list) :
    s.getItemCount u g = Bag.getItemCount list g ∧ s.has u g = decide (g ∈ list.map Goods.goodsID) := by
  simp only [State.getItemCount, State.has, hl, Option.any_some, and_self]

/-- An entry of another item, or one that keeps its count. -/
theorem modify_frame {v : Nat} {list : List Goods} {k : Nat} {f : Goods → Goods} (hl : s.hash v = some list)
    (hid : ∀ x, (f x).goodsID = x.goodsID)
    (hcount : v = u → ∀ x, list[k]? = some x → x.goodsID = g → (f x).goodsCount = x.goodsCount) (hbag : (s.hash u).isSome) :
    ((s.setList v (list.modify k f)).hash u).isSome ∧ (s.setList v (list.modify k f)).getItemCount u g = s.getItemCount u g ∧
      (s.setList v (list.modify k f)).has u g = s.has u g := by
  by_cases hv : u = v
  · subst hv
    obtain ⟨hh, hget, hhas⟩ := setList_self (u := u) (g := g) (s := s) (list.modify k f)
    obtain ⟨hget', hhas'⟩ := has_iff (g := g) hl
    rw [hh, hget, hhas, hget', hhas', getItemCount_modify_other hid (hcount rfl), goodsIDs_modify hid]
    exact ⟨rfl, rfl, rfl⟩
  · obtain ⟨hh, hget, hhas⟩ := setList_other (g := g) (s := s) hv (list.modify k f)
    rw [hh]
    exact ⟨hbag, hget, hhas⟩

theorem setRow_other {v g' : Nat} (h : ¬(u = v ∧ g = g')) (row : Option Int) :
    (s.setRow v g' row).tBag u g = s.tBag u g := by
  show Function.update s.tBag v _ u g = _
  by_cases hv : u = v
  · subst hv
    rw [Function.update_self, Function.update_of_ne fun hg => h ⟨rfl, hg⟩]
  · rw [Function.update_of_ne hv]

theorem setRow_self (row : Option Int) : (s.setRow u g row).tBag u g = row := by
  show Function.update s.tBag u _ u g = _
  rw [Function.update_self, Function.update_self]

theorem findIdx?_none {list : List Goods} (h : list.findIdx? (fun v => v.goodsID = g) = none) :
    g ∉ list.map Goods.goodsID := by
  rw [List.findIdx?_eq_none_iff] at h
  rintro hm
  obtain ⟨v, hv, rfl⟩ := List.mem_map.1 hm
  simpa using h v hv

/-- The entry that is found is the item's. -/
theorem findIdx?_some {list : List Goods} {k : Nat} (h : list.findIdx? (fun v => v.goodsID = g) = some k) :
    g ∈ list.map Goods.goodsID ∧ ∀ x, list[k]? = some x → x.goodsID = g := by
  obtain ⟨hk, hp, -⟩ := List.findIdx?_eq_some_iff_getElem.1 h
  have hp' : list[k].goodsID = g := by simpa using hp
  refine ⟨List.mem_map.2 ⟨list[k], List.getElem_mem hk, hp'⟩, ?_⟩
  intro x hx
  rw [List.getElem?_eq_getElem hk, Option.some.injEq] at hx
  exact hx ▸ hp'

/-! ### Handlers -/

/-- `cmd_ChangeItemCount` after the user's record has been read. -/
theorem Account.changeItemCount (hg : isOrdinary g) {c : Change} (h : Account u g [.change c] s total)
    (hc : c.userID = u → c.goodsID = g → if s.has u g then 0 ≤ s.getItemCount u g + c.goodsCount
      else s.suspended.countP (Thread.adds u g) = 0) :
    Account u g [] (changeItemCount s c) total := by
  have hidle : Thread.Idle u g (.change c) := ⟨rfl, rfl, rfl⟩
  unfold LoginBag.changeItemCount
  cases hl : s.hash c.userID with
  | none => exact h.frame hidle (w := []) (by simp) (by simp) h.bag rfl rfl rfl
  | some list =>
    dsimp only
    by_cases hour : c.userID = u ∧ c.goodsID = g
    · obtain ⟨rfl, rfl⟩ := hour
      have hsafe := hc rfl rfl
      obtain ⟨hget, hhas⟩ := has_iff (g := c.goodsID) hl
      cases hk : list.findIdx? fun v => v.goodsID = c.goodsID with
      | none =>
        have hmiss : s.has c.userID c.goodsID = false := by
          rw [hhas]
          exact decide_eq_false (findIdx?_none hk)
        rw [hmiss, if_neg (by decide)] at hsafe
        refine h.next (w := [.add c]) rfl h.bag rfl rfl (Or.inr ?_)
        show s.suspended.countP _ + _ + (s.has c.userID c.goodsID).toNat ≤ 1
        simp [hsafe, hmiss, Thread.adds]
      | some k =>
        have hin : s.has c.userID c.goodsID = true := by
          rw [hhas]
          exact decide_eq_true (findIdx?_some hk).1
        rw [hin, if_pos rfl] at hsafe
        have hid := fun v => goodsID_changeGoods v c.goodsCount
        obtain ⟨v, hv, hold, hnew⟩ := getItemCount_modify_first hid hk
        obtain ⟨hh, hget', hhas'⟩ := setList_self (u := c.userID) (g := c.goodsID) (s := s)
          (list.modify k fun v => changeGoods v c.goodsCount)
        rw [goodsCount_changeGoods (by rw [hv]; exact hg) (by rw [← hold, ← hget]; exact hsafe), ← hold, ← hget] at hnew
        rw [hnew] at hget'
        rw [goodsIDs_modify hid, ← hhas] at hhas'
        refine h.next (w := [.write c k]) rfl (Option.isSome_iff_exists.2 ⟨_, hh⟩) ?_ ?_ (Or.inl ?_)
        · show (s.setList _ _).getItemCount _ _ + _ + _ + _ = _ + s.itemCount _ _ + _ + _
          rw [hget']
          simp [Thread.owes]
          omega
        · show _ + _ + _ = _ + _ + ((s.setList _ _).has _ _).toNat
          rw [hhas']
          rfl
        · show _ + ((s.setList _ _).has _ _).toNat ≤ _
          rw [hhas']
          exact le_rfl
    · cases hk : list.findIdx? fun v => v.goodsID = c.goodsID with
      | none =>
        refine h.frame hidle (w := [.add c]) ?_ rfl h.bag rfl rfl rfl
        simp only [List.mem_singleton, forall_eq]
        exact ⟨rfl, rfl, by simpa [Thread.adds] using hour⟩
      | some k =>
        obtain ⟨hb, hget, hhas⟩ := modify_frame (u := u) (g := g) (k := k) hl (fun v => goodsID_changeGoods v c.goodsCount)
          (fun hv x hx hxg => absurd ⟨hv, ((findIdx?_some hk).2 x hx).symm.trans hxg⟩ hour) h.bag
        refine h.frame hidle (w := [.write c k]) ?_ rfl hb hget rfl hhas
        simp only [List.mem_singleton, forall_eq]
        exact ⟨if_neg hour, rfl, rfl⟩

/-- `sp_write_bag` changes the row only. -/
theorem callWriteBag_frame (s : State) (v g' : Nat) (n : Int) (dbError : Bool) :
    (callWriteBag s v g' n dbError).1.hash = s.hash ∧ (callWriteBag s v g' n dbError).1.suspended = s.suspended := by
  unfold callWriteBag
  split
  · exact ⟨rfl, rfl⟩
  · exact ⟨rfl, rfl⟩

theorem callWriteBag_other {v g' : Nat} (h : ¬(v = u ∧ g' = g)) (n : Int) (dbError : Bool) :
    (callWriteBag s v g' n dbError).1.tBag u g = s.tBag u g := by
  unfold callWriteBag
  split
  · rfl
  · exact setRow_other (fun hh => h ⟨hh.1.symm, hh.2.symm⟩) _

/-- A write that succeeds. -/
theorem callWriteBag_writable {n : Int} {dbError : Bool} (h : writable s u g n dbError) :
    ∃ itemCount, s.tBag u g = some itemCount ∧ (callWriteBag s u g n dbError).1.tBag u g = some (itemCount + n) ∧
      (callWriteBag s u g n dbError).2 = 0 := by
  rw [writable, Bool.and_eq_true, Bool.not_eq_true'] at h
  obtain ⟨itemCount, hrow, hpos⟩ := (Option.any_eq_true _ _).1 h.2
  have hlt : ¬itemCount + n < 0 := Int.not_lt.2 (by simpa using hpos)
  have hsp : spWriteBag (s.tBag u g) n = (some (itemCount + n), 0) := by simp only [spWriteBag, hrow, hlt, if_false]
  refine ⟨itemCount, hrow, ?_⟩
  rw [callWriteBag, h.1, if_neg (by decide)]
  exact ⟨by rw [setRow_self, hsp], by rw [hsp]⟩

theorem getItemCount_congr (hh : s'.hash = s.hash) : s'.getItemCount u g = s.getItemCount u g ∧ s'.has u g = s.has u g := by
  simp only [State.getItemCount, State.has, hh, and_self]

/-- The rest of `cmd_ChangeItemCount` after the row has been written, which does not change the count. -/
theorem changeWritten_eq (s : State) (c : Change) (k : Nat) (dbError : Bool) (now : Int) (hbag : (s.hash u).isSome) :
    ∃ w : List Thread, (∀ x ∈ w, x.Idle u g) ∧ (changeWritten s c k dbError now).suspended = s.suspended ++ w ∧
      ((changeWritten s c k dbError now).hash u).isSome ∧
        (changeWritten s c k dbError now).getItemCount u g = s.getItemCount u g ∧
      (changeWritten s c k dbError now).has u g = s.has u g ∧
      (changeWritten s c k dbError now).tBag = (callWriteBag s c.userID c.goodsID c.goodsCount dbError).1.tBag := by
  obtain ⟨hhash, hsus⟩ := callWriteBag_frame s c.userID c.goodsID c.goodsCount dbError
  unfold changeWritten
  generalize callWriteBag s c.userID c.goodsID c.goodsCount dbError = r at hhash hsus ⊢
  obtain ⟨s₁, retCode⟩ := r
  dsimp only at hhash hsus ⊢
  have hsame := getItemCount_congr (u := u) (g := g) hhash
  split
  · exact ⟨[], by simp, by simp [hsus], by rw [hhash]; exact hbag, hsame.1, hsame.2, rfl⟩
  · split
    · exact ⟨[], by simp, by simp [hsus], by rw [hhash]; exact hbag, hsame.1, hsame.2, rfl⟩
    · rename_i list hl
      refine ⟨[.info c.userID c.goodsID], by simp only [List.mem_singleton, forall_eq]; exact ⟨rfl, rfl, rfl⟩, ?_⟩
      split
      · exact ⟨by rw [State.suspend, hsus], by show (s₁.hash u).isSome; rw [hhash]; exact hbag, hsame.1, hsame.2, rfl⟩
      · obtain ⟨hb, hget, hhas⟩ := modify_frame (u := u) (g := g) (k := k) (f := fun v => v.changeTime c.goodsCount now) hl
          (fun v => Goods.goodsID_changeTime v c.goodsCount now) (fun _ x _ _ => goodsCount_changeTime x c.goodsCount now)
          (by rw [hhash]; exact hbag)
        exact ⟨by rw [State.suspend, State.setList, hsus], hb, hget.trans hsame.1, hhas.trans hsame.2, rfl⟩

/-- `cmd_ChangeItemCount` after `sp_write_bag`. -/
theorem Account.changeWritten {c : Change} {k : Nat} (h : Account u g [.write c k] s total) {dbError : Bool} (now : Int)
    (hc : c.userID = u → c.goodsID = g → writable s u g c.goodsCount dbError) :
    Account u g [] (changeWritten s c k dbError now) total := by
  obtain ⟨w, hw, hsus, hbag, hget, hhas, hrow⟩ := changeWritten_eq (u := u) (g := g) s c k dbError now h.bag
  by_cases hour : c.userID = u ∧ c.goodsID = g
  · obtain ⟨rfl, rfl⟩ := hour
    obtain ⟨itemCount, hold, hnew, -⟩ := callWriteBag_writable (hc rfl rfl)
    rw [← hrow] at hnew
    have howes : (w.map (Thread.owes c.userID c.goodsID)).sum = 0 :=
      List.sum_eq_zero fun x hx => by obtain ⟨y, hy, rfl⟩ := List.mem_map.1 hx; exact (hw y hy).owes
    have hins : w.countP (Thread.inserts c.userID c.goodsID) = 0 :=
      List.countP_eq_zero.2 fun x hx => by simp [(hw x hx).inserts]
    have hadd : w.countP (Thread.adds c.userID c.goodsID) = 0 := List.countP_eq_zero.2 fun x hx => by simp [(hw x hx).adds]
    refine h.next hsus hbag ?_ ?_ (Or.inl ?_)
    · simp [hget, State.itemCount, hold, hnew, howes, Thread.owes]
      omega
    · simp [hold, hnew, hhas, hins, Thread.inserts]
    · simp [hhas, hadd, Thread.adds]
  · refine h.frame ⟨if_neg hour, rfl, rfl⟩ hw hsus hbag hget ?_ hhas
    rw [hrow]
    exact callWriteBag_other hour _ _

/-- `AddItemToBag` after the configuration has been read. -/
theorem Account.addItemToBag {c : Change} (h : Account u g [.add c] s total) : Account u g [] (addItemToBag s c) total := by
  unfold LoginBag.addItemToBag
  have hadds := h.adds
  rw [List.countP_cons, List.countP_nil] at hadds
  cases hl : s.hash c.userID with
  | none =>
    have hne : ¬(c.userID = u ∧ c.goodsID = g) := by
      rintro ⟨rfl, -⟩
      have hb := h.bag
      rw [hl] at hb
      cases hb
    exact h.frame ⟨rfl, rfl, by simpa [Thread.adds] using hne⟩ (w := []) (by simp) (by simp) h.bag rfl rfl rfl
  | some list =>
    dsimp only
    by_cases hour : c.userID = u ∧ c.goodsID = g
    · obtain ⟨rfl, rfl⟩ := hour
      obtain ⟨hget, hhas⟩ := has_iff (g := c.goodsID) hl
      have hmiss : s.has c.userID c.goodsID = false := by
        cases hb : s.has c.userID c.goodsID with
        | false => rfl
        | true => simp [hb, Thread.adds] at hadds
      have hnew : c.goodsID ∉ list.map Goods.goodsID := of_decide_eq_false (hhas.symm.trans hmiss)
      obtain ⟨hh, hget', hhas'⟩ := setList_self (u := c.userID) (g := c.goodsID) (s := s)
        (list ++ [addedGoods c.goodsID c.goodsCount])
      rw [getItemCount_append list _ hnew, ← hget] at hget'
      refine h.next (w := [.insert c, .info c.userID c.goodsID]) (by simp [State.suspend, State.setList])
        (Option.isSome_iff_exists.2 ⟨_, hh⟩) ?_ ?_ (Or.inl ?_)
      · show (s.setList _ _).getItemCount _ _ + _ + _ + _ = _ + s.itemCount _ _ + _ + _
        rw [hget']
        simp [Thread.owes, addedGoods]
        omega
      · show (s.tBag c.userID c.goodsID).isSome.toNat + _ + _ = _ + _ + ((s.setList _ _).has _ _).toNat
        rw [hhas', hmiss]
        simp [Thread.inserts, addedGoods]
      · show _ + ((s.setList _ _).has _ _).toNat ≤ _
        rw [hhas', hmiss]
        simp [Thread.adds, addedGoods]
    · have hidle : Thread.Idle u g (.add c) := ⟨rfl, rfl, by simpa [Thread.adds] using hour⟩
      have hidles : ∀ x ∈ [Thread.insert c, .info c.userID c.goodsID], x.Idle u g := by
        simp only [List.mem_cons, List.not_mem_nil, or_false, forall_eq_or_imp, forall_eq]
        exact ⟨⟨if_neg hour, by simpa [Thread.inserts] using hour, rfl⟩, ⟨rfl, rfl, rfl⟩⟩
      by_cases hu : u = c.userID
      · subst hu
        have hne : c.goodsID ≠ g := fun hh => hour ⟨rfl, hh⟩
        obtain ⟨hget, hhas⟩ := has_iff (g := g) hl
        obtain ⟨hh, hget', hhas'⟩ :=
          setList_self (u := c.userID) (g := g) (s := s) (list ++ [addedGoods c.goodsID c.goodsCount])
        refine h.frame hidle hidles (by simp [State.suspend, State.setList]) (Option.isSome_iff_exists.2 ⟨_, hh⟩) ?_ rfl ?_
        · show (s.setList _ _).getItemCount _ _ = _
          rw [hget', hget]
          simp [Bag.getItemCount, List.find?_append, addedGoods, hne]
        · show (s.setList _ _).has _ _ = _
          rw [hhas', hhas]
          simp [addedGoods, Ne.symm hne]
      · obtain ⟨hh, hget, hhas⟩ := setList_other (g := g) (s := s) hu (list ++ [addedGoods c.goodsID c.goodsCount])
        refine h.frame hidle hidles (by simp [State.suspend, State.setList]) ?_ hget rfl hhas
        show ((s.setList _ _).hash u).isSome
        rw [hh]
        exact h.bag

/-- The `insert` statement. -/
theorem Account.insertRow {c : Change} (h : Account u g [.insert c] s total) : Account u g [] (insertRow s c) total := by
  unfold LoginBag.insertRow
  have hrows := h.rows
  rw [List.countP_cons, List.countP_nil] at hrows
  by_cases hour : c.userID = u ∧ c.goodsID = g
  · obtain ⟨rfl, rfl⟩ := hour
    have hnone : s.tBag c.userID c.goodsID = none := by
      cases hr : s.tBag c.userID c.goodsID with
      | none => rfl
      | some x =>
        have hle := Bool.toNat_le (s.has c.userID c.goodsID)
        simp [hr, Thread.inserts] at hrows
        omega
    rw [hnone]
    refine h.next (w := []) (by simp [State.setRow]) h.bag ?_ ?_ (Or.inl ?_)
    · show s.getItemCount _ _ + _ + _ + _ = _
      simp [State.itemCount, setRow_self, hnone, Thread.owes]
    · show _ + _ + (s.has _ _).toNat = _ + _ + (s.has _ _).toNat
      simp [setRow_self, hnone, Thread.inserts]
    · show _ + (s.has _ _).toNat ≤ _ + (s.has _ _).toNat
      simp
  · have hidle : Thread.Idle u g (.insert c) := ⟨if_neg hour, by simpa [Thread.inserts] using hour, rfl⟩
    cases hr : s.tBag c.userID c.goodsID with
    | some x => exact h.frame hidle (w := []) (by simp) (by simp) h.bag rfl rfl rfl
    | none =>
      refine h.frame hidle (w := []) (by simp) (by simp [State.setRow]) h.bag rfl ?_ rfl
      exact setRow_other (fun hh => hour ⟨hh.1.symm, hh.2.symm⟩) _

/-- The handlers that `offsetLoop` lets wait owe what the rest of the items takes. -/
theorem offsetLoop_eq (s : State) (v : Nat) (items : List (Nat × Int)) :
    ∃ w : List Thread, offsetLoop s v items = { s with suspended := s.suspended ++ w } ∧
      (w.map (Thread.owes u g)).sum = -(if v = u then takes g items else 0 : Nat) ∧ w.countP (Thread.inserts u g) = 0 ∧
      w.countP (Thread.adds u g) = 0 := by
  cases items with
  | nil =>
    refine ⟨[], by simp [offsetLoop], ?_, rfl, rfl⟩
    simp [takes]
  | cons e rest =>
    obtain ⟨g', n⟩ := e
    refine ⟨[.offset v g' n.natAbs rest], rfl, ?_, rfl, rfl⟩
    simp only [List.map_cons, List.map_nil, List.sum_cons, List.sum_nil, Thread.owes, takes, add_zero]
    split <;> simp

/-- `cmd_OffsetGoodsInfo` after `sp_write_bag`. -/
theorem Account.offsetWritten {v g' n : Nat} {rest : List (Nat × Int)} (h : Account u g [.offset v g' n rest] s total)
    {dbError : Bool} (hc : v = u → g' = g → writable s u g (-n) dbError) :
    Account u g [] (offsetWritten s v g' n rest dbError) total := by
  obtain ⟨hhash, hsus⟩ := callWriteBag_frame s v g' (-n) dbError
  unfold LoginBag.offsetWritten
  dsimp only
  generalize hr : (callWriteBag s v g' (-n) dbError).1 = s₁ at hhash hsus ⊢
  obtain ⟨w, hw, howes, hins, hadd⟩ :=
    offsetLoop_eq (u := u) (g := g) { s₁ with messages := s₁.messages ++ [⟨v, g', -n⟩] } v rest
  obtain ⟨hget, hhas⟩ := getItemCount_congr (u := u) (g := g) hhash
  rw [hw]
  refine h.next (w := w) (by rw [← hsus]) (by rw [hhash]; exact h.bag) ?_ ?_ (Or.inl ?_)
  · show s₁.getItemCount u g + _ + _ + _ = _ + s₁.itemCount u g + _ + _
    rw [hget, howes]
    by_cases hour : v = u ∧ g' = g
    · obtain ⟨rfl, rfl⟩ := hour
      obtain ⟨itemCount, hold, hnew, -⟩ := callWriteBag_writable (hc rfl rfl)
      rw [hr] at hnew
      simp [State.itemCount, hold, hnew, Thread.owes]
      omega
    · have hrow : s₁.tBag u g = s.tBag u g := hr ▸ callWriteBag_other hour (-n) dbError
      by_cases hv : v = u
      · have hg' : g' ≠ g := fun hh => hour ⟨hv, hh⟩
        simp [State.itemCount, hrow, Thread.owes, hv, hg']
      · simp [State.itemCount, hrow, Thread.owes, hv]
  · show (s₁.tBag u g).isSome.toNat + _ + _ = _ + _ + (s₁.has u g).toNat
    rw [hhas, hins]
    have hsome : (s₁.tBag u g).isSome = (s.tBag u g).isSome := by
      by_cases hour : v = u ∧ g' = g
      · obtain ⟨rfl, rfl⟩ := hour
        obtain ⟨itemCount, hold, hnew, -⟩ := callWriteBag_writable (hc rfl rfl)
        rw [← hr, hold, hnew]
        rfl
      · rw [← hr, callWriteBag_other hour (-n) dbError]
    rw [hsome]
    simp [Thread.inserts]
  · show _ + (s₁.has u g).toNat ≤ _
    rw [hhas, hadd]
    simp

/-- `cmd_OffsetGoodsInfo`: what is accepted is on its way to the row. -/
theorem Account.offsetGoodsInfo (h : Account u g [] s total) (v : Nat) (items : List (Nat × Int)) :
    Account u g [] (offsetGoodsInfo s v items) (total + accepted u g s (.offsetGoodsInfo v items)) := by
  unfold LoginBag.offsetGoodsInfo
  cases hl : s.hash v with
  | none =>
    simp only [accepted, hl]
    exact h
  | some list =>
    simp only [accepted, hl]
    by_cases hacc : offsetAccepted list items
    · rw [if_pos hacc]
      obtain ⟨w, hw, howes, hins, hadd⟩ := offsetLoop_eq (u := u) (g := g) s v items
      rw [hw]
      refine h.next (w := w) rfl h.bag ?_ ?_ (Or.inl ?_)
      · show s.getItemCount u g + _ + _ + _ = _ + s.itemCount u g + _ + _
        rw [howes]
        by_cases hv : v = u
        · simp [hv, hacc]
          omega
        · simp [hv]
      · show (s.tBag u g).isSome.toNat + _ + _ = _ + _ + (s.has u g).toNat
        rw [hins]
        rfl
      · show _ + (s.has u g).toNat ≤ _
        rw [hadd]
        exact le_rfl
    · rw [if_neg hacc, if_neg fun hh => hacc hh.2]
      exact h

/-- `cmd_GoodsInfo` clears items that are not ordinary. -/
theorem Account.goodsInfo (hg : isOrdinary g) {v g' : Nat} (h : Account u g [.info v g'] s total)
    (online : Bool) (now : Int) :
    Account u g [] (goodsInfo s v g' online now) total := by
  have hidle : Thread.Idle u g (.info v g') := ⟨rfl, rfl, rfl⟩
  have hsame : Account u g [] s total := h.frame hidle (w := []) (by simp) (by simp) h.bag rfl rfl rfl
  unfold LoginBag.goodsInfo
  split
  · rename_i htimed
    have hne : g' ≠ g := by
      rintro rfl
      simp only [isOrdinary, Bool.and_eq_true, Bool.not_eq_true'] at hg
      simp [hg.1.1, hg.1.2] at htimed
    split
    · exact hsame
    · rename_i list hl
      split
      · exact hsame
      · rename_i k hk
        have hother : ∀ (f : Goods → Goods), v = u → ∀ x, list[k]? = some x → x.goodsID = g →
          (f x).goodsCount = x.goodsCount :=
          fun f _ x hx hxg => absurd (((findIdx?_some hk).2 x hx).symm.trans hxg) hne
        split
        · exact hsame
        · rename_i endTime _
          split
          · obtain ⟨hb, hget, hhas⟩ := modify_frame (u := u) (g := g) (k := k) (f := goodsExpired) hl (fun _ => rfl)
              (hother goodsExpired) h.bag
            refine h.frame hidle (w := []) (by simp) (by simp [State.setRow, State.setList]) hb hget ?_ hhas
            exact setRow_other (fun hh => hne hh.2.symm) _
          · obtain ⟨hb, hget, hhas⟩ :=
              modify_frame (u := u) (g := g) (k := k) (f := fun v => { v with useTime := endTime - now }) hl
              (fun _ => rfl) (hother fun v => { v with useTime := endTime - now }) h.bag
            exact h.frame hidle (w := []) (by simp) (by simp [State.setList]) hb hget rfl hhas
  · exact hsame

/-- A message that begins to be handled. -/
theorem Account.beginChange (h : Account u g [] s total) (c : Change) (messages : List Change) :
    Account u g [] (State.suspend { s with messages := messages } (.change c)) total := by
  refine h.next (w := [.change c]) rfl h.bag ?_ ?_ (Or.inl ?_)
  · show s.getItemCount u g + _ + _ + _ = _ + s.itemCount u g + _ + _
    simp [Thread.owes]
  · show (s.tBag u g).isSome.toNat + _ + _ = _ + _ + (s.has u g).toNat
    rfl
  · exact le_rfl

/-- One label keeps the account, under the condition. -/
theorem Account.step (hg : isOrdinary g) (h : Account u g [] s total) {l : Label} (hc : writesThrough u g s l)
    (hs : step s l = some s') : Account u g [] s' (total + accepted u g s l) := by
  cases l with
  | offsetGoodsInfo v items =>
    cases hs
    exact h.offsetGoodsInfo v items
  | changeItemCount c =>
    cases hs
    exact h.beginChange c s.messages
  | deliver k =>
    obtain ⟨c, -, rfl⟩ := Option.map_eq_some_iff.1 hs
    exact h.beginChange c _
  | resume k dbError online now =>
    obtain ⟨t, ht, rfl⟩ := Option.map_eq_some_iff.1 hs
    have hrun := h.wake ht
    simp only [writesThrough, ht] at hc
    cases t with
    | change c =>
      refine hrun.changeItemCount hg ?_
      rintro rfl rfl
      have hcount := Waiting.countP_eraseIdx ht (Thread.adds c.userID c.goodsID)
      show if s.has c.userID c.goodsID = true then 0 ≤ s.getItemCount c.userID c.goodsID + c.goodsCount
        else (s.suspended.eraseIdx k).countP (Thread.adds c.userID c.goodsID) = 0
      cases hhas : s.has c.userID c.goodsID with
      | true => simpa [hhas] using hc
      | false =>
        have hnone : s.suspended.countP (Thread.adds c.userID c.goodsID) = 0 := by simpa [hhas] using hc
        rw [if_neg (by decide)]
        omega
    | write c k' =>
      refine hrun.changeWritten now ?_
      rintro rfl rfl
      show writable s c.userID c.goodsID c.goodsCount dbError
      simpa using hc
    | add c => exact hrun.addItemToBag
    | insert c => exact hrun.insertRow
    | offset v g' n rest =>
      refine hrun.offsetWritten ?_
      rintro rfl rfl
      show writable s v g' (-n) dbError
      simpa using hc
    | info v g' => exact hrun.goodsInfo hg online now

end Account

/-! ## Runs -/

/-- Nothing is under way, the user has a bag, and the item has a row with its count if it has an entry. -/
structure Stored (u g : Nat) (s : State) : Prop where
  idle : s.idle
  bag : (s.hash u).isSome
  row : s.tBag u g = if s.has u g then some (s.getItemCount u g) else none

/-- An item without an entry counts as zero. -/
theorem getItemCount_of_not_has {u g : Nat} {s : State} (h : s.has u g = false) : s.getItemCount u g = 0 := by
  rw [State.getItemCount]
  cases hl : s.hash u with
  | none => rfl
  | some list =>
    rw [(has_iff hl).2] at h
    have hn : list.find? (fun v => v.goodsID = g) = none := by
      rw [List.find?_eq_none]
      exact fun v hv hvg => of_decide_eq_false h (List.mem_map.2 ⟨v, hv, by simpa using hvg⟩)
    simp only [Bag.getItemCount, hn, Option.map_none, Option.getD_none]

/-- At the beginning the count is that of the row. -/
theorem Stored.account {u g : Nat} {s : State} (h : Stored u g s) : Account u g [] s 0 := by
  have hidle := h.idle
  simp only [State.idle, Bool.and_eq_true, decide_eq_true_eq] at hidle
  have hrow := h.row
  refine ⟨h.bag, ?_, ?_, ?_⟩
  · rw [State.itemCount, hrow, hidle.2]
    cases hh : s.has u g with
    | true => simp
    | false => simp [getItemCount_of_not_has hh]
  · rw [hrow, hidle.2]
    cases s.has u g <;> rfl
  · rw [hidle.2, List.countP_nil, zero_add, zero_add]
    exact Bool.toNat_le _

/-- For every ordinary item and every run whose steps meet the condition, when everything has been handled: the
item has a row exactly if it has an entry, and the two have the same count exactly if no `OffsetGoodsInfo` that
names the item was accepted. -/
theorem stored_count_iff_no_offset {u g : Nat} {s t : State} {labels : List Label} (hg : isOrdinary g) (hs : Stored u g s)
    (hsafe : Steps.Meets step (fun s l => writesThrough u g s l) s labels) (hrun : Steps.exec step s labels = some t)
    (hdone : t.idle) :
    (t.tBag u g).isSome = t.has u g ∧
      (t.getItemCount u g = t.itemCount u g ↔ Steps.Meets step (fun s l => accepted u g s l = 0) s labels) := by
  have haccount :=
    Steps.exec_total (I := fun s n => Account u g [] s n) (f := accepted u g) (fun _ _ _ _ h hc hst => h.step hg hc hst)
    labels s t 0 hs.account hsafe hrun
  simp only [State.idle, Bool.and_eq_true, decide_eq_true_eq] at hdone
  have hcount := haccount.count
  have hrows := haccount.rows
  rw [hdone.2] at hcount hrows
  simp only [List.map_nil, List.sum_nil, List.countP_nil, add_zero, zero_add] at hcount hrows
  refine ⟨?_, ?_⟩
  · cases h1 : (t.tBag u g).isSome <;> cases h2 : t.has u g <;> simp [h1, h2] at hrows ⊢
  · rw [← Steps.total_eq_zero_iff, hcount]
    omega

/-- A user with 10 of the item 1005, in the bag and in the database. -/
def tenItems : State :=
  ⟨fun u => if u = 1 then some [⟨1005, 10, 10, 0, some 0⟩] else none, fun u g => if u = 1 ∧
    g = 1005 then some 10 else none, [], []⟩

theorem stored_tenItems : Stored 1 1005 tenItems := ⟨rfl, rfl, rfl⟩

/-- Two changes of the item, handled one after the other. -/
theorem stored_count_iff_no_offset_changes :
    ∃ t, Steps.exec step tenItems
      [.changeItemCount ⟨1, 1005, 5⟩, .resume 0 false true 0, .resume 0 false true 0, .resume 0 false true 0,
        .changeItemCount ⟨1, 1005, -3⟩, .resume 0 false true 0, .resume 0 false true 0, .resume 0 false true 0] = some t ∧
      t.getItemCount 1 1005 = 12 ∧ t.getItemCount 1 1005 = t.itemCount 1 1005 := by
  have hall := @stored_count_iff_no_offset 1 1005 tenItems _ [.changeItemCount ⟨1, 1005, 5⟩, .resume 0 false true 0,
    .resume 0 false true 0, .resume 0 false true 0, .changeItemCount ⟨1, 1005, -3⟩, .resume 0 false true 0,
      .resume 0 false true 0,
    .resume 0 false true 0] (by decide) stored_tenItems (by decide +kernel) rfl (by decide)
  exact ⟨_, rfl, rfl, hall.2.2 (by decide +kernel)⟩

/-- An offset of 2: the bag has 8 in the end, and the database 6. -/
theorem offset_written_twice :
    ∃ t, Steps.exec step tenItems
      [.offsetGoodsInfo 1 [(1005, 2)], .resume 0 false true 0, .deliver 0, .resume 0 false true 0,
        .resume 0 false true 0, .resume 0 false true 0] = some t ∧
      t.idle = true ∧ t.getItemCount 1 1005 = 8 ∧ t.tBag 1 1005 = some 6 :=
  ⟨_, rfl, by decide, by decide, by decide⟩

end SasyServer.LoginBag
