import Mathlib.Algebra.Order.Ring.Int
import SasyServer.Bag.Spending
import SasyServer.Lemmas.BagLedger

/-!
# Theorem: what is spent is removed in full, as long as the bag covers all that has been promised

Every operation of the bag service compares its cost with the count the bag has when it checks, and takes the items
later. The count does not know what the operations under way, the messages on their way and the rest of the same list
are going to take. The condition `spendSafe` is that it does: an operation begins only if the counts cover what it
takes together with everything that is still to be taken. Besides, gold that is to be paid must find its user, a timed
item must not run out while some of it is still to be taken, and a list that `cmd_OffsetGoodsInfo` is to take from a
bag that is not loaded must be empty.
-/

namespace SasyServer.Spending

open Bag (Goods)

/-! ## The condition -/

/-- What a change takes of its item. A cannon is taken as a whole, also by a change of 0. -/
def Change.takes (c : Change) : Int :=
  if 0 < c.goodsCount then 0 else if Bag.checkIsPaoTaiItem c.goodsID then max 1 (-c.goodsCount) else -c.goodsCount

/-- What a list of changes takes of an item. -/
def reserved (goodsID : Nat) (todo : List Change) : Int := (todo.map fun c => if c.goodsID = goodsID then c.takes else 0).sum

/-- The changes a waiting handler is still going to make. -/
def Thread.todo : Thread → List Change
  | .gold c op => c :: op.todo
  | .add c op => c :: op.todo
  | .info _ op => op.todo
  | _ => []

/-- The changes that are still to be made. -/
def State.todo (s : State) : List Change := s.messages ++ s.suspended.flatMap Thread.todo

/-- The changes a label adds to those. -/
def accepts (s : State) : Label → List Change
  | .checkItemAndComsume itemlist fromWhere _ =>
    if checkItemAndComsume s.bag itemlist then comsumeChanges itemlist fromWhere else []
  | .offsetGoodsInfo offsetGoodsItem =>
    if s.bag.any fun bag => checkOffset bag offsetGoodsItem then offsetMessages offsetGoodsItem else []
  | .changeItemCount goodsID goodsCount fromWhere bNeedNotify _ => [⟨goodsID, goodsCount, fromWhere, bNeedNotify, .direct⟩]
  | .resume k a => ((s.suspended[k]?).bind fun t => t.begins s.bag a).getD []
  | _ => []

/-- The bag has what a list of changes takes of an item. A cannon is had once, whatever its count. -/
def covers (bag : List Goods) (todo : List Change) (goodsID : Nat) : Bool :=
  reserved goodsID todo ≤ Bag.getItemCount bag goodsID && (!Bag.checkIsPaoTaiItem goodsID || reserved goodsID todo ≤ 1)

/-- The entry of the item has run out, and `cmd_GoodsInfo` is going to clear it. -/
def expires (bag : List Goods) (goodsID : Nat) (a : Answer) : Bool :=
  a.online && (bag.find? fun v => v.goodsID = goodsID).any fun v => ((v.info a.now).map Prod.snd).getD false

/-- The condition on a label in the state in which it is taken. -/
def spendSafe (s : State) (i : Label) : Bool :=
  ((accepts s i).all fun c => covers s.goods (accepts s i ++ s.todo) c.goodsID) &&
    match i with
    | .resume k a =>
      match s.suspended[k]? with
      | some (.gold c _) => c.route ≠ .comsume || a.userFound || 0 ≤ c.goodsCount
      | some (.info goodsID _) => !expires s.goods goodsID a || reserved goodsID s.todo ≤ 0
      | _ => true
    | .offsetGoodsInfo offsetGoodsItem => s.bag.isSome || offsetGoodsItem.isEmpty
    | _ => true

/-- The change has removed its full cost, and has not been cut off at 0. -/
def Event.Full (e : Event) : Prop := e.clamped = false ∧ -e.change.goodsCount ≤ e.removed

instance Event.Full.decidable (e : Event) : Decidable e.Full := inferInstanceAs (Decidable (_ ∧ _))

/-! ## What is promised -/

theorem Change.takes_nonneg (c : Change) : 0 ≤ c.takes := by
  unfold Change.takes
  split
  · exact le_refl _
  · split <;> omega

theorem Change.neg_le_takes (c : Change) : -c.goodsCount ≤ c.takes := by
  unfold Change.takes
  split
  · omega
  · split <;> omega

theorem reserved_cons (g : Nat) (c : Change) (todo : List Change) :
    reserved g (c :: todo) = (if c.goodsID = g then c.takes else 0) + reserved g todo := by
  simp only [reserved, List.map_cons, List.sum_cons]

theorem reserved_append (g : Nat) (a b : List Change) : reserved g (a ++ b) = reserved g a + reserved g b := by
  simp only [reserved, List.map_append, List.sum_append]

theorem reserved_perm {g : Nat} {a b : List Change} (h : a.Perm b) : reserved g a = reserved g b := (h.map _).sum_eq

theorem reserved_nonneg (g : Nat) (todo : List Change) : 0 ≤ reserved g todo := by
  induction todo with
  | nil => exact le_refl _
  | cons c todo ih =>
    have hc := c.takes_nonneg
    rw [reserved_cons]
    split <;> omega

/-- Nothing is taken of an item that is not in the list. -/
theorem reserved_eq_zero {g : Nat} {todo : List Change} (h : ∀ c ∈ todo, c.goodsID ≠ g) : reserved g todo = 0 := by
  induction todo with
  | nil => rfl
  | cons c todo ih =>
    rw [reserved_cons, if_neg (h c List.mem_cons_self), ih fun x hx => h x (List.mem_cons_of_mem c hx), add_zero]

/-- The bag covers all the changes of a list. -/
def Covered (bag : List Goods) (todo : List Change) : Prop := ∀ c ∈ todo, covers bag todo c.goodsID

theorem covers_iff {bag : List Goods} {todo : List Change} {g : Nat} : covers bag todo g ↔
    reserved g todo ≤ Bag.getItemCount bag g ∧ (Bag.checkIsPaoTaiItem g → reserved g todo ≤ 1) := by
  simp only [covers, Bool.and_eq_true, Bool.or_eq_true, Bool.not_eq_true', decide_eq_true_eq]
  cases Bag.checkIsPaoTaiItem g <;> simp

/-- Less is covered by more. -/
theorem covers_mono {bag bag' : List Goods} {todo todo' : List Change} {g : Nat} (h : covers bag todo g)
    (hr : reserved g todo' ≤ reserved g todo) (hb : Bag.getItemCount bag g ≤ Bag.getItemCount bag' g) :
    covers bag' todo' g := by
  rw [covers_iff] at h ⊢
  exact ⟨hr.trans (h.1.trans hb), fun hp => hr.trans (h.2 hp)⟩

section Covered

variable {bag : List Goods} {todo todo' : List Change}

theorem Covered.perm (h : Covered bag todo) (hp : todo.Perm todo') : Covered bag todo' := fun c hc =>
  covers_mono (h c (hp.mem_iff.2 hc)) (le_of_eq (reserved_perm hp.symm)) (le_refl _)

/-- Some of the changes are not made. -/
theorem Covered.drop {a : List Change} (h : Covered bag (a ++ todo)) : Covered bag todo := by
  intro c hc
  refine covers_mono (h c (List.mem_append_right a hc)) ?_ (le_refl _)
  have ha := reserved_nonneg c.goodsID a
  rw [reserved_append]
  omega

/-- More changes are promised, and the bag covers their items. -/
theorem Covered.accept {a : List Change} (h : Covered bag todo) (ha : ∀ c ∈ a, covers bag (a ++ todo) c.goodsID) :
    Covered bag (a ++ todo) := by
  intro c hc
  by_cases hm : ∃ x ∈ a, x.goodsID = c.goodsID
  · obtain ⟨x, hx, hxc⟩ := hm
    exact hxc ▸ ha x hx
  · have hzero : reserved c.goodsID a = 0 := reserved_eq_zero fun x hx hxc => hm ⟨x, hx, hxc⟩
    rcases List.mem_append.1 hc with hc | hc
    · exact ha c hc
    · exact covers_mono (h c hc) (by rw [reserved_append, hzero, zero_add]) (le_refl _)

end Covered

/-! ## One change -/

section Change

variable {bag : List Goods} {c : Change} {v : Goods} {todo : List Change}

/-- The entry a change finds is changed, and the counts of the other items stay. -/
theorem getItemCount_changed (now : Int) (hf : bag.find? (fun v => v.goodsID = c.goodsID) = some v) (g : Nat) :
    Bag.getItemCount ((Bag.changeFirst c.goodsID (fun v => v.change c.goodsCount c.fromWhere false now) bag).getD bag) g =
      if c.goodsID = g then (v.change c.goodsCount c.fromWhere false now).goodsCount else Bag.getItemCount bag g := by
  cases hc : Bag.changeFirst c.goodsID (fun v => v.change c.goodsCount c.fromWhere false now) bag with
  | none => simp [Bag.changeFirst_eq_none hc] at hf
  | some bag' =>
    have hv : v.goodsID = c.goodsID := by simpa using List.find?_some hf
    rw [Option.getD_some]
    by_cases hg : c.goodsID = g
    · subst hg
      rw [if_pos rfl, Bag.getItemCount, Bag.find?_changeFirst hc hf (by rw [Goods.goodsID_change, hv]), Option.map_some,
        Option.getD_some]
    · obtain ⟨k, x, hk, hx, -, rfl⟩ := Bag.changeFirst_eq_some hc
      rw [if_neg hg]
      exact Bag.getItemCount_set hk (Goods.goodsID_change _ _ _ _ _) fun hxg => absurd (hx.symm.trans hxg) hg

/-- The count of an item that the bag has. -/
theorem getItemCount_found {g : Nat} (hf : bag.find? (fun v => v.goodsID = g) = some v) :
    Bag.getItemCount bag g = v.goodsCount := by
  rw [Bag.getItemCount, hf, Option.map_some, Option.getD_some]

/-- A change that the bag covers removes its full cost. -/
theorem full_changeEvent (now : Int) (hf : bag.find? (fun v => v.goodsID = c.goodsID) = some v)
    (h : Covered bag (c :: todo)) :
    (changeEvent c v now).Full := by
  have hv : v.goodsID = c.goodsID := by simpa using List.find?_some hf
  obtain ⟨hle, -⟩ := covers_iff.1 (h c List.mem_cons_self)
  rw [reserved_cons, if_pos rfl, getItemCount_found hf] at hle
  have hrest := reserved_nonneg c.goodsID todo
  have hneg := c.neg_le_takes
  have hpos := c.takes_nonneg
  refine ⟨?_, ?_⟩
  · simp only [changeEvent, Bool.and_eq_false_iff, decide_eq_false_iff_not]
    right
    omega
  · simp only [changeEvent, Goods.goodsCount_change, hv]
    split
    · split <;> omega
    · omega

/-- A change that the bag covers leaves what the others take. -/
theorem Covered.change (now : Int) (hf : bag.find? (fun v => v.goodsID = c.goodsID) = some v) (h : Covered bag (c :: todo)) :
    Covered ((Bag.changeFirst c.goodsID (fun v => v.change c.goodsCount c.fromWhere false now) bag).getD bag) todo := by
  have hv : v.goodsID = c.goodsID := by simpa using List.find?_some hf
  intro x hx
  have hcov := covers_iff.1 (h x (List.mem_cons_of_mem c hx))
  rw [reserved_cons] at hcov
  rw [covers_iff, getItemCount_changed now hf]
  by_cases hg : c.goodsID = x.goodsID
  · rw [if_pos hg, getItemCount_found (hg ▸ hf)] at hcov
    rw [if_pos hg, Goods.goodsCount_change, hv, hg]
    have hneg := c.neg_le_takes
    have hpos := c.takes_nonneg
    refine ⟨?_, fun hp => by have := hcov.2 hp; omega⟩
    split
    · -- A cannon is taken as a whole, so that nothing else takes it.
      rename_i hp
      have hone := hcov.2 hp
      have htakes : c.takes = if 0 < c.goodsCount then 0 else max 1 (-c.goodsCount) := by
        rw [Change.takes, hg, hp]
        simp
      split
      · omega
      · rename_i hc
        rw [if_neg hc] at htakes
        omega
    · have hle := hcov.1
      omega
  · rw [if_neg hg, zero_add] at hcov
    rw [if_neg hg]
    exact hcov

/-- A change of a missing item takes nothing. -/
theorem goodsCount_nonneg_of_missing (hf : bag.find? (fun v => v.goodsID = c.goodsID) = none) (h : Covered bag (c :: todo)) :
    0 ≤ c.goodsCount := by
  obtain ⟨hle, -⟩ := covers_iff.1 (h c List.mem_cons_self)
  rw [reserved_cons, if_pos rfl, Bag.getItemCount, hf, Option.map_none, Option.getD_none] at hle
  have hrest := reserved_nonneg c.goodsID todo
  have hneg := c.neg_le_takes
  omega

end Change

/-- An item that is added, with a count that is not negative. -/
theorem Covered.added {bag : List Goods} {todo : List Change} (h : Covered bag todo) (g : Nat) {n : Int} (hn : 0 ≤ n) :
    Covered (bag ++ [Goods.added g n]) todo := by
  refine fun c hc => covers_mono (h c hc) (le_refl _) ?_
  simp only [Bag.getItemCount, List.find?_append]
  cases bag.find? fun v => v.goodsID = c.goodsID with
  | some v => simp
  | none =>
    by_cases hg : (Goods.added g n).goodsID = c.goodsID
    · have hcount : (Goods.added g n).goodsCount = n := rfl
      simpa [hg, hcount] using hn
    · simp [hg]

/-- The same in a bag that may not be loaded. -/
theorem Covered.addItemToBag {bag : Option (List Goods)} {todo : List Change} (h : Covered (bag.getD []) todo)
    (g : Nat) {n : Int} (hn : 0 ≤ n) :
    Covered ((bag.map fun bag => bag ++ [Goods.added g n]).getD []) todo := by
  cases bag with
  | none => exact h
  | some bag => exact Covered.added h g hn

/-- An entry that is reported: it keeps its count, unless it has run out. -/
theorem Covered.info {s s' : State} {todo : List Change} {g : Nat} {a : Answer} (h : Covered s.goods todo)
    (hs : goodsInfo s g a = some s') (hsafe : expires s.goods g a → reserved g todo ≤ 0) :
    ∃ bag, s' = { s with bag := bag } ∧ Covered (bag.getD []) todo := by
  unfold goodsInfo at hs
  split at hs
  case isFalse => exact ⟨s.bag, (Option.some.inj hs).symm, h⟩
  rename_i honline
  split at hs
  case h_1 => exact ⟨s.bag, (Option.some.inj hs).symm, h⟩
  rename_i bag hbag
  have hgoods : s.goods = bag := by rw [State.goods, hbag, Option.getD_some]
  rw [hgoods] at h hsafe
  split at hs
  case h_1 => exact ⟨s.bag, (Option.some.inj hs).symm, by rw [hbag, Option.getD_some]; exact h⟩
  rename_i v hf
  split at hs
  case h_1 => cases hs
  rename_i r hr
  refine ⟨_, (Option.some.inj hs).symm, ?_⟩
  rw [Option.getD_some]
  have hv : v.goodsID = g := by simpa using List.find?_some hf
  cases hc : Bag.changeFirst g (fun v => ((v.info a.now).map Prod.fst).getD v) bag with
  | none => exact h
  | some bag' =>
    have hnew := Bag.find?_changeFirst hc hf (by rw [hr, Option.map_some, Option.getD_some, Goods.goodsID_info hr, hv])
    rw [hr, Option.map_some, Option.getD_some] at hnew
    obtain ⟨k, x, hk, hx, hfx, rfl⟩ := Bag.changeFirst_eq_some hc
    obtain rfl : x = v := Option.some.inj (hfx.symm.trans hf)
    rw [Option.getD_some]
    intro c hcm
    by_cases hg : c.goodsID = g
    · have hold := h c hcm
      rw [hg] at hold ⊢
      obtain ⟨w, cleared⟩ := r
      cases cleared with
      | false =>
        exact covers_mono hold (le_refl _) (by rw [getItemCount_found hf, getItemCount_found hnew, Goods.goodsCount_info hr])
      | true =>
        have hzero := hsafe (by simp [expires, honline, hf, hr])
        have hw : w.goodsCount = 0 := Goods.goodsCount_cleared hr
        rw [covers_iff, getItemCount_found hnew, hw]
        exact ⟨hzero, fun _ => by omega⟩
    · refine covers_mono (h c hcm) (le_refl _) (le_of_eq (Eq.symm ?_))
      refine Bag.getItemCount_set hk ?_ fun hxg => absurd (hxg.symm.trans hx) hg
      rw [hr, Option.map_some, Option.getD_some]
      exact Goods.goodsID_info hr

/-! ## The invariant -/

/-- An operation's changes are those it has made, which are in the log, and those it still has to make. -/
structure Tracks (changes : List Change) (done : List Event) (todo : List Change) (log : List Event) : Prop where
  split : done.map Event.change ++ todo = changes
  logged : ∀ e ∈ done, e ∈ log

/-- What is known of a handler that waits. Only a change that takes nothing waits to be added. -/
def Thread.Fits (log : List Event) : Thread → Prop
  | .gold c op => Tracks op.changes op.done (c :: op.todo) log
  | .add c op => Tracks op.changes op.done (c :: op.todo) log ∧ 0 ≤ c.goodsCount
  | .info _ op => Tracks op.changes op.done op.todo log
  | _ => True

/-- The invariant, while the handler at hand still has to make the changes `extra`. -/
structure Inv (extra : List Change) (s : State) : Prop where
  covered : Covered s.goods (extra ++ s.todo)
  full : ∀ e ∈ s.log, e.Full
  fits : ∀ t ∈ s.suspended, t.Fits s.log
  reports : ∀ r ∈ s.reports, Tracks r.changes r.done [] s.log

theorem Tracks.mono {changes todo : List Change} {done log log' : List Event} (h : Tracks changes done todo log)
    (hl : ∀ e ∈ log, e ∈ log') : Tracks changes done todo log' := ⟨h.split, fun e he => hl e (h.logged e he)⟩

/-- One more change has been made. -/
theorem Tracks.next {changes todo : List Change} {done log : List Event} {e : Event}
    (h : Tracks changes done (e.change :: todo) log) : Tracks changes (done ++ [e]) todo (e :: log) := by
  refine ⟨by rw [← h.split]; simp, ?_⟩
  intro x hx
  rcases List.mem_append.1 hx with hx | hx
  · exact List.mem_cons_of_mem e (h.logged x hx)
  · exact List.mem_singleton.1 hx ▸ List.mem_cons_self

theorem Thread.Fits.mono {t : Thread} {log log' : List Event} (h : t.Fits log) (hl : ∀ e ∈ log, e ∈ log') : t.Fits log' := by
  cases t with
  | gold c op => exact Tracks.mono h hl
  | add c op => exact ⟨h.1.mono hl, h.2⟩
  | info g op => exact Tracks.mono h hl
  | _ => trivial

section Inv

variable {s : State} {extra : List Change}

theorem todo_suspend (s : State) (t : Thread) : (s.suspend t).todo = s.todo ++ t.todo := by
  simp [State.todo, State.suspend]

/-- A handler that begins to wait, with the changes it still has to make. -/
theorem Inv.suspend {t : Thread} (h : Inv t.todo s) (ht : t.Fits s.log) : Inv [] (s.suspend t) := by
  refine ⟨?_, h.full, ?_, h.reports⟩
  · rw [todo_suspend, List.nil_append]
    exact h.covered.perm List.perm_append_comm
  · intro x hx
    rcases List.mem_append.1 hx with hx | hx
    · exact h.fits x hx
    · exact List.mem_singleton.1 hx ▸ ht

/-- What is still to be done is that of the handler taken and of the others. -/
theorem todo_wake {k : Nat} {t : Thread} (hk : s.suspended[k]? = some t) :
    s.todo.Perm (t.todo ++ ({ s with suspended := s.suspended.eraseIdx k } : State).todo) := by
  refine (((Waiting.perm_cons_eraseIdx hk).flatMap_right Thread.todo).append_left s.messages).trans ?_
  rw [List.flatMap_cons, ← List.append_assoc]
  refine (List.perm_append_comm.append_right _).trans ?_
  rw [List.append_assoc]
  exact List.Perm.refl _

/-- A handler that stops waiting. -/
theorem Inv.wake (h : Inv extra s) {k : Nat} {t : Thread} (hk : s.suspended[k]? = some t) :
    Inv (extra ++ t.todo) { s with suspended := s.suspended.eraseIdx k } := by
  refine ⟨h.covered.perm ?_, h.full, fun x hx => h.fits x (List.mem_of_mem_eraseIdx hx), h.reports⟩
  rw [List.append_assoc]
  exact (todo_wake hk).append_left extra

/-- The handler gives up some of its changes. -/
theorem Inv.drop {a : List Change} (h : Inv (a ++ extra) s) : Inv extra s :=
  ⟨Covered.drop (a := a) (by rw [← List.append_assoc]; exact h.covered), h.full, h.fits, h.reports⟩

/-- A change that has been made, with what it has done to the bag. -/
theorem Inv.event {e : Event} {bag : Option (List Goods)} (h : Inv extra s) {extra' : List Change}
    (hb : Covered (bag.getD []) (extra' ++ s.todo))
    (he : e.Full) : Inv extra' (State.event { s with bag := bag } e) := by
  refine ⟨hb, ?_, fun t ht => (h.fits t ht).mono fun x hx => List.mem_cons_of_mem e hx,
    fun r hr => (h.reports r hr).mono fun x hx => List.mem_cons_of_mem e hx⟩
  intro x hx
  rcases List.mem_cons.1 hx with rfl | hx
  · exact he
  · exact h.full x hx

theorem Inv.report {changes : List Change} {done : List Event} (h : Inv [] s) (ht : Tracks changes done [] s.log) :
    Inv [] (s.report changes done) := by
  refine ⟨h.covered, h.full, h.fits, ?_⟩
  intro r hr
  rcases List.mem_cons.1 hr with rfl | hr
  · exact ht
  · exact h.reports r hr

/-- The changes of an operation, up to the next wait: by induction over those it still has to make. -/
theorem Inv.advance (now : Int) {changes : List Change} :
    ∀ (todo : List Change) (asked : Bool) (s : State) (done : List Event),
    Inv todo s → Tracks changes done todo s.log → Inv [] (advance now asked s changes done todo) := by
  intro todo
  induction todo with
  | nil =>
    intro asked s done h ht
    rw [Spending.advance]
    exact h.report ht
  | cons c todo ih =>
    intro asked s done h ht
    rw [Spending.advance]
    split
    · exact Inv.suspend (t := .gold c ⟨changes, done, todo⟩) h ht
    · cases hbag : s.bag with
      | none =>
        have hnone : s.goods.find? (fun v => v.goodsID = c.goodsID) = none := by rw [State.goods, hbag]; rfl
        have hcount := goodsCount_nonneg_of_missing hnone h.covered
        have hrest : Inv todo s := Inv.drop (a := [c]) h
        have hnext : Inv todo (State.event s ⟨c, 0, false⟩) :=
          hrest.event hrest.covered ⟨rfl, Int.neg_nonpos_of_nonneg hcount⟩
        exact ih false _ _ hnext (Tracks.next (e := ⟨c, 0, false⟩) ht)
      | some bag =>
        have hgoods : s.goods = bag := by rw [State.goods, hbag, Option.getD_some]
        have hcov : Covered bag (c :: todo ++ s.todo) := hgoods ▸ h.covered
        dsimp only
        unfold changeItemCount
        cases hf : bag.find? fun v => v.goodsID = c.goodsID with
        | none => exact Inv.suspend (t := .add c ⟨changes, done, todo⟩) h ⟨ht, goodsCount_nonneg_of_missing hf hcov⟩
        | some v =>
          have hnext := @Inv.event _ _ _ (some _) h _ (Covered.change now hf hcov) (full_changeEvent now hf hcov)
          have htracks : Tracks changes (done ++ [changeEvent c v now]) todo (changeEvent c v now :: s.log) := Tracks.next ht
          dsimp only
          split
          · exact Inv.suspend (t := .info c.goodsID ⟨changes, done ++ [changeEvent c v now], todo⟩) hnext htracks
          · exact ih false _ _ hnext htracks

/-- An operation that begins. -/
theorem Inv.start (now : Int) {changes : List Change} (h : Inv changes s) : Inv [] (start s now changes) :=
  Inv.advance now changes false s [] h ⟨rfl, fun _ he => absurd he List.not_mem_nil⟩

/-- The changes of an operation that the bag covers. -/
theorem Inv.accept (h : Inv [] s) {a : List Change} (ha : ∀ c ∈ a, covers s.goods (a ++ s.todo) c.goodsID) : Inv a s :=
  ⟨Covered.accept h.covered ha, h.full, h.fits, h.reports⟩

end Inv

/-- A handler that goes on. -/
theorem Inv.resume {s : State} (h : Inv [] s) {k : Nat} {t : Thread} {a : Answer} (hk : s.suspended[k]? = some t)
    (hsafe : spendSafe s (.resume k a)) : Inv [] (resumeThread { s with suspended := s.suspended.eraseIdx k } a t) := by
  have hfits := h.fits t (List.mem_of_getElem? hk)
  have hw : Inv t.todo { s with suspended := s.suspended.eraseIdx k } := h.wake hk
  simp only [spendSafe, accepts, hk, Option.bind_some, Bool.and_eq_true, List.all_eq_true] at hsafe
  -- A handler that has nothing to do yet begins its operation, or ends.
  have hbegins : t.todo = [] →
      Inv [] (((t.begins s.bag a).map (Spending.start { s with suspended := s.suspended.eraseIdx k } a.now)).getD
        { s with suspended := s.suspended.eraseIdx k }) := by
    intro ht
    cases hb : t.begins s.bag a with
    | none =>
      rw [ht] at hw
      exact hw
    | some changes =>
      simp only [hb, Option.getD_some] at hsafe
      have hacc := (h.accept hsafe.1).wake hk
      rw [ht, List.append_nil] at hacc
      exact hacc.start a.now
  cases t with
  | useGoods g get =>
    simp only [resumeThread]
    split
    · exact hw
    · split
      · exact hw
      · exact Inv.suspend (t := .useGive g get) hw trivial
  | useGive g get => exact hbegins rfl
  | compositing g => exact hbegins rfl
  | giveGoods g n => exact hbegins rfl
  | equipGoods g => exact hbegins rfl
  | gold c op =>
    simp only [resumeThread]
    split
    · rename_i hskip
      have hcount : 0 ≤ c.goodsCount := by simpa [hskip.1, hskip.2] using hsafe.2
      have hrest : Inv op.todo _ := Inv.drop (a := [c]) hw
      exact Inv.advance a.now op.todo false _ _
        (hrest.event (e := ⟨c, 0, false⟩) hrest.covered ⟨rfl, Int.neg_nonpos_of_nonneg hcount⟩)
        (Tracks.next (e := ⟨c, 0, false⟩) hfits)
    · split
      · exact Inv.advance a.now (c :: op.todo) true _ _ hw hfits
      · exact Inv.drop (a := c :: op.todo) (by rw [List.append_nil]; exact hw)
  | add c op =>
    have hrest : Inv op.todo _ := Inv.drop (a := [c]) hw
    have hcov := Covered.addItemToBag hrest.covered c.goodsID hfits.2
    have hnext := hrest.event (e := ⟨c, 0, false⟩) hcov ⟨rfl, Int.neg_nonpos_of_nonneg hfits.2⟩
    have htracks : Tracks op.changes (op.done ++ [⟨c, 0, false⟩]) op.todo (⟨c, 0, false⟩ :: s.log) :=
      Tracks.next (e := ⟨c, 0, false⟩) hfits.1
    simp only [resumeThread]
    split
    · exact Inv.suspend (t := .info c.goodsID { op with done := op.done ++ [⟨c, 0, false⟩] }) hnext htracks
    · exact Inv.advance a.now op.todo false _ _ hnext htracks
  | info g op =>
    simp only [resumeThread]
    split
    · exact Inv.drop (a := op.todo) (by rw [List.append_nil]; exact hw)
    · rename_i s' hs
      have hzero : expires s.goods g a →
        reserved g (op.todo ++ ({ s with suspended := s.suspended.eraseIdx k } : State).todo) ≤ 0 := by
        intro he
        have hsame : reserved g s.todo = reserved g (op.todo ++ _) := reserved_perm (todo_wake hk)
        rw [← hsame]
        simpa [he] using hsafe.2
      obtain ⟨bag, rfl, hb⟩ := hw.covered.info hs hzero
      exact Inv.advance a.now op.todo false _ _ ⟨hb, hw.full, hw.fits, hw.reports⟩ hfits

/-- One label. -/
theorem Inv.step {s s' : State} {i : Label} (h : Inv [] s) (hsafe : spendSafe s i)
    (hs : step s i = some s') : Inv [] s' := by
  have hall : ∀ c ∈ accepts s i, covers s.goods (accepts s i ++ s.todo) c.goodsID := by
    simp only [spendSafe, Bool.and_eq_true, List.all_eq_true] at hsafe
    exact hsafe.1
  cases i with
  | useGoodsInfo g get =>
    cases hs
    exact Inv.suspend (t := .useGoods g get) h trivial
  | compositingGoodsInfo g =>
    cases hs
    exact Inv.suspend (t := .compositing g) h trivial
  | giveGoodsInfo g n memberOrder =>
    cases hs
    split
    · exact h
    · exact Inv.suspend (t := .giveGoods g n) h trivial
  | equipGoodsInfo g =>
    cases hs
    exact Inv.suspend (t := .equipGoods g) h trivial
  | checkItemAndComsume itemlist w now =>
    cases hs
    simp only [accepts] at hall
    split
    · rename_i hc
      rw [if_pos hc] at hall
      exact (h.accept hall).start now
    · exact h
  | offsetGoodsInfo items =>
    cases hs
    simp only [accepts] at hall
    unfold offsetGoodsInfo
    cases hbag : s.bag with
    | none =>
      have hnil : items = [] := by simpa [spendSafe, accepts, hbag] using hsafe
      subst hnil
      exact h.report ⟨rfl, fun _ he => absurd he List.not_mem_nil⟩
    | some bag =>
      rw [hbag, Option.any_some] at hall
      dsimp only
      split
      · rename_i hc
        rw [if_pos hc] at hall
        have hcov := (h.accept hall).covered
        rw [State.goods, hbag] at hcov
        refine ⟨hcov.perm ?_, h.full, h.fits, h.reports⟩
        simp only [State.todo, List.nil_append, ← List.append_assoc]
        exact List.perm_append_comm.append_right _
      · exact h
  | changeItemCount g n w notify now =>
    cases hs
    exact (h.accept hall).start now
  | deliver now =>
    simp only [Spending.step] at hs
    split at hs
    · cases hs
    · rename_i c messages hm
      cases hs
      refine Inv.start now ⟨?_, h.full, h.fits, h.reports⟩
      have hcov := h.covered
      rw [List.nil_append, State.todo, hm] at hcov
      exact hcov
  | resume k a =>
    simp only [Spending.step, Option.map_eq_some_iff] at hs
    obtain ⟨t, hk, rfl⟩ := hs
    exact h.resume hk hsafe

/-- In every run whose steps meet the condition, from a bag that has been loaded or has not, no count is cut off at 0, and
every operation that has reported success has made all its changes and has removed the full cost of each. -/
theorem spent_in_full_of_spendSafe (bag : Option (List Goods)) (is : List Label) (s : State)
    (hm : Steps.Meets step (fun s i => spendSafe s i) (State.init bag) is)
    (h : Steps.exec step (State.init bag) is = some s) :
    (∀ e ∈ s.log, e.Full) ∧ ∀ r ∈ s.reports, r.done.map Event.change = r.changes ∧ ∀ e ∈ r.done, e.Full := by
  have hinv : Inv [] s := by
    refine Steps.exec_invariant (fun s i s' => Inv.step) is _ s ⟨?_, ?_, ?_, ?_⟩ hm h
    all_goals exact fun _ hx => absurd hx List.not_mem_nil
  refine ⟨hinv.full, fun r hr => ⟨?_, fun e he => hinv.full e ((hinv.reports r hr).logged e he)⟩⟩
  rw [← (hinv.reports r hr).split, List.append_nil]

/-- A box is used and three pieces are spent in two messages, one after the other, while the box gives its content. -/
def boxAndPieces : List Label :=
  [.useGoodsInfo 1005 0, .offsetGoodsInfo [(1008, 2)], .resume 0 { itemConfig := some ⟨1, 0, 0⟩, now := 5 }, .deliver 5,
    .offsetGoodsInfo [(1008, -1)], .resume 0 { giveConfig := some ⟨3, [⟨1008, 4, 0, 0⟩]⟩, now := 6 }, .deliver 6,
    .resume 1 { now := 6 }, .resume 0 { now := 7 }, .resume 0 { now := 7 }, .resume 0 { now := 8 }]

theorem spent_in_full_of_spendSafe_in_turn :
    ∃ s, Steps.exec step (State.init (some [⟨1005, 1, 1, 0, some 0⟩, ⟨1008, 3, 3, 0, some 0⟩])) boxAndPieces = some s ∧
      s.reports.length = 3 ∧ (∀ e ∈ s.log, e.Full) ∧
        ∀ r ∈ s.reports, r.done.map Event.change = r.changes ∧ ∀ e ∈ r.done, e.Full :=
  ⟨_, rfl, rfl,
    spent_in_full_of_spendSafe (some [⟨1005, 1, 1, 0, some 0⟩, ⟨1008, 3, 3, 0, some 0⟩]) boxAndPieces _
    (by decide +kernel) rfl⟩

/-- Three pieces pay for two operations that cost two each: both messages are checked before the first is delivered. -/
theorem one_piece_spent_twice :
    ¬∀ (bag : Option (List Goods)) (is : List Label) (s : State), Steps.exec step (State.init bag) is = some s →
      (∀ e ∈ s.log, e.Full) ∧ ∀ r ∈ s.reports, r.done.map Event.change = r.changes ∧ ∀ e ∈ r.done, e.Full := by
  intro h
  have hfull := (h (some [⟨1005, 3, 3, 0, some 0⟩])
    [.offsetGoodsInfo [(1005, 2)], .offsetGoodsInfo [(1005, 2)], .deliver 5, .deliver 5, .resume 0 { now := 5 },
      .resume 0 { now := 5 }] _ rfl).2
  exact absurd hfull (by decide +kernel)

end SasyServer.Spending
