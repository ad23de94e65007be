import SasyServer.Session.Manager

/-!
# What the handlers of the session manager do to its items

`WF` says how the heap, the indexes and the pool hang together; every handler keeps it, whatever the interleaving. It makes
the record of an item a value of the item's own: `getAttribute` of one item does not change when the record of another is
written, allocated or released. `Acts` says what one operation does in these terms.
-/

namespace SasyServer.Session

variable {account : Nat → Nat}

/-- The heap, the indexes and the pool fit together. -/
structure WF (account : Nat → Nat) (s : State) : Prop where
  pool : s.buffer.WF
  inUse : ∀ i r, (s.items i).sui = some r → s.buffer.InUse r
  inj : ∀ i j r, (s.items i).sui = some r → (s.items j).sui = some r → i = j
  indexed : ∀ i r, (s.items i).sui = some r → s.platformID (s.items i).platformID = some i
  platform : ∀ p i, s.platformID p = some i → (s.items i).platformID = p ∧ i < s.itemCount
  named : ∀ k i, s.session k = some i → (s.items i).session = k ∧ s.platformID (s.items i).platformID = some i
  user : ∀ i r, (s.items i).sui = some r → (s.sui r).userID = account (s.items i).platformID
  index : ∀ u i, s.userID u = some i → u = account (s.items i).platformID ∧ i < s.itemCount

theorem wf_init : WF account State.init :=
  ⟨CItemBuffer.wf_empty, by simp [State.init], by simp [State.init], by simp [State.init], by simp [State.init],
    by simp [State.init], by simp [State.init], by simp [State.init]⟩

/-- The stamp of an item. -/
def stampOf (s : State) (i : Nat) : Option Nat := (s.items i).suiActiveTS

/-- `s'` is `s` after an operation on the item `i`: its record is now `a`, its stamp `ts`, and the other
items are as they were. -/
structure Acts (account : Nat → Nat) (s s' : State) (i : Nat) (a : Option Sui) (ts : Option Nat) : Prop where
  wf : WF account s'
  self : s'.getAttribute i = a
  stamp : stampOf s' i = ts
  other : ∀ j, j ≠ i → s'.getAttribute j = s.getAttribute j
  otherStamp : ∀ j, j ≠ i → stampOf s' j = stampOf s j

theorem getAttribute_eq {s : State} {i r : Nat} (h : (s.items i).sui = some r) : s.getAttribute i = some (s.sui r) := by
  simp [State.getAttribute, h]

theorem getAttribute_none {s : State} {i : Nat} (h : (s.items i).sui = none) : s.getAttribute i = none := by
  simp [State.getAttribute, h]

/-- An item with a record, as `getAttribute` shows it. -/
theorem exists_record {s : State} {i : Nat} {a : Sui} (h : s.getAttribute i = some a) :
    ∃ r, (s.items i).sui = some r ∧ s.sui r = a := by
  simpa [State.getAttribute, Option.map_eq_some_iff] using h

/-- The user of a registration has no record in another item. -/
def freshUser (account : Nat → Nat) (s : State) : Label → Bool
  | .registerUser platformID _ =>
    (s.platformID platformID).all fun i =>
      (List.range s.itemCount).all fun j => j = i || (s.getAttribute j).all fun x => x.userID ≠ account platformID
  | _ => true

/-- Only the items that have been made have records. -/
theorem WF.lt_itemCount {s : State} (h : WF account s) {i : Nat} {x : Sui}
    (hx : s.getAttribute i = some x) : i < s.itemCount := by
  obtain ⟨r, hr, -⟩ := exists_record hx
  exact (h.platform _ i (h.indexed i r hr)).2

/-- What the condition says of a registration for an item without a record. -/
theorem WF.freshUser {s : State} (h : WF account s) {p agent i : Nat} (hc : freshUser account s (.registerUser p agent))
    (hi : s.platformID p = some i) (hnone : (s.items i).sui = none) {j : Nat} {x : Sui} (hx : s.getAttribute j = some x) :
    x.userID ≠ account p := by
  have hj : j ≠ i := by
    rintro rfl
    rw [getAttribute_none hnone] at hx
    cases hx
  simp only [Session.freshUser, hi, Option.all_some, List.all_eq_true, List.mem_range] at hc
  simpa [hj, hx] using hc j (h.lt_itemCount hx)

/-! ## The log, the suspended handlers and the clock -/

theorem WF.emit {s : State} (h : WF account s) (e : Event) : WF account (s.emit e) :=
  ⟨h.pool, h.inUse, h.inj, h.indexed, h.platform, h.named, h.user, h.index⟩

theorem WF.suspend {s : State} (h : WF account s) (t : Thread) : WF account (s.suspend t) :=
  ⟨h.pool, h.inUse, h.inj, h.indexed, h.platform, h.named, h.user, h.index⟩

theorem WF.setSuspended {s : State} (h : WF account s) (ts : List Thread) : WF account { s with suspended := ts } :=
  ⟨h.pool, h.inUse, h.inj, h.indexed, h.platform, h.named, h.user, h.index⟩

theorem WF.setNow {s : State} (h : WF account s) (n : Nat) : WF account { s with now := n } :=
  ⟨h.pool, h.inUse, h.inj, h.indexed, h.platform, h.named, h.user, h.index⟩

/-- A user is taken out of the index. -/
theorem WF.forget {s : State} (h : WF account s) (u : Nat) :
    WF account { s with userID := Function.update s.userID u none } := by
  refine ⟨h.pool, h.inUse, h.inj, h.indexed, h.platform, h.named, h.user, ?_⟩
  intro v i hv
  simp only [Function.update_apply] at hv
  split at hv
  · cases hv
  · exact h.index v i hv

theorem Acts.refl {s : State} (h : WF account s) (i : Nat) : Acts account s s i (s.getAttribute i) (stampOf s i) :=
  ⟨h, rfl, rfl, fun _ _ => rfl, fun _ _ => rfl⟩

/-- An operation followed by an event. -/
theorem Acts.emit {s s' : State} {i : Nat} {a : Option Sui} {ts : Option Nat} (h : Acts account s s' i a ts) (e : Event) :
    Acts account s (s'.emit e) i a ts :=
  ⟨h.wf.emit e, h.self, h.stamp, h.other, h.otherStamp⟩

/-- An operation followed by a wait. -/
theorem Acts.suspend {s s' : State} {i : Nat} {a : Option Sui} {ts : Option Nat} (h : Acts account s s' i a ts)
    (t : Thread) :
    Acts account s (s'.suspend t) i a ts :=
  ⟨h.wf.suspend t, h.self, h.stamp, h.other, h.otherStamp⟩

/-- Two operations on one item. -/
theorem Acts.trans {s s' s'' : State} {i : Nat} {a b : Option Sui} {ts ts' : Option Nat} (h : Acts account s s' i a ts)
    (h' : Acts account s' s'' i b ts') : Acts account s s'' i b ts' :=
  ⟨h'.wf, h'.self, h'.stamp, fun j hj => (h'.other j hj).trans (h.other j hj),
    fun j hj => (h'.otherStamp j hj).trans (h.otherStamp j hj)⟩

/-! ## Items and records -/

/-- A field that a change of an item leaves alone is left alone in every item. -/
theorem field_setItem {β : Type*} (g : Item → β) {s : State} {i : Nat} {f : Item → Item}
    (hg : g (f (s.items i)) = g (s.items i)) (j : Nat) :
    g ((s.setItem i f).items j) = g (s.items j) := by
  by_cases hj : j = i
  · subst hj
    simp only [State.setItem, Function.update_self, hg]
  · simp only [State.setItem, Function.update_of_ne hj]

theorem items_setItem_of_ne {s : State} {i j : Nat} {f : Item → Item} (hj : j ≠ i) : (s.setItem i f).items j = s.items j :=
  Function.update_of_ne hj ..

/-- A change of an item's times. -/
theorem acts_setItem {s : State} (h : WF account s) (i : Nat) {f : Item → Item}
    (hf : ∀ it, (f it).platformID = it.platformID) (hs : ∀ it, (f it).session = it.session)
    (hr : ∀ it, (f it).sui = it.sui) :
    Acts account s (s.setItem i f) i (s.getAttribute i) (f (s.items i)).suiActiveTS := by
  have hp := field_setItem Item.platformID (hf (s.items i))
  have hn := field_setItem Item.session (hs (s.items i))
  have hu := field_setItem Item.sui (hr (s.items i))
  refine ⟨⟨h.pool, ?_, ?_, ?_, ?_, ?_, ?_, ?_⟩, ?_, by simp [stampOf, State.setItem], ?_, ?_⟩
  · intro j r hj
    rw [hu] at hj
    exact h.inUse j r hj
  · intro j k r hj hk
    rw [hu] at hj hk
    exact h.inj j k r hj hk
  · intro j r hj
    rw [hu] at hj
    rw [hp]
    exact h.indexed j r hj
  · intro p j hj
    rw [hp]
    exact h.platform p j hj
  · intro k j hj
    rw [hn, hp]
    exact h.named k j hj
  · intro j r hj
    rw [hu] at hj
    rw [hp]
    exact h.user j r hj
  · intro u j hj
    rw [hp]
    exact h.index u j hj
  · simp only [State.getAttribute, hu]
    rfl
  · intro j _
    simp only [State.getAttribute, hu]
    rfl
  · intro j hj
    rw [stampOf, items_setItem_of_ne hj, stampOf]

/-- A user is taken out of the index, and the stamp from the item. -/
theorem acts_forgetUser {s : State} (h : WF account s) (i u : Nat) :
    Acts account s (forgetUser s i u) i (s.getAttribute i) none := by
  have hf := acts_setItem (h.forget u) i (f := fun it => { it with suiActiveTS := none })
    (fun _ => rfl) (fun _ => rfl) fun _ => rfl
  exact ⟨hf.wf, hf.self, hf.stamp, hf.other, hf.otherStamp⟩

/-- A change of an item's record. No other item has that record. -/
theorem acts_setAttribute {s : State} (h : WF account s) {i r : Nat} (hi : (s.items i).sui = some r) {f : Sui → Sui}
    (hf : (f (s.sui r)).userID = (s.sui r).userID) :
    Acts account s (s.setAttribute r f) i (some (f (s.sui r))) (stampOf s i) := by
  refine ⟨⟨h.pool, h.inUse, h.inj, h.indexed, h.platform, h.named, ?_, h.index⟩, ?_, rfl, ?_, fun _ _ => rfl⟩
  · intro j x hj
    by_cases hx : x = r
    · subst hx
      rw [show ((s.setAttribute x f).sui x) = f (s.sui x) from Function.update_self .., hf]
      exact h.user j x hj
    · rw [show ((s.setAttribute r f).sui x) = s.sui x from Function.update_of_ne hx ..]
      exact h.user j x hj
  · rw [getAttribute_eq (s := s.setAttribute r f) hi]
    simp [State.setAttribute]
  · intro j hj
    cases hjr : (s.items j).sui with
    | none => rw [getAttribute_none hjr, getAttribute_none (s := s.setAttribute r f) hjr]
    | some x =>
      have hx : x ≠ r := fun hx => hj (h.inj j i r (hx ▸ hjr) hi)
      rw [getAttribute_eq hjr, getAttribute_eq (s := s.setAttribute r f) hjr]
      simp [State.setAttribute, Function.update_of_ne hx]

/-- An item's record goes back to the pool. -/
theorem acts_releaseSui {s : State} (h : WF account s) {i r : Nat} (hi : (s.items i).sui = some r) (u : Nat) :
    Acts account s (releaseSui s i r u) i none none := by
  obtain ⟨hpool, huse⟩ := CItemBuffer.release_spec h.pool (h.inUse i r hi)
  have hself : ((releaseSui s i r u).items i).sui = none := by simp [releaseSui, State.setItem]
  have hitem : ∀ j, j ≠ i → (releaseSui s i r u).items j = s.items j := by
    intro j hj
    unfold releaseSui
    rw [items_setItem_of_ne hj]
  have hplat : ∀ j, ((releaseSui s i r u).items j).platformID = (s.items j).platformID := by
    intro j
    unfold releaseSui
    rw [field_setItem Item.platformID rfl]
  have hname : ∀ j, ((releaseSui s i r u).items j).session = (s.items j).session := by
    intro j
    unfold releaseSui
    rw [field_setItem Item.session rfl]
  have hold : ∀ j x, ((releaseSui s i r u).items j).sui = some x → (s.items j).sui = some x ∧ x ≠ r := by
    intro j x hj
    by_cases hji : j = i
    · rw [hji, hself] at hj
      cases hj
    · rw [hitem j hji] at hj
      exact ⟨hj, fun hx => hji (h.inj j i r (hx ▸ hj) hi)⟩
  refine ⟨⟨hpool, ?_, ?_, ?_, ?_, ?_, ?_, ?_⟩, getAttribute_none hself, by simp [stampOf, releaseSui, State.setItem], ?_, ?_⟩
  · intro j x hj
    obtain ⟨h1, h2⟩ := hold j x hj
    exact (huse x).2 ⟨h2, h.inUse j x h1⟩
  · intro j k x hj hk
    exact h.inj j k x (hold j x hj).1 (hold k x hk).1
  · intro j x hj
    rw [hplat]
    exact h.indexed j x (hold j x hj).1
  · intro p j hj
    rw [hplat]
    exact h.platform p j hj
  · intro k j hj
    rw [hname, hplat]
    exact h.named k j hj
  · intro j x hj
    obtain ⟨h1, h2⟩ := hold j x hj
    rw [hplat, show (releaseSui s i r u).sui x = s.sui x from Function.update_of_ne h2 ..]
    exact h.user j x h1
  · intro v j hv
    rw [hplat]
    exact (h.forget u).index v j hv
  · intro j hj
    cases hjr : (s.items j).sui with
    | none => rw [getAttribute_none hjr, getAttribute_none (by rw [hitem j hj, hjr])]
    | some x =>
      have hx : x ≠ r := fun hx => hj (h.inj j i r (hx ▸ hjr) hi)
      rw [getAttribute_eq hjr, getAttribute_eq (s := releaseSui s i r u) (by rw [hitem j hj, hjr])]
      exact congrArg some (Function.update_of_ne hx ..)
  · intro j hj
    rw [stampOf, hitem j hj, stampOf]

/-! ## Sessions -/

/-- An item gets another session string. -/
theorem acts_rename {s : State} (h : WF account s) {i p : Nat} (hi : s.platformID p = some i) (name : String) (now : Nat) :
    Acts account s (State.setItem { s with
      session := Function.update (Function.update s.session (s.items i).session none) name (some i) } i
      fun it => { it with session := name, sessionActiveTS := now }) i (s.getAttribute i) (stampOf s i) := by
  have hpi := h.platform p i hi
  have hother : ∀ j, j ≠ i →
    (Function.update s.items i { s.items i with session := name, sessionActiveTS := now }) j = s.items j :=
    fun j hj => Function.update_of_ne hj ..
  have hfield : ∀ (j : Nat),
      ((Function.update s.items i { s.items i with session := name, sessionActiveTS := now }) j).sui = (s.items j).sui ∧
      ((Function.update s.items i { s.items i with session := name, sessionActiveTS := now }) j).platformID =
        (s.items j).platformID := by
    intro j
    exact ⟨field_setItem Item.sui (s := s) (f := fun it => { it with session := name, sessionActiveTS := now }) rfl j,
      field_setItem Item.platformID (s := s) (f := fun it => { it with session := name, sessionActiveTS := now }) rfl j⟩
  refine ⟨⟨h.pool, ?_, ?_, ?_, ?_, ?_, ?_, ?_⟩, ?_, ?_, ?_, ?_⟩
  · intro j r hj
    exact h.inUse j r ((hfield j).1 ▸ hj)
  · intro j k r hj hk
    exact h.inj j k r ((hfield j).1 ▸ hj) ((hfield k).1 ▸ hk)
  · intro j r hj
    exact (hfield j).2.symm ▸ h.indexed j r ((hfield j).1 ▸ hj)
  · intro q j hj
    exact (hfield j).2.symm ▸ h.platform q j hj
  · intro k j hk
    simp only [State.setItem] at hk ⊢
    rw [(hfield j).2]
    by_cases hkn : k = name
    · subst hkn
      rw [Function.update_self, Option.some.injEq] at hk
      subst hk
      rw [Function.update_self, hpi.1]
      exact ⟨rfl, hi⟩
    · rw [Function.update_of_ne hkn] at hk
      by_cases hko : k = (s.items i).session
      · rw [hko, Function.update_self] at hk
        cases hk
      · rw [Function.update_of_ne hko] at hk
        have hj : j ≠ i := by
          rintro rfl
          exact hko (h.named k j hk).1.symm
        rw [hother j hj]
        exact h.named k j hk
  · intro j r hj
    exact (hfield j).2.symm ▸ h.user j r ((hfield j).1 ▸ hj)
  · intro u j hj
    exact (hfield j).2.symm ▸ h.index u j hj
  · simp only [State.getAttribute, State.setItem, (hfield i).1]
  · simp [stampOf, State.setItem]
  · intro j _
    simp only [State.getAttribute, State.setItem, (hfield j).1]
  · intro j hj
    simp only [stampOf, State.setItem, hother j hj]

/-- The cell of the next item holds no record. -/
theorem fresh_sui {s : State} (h : WF account s) : (s.items s.itemCount).sui = none := by
  cases hr : (s.items s.itemCount).sui with
  | none => rfl
  | some r => exact absurd (h.platform _ _ (h.indexed _ r hr)).2 (Nat.lt_irrefl _)

/-- A new item. -/
theorem acts_create {s : State} (h : WF account s) {p : Nat} (hp : s.platformID p = none) (name : String) (now : Nat) :
    Acts account s { s with
      items := Function.update s.items s.itemCount ⟨p, name, now, none, none⟩
      itemCount := s.itemCount + 1
      platformID := Function.update s.platformID p (some s.itemCount)
      session := Function.update s.session name (some s.itemCount) } s.itemCount none none := by
  have hother : ∀ j, j ≠ s.itemCount → Function.update s.items s.itemCount ⟨p, name, now, none, none⟩ j = s.items j :=
    fun j hj => Function.update_of_ne hj ..
  have hold : ∀ j r, (Function.update s.items s.itemCount ⟨p, name, now, none, none⟩ j).sui = some r →
      j ≠ s.itemCount ∧ (s.items j).sui = some r := by
    intro j r hj
    by_cases hji : j = s.itemCount
    · rw [hji, Function.update_self] at hj
      cases hj
    · rw [hother j hji] at hj
      exact ⟨hji, hj⟩
  have hplat : ∀ q j, s.platformID q = some j → q ≠ p ∧ j ≠ s.itemCount := by
    intro q j hq
    refine ⟨?_, Nat.ne_of_lt (h.platform q j hq).2⟩
    intro hqp
    rw [hqp, hp] at hq
    cases hq
  refine ⟨⟨h.pool, ?_, ?_, ?_, ?_, ?_, ?_, ?_⟩, ?_, ?_, ?_, ?_⟩
  · intro j r hj
    exact h.inUse j r (hold j r hj).2
  · intro j k r hj hk
    exact h.inj j k r (hold j r hj).2 (hold k r hk).2
  · intro j r hj
    obtain ⟨hji, hj⟩ := hold j r hj
    have hidx := h.indexed j r hj
    simp only [hother j hji]
    rw [Function.update_of_ne (hplat _ _ hidx).1]
    exact hidx
  · intro q j hq
    simp only [Function.update_apply] at hq
    split at hq
    · rename_i hqp
      rw [Option.some.injEq] at hq
      subst hq
      simp only [Function.update_self]
      exact ⟨hqp.symm, Nat.lt_succ_self _⟩
    · obtain ⟨h1, h2⟩ := h.platform q j hq
      simp only [hother j (Nat.ne_of_lt h2)]
      exact ⟨h1, Nat.lt_succ_of_lt h2⟩
  · intro k j hk
    simp only at hk ⊢
    by_cases hkn : k = name
    · subst hkn
      rw [Function.update_self, Option.some.injEq] at hk
      subst hk
      rw [Function.update_self]
      exact ⟨rfl, Function.update_self ..⟩
    · rw [Function.update_of_ne hkn] at hk
      obtain ⟨h1, h2⟩ := h.named k j hk
      rw [hother j (hplat _ _ h2).2, Function.update_of_ne (hplat _ _ h2).1]
      exact ⟨h1, h2⟩
  · intro j r hj
    obtain ⟨hji, hj⟩ := hold j r hj
    simp only [hother j hji]
    exact h.user j r hj
  · intro u j hu
    obtain ⟨h1, h2⟩ := h.index u j hu
    simp only [hother j (Nat.ne_of_lt h2)]
    exact ⟨h1, Nat.lt_succ_of_lt h2⟩
  · simp [State.getAttribute]
  · simp [stampOf]
  · intro j hj
    simp only [State.getAttribute, hother j hj]
  · intro j hj
    simp only [stampOf, hother j hj]

/-- A new record for an item. -/
theorem acts_register {s : State} (h : WF account s) {p i : Nat} (hi : s.platformID p = some i) (hr : (s.items i).sui = none)
    (agent now : Nat) :
    Acts account s (State.setItem { s with
      buffer := s.buffer.allocate.2
      sui := Function.update s.sui s.buffer.allocate.1 ⟨account p, agent, .usLs, 0, 0, 0⟩
      userID := Function.update s.userID (account p) (some i) } i
      fun it => { it with sui := some s.buffer.allocate.1, sessionActiveTS := now, suiActiveTS := none })
      i (some ⟨account p, agent, .usLs, 0, 0, 0⟩) none := by
  obtain ⟨hpool, hfree, huse⟩ := CItemBuffer.allocate_spec h.pool
  obtain ⟨hpi, hlt⟩ := h.platform p i hi
  have hother : ∀ j, j ≠ i → Function.update s.items i
      { s.items i with sui := some s.buffer.allocate.1, sessionActiveTS := now, suiActiveTS := none } j = s.items j :=
    fun j hj => Function.update_of_ne hj ..
  have hfield : ∀ j, (Function.update s.items i
      { s.items i with sui := some s.buffer.allocate.1, sessionActiveTS := now, suiActiveTS := none } j).platformID =
      (s.items j).platformID ∧ (Function.update s.items i
      { s.items i with sui := some s.buffer.allocate.1, sessionActiveTS := now, suiActiveTS := none } j).session =
      (s.items j).session := by
    intro j
    by_cases hj : j = i
    · subst hj
      simp
    · rw [hother j hj]
      exact ⟨rfl, rfl⟩
  -- the record of an item is the new one for `i` and an old one for the others
  have hold : ∀ j r, (Function.update s.items i
      { s.items i with sui := some s.buffer.allocate.1, sessionActiveTS := now, suiActiveTS := none } j).sui = some r →
      (j = i ∧ r = s.buffer.allocate.1) ∨ (j ≠ i ∧ (s.items j).sui = some r ∧ r ≠ s.buffer.allocate.1) := by
    intro j r hj
    by_cases hji : j = i
    · rw [hji, Function.update_self, Option.some.injEq] at hj
      exact Or.inl ⟨hji, hj.symm⟩
    · rw [hother j hji] at hj
      refine Or.inr ⟨hji, hj, ?_⟩
      rintro rfl
      exact hfree (h.inUse j _ hj)
  refine ⟨⟨hpool, ?_, ?_, ?_, ?_, ?_, ?_, ?_⟩, ?_, ?_, ?_, ?_⟩
  · intro j r hj
    rcases hold j r hj with ⟨-, rfl⟩ | ⟨-, hj, -⟩
    · exact (huse _).2 (Or.inl rfl)
    · exact (huse r).2 (Or.inr (h.inUse j r hj))
  · intro j k r hj hk
    rcases hold j r hj with ⟨rfl, hr1⟩ | ⟨-, hj, hr1⟩
    · rcases hold k r hk with ⟨rfl, -⟩ | ⟨-, -, hr2⟩
      · rfl
      · exact absurd hr1 hr2
    · rcases hold k r hk with ⟨-, hr2⟩ | ⟨-, hk, -⟩
      · exact absurd hr2 hr1
      · exact h.inj j k r hj hk
  · intro j r hj
    simp only [State.setItem, (hfield j).1]
    rcases hold j r hj with ⟨rfl, -⟩ | ⟨-, hj, -⟩
    · rw [hpi]
      exact hi
    · exact h.indexed j r hj
  · intro q j hq
    simp only [State.setItem, (hfield j).1]
    exact h.platform q j hq
  · intro k j hk
    simp only [State.setItem, (hfield j).1, (hfield j).2]
    exact h.named k j hk
  · intro j r hj
    simp only [State.setItem, (hfield j).1]
    rcases hold j r hj with ⟨rfl, rfl⟩ | ⟨-, hj, hne⟩
    · rw [Function.update_self, hpi]
    · rw [Function.update_of_ne hne]
      exact h.user j r hj
  · intro u j hu
    simp only [State.setItem] at hu ⊢
    rw [(hfield j).1]
    by_cases hup : u = account p
    · rw [hup, Function.update_self, Option.some.injEq] at hu
      subst hu
      rw [hpi]
      exact ⟨hup, hlt⟩
    · rw [Function.update_of_ne hup] at hu
      exact h.index u j hu
  · simp [State.getAttribute, State.setItem]
  · simp [stampOf, State.setItem]
  · intro j hj
    simp only [State.getAttribute, State.setItem, hother j hj]
    cases hjr : (s.items j).sui with
    | none => rfl
    | some x =>
      have hx : x ≠ s.buffer.allocate.1 := by
        rintro rfl
        exact hfree (h.inUse j _ hjr)
      exact congrArg some (Function.update_of_ne hx ..)
  · intro j hj
    simp only [stampOf, State.setItem, hother j hj]

/-- An expired session is forgotten. -/
theorem acts_cleanSession {s : State} (h : WF account s) {k : String} {i : Nat} (hk : s.session k = some i) :
    Acts account s (cleanSession s i) i (s.getAttribute i) (stampOf s i) := by
  unfold cleanSession
  split
  · rename_i hc
    have hki := h.named k i hk
    have hne : ∀ q j, s.platformID q = some j → j ≠ i → q ≠ (s.items i).platformID := by
      rintro q j hq hji rfl
      rw [hki.2, Option.some.injEq] at hq
      exact hji hq.symm
    refine ⟨⟨h.pool, h.inUse, h.inj, ?_, ?_, ?_, h.user, h.index⟩, rfl, rfl, fun _ _ => rfl, fun _ _ => rfl⟩
    · intro j r hj
      have hji : j ≠ i := by
        rintro rfl
        rw [hc.1] at hj
        cases hj
      have := h.indexed j r hj
      simp only
      rw [Function.update_of_ne (hne _ _ this hji)]
      exact this
    · intro q j hq
      simp only [Function.update_apply] at hq
      split at hq
      · cases hq
      · exact h.platform q j hq
    · intro k' j hk'
      simp only at hk' ⊢
      by_cases hkk : k' = (s.items i).session
      · rw [hkk, Function.update_self] at hk'
        cases hk'
      · rw [Function.update_of_ne hkk] at hk'
        obtain ⟨h1, h2⟩ := h.named k' j hk'
        have hji : j ≠ i := by
          rintro rfl
          exact hkk h1.symm
        rw [Function.update_of_ne (hne _ _ h2 hji)]
        exact ⟨h1, h2⟩
  · exact Acts.refl h i

end SasyServer.Session
