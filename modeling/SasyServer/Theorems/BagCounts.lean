import SasyServer.Theorems.BagEntries

/-!
# Theorem: the counts of a bag are not negative, as long as only items the bag has are taken from it

A change of an entry does not let its count become negative, but `AddItemToBag` inserts an entry with the amount that was
requested, whatever it is. The condition `takesOwned` is that a change with a negative amount finds the item in the bag.
-/

namespace SasyServer.Bag

/-- The counts that a message brings are not negative. -/
def Message.bringsCounts : Message → Bool
  | .label (.loadUserItem _ rows _) => rows.all fun r => 0 ≤ r.2.1
  | .setUserItemList _ none rows _ => rows.all fun r => 0 ≤ r.2.1
  | .setUserItemList _ (some itemList) _ _ => itemList.all fun v => 0 ≤ v.goodsCount
  | _ => true

/-- The condition on a message in the state in which it is handled: what is taken is an item of the
bag, if there is a bag. -/
def takesOwned (s : State) : Message → Bool
  | .label (.changeItemCount c _ _) => 0 ≤ c.goodsCount || (s.hash c.userID).isNone || c.goodsID ∈ s.goodsIDs c.userID
  | _ => true

/-- No entry has a negative count, and no entry was inserted into `t_bag` with one. -/
def NoNegativeCount (s : State) : Prop :=
  (∀ l, ∀ v ∈ s.lists l, 0 ≤ v.goodsCount) ∧
    ∀ userID goodsID itemCount endTime, Request.insertBag userID goodsID itemCount endTime ∈ s.log → 0 ≤ itemCount

/-- What a waiting handler is going to bring into a bag is not negative. -/
def Thread.Brings : Thread → Prop
  | .add c => 0 ≤ c.goodsCount
  | .load _ rows => ∀ v ∈ rows, 0 ≤ v.goodsCount
  | _ => True

/-- The invariant: the counts of the bags, of what has been inserted, and of what the waiting handlers bring. -/
structure Counts (s : State) : Prop where
  bags : NoNegativeCount s
  waiting : ∀ t ∈ s.suspended, t.Brings

theorem counts_init : Counts State.init :=
  ⟨⟨fun _ _ hv => (by cases hv), fun _ _ _ _ hr => (by cases hr)⟩, fun _ ht => (by cases ht)⟩

section Moves

variable {s s' : State}

theorem Counts.request (h : Counts s) {r : Request} (hr : ∀ u g n e, r = .insertBag u g n e → 0 ≤ n) : Counts
    (s.request r) := by
  refine ⟨⟨h.bags.1, ?_⟩, h.waiting⟩
  intro u g n e hm
  obtain hm | hm := List.mem_cons.1 hm
  · exact hr u g n e hm.symm
  · exact h.bags.2 u g n e hm

theorem Counts.suspend (h : Counts s) {t : Thread} (ht : t.Brings) : Counts (s.suspend t) := by
  refine ⟨h.bags, ?_⟩
  intro t' ht'
  obtain ht' | ht' := List.mem_append.1 ht'
  · exact h.waiting t' ht'
  · rw [List.mem_singleton.1 ht']
    exact ht

theorem Counts.wake (h : Counts s) (k : Nat) : Counts { s with suspended := s.suspended.eraseIdx k } :=
  ⟨h.bags, fun t ht => h.waiting t (List.mem_of_mem_eraseIdx ht)⟩

/-- A list that is replaced. -/
theorem Counts.setList (h : Counts s) (l : Nat) {list : List Goods} (hlist : ∀ v ∈ list, 0 ≤ v.goodsCount) : Counts
    (s.setList l list) := by
  refine ⟨⟨fun l' v hv => ?_, h.bags.2⟩, h.waiting⟩
  by_cases hl : l' = l
  · subst hl
    simp only [State.setList, Function.update_self] at hv
    exact hlist v hv
  · simp only [State.setList, Function.update_of_ne hl] at hv
    exact h.bags.1 l' v hv

/-- An entry that changes in its place. -/
theorem Counts.set (h : Counts s) (l k : Nat) {w : Goods} (hw : 0 ≤ w.goodsCount) :
    Counts (s.setList l ((s.lists l).set k w)) := by
  refine h.setList l fun v hv => ?_
  obtain hv | rfl := List.mem_or_eq_of_mem_set hv
  · exact h.bags.1 l v hv
  · exact hw

theorem Counts.changeRecord (h : Counts s) (c : ChangeRest) : Counts (changeRecord s c) := by
  unfold Bag.changeRecord
  have hr : ∀ addOrDel, Counts (s.request (.itemRecord c.userID c.fromWhere addOrDel c.goodsID c.goodsCount.natAbs)) :=
    fun _ => h.request (fun _ _ _ _ heq => by cases heq)
  dsimp only
  repeat' split
  all_goals first | exact h | exact hr _

theorem Counts.changeRest (h : Counts s) (c : ChangeRest) : Counts (changeRest s c) := by
  unfold Bag.changeRest
  split
  · exact h.suspend trivial
  · exact h.changeRecord c

/-- A change of an entry does not make its count negative. -/
theorem Goods.change_nonneg (v : Goods) (c : Int) (w : ItemSystemType) (r : Bool) (now : Int) :
    0 ≤ (v.change c w r now).goodsCount := by
  rw [Goods.goodsCount_change_reset]
  split
  · split <;> decide
  · exact Int.le_max_left _ _

/-- A change of an item that is in the bag takes no more than there is; one of another item waits for the
configuration. -/
theorem Counts.changeItemCount (h : Counts s) {c : ChangeRest} {bReset : Bool} {now : Int}
    (hc : takesOwned s (.label (.changeItemCount c bReset now))) : Counts (changeItemCount s c bReset now) := by
  unfold Bag.changeItemCount
  cases hl : s.hash c.userID with
  | none => exact h
  | some l =>
    dsimp only
    cases hf : changeFirst c.goodsID (fun v => v.change c.goodsCount c.fromWhere bReset now) (s.lists l) with
    | none =>
      have hmiss : c.goodsID ∉ s.goodsIDs c.userID := by
        have hn := List.find?_eq_none.1 (changeFirst_eq_none hf)
        simp only [State.goodsIDs, hl, List.mem_map, not_exists, not_and]
        exact fun v hv hg => hn v hv (by simpa using hg)
      have hpos : 0 ≤ c.goodsCount := by simpa [takesOwned, hl, hmiss] using hc
      exact h.suspend hpos
    | some list =>
      obtain ⟨k, v, -, -, -, rfl⟩ := changeFirst_eq_some hf
      have hset := h.set l k (Goods.change_nonneg v c.goodsCount c.fromWhere bReset now)
      dsimp only
      split
      · exact (hset.request fun _ _ _ _ heq => by cases heq).changeRest c
      · exact hset.changeRest c

/-- An item that has expired is set to zero. -/
theorem Counts.goodsInfo (h : Counts s) {u g : Nat} {online : Bool} {now : Int}
    (hs : goodsInfo s u g online now = some s') : Counts s' := by
  obtain rfl | ⟨l, k, v, w, cleared, -, hk, -, hw, hs'⟩ := goodsInfo_cases hs
  · exact h
  have hcount : 0 ≤ w.goodsCount := by
    cases cleared with
    | true => exact Int.le_of_eq (Goods.goodsCount_cleared hw).symm
    | false =>
      rw [Goods.goodsCount_info hw]
      exact h.bags.1 l v (List.mem_of_getElem? hk)
  have hset := h.set l k hcount
  obtain rfl | rfl := hs'
  · exact hset
  · exact hset.request fun _ _ _ _ heq => by cases heq

/-- A new entry has the count of the change. -/
theorem Counts.addItemToBag (h : Counts s) {c : ChangeRest} (hc : 0 ≤ c.goodsCount) (now : Int) :
    Counts (addItemToBag s c now) := by
  unfold Bag.addItemToBag
  split
  · exact h
  · rename_i l _
    refine Counts.changeRest (Counts.request (h.setList l fun v hv => ?_) fun u g n e heq => ?_) c
    · obtain hv | hv := List.mem_append.1 hv
      · exact h.bags.1 l v hv
      · rw [List.mem_singleton.1 hv]
        exact hc
    · cases heq
      exact hc

/-- The loop of the save writes what has changed and leaves the counts. -/
theorem Counts.saveLoop (u l : Nat) (order : List Nat) : ∀ s : State, Counts s → Counts (saveLoop s u l order) := by
  induction order with
  | nil => exact fun s h => h
  | cons k order ih =>
    intro s h
    rw [Bag.saveLoop]
    split
    · exact ih s h
    · rename_i v hk
      split
      · have hv := h.bags.1 l v (List.mem_of_getElem? hk)
        refine (h.set l k ?_).suspend trivial
        dsimp only
        omega
      · exact ih s h

/-- The answer of the database is marked, and the loop goes on. -/
theorem Counts.saveResume (h : Counts s) (u l k g : Nat) (addCount retCode : Int) (order : List Nat) :
    Counts (saveResume s u l k g addCount retCode order) := by
  have hlog : Counts (s.request (.writeBag u g addCount retCode)) := h.request fun _ _ _ _ heq => by cases heq
  unfold Bag.saveResume
  dsimp only
  split
  · exact hlog
  · rename_i v hk
    exact Counts.saveLoop u l order _ (hlog.set l k (h.bags.1 l v (List.mem_of_getElem? hk)))

/-- A bag is loaded from rows without negative counts. -/
theorem Counts.loadUserItem (h : Counts s) {rows : List (Nat × Int × Int)} (hrows : ∀ r ∈ rows, 0 ≤ r.2.1)
    (u : Nat) (now : Int) :
    Counts (loadUserItem s u rows now) := by
  have hreq : ∀ (rows : List (Nat × Int × Int)) (s : State), Counts s →
      Counts (rows.foldl (fun s r => s.request (.updateBag u r.1 0 0)) s) := by
    intro rows
    induction rows with
    | nil => exact fun s h => h
    | cons r rows ih => exact fun s h => ih _ (h.request fun _ _ _ _ heq => by cases heq)
  refine (hreq _ s h).suspend fun v hv => ?_
  obtain ⟨r, hr, rfl⟩ := List.mem_map.1 hv
  have hr := hrows r hr
  unfold loadRow
  repeat' split
  all_goals first | exact hr | exact Int.le_refl 0

theorem Counts.loadDone (h : Counts s) {rows : List Goods} (hrows : ∀ v ∈ rows, 0 ≤ v.goodsCount) (u : Nat) : Counts
    (loadDone s u rows) :=
  ⟨(h.setList s.listCount hrows).bags, h.waiting⟩

/-- A handler whose wait is over. -/
theorem Counts.resumeThread (h : Counts s) {t : Thread} (ht : t.Brings) (retCode : Int) (order : List Nat)
    (online : Bool) (now : Int) :
    Counts (resumeThread s retCode order online now t) := by
  cases t with
  | save u l k g addCount => exact h.saveResume u l k g addCount retCode order
  | add c => exact h.addItemToBag ht now
  | info c =>
    simp only [Bag.resumeThread]
    split
    · exact h
    · rename_i hg
      exact (h.goodsInfo hg).changeRecord c
  | load u rows => exact h.loadDone ht u

end Moves

/-- One message keeps the invariant, under the condition. -/
theorem Counts.handle {s s' : State} {m : Message} (h : Counts s) (hm : m.bringsCounts) (hc : takesOwned s m)
    (hs : handle s m = some s') :
    Counts s' := by
  cases m with
  | setUserItemList u itemList rows now =>
    cases hs
    cases itemList with
    | none => exact h.loadUserItem (by simpa [Message.bringsCounts] using hm) u now
    | some itemList => exact h.loadDone (by simpa [Message.bringsCounts] using hm) u
  | label l =>
    cases l with
    | loadUserItem u rows now =>
      cases hs
      exact h.loadUserItem (by simpa [Message.bringsCounts] using hm) u now
    | releaseUserItem u =>
      cases hs
      exact ⟨h.bags, h.waiting⟩
    | changeItemCount c bReset now =>
      cases hs
      exact h.changeItemCount hc
    | goodsInfo u g online now =>
      cases hs
      cases hg : Bag.goodsInfo s u g online now with
      | none => exact h
      | some s' => exact h.goodsInfo hg
    | saveUserItem u order =>
      cases hs
      unfold saveUserItem
      split
      · exact h
      · exact Counts.saveLoop u _ order s h
    | resume k retCode order online now =>
      obtain ⟨t, ht, rfl⟩ := Option.map_eq_some_iff.1 hs
      exact (h.wake k).resumeThread (h.waiting t (List.mem_of_getElem? ht)) retCode order online now

/-- From the start of the service, in every run whose messages bring no negative counts and whose changes take only what a
bag has an entry of, no entry ever has a negative count, and none is inserted into `t_bag` with one. -/
theorem noNegativeCount_of_takesOwned (s : State) (messages : List Message) (hm : ∀ m ∈ messages, m.bringsCounts)
    (hc : Steps.Meets handle (fun s m => takesOwned s m) State.init messages)
    (hs : Steps.exec handle State.init messages = some s) :
    NoNegativeCount s := by
  have keep : ∀ s m s', Counts s → (takesOwned s m ∧ m.bringsCounts) → handle s m = some s' → Counts s' :=
    fun _ _ _ h hc hs => h.handle hc.2 hc.1 hs
  exact (Steps.exec_invariant keep messages _ s counts_init (hc.and (Steps.meets_of_mem messages _ hm)) hs).bags

/-- A bag with 3 of an item: 5 are taken, 2 of another item come, the bag is saved, and the user gets another bag. -/
def takenRun : List Message :=
  [.label (.loadUserItem 7 [(itemIdJewel, 3, 0)] 100), .label (.resume 0 0 [] true 100),
    .label (.changeItemCount ⟨7, itemIdJewel, -5, .byUse, false⟩ false 101),
      .label (.changeItemCount ⟨7, itemIdFish, 2, .byTask, false⟩ false 102),
    .label (.resume 0 0 [] true 102), .label (.saveUserItem 7 [0, 1]), .label (.resume 0 0 [] true 103),
    .setUserItemList 7 (some [⟨itemIdJewel, 4, 4, 0, none⟩]) [] 104]

theorem noNegativeCount_of_takesOwned_taken : ∃ s, Steps.exec handle State.init takenRun = some s ∧ NoNegativeCount s :=
  ⟨_, rfl, noNegativeCount_of_takesOwned _ takenRun (by decide) (by decide +kernel) rfl⟩

/-- Three of an item the bag does not have are taken: an entry with −3 is inserted, into the bag and into `t_bag`. -/
theorem negative_count_inserted :
    ¬∀ (s : State) (messages : List Message), (∀ m ∈ messages, m.bringsCounts) →
      Steps.exec handle State.init messages = some s →
      NoNegativeCount s := by
  intro h
  have hcount := (h _ [.label (.loadUserItem 7 [(itemIdJewel, 3, 0)] 100), .label (.resume 0 0 [] true 100),
    .label (.changeItemCount ⟨7, itemIdFish, -3, .byUse, false⟩ false 101), .label (.resume 0 0 [] true 101)] (by decide)
      rfl).2 7 itemIdFish
    (-3) 0 (by decide)
  exact absurd hcount (by decide)

end SasyServer.Bag
