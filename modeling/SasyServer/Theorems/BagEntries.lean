import SasyServer.Lemmas.BagLedger

/-!
# Theorem: a bag has one entry for an item, as long as nothing happens to the item while it is added

`cmd_ChangeItemCount` finds that the bag has no entry of the item, and `AddItemToBag` waits for the configuration of the item
before it inserts one into the bag the user has then. The condition `changeSafe` is on what happens in between: no other
change of the missing item, no release of the bag, and no load that brings the item.

The invariant is about the items of a bag and the items that are being added to it: no item is twice among all of them.
-/

namespace SasyServer.Bag

/-- The item a waiting handler is going to add to the bag of the user. -/
def Thread.addID (userID : Nat) : Thread → Option Nat
  | .add c => if c.userID = userID then some c.goodsID else none
  | _ => none

/-- The items that are being added to the bag of the user. -/
def State.adding (s : State) (userID : Nat) : List Nat := s.suspended.filterMap (Thread.addID userID)

/-- The items of the bag of the user. -/
def State.goodsIDs (s : State) (userID : Nat) : List Nat :=
  match s.hash userID with
  | none => []
  | some l => (s.lists l).map Goods.goodsID

/-- The condition on a label in the state in which it is taken. The rows of a bag have different items, as
they have in the database. -/
def changeSafe (s : State) : Label → Bool
  | .changeItemCount c _ _ => c.goodsID ∈ s.goodsIDs c.userID || c.goodsID ∉ s.adding c.userID
  | .releaseUserItem userID => s.adding userID = []
  | .loadUserItem _ rows _ => (rows.map Prod.fst).Nodup
  | .resume k _ _ _ _ =>
    match s.suspended[k]? with
    | some (.load userID rows) => rows.all fun v => v.goodsID ∉ s.adding userID
    | _ => true
  | _ => true

/-- The entry of the item has expired, and `cmd_GoodsInfo` is going to clear it. -/
def expires (s : State) (userID goodsID : Nat) (now : Int) : Bool :=
  match s.hash userID with
  | none => false
  | some l => ((s.lists l).find? fun v => v.goodsID = goodsID).any fun v => ((v.info now).map Prod.snd).getD false

/-- The entries of the item in a list are not negative. -/
def notNegative (list : List Goods) (goodsID : Nat) : Bool := list.all fun v => v.goodsID ≠ goodsID || 0 ≤ v.goodsCount

/-- The condition for the count of an item of a user: its changes are ordinary ones, which do not reset it and do not make it
negative, and it does not expire. A save resets a negative count. -/
def countSafe (userID goodsID : Nat) (s : State) : Label → Bool
  | .changeItemCount c bReset _ =>
    !(c.userID = userID && c.goodsID = goodsID && goodsID ∈ s.goodsIDs userID) ||
      (!bReset && !checkIsPaoTaiItem goodsID && 0 ≤ s.getItemCount userID goodsID + c.goodsCount)
  | .goodsInfo u g _ now => !(u = userID && g = goodsID && expires s userID goodsID now)
  | .saveUserItem u _ => (s.hash u).all fun l => notNegative (s.lists l) goodsID
  | .resume k _ _ _ now =>
    match s.suspended[k]? with
    | some (.info c) => !(c.userID = userID && c.goodsID = goodsID && expires s userID goodsID now)
    | some (.save _ l _ _ _) => notNegative (s.lists l) goodsID
    | _ => true
  | _ => true

/-- What has been applied to an item of a user: a load starts with the count of the row, a release with nothing; a change is
applied when it finds the entry, or else when the entry is added. -/
def applied (userID goodsID : Nat) (s : State) : Label → Int → Int
  | .changeItemCount c _ _, n =>
    if c.userID = userID ∧ c.goodsID = goodsID ∧ goodsID ∈ s.goodsIDs userID then n + c.goodsCount else n
  | .releaseUserItem u, n => if u = userID then 0 else n
  | .resume k _ _ _ _, n =>
    match s.suspended[k]? with
    | some (.add c) => if c.userID = userID ∧ c.goodsID = goodsID then n + c.goodsCount else n
    | some (.load u rows) => if u = userID then Bag.getItemCount rows goodsID else n
    | _ => n
  | _, n => n

/-! ## The items of the bags -/

/-- The bags belong to one user each, their items and those being added are different ones, and an item
is only added to a bag. -/
structure Entries (s : State) : Prop where
  own : ∀ u v l, s.hash u = some l → s.hash v = some l → u = v
  lt : ∀ u l, s.hash u = some l → l < s.listCount
  nodup : ∀ u, (s.goodsIDs u ++ s.adding u).Nodup
  bag : ∀ u, s.adding u ≠ [] → (s.hash u).isSome
  loads : ∀ u rows, .load u rows ∈ s.suspended → (rows.map Goods.goodsID).Nodup

/-- A step that leaves the bags and their items as they are, and lets no handler begin to add or to load. -/
structure Quiet (s s' : State) : Prop where
  hash : s'.hash = s.hash
  listCount : s'.listCount = s.listCount
  ids : ∀ l, (s'.lists l).map Goods.goodsID = (s.lists l).map Goods.goodsID
  adding : ∀ u, (s'.adding u).Perm (s.adding u)
  loads : ∀ u rows, .load u rows ∈ s'.suspended → .load u rows ∈ s.suspended

theorem Quiet.refl (s : State) : Quiet s s := ⟨rfl, rfl, fun _ => rfl, fun _ => List.Perm.refl _, fun _ _ h => h⟩

theorem Quiet.trans {s s' s'' : State} (h : Quiet s s') (h' : Quiet s' s'') : Quiet s s'' :=
  ⟨h'.hash.trans h.hash, h'.listCount.trans h.listCount, fun l => (h'.ids l).trans (h.ids l),
    fun u => (h'.adding u).trans (h.adding u), fun u rows hl => h.loads u rows (h'.loads u rows hl)⟩

theorem Quiet.goodsIDs {s s' : State} (h : Quiet s s') (u : Nat) : s'.goodsIDs u = s.goodsIDs u := by
  rw [State.goodsIDs, State.goodsIDs, h.hash]
  cases s.hash u with
  | none => rfl
  | some l => exact h.ids l

/-- A step that leaves the bags alone. -/
theorem Entries.quiet {s s' : State} (h : Entries s) (hq : Quiet s s') : Entries s' := by
  refine ⟨?_, ?_, ?_, ?_, fun u rows hl => h.loads u rows (hq.loads u rows hl)⟩
  · rw [hq.hash]
    exact h.own
  · rw [hq.hash, hq.listCount]
    exact h.lt
  · intro u
    rw [hq.goodsIDs]
    exact ((hq.adding u).append_left _).nodup_iff.2 (h.nodup u)
  · intro u ha
    rw [hq.hash]
    refine h.bag u fun hn => ha ?_
    exact List.perm_nil.1 (hn ▸ hq.adding u)

section Quiet

variable {s : State}

theorem quiet_request (s : State) (r : Request) : Quiet s (s.request r) :=
  ⟨rfl, rfl, fun _ => rfl, fun _ => List.Perm.refl _, fun _ _ h => h⟩

/-- A handler that begins to wait for something else. -/
theorem quiet_suspend {t : Thread} (ha : ∀ u, t.addID u = none) (hl : ∀ u rows, t ≠ .load u rows) : Quiet s
    (s.suspend t) := by
  refine ⟨rfl, rfl, fun _ => rfl, ?_, ?_⟩
  · intro u
    simp only [State.adding, State.suspend, List.filterMap_append, List.filterMap_cons, List.filterMap_nil, ha,
      List.append_nil]
    exact List.Perm.refl _
  · intro u rows hm
    rcases List.mem_append.1 hm with hm | hm
    · exact hm
    · exact absurd (List.mem_singleton.1 hm).symm (hl u rows)

/-- An entry that changes in place. -/
theorem quiet_set {l k : Nat} {v w : Goods} (hk : (s.lists l)[k]? = some v) (hid : w.goodsID = v.goodsID) :
    Quiet s (s.setList l ((s.lists l).set k w)) := by
  refine ⟨rfl, rfl, ?_, fun _ => List.Perm.refl _, fun _ _ h => h⟩
  intro l'
  show (Function.update s.lists l _ l').map _ = _
  by_cases hl : l' = l
  · subst hl
    rw [Function.update_self]
    refine List.ext_getElem? ?_
    intro j
    rw [List.getElem?_map, List.getElem?_map, goodsID_set hk hid]
  · rw [Function.update_of_ne hl]

theorem quiet_changeRecord (s : State) (c : ChangeRest) : Quiet s (changeRecord s c) := by
  unfold changeRecord
  dsimp only
  repeat' split
  all_goals first | exact Quiet.refl s | exact quiet_request s _

theorem quiet_changeRest (s : State) (c : ChangeRest) : Quiet s (changeRest s c) := by
  unfold changeRest
  split
  · exact quiet_suspend (fun _ => rfl) fun _ _ hh => by cases hh
  · exact quiet_changeRecord s c

theorem quiet_goodsInfo {s' : State} {u g : Nat} {online : Bool} {now : Int} (hs : goodsInfo s u g online now = some s') :
    Quiet s s' := by
  obtain rfl | ⟨l, k, v, w, cleared, -, hk, -, hw, rfl | rfl⟩ := goodsInfo_cases hs
  · exact Quiet.refl _
  · exact quiet_set hk (Goods.goodsID_info hw)
  · exact (quiet_set hk (Goods.goodsID_info hw)).trans (quiet_request _ _)

/-- The loop of the save marks entries and waits. -/
theorem quiet_saveLoop (u l : Nat) : ∀ (order : List Nat) (s : State), Quiet s (saveLoop s u l order) := by
  intro order
  induction order with
  | nil => exact fun s => Quiet.refl s
  | cons k order ih =>
    intro s
    rw [saveLoop]
    split
    · exact ih s
    · rename_i v hk
      split
      · refine Quiet.trans (quiet_set hk ?_) (quiet_suspend (fun _ => rfl) fun _ _ hh => by cases hh)
        rfl
      · exact ih s

/-- The answer of the database is marked, and the loop goes on. -/
theorem quiet_saveResume (s : State) (u l k g : Nat) (addCount retCode : Int) (order : List Nat) :
    Quiet s (saveResume s u l k g addCount retCode order) := by
  unfold saveResume
  dsimp only
  split
  · exact quiet_request s _
  · rename_i v hk
    refine ((quiet_request s _).trans (quiet_set hk ?_)).trans (quiet_saveLoop u l order _)
    rfl

/-- A handler that stops waiting. -/
theorem adding_wake {k : Nat} {t : Thread} (hk : s.suspended[k]? = some t) (u : Nat) :
    (s.adding u).Perm ((t.addID u).toList ++ ({ s with suspended := s.suspended.eraseIdx k } : State).adding u) := by
  refine ((Waiting.perm_cons_eraseIdx hk).filterMap (Thread.addID u)).trans ?_
  rw [List.filterMap_cons]
  cases t.addID u with
  | none => exact List.Perm.refl _
  | some g => exact List.Perm.refl _

/-- A handler that stops waiting, and was not going to add anything. -/
theorem quiet_wake {k : Nat} {t : Thread} (hk : s.suspended[k]? = some t) (ha : ∀ u, t.addID u = none) :
    Quiet s { s with suspended := s.suspended.eraseIdx k } := by
  refine ⟨rfl, rfl, fun _ => rfl, ?_, fun u rows hl => List.mem_of_mem_eraseIdx hl⟩
  intro u
  have hw := adding_wake hk u
  rw [ha u] at hw
  exact hw.symm

end Quiet

/-! ## Additions, loads and releases -/

section Moves

variable {s : State}

/-- A change of a missing item, which nothing else is adding. -/
theorem Entries.ask (h : Entries s) {c : ChangeRest} {l : Nat} (hl : s.hash c.userID = some l)
    (hmiss : c.goodsID ∉ s.goodsIDs c.userID) (hfree : c.goodsID ∉ s.adding c.userID) : Entries (s.suspend (.add c)) := by
  have hadding : ∀ u, (s.suspend (.add c)).adding u = s.adding u ++ if c.userID = u then [c.goodsID] else [] := by
    intro u
    by_cases hu : c.userID = u <;> simp [State.adding, State.suspend, Thread.addID, hu]
  refine ⟨h.own, h.lt, ?_, ?_, ?_⟩
  · intro u
    rw [hadding]
    show (s.goodsIDs u ++ _).Nodup
    by_cases hu : c.userID = u
    · subst hu
      rw [if_pos rfl, ← List.append_assoc]
      refine List.nodup_append.2 ⟨h.nodup c.userID, by simp, ?_⟩
      rintro a ha b hb rfl
      rw [List.mem_singleton] at hb
      subst hb
      exact (List.mem_append.1 ha).elim hmiss hfree
    · rw [if_neg hu, List.append_nil]
      exact h.nodup u
  · intro u ha
    by_cases hu : c.userID = u
    · subst hu
      exact Option.isSome_iff_exists.2 ⟨l, hl⟩
    · rw [hadding, if_neg hu, List.append_nil] at ha
      exact h.bag u ha
  · intro u rows hm
    rcases List.mem_append.1 hm with hm | hm
    · exact h.loads u rows hm
    · cases List.mem_singleton.1 hm

/-- An entry that is inserted into a bag. -/
theorem goodsIDs_append (h : Entries s) {u l : Nat} (hl : s.hash u = some l) (item : Goods) (v : Nat) :
    (s.setList l (s.lists l ++ [item])).goodsIDs v = s.goodsIDs v ++ if u = v then [item.goodsID] else [] := by
  show (match s.hash v with | none => [] | some l' => (Function.update s.lists l _ l').map Goods.goodsID) = _
  by_cases huv : u = v
  · subst huv
    simp only [State.goodsIDs, hl, Function.update_self, List.map_append, List.map_cons, List.map_nil, if_true]
  · rw [if_neg huv, List.append_nil, State.goodsIDs]
    cases hv : s.hash v with
    | none => rfl
    | some l' =>
      have hne : l' ≠ l := fun hh => huv (h.own u v l hl (hh ▸ hv))
      simp only [Function.update_of_ne hne]

/-- An item that is being added is added to a bag that does not have it. -/
theorem Entries.adding_new (h : Entries s) {k : Nat} {c : ChangeRest} (hk : s.suspended[k]? = some (.add c)) :
    ∃ l, s.hash c.userID = some l ∧ c.goodsID ∉ (s.lists l).map Goods.goodsID := by
  have hmem : c.goodsID ∈ s.adding c.userID :=
    List.mem_filterMap.2 ⟨_, List.mem_of_getElem? hk, by rw [Thread.addID, if_pos rfl]⟩
  obtain ⟨l, hl⟩ := Option.isSome_iff_exists.1 (h.bag c.userID (List.ne_nil_of_mem hmem))
  refine ⟨l, hl, ?_⟩
  intro hin
  have hids : c.goodsID ∈ s.goodsIDs c.userID := by
    rw [State.goodsIDs, hl]
    exact hin
  exact (List.nodup_append.1 (h.nodup c.userID)).2.2 _ hids _ hmem rfl

/-- The end of `AddItemToBag`: the item is in the bag, and is no longer being added. -/
theorem Entries.add (h : Entries s) {k : Nat} {c : ChangeRest} (hk : s.suspended[k]? = some (.add c)) (now : Int) :
    Entries (addItemToBag { s with suspended := s.suspended.eraseIdx k } c now) := by
  have hwake := adding_wake hk
  obtain ⟨l, hl, -⟩ := h.adding_new hk
  unfold addItemToBag
  simp only [hl]
  refine Entries.quiet (s := State.setList { s with suspended := s.suspended.eraseIdx k } l
    (s.lists l ++ [Goods.added c.goodsID c.goodsCount])) ?_ ((quiet_request _ _).trans (quiet_changeRest _ _))
  refine ⟨h.own, h.lt, ?_, ?_, fun u rows hm => h.loads u rows (List.mem_of_mem_eraseIdx hm)⟩
  · intro u
    have hids := goodsIDs_append h hl (Goods.added c.goodsID c.goodsCount) u
    refine ((List.Perm.append_right _ (List.Perm.of_eq hids)).trans ?_).nodup_iff.2 (h.nodup u)
    rw [List.append_assoc]
    refine List.Perm.append_left _ (List.Perm.trans ?_ (hwake u).symm)
    refine List.Perm.append_right _ (List.Perm.of_eq ?_)
    rw [Thread.addID]
    split <;> rfl
  · intro u ha
    refine h.bag u fun hn => ha ?_
    have hp := hwake u
    rw [hn] at hp
    exact (List.append_eq_nil_iff.1 (List.nil_perm.1 hp)).2

/-- A load that begins. -/
theorem Entries.beginLoad (h : Entries s) {u : Nat} {rows : List Goods} (hrows : (rows.map Goods.goodsID).Nodup) :
    Entries (s.suspend (.load u rows)) := by
  have hadding : ∀ v, (s.suspend (.load u rows)).adding v = s.adding v := by
    intro v
    simp [State.adding, State.suspend, Thread.addID]
  refine ⟨h.own, h.lt, fun v => hadding v ▸ h.nodup v, fun v => hadding v ▸ h.bag v, ?_⟩
  intro v rs hm
  rcases List.mem_append.1 hm with hm | hm
  · exact h.loads v rs hm
  · cases List.mem_singleton.1 hm
    exact hrows

/-- A bag that is loaded, without an item that is being added. -/
theorem Entries.load (h : Entries s) {k u : Nat} {rows : List Goods} (hk : s.suspended[k]? = some (.load u rows))
    (hnot : ∀ v ∈ rows, v.goodsID ∉ s.adding u) :
    Entries (loadDone { s with suspended := s.suspended.eraseIdx k } u rows) := by
  have hwake := fun w => (quiet_wake hk fun _ => rfl).adding w
  have hother : ∀ v l, s.hash v = some l → l ≠ s.listCount := fun v l hv => Nat.ne_of_lt (h.lt v l hv)
  refine ⟨?_, ?_, ?_, ?_, fun v rs hm => h.loads v rs (List.mem_of_mem_eraseIdx hm)⟩
  · intro v w l hv hw
    simp only [loadDone, Function.update_apply] at hv hw
    split at hv
    · split at hw
      · simp only [*]
      · rw [Option.some.injEq] at hv
        exact absurd hv.symm (hother w l hw)
    · split at hw
      · rw [Option.some.injEq] at hw
        exact absurd hw.symm (hother v l hv)
      · exact h.own v w l hv hw
  · intro v l hv
    simp only [loadDone, Function.update_apply] at hv
    split at hv
    · rw [Option.some.injEq] at hv
      exact hv ▸ Nat.lt_succ_self _
    · exact Nat.lt_succ_of_lt (h.lt v l hv)
  · intro v
    refine (List.Perm.append_left _ (hwake v)).nodup_iff.2 ?_
    by_cases hv : v = u
    · subst hv
      have hids : (loadDone { s with suspended := s.suspended.eraseIdx k } v rows).goodsIDs v = rows.map Goods.goodsID := by
        simp only [State.goodsIDs, loadDone, Function.update_self]
      rw [hids]
      refine List.nodup_append.2 ⟨h.loads v rows (List.mem_of_getElem? hk), (List.nodup_append.1 (h.nodup v)).2.1, ?_⟩
      rintro a ha b hb rfl
      obtain ⟨x, hx, rfl⟩ := List.mem_map.1 ha
      exact hnot x hx hb
    · have hids : (loadDone { s with suspended := s.suspended.eraseIdx k } u rows).goodsIDs v = s.goodsIDs v := by
        simp only [State.goodsIDs, loadDone, Function.update_of_ne hv]
        cases hl : s.hash v with
        | none => rfl
        | some l => simp only [Function.update_of_ne (hother v l hl)]
      rw [hids]
      exact h.nodup v
  · intro v ha
    simp only [loadDone, Function.update_apply]
    split
    · rfl
    · exact h.bag v fun hn => ha (List.perm_nil.1 (hn ▸ hwake v))

/-- A bag that is released while nothing is being added to it. -/
theorem Entries.release (h : Entries s) {u : Nat} (hu : s.adding u = []) : Entries (releaseUserItem s u) := by
  have hsub : ∀ v l, (releaseUserItem s u).hash v = some l → s.hash v = some l := by
    intro v l hv
    simp only [releaseUserItem, Function.update_apply] at hv
    split at hv
    · cases hv
    · exact hv
  refine ⟨fun v w l hv hw => h.own v w l (hsub v l hv) (hsub w l hw), fun v l hv => h.lt v l (hsub v l hv), ?_, ?_, h.loads⟩
  · intro v
    show (_ ++ s.adding v).Nodup
    by_cases hv : v = u
    · subst hv
      simp only [State.goodsIDs, releaseUserItem, Function.update_self, hu, List.append_nil, List.nodup_nil]
    · have hids : (releaseUserItem s u).goodsIDs v = s.goodsIDs v := by
        simp only [State.goodsIDs, releaseUserItem, Function.update_of_ne hv]
      rw [hids]
      exact h.nodup v
  · intro v ha
    have hv : v ≠ u := fun hh => ha (hh ▸ hu)
    simp only [releaseUserItem, Function.update_of_ne hv]
    exact h.bag v ha

end Moves

section Step

variable {s s' : State}

/-- What `cmd_ChangeItemCount` does up to its wait: nothing without a bag, a change of the entry, or a wait to add one. -/
theorem changeItemCount_cases (s : State) (c : ChangeRest) (bReset : Bool) (now : Int) :
    s.hash c.userID = none ∧ changeItemCount s c bReset now = s ∨
      ∃ l, s.hash c.userID = some l ∧
        (c.goodsID ∉ s.goodsIDs c.userID ∧ changeItemCount s c bReset now = s.suspend (.add c) ∨
          ∃ k v, ∃ r : List Request, (s.lists l)[k]? = some v ∧ v.goodsID = c.goodsID ∧
            (s.lists l).find? (fun v => v.goodsID = c.goodsID) = some v ∧
            changeItemCount s c bReset now =
              changeRest (r.foldl State.request
                (s.setList l ((s.lists l).set k (v.change c.goodsCount c.fromWhere bReset now)))) c) := by
  unfold changeItemCount
  cases hl : s.hash c.userID with
  | none => exact Or.inl ⟨rfl, rfl⟩
  | some l =>
    refine Or.inr ⟨l, rfl, ?_⟩
    dsimp only
    cases hf : changeFirst c.goodsID (fun v => v.change c.goodsCount c.fromWhere bReset now) (s.lists l) with
    | none =>
      refine Or.inl ⟨?_, rfl⟩
      have hn := changeFirst_eq_none hf
      rw [List.find?_eq_none] at hn
      simp only [State.goodsIDs, hl, List.mem_map, not_exists, not_and]
      exact fun v hv hg => hn v hv (by simpa using hg)
    | some list =>
      obtain ⟨k, v, hk, hg, hfind, rfl⟩ := changeFirst_eq_some hf
      dsimp only
      split
      · exact Or.inr ⟨k, v, [_], hk, hg, hfind, rfl⟩
      · exact Or.inr ⟨k, v, [], hk, hg, hfind, rfl⟩

theorem quiet_requests (rs : List Request) : ∀ s : State, Quiet s (rs.foldl State.request s) := by
  induction rs with
  | nil => exact fun s => Quiet.refl s
  | cons r rs ih => exact fun s => (quiet_request s r).trans (ih _)

/-- `cmd_LoadUserItem` makes requests and begins to wait. -/
theorem loadUserItem_eq (s : State) (userID : Nat) (rows : List (Nat × Int × Int)) (now : Int) :
    ∃ rs : List Request, loadUserItem s userID rows now =
      (rs.foldl State.request s).suspend (.load userID (rows.map fun r => loadRow now r.1 r.2.1 r.2.2)) := by
  refine ⟨(rows.filter fun r => r.2.2 ≠ 0 ∧ r.2.2 ≤ now).map fun r => .updateBag userID r.1 0 0, ?_⟩
  rw [List.foldl_map]
  rfl

/-- One label keeps the invariant, under the condition. -/
theorem Entries.step (h : Entries s) {l : Label} (hc : changeSafe s l) (hs : step s l = some s') : Entries s' := by
  cases l with
  | loadUserItem u rows now =>
    cases hs
    have hrows : ((rows.map fun r => loadRow now r.1 r.2.1 r.2.2).map Goods.goodsID).Nodup := by
      simpa [changeSafe, Function.comp_def, goodsID_loadRow] using hc
    obtain ⟨rs, hl⟩ := loadUserItem_eq s u rows now
    rw [hl]
    exact (h.quiet (quiet_requests rs s)).beginLoad hrows
  | releaseUserItem u =>
    cases hs
    exact h.release (by simpa [changeSafe] using hc)
  | changeItemCount c bReset now =>
    cases hs
    obtain ⟨-, hn⟩ | ⟨l, hl, ⟨hmiss, ha⟩ | ⟨k, v, r, hk, hg, -, hr⟩⟩ := changeItemCount_cases s c bReset now
    · rw [hn]
      exact h
    · rw [ha]
      refine h.ask hl hmiss ?_
      simpa [changeSafe, hmiss] using hc
    · rw [hr]
      exact h.quiet
        (((quiet_set hk (Goods.goodsID_change _ _ _ _ _)).trans (quiet_requests r _)).trans (quiet_changeRest _ c))
  | goodsInfo u g online now =>
    cases hs
    cases hg : goodsInfo s u g online now with
    | none => exact h
    | some s' => exact h.quiet (quiet_goodsInfo hg)
  | saveUserItem u order =>
    cases hs
    unfold saveUserItem
    split
    · exact h
    · exact h.quiet (quiet_saveLoop u _ order s)
  | resume k retCode order online now =>
    obtain ⟨t, ht, rfl⟩ := Option.map_eq_some_iff.1 hs
    cases t with
    | save u l k' g addCount =>
      exact h.quiet ((quiet_wake ht fun _ => rfl).trans (quiet_saveResume _ u l k' g addCount retCode order))
    | add c => exact h.add ht now
    | info c =>
      have hw := h.quiet (quiet_wake ht fun _ => rfl)
      simp only [resumeThread]
      split
      · exact hw
      · rename_i hg
        exact (hw.quiet (quiet_goodsInfo hg)).quiet (quiet_changeRecord _ c)
    | load u rows =>
      refine h.load ht ?_
      simpa [changeSafe, ht] using hc

end Step

/-! ## The count of an item -/

section Count

variable {s s' : State} {u g : Nat}

/-- An item that is not in the bag counts as zero. -/
theorem getItemCount_of_notMem (h : g ∉ s.goodsIDs u) : s.getItemCount u g = 0 := by
  rw [State.goodsIDs] at h
  rw [State.getItemCount]
  cases hl : s.hash u with
  | none => rfl
  | some l =>
    rw [hl] at h
    have hn : (s.lists l).find? (fun v => v.goodsID = g) = none := by
      rw [List.find?_eq_none]
      exact fun v hv hg => h (List.mem_map.2 ⟨v, hv, by simpa using hg⟩)
    simp only [Bag.getItemCount, hn, Option.map_none, Option.getD_none]

/-- The count depends on the bags only. -/
theorem getItemCount_congr (hh : s'.hash = s.hash) (hl : s'.lists = s.lists) : s'.getItemCount u g = s.getItemCount u g := by
  rw [State.getItemCount, State.getItemCount, hh, hl]

/-- Another user's bag. -/
theorem getItemCount_setList_other {l : Nat} (hl : s.hash u ≠ some l) (list : List Goods) :
    (s.setList l list).getItemCount u g = s.getItemCount u g := by
  show (match s.hash u with | none => 0 | some l' => Bag.getItemCount (Function.update s.lists l list l') g) = _
  rw [State.getItemCount]
  cases hu : s.hash u with
  | none => rfl
  | some l' =>
    have hne : l' ≠ l := fun hh => hl (hh ▸ hu)
    simp only [Function.update_of_ne hne]

theorem getItemCount_setList {l : Nat} (hl : s.hash u = some l) (list : List Goods) :
    (s.setList l list).getItemCount u g = Bag.getItemCount list g := by
  show (match s.hash u with | none => 0 | some l' => Bag.getItemCount (Function.update s.lists l list l') g) = _
  simp only [hl, Function.update_self]

/-- An entry of some bag that changes in place and keeps its count, if it is one of the item. -/
theorem getItemCount_setEntry {l k : Nat} {v w : Goods} (hk : (s.lists l)[k]? = some v) (hid : w.goodsID = v.goodsID)
    (hcount : s.hash u = some l → v.goodsID = g → w.goodsCount = v.goodsCount) :
    (s.setList l ((s.lists l).set k w)).getItemCount u g = s.getItemCount u g := by
  by_cases hl : s.hash u = some l
  · rw [getItemCount_setList hl, getItemCount_set hk hid (hcount hl), State.getItemCount, hl]
  · exact getItemCount_setList_other hl _

theorem requests_bags (rs : List Request) : ∀ s : State,
    (rs.foldl State.request s).hash = s.hash ∧ (rs.foldl State.request s).lists = s.lists := by
  induction rs with
  | nil => exact fun s => ⟨rfl, rfl⟩
  | cons r rs ih => exact fun s => ih (s.request r)

theorem getItemCount_changeRecord (s : State) (c : ChangeRest) :
    (changeRecord s c).getItemCount u g = s.getItemCount u g := by
  unfold changeRecord
  dsimp only
  repeat' split
  all_goals rfl

theorem getItemCount_changeRest (s : State) (c : ChangeRest) : (changeRest s c).getItemCount u g = s.getItemCount u g := by
  unfold changeRest
  split
  · rfl
  · exact getItemCount_changeRecord s c

/-- `cmd_ChangeItemCount` up to its wait. -/
theorem getItemCount_changeItemCount (h : Entries s) {c : ChangeRest} {bReset : Bool} {now : Int}
    (hn : countSafe u g s (.changeItemCount c bReset now)) :
    (changeItemCount s c bReset now).getItemCount u g = applied u g s (.changeItemCount c bReset now)
      (s.getItemCount u g) := by
  obtain ⟨hl, hc⟩ | ⟨l, hl, ⟨hmiss, hc⟩ | ⟨k, v, r, hk, hg, -, hc⟩⟩ := changeItemCount_cases s c bReset now
  · rw [hc, applied, if_neg]
    rintro ⟨rfl, -, hm⟩
    simp [State.goodsIDs, hl] at hm
  · rw [hc, applied, if_neg]
    · rfl
    · rintro ⟨rfl, rfl, hm⟩
      exact hmiss hm
  · have hids : ∀ v', s.hash v' = some l → s.goodsIDs v' = (s.lists l).map Goods.goodsID := by
      intro v' hv'
      rw [State.goodsIDs, hv']
    rw [hc, getItemCount_changeRest, getItemCount_congr (requests_bags r _).1 (requests_bags r _).2, applied]
    split
    · rename_i happ
      obtain ⟨rfl, rfl, hm⟩ := happ
      simp only [countSafe, hm, decide_true, Bool.and_true, Bool.not_true, Bool.false_or, Bool.and_eq_true,
        Bool.not_eq_true', decide_eq_true_eq] at hn
      obtain ⟨⟨rfl, hp⟩, hpos⟩ := hn
      have hnodup : ((s.lists l).map Goods.goodsID).Nodup := by
        rw [← hids c.userID hl]
        exact (List.nodup_append.1 (h.nodup c.userID)).1
      have hold : s.getItemCount c.userID c.goodsID = v.goodsCount := by
        rw [State.getItemCount, hl, ← hg]
        exact getItemCount_of_nodup hnodup hk
      have hid : (v.change c.goodsCount c.fromWhere false now).goodsID = c.goodsID :=
        (Goods.goodsID_change _ _ _ _ _).trans hg
      have hset := (quiet_set (s := s) hk (Goods.goodsID_change v c.goodsCount c.fromWhere false now)).ids l
      simp only [State.setList, Function.update_self] at hset
      have hnew : Bag.getItemCount ((s.lists l).set k (v.change c.goodsCount c.fromWhere false now)) _ = _ :=
        getItemCount_of_nodup (by rw [hset]; exact hnodup) (List.getElem?_set_self (List.getElem?_eq_some_iff.1 hk).1)
      rw [hid] at hnew
      rw [getItemCount_setList hl, hnew, hold]
      rw [hold] at hpos
      rw [Goods.goodsCount_change, if_neg (by rw [hg, hp]; decide)]
      exact Int.max_eq_right hpos
    · rename_i happ
      refine getItemCount_setEntry hk (Goods.goodsID_change _ _ _ _ _) ?_
      intro hu hvg
      refine absurd ⟨h.own c.userID u l hl hu, hg.symm.trans hvg, ?_⟩ happ
      rw [hids u hu]
      exact List.mem_map.2 ⟨v, List.mem_of_getElem? hk, hvg⟩

/-- `cmd_GoodsInfo`, when it does not clear the entry. -/
theorem getItemCount_goodsInfo {v : Nat} {g' : Nat} {online : Bool} {now : Int} (h : Entries s)
    (hn : !(v = u && g' = g && expires s u g now)) (hs : goodsInfo s v g' online now = some s') :
    s'.getItemCount u g = s.getItemCount u g := by
  obtain rfl | ⟨l, k, x, w, cleared, hl, hk, hfind, hw, hs'⟩ := goodsInfo_cases hs
  · rfl
  · have hset : (s.setList l ((s.lists l).set k w)).getItemCount u g = s.getItemCount u g := by
      refine getItemCount_setEntry hk (Goods.goodsID_info hw) ?_
      intro hu hx
      have hx' : x.goodsID = g' := by simpa using List.find?_some hfind
      obtain rfl := h.own v u l hl hu
      obtain rfl := hx'.symm.trans hx
      cases cleared with
      | false => exact Goods.goodsCount_info hw
      | true =>
        simp [expires, hl, hfind, hw] at hn
    rcases hs' with rfl | rfl
    · exact hset
    · exact hset

/-- The loop of `cmd_SaveUserItem`, over entries that are not negative. -/
theorem getItemCount_saveLoop (v l : Nat) : ∀ (order : List Nat) (s : State), notNegative (s.lists l) g →
    (saveLoop s v l order).getItemCount u g = s.getItemCount u g := by
  intro order
  induction order with
  | nil => exact fun s _ => rfl
  | cons k order ih =>
    intro s hpos
    rw [saveLoop]
    split
    · exact ih s hpos
    · rename_i x hk
      split
      · refine getItemCount_setEntry (w := { x with goodsCount := if x.goodsCount < 0 then 0 else x.goodsCount }) hk rfl ?_
        intro _ hx
        have hx' := List.all_eq_true.1 hpos x (List.mem_of_getElem? hk)
        simp only [hx, ne_eq, not_true_eq_false, decide_false, Bool.false_or, decide_eq_true_eq] at hx'
        exact if_neg (Int.not_lt.2 hx')
      · exact ih s hpos

/-- The answer of the database changes no count, as long as there is no negative one. -/
theorem getItemCount_saveResume {v l k g' : Nat} {addCount retCode : Int} {order : List Nat}
    (hpos : notNegative (s.lists l) g) :
    (saveResume s v l k g' addCount retCode order).getItemCount u g = s.getItemCount u g := by
  unfold saveResume
  dsimp only
  split
  · rfl
  · rename_i x hk
    have hset : (s.setList l ((s.lists l).set k { x with oldGoodsCount := x.goodsCount })).getItemCount u g =
      s.getItemCount u g :=
      getItemCount_setEntry (w := { x with oldGoodsCount := x.goodsCount }) hk rfl fun _ _ => rfl
    refine (getItemCount_saveLoop v l order _ ?_).trans hset
    show notNegative (Function.update s.lists l _ l) g
    rw [Function.update_self]
    refine List.all_eq_true.2 ?_
    intro y hy
    rcases List.mem_or_eq_of_mem_set hy with hy | rfl
    · exact List.all_eq_true.1 hpos y hy
    · exact List.all_eq_true.1 hpos x (List.mem_of_getElem? hk)

/-- One label changes the count of an item by what it applies, under the conditions. -/
theorem getItemCount_step (h : Entries s) {l : Label} (hn : countSafe u g s l) (hs : step s l = some s') :
    s'.getItemCount u g = applied u g s l (s.getItemCount u g) := by
  cases l with
  | loadUserItem v rows now =>
    cases hs
    obtain ⟨rs, hl⟩ := loadUserItem_eq s v rows now
    rw [hl]
    exact getItemCount_congr (requests_bags rs s).1 (requests_bags rs s).2
  | releaseUserItem v =>
    cases hs
    rw [applied]
    split
    · rename_i hv
      subst hv
      simp only [State.getItemCount, releaseUserItem, Function.update_self]
    · rename_i hv
      simp only [State.getItemCount, releaseUserItem, Function.update_of_ne (Ne.symm hv)]
  | changeItemCount c bReset now =>
    cases hs
    exact getItemCount_changeItemCount h hn
  | goodsInfo v g' online now =>
    cases hs
    show _ = s.getItemCount u g
    cases hg : goodsInfo s v g' online now with
    | none => rfl
    | some s' => exact getItemCount_goodsInfo h hn hg
  | saveUserItem v order =>
    cases hs
    show _ = s.getItemCount u g
    rw [saveUserItem]
    cases hl : s.hash v with
    | none => rfl
    | some l => exact getItemCount_saveLoop v l order s (by simpa [countSafe, hl] using hn)
  | resume k retCode order online now =>
    obtain ⟨t, ht, rfl⟩ := Option.map_eq_some_iff.1 hs
    have hwake : ({ s with suspended := s.suspended.eraseIdx k } : State).getItemCount u g = s.getItemCount u g := rfl
    rw [applied, ht]
    cases t with
    | save v l k' g' addCount =>
      exact (getItemCount_saveResume (by simpa [countSafe, ht] using hn)).trans hwake
    | add c =>
      obtain ⟨l, hl, hnew⟩ := h.adding_new ht
      simp only [resumeThread, addItemToBag, hl]
      rw [getItemCount_changeRest]
      show (s.setList l _).getItemCount u g = _
      by_cases hu : c.userID = u
      · subst hu
        rw [getItemCount_setList hl, getItemCount_append _ _ hnew, State.getItemCount, hl]
        by_cases hg : c.goodsID = g
        · simp [Goods.added, hg]
        · simp [Goods.added, hg]
      · rw [if_neg fun hh => hu hh.1]
        exact getItemCount_setList_other (fun hh => hu (h.own _ _ _ hl hh)) _
    | info c =>
      simp only [resumeThread]
      split
      · exact hwake
      · rename_i hg
        rw [getItemCount_changeRecord]
        simp only [countSafe, ht] at hn
        exact (getItemCount_goodsInfo (h.quiet (quiet_wake ht fun _ => rfl)) hn hg).trans hwake
    | load v rows =>
      dsimp only
      split
      · rename_i hv
        subst hv
        simp only [resumeThread, State.getItemCount, loadDone, Function.update_self]
      · rename_i hv
        simp only [resumeThread, State.getItemCount, loadDone, Function.update_of_ne (Ne.symm hv)]
        cases hl : s.hash u with
        | none => rfl
        | some l => simp only [Function.update_of_ne (Nat.ne_of_lt (h.lt u l hl))]

end Count

/-! ## Runs -/

/-- No handler waits, the bags belong to one user each, and the items of a bag are different ones. -/
structure Idle (s : State) : Prop where
  suspended : s.suspended = []
  own : ∀ u v l, s.hash u = some l → s.hash v = some l → u = v
  lt : ∀ u l, s.hash u = some l → l < s.listCount
  nodup : ∀ u, (s.goodsIDs u).Nodup

theorem idle_init : Idle State.init := ⟨rfl, fun _ _ _ h => (by cases h), fun _ _ h => (by cases h), fun _ => List.nodup_nil⟩

/-- Where no handler waits, nothing is being added. -/
theorem Idle.entries {s : State} (h : Idle s) : Entries s := by
  have hadding : ∀ u, s.adding u = [] := fun u => by rw [State.adding, h.suspended, List.filterMap_nil]
  refine ⟨h.own, h.lt, ?_, ?_, ?_⟩
  · intro u
    rw [hadding, List.append_nil]
    exact h.nodup u
  · intro u ha
    exact absurd (hadding u) ha
  · intro u rows hm
    rw [h.suspended] at hm
    cases hm

/-- In every run whose steps meet the condition, the items of a bag are different ones, and a handler that is going to add an
item has a bag to add it to. For every item the user did not own, whose changes in the run are ordinary ones: the count is
what has been applied to the item. -/
theorem entries_distinct_of_changeSafe {s t : State} {labels : List Label} (hs : Idle s)
    (hsafe : Steps.Meets step (fun s l => changeSafe s l) s labels) (hrun : Steps.exec step s labels = some t) :
    (∀ u, (t.goodsIDs u).Nodup) ∧ (∀ c, .add c ∈ t.suspended → (t.hash c.userID).isSome) ∧
      ∀ u g, g ∉ s.goodsIDs u → Steps.Meets step (fun s l => countSafe u g s l) s labels →
        t.getItemCount u g = Steps.account step (applied u g) s labels 0 := by
  have hentries := Steps.exec_invariant (I := Entries) (fun _ _ _ h hc hst => h.step hc hst) labels s t hs.entries hsafe hrun
  refine ⟨fun u => (List.nodup_append.1 (hentries.nodup u)).1, ?_, ?_⟩
  · intro c hc
    obtain ⟨k, hk⟩ := List.mem_iff_getElem?.1 hc
    obtain ⟨l, hl, -⟩ := hentries.adding_new hk
    exact Option.isSome_iff_exists.2 ⟨l, hl⟩
  · intro u g hnew hcount
    exact (Steps.exec_account (I := fun s n => Entries s ∧ s.getItemCount u g = n) (f := applied u g)
      (fun _ _ _ _ h hc hst => ⟨h.1.step hc.1 hst, h.2 ▸ getItemCount_step h.1 hc.2 hst⟩)
      labels s t 0 ⟨hs.entries, getItemCount_of_notMem hnew⟩ (hsafe.and hcount) hrun).2

/-- A change of an item that is found, as fish and tasks make it. -/
def gain (userID goodsID : Nat) (goodsCount : Int) : ChangeRest := ⟨userID, goodsID, goodsCount, .byTask, false⟩

/-- The user 1 gets 3 of a new item, and, when it has been added, 2 more. -/
theorem entries_distinct_of_changeSafe_in_turn :
    ∃ t, Steps.exec step State.init
      [.loadUserItem 1 [(1001, 50, 0)] 0, .resume 0 0 [] true 0, .changeItemCount (gain 1 1005 3) false 0,
        .resume 0 0 [] true 0, .changeItemCount (gain 1 1005 2) false 0] = some t ∧
      (∀ u, (t.goodsIDs u).Nodup) ∧ t.goodsIDs 1 = [1001, 1005] ∧ t.getItemCount 1 1005 = 5 := by
  have hall := @entries_distinct_of_changeSafe _ _ [.loadUserItem 1 [(1001, 50, 0)] 0, .resume 0 0 [] true 0,
    .changeItemCount (gain 1 1005 3) false 0, .resume 0 0 [] true 0, .changeItemCount (gain 1 1005 2) false 0]
    idle_init (by decide +kernel) rfl
  exact ⟨_, rfl, hall.1, rfl, hall.2.2 1 1005 (by decide) (by decide +kernel)⟩

/-- Two changes of a new item, the second one while the first one waits for the configuration of the item: the bag
has two entries of it, and the count is that of the first one. A bag that is released during the wait: there is
nothing to add the item to. -/
theorem item_added_twice_or_to_no_bag :
    (∃ t, Steps.exec step State.init
      [.loadUserItem 1 [(1001, 50, 0)] 0, .resume 0 0 [] true 0, .changeItemCount (gain 1 1005 3) false 0,
        .changeItemCount (gain 1 1005 2) false 0, .resume 0 0 [] true 0, .resume 0 0 [] true 0] = some t ∧
      t.goodsIDs 1 = [1001, 1005, 1005] ∧ t.getItemCount 1 1005 = 3 ∧
      Steps.account step (applied 1 1005) State.init [.loadUserItem 1 [(1001, 50, 0)] 0, .resume 0 0 [] true 0,
        .changeItemCount (gain 1 1005 3) false 0, .changeItemCount (gain 1 1005 2) false 0, .resume 0 0 [] true 0,
        .resume 0 0 [] true 0] 0 = 5) ∧
    ∃ t, Steps.exec step State.init
      [.loadUserItem 1 [(1001, 50, 0)] 0, .resume 0 0 [] true 0, .changeItemCount (gain 1 1005 3) false 0,
        .releaseUserItem 1] = some t ∧
      t.suspended = [.add (gain 1 1005 3)] ∧ t.hash 1 = none :=
  ⟨⟨_, rfl, by decide, by decide, by decide⟩, ⟨_, rfl, by decide, by decide⟩⟩

end SasyServer.Bag
