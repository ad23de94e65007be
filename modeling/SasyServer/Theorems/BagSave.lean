import SasyServer.Lemmas.BagLedger

/-!
# Theorem: what a bag has written and what is pending is its net change, as long as no saved entry changes during its save

`cmd_SaveUserItem` computes the difference it writes before the call of `sp_write_bag` and takes the count of the entry as
written after it. `inDomain` restricts a run to the messages the ledger is about: the item changes by messages that do not
come from the login server and leave a count that is not negative, and its writes succeed. `saveSafe` is on the state in
which a save goes on after `sp_write_bag`: the difference of the entry is still the one that was written.
-/

namespace SasyServer.Bag

/-- What a message asks for: the change of the count of the item. -/
def requested (user g : Nat) (s : State) : Label → Int
  | .changeItemCount c bReset _ =>
    if c.userID = user ∧ c.goodsID = g then
      match s.hash user with
      | none => 0
      | some l => if bReset then c.goodsCount - getItemCount (s.lists l) g else c.goodsCount
    else 0
  | _ => 0

/-- The messages about the item, and the writes that succeed. -/
def inDomain (user g : Nat) (s : State) : Label → Bool
  | .loadUserItem u _ _ => u ≠ user
  | .releaseUserItem u => u ≠ user
  | .changeItemCount c bReset _ =>
    if c.userID = user ∧ c.goodsID = g then
      match s.hash user with
      | none => true
      | some l =>
        !isOperatorByLoginServer c.fromWhere &&
          decide (0 ≤ if bReset then c.goodsCount else getItemCount (s.lists l) g + c.goodsCount)
    else true
  | .goodsInfo _ _ _ _ => true
  | .saveUserItem _ _ => true
  | .resume k retCode _ _ _ =>
    match s.suspended[k]? with
    | some (.save u _ _ goodsID _) => u ≠ user || goodsID ≠ g || retCode = 0
    | _ => true

/-- The condition on a label in the state in which it is taken. -/
def saveSafe (user g : Nat) (s : State) : Label → Bool
  | .resume k _ _ _ _ =>
    match s.suspended[k]? with
    | some (.save u l position goodsID addCount) =>
      u ≠ user || goodsID ≠ g || ((s.lists l)[position]?).all fun v => v.goodsCount - v.oldGoodsCount = addCount
    | _ => true
  | _ => true

/-- The bag of the user has been loaded: its list is the user's only, nobody waits in it, and nothing is pending. -/
structure Loaded (s : State) (user l : Nat) : Prop where
  hash : s.hash user = some l
  own : ∀ u, s.hash u = some l → u = user
  lt : l < s.listCount
  idle : ∀ t ∈ s.suspended, match t with
    | .save u l' _ _ _ => u ≠ user ∧ l' ≠ l
    | .add c => c.userID ≠ user
    | .info c => c.userID ≠ user
    | .load u _ => u ≠ user
  balanced : ∀ v ∈ s.lists l, v.goodsCount = v.oldGoodsCount

section Handlers

variable {user l g : Nat} {storedBase countBase net : Int} {s : State}

/-- Only the user has the list. -/
theorem Ledger.user_iff (h : Ledger user l g storedBase countBase s net) {u l' : Nat} (hu : s.hash u = some l') :
    u = user ↔ l' = l := by
  constructor
  · intro hh
    subst hh
    rw [h.hash] at hu
    exact (Option.some.inj hu).symm
  · intro hh
    subst hh
    exact h.own u hu

/-- A user without a list is another one. -/
theorem Ledger.ne_of_hash_none (h : Ledger user l g storedBase countBase s net) {u : Nat}
    (hu : s.hash u = none) : u ≠ user := by
  rintro rfl
  rw [h.hash] at hu
  cases hu

theorem Ledger.changeRecord (h : Ledger user l g storedBase countBase s net) (c : ChangeRest) :
    Ledger user l g storedBase countBase (changeRecord s c) net := by
  unfold Bag.changeRecord
  dsimp only
  repeat' split
  all_goals first | exact h | exact h.request rfl

theorem Ledger.changeRest (h : Ledger user l g storedBase countBase s net) (c : ChangeRest) :
    Ledger user l g storedBase countBase (changeRest s c) net := by
  unfold Bag.changeRest
  split
  · have hsus := h.suspend (t := .info c) trivial
    rwa [show Thread.adds user g (.info c) = 0 from rfl, add_zero] at hsus
  · exact h.changeRecord c

/-- The entry of the item that `cmd_ChangeItemCount` changes, in the user's own list. -/
theorem Ledger.changeOwn (h : Ledger user l g storedBase countBase s net) (hg : isOrdinary g) {c : ChangeRest}
    {bReset : Bool} {now : Int} (hc : c.userID = user) (hd : inDomain user g s (.changeItemCount c bReset now))
    {k : Nat} {v : Goods} (hk : (s.lists l)[k]? = some v) (hv : v.goodsID = c.goodsID)
    (hfind : (s.lists l).find? (fun v => v.goodsID = c.goodsID) = some v) :
    Ledger user l g storedBase countBase (s.setList l ((s.lists l).set k (v.change c.goodsCount c.fromWhere bReset now)))
      (net + requested user g s (.changeItemCount c bReset now)) := by
  have hset := h.set hk (Goods.goodsID_change v c.goodsCount c.fromWhere bReset now)
  by_cases hcg : c.goodsID = g
  · have hcount : getItemCount (s.lists l) g = v.goodsCount := by
      rw [getItemCount, ← hcg, hfind]
      rfl
    have hdom : ¬isOperatorByLoginServer c.fromWhere ∧ 0 ≤ if bReset then c.goodsCount else v.goodsCount + c.goodsCount := by
      simpa [inDomain, hc, hcg, h.hash, hcount] using hd
    rw [Goods.change_ordinary now (hv ▸ hcg ▸ hg) hdom.1 hdom.2] at hset ⊢
    have hchanged := hset fun _ => ⟨rfl, Or.inr hdom.2⟩
    have hreq : requested user g s (.changeItemCount c bReset now) =
        if v.goodsID = g then (if bReset then c.goodsCount else v.goodsCount + c.goodsCount) - v.goodsCount else 0 := by
      simp only [requested, hc, hcg, h.hash, hcount, hv, and_self, if_true]
      split <;> omega
    rw [hreq]
    exact hchanged
  · have hvg : v.goodsID ≠ g := hv ▸ hcg
    have hchanged := hset fun hh => absurd hh hvg
    simpa [requested, hcg, hvg] using hchanged

/-- `cmd_ChangeItemCount` changes the count by what is asked for, at once or after a wait. -/
theorem Ledger.changeItemCount (h : Ledger user l g storedBase countBase s net) (hg : isOrdinary g) (c : ChangeRest)
    (bReset : Bool) (now : Int) (hd : inDomain user g s (.changeItemCount c bReset now)) :
    Ledger user l g storedBase countBase (changeItemCount s c bReset now)
      (net + requested user g s (.changeItemCount c bReset now)) := by
  unfold Bag.changeItemCount
  cases hu : s.hash c.userID with
  | none =>
    simpa [requested, h.ne_of_hash_none hu] using h
  | some l' =>
    have hiff := h.user_iff hu
    dsimp only
    cases hf : changeFirst c.goodsID (fun v => v.change c.goodsCount c.fromWhere bReset now) (s.lists l') with
    | none =>
      have hsus := h.suspend (t := .add c) trivial
      have hreq : requested user g s (.changeItemCount c bReset now) = Thread.adds user g (.add c) := by
        simp only [requested, Thread.adds]
        split
        · rename_i hc
          have hl : l' = l := hiff.1 hc.1
          rw [h.hash]
          subst hl
          have : getItemCount (s.lists l') g = 0 := by
            rw [getItemCount, ← hc.2, changeFirst_eq_none hf]
            rfl
          simp [this]
        · rfl
      rw [hreq]
      exact hsus
    | some list =>
      obtain ⟨k, v, hk, hv, hfind, rfl⟩ := changeFirst_eq_some hf
      have hkey : Ledger user l g storedBase countBase
          (s.setList l' ((s.lists l').set k (v.change c.goodsCount c.fromWhere bReset now)))
          (net + requested user g s (.changeItemCount c bReset now)) := by
        by_cases hl : l' = l
        · subst hl
          exact h.changeOwn hg (hiff.2 rfl) hd hk hv hfind
        · have hne : c.userID ≠ user := fun hh => hl (hiff.1 hh)
          have hreq : requested user g s (.changeItemCount c bReset now) = 0 := by simp [requested, hne]
          rw [hreq, add_zero]
          exact h.setList_other hl _
      dsimp only
      refine Ledger.changeRest ?_ c
      split
      · exact hkey.request rfl
      · exact hkey

/-- The end of `AddItemToBag`, for the handler that has stopped waiting. -/
theorem Ledger.addItemToBag (h : Ledger user l g storedBase countBase s net) (c : ChangeRest) (now : Int) :
    Ledger user l g storedBase countBase (addItemToBag s c now) (net + Thread.adds user g (.add c)) := by
  unfold Bag.addItemToBag
  cases hu : s.hash c.userID with
  | none =>
    simpa [Thread.adds, h.ne_of_hash_none hu] using h
  | some l' =>
    have hiff := h.user_iff hu
    dsimp only
    refine Ledger.changeRest ?_ c
    by_cases hl : l' = l
    · subst hl
      have hc := hiff.2 rfl
      have happ := h.append (Goods.added c.goodsID c.goodsCount)
        (if (Goods.added c.goodsID c.goodsCount).useTime ≠ 0 then now + (Goods.added c.goodsID c.goodsCount).useTime else 0)
          rfl
      simp only [Thread.adds, hc, true_and]
      exact happ
    · have hne : c.userID ≠ user := fun hh => hl (hiff.1 hh)
      rw [show Thread.adds user g (.add c) = 0 by simp [Thread.adds, hne], add_zero]
      exact (h.setList_other hl _).request (by simp [Request.stores, hne])

/-- `cmd_GoodsInfo` leaves an ordinary item as it is. -/
theorem Ledger.goodsInfo (h : Ledger user l g storedBase countBase s net) (hg : isOrdinary g) (u goodsID : Nat)
    (online : Bool) (now : Int) {s' : State} (hs : goodsInfo s u goodsID online now = some s') :
    Ledger user l g storedBase countBase s' net := by
  rcases goodsInfo_cases hs with rfl | ⟨l', k, v, w, cleared, -, hk, -, hi, hs⟩
  · exact h
  have hset : Ledger user l g storedBase countBase (s.setList l' ((s.lists l').set k w)) net := by
    by_cases hl : l' = l
    · subst hl
      have hset := h.set hk (Goods.goodsID_info hi)
      by_cases hvg : v.goodsID = g
      · rw [Goods.info_ordinary now (hvg ▸ hg)] at hi
        cases hi
        have := hset fun hh => ⟨rfl, h.settled v (List.mem_of_getElem? hk) hh⟩
        simpa using this
      · have := hset fun hh => absurd hh hvg
        simpa [hvg] using this
    · exact h.setList_other hl _
  rcases hs with rfl | rfl
  · exact hset
  · exact hset.request rfl

/-- The loop of `cmd_SaveUserItem`. -/
theorem Ledger.saveLoop (h : Ledger user l g storedBase countBase s net) {u l' : Nat} (hiff : u = user ↔ l' = l)
    (order : List Nat) :
    Ledger user l g storedBase countBase (saveLoop s u l' order) net := by
  induction order with
  | nil => exact h
  | cons k order ih =>
    rw [Bag.saveLoop]
    cases hk : (s.lists l')[k]? with
    | none => exact ih
    | some v =>
      dsimp only
      split
      · rename_i hne
        have hnet : net + Thread.adds user g (.save u l' k v.goodsID
            ((if v.goodsCount < 0 then 0 else v.goodsCount) - v.oldGoodsCount)) = net := add_zero net
        rw [← hnet]
        by_cases hl : l' = l
        · subst hl
          have hset := h.set (w := { v with goodsCount := if v.goodsCount < 0 then 0 else v.goodsCount }) hk rfl
          have hkey : Ledger user l' g storedBase countBase (s.setList l' ((s.lists l').set k
              { v with goodsCount := if v.goodsCount < 0 then 0 else v.goodsCount })) net := by
            by_cases hvg : v.goodsID = g
            · have hnn := (h.settled v (List.mem_of_getElem? hk) hvg).resolve_left hne
              rw [if_neg (Int.not_lt.2 hnn)] at hset ⊢
              have := hset fun _ => ⟨rfl, Or.inr hnn⟩
              simpa using this
            · have := hset fun hh => absurd hh hvg
              simpa [hvg] using this
          refine hkey.suspend ⟨hiff, ?_⟩
          intro _
          show Option.map _ (Function.update s.lists l' _ l')[k]? = _
          rw [Function.update_self, List.getElem?_set_self (List.getElem?_eq_some_iff.1 hk).1]
          rfl
        · exact (h.setList_other hl _).suspend ⟨hiff, fun hh => absurd hh hl⟩
      · exact ih

/-- `cmd_SaveUserItem` after the call, under the condition. -/
theorem Ledger.saveResume (h : Ledger user l g storedBase countBase s net) {u l' k goodsID : Nat} {addCount retCode : Int}
    (order : List Nat) (hf : Thread.Fits s user l (.save u l' k goodsID addCount))
    (hret : u ≠ user ∨ goodsID ≠ g ∨ retCode = 0)
    (hsafe : u ≠ user ∨ goodsID ≠ g ∨ ∀ v, (s.lists l')[k]? = some v → v.goodsCount - v.oldGoodsCount = addCount) :
    Ledger user l g storedBase countBase (saveResume s u l' k goodsID addCount retCode order) net := by
  unfold Bag.saveResume
  dsimp only
  by_cases hl : l' = l
  · subst hl
    have hu := hf.1.2 rfl
    subst hu
    have hid := hf.2 rfl
    rw [Option.map_eq_some_iff] at hid
    obtain ⟨v, hk, rfl⟩ := hid
    rw [show ((s.request (.writeBag u v.goodsID addCount retCode)).lists l')[k]? = some v from hk]
    refine Ledger.saveLoop ?_ hf.1 order
    by_cases hvg : v.goodsID = g
    · have hr : retCode = 0 := by simpa [hvg] using hret
      have ha : ∀ w, (s.lists l')[k]? = some w → w.goodsCount - w.oldGoodsCount = addCount := by simpa [hvg] using hsafe
      subst hvg
      rw [hr, ← ha v hk]
      exact h.write hk rfl
    · have hreq := h.request (r := .writeBag u v.goodsID addCount retCode) (by simp [Request.stores, hvg])
      have hset := hreq.set (w := { v with oldGoodsCount := v.goodsCount }) hk rfl fun hh => absurd hh hvg
      rwa [if_neg hvg, add_zero] at hset
  · have hne : u ≠ user := fun hh => hl (hf.1.1 hh)
    have hreq := h.request (r := .writeBag u goodsID addCount retCode) (by simp [Request.stores, hne])
    split
    · exact hreq
    · exact (hreq.setList_other hl _).saveLoop hf.1 order

/-- The bag of another user is loaded into a new list. -/
theorem Ledger.loadDone (h : Ledger user l g storedBase countBase s net) {u : Nat} (hu : u ≠ user) (rows : List Goods) :
    Ledger user l g storedBase countBase (loadDone s u rows) net := by
  have hs : (Bag.loadDone s u rows).lists l = s.lists l := Function.update_of_ne (Nat.ne_of_lt h.lt) _ _
  have hh : (Bag.loadDone s u rows).hash = Function.update s.hash u (some s.listCount) := rfl
  refine ⟨?_, ?_, Nat.lt_succ_of_lt h.lt, fun t ht => Thread.Fits.mono (h.fits t ht) fun j id hj => hs ▸ hj,
    hs ▸ h.settled, hs ▸ h.written, hs ▸ h.counted⟩
  · rw [hh, Function.update_of_ne hu.symm]
    exact h.hash
  · intro x hx
    rw [hh] at hx
    by_cases hxu : x = u
    · subst hxu
      rw [Function.update_self] at hx
      exact absurd (Option.some.inj hx) (Nat.ne_of_gt h.lt)
    · rw [Function.update_of_ne hxu] at hx
      exact h.own x hx

/-- The bag of another user is released. -/
theorem Ledger.releaseUserItem (h : Ledger user l g storedBase countBase s net) {u : Nat} (hu : u ≠ user) :
    Ledger user l g storedBase countBase (releaseUserItem s u) net := by
  refine ⟨?_, ?_, h.lt, h.fits, h.settled, h.written, h.counted⟩
  · show Function.update s.hash u none user = _
    rw [Function.update_of_ne hu.symm]
    exact h.hash
  · intro x hx
    have hx' : Function.update s.hash u none x = some l := hx
    by_cases hxu : x = u
    · subst hxu
      rw [Function.update_self] at hx'
      cases hx'
    · rw [Function.update_of_ne hxu] at hx'
      exact h.own x hx'

/-- `cmd_LoadUserItem` of another user, up to its last wait. -/
theorem Ledger.loadUserItem (h : Ledger user l g storedBase countBase s net) {u : Nat} (hu : u ≠ user)
    (rows : List (Nat × Int × Int)) (now : Int) : Ledger user l g storedBase countBase (loadUserItem s u rows now) net := by
  have hfold : ∀ (expired : List (Nat × Int × Int)) (s : State), Ledger user l g storedBase countBase s net →
      Ledger user l g storedBase countBase (expired.foldl (fun s r => s.request (.updateBag u r.1 0 0)) s) net := by
    intro expired
    induction expired with
    | nil => exact fun _ h => h
    | cons r rest ih => exact fun s h => ih _ (h.request rfl)
  have hsus := (hfold (rows.filter fun r => r.2.2 ≠ 0 ∧ r.2.2 ≤ now) s h).suspend
    (t := .load u (rows.map fun r => loadRow now r.1 r.2.1 r.2.2)) hu
  rwa [show Thread.adds user g (.load u (rows.map fun r => loadRow now r.1 r.2.1 r.2.2)) = 0 from rfl, add_zero] at hsus

/-- A handler that goes on after a wait. -/
theorem Ledger.resumeThread (h : Ledger user l g storedBase countBase s net) (hg : isOrdinary g) (retCode : Int)
    (order : List Nat) (online : Bool) (now : Int) {t : Thread} (hf : t.Fits s user l)
    (hd : ∀ u l' k goodsID a, t = .save u l' k goodsID a → u ≠ user ∨ goodsID ≠ g ∨ retCode = 0)
    (hsafe : ∀ u l' k goodsID a, t = .save u l' k goodsID a →
      u ≠ user ∨ goodsID ≠ g ∨ ∀ v, (s.lists l')[k]? = some v → v.goodsCount - v.oldGoodsCount = a) :
    Ledger user l g storedBase countBase (resumeThread s retCode order online now t) (net + t.adds user g) := by
  cases t with
  | save u l' k goodsID a =>
    rw [show Thread.adds user g (.save u l' k goodsID a) = 0 from rfl, add_zero]
    exact h.saveResume order hf (hd _ _ _ _ _ rfl) (hsafe _ _ _ _ _ rfl)
  | add c => exact h.addItemToBag c now
  | info c =>
    rw [show Thread.adds user g (.info c) = 0 from rfl, add_zero]
    simp only [Bag.resumeThread]
    split
    · exact h
    · rename_i s' hs
      exact (h.goodsInfo hg _ _ _ _ hs).changeRecord c
  | load u rows =>
    rw [show Thread.adds user g (.load u rows) = 0 from rfl, add_zero]
    exact h.loadDone hf rows

/-- One label keeps the ledger, under the condition. -/
theorem Ledger.step (h : Ledger user l g storedBase countBase s net) (hg : isOrdinary g) (i : Label) {s' : State}
    (hd : inDomain user g s i) (hsafe : saveSafe user g s i) (hs : step s i = some s') :
    Ledger user l g storedBase countBase s' (net + requested user g s i) := by
  cases i with
  | loadUserItem u rows now =>
    cases hs
    rw [show requested user g s (.loadUserItem u rows now) = 0 from rfl, add_zero]
    exact h.loadUserItem (by simpa [inDomain] using hd) rows now
  | releaseUserItem u =>
    cases hs
    rw [show requested user g s (.releaseUserItem u) = 0 from rfl, add_zero]
    exact h.releaseUserItem (by simpa [inDomain] using hd)
  | changeItemCount c bReset now =>
    cases hs
    exact h.changeItemCount hg c bReset now hd
  | goodsInfo u goodsID online now =>
    cases hs
    rw [show requested user g s (.goodsInfo u goodsID online now) = 0 from rfl, add_zero]
    cases hi : Bag.goodsInfo s u goodsID online now with
    | none => exact h
    | some s' => exact h.goodsInfo hg u goodsID online now hi
  | saveUserItem u order =>
    cases hs
    rw [show requested user g s (.saveUserItem u order) = 0 from rfl, add_zero]
    unfold Bag.saveUserItem
    split
    · exact h
    · rename_i l' hl
      exact h.saveLoop (h.user_iff hl) order
  | resume k retCode order online now =>
    rw [show requested user g s (.resume k retCode order online now) = 0 from rfl, add_zero]
    simp only [Bag.step, Option.map_eq_some_iff] at hs
    obtain ⟨t, ht, rfl⟩ := hs
    have hres := (h.wake ht).resumeThread hg retCode order online now (h.fits t (List.mem_of_getElem? ht))
      (fun u l' j goodsID a he => by subst he; simpa [inDomain, ht, or_assoc] using hd)
      (fun u l' j goodsID a he => by
        subst he
        simpa [saveSafe, ht, or_assoc, Option.all_eq_true] using hsafe)
    rwa [sub_add_cancel] at hres

end Handlers

/-- A bag that has been loaded opens its ledger. -/
theorem Loaded.ledger {s : State} {user l : Nat} (h : Loaded s user l) (g : Nat) :
    Ledger user l g (stored s.log user g - count (s.lists l) g) (count (s.lists l) g) s 0 := by
  refine ⟨h.hash, h.own, h.lt, ?_, fun v hv _ => Or.inl (h.balanced v hv), ?_, ?_⟩
  · intro t ht
    have hi := h.idle t ht
    cases t with
    | save u l' k goodsID a => exact ⟨⟨fun hh => absurd hh hi.1, fun hh => absurd hh hi.2⟩, fun hh => absurd hh hi.2⟩
    | load u rows => exact hi
    | add c => trivial
    | info c => trivial
  · rw [sumOf_old_of_balanced h.balanced]
    omega
  · have hw : waiting s.suspended user g = 0 := by
      refine List.sum_eq_zero ?_
      intro x hx
      obtain ⟨t, ht, rfl⟩ := List.mem_map.1 hx
      have hi := h.idle t ht
      cases t with
      | add c => exact if_neg fun hh => hi hh.1
      | save u l' k goodsID a => rfl
      | load u rows => rfl
      | info c => rfl
    rw [hw]

/-- The end of `cmd_LoadUserItem` leaves a loaded bag, when nobody waits in the user's bag. -/
theorem loaded_loadDone {s : State} {user : Nat} {rows : List (Nat × Int × Int)} (now : Int)
    (hlt : ∀ u l, s.hash u = some l → l < s.listCount)
    (hidle : ∀ t ∈ s.suspended, match t with
      | .save u l' _ _ _ => u ≠ user ∧ l' < s.listCount
      | .add c => c.userID ≠ user
      | .info c => c.userID ≠ user
      | .load u _ => u ≠ user) :
    Loaded (loadDone s user (rows.map fun r => loadRow now r.1 r.2.1 r.2.2)) user s.listCount := by
  refine ⟨Function.update_self _ _ _, ?_, Nat.lt_succ_self _, ?_, ?_⟩
  · intro u hu
    by_contra hne
    have hu' : Function.update s.hash user (some s.listCount) u = some s.listCount := hu
    rw [Function.update_of_ne hne] at hu'
    exact absurd (hlt u _ hu') (Nat.lt_irrefl _)
  · intro t ht
    have hi := hidle t ht
    cases t with
    | save u l' k goodsID a => exact ⟨hi.1, Nat.ne_of_lt hi.2⟩
    | add c => exact hi
    | info c => exact hi
    | load u rows => exact hi
  · intro v hv
    have hv' : v ∈ Function.update s.lists s.listCount (rows.map fun r => loadRow now r.1 r.2.1 r.2.2) s.listCount := hv
    rw [Function.update_self, List.mem_map] at hv'
    obtain ⟨r, -, rfl⟩ := hv'
    unfold loadRow
    repeat' split
    all_goals rfl

/-- Every run from a loaded bag whose labels meet the two conditions when they are taken: what has been written of an
ordinary item and what is pending is the net change of the item since it was loaded; and that change, with what the waiting
handlers are going to add, is what the messages of the run have asked for. -/
theorem stored_add_pending_of_saveSafe (s t : State) (user l g : Nat) (labels : List Label) (hload : Loaded s user l)
    (hg : isOrdinary g) (hsafe : Steps.Meets step (fun s i => inDomain user g s i && saveSafe user g s i) s labels)
    (hrun : Steps.exec step s labels = some t) :
    t.hash user = some l ∧
    stored t.log user g - stored s.log user g + pending (t.lists l) g = count (t.lists l) g - count (s.lists l) g ∧
    count (t.lists l) g - count (s.lists l) g + waiting t.suspended user g = Steps.total step
      (requested user g) s labels := by
  have h := Steps.exec_total (I := Ledger user l g (stored s.log user g - count (s.lists l) g) (count (s.lists l) g))
    (f := requested user g)
    (fun s i s' net h hc hs => by
      rw [Bool.and_eq_true] at hc
      exact h.step hg i hc.1 hc.2 hs) labels s t 0 (hload.ledger g) hsafe hrun
  rw [zero_add] at h
  have hw := h.written
  have hc := h.counted
  rw [pending_eq]
  exact ⟨h.hash, by omega, by omega⟩

/-- The bag of the user 7 with 100 gold. -/
def goldBag : State := loadDone State.init 7 ([(itemIdGold, 100, 0)].map fun r => loadRow 0 r.1 r.2.1 r.2.2)

theorem loaded_goldBag : Loaded goldBag 7 0 := loaded_loadDone 0 (by simp [State.init]) (by simp [State.init])

/-- Gold comes in, is saved, and goes out again. -/
theorem stored_add_pending_of_saveSafe_gold :
    ∃ t, Steps.exec step goldBag [.changeItemCount ⟨7, itemIdGold, 10, .byFish, false⟩ false 0, .saveUserItem 7 [0],
        .resume 0 0 [] false 0, .changeItemCount ⟨7, itemIdGold, -30, .byFish, true⟩ false 0] = some t ∧
      t.hash 7 = some 0 ∧
      stored t.log 7 itemIdGold - stored goldBag.log 7 itemIdGold + pending (t.lists 0) itemIdGold =
        count (t.lists 0) itemIdGold - count (goldBag.lists 0) itemIdGold ∧
      count (t.lists 0) itemIdGold - count (goldBag.lists 0) itemIdGold + waiting t.suspended 7 itemIdGold =
        Steps.total step (requested 7 itemIdGold) goldBag
          [.changeItemCount ⟨7, itemIdGold, 10, .byFish, false⟩ false 0, .saveUserItem 7 [0], .resume 0 0 [] false 0,
            .changeItemCount ⟨7, itemIdGold, -30, .byFish, true⟩ false 0] :=
  ⟨_, rfl, stored_add_pending_of_saveSafe goldBag _ 7 0 itemIdGold
    [.changeItemCount ⟨7, itemIdGold, 10, .byFish, false⟩ false 0, .saveUserItem 7 [0], .resume 0 0 [] false 0,
      .changeItemCount ⟨7, itemIdGold, -30, .byFish, true⟩ false 0] loaded_goldBag (by decide) (by decide +kernel) rfl⟩

/-- Five gold come in while a save of ten waits for the database: they are taken as written, and are not. -/
theorem change_during_save_is_lost :
    ∃ t, Loaded goldBag 7 0 ∧
      Steps.Meets step (fun s i => inDomain 7 itemIdGold s i) goldBag
        [.changeItemCount ⟨7, itemIdGold, 10, .byFish, false⟩ false 0, .saveUserItem 7 [0],
          .changeItemCount ⟨7, itemIdGold, 5, .byFish, false⟩ false 0, .resume 0 0 [] false 0] ∧
      Steps.exec step goldBag [.changeItemCount ⟨7, itemIdGold, 10, .byFish, false⟩ false 0, .saveUserItem 7 [0],
        .changeItemCount ⟨7, itemIdGold, 5, .byFish, false⟩ false 0, .resume 0 0 [] false 0] = some t ∧
      stored t.log 7 itemIdGold - stored goldBag.log 7 itemIdGold = 10 ∧ pending (t.lists 0) itemIdGold = 0 ∧
      count (t.lists 0) itemIdGold - count (goldBag.lists 0) itemIdGold = 15 :=
  ⟨_, loaded_goldBag, by decide +kernel, rfl, by decide +kernel, by decide +kernel, by decide +kernel⟩

end SasyServer.Bag
