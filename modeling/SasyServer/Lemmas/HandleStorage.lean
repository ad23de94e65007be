import SasyServer.Skynet.Handle

/-!
# What the calls do to the handles

`Good` is what holds of the storage between two calls; it and what `skynet_handle_grab` answers are followed through the
search for a free slot, the growing of the table, a registration, a retirement and the names.
-/

namespace SasyServer.Skynet

namespace HandleStorage

variable {γ : Type} {harbor : Nat} {s : HandleStorage γ}

/-- What holds of the storage between two calls. -/
structure Good (harbor : Nat) (s : HandleStorage γ) : Prop where
  harbor_eq : s.harbor = (harbor &&& 0xff) <<< handleRemoteShift
  size : ∃ k, 1 < k ∧ k ≤ 24 ∧ s.slotSize = 2 ^ k
  index_pos : 0 < s.handleIndex
  index_le : s.handleIndex ≤ 2 ^ 24
  wf : SlotTable.WF s.slotSize s.slot
  handles : ∀ i e, s.slot i = some e → e.1 / 2 ^ 24 = harbor % 256 ∧ e.1 % 2 ^ 24 ≠ 0
  sorted : s.name.Pairwise fun p q => compare p.1 q.1 = .lt

/-- The four slots of the beginning are free. -/
theorem init_good : (init harbor : HandleStorage γ).Good harbor where
  harbor_eq := rfl
  size := ⟨2, by decide, by decide, rfl⟩
  index_pos := Nat.one_pos
  index_le := Nat.one_le_two_pow
  wf := SlotTable.wf_empty
  handles _ _ h := by cases h
  sorted := .nil

theorem Good.and_mask (h : s.Good harbor) (x : Nat) : x &&& (s.slotSize - 1) = x % s.slotSize := by
  obtain ⟨k, _, _, hk⟩ := h.size
  rw [hk, Nat.and_two_pow_sub_one_eq_mod]

theorem Good.and_mask_double (h : s.Good harbor) (x : Nat) : x &&& (s.slotSize * 2 - 1) = x % (s.slotSize * 2) := by
  obtain ⟨k, _, _, hk⟩ := h.size
  rw [hk, ← Nat.pow_succ, Nat.and_two_pow_sub_one_eq_mod]

theorem Good.size_dvd (h : s.Good harbor) : s.slotSize ∣ 2 ^ 24 := by
  obtain ⟨k, _, hle, hk⟩ := h.size
  exact hk ▸ Nat.pow_dvd_pow 2 hle

theorem Good.size_gt (h : s.Good harbor) : 2 < s.slotSize := by
  obtain ⟨k, hlt, _, hk⟩ := h.size
  rw [hk]
  exact Nat.lt_of_lt_of_le (by decide) (Nat.pow_le_pow_right Nat.two_pos hlt)

/-- A handle with the number of the harbor. -/
theorem or_harbor {x : Nat} (hx : x ≤ handleMask) (harbor : Nat) :
    x ||| ((harbor &&& 0xff) <<< handleRemoteShift) = 2 ^ 24 * (harbor % 256) + x := by
  have hlt : x < 2 ^ 24 := Nat.lt_of_le_of_lt hx (by decide)
  rw [Nat.shiftLeft_eq, show (0xff : Nat) = 2 ^ 8 - 1 from rfl, Nat.and_two_pow_sub_one_eq_mod, Nat.or_comm, Nat.mul_comm,
    show handleRemoteShift = 24 from rfl, ← Nat.two_pow_add_eq_or_of_lt hlt]

/-- `skynet_handle_grab` is a look-up in the table of the slots. -/
theorem Good.grab_eq (h : s.Good harbor) : s.grab = SlotTable.get s.slotSize s.slot := by
  funext handle
  rw [grab, h.and_mask, SlotTable.get]
  cases s.slot (handle % s.slotSize) with
  | none => rfl
  | some e =>
    rw [Option.filter_some]
    by_cases he : e.1 = handle
    · simp [he]
    · simp [he]

/-! ## The search for a free slot -/

/-- The loop of `skynet_handle_register` tries the handle `x`. -/
def Tried (n handle x : Nat) : Prop :=
  handle ≤ x ∧ x < handle + n ∧ x ≤ handleMask ∨ 0 < x ∧ x ≤ handleMask ∧ x + handleMask < handle + n

theorem tried_succ {n handle x : Nat} (hpos : 0 < handle) (hle : handle ≤ 2 ^ 24) :
    Tried (n + 1) handle x ↔
      x = (if handle > handleMask then 1 else handle) ∨ Tried n ((if handle > handleMask then 1 else handle) + 1) x := by
  unfold Tried handleMask
  split <;> omega

theorem next_le {handle : Nat} (hle : handle ≤ 2 ^ 24) : (if handle > handleMask then 1 else handle) + 1 ≤ 2 ^ 24 := by
  unfold handleMask
  split <;> omega

/-- What the search finds is one of the handles it tries, and has a free slot. -/
theorem freeHandle_eq_some {slotSize : Nat} {slot : SlotTable.Slots γ} {x : Nat} (n : Nat) :
    ∀ {handle : Nat}, 0 < handle → handle ≤ 2 ^ 24 →
    freeHandle slotSize slot n handle = some x → Tried n handle x ∧ slot (x &&& (slotSize - 1)) = none := by
  induction n with
  | zero => exact fun _ _ h => by cases h
  | succ n ih =>
    intro handle hpos hle h
    rw [tried_succ hpos hle]
    rw [freeHandle] at h
    have hnext := next_le hle
    generalize (if handle > handleMask then 1 else handle) = next at h hnext
    by_cases hfree : (slot (next &&& (slotSize - 1))).isNone = true
    · rw [if_pos hfree] at h
      obtain rfl := Option.some.inj h
      exact ⟨Or.inl rfl, Option.isNone_iff_eq_none.1 hfree⟩
    · rw [if_neg hfree] at h
      obtain ⟨htried, hslot⟩ := ih (Nat.succ_pos next) hnext h
      exact ⟨Or.inr htried, hslot⟩

/-- The search finds nothing where no handle that it tries has a free slot, and only there. -/
theorem freeHandle_eq_none {slotSize : Nat} {slot : SlotTable.Slots γ} (n : Nat) :
    ∀ {handle : Nat}, 0 < handle → handle ≤ 2 ^ 24 →
    (freeHandle slotSize slot n handle = none ↔ ∀ x, Tried n handle x → slot (x &&& (slotSize - 1)) ≠ none) := by
  induction n with
  | zero =>
    intro handle hpos hle
    refine iff_of_true rfl fun x hx => ?_
    unfold Tried handleMask at hx
    omega
  | succ n ih =>
    intro handle hpos hle
    simp only [tried_succ hpos hle]
    rw [freeHandle]
    have hnext := next_le hle
    generalize (if handle > handleMask then 1 else handle) = next at hnext
    by_cases hfree : (slot (next &&& (slotSize - 1))).isNone = true
    · rw [if_pos hfree]
      exact iff_of_false (fun h => by cases h) fun h => h next (Or.inl rfl) (Option.isNone_iff_eq_none.1 hfree)
    · rw [if_neg hfree, ih (Nat.succ_pos next) hnext]
      have hnot : slot (next &&& (slotSize - 1)) ≠ none := fun e => hfree (Option.isNone_iff_eq_none.2 e)
      constructor
      · rintro h x (rfl | hx)
        · exact hnot
        · exact h x hx
      · exact fun h x hx => h x (Or.inr hx)

/-! ## Growing -/

/-- If every slot has a context, all of them have a place in the table of twice the size. -/
theorem moveSlots_full {size : Nat} {slot : SlotTable.Slots γ} (hwf : SlotTable.WF size slot)
    (hmask : ∀ x, x &&& (size * 2 - 1) = x % (size * 2)) (hfull : ∀ i < size, slot i ≠ none) (n : Nat) (hn : n ≤ size) :
    moveSlots size slot n = some fun j => if j % size < n then SlotTable.double size slot j else none := by
  induction n with
  | zero => rfl
  | succ n ih =>
    obtain ⟨e, he⟩ := Option.ne_none_iff_exists'.1 (hfull n hn)
    have hkey := hwf n e he
    have hmod : e.1 % (size * 2) % size = n := by rw [Nat.mod_mul_right_mod, hkey]
    rw [moveSlots, ih (Nat.le_of_succ_le hn), he]
    dsimp only
    rw [hmask, if_pos (by simp [hmod])]
    congr 1
    funext j
    by_cases hj : j = e.1 % (size * 2)
    · subst hj
      rw [Function.update_self, hmod, if_pos (Nat.lt_succ_self n), SlotTable.double, hmod, he, Option.filter_some,
        if_pos (decide_eq_true rfl)]
    · rw [Function.update_of_ne hj]
      by_cases hjn : j % size = n
      · rw [if_neg (by omega), if_pos (by omega), SlotTable.double, hjn, he, Option.filter_some,
          if_neg (by simpa using Ne.symm hj)]
      · have hiff : j % size < n ↔ j % size < n + 1 := by omega
        rw [if_congr hiff rfl rfl]

/-- A free slot stops the loop that moves the services: it would read the handle of a null context. -/
theorem moveSlots_eq_none {size : Nat} {slot : SlotTable.Slots γ} {n i : Nat} (hi : i < n) (hfree : slot i = none) :
    moveSlots size slot n = none := by
  induction n with
  | zero => exact absurd hi (Nat.not_lt_zero i)
  | succ n ih =>
    rw [moveSlots]
    rcases Nat.lt_or_eq_of_le (Nat.le_of_lt_succ hi) with hi | rfl
    · rw [ih hi]
    · rw [hfree]
      split
      · rename_i h
        cases h
      · rfl

theorem Good.moveSlots_full (h : s.Good harbor) (hfull : ∀ i < s.slotSize, s.slot i ≠ none) :
    moveSlots s.slotSize s.slot s.slotSize = some (SlotTable.double s.slotSize s.slot) := by
  rw [HandleStorage.moveSlots_full h.wf h.and_mask_double hfull _ (Nat.le_refl _)]
  congr 1
  funext j
  exact if_pos (Nat.mod_lt _ (Nat.zero_lt_of_lt h.size_gt))

/-- The storage with the table of twice the size. -/
def doubled (s : HandleStorage γ) : HandleStorage γ :=
  { s with slot := SlotTable.double s.slotSize s.slot, slotSize := s.slotSize * 2 }

/-- The services keep their handles when the number of slots doubles. -/
theorem Good.doubled (h : s.Good harbor) (hroom : s.slotSize * 2 - 1 ≤ handleMask) : s.doubled.Good harbor := by
  obtain ⟨k, hlt, hle, hk⟩ := h.size
  refine ⟨h.harbor_eq, ⟨k + 1, Nat.lt_succ_of_lt hlt, ?_, ?_⟩, h.index_pos, h.index_le, SlotTable.wf_double,
    fun i e he => ?_, h.sorted⟩
  · rw [hk, ← Nat.pow_succ] at hroom
    by_contra hgt
    have : 2 ^ 25 ≤ 2 ^ (k + 1) := Nat.pow_le_pow_right Nat.two_pos (by omega)
    unfold handleMask at hroom
    omega
  · show s.slotSize * 2 = 2 ^ (k + 1)
    rw [hk, Nat.pow_succ]
  · exact h.handles _ e (Option.filter_eq_some_iff.1 he).1

theorem Good.grab_doubled (h : s.Good harbor) (hroom : s.slotSize * 2 - 1 ≤ handleMask) : s.doubled.grab = s.grab := by
  rw [(h.doubled hroom).grab_eq, h.grab_eq]
  exact SlotTable.get_double

/-! ## The calls -/

/-- A context gets a handle whose slot is free. -/
def placed (s : HandleStorage γ) (context : γ) (x : Nat) : HandleStorage γ :=
  { s with slot := Function.update s.slot (x &&& (s.slotSize - 1)) (some (x ||| s.harbor, context)), handleIndex := x + 1 }

/-- A service is put into a free slot: it is found under its handle, and nothing else is found elsewhere. -/
theorem Good.placed (h : s.Good harbor) (context : γ) {x : Nat} (hpos : 0 < x) (hle : x ≤ handleMask)
    (hfree : s.slot (x &&& (s.slotSize - 1)) = none) :
    (s.placed context x).Good harbor ∧ (s.placed context x).grab = Function.update s.grab (x ||| s.harbor) (some context) ∧
      s.grab (x ||| s.harbor) = none ∧ (x ||| s.harbor) / 2 ^ 24 = harbor % 256 ∧ (x ||| s.harbor) % 2 ^ 24 ≠ 0 := by
  have hor : x ||| s.harbor = 2 ^ 24 * (harbor % 256) + x := by rw [h.harbor_eq, or_harbor hle]
  have hlt : x < 2 ^ 24 := Nat.lt_of_le_of_lt hle (by decide)
  have hdiv : (x ||| s.harbor) / 2 ^ 24 = harbor % 256 := by
    rw [hor, Nat.mul_add_div (by decide), Nat.div_eq_of_lt hlt, Nat.add_zero]
  have hmod : (x ||| s.harbor) % 2 ^ 24 = x := by rw [hor, Nat.mul_add_mod, Nat.mod_eq_of_lt hlt]
  -- the number of the harbor does not change the slot
  have hslot : x % s.slotSize = (x ||| s.harbor) % s.slotSize := by
    rw [← Nat.mod_mod_of_dvd (x ||| s.harbor) h.size_dvd, hmod]
  rw [h.and_mask, hslot] at hfree
  have hgood : (s.placed context x).Good harbor := by
    refine ⟨h.harbor_eq, h.size, Nat.succ_pos x, hlt, ?_, fun i e he => ?_, h.sorted⟩
    · show SlotTable.WF s.slotSize (Function.update s.slot (x &&& (s.slotSize - 1)) _)
      rw [h.and_mask, hslot]
      exact h.wf.put _ context
    · by_cases hi : i = x &&& (s.slotSize - 1)
      · subst hi
        rw [show (s.placed context x).slot _ = some (x ||| s.harbor, context) from Function.update_self _ _ _] at he
        obtain rfl := Option.some.inj he
        exact ⟨hdiv, hmod.symm ▸ Nat.ne_of_gt hpos⟩
      · exact h.handles i e ((Function.update_of_ne hi _ _).symm.trans he)
  refine ⟨hgood, ?_, ?_, hdiv, hmod.symm ▸ Nat.ne_of_gt hpos⟩
  · rw [hgood.grab_eq, h.grab_eq]
    show SlotTable.get s.slotSize (Function.update s.slot (x &&& (s.slotSize - 1)) _) = _
    rw [h.and_mask, hslot]
    exact SlotTable.get_put hfree context
  · rw [h.grab_eq]
    exact SlotTable.get_of_free hfree

/-- What a registration does, however often the table doubles for it. -/
theorem registerLoop_spec (context : γ) (turns : Nat) : ∀ {s s' : HandleStorage γ} {handle : Nat}, s.Good harbor →
    registerLoop context turns s = some (handle, s') →
    s'.Good harbor ∧ s'.grab = Function.update s.grab handle (some context) ∧ s.grab handle = none ∧
      handle / 2 ^ 24 = harbor % 256 ∧
      handle % 2 ^ 24 ≠ 0 ∧ s'.name = s.name := by
  induction turns with
  | zero => exact fun _ h => by cases h
  | succ turns ih =>
    intro s s' handle h hr
    rw [registerLoop] at hr
    split at hr
    · rename_i x hx
      obtain ⟨htried, hfree⟩ := freeHandle_eq_some s.slotSize h.index_pos h.index_le hx
      have hrange : 0 < x ∧ x ≤ handleMask := by
        have := h.index_pos
        unfold Tried at htried
        omega
      obtain ⟨rfl, rfl⟩ := Prod.mk.inj (Option.some.inj hr)
      obtain ⟨h1, h2, h3, h4, h5⟩ := h.placed context hrange.1 hrange.2 hfree
      exact ⟨h1, h2, h3, h4, h5, rfl⟩
    · split at hr
      · rename_i hroom
        split at hr
        · rename_i slot hslot
          have hfull : ∀ i < s.slotSize, s.slot i ≠ none := fun i hi hfree => by
            rw [moveSlots_eq_none hi hfree] at hslot
            cases hslot
          rw [h.moveSlots_full hfull] at hslot
          obtain rfl := Option.some.inj hslot
          obtain ⟨h1, h2, h3, h4, h5, h6⟩ := ih (h.doubled hroom) hr
          rw [h.grab_doubled hroom] at h2 h3
          exact ⟨h1, h2, h3, h4, h5, h6⟩
        · cases hr
      · cases hr

theorem retire_of_some {handle : Nat} (h : s.Good harbor) {context : γ} (hlive : s.grab handle = some context) :
    s.retire handle = (true, { s with
      slot := Function.update s.slot (handle % s.slotSize) none, name := s.name.filter fun n => n.2 ≠ handle }) := by
  rw [h.grab_eq, SlotTable.get_eq_some] at hlive
  simp only [retire, h.and_mask, hlive, if_true]

/-- A handle that is not registered is not retired. -/
theorem retire_of_none {handle : Nat} (hlive : s.grab handle = none) : s.retire handle = (false, s) := by
  rw [grab] at hlive
  unfold retire
  dsimp only
  cases hs : s.slot (handle &&& (s.slotSize - 1)) with
  | none => rfl
  | some e =>
    rw [hs] at hlive
    dsimp only at hlive ⊢
    by_cases he : e.1 = handle
    · rw [if_pos he] at hlive
      cases hlive
    · rw [if_neg he]

/-- A service that is retired is not found any more, and the others are. -/
theorem Good.retire (h : s.Good harbor) {handle : Nat} {context : γ} (hlive : s.grab handle = some context) :
    (s.retire handle).2.Good harbor ∧ (s.retire handle).2.grab = Function.update s.grab handle none := by
  rw [retire_of_some h hlive]
  have hgood : Good harbor { s with
      slot := Function.update s.slot (handle % s.slotSize) none, name := s.name.filter fun n => n.2 ≠ handle } := by
    refine ⟨h.harbor_eq, h.size, h.index_pos, h.index_le, h.wf.clear _, fun i e he => ?_, h.sorted.filter _⟩
    by_cases hi : i = handle % s.slotSize
    · subst hi
      have hnone : Function.update s.slot (handle % s.slotSize) none (handle % s.slotSize) = some e := he
      rw [Function.update_self] at hnone
      cases hnone
    · exact h.handles i e ((Function.update_of_ne hi _ _).symm.trans he)
  refine ⟨hgood, ?_⟩
  rw [hgood.grab_eq, h.grab_eq]
  rw [h.grab_eq, SlotTable.get_eq_some] at hlive
  exact SlotTable.get_clear hlive

/-! ## Names -/

theorem nameAt_eq {i : Nat} (hi : i < s.name.length) : s.nameAt i = s.name[i] := by
  rw [nameAt, List.getD_eq_getElem?_getD, List.getElem?_eq_getElem hi]
  rfl

/-- The search comes to the right place. -/
theorem Good.searchName (h : s.Good harbor) (name : List UInt8) :
    (s.searchName name).Right (fun i => (s.nameAt i).1) name s.name.length := by
  have hmono : ∀ i j, i < j → j < s.name.length → compare (s.nameAt i).1 (s.nameAt j).1 = .lt := fun i j hij hj => by
    rw [nameAt_eq (Nat.lt_trans hij hj), nameAt_eq hj]
    exact List.pairwise_iff_getElem.1 h.sorted i j _ hj hij
  have hturns : s.name.length < 0 + (s.name.length + 1) := by omega
  exact BinarySearch.search_right hmono _ (Nat.zero_le _) (Nat.le_refl _) hturns (fun i hi => absurd hi (Nat.not_lt_zero i))
    fun i hi hlt => absurd hlt (Nat.not_lt_of_le hi)

/-- A name that is found is one that is there, with its handle. -/
theorem Good.found (h : s.Good harbor) {name : List UInt8} {mid : Nat} (hs : s.searchName name = .found mid) :
    (name, (s.nameAt mid).2) ∈ s.name := by
  have hright := h.searchName name
  rw [hs] at hright
  obtain ⟨hlt, hname⟩ := hright
  dsimp only at hname
  rw [← hname, nameAt_eq hlt]
  exact List.getElem_mem hlt

/-- Where the search ends without a hit, the names before the place are smaller and those behind it greater. -/
theorem Good.not_found (h : s.Good harbor) {name : List UInt8} {begin : Nat} (hs : s.searchName name = .before begin) :
    begin ≤ s.name.length ∧ (∀ p ∈ s.name.take begin, compare p.1 name = .lt) ∧
      ∀ p ∈ s.name.drop begin, compare name p.1 = .lt := by
  have hright := h.searchName name
  rw [hs] at hright
  obtain ⟨hle, hleft, hafter⟩ := hright
  refine ⟨hle, fun p hp => ?_, fun p hp => ?_⟩
  · obtain ⟨i, hi, rfl⟩ := List.mem_iff_getElem.1 hp
    rw [List.length_take, Nat.lt_min] at hi
    have hless := hleft i hi.1
    dsimp only at hless
    rw [nameAt_eq hi.2] at hless
    rw [List.getElem_take]
    exact hless
  · obtain ⟨i, hi, rfl⟩ := List.mem_iff_getElem.1 hp
    rw [List.length_drop] at hi
    have hlt : begin + i < s.name.length := by omega
    have hless := hafter (begin + i) (Nat.le_add_right _ _) hlt
    dsimp only at hless
    rw [nameAt_eq hlt] at hless
    rw [List.getElem_drop]
    exact hless

/-- A name is put where the search has ended. -/
theorem Good.insert (h : s.Good harbor) {name : List UInt8} {begin : Nat} (hs : s.searchName name = .before begin)
    (handle : Nat) :
    (s.insertNameBefore name handle begin).Good harbor := by
  obtain ⟨_, hleft, hright⟩ := h.not_found hs
  refine ⟨h.harbor_eq, h.size, h.index_pos, h.index_le, h.wf, h.handles, ?_⟩
  have hsorted := h.sorted
  rw [← List.take_append_drop begin s.name, List.pairwise_append] at hsorted
  obtain ⟨h1, h2, h3⟩ := hsorted
  refine List.pairwise_append.2 ⟨h1, List.pairwise_cons.2 ⟨hright, h2⟩, fun p hp q hq => ?_⟩
  rcases List.mem_cons.1 hq with rfl | hq
  · exact hleft p hp
  · exact h3 p hp q hq

theorem mem_insert {name : List UInt8} {handle begin : Nat} {p : List UInt8 × Nat} :
    p ∈ (s.insertNameBefore name handle begin).name ↔ p = (name, handle) ∨ p ∈ s.name := by
  rw [insertNameBefore, List.mem_append, List.mem_cons, or_left_comm, ← List.mem_append, List.take_append_drop]

theorem compare_self (name : List UInt8) : compare name name ≠ .lt := by
  have heq : compare name name = .eq := Std.ReflCmp.compare_self
  rw [heq]
  exact fun h => by cases h

/-- Which name stands for which handle. -/
def NamesAre (s : HandleStorage γ) (names : List UInt8 → Option Nat) : Prop :=
  ∀ name handle, names name = some handle ↔ (name, handle) ∈ s.name

/-- A name that is not found stands for nothing. -/
theorem Good.free (h : s.Good harbor) {name : List UInt8} {begin : Nat} (hs : s.searchName name = .before begin)
    {names : List UInt8 → Option Nat} (hnames : s.NamesAre names) : names name = none := by
  obtain ⟨_, hleft, hright⟩ := h.not_found hs
  rw [Option.eq_none_iff_forall_ne_some]
  intro handle hn
  have hm := (hnames name handle).1 hn
  rw [← List.take_append_drop begin s.name, List.mem_append] at hm
  rcases hm with hm | hm
  · exact compare_self name (hleft _ hm)
  · exact compare_self name (hright _ hm)

/-- `skynet_handle_findname` answers with the handle of the name, or with 0. -/
theorem Good.findname (h : s.Good harbor) {names : List UInt8 → Option Nat} (hnames : s.NamesAre names) (name : List UInt8) :
    s.findname name = (names name).getD 0 := by
  rw [HandleStorage.findname]
  cases hs : s.searchName name with
  | found mid =>
    rw [(hnames name _).2 (h.found hs)]
    rfl
  | before begin =>
    rw [h.free hs hnames]
    rfl

end HandleStorage

end SasyServer.Skynet
