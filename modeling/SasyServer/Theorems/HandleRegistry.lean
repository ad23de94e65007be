import SasyServer.Lemmas.HandleStorage

/-!
# Theorem: the handles are a registry

`Registry` says what the storage is for: which handle stands for which context, and which name for which handle. Whatever the
calls are, the storage answers as the registry does (`calls_of_registry`), and `skynet_handle_register` stops the program in
one kind of state only (`register_stops_iff`).
-/

namespace SasyServer.Skynet

/-- Which contexts have handles, and which handles have names. -/
structure Registry (γ : Type) where
  live : Nat → Option γ
  names : List UInt8 → Option Nat

namespace Registry

variable {γ : Type}

/-- One call and what it returns. A new handle stands for nothing yet, has the number of the harbor, and its lower part is
not 0; the names of a handle go with it, and no name is given twice. -/
inductive Step (harbor : Nat) (r : Registry γ) : HandleCall γ → HandleResult → Registry γ → Prop where
  | register {context : γ} {handle : Nat} (hnew : r.live handle = none) (hharbor : handle / 2 ^ 24 = harbor % 256)
    (hpos : handle % 2 ^ 24 ≠ 0) :
      Step harbor r (.register context) (.handle handle) { r with live := Function.update r.live handle (some context) }
  | retire {handle : Nat} (hlive : r.live handle ≠ none) :
      Step harbor r (.retire handle) (.done true)
        { live := Function.update r.live handle none, names := fun name => (r.names name).filter fun h => h ≠ handle }
  | retired {handle : Nat} (hlive : r.live handle = none) : Step harbor r (.retire handle) (.done false) r
  | namehandle {handle : Nat} {name : List UInt8} (hnew : r.names name = none) :
      Step harbor r (.namehandle handle name) (.done true) { r with names := Function.update r.names name (some handle) }
  | named {handle : Nat} {name : List UInt8} (hname : r.names name ≠ none) : Step harbor r (.namehandle handle name)
    (.done false) r

/-- Calls one after another. -/
inductive Run (harbor : Nat) : Registry γ → List (HandleCall γ) → List HandleResult → Registry γ → Prop where
  | nil (r : Registry γ) : Run harbor r [] [] r
  | cons {r r' r'' : Registry γ} {call : HandleCall γ} {result : HandleResult} {calls : List (HandleCall γ)}
    {results : List HandleResult}
      (hstep : Step harbor r call result r') (hrun : Run harbor r' calls results r'') : Run harbor r (call :: calls)
        (result :: results) r''

def empty : Registry γ := ⟨fun _ => none, fun _ => none⟩

end Registry

namespace HandleStorage

variable {γ : Type} {harbor : Nat} {s : HandleStorage γ}

/-! ## The storage is the registry -/

/-- The storage has what the registry says. -/
structure Refines (harbor : Nat) (s : HandleStorage γ) (r : Registry γ) : Prop where
  good : s.Good harbor
  live : s.grab = r.live
  names : s.NamesAre r.names

theorem init_refines : (init harbor : HandleStorage γ).Refines harbor Registry.empty where
  good := init_good
  live := init_good.grab_eq.trans SlotTable.get_empty
  names _ _ := iff_of_false (fun h => by cases h) List.not_mem_nil

section Steps

variable {r : Registry γ}

/-- A registration is a step of the map: the handle is a new one. -/
theorem Refines.register (h : s.Refines harbor r) {context : γ} {handle : Nat} {s' : HandleStorage γ}
    (hs : s.register context = some (handle, s')) :
    ∃ r', r.Step harbor (.register context) (.handle handle) r' ∧ s'.Refines harbor r' := by
  obtain ⟨hgood, hgrab, hnew, hharbor, hpos, hname⟩ := registerLoop_spec context _ h.good hs
  rw [h.live] at hgrab hnew
  refine ⟨_, .register hnew hharbor hpos, hgood, hgrab, fun name handle => ?_⟩
  rw [hname]
  exact h.names name handle

/-- To retire a handle is a step of the map, with the same answer. -/
theorem Refines.retire (h : s.Refines harbor r) (handle : Nat) :
    ∃ r', r.Step harbor (.retire handle) (.done (s.retire handle).1) r' ∧ (s.retire handle).2.Refines harbor r' := by
  cases hg : s.grab handle with
  | none =>
    rw [retire_of_none hg]
    exact ⟨r, .retired (h.live ▸ hg), h⟩
  | some context =>
    obtain ⟨hgood, hgrab⟩ := h.good.retire hg
    rw [h.live] at hgrab
    rw [retire_of_some h.good hg] at hgood hgrab ⊢
    refine ⟨_, .retire ?_, hgood, hgrab, fun name handle' => ?_⟩
    · rw [← h.live, hg]
      exact fun e => by cases e
    · dsimp only
      rw [Option.filter_eq_some_iff, h.names, List.mem_filter]

/-- To give a name is a step of the map, with the same answer. -/
theorem Refines.namehandle (h : s.Refines harbor r) (handle : Nat) (name : List UInt8) :
    ∃ r', r.Step harbor (.namehandle handle name) (.done (s.namehandle handle name).1) r' ∧
      (s.namehandle handle name).2.Refines harbor r' := by
  unfold HandleStorage.namehandle
  cases hs : s.searchName name with
  | found mid =>
    refine ⟨r, .named ?_, h⟩
    rw [(h.names name _).2 (h.good.found hs)]
    exact fun e => by cases e
  | before begin =>
    have hnone := h.good.free hs h.names
    refine ⟨_, .namehandle hnone, h.good.insert hs handle, h.live, fun name' handle' => ?_⟩
    rw [mem_insert, ← h.names]
    dsimp only
    by_cases hn : name' = name
    · subst hn
      rw [Function.update_self, hnone, Option.some.injEq, Prod.mk.injEq]
      constructor
      · exact fun e => Or.inl ⟨rfl, e.symm⟩
      · rintro (⟨_, e⟩ | e)
        · exact e.symm
        · cases e
    · rw [Function.update_of_ne hn, Prod.mk.injEq]
      exact (or_iff_right fun e => hn e.1).symm

end Steps

/-- Every run of the storage is one of the registry. -/
theorem Refines.calls (calls : List (HandleCall γ)) :
    ∀ {s s' : HandleStorage γ} {r : Registry γ} {results : List HandleResult},
    s.Refines harbor r → HandleStorage.run calls s = some (results, s') → ∃ r', r.Run harbor calls results r' ∧
      s'.Refines harbor r' := by
  induction calls with
  | nil =>
    intro s s' r results h hs
    obtain ⟨rfl, rfl⟩ := Prod.mk.inj (Option.some.inj hs)
    exact ⟨r, .nil r, h⟩
  | cons call calls ih =>
    intro s s' r results h hs
    -- the first call, and the run of the others
    obtain ⟨result, s₁, ⟨r₁, hstep, h₁⟩, results, hrest, rfl⟩ : ∃ (result : HandleResult) (s₁ : HandleStorage γ),
        (∃ r₁, r.Step harbor call result r₁ ∧ s₁.Refines harbor r₁) ∧
          ∃ rest, HandleStorage.run calls s₁ = some (rest, s') ∧ results = result :: rest := by
      cases call with
      | register context =>
        rw [HandleStorage.run] at hs
        split at hs
        · rename_i handle s₁ hr
          obtain ⟨⟨rest, s''⟩, hrest, he⟩ := Option.map_eq_some_iff.1 hs
          obtain ⟨rfl, rfl⟩ := Prod.mk.inj he
          exact ⟨_, s₁, h.register hr, rest, hrest, rfl⟩
        · cases hs
      | retire handle =>
        obtain ⟨⟨rest, s''⟩, hrest, he⟩ := Option.map_eq_some_iff.1 hs
        obtain ⟨rfl, rfl⟩ := Prod.mk.inj he
        exact ⟨_, _, h.retire handle, rest, hrest, rfl⟩
      | namehandle handle name =>
        obtain ⟨⟨rest, s''⟩, hrest, he⟩ := Option.map_eq_some_iff.1 hs
        obtain ⟨rfl, rfl⟩ := Prod.mk.inj he
        exact ⟨_, _, h.namehandle handle name, rest, hrest, rfl⟩
    obtain ⟨r', hrun, h'⟩ := ih h₁ hrest
    exact ⟨r', .cons hstep hrun, h'⟩

/-- Whatever is registered, retired and named in whatever order: the calls return what the registry does, and then
`skynet_handle_grab` and `skynet_handle_findname` answer from it. -/
theorem calls_of_registry (harbor : Nat) {calls : List (HandleCall γ)} {results : List HandleResult} {s : HandleStorage γ}
    (hs : run calls (init harbor) = some (results, s)) :
    ∃ r : Registry γ, Registry.empty.Run harbor calls results r ∧ s.grab = r.live ∧
      ∀ name, s.findname name = (r.names name).getD 0 := by
  obtain ⟨r, hrun, h⟩ := Refines.calls calls init_refines hs
  exact ⟨r, hrun, h.live, h.good.findname h.names⟩

/-- Five services, for which the table doubles, with names and the end of one. -/
theorem calls_of_registry_five_services :
    ∃ (s : HandleStorage Nat) (r : Registry Nat),
      Registry.empty.Run 1
          [.register 10, .register 20, .register 30, .namehandle 0x1000001 [98], .namehandle 0x1000002 [97], .register 40,
            .register 50, .retire 0x1000001, .retire 0x1000001]
          [.handle 0x1000001, .handle 0x1000002, .handle 0x1000003, .done true, .done true, .handle 0x1000004,
            .handle 0x1000005, .done true, .done false]
          r ∧
        s.grab = r.live ∧ ∀ name, s.findname name = (r.names name).getD 0 :=
  ⟨_, calls_of_registry 1 rfl⟩

/-! ## When a registration stops the program -/

/-- The search comes past the reserved handle and leaves out the slot 0. -/
def SkipsZero (s : HandleStorage γ) : Prop :=
  2 ^ 24 < s.handleIndex + s.slotSize ∧ (s.handleIndex < 2 ^ 24 ∨ s.slotSize = 2 ^ 24)

/-- The last slots that there are handles for. -/
theorem Good.mod_last (h : s.Good harbor) {i : Nat} (hi : i < s.slotSize) :
    ∃ c, c + s.slotSize = 2 ^ 24 ∧ (c + i) % s.slotSize = i := by
  obtain ⟨m, hm⟩ := h.size_dvd
  cases m with
  | zero => exact absurd hm (by rw [Nat.mul_zero]; decide)
  | succ m =>
    refine ⟨s.slotSize * m, by rw [hm, Nat.mul_succ], ?_⟩
    rw [Nat.mul_add_mod, Nat.mod_eq_of_lt hi]

/-- Every slot but 0 is tried. -/
theorem Good.exists_tried (h : s.Good harbor) {i : Nat} (hpos : 0 < i) (hi : i < s.slotSize) :
    ∃ x, Tried s.slotSize s.handleIndex x ∧ x % s.slotSize = i := by
  unfold Tried handleMask
  by_cases hwrap : s.handleIndex + s.slotSize ≤ 2 ^ 24
  · obtain ⟨x, hle, hlt, hx⟩ := SlotTable.exists_mod_eq s.handleIndex hi
    exact ⟨x, Or.inl ⟨hle, hlt, by omega⟩, hx⟩
  · obtain ⟨c, hc, hmod⟩ := h.mod_last hi
    by_cases hle : s.handleIndex ≤ c + i
    · exact ⟨c + i, Or.inl ⟨hle, by omega, by omega⟩, hmod⟩
    · exact ⟨i, Or.inr ⟨hpos, by omega, by omega⟩, Nat.mod_eq_of_lt hi⟩

/-- The search tries a handle for the slot 0, unless the reserved handle is the one it would try. -/
theorem Good.exists_tried_zero (h : s.Good harbor) :
    (∃ x, Tried s.slotSize s.handleIndex x ∧ x % s.slotSize = 0) ↔ ¬s.SkipsZero := by
  have hsize := Nat.zero_lt_of_lt h.size_gt
  have hindex := h.index_le
  have hle := Nat.le_of_dvd (by decide) h.size_dvd
  unfold Tried SkipsZero handleMask
  constructor
  · rintro ⟨x, ⟨hx, _, hmask⟩ | ⟨hpos, hmask, hlt⟩, hmod⟩ ⟨hwrap, hskip⟩
    · -- there is no multiple of the size between the last one and the end
      obtain ⟨c, hc, -⟩ := h.mod_last hsize
      obtain ⟨c', hc', hmod'⟩ := h.mod_last (i := x - c) (by omega)
      obtain rfl : c = c' := by omega
      rw [Nat.add_sub_cancel' (by omega)] at hmod'
      omega
    · rw [Nat.mod_eq_of_lt (by omega)] at hmod
      omega
  · intro hnot
    by_cases hwrap : s.handleIndex + s.slotSize ≤ 2 ^ 24
    · obtain ⟨x, hle, hlt, hx⟩ := SlotTable.exists_mod_eq s.handleIndex hsize
      exact ⟨x, Or.inl ⟨hle, hlt, by omega⟩, hx⟩
    · exact ⟨s.slotSize, Or.inr ⟨hsize, by omega, by omega⟩, Nat.mod_self _⟩

/-- The search finds nothing exactly when every slot is taken, or only the slot 0 is free and it is left out. -/
theorem Good.freeHandle_eq_none (h : s.Good harbor) :
    freeHandle s.slotSize s.slot s.slotSize s.handleIndex = none ↔
      (∀ i, 0 < i → i < s.slotSize → s.slot i ≠ none) ∧ (s.slot 0 = none → s.SkipsZero) := by
  rw [HandleStorage.freeHandle_eq_none _ h.index_pos h.index_le]
  simp only [h.and_mask]
  constructor
  · refine fun hall => ⟨fun i hpos hi => ?_, fun hzero => ?_⟩
    · obtain ⟨x, hx, rfl⟩ := h.exists_tried hpos hi
      exact hall x hx
    · by_contra hskip
      obtain ⟨x, hx, hmod⟩ := h.exists_tried_zero.2 hskip
      exact hall x hx (hmod ▸ hzero)
  · rintro ⟨hall, hzero⟩ x hx hnone
    rcases Nat.eq_zero_or_pos (x % s.slotSize) with hmod | hpos
    · exact h.exists_tried_zero.1 ⟨x, hx, hmod⟩ (hzero (hmod ▸ hnone))
    · exact hall _ hpos (Nat.mod_lt _ (Nat.zero_lt_of_lt h.size_gt)) hnone

/-- A table that is full has room to grow: slot 0 has no context at the last size. -/
theorem Good.room (h : s.Good harbor) (hzero : s.slot 0 ≠ none) : s.slotSize * 2 - 1 ≤ handleMask := by
  obtain ⟨k, _, hle, hk⟩ := h.size
  obtain ⟨e, he⟩ := Option.ne_none_iff_exists'.1 hzero
  have hlt : k < 24 := by
    refine Nat.lt_of_le_of_ne hle fun hlast => (h.handles 0 e he).2 ?_
    have := h.wf 0 e he
    rwa [hk, hlast] at this
  have hpow : 2 ^ (k + 1) ≤ 2 ^ 24 := Nat.pow_le_pow_right Nat.two_pos hlt
  rw [hk, ← Nat.pow_succ, handleMask]
  omega

/-- After the table has doubled there is a free slot. -/
theorem Good.freeHandle_doubled (h : s.Good harbor) (hroom : s.slotSize * 2 - 1 ≤ handleMask) :
    freeHandle s.doubled.slotSize s.doubled.slot s.doubled.slotSize s.doubled.handleIndex ≠ none := by
  rw [ne_eq, (h.doubled hroom).freeHandle_eq_none, not_and_or]
  left
  have hsize := h.size_gt
  intro hall
  rcases SlotTable.exists_free_double s.slotSize s.slot (i := 1) (by omega) with hfree | hfree
  · exact hall 1 Nat.one_pos (show 1 < s.slotSize * 2 by omega) hfree
  · exact hall (1 + s.slotSize) (by omega) (show 1 + s.slotSize < s.slotSize * 2 by omega) hfree

/-- A full table is doubled first, so only a free slot 0 that is left out stops the program. -/
theorem Good.register_eq_none (h : s.Good harbor) (context : γ) :
    s.register context = none ↔ (∀ i, 0 < i → i < s.slotSize → s.slot i ≠ none) ∧ s.slot 0 = none ∧ s.SkipsZero := by
  rw [register, show handleRemoteShift = 22 + 1 + 1 from rfl, registerLoop]
  cases hf : freeHandle s.slotSize s.slot s.slotSize s.handleIndex with
  | some x =>
    refine iff_of_false (fun e => by cases e) fun hc => ?_
    rw [h.freeHandle_eq_none.2 ⟨hc.1, fun _ => hc.2.2⟩] at hf
    cases hf
  | none =>
    obtain ⟨hall, hskip⟩ := h.freeHandle_eq_none.1 hf
    dsimp only
    by_cases hzero : s.slot 0 = none
    · -- the handle of a context that is not there would be read
      refine iff_of_true ?_ ⟨hall, hzero, hskip hzero⟩
      rw [moveSlots_eq_none (Nat.zero_lt_of_lt h.size_gt) hzero]
      exact ite_self _
    · refine iff_of_false (fun hr => ?_) fun hc => hzero hc.2.1
      have hroom := h.room hzero
      have hfull : ∀ i < s.slotSize, s.slot i ≠ none := fun i hi => by
        rcases Nat.eq_zero_or_pos i with rfl | hpos
        · exact hzero
        · exact hall i hpos hi
      rw [if_pos hroom, h.moveSlots_full hfull] at hr
      obtain ⟨x, hx⟩ := Option.ne_none_iff_exists'.1 (h.freeHandle_doubled hroom)
      change registerLoop context (22 + 1) s.doubled = none at hr
      rw [registerLoop, hx] at hr
      cases hr

/-- After any calls, `skynet_handle_register` stops the program in these states and no other: all slots but 0 have a
context, and the search goes past the last handle, so that it leaves out the slot 0 and the context of this slot is read,
or the last table is full. -/
theorem register_stops_iff (harbor : Nat) {calls : List (HandleCall γ)} {results : List HandleResult} {s : HandleStorage γ}
    (hs : run calls (init harbor) = some (results, s)) (context : γ) :
    s.register context = none ↔
      (∀ i, 0 < i → i < s.slotSize → s.slot i ≠ none) ∧ s.slot 0 = none ∧ 2 ^ 24 < s.handleIndex + s.slotSize ∧
        (s.handleIndex < 2 ^ 24 ∨ s.slotSize = 2 ^ 24) := by
  obtain ⟨r, _, h⟩ := Refines.calls calls init_refines hs
  exact h.good.register_eq_none context

/-- A service comes and goes, `n` times, with every fourth handle. -/
def comings : Nat → Nat → List (HandleCall Nat)
  | 0, _ => []
  | n + 1, handle => .register 40 :: .retire handle :: comings n (handle + 4)

/-- The services 10, 20 and 30 have the slots 1 to 3. -/
def threeSlots : SlotTable.Slots Nat := fun i => if 0 < i ∧ i < 4 then some (i, 10 * i) else none

/-- There are the three services, and `next` is where the next handle is looked for. -/
def threeServices (next : Nat) : HandleStorage Nat :=
  { harbor := 0, handleIndex := next, slotSize := 4, slot := threeSlots, name := [] }

theorem threeSlots_ne_none {i : Nat} (hpos : 0 < i) (hlt : i < 4) : threeSlots i ≠ none := by
  rw [threeSlots, if_pos ⟨hpos, hlt⟩]
  exact fun e => by cases e

theorem and_three (x : Nat) : x &&& (4 - 1) = x % 4 := Nat.and_two_pow_sub_one_eq_mod x 2

/-- The next handle is the next multiple of four. -/
theorem freeHandle_threeSlots {next k : Nat} (hpos : 0 < next) (hle : next ≤ 4 * k) (hlt : 4 * k < next + 4)
    (hmask : 4 * k ≤ handleMask) :
    freeHandle 4 threeSlots 4 next = some (4 * k) := by
  have hnext : next ≤ 2 ^ 24 := by
    rw [handleMask] at hmask
    omega
  cases hf : freeHandle 4 threeSlots 4 next with
  | none =>
    refine absurd ?_ ((freeHandle_eq_none 4 hpos hnext).1 hf (4 * k) (Or.inl ⟨hle, hlt, hmask⟩))
    rw [and_three, Nat.mul_mod_right]
    rfl
  | some x =>
    obtain ⟨htried, hslot⟩ := freeHandle_eq_some 4 hpos hnext hf
    rw [and_three] at hslot
    have hzero : x % 4 = 0 := by
      by_contra hne
      exact threeSlots_ne_none (by omega) (Nat.mod_lt x (by decide)) hslot
    unfold Tried handleMask at htried
    rw [handleMask] at hmask
    rw [show x = 4 * k by omega]

/-- The fourth service gets the slot 0. -/
theorem register_threeServices {next k : Nat} (hpos : 0 < next) (hle : next ≤ 4 * k) (hlt : 4 * k < next + 4)
    (hmask : 4 * k ≤ handleMask) :
    (threeServices next).register 40 =
      some (4 * k, { threeServices (4 * k + 1) with slot := Function.update threeSlots 0 (some (4 * k, 40)) }) := by
  rw [register, show handleRemoteShift = 23 + 1 from rfl, registerLoop, threeServices,
    freeHandle_threeSlots hpos hle hlt hmask]
  dsimp only
  rw [Nat.or_zero, and_three, Nat.mul_mod_right]
  rfl

/-- The fourth service leaves everything as it was, but for the next handle. -/
theorem retire_fourth (k : Nat) :
    HandleStorage.retire { threeServices (4 * k + 1) with slot := Function.update threeSlots 0 (some (4 * k, 40)) } (4 * k) =
      (true, threeServices (4 * k + 1)) := by
  have hzero : 4 * k &&& (4 - 1) = 0 := (and_three _).trans (Nat.mul_mod_right 4 k)
  have hslot : Function.update (Function.update threeSlots 0 (some (4 * k, 40))) 0 none = threeSlots := by
    rw [Function.update_idem]
    exact Function.update_eq_self 0 threeSlots
  rw [retire, threeServices]
  dsimp only
  rw [hzero, Function.update_self]
  dsimp only
  rw [if_pos rfl, hslot]
  rfl

/-- One round. -/
theorem run_round {next k : Nat} (hpos : 0 < next) (hle : next ≤ 4 * k) (hlt : 4 * k < next + 4) (hmask : 4 * k ≤ handleMask)
    (calls : List (HandleCall Nat)) :
    run (.register 40 :: .retire (4 * k) :: calls) (threeServices next) =
      (run calls (threeServices (4 * k + 1))).map fun p => (.handle (4 * k) :: .done true :: p.1, p.2) := by
  rw [run, register_threeServices hpos hle hlt hmask]
  dsimp only
  rw [run, retire_fourth, Option.map_map]
  rfl

/-- By induction on the rounds: each takes the next multiple of four. -/
theorem run_comings (n : Nat) : ∀ next k : Nat, 0 < next → next ≤ 4 * k → 4 * k < next + 4 → 4 * (k + n) ≤ handleMask →
    ∃ results, run (comings (n + 1) (4 * k)) (threeServices next) = some (results, threeServices (4 * (k + n) + 1)) := by
  induction n with
  | zero =>
    intro next k hpos hle hlt hmask
    exact ⟨_, run_round hpos hle hlt hmask []⟩
  | succ n ih =>
    intro next k hpos hle hlt hmask
    obtain ⟨results, hrun⟩ := ih (4 * k + 1) (k + 1) (Nat.succ_pos _) (by omega) (by omega) (by omega)
    rw [Nat.add_right_comm, Nat.add_assoc k n 1] at hrun
    refine ⟨.handle (4 * k) :: .done true :: results, ?_⟩
    rw [comings, run_round hpos hle hlt (by omega), ← Nat.mul_succ, hrun, Option.map_some]

/-- Three services stay, and a fourth one comes and goes until the handles come to their end: the next registration leaves
out slot 0, which is free, and stops the program. -/
theorem register_stops_iff_last_handles :
    ∃ (results : List HandleResult) (s : HandleStorage Nat),
      run (.register 10 :: .register 20 :: .register 30 :: comings 0x3fffff 4) (init 0) = some (results, s) ∧
        s.register 20 = none ∧
        (s.register 20 = none ↔
          (∀ i, 0 < i → i < s.slotSize → s.slot i ≠ none) ∧ s.slot 0 = none ∧ 2 ^ 24 < s.handleIndex + s.slotSize ∧
            (s.handleIndex < 2 ^ 24 ∨ s.slotSize = 2 ^ 24)) := by
  obtain ⟨results, hrun⟩ := run_comings 0x3ffffe 4 1 (by decide) (by decide) (by decide) (by decide)
  have hslot : Function.update
    (Function.update (Function.update (fun _ => none : SlotTable.Slots Nat) 1 (some (1, 10))) 2 (some (2, 20))) 3
      (some (3, 30)) = threeSlots := by
    funext i
    rcases i with _ | _ | _ | _ | i <;> rfl
  have hthree : ∀ calls, run (.register 10 :: .register 20 :: .register 30 :: calls) (init 0) =
      (run calls (threeServices 4)).map fun p => (.handle 1 :: .handle 2 :: .handle 3 :: p.1, p.2) := by
    intro calls
    rw [threeServices, ← hslot]
    exact (Option.map_map _ _ _).trans (Option.map_map _ _ _)
  have hall : run (.register 10 :: .register 20 :: .register 30 :: comings 0x3fffff 4) (init 0) =
      some (.handle 1 :: .handle 2 :: .handle 3 :: results, threeServices 0xfffffd) := (hthree _).trans (congrArg _ hrun)
  have hiff := register_stops_iff 0 hall 20
  have hpast : 2 ^ 24 < 0xfffffd + 4 ∧ 0xfffffd < 2 ^ 24 := by decide
  exact ⟨_, _, hall, hiff.2 ⟨fun i hpos hlt => threeSlots_ne_none hpos hlt, rfl, hpast.1, Or.inl hpast.2⟩, hiff⟩

end HandleStorage

end SasyServer.Skynet
