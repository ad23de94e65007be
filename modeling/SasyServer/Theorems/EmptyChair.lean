import SasyServer.Lib.Circle
import SasyServer.Table.Frame

/-!
# Theorem: the random empty chair

The loop counts, and where it is past the last chair it goes back to the first and takes the number of the chairs from its
start. So its index is the chair that is as many steps round the table as it has counted, and it comes to each chair once.
-/

namespace SasyServer.TableFrame

variable {cfg : ServerConfig} {s : State}

/-- The start of the loop at the round `i`, before it looks whether it is past the last chair: as it
was drawn, or set back. -/
def startAt (cfg : ServerConfig) (start i : Nat) : Int :=
  if start + i ≤ cfg.chairPerTable + 1 then start else start - cfg.chairPerTable

/-- The chair that the loop looks at in the round `i`. -/
def chairAt (cfg : ServerConfig) (start i : Nat) : Int := (Circle.next 1 cfg.chairPerTable)^[i] start

/-- One round looks at the chair of the round, and goes on with the start of the next. -/
theorem emptyChairLoop_succ {start : Nat} (h2 : start ≤ cfg.chairPerTable) (rounds : Nat) {i : Nat}
    (hi : i < cfg.chairPerTable) :
    emptyChairLoop cfg s (rounds + 1) i (startAt cfg start i) =
      if isEmptyChair s (chairAt cfg start i) then some (chairAt cfg start i)
      else emptyChairLoop cfg s rounds (i + 1 : Nat) (startAt cfg start (i + 1)) := by
  have hchair : chairAt cfg start i = if startAt cfg start i + i > cfg.chairPerTable then 1
    else startAt cfg start i + i := by
    rw [chairAt, Circle.iterate_next (by omega) i (by omega), startAt]
    split_ifs <;> omega
  have hstart : startAt cfg start (i + 1) =
      if startAt cfg start i + i > cfg.chairPerTable then startAt cfg start i - cfg.chairPerTable
      else startAt cfg start i := by
    simp only [startAt]
    split_ifs <;> omega
  rw [hchair, hstart, emptyChairLoop, Int.natCast_succ]

/-- The loop finds the first empty chair of the rounds that are left, or there is none in these. -/
theorem emptyChairLoop_spec {start : Nat} (h2 : start ≤ cfg.chairPerTable) (rounds i : Nat)
    (hround : i + rounds = cfg.chairPerTable) :
    emptyChairLoop cfg s rounds i (startAt cfg start i) =
      ((List.range' i rounds).map (chairAt cfg start)).find? fun c => isEmptyChair s c := by
  induction rounds generalizing i with
  | zero => rfl
  | succ rounds ih =>
    rw [emptyChairLoop_succ h2 rounds (by omega), List.range'_succ, List.map_cons, ih (i + 1) (by omega)]
    by_cases hempty : isEmptyChair s (chairAt cfg start i) = true
    · rw [if_pos hempty, List.find?_cons_of_pos hempty]
    · rw [if_neg hempty, List.find?_cons_of_neg hempty]

theorem findRandomEmptyChairIDLoop_eq {start : Nat} (h2 : start ≤ cfg.chairPerTable) :
    findRandomEmptyChairIDLoop cfg s start =
      ((List.range cfg.chairPerTable).map (chairAt cfg start)).find? fun c => isEmptyChair s c := by
  have hstart : startAt cfg start 0 = start := if_pos (by omega)
  have hloop := emptyChairLoop_spec (s := s) h2 cfg.chairPerTable 0 (Nat.zero_add _)
  rw [hstart] at hloop
  rw [findRandomEmptyChairIDLoop, List.range_eq_range']
  exact hloop

/-- The chair that is empty, as a number. -/
theorem isEmptyChair_natCast (c : Nat) : isEmptyChair s c = true ↔ c ∉ s.chairs := by
  unfold isEmptyChair
  rw [decide_eq_true_iff, Int.toNat_natCast, or_iff_right (Int.not_lt.2 (Int.natCast_nonneg c))]

/-- The chairs that the loop looks at are those of the table. -/
theorem mem_chairs_iff {start : Nat} (h1 : 1 ≤ start) (h2 : start ≤ cfg.chairPerTable) (index : Int) :
    index ∈ (List.range cfg.chairPerTable).map (chairAt cfg start) ↔ ∃ c :
      Nat, index = c ∧ 1 ≤ c ∧ c ≤ cfg.chairPerTable := by
  rw [List.mem_map]
  constructor
  · rintro ⟨i, -, rfl⟩
    obtain ⟨hc1, hc2⟩ := @Circle.iterate_mem 1 cfg.chairPerTable start (by omega) (by omega) i
    exact ⟨(chairAt cfg start i).toNat, by rw [chairAt]; omega, by rw [chairAt]; omega, by rw [chairAt]; omega⟩
  · rintro ⟨c, rfl, hc1, hc2⟩
    obtain ⟨i, hi, hchair⟩ := @Circle.exists_iterate 1 cfg.chairPerTable start (by omega) (by omega) c (by omega) (by omega)
    exact ⟨i, List.mem_range.2 (by omega), hchair⟩

/-- The table's chairs, from the drawn one on: the loop is the search that the other operations of the
table are stated with. -/
theorem findRandomEmptyChairID_eq_loop {start : Nat} (h1 : 1 ≤ start) (h2 : start ≤ cfg.chairPerTable) :
    findRandomEmptyChairID cfg s start = (findRandomEmptyChairIDLoop cfg s start).map Int.toNat := by
  have hchair : ∀ i ∈ List.range cfg.chairPerTable, ((start - 1 + i) % cfg.chairPerTable + 1 : Nat) =
    chairAt cfg start i := by
    intro i hi
    have hlt := List.mem_range.1 hi
    rw [chairAt, Circle.iterate_next (by omega) i (by omega)]
    split_ifs with hpast
    · rw [Nat.mod_eq_of_lt (by omega)]
      omega
    · rw [Nat.mod_eq_sub_mod (by omega), Nat.mod_eq_of_lt (by omega)]
      omega
  have hempty : (fun c : Nat => decide (c ∉ s.chairs)) = (fun index => isEmptyChair s index) ∘ fun c : Nat => (c : Int) := by
    funext c
    rw [Function.comp_apply, Bool.eq_iff_iff, isEmptyChair_natCast, decide_eq_true_iff]
  have hlist : (List.range cfg.chairPerTable).map (chairAt cfg start) =
      ((List.range cfg.chairPerTable).map fun i => (start - 1 + i) % cfg.chairPerTable + 1).map
        fun c : Nat => (c : Int) := by
    rw [List.map_map]
    exact (List.map_congr_left hchair).symm
  rw [findRandomEmptyChairIDLoop_eq h2, findRandomEmptyChairID, hlist, List.find?_map (f := fun c : Nat => (c : Int)),
    Option.map_map, hempty]
  exact Option.map_id'.symm

/-- Any number of chairs, any of them taken, and any start at one of them: the chair that is returned is an empty one of the
table, and nothing is returned exactly when all are taken. -/
theorem random_empty_chair (cfg : ServerConfig) (s : State) (start : Nat) (h1 : 1 ≤ start) (h2 : start ≤ cfg.chairPerTable) :
    (∀ index, findRandomEmptyChairIDLoop cfg s start = some index →
        ∃ c : Nat, index = c ∧ 1 ≤ c ∧ c ≤ cfg.chairPerTable ∧ c ∉ s.chairs) ∧
      (findRandomEmptyChairIDLoop cfg s start = none ↔ ∀ c : Nat, 1 ≤ c → c ≤ cfg.chairPerTable → c ∈ s.chairs) := by
  rw [findRandomEmptyChairIDLoop_eq h2]
  refine ⟨fun index hfind => ?_, ?_⟩
  · obtain ⟨c, rfl, hc1, hc2⟩ := (mem_chairs_iff h1 h2 index).1 (List.mem_of_find?_eq_some hfind)
    exact ⟨c, rfl, hc1, hc2, (isEmptyChair_natCast c).1 (List.find?_some hfind)⟩
  · rw [List.find?_eq_none]
    constructor
    · intro hnone c hc1 hc2
      have hempty := hnone c ((mem_chairs_iff h1 h2 c).2 ⟨c, rfl, hc1, hc2⟩)
      rwa [isEmptyChair_natCast, not_not] at hempty
    · intro hall index hindex
      obtain ⟨c, rfl, hc1, hc2⟩ := (mem_chairs_iff h1 h2 index).1 hindex
      rw [isEmptyChair_natCast, not_not]
      exact hall c hc1 hc2

/-- A table with four chairs. -/
def fourChairs : ServerConfig := { id := 0, serverID := 1, kindID := 1, chairPerTable := 4 }

/-- All chairs but the second are taken. -/
def threeSeated : State :=
  { State.init 1 with chairs := (((∅ : AList fun _ : Nat => Nat).insert 1 7).insert 3 8).insert 4 9 }

/-- From the third chair the loop goes round to the second. -/
theorem random_empty_chair_round :
    findRandomEmptyChairIDLoop fourChairs threeSeated 3 = some 2 ∧ ∃ c :
      Nat, (2 : Int) = c ∧ 1 ≤ c ∧ c ≤ 4 ∧ c ∉ threeSeated.chairs := by
  have hloop : findRandomEmptyChairIDLoop fourChairs threeSeated 3 = some 2 := by decide +kernel
  exact ⟨hloop, (random_empty_chair fourChairs threeSeated 3 (by decide) (by decide)).1 2 hloop⟩

end SasyServer.TableFrame
