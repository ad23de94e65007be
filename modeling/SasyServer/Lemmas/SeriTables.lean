import Mathlib.Data.List.Pairwise
import Mathlib.Data.List.Perm.Basic
import SasyServer.Skynet.LuaSeri

/-!
# The tables `unpack` builds

What a receiver gets of a value (`Same`): the same value, and for a table one with the same pairs, in whatever order Lua
walks through them. `Value.WF` is what Lua promises of a value: no two entries of a table have the same key, a key is neither
nil nor a NaN nor a `double` that is an integer, and no value of an entry is nil.

The packer writes the integer keys from 1 to the length first, and the unpacker assigns all pairs one after the other. For
the entries of a table both come to the entries again, in another order (`array_perm`, `assignArray_eq`, `assignPairs_eq`).
-/

namespace SasyServer.LuaSeri

/-- A value as Lua has it. -/
inductive Value.WF : Value → Prop where
  | nil : Value.WF .nil
  | boolean (b : Bool) : Value.WF (.boolean b)
  | integer (x : BitVec 64) : Value.WF (.integer x)
  | number (x : BitVec 64) : Value.WF (.number x)
  | lightuserdata (p : BitVec 64) : Value.WF (.lightuserdata p)
  | string (s : List UInt8) : Value.WF (.string s)
  | table {rawlen : Nat} {entries : Entries} (distinct : entries.Pairwise fun p q => sameKey p.1 q.1 = false)
      (normal : ∀ p ∈ entries, p.1.isNil = false ∧ isNaNKey p.1 = false ∧ tableKey p.1 = p.1 ∧ p.2.isNil = false)
      (keys : ∀ p ∈ entries, Value.WF p.1) (values : ∀ p ∈ entries, Value.WF p.2) : Value.WF (.table rawlen entries)
  | pairsTable {pairs : Entries} (normal : ∀ p ∈ pairs, p.1.isNil = false ∧ isNaNKey p.1 = false)
      (keys : ∀ p ∈ pairs, Value.WF p.1) (values : ∀ p ∈ pairs, Value.WF p.2) : Value.WF (.pairsTable pairs)
  | unsupported (typename : String) : Value.WF (.unsupported typename)

/-- The pairs assigned one after the other. -/
def assignPairs (entries pairs : Entries) : Entries :=
  pairs.foldl (fun entries p => assign entries (tableKey p.1) p.2) entries

/-- What a receiver gets of a value. The table with `__pairs` is received as the table its iterator describes. -/
inductive Same : Value → Value → Prop where
  | nil : Same .nil .nil
  | boolean (b : Bool) : Same (.boolean b) (.boolean b)
  | integer (x : BitVec 64) : Same (.integer x) (.integer x)
  | number (x : BitVec 64) : Same (.number x) (.number x)
  | lightuserdata (p : BitVec 64) : Same (.lightuserdata p) (.lightuserdata p)
  | string (s : List UInt8) : Same (.string s) (.string s)
  | table {rawlen rawlen' : Nat} {entries order entries' : Entries} (perm : entries.Perm order)
      (keys : List.Forall₂ (fun p q => Same p.1 q.1) order entries')
        (values : List.Forall₂ (fun p q => Same p.2 q.2) order entries') :
      Same (.table rawlen entries) (.table rawlen' entries')
  | pairsTable {pairs received : Entries} {rawlen' : Nat}
      (keys : List.Forall₂ (fun p q => Same p.1 q.1) pairs received)
        (values : List.Forall₂ (fun p q => Same p.2 q.2) pairs received) :
      Same (.pairsTable pairs) (.table rawlen' (assignPairs [] received))

/-- What is received is the value itself or a new table. -/
theorem Same.eq_or_table {v w : Value} (h : Same v w) :
    w = v ∨ v.isNil = false ∧ ∃ rawlen entries, w = .table rawlen entries := by
  cases h with
  | table => exact Or.inr ⟨rfl, _, _, rfl⟩
  | pairsTable => exact Or.inr ⟨rfl, _, _, rfl⟩
  | _ => exact Or.inl rfl

theorem Same.isNil {v w : Value} (h : Same v w) : w.isNil = v.isNil := by
  rcases h.eq_or_table with rfl | ⟨hv, rawlen, entries, rfl⟩
  · rfl
  · rw [hv]
    rfl

/-! ## Keys -/

theorem sameKey_integer {k : Value} {x : BitVec 64} : sameKey k (.integer x) = true ↔ k = .integer x := by
  cases k with
  | integer y => rw [sameKey, beq_iff_eq, Value.integer.injEq]
  | _ => exact ⟨fun h => (nomatch h), fun h => (nomatch h)⟩

theorem sameKey_table_left (rawlen : Nat) (entries : Entries) (k : Value) : sameKey (.table rawlen entries) k = false := by
  cases k <;> rfl

theorem sameKey_table_right (rawlen : Nat) (entries : Entries) (k : Value) : sameKey k (.table rawlen entries) = false := by
  cases k <;> rfl

theorem sameKey_symm (k l : Value) : sameKey k l = sameKey l k := by
  cases k <;> cases l <;> first | rfl | exact Bool.beq_comm

/-- The keys that are received are not the same where those that were sent are not. -/
theorem Same.sameKey {k k' l l' : Value} (hk : Same k k') (hl : Same l l') (h : sameKey k l = false) :
    LuaSeri.sameKey k' l' = false := by
  rcases hk.eq_or_table with rfl | ⟨_, rawlen, entries, rfl⟩
  · rcases hl.eq_or_table with rfl | ⟨_, rawlen, entries, rfl⟩
    · exact h
    · exact sameKey_table_right _ _ _
  · exact sameKey_table_left _ _ _

/-- A key that is sent arrives as one a table can have. -/
theorem Same.isNaNKey {k k' : Value} (hk : Same k k') (h : isNaNKey k = false) : LuaSeri.isNaNKey k' = false := by
  rcases hk.eq_or_table with rfl | ⟨_, rawlen, entries, rfl⟩
  · exact h
  · rfl

theorem Same.tableKey {k k' : Value} (hk : Same k k') (h : tableKey k = k) : LuaSeri.tableKey k' = k' := by
  rcases hk.eq_or_table with rfl | ⟨_, rawlen, entries, rfl⟩
  · exact h
  · rfl

/-! ## Assignments to new keys -/

/-- None of the entries has the key. -/
def Fresh (entries : Entries) (k : Value) : Prop := ∀ p ∈ entries, sameKey p.1 k = false

/-- A new key is added at the end; a nil is not stored. -/
theorem assign_fresh {entries : Entries} {k v : Value} (h : Fresh entries k) :
    assign entries k v = if v.isNil then entries else entries ++ [(k, v)] := by
  unfold assign
  by_cases hv : v.isNil = true
  · rw [if_pos hv, if_pos hv]
    exact List.filter_eq_self.2 fun p hp => by rw [h p hp]; rfl
  · rw [if_neg hv, if_neg hv, if_neg]
    rw [List.any_eq_true]
    rintro ⟨p, hp, hk⟩
    rw [h p hp] at hk
    cases hk

/-- The array part of a table: the values for the keys from `i` on, without the nils. -/
def arrayEntries : Nat → List Value → Entries
  | _, [] => []
  | i, v :: vs => if v.isNil then arrayEntries (i + 1) vs else (.integer (BitVec.ofNat 64 i), v) :: arrayEntries (i + 1) vs

/-- The first loop of `unpack_table`. -/
def assignArray : Nat → Entries → List Value → Entries
  | _, entries, [] => entries
  | i, entries, v :: vs => assignArray (i + 1) (assign entries (.integer (BitVec.ofNat 64 i)) v) vs

theorem integer_ne {i j : Nat} (hi : i < 2 ^ 64) (hj : j < 2 ^ 64) (h : i ≠ j) :
    sameKey (.integer (BitVec.ofNat 64 i)) (.integer (BitVec.ofNat 64 j)) = false := by
  rw [← Bool.not_eq_true, sameKey_integer, Value.integer.injEq]
  intro he
  have hnat := congrArg BitVec.toNat he
  rw [BitVec.toNat_ofNat, BitVec.toNat_ofNat, Nat.mod_eq_of_lt hi, Nat.mod_eq_of_lt hj] at hnat
  exact h hnat

/-- The first value has the number `i`, if it is not nil. -/
theorem mem_arrayEntries_cons {i : Nat} {v : Value} {vs : List Value} {p : Value × Value} :
    p ∈ arrayEntries i (v :: vs) ↔ p = (.integer (BitVec.ofNat 64 i), v) ∧ v.isNil = false ∨
      p ∈ arrayEntries (i + 1) vs := by
  rw [arrayEntries]
  by_cases hv : v.isNil = true
  · rw [if_pos hv]
    constructor
    · exact Or.inr
    · rintro (⟨_, hnil⟩ | h)
      · rw [hv] at hnil
        cases hnil
      · exact h
  · rw [if_neg hv, List.mem_cons]
    constructor
    · rintro (rfl | h)
      · exact Or.inl ⟨rfl, Bool.eq_false_iff.2 hv⟩
      · exact Or.inr h
    · rintro (⟨hp, _⟩ | h)
      · exact Or.inl hp
      · exact Or.inr h

/-- The entries of an array part are the numbers from `i` on with the values that are not nil. -/
theorem mem_arrayEntries {i : Nat} {vs : List Value} {p : Value × Value} :
    p ∈ arrayEntries i vs ↔ ∃ j, ∃ h :
      j < vs.length, p = (.integer (BitVec.ofNat 64 (i + j)), vs[j]) ∧ vs[j].isNil = false := by
  induction vs generalizing i with
  | nil =>
    constructor
    · exact fun h => absurd h List.not_mem_nil
    · rintro ⟨j, hj, _⟩
      exact absurd hj (Nat.not_lt_zero j)
  | cons v vs ih =>
    have hkey : ∀ j, i + 1 + j = i + (j + 1) := fun j => by rw [Nat.add_right_comm, Nat.add_assoc]
    rw [mem_arrayEntries_cons, ih]
    constructor
    · rintro (⟨hp, hnil⟩ | ⟨j, hj, hp, hnil⟩)
      · exact ⟨0, Nat.succ_pos _, hp, hnil⟩
      · rw [hkey] at hp
        exact ⟨j + 1, Nat.succ_lt_succ hj, hp, hnil⟩
    · rintro ⟨j, hj, hp, hnil⟩
      cases j with
      | zero => exact Or.inl ⟨hp, hnil⟩
      | succ j =>
        rw [← hkey] at hp
        exact Or.inr ⟨j, Nat.lt_of_succ_lt_succ hj, hp, hnil⟩

/-- The array part gets the keys from `i` on. -/
theorem assignArray_eq {vs : List Value} : ∀ {i : Nat} {entries : Entries}, i + vs.length < 2 ^ 64 →
    (∀ j, i ≤ j → j < 2 ^ 64 → Fresh entries (.integer (BitVec.ofNat 64 j))) →
    assignArray i entries vs = entries ++ arrayEntries i vs := by
  induction vs with
  | nil =>
    intro i entries _ _
    exact (List.append_nil _).symm
  | cons v vs ih =>
    intro i entries hlen hfresh
    rw [List.length_cons] at hlen
    have hassign := assign_fresh (v := v) (hfresh i (Nat.le_refl i) (by omega))
    rw [assignArray, arrayEntries, hassign]
    by_cases hv : v.isNil = true
    · rw [if_pos hv, if_pos hv]
      exact ih (by omega) fun j hj => hfresh j (by omega)
    · rw [if_neg hv, if_neg hv, ih (by omega), List.append_assoc]
      · rfl
      · intro j hj hlt p hp
        rcases List.mem_append.1 hp with hp | hp
        · exact hfresh j (by omega) hlt p hp
        · rw [List.mem_singleton.1 hp]
          exact integer_ne (by omega) hlt (by omega)

/-- Pairs with new keys are added at the end. -/
theorem assignPairs_eq {pairs : Entries} : ∀ {entries : Entries}, (∀ p ∈ pairs, Fresh entries p.1) →
    pairs.Pairwise (fun p q => sameKey p.1 q.1 = false) → (∀ p ∈ pairs, tableKey p.1 = p.1 ∧ p.2.isNil = false) →
    assignPairs entries pairs = entries ++ pairs := by
  induction pairs with
  | nil =>
    intro entries _ _ _
    exact (List.append_nil _).symm
  | cons p pairs ih =>
    intro entries hfresh hdistinct hnormal
    obtain ⟨hp, hdistinct⟩ := List.pairwise_cons.1 hdistinct
    obtain ⟨hkey, hnil⟩ := hnormal p List.mem_cons_self
    have hassign : assign entries (tableKey p.1) p.2 = entries ++ [p] := by
      rw [hkey, assign_fresh (hfresh p List.mem_cons_self), hnil]
      rfl
    have hrest : assignPairs (entries ++ [p]) pairs = entries ++ [p] ++ pairs := by
      refine ih (fun q hq => ?_) hdistinct fun q hq => hnormal q (List.mem_cons_of_mem _ hq)
      intro r hr
      rcases List.mem_append.1 hr with hr | hr
      · exact hfresh q (List.mem_cons_of_mem _ hq) r hr
      · rw [List.mem_singleton.1 hr]
        exact hp q hq
    rw [assignPairs, List.foldl_cons, hassign]
    exact hrest.trans (List.append_assoc _ _ _)

/-! ## The array part of a table -/

/-- What the table gives for a number that is one of its keys. -/
theorem rawgeti_eq {entries : Entries} (h : entries.Pairwise fun p q => sameKey p.1 q.1 = false) {p : Value × Value}
    (hp : p ∈ entries) {i : Nat} (hk : p.1 = .integer (BitVec.ofNat 64 i)) :
    rawgeti entries i = p.2 := by
  unfold rawgeti
  have hsome : (entries.find? fun q => sameKey q.1 (.integer (BitVec.ofNat 64 i))).isSome = true :=
    List.find?_isSome.2 ⟨p, hp, sameKey_integer.2 hk⟩
  obtain ⟨q, hq⟩ := Option.isSome_iff_exists.1 hsome
  rw [hq]
  dsimp only
  have hfound := List.find?_some hq
  have hkq : q.1 = .integer (BitVec.ofNat 64 i) := sameKey_integer.1 hfound
  by_contra hne
  have hpq : p ≠ q := fun he => hne (he ▸ rfl)
  have hR : Std.Symm fun x y : Value × Value => sameKey x.1 y.1 = false := ⟨fun x y hxy => sameKey_symm y.1 x.1 ▸ hxy⟩
  have hfalse := h.forall hp (List.mem_of_find?_eq_some hq) hpq
  rw [hk, hkq, sameKey_integer.2 rfl] at hfalse
  cases hfalse

/-- What `rawgeti` finds is in the table. -/
theorem rawgeti_mem {entries : Entries} {i : Nat} (h : (rawgeti entries i).isNil = false) :
    (.integer (BitVec.ofNat 64 i), rawgeti entries i) ∈ entries := by
  unfold rawgeti at h ⊢
  cases hf : entries.find? fun q => sameKey q.1 (.integer (BitVec.ofNat 64 i)) with
  | none =>
    rw [hf] at h
    cases h
  | some p =>
    have hfound := List.find?_some hf
    have hk : p.1 = .integer (BitVec.ofNat 64 i) := sameKey_integer.1 hfound
    rw [← hk]
    exact List.mem_of_find?_eq_some hf

/-- The key of an array element. -/
theorem arrayKey_ofNat {i n : Nat} (hi : 0 < i) (hn : i ≤ n) (hlt : n < 2 ^ 63) :
    arrayKey n (.integer (BitVec.ofNat 64 i)) = true := by
  have hint : (BitVec.ofNat 64 i).toInt = i := by
    rw [BitVec.toInt_ofNat', Int.bmod_def]
    omega
  rw [arrayKey, hint, Bool.and_eq_true, decide_eq_true_eq, decide_eq_true_eq]
  omega

/-- The keys of the array part are the numbers from 1 up to its length. -/
theorem exists_of_arrayKey {n : Nat} {k : Value} (h : arrayKey n k = true) :
    ∃ i, 0 < i ∧ i ≤ n ∧ k = .integer (BitVec.ofNat 64 i) := by
  cases k with
  | integer x =>
    rw [arrayKey, Bool.and_eq_true, decide_eq_true_eq, decide_eq_true_eq] at h
    refine ⟨x.toInt.toNat, by omega, by omega, ?_⟩
    rw [Value.integer.injEq]
    apply BitVec.eq_of_toInt_eq
    rw [BitVec.toInt_ofNat', Int.bmod_def]
    have hlt := x.toInt_lt
    omega
  | _ => cases h

/-- The elements `wb_table_array` goes through. -/
def arrayValues (n : Nat) (entries : Entries) : List Value := (List.range' 1 n).map (rawgeti entries)

/-- The array part that is written has the entries of the table with the numbers from 1 up to its length. -/
theorem mem_arrayEntries_arrayValues {n : Nat} {entries : Entries} {p : Value × Value} :
    p ∈ arrayEntries 1 (arrayValues n entries) ↔
      ∃ i, 0 < i ∧ i ≤ n ∧ p = (.integer (BitVec.ofNat 64 i), rawgeti entries i) ∧ (rawgeti entries i).isNil = false := by
  have hlen : (arrayValues n entries).length = n := by rw [arrayValues, List.length_map, List.length_range']
  have hget : ∀ j (h : j < (arrayValues n entries).length), (arrayValues n entries)[j] = rawgeti entries (1 + j) :=
    fun j h => by
    simp only [arrayValues, List.getElem_map, List.getElem_range', Nat.one_mul]
  rw [mem_arrayEntries]
  constructor
  · rintro ⟨j, hj, hp, hnil⟩
    rw [hget j hj] at hp hnil
    exact ⟨1 + j, by omega, by omega, hp, hnil⟩
  · rintro ⟨i, hpos, hle, hp, hnil⟩
    obtain ⟨j, rfl⟩ := Nat.exists_eq_add_of_le hpos
    have hj : j < (arrayValues n entries).length := by omega
    refine ⟨j, hj, ?_⟩
    rw [hget j hj]
    exact ⟨hp, hnil⟩

/-- The numbers of an array part are different as long as they do not overflow. -/
theorem nodup_arrayEntries {vs : List Value} : ∀ {i : Nat}, i + vs.length < 2 ^ 64 → (arrayEntries i vs).Nodup := by
  induction vs with
  | nil => exact fun _ => List.nodup_nil
  | cons v vs ih =>
    intro i hlen
    rw [List.length_cons] at hlen
    rw [arrayEntries]
    split
    · exact ih (by omega)
    · refine List.nodup_cons.2 ⟨fun hmem => ?_, ih (by omega)⟩
      obtain ⟨j, hj, hp, _⟩ := mem_arrayEntries.1 hmem
      have hne := integer_ne (i := i) (j := i + 1 + j) (by omega) (by omega) (by omega)
      rw [← (Prod.mk.inj hp).1, sameKey_integer.2 rfl] at hne
      cases hne

/-- The elements of the array are the entries whose keys they are. -/
theorem array_perm {n : Nat} {entries : Entries} (h : entries.Pairwise fun p q => sameKey p.1 q.1 = false)
    (hnil : ∀ p ∈ entries, p.2.isNil = false) (hlt : n < 2 ^ 63) :
    entries.Perm (arrayEntries 1 (arrayValues n entries) ++ entries.filter fun p => !arrayKey n p.1) := by
  have hlen : (arrayValues n entries).length = n := by rw [arrayValues, List.length_map, List.length_range']
  have hnodup : (entries.filter fun p => arrayKey n p.1).Nodup := by
    refine (h.filter _).imp_of_mem fun {p q} hp _ hpq he => ?_
    obtain ⟨i, _, _, hk⟩ := exists_of_arrayKey (List.mem_filter.1 hp).2
    rw [← he, hk, sameKey_integer.2 rfl] at hpq
    cases hpq
  have hperm : (entries.filter fun p => arrayKey n p.1).Perm (arrayEntries 1 (arrayValues n entries)) := by
    refine (List.perm_ext_iff_of_nodup hnodup (nodup_arrayEntries (by omega))).2 fun p => ?_
    rw [List.mem_filter, mem_arrayEntries_arrayValues]
    constructor
    · rintro ⟨hp, hkey⟩
      obtain ⟨i, hpos, hle, hk⟩ := exists_of_arrayKey hkey
      have hget := rawgeti_eq h hp hk
      exact ⟨i, hpos, hle, by rw [hget, ← hk], by rw [hget]; exact hnil p hp⟩
    · rintro ⟨i, hpos, hle, rfl, hi⟩
      exact ⟨rawgeti_mem hi, arrayKey_ofNat hpos hle hlt⟩
  exact (List.filter_append_perm (fun p => arrayKey n p.1) entries).symm.trans (hperm.append_right _)

end SasyServer.LuaSeri
