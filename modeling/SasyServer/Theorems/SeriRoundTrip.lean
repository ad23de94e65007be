import SasyServer.Lemmas.SeriBytes
import SasyServer.Lemmas.SeriTables

/-!
# `unpack` after `pack`

What `luaseri_pack` writes for values is read back by `luaseri_unpack` as the same values, tables with the same pairs. The
induction is on the depth `packOne` has left: what it writes for a value, the bytes `unpackOne` takes for what is received,
whatever follows (`packOne_spec`).
-/

namespace SasyServer.LuaSeri

variable {border : Entries → Nat}

/-- What a writer of values does: bytes that are read as what is received, when an `int` holds their number. -/
def Sends (border : Entries → Nat) (one : Value → WriteBlock → Except String WriteBlock) : Prop :=
  ∀ v b b', one v b = .ok b' → v.WF →
    ∃ bytes, Appends b b' bytes ∧ (bytes.length < 2 ^ 31 → ∃ w, Same v w ∧ Reads border w bytes)

/-- Values one after the other are read one after the other. -/
def ReadsEach (border : Entries → Nat) (ws : List Value) (bytes : List UInt8) : Prop :=
  ∃ bss : List (List UInt8), bytes = bss.flatten ∧ List.Forall₂ (Reads border) ws bss

theorem ReadsEach.nil : ReadsEach border [] [] := ⟨[], rfl, .nil⟩

theorem ReadsEach.cons {w : Value} {ws : List Value} {bs bytes : List UInt8} (h : Reads border w bs)
    (hs : ReadsEach border ws bytes) :
    ReadsEach border (w :: ws) (bs ++ bytes) := by
  obtain ⟨bss, rfl, hreads⟩ := hs
  exact ⟨bs :: bss, rfl, .cons h hreads⟩

/-- The bytes of the first value. -/
theorem ReadsEach.uncons {w : Value} {ws : List Value} {bytes : List UInt8} (h : ReadsEach border (w :: ws) bytes) :
    ∃ bs rest, bytes = bs ++ rest ∧ Reads border w bs ∧ ReadsEach border ws rest := by
  obtain ⟨bss, rfl, hreads⟩ := h
  cases hreads with
  | @cons _ bs _ bss hw hws => exact ⟨bs, bss.flatten, rfl, hw, bss, rfl, hws⟩

theorem ReadsEach.eq_nil {bytes : List UInt8} (h : ReadsEach border [] bytes) : bytes = [] := by
  obtain ⟨bss, rfl, hreads⟩ := h
  cases hreads
  rfl

/-- Values that are read have at least one byte each. -/
theorem ReadsEach.length_le {ws : List Value} :
    ∀ {bytes : List UInt8}, ReadsEach border ws bytes → ws.length ≤ bytes.length := by
  induction ws with
  | nil => exact fun _ => Nat.zero_le _
  | cons w ws ih =>
    intro bytes h
    obtain ⟨bs, rest, rfl, hw, hws⟩ := h.uncons
    have hpos := hw.pos
    have hle := ih hws
    rw [List.length_cons, List.length_append]
    omega

/-- A list of values is written one after the other, and read so. -/
theorem packEach_spec {one : Value → WriteBlock → Except String WriteBlock} (hone : Sends border one) (vs : List Value) :
    ∀ b b', packEach one vs b = .ok b' → (∀ v ∈ vs, v.WF) →
      ∃ bytes, Appends b b' bytes ∧ (bytes.length < 2 ^ 31 → ∃ ws, List.Forall₂ Same vs ws ∧ ReadsEach border ws bytes) := by
  induction vs with
  | nil =>
    intro b b' h _
    obtain rfl := Except.ok.inj h
    exact ⟨[], Appends.refl b, fun _ => ⟨[], .nil, .nil⟩⟩
  | cons v vs ih =>
    intro b b' h hwf
    rw [packEach] at h
    cases hv : one v b with
    | error e =>
      rw [hv] at h
      cases h
    | ok b₁ =>
      rw [hv] at h
      obtain ⟨bs, happ, hread⟩ := hone v b b₁ hv (hwf v List.mem_cons_self)
      obtain ⟨bytes, happs, hreads⟩ := ih b₁ b' h fun v hv => hwf v (List.mem_cons_of_mem _ hv)
      refine ⟨bs ++ bytes, happ.trans happs, fun hlen => ?_⟩
      rw [List.length_append] at hlen
      obtain ⟨w, hsame, hw⟩ := hread (by omega)
      obtain ⟨ws, hsames, hws⟩ := hreads (by omega)
      exact ⟨w :: ws, .cons hsame hsames, .cons hw hws⟩

/-! ## The two loops of `unpack_table` -/

/-- The loop over the array part reads what was written for it, and assigns it to the numbers from `i` on. -/
theorem unpackArray_reads {ws : List Value} : ∀ {bytes : List UInt8}, ReadsEach border ws bytes →
    ∀ fuel i entries rest, bytes.length < fuel →
      unpackArray (unpackOne border fuel) ws.length i entries (bytes ++ rest) = .ok (assignArray i entries ws, rest) := by
  induction ws with
  | nil =>
    intro bytes h _ _ _ _ _
    rw [h.eq_nil]
    rfl
  | cons w ws ih =>
    intro bytes h fuel i entries rest hfuel
    obtain ⟨bs, bytes, rfl, hw, hws⟩ := h.uncons
    rw [List.length_append] at hfuel
    rw [List.length_cons, unpackArray, List.append_assoc, hw fuel _ (by omega)]
    exact ih hws fuel (i + 1) _ rest (by omega)

/-- A key and its value in the stream. -/
def flatPairs (pairs : Entries) : List Value := pairs.flatMap fun p => [p.1, p.2]

/-- The loop over the other pairs reads each key with its value, up to the nil behind them. -/
theorem unpackHash_reads {pairs : Entries} : ∀ {bytes : List UInt8}, ReadsEach border (flatPairs pairs) bytes →
    (∀ p ∈ pairs, p.1.isNil = false ∧ isNaNKey p.1 = false) →
    ∀ fuel turns entries rest, bytes.length + 1 < fuel → bytes.length < turns →
      unpackHash (unpackOne border fuel) turns entries (bytes ++ (UInt8.ofNat typeNil :: rest)) =
        .ok (assignPairs entries pairs, rest) := by
  induction pairs with
  | nil =>
    intro bytes h _ fuel turns entries rest hfuel hturns
    rw [h.eq_nil] at hfuel hturns ⊢
    obtain ⟨turns, rfl⟩ := Nat.exists_eq_add_of_lt hturns
    have hnil : unpackOne border fuel (UInt8.ofNat typeNil :: rest) = .ok (.nil, rest) := reads_nil fuel rest hfuel
    rw [List.nil_append, unpackHash, hnil]
    rfl
  | cons p pairs ih =>
    intro bytes h hkeys fuel turns entries rest hfuel hturns
    rw [flatPairs, List.flatMap_cons, List.cons_append, List.cons_append, List.nil_append] at h
    obtain ⟨key, _, rfl, hkey, h⟩ := h.uncons
    obtain ⟨value, bytes, rfl, hvalue, h⟩ := h.uncons
    obtain ⟨hnil, hnan⟩ := hkeys p List.mem_cons_self
    have hpos := hkey.pos
    rw [List.length_append, List.length_append] at hfuel hturns
    obtain ⟨turns, rfl⟩ := Nat.exists_eq_add_of_lt (Nat.zero_lt_of_lt hturns)
    rw [Nat.zero_add] at hturns ⊢
    rw [List.append_assoc, List.append_assoc, unpackHash, hkey fuel _ (by omega)]
    dsimp only
    rw [hnil, if_neg Bool.false_ne_true, hvalue fuel _ (by omega)]
    dsimp only
    rw [rawset, hnan, if_neg Bool.false_ne_true]
    exact ih h (fun q hq => hkeys q (List.mem_cons_of_mem _ hq)) fuel turns _ rest (by omega) (by omega)

/-! ## The length of the array -/

theorem unpackArraySize_cookie {cookie : Nat} (h : cookie < maxCookie - 1) (rest : List UInt8) :
    unpackArraySize cookie rest = .ok ((cookie : Int), rest) := by
  rw [unpackArraySize, if_neg (Nat.ne_of_lt h)]

/-- The length of an array in the head of a table. -/
theorem wbTableHead_spec (wb : WriteBlock) (n : Nat) :
    ∃ cookie head, cookie < 32 ∧ Appends wb (wbTableHead wb n) (combineType typeTable cookie :: head) ∧
      (n < 2 ^ 31 → ∀ rest, unpackArraySize cookie (head ++ rest) = .ok ((n : Int), rest)) := by
  unfold wbTableHead
  by_cases hlong : n ≥ maxCookie - 1
  · rw [if_pos hlong]
    obtain ⟨cookie, bytes, hcookie, _, happ, hget⟩ :=
      wbInteger_spec (wbPush wb [combineType typeTable (maxCookie - 1)]) (BitVec.ofNat 64 n)
    refine ⟨maxCookie - 1, combineType typeNumber cookie :: bytes,
      by decide, (appends_push wb _).trans happ, fun hn rest => ?_⟩
    have hread : readAs 440 (combineType typeNumber cookie :: (bytes ++ rest)) 1 LittleEndian.value =
        .ok ((combineType typeNumber cookie).toNat, bytes ++ rest) :=
      readAs_append 440 (show [combineType typeNumber cookie].length = 1 from rfl) _ _
    have hint : ((BitVec.ofNat 64 n).setWidth 32).toInt = n := by
      rw [BitVec.toInt_eq_toNat_bmod, BitVec.toNat_setWidth, BitVec.toNat_ofNat, Int.bmod_def]
      omega
    have htype : (combineType typeNumber cookie).toNat = typeNumber + 8 * cookie := toNat_combineType (by decide) (by omega)
    rw [unpackArraySize, if_pos rfl, List.cons_append, hread]
    dsimp only
    rw [htype, show (typeNumber + 8 * cookie) % 8 = typeNumber by rw [typeNumber]; omega,
      show (typeNumber + 8 * cookie) / 8 = cookie by rw [typeNumber]; omega, if_neg (by rw [typeNumberReal]; omega), hget]
    dsimp only
    rw [hint]
  · rw [if_neg hlong]
    refine ⟨n, [], Nat.lt_trans (Nat.not_le.1 hlong) (by decide), appends_push wb _, fun _ rest => ?_⟩
    exact unpackArraySize_cookie (Nat.not_le.1 hlong) rest

/-! ## Pairs -/

/-- What is received for keys and values in turn are pairs again. -/
theorem forall₂_flatPairs {pairs : Entries} : ∀ {ws : List Value}, List.Forall₂ Same (flatPairs pairs) ws →
    ∃ received, ws = flatPairs received ∧ List.Forall₂ (fun p q => Same p.1 q.1) pairs received ∧
      List.Forall₂ (fun p q => Same p.2 q.2) pairs received := by
  induction pairs with
  | nil =>
    intro ws h
    cases h
    exact ⟨[], rfl, .nil, .nil⟩
  | cons p pairs ih =>
    intro ws h
    rw [flatPairs, List.flatMap_cons, List.cons_append, List.cons_append, List.nil_append] at h
    cases h with
    | @cons _ k _ ws hkey h =>
    cases h with
    | @cons _ v _ ws hvalue h =>
    obtain ⟨received, rfl, hkeys, hvalues⟩ := ih h
    exact ⟨(k, v) :: received, rfl, .cons hkey hkeys, .cons hvalue hvalues⟩

/-- A property of the keys and the values is one of the values in the order in which they are written. -/
theorem forall_flatPairs {P : Value → Prop} {pairs : Entries} (hk : ∀ p ∈ pairs, P p.1) (hv : ∀ p ∈ pairs, P p.2) :
    ∀ v ∈ flatPairs pairs, P v := by
  intro v hmem
  obtain ⟨p, hp, hvp⟩ := List.mem_flatMap.1 hmem
  rcases List.mem_cons.1 hvp with rfl | hvp
  · exact hk p hp
  · rw [List.mem_singleton.1 hvp]
    exact hv p hp

/-- What holds of everything that is sent passes to what is received. -/
theorem forall₂_right {α β : Type} {R : α → β → Prop} {P : α → Prop} {Q : β → Prop}
    (hPQ : ∀ x y, R x y → P x → Q y) {l : List α} {l' : List β} (h : List.Forall₂ R l l') (hP : ∀ x ∈ l, P x) :
    ∀ y ∈ l', Q y := by
  induction h with
  | nil => exact fun y hy => absurd hy List.not_mem_nil
  | cons hxy _ ih =>
    intro y hy
    rcases List.mem_cons.1 hy with rfl | hy
    · exact hPQ _ _ hxy (hP _ List.mem_cons_self)
    · exact ih (fun x hx => hP x (List.mem_cons_of_mem _ hx)) y hy

/-- The pairs as they are written: key and value, and a nil at the end. -/
theorem wbPairs_spec {one : Value → WriteBlock → Except String WriteBlock} (hone : Sends border one) {wb wb' : WriteBlock}
    {pairs : Entries} (h : wbPairs one wb pairs = .ok wb') (hkeys : ∀ p ∈ pairs, p.1.WF)
    (hvalues : ∀ p ∈ pairs, p.2.WF) (hnormal : ∀ p ∈ pairs, p.1.isNil = false ∧ isNaNKey p.1 = false) :
    ∃ bytes, Appends wb wb' (bytes ++ [UInt8.ofNat typeNil]) ∧
      (bytes.length < 2 ^ 31 → ∃ received, List.Forall₂ (fun p q => Same p.1 q.1) pairs received ∧
        List.Forall₂ (fun p q => Same p.2 q.2) pairs received ∧
        ∀ fuel turns entries rest, bytes.length + 1 < fuel → bytes.length < turns →
          unpackHash (unpackOne border fuel) turns entries (bytes ++ (UInt8.ofNat typeNil :: rest)) =
            .ok (assignPairs entries received, rest)) := by
  unfold wbPairs at h
  cases hpack : packEach one (pairs.flatMap fun p => [p.1, p.2]) wb with
  | error e =>
    rw [hpack] at h
    cases h
  | ok wb₁ =>
    rw [hpack] at h
    obtain rfl := Except.ok.inj h
    obtain ⟨bytes, happ, hread⟩ := packEach_spec hone _ _ _ hpack (forall_flatPairs hkeys hvalues)
    refine ⟨bytes, happ.trans (appends_nil wb₁), fun hlen => ?_⟩
    obtain ⟨ws, hsame, hreads⟩ := hread hlen
    obtain ⟨received, rfl, hk, hv⟩ := forall₂_flatPairs hsame
    have hreceived : ∀ q ∈ received, q.1.isNil = false ∧ isNaNKey q.1 = false :=
      forall₂_right (fun p q hs hpk => ⟨hs.isNil.trans hpk.1, hs.isNaNKey hpk.2⟩) hk hnormal
    exact ⟨received, hk, hv, unpackHash_reads hreads hreceived⟩

/-! ## Tables -/

/-- The array parts of a table and of what is received for it have the same numbers and the same values. -/
theorem forall₂_arrayEntries {vs ws : List Value} (h : List.Forall₂ Same vs ws) : ∀ i,
    List.Forall₂ (fun p q => Same p.1 q.1) (arrayEntries i vs) (arrayEntries i ws) ∧
      List.Forall₂ (fun p q => Same p.2 q.2) (arrayEntries i vs) (arrayEntries i ws) := by
  induction h with
  | nil => exact fun _ => ⟨.nil, .nil⟩
  | cons hvw _ ih =>
    intro i
    obtain ⟨hkeys, hvalues⟩ := ih (i + 1)
    rw [arrayEntries, arrayEntries, hvw.isNil]
    split
    · exact ⟨hkeys, hvalues⟩
    · exact ⟨.cons (.integer _) hkeys, .cons hvw hvalues⟩

/-- Keys that are different are received as different keys. -/
theorem pairwise_received {pairs received : Entries} (h : List.Forall₂ (fun p q => Same p.1 q.1) pairs received)
    (hd : pairs.Pairwise fun p q => sameKey p.1 q.1 = false) : received.Pairwise fun p q => sameKey p.1 q.1 = false := by
  induction h with
  | nil => exact .nil
  | @cons p q _ _ hpq hrest ih =>
    obtain ⟨hp, hd⟩ := List.pairwise_cons.1 hd
    refine List.pairwise_cons.2 ⟨?_, ih hd⟩
    exact forall₂_right (P := fun r : Value × Value => sameKey p.1 r.1 = false) (fun _ _ hs hk => hpq.sameKey hs hk) hrest hp

theorem rawgeti_wf {entries : Entries} (h : ∀ p ∈ entries, p.2.WF) (i : Nat) : (rawgeti entries i).WF := by
  unfold rawgeti
  split
  · exact h _ (List.mem_of_find?_eq_some ‹_›)
  · exact .nil

/-- The entries that are assigned are those of the table. -/
theorem received_eq {n : Nat} {entries received : Entries} {ws : List Value} (hn : n < 2 ^ 63)
    (hdistinct : entries.Pairwise fun p q => sameKey p.1 q.1 = false)
    (hnormal : ∀ p ∈ entries, p.1.isNil = false ∧ isNaNKey p.1 = false ∧ tableKey p.1 = p.1 ∧ p.2.isNil = false)
    (hws : List.Forall₂ Same (arrayValues n entries) ws)
    (hkeys : List.Forall₂ (fun p q => Same p.1 q.1) (entries.filter fun p => !arrayKey n p.1) received)
    (hvalues : List.Forall₂ (fun p q => Same p.2 q.2) (entries.filter fun p => !arrayKey n p.1) received) :
    assignPairs (assignArray 1 [] ws) received = arrayEntries 1 ws ++ received := by
  have hlen : ws.length = n := by rw [← hws.length_eq, arrayValues, List.length_map, List.length_range']
  rw [assignArray_eq (by omega) fun _ _ _ p hp => absurd hp List.not_mem_nil, List.nil_append]
  refine assignPairs_eq ?_ (pairwise_received hkeys (hdistinct.filter _)) ?_
  · -- a key that is passed over in the array is none of the array's
    have hpassed : ∀ p ∈ entries.filter (fun p => !arrayKey n p.1), arrayKey n p.1 = false := fun p hp =>
      Bool.not_eq_eq_eq_not.1 (List.mem_filter.1 hp).2
    refine forall₂_right (fun p q hs hk r hr => ?_) hkeys hpassed
    obtain ⟨j, hj, rfl, _⟩ := mem_arrayEntries.1 hr
    have hkey : arrayKey n (.integer (BitVec.ofNat 64 (1 + j))) = true := arrayKey_ofNat (by omega) (by omega) hn
    rw [sameKey_symm, ← Bool.not_eq_true, sameKey_integer]
    intro hq
    rw [hq] at hs
    rcases hs.eq_or_table with he | ⟨_, _, _, he⟩
    · rw [← he, hkey] at hk
      cases hk
    · cases he
  · have hfilter : ∀ p ∈ entries.filter (fun p => !arrayKey n p.1), p ∈ entries := fun p hp => (List.mem_filter.1 hp).1
    intro q hq
    refine ⟨?_, ?_⟩
    · exact forall₂_right (fun p q hs hk => hs.tableKey hk) hkeys (fun p hp => (hnormal p (hfilter p hp)).2.2.1) q hq
    · exact forall₂_right (fun p q hs hv => hs.isNil.trans hv) hvalues (fun p hp => (hnormal p (hfilter p hp)).2.2.2) q hq

/-- The bytes of a table, and what is read from them. -/
theorem reads_table {cookie : Nat} {head array bytes : List UInt8} {ws : List Value} {received : Entries}
    (hcookie : cookie < 32) (hsize : ∀ rest, unpackArraySize cookie (head ++ rest) = .ok ((ws.length : Int), rest))
    (hws : ReadsEach border ws array)
    (hpairs : ∀ fuel turns entries rest, bytes.length + 1 < fuel → bytes.length < turns →
      unpackHash (unpackOne border fuel) turns entries (bytes ++ (UInt8.ofNat typeNil :: rest)) = .ok
        (assignPairs entries received, rest)) :
    Reads border (.table (border (assignPairs (assignArray 1 [] ws) received)) (assignPairs (assignArray 1 [] ws) received))
      (combineType typeTable cookie :: (head ++ (array ++ (bytes ++ [UInt8.ofNat typeNil])))) := by
  refine reads_of_pushValue (by decide) hcookie fun fuel rest hfuel => ?_
  rw [List.length_append, List.length_append, List.length_append, List.length_singleton] at hfuel
  have hread : unpackTable (unpackOne border fuel) fuel cookie
    (head ++ (array ++ (bytes ++ [UInt8.ofNat typeNil])) ++ rest) =
      .ok (assignPairs (assignArray 1 [] ws) received, rest) := by
    rw [List.append_assoc, unpackTable, hsize]
    dsimp only
    rw [Int.toNat_natCast, List.append_assoc, unpackArray_reads hws fuel 1 [] _ (by omega)]
    dsimp only
    rw [List.append_assoc, List.singleton_append]
    exact hpairs fuel fuel _ rest (by omega) (by omega)
  rw [pushValue, if_neg (by decide), if_neg (by decide), if_neg (by decide), if_neg (by decide), if_neg (by decide),
    if_neg (by decide), if_pos rfl, hread, Reading.map]

/-- A table without `__pairs`. -/
theorem wbTable_spec {one : Value → WriteBlock → Except String WriteBlock} (hone : Sends border one)
    {wb wb' : WriteBlock} {n : Nat} {entries : Entries} (h : wbTable one wb n entries = .ok wb')
    (hwf : Value.WF (.table n entries)) :
    ∃ bytes, Appends wb wb' bytes ∧ (bytes.length < 2 ^ 31 → ∃ w, Same (.table n entries) w ∧ Reads border w bytes) := by
  cases hwf with
  | table hdistinct hnormal hkeys hvalues =>
  unfold wbTable wbTableArray at h
  cases harray : packEach one ((List.range' 1 n).map (rawgeti entries)) (wbTableHead wb n) with
  | error e =>
    rw [harray] at h
    cases h
  | ok wb₁ =>
    rw [harray] at h
    have hfilter : ∀ p ∈ entries.filter (fun p => !arrayKey n p.1), p ∈ entries := fun p hp => (List.mem_filter.1 hp).1
    obtain ⟨cookie, head, hcookie, hhead, hsize⟩ := wbTableHead_spec wb n
    obtain ⟨array, happ, hread⟩ := packEach_spec hone _ _ _ harray fun v hv => by
      obtain ⟨i, _, rfl⟩ := List.mem_map.1 hv
      exact rawgeti_wf hvalues i
    obtain ⟨bytes, happ', hpairs⟩ := wbPairs_spec hone h (fun p hp => hkeys p (hfilter p hp))
      (fun p hp => hvalues p (hfilter p hp)) fun p hp => ⟨(hnormal p (hfilter p hp)).1, (hnormal p (hfilter p hp)).2.1⟩
    refine ⟨_, hhead.trans (happ.trans happ'), fun hlen => ?_⟩
    rw [List.length_append, List.length_append, List.length_append] at hlen
    obtain ⟨ws, hws, hreads⟩ := hread (by omega)
    obtain ⟨received, hk, hv, hunpack⟩ := hpairs (by omega)
    have hcount := hreads.length_le
    have hn : ws.length = n := by rw [← hws.length_eq, List.length_map, List.length_range']
    refine ⟨_, ?_, reads_table hcookie (fun rest => ?_) hreads hunpack⟩
    · rw [received_eq (by omega) hdistinct hnormal hws hk hv]
      obtain ⟨hk', hv'⟩ := forall₂_arrayEntries hws 1
      exact .table (array_perm hdistinct (fun p hp => (hnormal p hp).2.2.2) (by omega)) (List.rel_append hk' hk)
        (List.rel_append hv' hv)
    · rw [hn]
      exact hsize (by omega) rest

/-- A table whose pairs its iterator gives. -/
theorem wbTableMetapairs_spec {one : Value → WriteBlock → Except String WriteBlock} (hone : Sends border one)
    {wb wb' : WriteBlock} {pairs : Entries} (h : wbTableMetapairs one wb pairs = .ok wb')
    (hwf : Value.WF (.pairsTable pairs)) :
    ∃ bytes, Appends wb wb' bytes ∧ (bytes.length < 2 ^ 31 → ∃ w, Same (.pairsTable pairs) w ∧ Reads border w bytes) := by
  cases hwf with
  | pairsTable hnormal hkeys hvalues =>
  obtain ⟨bytes, happ, hpairs⟩ := wbPairs_spec hone h hkeys hvalues hnormal
  refine ⟨_, (appends_push wb _).trans happ, fun hlen => ?_⟩
  rw [List.length_append, List.length_append] at hlen
  obtain ⟨received, hk, hv, hunpack⟩ := hpairs (by omega)
  refine ⟨.table (border (assignPairs [] received)) (assignPairs [] received), .pairsTable hk hv, ?_⟩
  exact reads_table (by decide) (fun rest => unpackArraySize_cookie (by decide) rest) .nil hunpack

/-! ## Values -/

/-- By induction on the depth that is left: `pack_one` writes what is read as the value that is received for it. -/
theorem packOne_spec (left : Nat) : Sends border (packOne left) := by
  induction left with
  | zero =>
    intro v b b' h _
    cases h
  | succ left ih =>
    intro v b b' h hwf
    cases v with
    | nil =>
      obtain rfl := Except.ok.inj h
      exact ⟨_, appends_nil b, fun _ => ⟨_, .nil, reads_nil⟩⟩
    | boolean x =>
      obtain rfl := Except.ok.inj h
      exact ⟨_, appends_push b _, fun _ => ⟨_, .boolean x, reads_boolean x⟩⟩
    | integer x =>
      obtain rfl := Except.ok.inj h
      obtain ⟨bytes, happ, hreads⟩ := wbInteger_reads border b x
      exact ⟨bytes, happ, fun _ => ⟨_, .integer x, hreads⟩⟩
    | number x =>
      obtain rfl := Except.ok.inj h
      exact ⟨_, (appends_push b _).push _, fun _ => ⟨_, .number x, reads_number x⟩⟩
    | lightuserdata p =>
      obtain rfl := Except.ok.inj h
      exact ⟨_, (appends_push b _).push _, fun _ => ⟨_, .lightuserdata p, reads_lightuserdata p⟩⟩
    | string s =>
      obtain rfl := Except.ok.inj h
      obtain ⟨bytes, happ, hreads⟩ := wbString_spec border b s
      exact ⟨bytes, happ, fun hlen => ⟨_, .string s, hreads hlen⟩⟩
    | table n entries => exact wbTable_spec ih h hwf
    | pairsTable pairs => exact wbTableMetapairs_spec ih h hwf
    | unsupported typename => cases h

/-- The loop of `luaseri_unpack` reads a message to its end. -/
theorem unpackAll_reads {ws : List Value} : ∀ {bytes : List UInt8}, ReadsEach border ws bytes → ∀ fuel, bytes.length < fuel →
    unpackAll border fuel bytes = .ok ws := by
  induction ws with
  | nil =>
    intro bytes h fuel hfuel
    rw [h.eq_nil] at hfuel ⊢
    obtain ⟨fuel, rfl⟩ := Nat.exists_eq_add_of_lt hfuel
    rfl
  | cons w ws ih =>
    intro bytes h fuel hfuel
    obtain ⟨bs, bytes, rfl, hw, hws⟩ := h.uncons
    have hpos := hw.pos
    rw [List.length_append] at hfuel
    obtain ⟨fuel, rfl⟩ := Nat.exists_eq_add_of_lt (Nat.zero_lt_of_lt hfuel)
    rw [Nat.zero_add] at hfuel ⊢
    have hone := hw (fuel + 1) bytes (by omega)
    obtain ⟨t, bs, rfl⟩ := List.exists_cons_of_length_pos hpos
    rw [List.cons_append] at hone ⊢
    rw [unpackAll_succ, hone]
    dsimp only
    rw [ih hws fuel (by omega)]

/-- What a service packs is what the other one unpacks: as many values, each the same as the one that was sent, a table with
the same pairs, whatever length Lua gives the tables it builds. -/
theorem unpack_pack (border : Entries → Nat) {args : List Value} {bytes : List UInt8} (hwf : ∀ v ∈ args, v.WF)
    (hpack : luaseriPack args = .ok bytes) (hlen : bytes.length < 2 ^ 31) :
    ∃ received, luaseriUnpack border bytes = .ok received ∧ List.Forall₂ Same args received := by
  unfold luaseriPack packFrom at hpack
  cases hargs : packEach (packOne (maxDepth + 1)) args wbInit with
  | error e =>
    rw [hargs] at hpack
    cases hpack
  | ok wb =>
    rw [hargs] at hpack
    obtain ⟨written, happ, hread⟩ := packEach_spec (packOne_spec (maxDepth + 1)) args wbInit wb hargs hwf
    have hwritten := (seri_eq happ).symm.trans hpack
    obtain rfl : written = bytes := by
      split at hwritten
      · exact Except.ok.inj hwritten
      · cases hwritten
    obtain ⟨received, hsame, hreads⟩ := hread hlen
    exact ⟨received, unpackAll_reads hreads _ (Nat.lt_succ_self _), hsame⟩

/-- A name, a table with two array elements and a field, and a negative number. -/
theorem unpack_pack_message :
    ∃ received,
      luaseriUnpack (fun entries => (List.range' 1 entries.length).countP fun i => !(rawgeti entries i).isNil)
          [20, 65, 66, 22, 10, 5, 9, 12, 107, 66, 0, 0, 0, 0, 0, 0, 12, 64, 0, 34, 253, 255, 255, 255] = .ok received ∧
        List.Forall₂ Same
          [.string [65, 66],
            .table 2 [(.integer 1, .integer 5), (.integer 2, .boolean true), (.string [107], .number 0x400C000000000000)],
            .integer (-3)] received := by
  have hentry : ∀ p ∈
    ([(.integer 1, .integer 5), (.integer 2, .boolean true), (.string [107], .number 0x400C000000000000)] : Entries),
      (p.1.isNil = false ∧ isNaNKey p.1 = false ∧ tableKey p.1 = p.1 ∧ p.2.isNil = false) ∧ p.1.WF ∧ p.2.WF := fun p hp => by
    simp only [List.mem_cons, List.not_mem_nil, or_false] at hp
    rcases hp with rfl | rfl | rfl
    · exact ⟨⟨rfl, rfl, rfl, rfl⟩, .integer _, .integer _⟩
    · exact ⟨⟨rfl, rfl, rfl, rfl⟩, .integer _, .boolean _⟩
    · exact ⟨⟨rfl, rfl, rfl, rfl⟩, .string _, .number _⟩
  refine unpack_pack _ (fun v hv => ?_) (by decide +kernel) (by decide)
  simp only [List.mem_cons, List.not_mem_nil, or_false] at hv
  rcases hv with rfl | rfl | rfl
  · exact .string _
  · exact .table (by decide) (fun p hp => (hentry p hp).1) (fun p hp => (hentry p hp).2.1) fun p hp => (hentry p hp).2.2
  · exact .integer _

end SasyServer.LuaSeri
