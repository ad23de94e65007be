import SasyServer.Lemmas.SeriTables

/-!
# What `pack` refuses

`luaseri_pack` raises an error for a value that is nested too deep, and for one of a type it has no form for.
`Inside v d u`: `u` is found in `v`, `d` tables down. The packer comes to exactly what is inside: the array elements are
found by their keys, and what `lua_rawlen` says is the key of an element (`Bordered`). What it writes has less than 2^31
bytes here, which an `int` can count.
-/

namespace SasyServer.LuaSeri

/-- A value is in another one, so many tables down. -/
inductive Inside : Value → Nat → Value → Prop where
  | self (v : Value) : Inside v 0 v
  | key {rawlen : Nat} {entries : Entries} {p : Value × Value} {d : Nat} {u : Value} (hp : p ∈ entries)
    (h : Inside p.1 d u) :
      Inside (.table rawlen entries) (d + 1) u
  | value {rawlen : Nat} {entries : Entries} {p : Value × Value} {d : Nat} {u : Value} (hp : p ∈ entries)
    (h : Inside p.2 d u) :
      Inside (.table rawlen entries) (d + 1) u
  | pairsKey {pairs : Entries} {p : Value × Value} {d : Nat} {u : Value} (hp : p ∈ pairs) (h : Inside p.1 d u) :
      Inside (.pairsTable pairs) (d + 1) u
  | pairsValue {pairs : Entries} {p : Value × Value} {d : Nat} {u : Value} (hp : p ∈ pairs) (h : Inside p.2 d u) :
      Inside (.pairsTable pairs) (d + 1) u

/-- The tables inside a value whose `lua_rawlen` is not 0 have an element with this key. -/
def Bordered (v : Value) : Prop :=
  ∀ d rawlen entries, Inside v d (.table rawlen entries) → rawlen = 0 ∨ (rawgeti entries rawlen).isNil = false

/-- The type of the value has no form in a message. -/
def isUnsupported : Value → Bool
  | .unsupported _ => true
  | _ => false

/-- The text for a value that cannot be packed. -/
def unsupportedText (typename : String) : String := s!"Unsupport type {typename} to serialize"

def tooDeepText : String := "serialize can't pack too depth table"

variable {one : Value → WriteBlock → Except String WriteBlock}

/-- If all values are packed, each of them was. -/
theorem packEach_ok {vs : List Value} :
    ∀ {b b' : WriteBlock}, packEach one vs b = .ok b' → ∀ v ∈ vs, ∃ b₁ b₂, one v b₁ = .ok b₂ := by
  induction vs with
  | nil => exact fun _ v hv => absurd hv List.not_mem_nil
  | cons w vs ih =>
    intro b b' h v hv
    rw [packEach] at h
    cases hw : one w b with
    | error e =>
      rw [hw] at h
      cases h
    | ok b₁ =>
      rw [hw] at h
      rcases List.mem_cons.1 hv with rfl | hv
      · exact ⟨b, b₁, hw⟩
      · exact ih h v hv

/-- An error comes from one of the values. -/
theorem packEach_error {vs : List Value} {e : String} :
    ∀ {b : WriteBlock}, packEach one vs b = .error e → ∃ v ∈ vs, ∃ b₁, one v b₁ = .error e := by
  induction vs with
  | nil => exact fun h => nomatch h
  | cons w vs ih =>
    intro b h
    rw [packEach] at h
    cases hw : one w b with
    | error e' =>
      rw [hw] at h
      obtain rfl := Except.error.inj h
      exact ⟨w, List.mem_cons_self, b, hw⟩
    | ok b₁ =>
      rw [hw] at h
      obtain ⟨v, hv, hone⟩ := ih h
      exact ⟨v, List.mem_cons_of_mem _ hv, hone⟩

/-- When the pairs have been written, so has each key and each value. -/
theorem wbPairs_ok {wb wb' : WriteBlock} {pairs : Entries} (h : wbPairs one wb pairs = .ok wb') :
    ∀ p ∈ pairs, (∃ b₁ b₂, one p.1 b₁ = .ok b₂) ∧ ∃ b₁ b₂, one p.2 b₁ = .ok b₂ := by
  unfold wbPairs at h
  cases hpack : packEach one (pairs.flatMap fun p => [p.1, p.2]) wb with
  | error e =>
    rw [hpack] at h
    cases h
  | ok wb₁ =>
    intro p hp
    have hall := packEach_ok hpack
    exact ⟨hall p.1 (List.mem_flatMap.2 ⟨p, hp, List.mem_cons_self⟩),
      hall p.2 (List.mem_flatMap.2 ⟨p, hp, List.mem_cons_of_mem _ List.mem_cons_self⟩)⟩

/-- An error of the pairs is one of a key or a value. -/
theorem wbPairs_error {wb : WriteBlock} {pairs : Entries} {e : String} (h : wbPairs one wb pairs = .error e) :
    ∃ p ∈ pairs, (∃ b₁, one p.1 b₁ = .error e) ∨ ∃ b₁, one p.2 b₁ = .error e := by
  unfold wbPairs at h
  cases hpack : packEach one (pairs.flatMap fun p => [p.1, p.2]) wb with
  | error e' =>
    rw [hpack] at h
    obtain rfl := Except.error.inj h
    obtain ⟨v, hv, b₁, hone⟩ := packEach_error hpack
    obtain ⟨p, hp, hvp⟩ := List.mem_flatMap.1 hv
    rcases List.mem_cons.1 hvp with rfl | hvp
    · exact ⟨p, hp, Or.inl ⟨b₁, hone⟩⟩
    · obtain rfl := List.mem_singleton.1 hvp
      exact ⟨p, hp, Or.inr ⟨b₁, hone⟩⟩
  | ok wb₁ =>
    rw [hpack] at h
    cases h

/-- Every entry of a table that has been packed is among what was packed; the key of an array element is an
integer and needs nothing. -/
theorem wbTable_ok {wb wb' : WriteBlock} {n : Nat} {entries : Entries} (h : wbTable one wb n entries = .ok wb')
    (hd : entries.Pairwise fun p q => sameKey p.1 q.1 = false) :
    ∀ p ∈ entries, ((arrayKey n p.1 = true) ∨ ∃ b₁ b₂, one p.1 b₁ = .ok b₂) ∧ ∃ b₁ b₂, one p.2 b₁ = .ok b₂ := by
  unfold wbTable wbTableArray at h
  cases harray : packEach one ((List.range' 1 n).map (rawgeti entries)) (wbTableHead wb n) with
  | error e =>
    rw [harray] at h
    cases h
  | ok wb₁ =>
    rw [harray] at h
    intro p hp
    by_cases hk : arrayKey n p.1 = true
    · obtain ⟨i, hpos, hle, hi⟩ := exists_of_arrayKey hk
      refine ⟨Or.inl hk, ?_⟩
      rw [← rawgeti_eq hd hp hi]
      exact packEach_ok harray _ (List.mem_map.2 ⟨i, List.mem_range'_1.2 ⟨hpos, by omega⟩, rfl⟩)
    · have hmem : p ∈ entries.filter fun p => !arrayKey n p.1 := List.mem_filter.2 ⟨hp, by rw [Bool.eq_false_iff.2 hk]; rfl⟩
      obtain ⟨hkey, hvalue⟩ := wbPairs_ok h p hmem
      exact ⟨Or.inr hkey, hvalue⟩

/-- An error of a table is one of an entry, or of an element that is nil. -/
theorem wbTable_error {wb : WriteBlock} {n : Nat} {entries : Entries} {e : String}
    (h : wbTable one wb n entries = .error e) :
    (∃ p ∈ entries, (∃ b₁, one p.1 b₁ = .error e) ∨ ∃ b₁, one p.2 b₁ = .error e) ∨ 0 < n ∧ ∃ b₁, one .nil b₁ = .error e := by
  unfold wbTable wbTableArray at h
  cases harray : packEach one ((List.range' 1 n).map (rawgeti entries)) (wbTableHead wb n) with
  | error e' =>
    rw [harray] at h
    obtain rfl := Except.error.inj h
    obtain ⟨v, hv, b₁, hone⟩ := packEach_error harray
    obtain ⟨i, hi, rfl⟩ := List.mem_map.1 hv
    by_cases hnil : (rawgeti entries i).isNil = true
    · have hn : rawgeti entries i = .nil := by
        cases hr : rawgeti entries i with
        | nil => rfl
        | _ =>
          rw [hr] at hnil
          cases hnil
      rw [hn] at hone
      have hpos := (List.mem_range'_1.1 hi)
      exact Or.inr ⟨by omega, b₁, hone⟩
    · exact Or.inl ⟨_, rawgeti_mem (Bool.eq_false_iff.2 hnil), Or.inr ⟨b₁, hone⟩⟩
  | ok wb₁ =>
    rw [harray] at h
    obtain ⟨p, hp, hone⟩ := wbPairs_error h
    exact Or.inl ⟨p, (List.mem_filter.1 hp).1, hone⟩

/-- What is packed has nothing inside that is too deep or that has no form. -/
theorem packOne_ok (left : Nat) : ∀ {v : Value} {b b' : WriteBlock}, packOne left v b = .ok b' → v.WF →
    ∀ d u, Inside v d u → d < left ∧ isUnsupported u = false := by
  induction left with
  | zero => exact fun h => nomatch h
  | succ left ih =>
    intro v b b' h hwf d u hu
    cases hu with
    | self => cases v <;> first | exact ⟨Nat.succ_pos _, rfl⟩ | cases h
    | @key n entries p d _ hp hu =>
      cases hwf with
      | table hd hnormal hkeys hvalues =>
      obtain ⟨hkey, b₁, b₂, hvalue⟩ := wbTable_ok h hd p hp
      rcases hkey with hkey | ⟨b₁, b₂, hkey⟩
      · obtain ⟨i, _, _, hi⟩ := exists_of_arrayKey hkey
        rw [hi] at hu
        cases hu
        exact ⟨Nat.succ_lt_succ ((ih hvalue (hvalues p hp) 0 p.2 (.self _)).1), rfl⟩
      · obtain ⟨hlt, hform⟩ := ih hkey (hkeys p hp) d u hu
        exact ⟨Nat.succ_lt_succ hlt, hform⟩
    | @value n entries p d _ hp hu =>
      cases hwf with
      | table hd hnormal hkeys hvalues =>
      obtain ⟨_, b₁, b₂, hvalue⟩ := wbTable_ok h hd p hp
      obtain ⟨hlt, hform⟩ := ih hvalue (hvalues p hp) d u hu
      exact ⟨Nat.succ_lt_succ hlt, hform⟩
    | @pairsKey pairs p d _ hp hu =>
      cases hwf with
      | pairsTable hnormal hkeys hvalues =>
      obtain ⟨⟨b₁, b₂, hkey⟩, _⟩ := wbPairs_ok h p hp
      obtain ⟨hlt, hform⟩ := ih hkey (hkeys p hp) d u hu
      exact ⟨Nat.succ_lt_succ hlt, hform⟩
    | @pairsValue pairs p d _ hp hu =>
      cases hwf with
      | pairsTable hnormal hkeys hvalues =>
      obtain ⟨_, b₁, b₂, hvalue⟩ := wbPairs_ok h p hp
      obtain ⟨hlt, hform⟩ := ih hvalue (hvalues p hp) d u hu
      exact ⟨Nat.succ_lt_succ hlt, hform⟩

/-- The two reasons for an error, and its text. -/
def Refused (left : Nat) (v : Value) (e : String) : Prop :=
  (e = tooDeepText ∧ ∃ d u, Inside v d u ∧ left ≤ d) ∨ ∃ d typename, Inside v d (.unsupported typename) ∧ d < left ∧
    e = unsupportedText typename

/-- The reason is in something inside. -/
theorem Refused.succ {left : Nat} {v w : Value} {e : String} (h : Refused left v e)
    (hlift : ∀ d u, Inside v d u → Inside w (d + 1) u) :
    Refused (left + 1) w e := by
  rcases h with ⟨he, d, u, hu, hle⟩ | ⟨d, typename, hu, hlt, he⟩
  · exact Or.inl ⟨he, d + 1, u, hlift d u hu, Nat.succ_le_succ hle⟩
  · exact Or.inr ⟨d + 1, typename, hlift d _ hu, Nat.succ_lt_succ hlt, he⟩

theorem Bordered.inside {v w : Value} (h : Bordered w) (hlift : ∀ d u, Inside v d u → Inside w (d + 1) u) : Bordered v :=
  fun d rawlen entries hu => h (d + 1) rawlen entries (hlift d _ hu)

/-- By induction on the depth that is left: an error of `pack_one` is the refusal of a part of the value. -/
theorem packOne_error (left : Nat) :
    ∀ {v : Value} {b : WriteBlock} {e : String}, packOne left v b = .error e → Bordered v → Refused left v e := by
  induction left with
  | zero =>
    intro v b e h _
    obtain rfl := Except.error.inj h
    exact Or.inl ⟨rfl, 0, v, .self v, Nat.le_refl 0⟩
  | succ left ih =>
    intro v b e h hb
    cases v with
    | table n entries =>
      have hkey : ∀ p ∈ entries, ∀ d u, Inside p.1 d u → Inside (.table n entries) (d + 1) u := fun p hp d u hu => .key hp hu
      have hvalue : ∀ p ∈ entries, ∀ d u, Inside p.2 d u → Inside (.table n entries) (d + 1) u :=
        fun p hp d u hu => .value hp hu
      rcases wbTable_error h with ⟨p, hp, ⟨b₁, hone⟩ | ⟨b₁, hone⟩⟩ | ⟨hpos, b₁, hone⟩
      · exact (ih hone (hb.inside (hkey p hp))).succ (hkey p hp)
      · exact (ih hone (hb.inside (hvalue p hp))).succ (hvalue p hp)
      · -- a nil is packed at any depth that is left, and next to it there is an element at the same depth
        cases left with
        | zero =>
          obtain rfl := Except.error.inj hone
          rcases hb 0 n entries (.self _) with hn | hborder
          · exact absurd hn (Nat.ne_of_gt hpos)
          · exact Or.inl ⟨rfl, 1, _, hvalue _ (rawgeti_mem hborder) 0 _ (.self _), Nat.le_refl 1⟩
        | succ left => cases hone
    | pairsTable pairs =>
      have hkey : ∀ p ∈ pairs, ∀ d u, Inside p.1 d u → Inside (.pairsTable pairs) (d + 1) u :=
        fun p hp d u hu => .pairsKey hp hu
      have hvalue : ∀ p ∈ pairs, ∀ d u, Inside p.2 d u → Inside (.pairsTable pairs) (d + 1) u :=
        fun p hp d u hu => .pairsValue hp hu
      obtain ⟨p, hp, ⟨b₁, hone⟩ | ⟨b₁, hone⟩⟩ := wbPairs_error h
      · exact (ih hone (hb.inside (hkey p hp))).succ (hkey p hp)
      · exact (ih hone (hb.inside (hvalue p hp))).succ (hvalue p hp)
    | unsupported typename =>
      obtain rfl := Except.error.inj h
      exact Or.inr ⟨0, typename, .self _, Nat.succ_pos _, rfl⟩
    | _ => cases h

/-- `luaseri_pack` comes from `pack_from`: its message, or its error. -/
theorem luaseriPack_cases (args : List Value) :
    (∃ wb, packFrom wbInit args = .ok wb ∧ luaseriPack args = seri wb) ∨
      ∃ e, packFrom wbInit args = .error e ∧ luaseriPack args = .error (.raised e) := by
  unfold luaseriPack
  cases h : packFrom wbInit args with
  | ok wb => exact Or.inl ⟨wb, rfl, rfl⟩
  | error e => exact Or.inr ⟨e, rfl, rfl⟩

/-- Values of which less than 2^31 bytes are written are packed exactly when nothing inside them is more than `MAX_DEPTH`
tables down or of a type without a form, and otherwise the error tells which of the two it was. -/
theorem pack_refuses {args : List Value} (hwf : ∀ v ∈ args, v.WF) (hb : ∀ v ∈ args, Bordered v)
    (hlen : ∀ wb, packFrom wbInit args = .ok wb → wb.len < 2 ^ 31) :
    ((∃ bytes, luaseriPack args = .ok bytes) ↔ ∀ v ∈ args, ∀ d u, Inside v d u → d ≤ maxDepth ∧ isUnsupported u = false) ∧
      ∀ e, luaseriPack args = .error e → ∃ v ∈ args,
        (e = .raised tooDeepText ∧ ∃ d u, Inside v d u ∧ maxDepth < d) ∨
          ∃ d typename, Inside v d (.unsupported typename) ∧ d ≤ maxDepth ∧ e = .raised (unsupportedText typename) := by
  rcases luaseriPack_cases args with ⟨wb, hpack, heq⟩ | ⟨e, hpack, heq⟩
  · -- what is written is short enough for `seri`, and all that is inside has been packed
    have hseri : luaseriPack args = .ok (BlockBuffer.copyOut blockSize wb.buffer.blocks wb.len) :=
      heq.trans (if_pos (hlen wb hpack))
    refine ⟨⟨fun _ v hv d u hu => ?_, fun _ => ⟨_, hseri⟩⟩, fun e h => ?_⟩
    · obtain ⟨b₁, b₂, hone⟩ := packEach_ok hpack v hv
      obtain ⟨hlt, hform⟩ := packOne_ok _ hone (hwf v hv) d u hu
      exact ⟨Nat.le_of_lt_succ hlt, hform⟩
    · rw [hseri] at h
      cases h
  · -- the error is that of one of the values
    obtain ⟨v, hv, b₁, hone⟩ := packEach_error hpack
    have hrefused := packOne_error _ hone (hb v hv)
    refine ⟨⟨fun ⟨bytes, h⟩ => ?_, fun hall => ?_⟩, fun e' h => ⟨v, hv, ?_⟩⟩
    · rw [heq] at h
      cases h
    · rcases hrefused with ⟨_, d, u, hu, hle⟩ | ⟨d, typename, hu, _, _⟩
      · exact absurd (hall v hv d u hu).1 (Nat.not_le_of_gt hle)
      · cases (hall v hv d _ hu).2
    · rw [heq] at h
      obtain rfl := Except.error.inj h
      rcases hrefused with ⟨he, d, u, hu, hle⟩ | ⟨d, typename, hu, hlt, he⟩
      · exact Or.inl ⟨congrArg _ he, d, u, hu, hle⟩
      · exact Or.inr ⟨d, typename, hu, Nat.le_of_lt_succ hlt, congrArg _ he⟩

/-- A table with a function in it. -/
theorem pack_refuses_function :
    ((∃ bytes, luaseriPack [.table 0 [(.string [102], .unsupported "function")]] = .ok bytes) ↔
        ∀ v ∈ [Value.table 0 [(.string [102], .unsupported "function")]], ∀ d u, Inside v d u → d ≤ maxDepth ∧
          isUnsupported u = false) ∧
      ∀ e, luaseriPack [.table 0 [(.string [102], .unsupported "function")]] = .error e →
        ∃ v ∈ [Value.table 0 [(.string [102], .unsupported "function")]],
          (e = .raised tooDeepText ∧ ∃ d u, Inside v d u ∧ maxDepth < d) ∨
            ∃ d typename, Inside v d (.unsupported typename) ∧ d ≤ maxDepth ∧ e = .raised (unsupportedText typename) := by
  have hfrom : packFrom wbInit [.table 0 [(.string [102], .unsupported "function")]] =
    .error (unsupportedText "function") := by rfl
  refine pack_refuses (fun v hv => ?_) (fun v hv => ?_) fun wb h => ?_
  · rw [List.mem_singleton.1 hv]
    refine .table (List.pairwise_singleton _ _) (fun p hp => ?_) (fun p hp => ?_) fun p hp => ?_
    · rw [List.mem_singleton.1 hp]
      exact ⟨rfl, rfl, rfl, rfl⟩
    · rw [List.mem_singleton.1 hp]
      exact .string _
    · rw [List.mem_singleton.1 hp]
      exact .unsupported _
  · rw [List.mem_singleton.1 hv]
    intro d rawlen entries hu
    cases hu with
    | self => exact Or.inl rfl
    | key hp hu =>
      rw [List.mem_singleton.1 hp] at hu
      cases hu
    | value hp hu =>
      rw [List.mem_singleton.1 hp] at hu
      cases hu
  · rw [hfrom] at h
    cases h

end SasyServer.LuaSeri
