import SasyServer.Lemmas.SeriBytes
import SasyServer.Lemmas.SeriTables

/-!
# What `unpack` accepts

`luaseri_unpack` on any bytes whatsoever: it comes to an end, what it gives are values as Lua has them, and it reads nothing
that is not in the buffer. `rb_read` lets a negative size pass, and `get_buffer` comes to one for a long string of 2^31 bytes
and more; but Lua refuses such a length before it looks at the bytes.
-/

namespace SasyServer.LuaSeri

/-- A reading from `rb`: it gives something good and leaves a part of `rb`, or it raises an error; it neither wants for turns
nor reads what is not there. -/
def Sound {α : Type} (P : α → Prop) (rb : List UInt8) : Reading α → Prop
  | .ok (x, rest) => P x ∧ rest <:+ rb
  | .error e => ∃ msg, e = .raised msg

section Sound

variable {α β : Type} {P : α → Prop} {Q : β → Prop} {rb : List UInt8}

theorem sound_raised (msg : String) : Sound P rb (.error (.raised msg)) := ⟨msg, rfl⟩

theorem Sound.imp {r : Reading α} {P' : α → Prop} (h : Sound P rb r) (hP : ∀ x, P x → P' x) : Sound P' rb r := by
  cases r with
  | ok p => exact ⟨hP p.1 h.1, h.2⟩
  | error e => exact h

/-- The reading of a part that comes later. -/
theorem Sound.mono {r : Reading α} {rb' : List UInt8} (h : Sound P rb r) (hrb : rb <:+ rb') : Sound P rb' r := by
  cases r with
  | ok p => exact ⟨h.1, h.2.trans hrb⟩
  | error e => exact h

/-- A reading `r`, and what comes of it in `s`, where an error of `r` is one of `s`. -/
theorem Sound.andThen {r : Reading α} {s : Reading β} {rb' : List UInt8} (h : Sound P rb r)
    (herror : ∀ e, r = .error e → s = .error e)
    (hok : ∀ x rest, r = .ok (x, rest) → P x → rest <:+ rb → Sound Q rb' s) : Sound Q rb' s := by
  cases r with
  | ok p => exact hok p.1 p.2 rfl h.1 h.2
  | error e =>
    rw [herror e rfl]
    exact h

theorem Sound.map {r : Reading α} {f : α → β} (h : Sound P rb r) (hf : ∀ x, P x → Q (f x)) :
    Sound Q rb (Reading.map f r) := by
  cases r with
  | ok p => exact ⟨hf p.1 h.1, h.2⟩
  | error e => exact h

end Sound

/-- A read of as many bytes as `rb_read` has been asked for is a read from the front. -/
theorem readAs_sound {α : Type} {P : α → Prop} (hP : ∀ x, P x) (line : Nat) (rb : List UInt8) (sz : Nat)
    (f : List UInt8 → α) :
    Sound P rb (readAs line rb sz f) := by
  unfold readAs
  rw [readAt_eq]
  by_cases hlt : rb.length < sz
  · rw [if_pos hlt]
    exact sound_raised _
  · rw [if_neg hlt]
    exact ⟨hP _, List.drop_suffix sz rb⟩

/-- Each kind of number takes its width, or raises an error. -/
theorem getInteger_sound (rb : List UInt8) (cookie : Nat) : Sound (fun _ => True) rb (getInteger rb cookie) := by
  unfold getInteger
  split
  · exact ⟨trivial, List.suffix_refl rb⟩
  split
  · exact readAs_sound (fun _ => trivial) _ _ _ _
  split
  · exact readAs_sound (fun _ => trivial) _ _ _ _
  split
  · exact readAs_sound (fun _ => trivial) _ _ _ _
  split
  · exact readAs_sound (fun _ => trivial) _ _ _ _
  · exact sound_raised _

/-- A negative `int` as a `size_t` is longer than any string. -/
theorem maxString_le_of_neg {len : Int} (h : -2 ^ 31 ≤ len) (hneg : len < 0) : maxString ≤ (BitVec.ofInt 64 len).toNat := by
  rw [BitVec.toNat_ofInt, maxString]
  omega

/-- `get_buffer` on any `int`: what `rb_read` has not refused is in the buffer, or it is negative and Lua refuses it. -/
theorem getBuffer_sound {rb : List UInt8} {len : Int} (h : -2 ^ 31 ≤ len) : Sound Value.WF rb (getBuffer rb len) := by
  unfold getBuffer rbRead
  by_cases hlt : (rb.length : Int) < len
  · rw [if_pos hlt]
    exact sound_raised _
  rw [if_neg hlt]
  dsimp only
  unfold luaPushlstring
  by_cases hbig : maxString ≤ (BitVec.ofInt 64 len).toNat
  · rw [if_pos hbig]
    exact sound_raised _
  rw [if_neg hbig]
  have hnat : 0 ≤ len := Int.not_lt.1 fun hneg => hbig (maxString_le_of_neg h hneg)
  have hle : (BitVec.ofInt 64 len).toNat ≤ rb.length := by
    rw [BitVec.toNat_ofInt]
    omega
  rw [bytesAt, if_pos hle]
  exact ⟨.string _, List.drop_suffix _ rb⟩

/-- A long string, whatever its length is said to be. -/
theorem getLongString_sound (cookie : Nat) (rb : List UInt8) : Sound Value.WF rb (getLongString cookie rb) := by
  have hread : ∀ line sz, Sound (fun _ => True) rb (readAs line rb sz LittleEndian.value) :=
    fun line sz => readAs_sound (fun _ => trivial) line rb sz _
  unfold getLongString
  by_cases htwo : cookie = 2
  · rw [if_pos htwo]
    refine (hread 493 2).andThen (fun e he => by rw [he]) fun n rest hn _ hsuffix => ?_
    rw [hn]
    exact (getBuffer_sound (by omega)).mono hsuffix
  rw [if_neg htwo]
  by_cases hfour : cookie = 4
  · rw [if_neg (not_not_intro hfour)]
    refine (hread 504 4).andThen (fun e he => by rw [he]) fun n rest hn _ hsuffix => ?_
    rw [hn]
    exact (getBuffer_sound (BitVec.le_toInt _)).mono hsuffix
  · rw [if_pos hfour]
    exact sound_raised _

/-! ## The entries of a table -/

/-- Entries as Lua has them. -/
structure EntriesWF (entries : Entries) : Prop where
  distinct : entries.Pairwise fun p q => sameKey p.1 q.1 = false
  normal : ∀ p ∈ entries, p.1.isNil = false ∧ isNaNKey p.1 = false ∧ tableKey p.1 = p.1 ∧ p.2.isNil = false
  keys : ∀ p ∈ entries, p.1.WF
  values : ∀ p ∈ entries, p.2.WF

theorem EntriesWF.nil : EntriesWF [] :=
  ⟨.nil, fun _ hp => absurd hp List.not_mem_nil, fun _ hp => absurd hp List.not_mem_nil,
    fun _ hp => absurd hp List.not_mem_nil⟩

theorem EntriesWF.table {entries : Entries} (h : EntriesWF entries) (rawlen : Nat) : Value.WF (.table rawlen entries) :=
  .table h.distinct h.normal h.keys h.values

/-- A key in the form of the table. -/
theorem tableKey_spec {k : Value} (hwf : k.WF) (hnil : k.isNil = false) (hnan : isNaNKey k = false) :
    (tableKey k).WF ∧ (tableKey k).isNil = false ∧ isNaNKey (tableKey k) = false ∧ tableKey (tableKey k) = tableKey k := by
  cases k with
  | number x =>
    cases hx : toInteger x with
    | some i =>
      simp only [tableKey, hx]
      exact ⟨.integer i, rfl, rfl, trivial⟩
    | none =>
      simp only [tableKey, hx]
      exact ⟨.number x, rfl, hnan, trivial⟩
  | _ => exact ⟨hwf, hnil, rfl, rfl⟩

/-- An assignment keeps the entries well formed. -/
theorem EntriesWF.assign {entries : Entries} (h : EntriesWF entries) {k v : Value} (hk : k.WF) (hnil : k.isNil = false)
    (hnan : isNaNKey k = false) (hkey : tableKey k = k) (hv : v.WF) : EntriesWF (assign entries k v) := by
  unfold LuaSeri.assign
  by_cases hvnil : v.isNil = true
  · rw [if_pos hvnil]
    have hsub : ∀ p ∈ entries.filter (fun p => !LuaSeri.sameKey p.1 k), p ∈ entries := fun p hp => (List.mem_filter.1 hp).1
    exact ⟨h.distinct.filter _, fun p hp => h.normal p (hsub p hp), fun p hp => h.keys p (hsub p hp),
      fun p hp => h.values p (hsub p hp)⟩
  rw [if_neg hvnil]
  have hvalue := Bool.eq_false_iff.2 hvnil
  by_cases hany : (entries.any fun p => LuaSeri.sameKey p.1 k) = true
  · -- the entry that has the key keeps it, and gets the value
    rw [if_pos hany]
    have hfst : ∀ p : Value × Value, (if LuaSeri.sameKey p.1 k then (p.1, v) else p).1 = p.1 := fun p => by split <;> rfl
    have hsnd : ∀ p : Value × Value, (if LuaSeri.sameKey p.1 k then (p.1, v) else p).2 = v ∨
        (if LuaSeri.sameKey p.1 k then (p.1, v) else p).2 = p.2 := fun p => by
      split
      · exact Or.inl rfl
      · exact Or.inr rfl
    refine ⟨?_, fun q hq => ?_, fun q hq => ?_, fun q hq => ?_⟩
    · rw [List.pairwise_map]
      exact h.distinct.imp fun {p q} hpq => by rw [hfst p, hfst q]; exact hpq
    · obtain ⟨p, hp, rfl⟩ := List.mem_map.1 hq
      obtain ⟨h1, h2, h3, h4⟩ := h.normal p hp
      rw [hfst p]
      refine ⟨h1, h2, h3, ?_⟩
      rcases hsnd p with he | he
      · rw [he]
        exact hvalue
      · rw [he]
        exact h4
    · obtain ⟨p, hp, rfl⟩ := List.mem_map.1 hq
      rw [hfst p]
      exact h.keys p hp
    · obtain ⟨p, hp, rfl⟩ := List.mem_map.1 hq
      rcases hsnd p with he | he
      · rw [he]
        exact hv
      · rw [he]
        exact h.values p hp
  · rw [if_neg hany]
    have hnew : ∀ p ∈ entries, LuaSeri.sameKey p.1 k = false := fun p hp =>
      Bool.eq_false_iff.2 fun hs => hany (List.any_eq_true.2 ⟨p, hp, hs⟩)
    have hlast : ∀ {Q : Value × Value → Prop}, (∀ p ∈ entries, Q p) → Q (k, v) → ∀ p ∈ entries ++ [(k, v)], Q p := by
      intro Q hall hone p hp
      rcases List.mem_append.1 hp with hp | hp
      · exact hall p hp
      · rw [List.mem_singleton.1 hp]
        exact hone
    refine ⟨?_, hlast h.normal ⟨hnil, hnan, hkey, hvalue⟩, hlast h.keys hk, hlast h.values hv⟩
    refine List.pairwise_append.2 ⟨h.distinct, List.pairwise_singleton _ _, fun p hp q hq => ?_⟩
    rw [List.mem_singleton.1 hq]
    exact hnew p hp

/-! ## Tables -/

/-- A reader of values, on what is shorter than `fuel`: it takes at least one byte. -/
def Reader (fuel : Nat) (one : List UInt8 → Reading Value) : Prop :=
  ∀ rb : List UInt8, rb.length < fuel → Sound Value.WF rb (one rb) ∧ ∀ v rest, one rb = .ok (v, rest) →
    rest.length < rb.length

section Tables

variable {fuel : Nat} {one : List UInt8 → Reading Value}

/-- By induction on the values of the array part that are left. -/
theorem unpackArray_sound (hone : Reader fuel one) (n : Nat) :
    ∀ {i : Nat} {entries : Entries} {rb : List UInt8}, EntriesWF entries →
    rb.length < fuel → Sound EntriesWF rb (unpackArray one n i entries rb) := by
  induction n with
  | zero => exact fun h _ => ⟨h, List.suffix_refl _⟩
  | succ n ih =>
    intro i entries rb h hfuel
    rw [unpackArray]
    refine (hone rb hfuel).1.andThen (fun e he => by rw [he]) fun v rest hread hv hsuffix => ?_
    rw [hread]
    have hassign := h.assign (.integer (BitVec.ofNat 64 i)) rfl rfl rfl hv
    exact (ih hassign (Nat.lt_of_le_of_lt hsuffix.length_le hfuel)).mono hsuffix

/-- By induction on the turns: each pair takes a byte at least, so there are turns enough. -/
theorem unpackHash_sound (hone : Reader fuel one) (turns : Nat) :
    ∀ {entries : Entries} {rb : List UInt8}, EntriesWF entries →
    rb.length < fuel → rb.length < turns → Sound EntriesWF rb (unpackHash one turns entries rb) := by
  induction turns with
  | zero => exact fun _ _ h => absurd h (Nat.not_lt_zero _)
  | succ turns ih =>
    intro entries rb h hfuel hturns
    rw [unpackHash]
    obtain ⟨hsound, hless⟩ := hone rb hfuel
    refine hsound.andThen (fun e he => by rw [he]) fun k rest hread hk hsuffix => ?_
    have hlt := hless k rest hread
    rw [hread]
    dsimp only
    by_cases hnil : k.isNil = true
    · rw [if_pos hnil]
      exact ⟨h, hsuffix⟩
    rw [if_neg hnil]
    have hsound' := (hone rest (Nat.lt_trans hlt hfuel)).1
    refine hsound'.andThen (fun e he => by rw [he]) fun v rest' hread' hv hsuffix' => ?_
    rw [hread']
    dsimp only
    unfold rawset
    by_cases hnan : isNaNKey k = true
    · rw [if_pos hnan]
      exact sound_raised _
    rw [if_neg hnan]
    obtain ⟨hwf, hnil', hnan', hkey⟩ := tableKey_spec hk (Bool.eq_false_iff.2 hnil) (Bool.eq_false_iff.2 hnan)
    -- the pair took a byte at least, so that the turns that are left are enough
    have hle := hsuffix'.length_le
    exact (ih (h.assign hwf hnil' hnan' hkey hv) (by omega) (by omega)).mono (hsuffix'.trans hsuffix)

/-- The length of the array part is in the cookie or in a number behind it. -/
theorem unpackArraySize_sound (cookie : Nat) (rb : List UInt8) : Sound (fun _ => True) rb (unpackArraySize cookie rb) := by
  unfold unpackArraySize
  by_cases hlong : cookie = maxCookie - 1
  · rw [if_pos hlong]
    have hread := readAs_sound (P := fun _ => True) (fun _ => trivial) 440 rb 1 LittleEndian.value
    refine hread.andThen (fun e he => by rw [he]) fun type rest htype _ hsuffix => ?_
    rw [htype]
    dsimp only
    split
    · exact sound_raised _
    · have hint := (getInteger_sound rest (type / 8)).mono hsuffix
      refine hint.andThen (fun e he => by rw [he]) fun x rest' hx _ hrest => ?_
      rw [hx]
      exact ⟨trivial, hrest⟩
  · rw [if_neg hlong]
    exact ⟨trivial, List.suffix_refl rb⟩

/-- A table is read from its length on, the array part first. -/
theorem unpackTable_sound (hone : Reader fuel one) {cookie : Nat} {rb : List UInt8} (hfuel : rb.length < fuel) :
    Sound EntriesWF rb (unpackTable one fuel cookie rb) := by
  unfold unpackTable
  refine (unpackArraySize_sound cookie rb).andThen (fun e he => by rw [he]) fun n rest hn _ hsuffix => ?_
  rw [hn]
  dsimp only
  have hlt := Nat.lt_of_le_of_lt hsuffix.length_le hfuel
  have harray := (unpackArray_sound hone n.toNat .nil hlt (i := 1)).mono hsuffix
  refine harray.andThen (fun e he => by rw [he]) fun entries rest' hread hentries hsuffix' => ?_
  rw [hread]
  have hlt' := Nat.lt_of_le_of_lt hsuffix'.length_le hfuel
  exact (unpackHash_sound hone fuel hentries hlt' hlt').mono hsuffix'

/-- What follows the first byte of a value. -/
theorem pushValue_sound (border : Entries → Nat) (hone : Reader fuel one) (type cookie : Nat) {rb : List UInt8}
    (hfuel : rb.length < fuel) : Sound Value.WF rb (pushValue one border fuel type cookie rb) := by
  unfold pushValue
  split
  · exact ⟨.nil, List.suffix_refl rb⟩
  split
  · exact ⟨.boolean _, List.suffix_refl rb⟩
  split
  · split
    · exact Sound.map (readAs_sound (P := fun _ => True) (fun _ => trivial) _ _ _ _) fun x _ => .number x
    · exact Sound.map (getInteger_sound _ _) fun x _ => .integer x
  split
  · exact Sound.map (readAs_sound (P := fun _ => True) (fun _ => trivial) _ _ _ _) fun x _ => .lightuserdata x
  split
  · exact getBuffer_sound (by omega)
  split
  · exact getLongString_sound _ rb
  split
  · exact Sound.map (unpackTable_sound hone hfuel) fun entries h => h.table _
  · exact sound_raised _

end Tables

/-! ## The buffer as a whole -/

/-- A value takes its first byte, and what comes after it. -/
theorem unpackOne_sound (border : Entries → Nat) (fuel : Nat) : Reader fuel (unpackOne border fuel) := by
  induction fuel with
  | zero => exact fun _ h => absurd h (Nat.not_lt_zero _)
  | succ fuel ih =>
    intro rb hfuel
    cases rb with
    | nil =>
      refine ⟨sound_raised _, fun _ _ h => ?_⟩
      cases h
    | cons t rb =>
      have hpush := pushValue_sound border ih (t.toNat % 8) (t.toNat / 8) (Nat.lt_of_succ_lt_succ hfuel)
      rw [unpackOne_cons]
      refine ⟨hpush.mono (List.suffix_cons t rb), fun v rest h => ?_⟩
      rw [h] at hpush
      exact Nat.lt_succ_of_le hpush.2.length_le

/-- What `luaseri_unpack` gives. -/
def Received : Except Failure (List Value) → Prop
  | .ok received => ∀ v ∈ received, v.WF
  | .error e => ∃ msg, e = .raised msg

/-- The values one after another, as long as the turns exceed the bytes. -/
theorem unpackAll_received (border : Entries → Nat) (fuel : Nat) : ∀ {rb : List UInt8}, rb.length < fuel →
    Received (unpackAll border fuel rb) := by
  induction fuel with
  | zero => exact fun h => absurd h (Nat.not_lt_zero _)
  | succ fuel ih =>
    intro rb hfuel
    cases rb with
    | nil => exact fun v hv => absurd hv List.not_mem_nil
    | cons t rb =>
      obtain ⟨hone, hless⟩ := unpackOne_sound border (fuel + 1) (t :: rb) hfuel
      rw [unpackAll_succ]
      cases hp : unpackOne border (fuel + 1) (t :: rb) with
      | error e =>
        rw [hp] at hone
        exact hone
      | ok p =>
        obtain ⟨v, rest⟩ := p
        rw [hp] at hone
        have hrest := ih (Nat.lt_of_lt_of_le (hless v rest hp) (Nat.le_of_lt_succ hfuel))
        dsimp only
        cases hr : unpackAll border fuel rest with
        | error e =>
          rw [hr] at hrest
          exact hrest
        | ok vs =>
          rw [hr] at hrest
          exact List.forall_mem_cons.2 ⟨hone.1, hrest⟩

/-- Whatever the bytes are, `luaseri_unpack` comes to an end and gives values as Lua has them, or raises an error, and no
byte outside of the buffer is ever read. -/
theorem unpack_sound (border : Entries → Nat) (buffer : List UInt8) :
    (∀ received, luaseriUnpack border buffer = .ok received → ∀ v ∈ received, v.WF) ∧
      luaseriUnpack border buffer ≠ .error .fuel ∧ luaseriUnpack border buffer ≠ .error .outside := by
  have hall : Received (luaseriUnpack border buffer) := unpackAll_received border _ (Nat.lt_succ_self _)
  refine ⟨fun received h => ?_, fun h => ?_, fun h => ?_⟩
  · rw [h] at hall
    exact hall
  · rw [h] at hall
    obtain ⟨msg, hmsg⟩ := hall
    cases hmsg
  · rw [h] at hall
    obtain ⟨msg, hmsg⟩ := hall
    cases hmsg

/-- A nil, and a string of 2^31 bytes of which none is there: `rb_read` does not mind, Lua does. -/
example : luaseriUnpack (fun _ => 0) [0, 0x25, 0, 0, 0, 0x80] = .error
    (.raised "memory allocation error: block too big") := by rfl

end SasyServer.LuaSeri
