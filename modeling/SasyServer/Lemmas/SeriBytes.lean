import SasyServer.Skynet.LuaSeri

/-!
# What the writers of `lua-seri.c` put down, and what the readers make of it

`Appends b b' bytes`: a writer has put `bytes` behind what was in the blocks. `Reads w bytes`: `unpackOne` takes exactly
`bytes` for `w`, whatever follows. Each writer of a value that is no table is followed by its reader here.
-/

namespace SasyServer.LuaSeri

/-- From the one block list to the other, `bytes` have been written. -/
def Appends (b b' : WriteBlock) (bytes : List UInt8) : Prop :=
  b'.buffer.toList = b.buffer.toList ++ bytes ∧ b'.len = b.len + bytes.length

theorem appends_push (b : WriteBlock) (buf : List UInt8) : Appends b (wbPush b buf) buf :=
  ⟨BlockBuffer.toList_push b.buffer buf, rfl⟩

theorem Appends.refl (b : WriteBlock) : Appends b b [] := ⟨(List.append_nil _).symm, rfl⟩

/-- One after the other. -/
theorem Appends.trans {b b' b'' : WriteBlock} {bytes bytes' : List UInt8} (h : Appends b b' bytes)
    (h' : Appends b' b'' bytes') :
    Appends b b'' (bytes ++ bytes') := by
  obtain ⟨hbytes, hlen⟩ := h
  obtain ⟨hbytes', hlen'⟩ := h'
  refine ⟨?_, ?_⟩
  · rw [hbytes', hbytes, List.append_assoc]
  · rw [hlen', hlen, List.length_append, Nat.add_assoc]

/-- A write after another. -/
theorem Appends.push {b b' : WriteBlock} {bytes : List UInt8} (h : Appends b b' bytes) (buf : List UInt8) :
    Appends b (wbPush b' buf) (bytes ++ buf) :=
  h.trans (appends_push b' buf)

/-- The message is what has been written, if an `int` has room for its length. -/
theorem seri_eq {b : WriteBlock} {bytes : List UInt8} (h : Appends wbInit b bytes) :
    seri b = if bytes.length < 2 ^ 31 then .ok bytes else .error .overflow := by
  obtain ⟨hbytes, hlen⟩ := h
  have hlist : b.buffer.toList = bytes := hbytes
  have hcount : b.len = bytes.length := hlen.trans (Nat.zero_add _)
  rw [seri, hcount, ← hlist, BlockBuffer.copyOut_blocks]

/-! ## Reads -/

/-- A read that is there gets the bytes in front. -/
theorem readAt_eq (line : Nat) (rb : List UInt8) (sz : Nat) :
    readAt line rb sz = if rb.length < sz then .error (invalidStream rb line) else .ok (rb.take sz, rb.drop sz) := by
  unfold readAt rbRead
  by_cases h : rb.length < sz
  · rw [if_pos (Int.ofNat_lt.2 h), if_pos h]
  · rw [if_neg (fun h' => h (Int.ofNat_lt.1 h')), if_neg h]
    dsimp only
    rw [bytesAt, if_pos (Nat.not_lt.1 h), Int.toNat_natCast]

/-- A read of as many bytes as there were written. -/
theorem readAs_append {α : Type} (line : Nat) {bs : List UInt8} {sz : Nat} (h : bs.length = sz) (rest : List UInt8)
    (f : List UInt8 → α) :
    readAs line (bs ++ rest) sz f = .ok (f bs, rest) := by
  subst h
  rw [readAs, readAt_eq, if_neg (by rw [List.length_append]; omega), List.take_left, List.drop_left]

/-- A number of some bytes. -/
theorem readAs_bytes {α : Type} (line width v : Nat) (rest : List UInt8) (f : List UInt8 → α) :
    readAs line (LittleEndian.bytes width v ++ rest) width f = .ok (f (LittleEndian.bytes width v), rest) :=
  readAs_append line (LittleEndian.length_bytes width v) rest f

/-- The length of a string that an `int` has room for is the same as a `size_t`, and short enough for Lua. -/
theorem toNat_ofInt_length {n : Nat} (h : n < 2 ^ 31) : (BitVec.ofInt 64 (n : Int)).toNat = n := by
  rw [BitVec.ofInt_natCast, BitVec.toNat_ofNat, Nat.mod_eq_of_lt (by omega)]

/-- `get_buffer` with a length that is not negative is a read like the others. -/
theorem getBuffer_eq {len : Nat} (h : len < 2 ^ 31) (rb : List UInt8) : getBuffer rb len = readAs 427 rb len .string := by
  rw [getBuffer, readAs, readAt, toNat_ofInt_length h]
  cases rbRead rb len with
  | none => rfl
  | some p =>
    dsimp only
    rw [luaPushlstring, if_neg (by rw [maxString]; omega)]
    cases bytesAt p.1 len <;> rfl

theorem getBuffer_append {s : List UInt8} (h : s.length < 2 ^ 31) (rest : List UInt8) :
    getBuffer (s ++ rest) s.length = .ok (.string s, rest) := by
  rw [getBuffer_eq h, readAs_append _ rfl]

/-- A length in four bytes is the `int` it is made, as long as it has room. -/
theorem toInt_ofNat_length {n : Nat} (h : n < 2 ^ 31) : (BitVec.ofNat 32 n).toInt = n := by
  rw [BitVec.toInt_ofNat', Int.bmod_def]
  omega

theorem toNat_combineType {t v : Nat} (ht : t < 8) (hv : v < 32) : (combineType t v).toNat = t + 8 * v := by
  rw [combineType, UInt8.toNat_ofNat']
  omega

section Border

variable (border : Entries → Nat)

/-- `unpackOne` takes exactly these bytes for the value. -/
def Reads (w : Value) (bytes : List UInt8) : Prop :=
  ∀ fuel rest, bytes.length < fuel → unpackOne border fuel (bytes ++ rest) = .ok (w, rest)

variable {border}

/-- The first byte of a value. -/
theorem unpackOne_cons (fuel : Nat) (t : UInt8) (rb : List UInt8) :
    unpackOne border (fuel + 1) (t :: rb) = pushValue (unpackOne border fuel) border fuel (t.toNat % 8)
      (t.toNat / 8) rb := by
  have hread : readAs 528 (t :: rb) 1 LittleEndian.value = .ok (t.toNat, rb) :=
    readAs_append 528 (show [t].length = 1 from rfl) rb LittleEndian.value
  rw [unpackOne, hread]

/-- The loop of `luaseri_unpack` takes the values of the stream one after the other. -/
theorem unpackAll_succ (fuel : Nat) (t : UInt8) (rb : List UInt8) :
    unpackAll border (fuel + 1) (t :: rb) =
      match unpackOne border (fuel + 1) (t :: rb) with
      | .error e => .error e
      | .ok (v, rb) =>
        match unpackAll border fuel rb with
        | .ok vs => .ok (v :: vs)
        | .error e => .error e := by
  have hread : rbRead (t :: rb) 1 = some (t :: rb, rb) := if_neg (by rw [List.length_cons]; omega)
  rw [unpackOne_cons, unpackAll, hread]
  rfl

theorem unpackOne_combine {t v : Nat} (ht : t < 8) (hv : v < 32) (fuel : Nat) (rb : List UInt8) :
    unpackOne border (fuel + 1) (combineType t v :: rb) = pushValue (unpackOne border fuel) border fuel t v rb := by
  rw [unpackOne_cons, toNat_combineType ht hv, show (t + 8 * v) % 8 = t by omega, show (t + 8 * v) / 8 = v by omega]

/-- A value whose first byte says its type and whose other bytes `pushValue` takes. -/
theorem reads_of_pushValue {t v : Nat} (ht : t < 8) (hv : v < 32) {w : Value} {bytes : List UInt8}
    (h : ∀ fuel rest, bytes.length < fuel →
    pushValue (unpackOne border fuel) border fuel t v (bytes ++ rest) = .ok (w, rest)) :
    Reads border w (combineType t v :: bytes) := by
  intro fuel rest hfuel
  rw [List.length_cons] at hfuel
  obtain ⟨fuel, rfl⟩ := Nat.exists_eq_add_of_lt (Nat.zero_lt_of_lt hfuel)
  rw [Nat.zero_add, List.cons_append, unpackOne_combine ht hv]
  exact h fuel rest (by omega)

/-- There is no value without a byte. -/
theorem Reads.pos {w : Value} {bytes : List UInt8} (h : Reads border w bytes) : 0 < bytes.length := by
  rcases bytes with _ | ⟨b, bytes⟩
  · have hnone := h 1 [] Nat.one_pos
    cases hnone
  · exact Nat.succ_pos _

/-- Nothing after the first byte. -/
theorem reads_single {t v : Nat} (ht : t < 8) (hv : v < 32) {w : Value}
    (h : ∀ fuel rest, pushValue (unpackOne border fuel) border fuel t v rest = .ok (w, rest)) :
    Reads border w [combineType t v] :=
  reads_of_pushValue ht hv fun fuel rest _ => h fuel rest

theorem reads_nil : Reads border .nil [UInt8.ofNat typeNil] :=
  reads_single (t := typeNil) (v := 0) (by decide) (by decide) fun _ _ => rfl

theorem appends_nil (wb : WriteBlock) : Appends wb (wbNil wb) [UInt8.ofNat typeNil] := appends_push wb _

theorem reads_boolean (b : Bool) : Reads border (.boolean b) [combineType typeBoolean (if b then 1 else 0)] := by
  cases b with
  | false => exact reads_single (by decide) (by decide) fun _ _ => rfl
  | true => exact reads_single (by decide) (by decide) fun _ _ => rfl

/-- An integer whose kind says how `getInteger` reads it. -/
theorem reads_integer {cookie : Nat} (hcookie : cookie < 8) {x : BitVec 64} {bytes : List UInt8}
    (h : ∀ rest, getInteger (bytes ++ rest) cookie = .ok (x, rest)) :
    Reads border (.integer x) (combineType typeNumber cookie :: bytes) := by
  refine reads_of_pushValue (by decide) (by omega) fun fuel rest _ => ?_
  rw [pushValue, if_neg (by decide), if_neg (by decide), if_pos rfl, if_neg (by rw [typeNumberReal]; omega),
    h rest, Reading.map]

/-! ## The forms of an integer -/

theorem getInteger_zero (rest : List UInt8) : getInteger rest typeNumberZero = .ok (0, rest) := rfl

theorem getInteger_byte (v : Nat) (hv : v < 2 ^ 8) (rest : List UInt8) :
    getInteger (LittleEndian.bytes 1 v ++ rest) typeNumberByte = .ok (BitVec.ofNat 64 v, rest) := by
  rw [getInteger, if_neg (by decide), if_pos rfl, readAs_bytes, LittleEndian.value_bytes_of_lt hv]

theorem getInteger_word (v : Nat) (hv : v < 2 ^ 16) (rest : List UInt8) :
    getInteger (LittleEndian.bytes 2 v ++ rest) typeNumberWord = .ok (BitVec.ofNat 64 v, rest) := by
  rw [getInteger, if_neg (by decide), if_neg (by decide), if_pos rfl, readAs_bytes, LittleEndian.value_bytes_of_lt hv]

theorem getInteger_dword (v : Nat) (rest : List UInt8) :
    getInteger (LittleEndian.bytes 4 v ++ rest) typeNumberDword = .ok ((BitVec.ofNat 32 v).signExtend 64, rest) := by
  have hv : BitVec.ofNat 32 (LittleEndian.value (LittleEndian.bytes 4 v)) = BitVec.ofNat 32 v := by
    rw [LittleEndian.value_bytes]
    exact BitVec.eq_of_toNat_eq (by rw [BitVec.toNat_ofNat, BitVec.toNat_ofNat]; omega)
  rw [getInteger, if_neg (by decide), if_neg (by decide), if_neg (by decide), if_pos rfl, readAs_bytes, hv]

theorem getInteger_qword (x : BitVec 64) (rest : List UInt8) :
    getInteger (LittleEndian.bytes 8 x.toNat ++ rest) typeNumberQword = .ok (x, rest) := by
  rw [getInteger, if_neg (by decide), if_neg (by decide), if_neg (by decide), if_neg (by decide), if_pos rfl, readAs_bytes,
    LittleEndian.value_bytes_of_lt x.isLt, BitVec.ofNat_toNat, BitVec.setWidth_eq]

/-- A number of 32 bits with its sign. -/
theorem signExtend_setWidth {x : BitVec 64} (h : fitsInt32 x = true) : (BitVec.ofNat 32 x.toNat).signExtend 64 = x := by
  rw [fitsInt32, Bool.and_eq_true, decide_eq_true_eq, decide_eq_true_eq] at h
  apply BitVec.eq_of_toInt_eq
  rw [BitVec.toInt_signExtend_of_le (by decide), BitVec.toInt_ofNat']
  have hx := x.toInt_eq_toNat_bmod
  have hlt := x.isLt
  simp only [Int.bmod_def] at hx ⊢
  omega

/-- A small number that is not negative. -/
theorem ofNat_toNat {x : BitVec 64} : BitVec.ofNat 64 x.toNat = x := by rw [BitVec.ofNat_toNat, BitVec.setWidth_eq]

theorem toNat_of_nonneg {x : BitVec 64} (h : 0 ≤ x.toInt) : (x.toNat : Int) = x.toInt := by
  have hx := x.toInt_eq_toNat_bmod
  have hlt := x.isLt
  rw [Int.bmod_def] at hx
  omega

/-- `wb_integer` and `get_integer`: what one writes, the other reads, and the bytes in between. -/
theorem wbInteger_spec (wb : WriteBlock) (x : BitVec 64) :
    ∃ cookie bytes, cookie < 8 ∧ bytes.length ≤ 8 ∧ Appends wb (wbInteger wb x) (combineType typeNumber cookie :: bytes) ∧
      ∀ rest, getInteger (bytes ++ rest) cookie = .ok (x, rest) := by
  unfold wbInteger
  by_cases hzero : x.toInt = 0
  · rw [if_pos hzero]
    obtain rfl : x = 0 := BitVec.eq_of_toInt_eq hzero
    exact ⟨typeNumberZero, [], by decide, by decide, appends_push wb _, getInteger_zero⟩
  rw [if_neg hzero]
  by_cases hfits : fitsInt32 x = false
  · rw [if_pos hfits]
    exact ⟨typeNumberQword, LittleEndian.bytes 8 x.toNat, by decide, by simp, (appends_push wb _).push _, getInteger_qword x⟩
  rw [if_neg hfits]
  have hdword : ∀ rest, getInteger (LittleEndian.bytes 4 x.toNat ++ rest) typeNumberDword = .ok (x, rest) := fun rest => by
    rw [getInteger_dword, signExtend_setWidth (Bool.not_eq_false _ ▸ hfits)]
  by_cases hneg : x.toInt < 0
  · rw [if_pos hneg]
    exact ⟨typeNumberDword, LittleEndian.bytes 4 x.toNat, by decide, by simp, (appends_push wb _).push _, hdword⟩
  rw [if_neg hneg]
  have hnat := toNat_of_nonneg (Int.not_lt.1 hneg)
  by_cases hbyte : x.toInt < 0x100
  · rw [if_pos hbyte]
    refine ⟨typeNumberByte, LittleEndian.bytes 1 x.toNat, by decide, by simp, (appends_push wb _).push _, fun rest => ?_⟩
    rw [getInteger_byte _ (by omega), ofNat_toNat]
  rw [if_neg hbyte]
  by_cases hword : x.toInt < 0x10000
  · rw [if_pos hword]
    refine ⟨typeNumberWord, LittleEndian.bytes 2 x.toNat, by decide, by simp, (appends_push wb _).push _, fun rest => ?_⟩
    rw [getInteger_word _ (by omega), ofNat_toNat]
  · rw [if_neg hword]
    exact ⟨typeNumberDword, LittleEndian.bytes 4 x.toNat, by decide, by simp, (appends_push wb _).push _, hdword⟩

/-! ## The other values -/

theorem reads_number (x : BitVec 64) :
    Reads border (.number x) (combineType typeNumber typeNumberReal :: LittleEndian.bytes 8 x.toNat) := by
  refine reads_of_pushValue (by decide) (by decide) fun fuel rest _ => ?_
  rw [pushValue, if_neg (by decide), if_neg (by decide), if_pos rfl, if_pos rfl, getReal, readAs_bytes,
    LittleEndian.value_bytes_of_lt x.isLt, ofNat_toNat, Reading.map]

theorem reads_lightuserdata (p : BitVec 64) :
    Reads border (.lightuserdata p) (combineType typeUserdata 0 :: LittleEndian.bytes 8 p.toNat) := by
  refine reads_of_pushValue (by decide) (by decide) fun fuel rest _ => ?_
  rw [pushValue, if_neg (by decide), if_neg (by decide), if_neg (by decide), if_pos rfl, getPointer, readAs_bytes,
    LittleEndian.value_bytes_of_lt p.isLt, ofNat_toNat, Reading.map]

/-- A string whose length fits a cookie. -/
theorem reads_short {s : List UInt8} (h : s.length < maxCookie) :
    Reads border (.string s) (combineType typeShortString s.length :: s) := by
  refine reads_of_pushValue (by decide) h fun fuel rest _ => ?_
  rw [pushValue, if_neg (by decide), if_neg (by decide), if_neg (by decide), if_neg (by decide), if_pos rfl,
    getBuffer_append (Nat.lt_trans h (by decide))]

/-- A string with its length in `width` bytes before it. -/
theorem reads_long {s : List UInt8} {width : Nat} (hwidth : width = 2 ∨ width = 4) (hs : s.length < 2 ^ 31)
    (h : s.length < 256 ^ width) :
    Reads border (.string s) (combineType typeLongString width :: (LittleEndian.bytes width s.length ++ s)) := by
  refine reads_of_pushValue (by decide) (by omega) fun fuel rest _ => ?_
  rw [pushValue, if_neg (by decide), if_neg (by decide), if_neg (by decide), if_neg (by decide),
    if_neg (by decide), if_pos rfl, List.append_assoc, getLongString]
  rcases hwidth with rfl | rfl
  · rw [if_pos rfl, readAs_bytes, LittleEndian.value_bytes_of_lt h]
    exact getBuffer_append hs rest
  · rw [if_neg (by decide), if_neg (by decide), readAs_bytes, LittleEndian.value_bytes_of_lt h]
    dsimp only
    rw [toInt_ofNat_length hs]
    exact getBuffer_append hs rest

variable (border) in
/-- A string is written with its length in one of three ways, and read so. -/
theorem wbString_spec (wb : WriteBlock) (s : List UInt8) :
    ∃ bytes, Appends wb (wbString wb s) bytes ∧ (bytes.length < 2 ^ 31 → Reads border (.string s) bytes) := by
  have hlong : ∀ width : Nat,
      (combineType typeLongString width :: (LittleEndian.bytes width s.length ++ s)).length < 2 ^ 31 →
      s.length < 2 ^ 31 := fun width h => by
    rw [List.length_cons, List.length_append] at h
    omega
  unfold wbString
  by_cases hshort : s.length < maxCookie
  · rw [if_pos hshort]
    refine ⟨_, ?_, fun _ => reads_short hshort⟩
    dsimp only
    by_cases hpos : 0 < s.length
    · rw [if_pos hpos]
      exact (appends_push wb _).push s
    · rw [if_neg hpos, List.length_eq_zero_iff.1 (Nat.eq_zero_of_not_pos hpos)]
      exact appends_push wb _
  rw [if_neg hshort]
  by_cases hword : s.length < 0x10000
  · rw [if_pos hword]
    exact ⟨_, ((appends_push wb _).push _).push s, fun h => reads_long (Or.inl rfl) (hlong 2 h) hword⟩
  · rw [if_neg hword]
    exact ⟨_, ((appends_push wb _).push _).push s,
      fun h => reads_long (Or.inr rfl) (hlong 4 h) (Nat.lt_trans (hlong 4 h) (by decide))⟩

variable (border) in
/-- An integer as a value. -/
theorem wbInteger_reads (wb : WriteBlock) (x : BitVec 64) :
    ∃ bytes, Appends wb (wbInteger wb x) bytes ∧ Reads border (.integer x) bytes := by
  obtain ⟨cookie, bytes, hcookie, _, happ, hget⟩ := wbInteger_spec wb x
  exact ⟨_, happ, reads_integer hcookie hget⟩

end Border

end SasyServer.LuaSeri
