import SasyServer.Websocket.Frames

/-!
# `readSize` on the header of a client frame

A complete header gives the payload length, the length of the header and the mask; a proper prefix of one gives -1. These are
the only facts about `readSize` that the theorems on well-formed streams use.
-/

namespace SasyServer.Websocket

/-- The bits of the first byte of a data frame. -/
theorem firstByte_bits : ∀ op : Fin 16, op ≠ 0 → op ≠ 8 →
    (firstByte op >>> 7) &&& 0x1 = 1 ∧ (firstByte op >>> 6) &&& 0x1 = 0 ∧ (firstByte op >>> 5) &&& 0x1 = 0 ∧
      (firstByte op >>> 4) &&& 0x1 = 0 ∧ firstByte op &&& 0xf ≠ 0 ∧ firstByte op &&& 0xf ≠ 8 := by
  decide

/-- The bits of the second byte. -/
theorem secondByte_bits : ∀ (m : Bool) (len : Fin 128),
    ((secondByte m len >>> 7) &&& 0x1 ≠ 0 ↔ m = true) ∧ (secondByte m len &&& 0x7f).toNat = len.val := by
  decide

/-- A mask key after the offset is read. -/
theorem readMask_some (n : Int) (offset : Nat) {isMask : UInt8} (hm : isMask ≠ 0) (pre x : List UInt8) (k : Mask)
    (hp : pre.length = offset) :
    readMask n offset isMask (pre ++ (k.bytes ++ x)) = (n, ⟨offset + websocketMaskLen, k, true⟩) := by
  simp only [readMask, hm, ne_eq, not_false_eq_true, if_true, ← hp, List.drop_left, Mask.bytes, List.cons_append]

/-- Fewer than four bytes after the offset are no mask key. -/
theorem readMask_short (n : Int) (offset : Nat) {isMask : UInt8} (hm : isMask ≠ 0) (pre p : List UInt8)
    (hp : pre.length = offset) (hs : p.length < 4) : readMask n offset isMask (pre ++ p) = (-1, Head.init) := by
  simp only [readMask, hm, ne_eq, not_false_eq_true, if_true, ← hp, List.drop_left]
  split
  · simp only [List.length_cons] at hs
    omega
  · rfl

/-- Without the mask bit nothing more is read. -/
theorem readMask_zero (n : Int) (offset : Nat) (buffer : List UInt8) :
    readMask n offset 0 buffer = (n, ⟨offset, Mask.zero, false⟩) := by
  simp [readMask]

theorem length_bigEndian (k n : Nat) : (bigEndian k n).length = k := by
  induction k generalizing n with
  | zero => rfl
  | succ k ih => simp [bigEndian, ih]

/-- `ntohs` of two bytes: the first is the high one. -/
theorem ntohs_load32 (b0 b1 : UInt8) : ntohs (load32 b0 b1 0 0) = b0.toNat * 2 ^ 8 + b1.toNat := by
  have h0 := b0.toNat_lt
  have h1 := b1.toNat_lt
  have hz : (0 : UInt8).toNat = 0 := rfl
  simp only [ntohs, load32, hz]
  generalize b0.toNat = x at h0
  generalize b1.toNat = y at h1
  have e : (x + 2 ^ 8 * y + 2 ^ 16 * 0 + 2 ^ 24 * 0) % 2 ^ 16 = x + 2 ^ 8 * y := Nat.mod_eq_of_lt (by omega)
  rw [e]
  omega

/-- `ntohl` of four bytes: the first is the highest one. -/
theorem ntohl_load32 (b0 b1 b2 b3 : UInt8) :
    ntohl (load32 b0 b1 b2 b3) = b0.toNat * 2 ^ 24 + b1.toNat * 2 ^ 16 + b2.toNat * 2 ^ 8 + b3.toNat := by
  have h0 := b0.toNat_lt
  have h1 := b1.toNat_lt
  have h2 := b2.toNat_lt
  have h3 := b3.toNat_lt
  simp only [ntohl, load32]
  generalize b0.toNat = x at h0
  generalize b1.toNat = y at h1
  generalize b2.toNat = z at h2
  generalize b3.toNat = w at h3
  have e0 : (x + 2 ^ 8 * y + 2 ^ 16 * z + 2 ^ 24 * w) % 2 ^ 8 = x := by omega
  have e1 : (x + 2 ^ 8 * y + 2 ^ 16 * z + 2 ^ 24 * w) / 2 ^ 8 = y + 2 ^ 8 * z + 2 ^ 16 * w := by omega
  have e2 : (x + 2 ^ 8 * y + 2 ^ 16 * z + 2 ^ 24 * w) / 2 ^ 16 = z + 2 ^ 8 * w := by omega
  have e3 : (x + 2 ^ 8 * y + 2 ^ 16 * z + 2 ^ 24 * w) / 2 ^ 24 = w := by omega
  rw [e0, e1, e2, e3]
  omega

theorem load32_lt (b0 b1 b2 b3 : UInt8) : load32 b0 b1 b2 b3 < 2 ^ 32 := by
  have h0 := b0.toNat_lt
  have h1 := b1.toNat_lt
  have h2 := b2.toNat_lt
  have h3 := b3.toNat_lt
  simp only [load32]
  omega

/-- `ntoh64` of eight bytes: the first is the highest one. -/
theorem ntoh64_load64 (b0 b1 b2 b3 b4 b5 b6 b7 : UInt8) :
    ntoh64 (load64 b0 b1 b2 b3 b4 b5 b6 b7) = ntohl (load32 b0 b1 b2 b3) * 2 ^ 32 + ntohl (load32 b4 b5 b6 b7) := by
  have h0 := load32_lt b0 b1 b2 b3
  have h1 := load32_lt b4 b5 b6 b7
  simp only [ntoh64, load64]
  have e0 : (load32 b0 b1 b2 b3 + 2 ^ 32 * load32 b4 b5 b6 b7) % 2 ^ 32 = load32 b0 b1 b2 b3 := by omega
  have e1 : (load32 b0 b1 b2 b3 + 2 ^ 32 * load32 b4 b5 b6 b7) / 2 ^ 32 % 2 ^ 32 = load32 b4 b5 b6 b7 := by omega
  rw [e0, e1]

/-- The two bytes of a length, read back. -/
theorem ntohs_bigEndian {n : Nat} (h : n < 2 ^ 16) :
    ntohs (load32 (UInt8.ofNat (n / 2 ^ 8)) (UInt8.ofNat n) 0 0) = n := by
  rw [ntohs_load32, UInt8.toNat_ofNat', UInt8.toNat_ofNat', Nat.mod_eq_of_lt (show n / 2 ^ 8 < 2 ^ 8 by omega)]
  omega

theorem toInt32_of_lt {n : Nat} (h : n < 2 ^ 31) : toInt32 n = n := by
  unfold toInt32
  rw [Int.bmod_eq_of_le] <;> omega

/-- The eight bytes of a length below 2^16, read back. -/
theorem ntoh64_bigEndian {n : Nat} (h : n < 2 ^ 16) :
    ntoh64 (load64 0 0 0 0 0 0 (UInt8.ofNat (n / 2 ^ 8)) (UInt8.ofNat n)) = n := by
  have hz : (0 : UInt8).toNat = 0 := rfl
  rw [ntoh64_load64, ntohl_load32, ntohl_load32, UInt8.toNat_ofNat', UInt8.toNat_ofNat', hz,
    Nat.mod_eq_of_lt (show n / 2 ^ 8 < 2 ^ 8 by omega)]
  omega

theorem bigEndian_two (n : Nat) : bigEndian 2 n = [UInt8.ofNat (n / 2 ^ 8), UInt8.ofNat n] := rfl

theorem bigEndian_eight {n : Nat} (h : n < 2 ^ 16) :
    bigEndian 8 n = [0, 0, 0, 0, 0, 0, UInt8.ofNat (n / 2 ^ 8), UInt8.ofNat n] := by
  have h2 : n / 256 / 256 = 0 := by omega
  simp [bigEndian, h2]

/-- `readSize` behind the first byte of a data frame. -/
theorem readSize_cons (op : Fin 16) (h0 : op ≠ 0) (h8 : op ≠ 8) (m : Bool) (len : Fin 128) (rest : List UInt8) :
    readSize (firstByte op :: secondByte m len :: rest) =
      if len.val < 126 then
        readMask len.val websocketHeaderLen ((secondByte m len >>> 7) &&& 0x1) (firstByte op :: secondByte m len :: rest)
      else if len.val = 126 then
        match rest with
        | b0 :: b1 :: _ =>
          readMask (ntohs (load32 b0 b1 0 0)) (websocketHeaderLen + 2) ((secondByte m len >>> 7) &&& 0x1)
            (firstByte op :: secondByte m len :: rest)
        | _ => (-1, Head.init)
      else
        match rest with
        | b0 :: b1 :: b2 :: b3 :: b4 :: b5 :: b6 :: b7 :: _ =>
          readMask (toInt32 (ntoh64 (load64 b0 b1 b2 b3 b4 b5 b6 b7))) (websocketHeaderLen + 8)
            ((secondByte m len >>> 7) &&& 0x1) (firstByte op :: secondByte m len :: rest)
        | _ => (-1, Head.init) := by
  obtain ⟨hf, h1, h2, h3, hz, he⟩ := firstByte_bits op h0 h8
  obtain ⟨-, hl⟩ := secondByte_bits m len
  have hlt : secondByte m len &&& 0x7f < 0x7E ↔ len.val < 126 := by rw [UInt8.lt_iff_toNat_lt, hl]; rfl
  have heq : 0x7E = secondByte m len &&& 0x7f ↔ len.val = 126 := by
    rw [← UInt8.toNat_inj, hl]
    exact eq_comm
  simp only [readSize, hf, h1, h2, h3, hz, he, hlt, heq, hl, ne_eq, not_true_eq_false, or_self, if_false,
    or_false]
  rfl

/-! ## Complete and incomplete headers -/

/-- What `readSize` stores for a frame. -/
def Frame.head (f : Frame) : Head := ⟨f.header.length, f.mask.getD Mask.zero, f.mask.isSome⟩

/-- The mask bit of the second byte. -/
theorem isMask_secondByte (m : Bool) (len : Fin 128) : (secondByte m len >>> 7) &&& 0x1 ≠ 0 ↔ m = true :=
  (secondByte_bits m len).1

theorem length_key (f : Frame) : f.key.length = if f.mask.isSome then 4 else 0 := by
  unfold Frame.key
  cases f.mask <;> rfl

/-- The key of a frame, read after the length. -/
theorem readMask_key (f : Frame) (n : Int) (len : Fin 128) (pre x : List UInt8) :
    readMask n pre.length ((secondByte f.mask.isSome len >>> 7) &&& 0x1) (pre ++ (f.key ++ x)) =
      (n, ⟨pre.length + f.key.length, f.mask.getD Mask.zero, f.mask.isSome⟩) := by
  unfold Frame.key
  cases hk : f.mask with
  | none =>
    have hz : (secondByte false len >>> 7) &&& 0x1 = 0 := by
      by_contra hne
      exact absurd ((isMask_secondByte false len).1 hne) (by decide)
    simp only [Option.isSome_none, hz, readMask_zero, Option.map_none, Option.getD_none, List.length_nil, Nat.add_zero]
  | some k =>
    exact readMask_some n pre.length ((isMask_secondByte true len).2 rfl) pre x k rfl

/-- A part of the key of a frame is not enough. -/
theorem readMask_key_part (f : Frame) (n : Int) (len : Fin 128) (pre p y : List UInt8) (hk : f.key = p ++ y) (hy : y ≠ []) :
    readMask n pre.length ((secondByte f.mask.isSome len >>> 7) &&& 0x1) (pre ++ p) = (-1, Head.init) := by
  have hl := length_key f
  rw [hk, List.length_append] at hl
  have hy' := List.length_pos_iff.mpr hy
  cases hm : f.mask.isSome with
  | false =>
    rw [hm, if_neg (by decide)] at hl
    omega
  | true =>
    rw [hm, if_pos rfl] at hl
    exact readMask_short n pre.length ((isMask_secondByte true len).2 rfl) pre p rfl (by omega)

/-- A complete header gives the payload length, whatever follows. -/
theorem readSize_header (f : Frame) (x : List UInt8) : readSize (f.header ++ x) = ((f.payload.length : Int), f.head) := by
  have hn : f.payload.length < 2 ^ 16 := Nat.lt_of_le_of_lt f.length_ok (by decide)
  have hmask := readMask_key f
  unfold Frame.head Frame.header
  simp only [List.cons_append, List.append_assoc]
  rw [readSize_cons _ f.opcode_ok.1 f.opcode_ok.2]
  unfold Frame.len7 Frame.extended
  cases he : f.encoding with
  | short =>
    have hs := f.encoding_ok he
    have hv : (Fin.ofNat 128 f.payload.length).val = f.payload.length := Nat.mod_eq_of_lt (by omega)
    simp only [hv, List.nil_append]
    rw [if_pos (by omega)]
    exact (hmask _ _ [firstByte f.opcode, secondByte f.mask.isSome _] x).trans (by simp; omega)
  | ext16 =>
    simp only [bigEndian_two, List.cons_append, List.nil_append]
    rw [if_neg (by decide), if_pos (by decide), ntohs_bigEndian hn]
    exact (hmask _ _ [firstByte f.opcode, secondByte f.mask.isSome _, _, _] x).trans (by simp; omega)
  | ext64 =>
    simp only [bigEndian_eight hn, List.cons_append, List.nil_append]
    rw [if_neg (by decide), if_neg (by decide), ntoh64_bigEndian hn, toInt32_of_lt (by omega)]
    exact (hmask _ _ [firstByte f.opcode, secondByte f.mask.isSome _, _, _, _, _, _, _, _, _] x).trans (by simp; omega)

/-- A proper prefix of a header is not complete. -/
theorem readSize_prefix (f : Frame) (p y : List UInt8) (hp : f.header = p ++ y) (hy : y ≠ []) :
    readSize p = (-1, Head.init) := by
  have hn : f.payload.length < 2 ^ 16 := Nat.lt_of_le_of_lt f.length_ok (by decide)
  match p with
  | [] => rfl
  | [b] => rfl
  | b0 :: b1 :: p =>
    unfold Frame.header at hp
    simp only [List.cons_append, List.cons.injEq] at hp
    obtain ⟨rfl, rfl, hp⟩ := hp
    rw [readSize_cons _ f.opcode_ok.1 f.opcode_ok.2]
    have hpart := readMask_key_part f
    unfold Frame.extended at hp
    unfold Frame.len7
    cases he : f.encoding with
    | short =>
      have hs := f.encoding_ok he
      have hv : (Fin.ofNat 128 f.payload.length).val = f.payload.length := Nat.mod_eq_of_lt (by omega)
      rw [he] at hp
      simp only [hv]
      rw [if_pos (by omega)]
      exact hpart _ _ [firstByte f.opcode, secondByte f.mask.isSome _] p y hp hy
    | ext16 =>
      rw [he] at hp
      simp only [bigEndian_two, List.cons_append, List.nil_append] at hp
      simp only
      rw [if_neg (by decide), if_pos (by decide)]
      -- either the length is cut, or it is complete and the key is cut
      match p, hp with
      | [], _ => rfl
      | [_], _ => rfl
      | c0 :: c1 :: p, hp =>
        simp only [List.cons_append, List.cons.injEq] at hp
        exact hpart _ _ [firstByte f.opcode, secondByte f.mask.isSome _, c0, c1] p y hp.2.2 hy
    | ext64 =>
      rw [he] at hp
      simp only [bigEndian_eight hn, List.cons_append, List.nil_append] at hp
      simp only
      rw [if_neg (by decide), if_neg (by decide)]
      match p, hp with
      | [], _ => rfl
      | [_], _ => rfl
      | [_, _], _ => rfl
      | [_, _, _], _ => rfl
      | [_, _, _, _], _ => rfl
      | [_, _, _, _, _], _ => rfl
      | [_, _, _, _, _, _], _ => rfl
      | [_, _, _, _, _, _, _], _ => rfl
      | c0 :: c1 :: c2 :: c3 :: c4 :: c5 :: c6 :: c7 :: p, hp =>
        simp only [List.cons_append, List.cons.injEq] at hp
        exact hpart _ _ [firstByte f.opcode, secondByte f.mask.isSome _, c0, c1, c2, c3, c4, c5, c6, c7] p y
          hp.2.2.2.2.2.2.2.2 hy

end SasyServer.Websocket
