import SasyServer.Lemmas.FrameHeader
import SasyServer.Websocket.Declared

/-!
# `readSize` in the terms of the protocol

The answer of `readSize` is the answer of the protocol, with the length narrowed to an `int` (`readSize_eq_encode`).
-/

namespace SasyServer.Websocket

/-! ## The bits of the first two bytes -/

/-- A bit of a byte. -/
theorem bit_eq_zero (b : UInt8) (k : UInt8) (hk : k.toNat < 8) : (b >>> k) &&& 0x1 = 0 ↔ b.toNat / 2 ^ k.toNat % 2 = 0 := by
  rw [← UInt8.toNat_inj, UInt8.toNat_and, UInt8.toNat_shiftRight, Nat.mod_eq_of_lt hk, Nat.shiftRight_eq_div_pow]
  exact iff_of_eq (congrArg (· = 0) (Nat.and_one_is_mod _))

/-- The three reserved bits are tested one by one. -/
theorem rsv_iff (b : UInt8) :
    ((0x0 : UInt8) ≠ (b >>> 6) &&& 0x1 ∨ (0x0 : UInt8) ≠ (b >>> 5) &&& 0x1 ∨ (0x0 : UInt8) ≠ (b >>> 4) &&& 0x1) ↔
      b.toNat / 2 ^ 4 % 2 ^ 3 ≠ 0 := by
  have h6 := bit_eq_zero b 6 (by decide)
  have h5 := bit_eq_zero b 5 (by decide)
  have h4 := bit_eq_zero b 4 (by decide)
  rw [show (6 : UInt8).toNat = 6 from rfl] at h6
  rw [show (5 : UInt8).toNat = 5 from rfl] at h5
  rw [show (4 : UInt8).toNat = 4 from rfl] at h4
  simp only [ne_eq, eq_comm (a := (0x0 : UInt8)), h6, h5, h4]
  omega

theorem fin_iff (b : UInt8) : (b >>> 7) &&& 0x1 = 0 ↔ b.toNat < 2 ^ 7 := by
  have h := b.toNat_lt
  rw [bit_eq_zero b 7 (by decide), show (7 : UInt8).toNat = 7 from rfl]
  omega

theorem opcode_toNat (b : UInt8) : (b &&& 0xf).toNat = b.toNat % 2 ^ 4 := by
  rw [UInt8.toNat_and]
  exact Nat.and_two_pow_sub_one_eq_mod b.toNat 4

theorem payloadLength_toNat (b : UInt8) : (b &&& 0x7f).toNat = b.toNat % 2 ^ 7 := by
  rw [UInt8.toNat_and]
  exact Nat.and_two_pow_sub_one_eq_mod b.toNat 7

theorem masked_iff (b : UInt8) : (b >>> 7) &&& 0x1 ≠ 0 ↔ masked b := by
  rw [ne_eq, fin_iff, Nat.not_lt, masked, decide_eq_true_eq]

/-! ## The length and the key -/

/-- The key after the offset, whether or not it is complete. -/
theorem readMask_eq (n : Int) (b0 b1 : UInt8) (rest : List UInt8) :
    readMask n (websocketHeaderLen + extendedLength b1) ((b1 >>> 7) &&& 0x1) (b0 :: b1 :: rest) =
      if masked b1 ∧ (b0 :: b1 :: rest).length < headLength b1 then (-1, Head.init) else (n, declaredHead b1 rest) := by
  have hdrop : (b0 :: b1 :: rest).drop (websocketHeaderLen + extendedLength b1) = rest.drop (extendedLength b1) := by
    rw [Nat.add_comm]
    rfl
  unfold readMask declaredHead headLength
  by_cases hm : masked b1
  · rw [if_pos ((masked_iff b1).2 hm), hdrop]
    simp only [hm, true_and, if_true, List.length_cons, websocketHeaderLen, websocketMaskLen]
    have hlen := List.length_drop (i := extendedLength b1) (l := rest)
    match hd : rest.drop (extendedLength b1) with
    | [] | [_] | [_, _] | [_, _, _] =>
      rw [hd] at hlen
      simp only [List.length_cons, List.length_nil] at hlen
      rw [if_pos (by omega)]
    | m0 :: m1 :: m2 :: m3 :: x =>
      rw [hd] at hlen
      simp only [List.length_cons] at hlen
      rw [if_neg (by omega)]
      rfl
  · rw [if_neg fun h => hm ((masked_iff b1).1 h)]
    simp [hm]

/-- The bytes of a length in sixteen bits. -/
theorem ntohs_eq (b0 b1 : UInt8) : ntohs (load32 b0 b1 0 0) = bigValue [b0, b1] := by
  rw [ntohs_load32]
  simp [bigValue]

/-- The bytes of a length in sixty-four bits. -/
theorem ntoh64_eq (b0 b1 b2 b3 b4 b5 b6 b7 : UInt8) :
    ntoh64 (load64 b0 b1 b2 b3 b4 b5 b6 b7) = bigValue [b0, b1, b2, b3, b4, b5, b6, b7] := by
  rw [ntoh64_load64, ntohl_load32, ntohl_load32]
  simp only [bigValue, List.foldl_cons, List.foldl_nil]
  omega

/-- A length of at most sixteen bits is an `int`. -/
theorem bigValue_two_lt (b0 b1 : UInt8) : bigValue [b0, b1] < 2 ^ 16 := by
  have h0 := b0.toNat_lt
  have h1 := b1.toNat_lt
  simp only [bigValue, List.foldl_cons, List.foldl_nil]
  omega

/-- With its length bytes complete, a header can only lack a part of its key. -/
theorem incomplete_iff {b1 : UInt8} {rest : List UInt8} (h : extendedLength b1 ≤ rest.length) (b0 : UInt8) :
    (b0 :: b1 :: rest).length < headLength b1 ↔ masked b1 ∧ (b0 :: b1 :: rest).length < headLength b1 := by
  simp only [headLength, List.length_cons, websocketHeaderLen]
  by_cases hm : masked b1
  · simp [hm]
  · simp [hm]
    omega

/-- The rest of `readSize` when the length bytes are complete. -/
theorem readMask_encode {n : Int} {b1 : UInt8} {rest : List UInt8} (h : extendedLength b1 ≤ rest.length)
    (hn : n = toInt32 (declaredLength b1 rest)) (b0 : UInt8) :
    readMask n (websocketHeaderLen + extendedLength b1) ((b1 >>> 7) &&& 0x1) (b0 :: b1 :: rest) =
      (if (b0 :: b1 :: rest).length < headLength b1 then Answer.incomplete
        else .frame (declaredLength b1 rest) (declaredHead b1 rest)).encode := by
  rw [readMask_eq, ← if_congr (incomplete_iff h b0) rfl rfl]
  split
  · rfl
  · rw [Answer.encode, hn]

/-- A header without its length bytes. -/
theorem answer_short {b0 b1 : UInt8} {rest : List UInt8} (h : rest.length < extendedLength b1) :
    (if (b0 :: b1 :: rest).length < headLength b1 then Answer.incomplete
      else .frame (declaredLength b1 rest) (declaredHead b1 rest)).encode = (-1, Head.init) := by
  rw [if_pos]
  · rfl
  · simp only [headLength, List.length_cons, websocketHeaderLen]
    omega

/-- The answer of `readSize` is the protocol's, with the length narrowed to an `int`. -/
theorem readSize_eq_encode (buffer : List UInt8) : readSize buffer = (answer buffer).encode := by
  match buffer with
  | [] => rfl
  | [_] => rfl
  | b0 :: b1 :: rest =>
    unfold readSize answer
    simp only
    by_cases hrsv : b0.toNat / 2 ^ 4 % 2 ^ 3 ≠ 0
    · rw [if_pos ((rsv_iff b0).2 hrsv), if_pos (show discarded b0 from Or.inl hrsv)]
      rfl
    rw [if_neg fun h => hrsv ((rsv_iff b0).1 h)]
    have hop : b0 &&& 0xf = 0 ↔ b0.toNat % 2 ^ 4 = 0 := by rw [← UInt8.toNat_inj, opcode_toNat]; rfl
    have hclose : b0 &&& 0xf = 8 ↔ b0.toNat % 2 ^ 4 = 8 := by rw [← UInt8.toNat_inj, opcode_toNat]; rfl
    by_cases hdis : b0.toNat < 2 ^ 7 ∨ b0.toNat % 2 ^ 4 = 0
    · rw [if_pos (by rwa [fin_iff, hop]), if_pos (show discarded b0 from Or.inr hdis)]
      rfl
    rw [if_neg (by rwa [fin_iff, hop]), if_neg (show ¬discarded b0 from fun h => h.elim hrsv hdis)]
    by_cases h8 : b0.toNat % 2 ^ 4 = 8
    · rw [if_pos (hclose.2 h8), if_pos h8]
      rfl
    rw [if_neg fun h => h8 (hclose.1 h), if_neg h8]
    have hlt : b1 &&& 0x7f < 0x7E ↔ b1.toNat % 2 ^ 7 < 126 := by rw [UInt8.lt_iff_toNat_lt, payloadLength_toNat]; rfl
    have heq : 0x7E = b1 &&& 0x7f ↔ b1.toNat % 2 ^ 7 = 126 := by
      rw [eq_comm, ← UInt8.toNat_inj, payloadLength_toNat]
      rfl
    rw [payloadLength_toNat]
    by_cases hshort : b1.toNat % 2 ^ 7 < 126
    · have hext : extendedLength b1 = 0 := if_pos hshort
      have hn : ((b1.toNat % 2 ^ 7 : Nat) : Int) = toInt32 (declaredLength b1 rest) := by
        rw [declaredLength, if_pos hext, toInt32_of_lt (by omega)]
      have hr := @readMask_encode _ b1 rest (by omega) hn b0
      rw [hext, Nat.add_zero] at hr
      rw [if_pos (hlt.2 hshort), hr]
    rw [if_neg fun h => hshort (hlt.1 h)]
    by_cases h126 : b1.toNat % 2 ^ 7 = 126
    · have hext : extendedLength b1 = 2 := by rw [extendedLength, if_neg hshort, if_pos h126]
      rw [if_pos (heq.2 h126)]
      match rest with
      | [] | [_] => exact (answer_short (by rw [hext]; simp)).symm
      | c0 :: c1 :: rest =>
        have hlow := bigValue_two_lt c0 c1
        have hn : ((ntohs (load32 c0 c1 0 0) : Nat) : Int) = toInt32 (declaredLength b1 (c0 :: c1 :: rest)) := by
          rw [declaredLength, if_neg (by omega), hext, ntohs_eq]
          exact (toInt32_of_lt (by omega)).symm
        have hr := readMask_encode (by rw [hext]; simp) hn b0
        rw [hext] at hr
        exact hr
    · have hext : extendedLength b1 = 8 := by rw [extendedLength, if_neg hshort, if_neg h126]
      rw [if_neg fun h => h126 (heq.1 h)]
      match rest with
      | [] | [_] | [_, _] | [_, _, _] | [_, _, _, _] | [_, _, _, _, _] | [_, _, _, _, _, _] | [_, _, _, _, _, _, _] =>
        exact (answer_short (by rw [hext]; simp)).symm
      | c0 :: c1 :: c2 :: c3 :: c4 :: c5 :: c6 :: c7 :: rest =>
        have hn : toInt32 (ntoh64 (load64 c0 c1 c2 c3 c4 c5 c6 c7)) =
            toInt32 (declaredLength b1 (c0 :: c1 :: c2 :: c3 :: c4 :: c5 :: c6 :: c7 :: rest)) := by
          rw [declaredLength, if_neg (by omega), hext, ntoh64_eq]
          rfl
        have hr := readMask_encode (by rw [hext]; simp) hn b0
        rw [hext] at hr
        exact hr

end SasyServer.Websocket
