import SasyServer.Lemmas.CloseFrame
import SasyServer.Lemmas.DeclaredLength
import SasyServer.Websocket.Pack

/-!
# Theorem: what `lpack` writes, `readSize` and the filter read

The header `lpack` writes is the shortest one for the length, and it is one that `readSize` reads. A payload that is not
longer than a packet may be is a frame of a well-formed stream, so that the filter delivers it however it is cut.
-/

namespace SasyServer.Websocket

theorem frameSetLength_toNat (n idx : Nat) : (frameSetLength n idx).toNat = n / 2 ^ (idx * 8) % 2 ^ 8 := by
  rw [frameSetLength, UInt8.toNat_ofNat', Nat.shiftRight_eq_div_pow, show (0xFF : Nat) = 2 ^ 8 - 1 from rfl,
    Nat.and_two_pow_sub_one_eq_mod, Nat.mod_mod]

theorem length_frameHeader (n : Nat) : (frameHeader n).length = if n < 126 then 2 else if n < 65536 then 4 else 10 := by
  unfold frameHeader
  repeat' split
  all_goals rfl

/-- The answer for a text frame without a mask, given the byte of the length and the bytes after it. -/
theorem answer_text (b1 : UInt8) (ext payload : List UInt8) (hmask : masked b1 = false)
    (hext : ext.length = extendedLength b1) :
    answer ([frameSetFin 1 ||| frameSetOpcode 1] ++ (b1 :: ext) ++ payload) =
      .frame (if ext.length = 0 then b1.toNat % 2 ^ 7 else bigValue ext) ⟨2 + ext.length, Mask.zero, false⟩ := by
  have hhead : headLength b1 = 2 + ext.length := by
    rw [headLength, hmask, ← hext]
    rfl
  simp only [List.cons_append, List.nil_append, answer]
  rw [if_neg (by decide), if_neg (by decide), if_neg (by rw [hhead]; simp; omega)]
  rw [declaredLength, declaredHead, hmask, hhead, ← hext, List.take_left]
  simp

theorem foldl_bigValue (bytes : List UInt8) : ∀ n : Nat,
    bytes.foldl (fun n b => n * 2 ^ 8 + b.toNat) n = n * 2 ^ (bytes.length * 8) + bigValue bytes := by
  induction bytes with
  | nil => exact fun n => (Nat.mul_one n).symm
  | cons b bytes ih =>
    intro n
    unfold bigValue
    rw [List.foldl_cons, List.foldl_cons, ih, ih, List.length_cons, Nat.succ_mul, Nat.pow_add, Nat.zero_mul,
      Nat.zero_add, Nat.add_mul, Nat.mul_comm (2 ^ (bytes.length * 8)), ← Nat.mul_assoc, Nat.add_assoc]

/-- The last bytes of a number, the highest first. -/
theorem bigValue_bytes (n k : Nat) : bigValue ((List.range k).reverse.map (frameSetLength n)) = n % 2 ^ (k * 8) := by
  induction k with
  | zero => exact (Nat.mod_one n).symm
  | succ k ih =>
    rw [List.range_succ, List.reverse_append, List.map_append]
    unfold bigValue
    rw [List.foldl_append, foldl_bigValue, ih, List.length_map, List.length_reverse, List.length_range, Nat.succ_mul,
      Nat.pow_add, Nat.mod_mul, Nat.add_comm, Nat.mul_comm (2 ^ (k * 8)), ← frameSetLength_toNat]
    simp

/-- What `lpack` writes is a frame with the length of the payload, and its header is followed by the payload. -/
theorem answer_lpack {payload : List UInt8} (h : payload.length < 2 ^ 64) :
    answer (lpack payload) = .frame payload.length ⟨(frameHeader payload.length).length, Mask.zero, false⟩ := by
  rw [length_frameHeader]
  unfold lpack frameHeader
  generalize payload.length = n at h
  by_cases hshort : n < 126
  · have hb : (frameSetMask 0 ||| frameSetLength n 0).toNat = n := by
      rw [UInt8.toNat_or, frameSetLength_toNat, show (frameSetMask 0).toNat = 0 from rfl, Nat.zero_or]
      omega
    have hext : extendedLength (frameSetMask 0 ||| frameSetLength n 0) = 0 := by
      rw [extendedLength, hb, if_pos (by omega)]
    have hmask : masked (frameSetMask 0 ||| frameSetLength n 0) = false := by
      rw [masked, hb, decide_eq_false_iff_not]
      omega
    rw [if_pos hshort, if_pos hshort]
    refine (answer_text _ [] payload hmask hext.symm).trans ?_
    rw [if_pos List.length_nil, hb, Nat.mod_eq_of_lt (by omega)]
    rfl
  rw [if_neg hshort, if_neg hshort]
  by_cases h16 : n < 65536
  · rw [if_pos h16, if_pos h16]
    refine (answer_text (frameSetMask 0 ||| 126) [frameSetLength n 1, frameSetLength n 0] payload rfl rfl).trans ?_
    rw [if_neg (by simp),
      show [frameSetLength n 1, frameSetLength n 0] = (List.range 2).reverse.map (frameSetLength n) from rfl, bigValue_bytes,
        Nat.mod_eq_of_lt (show n < 2 ^ (2 * 8) from h16)]
    rfl
  · rw [if_neg h16, if_neg h16]
    refine (answer_text (frameSetMask 0 ||| 127)
      [frameSetLength n 7, frameSetLength n 6, frameSetLength n 5, frameSetLength n 4,
      frameSetLength n 3, frameSetLength n 2, frameSetLength n 1, frameSetLength n 0] payload rfl rfl).trans ?_
    rw [if_neg (by simp),
      show [frameSetLength n 7, frameSetLength n 6, frameSetLength n 5, frameSetLength n 4, frameSetLength n 3,
      frameSetLength n 2, frameSetLength n 1, frameSetLength n 0] = (List.range 8).reverse.map (frameSetLength n) from rfl,
        bigValue_bytes,
      Nat.mod_eq_of_lt (show n < 2 ^ (8 * 8) from h)]
    rfl

/-! ## The frame of a payload -/

/-- The shortest encoding of a length. -/
def packEncoding (n : Nat) : LengthEncoding := if n < 126 then .short else if n < 65536 then .ext16 else .ext64

/-- The opcode of a text frame. -/
def textOpcode : Fin 16 := ⟨1, by decide⟩

theorem textOpcode_ok : textOpcode ≠ 0 ∧ textOpcode ≠ 8 := by decide

/-- The payload as a frame of a well-formed stream. -/
def textFrame (payload : List UInt8) (h : payload.length ≤ maxPackSize) : Frame where
  opcode := textOpcode
  encoding := packEncoding payload.length
  mask := none
  payload := payload
  opcode_ok := textOpcode_ok
  length_ok := h
  encoding_ok := by
    intro he
    unfold packEncoding at he
    split at he
    · omega
    · split at he <;> cases he

/-- What `lpack` writes are the bytes of that frame. -/
theorem lpack_eq_bytes {payload : List UInt8} (h : payload.length ≤ maxPackSize) :
    lpack payload = (textFrame payload h).bytes := by
  have hmax : payload.length ≤ 10240 := h
  unfold lpack Frame.bytes Frame.header Frame.key Frame.extended Frame.len7 textFrame
  simp only [applyMask, packEncoding]
  unfold frameHeader
  have hlow : ∀ n idx : Nat, frameSetLength n idx = UInt8.ofNat (n / 2 ^ (idx * 8)) := by
    intro n idx
    rw [← UInt8.toNat_inj, frameSetLength_toNat, UInt8.toNat_ofNat']
  by_cases hshort : payload.length < 126
  · have hb : frameSetMask 0 ||| frameSetLength payload.length 0 = secondByte false (Fin.ofNat 128 payload.length) := by
      have hval : (Fin.ofNat 128 payload.length).val = payload.length := Nat.mod_eq_of_lt (by omega)
      rw [← UInt8.toNat_inj, UInt8.toNat_or, frameSetLength_toNat, show (frameSetMask 0).toNat = 0 from rfl,
        Nat.zero_or, secondByte, UInt8.toNat_ofNat', hval]
      simp
    simp only [hshort, if_true, hb, Option.isSome_none, Option.map_none, Option.getD_none, List.append_nil]
    rfl
  · have h16 : payload.length < 65536 := by omega
    simp only [hshort, h16, if_true, if_false, hlow, Option.isSome_none, Option.map_none, Option.getD_none, List.append_nil,
      bigEndian_two, Nat.zero_mul, Nat.one_mul, Nat.pow_zero, Nat.div_one]
    rfl

/-- The header that is written is one that is read: the length, no mask, and the header's own length. -/
theorem readSize_lpack {payload : List UInt8} (h : payload.length < 2 ^ 31) :
    readSize (lpack payload) = ((payload.length : Int), ⟨(frameHeader payload.length).length, Mask.zero, false⟩) := by
  rw [readSize_eq_encode, answer_lpack (by omega), Answer.encode, toInt32_of_lt h]

/-- A size that an `int` holds is the length of the buffer. -/
theorem readSizeOf_eq {buffer : List UInt8} (h : buffer.length < 2 ^ 31) : readSizeOf buffer = readSize buffer := by
  unfold readSizeOf
  simp only [toInt32_of_lt h, Int.toNat_natCast, List.take_length]
  split_ifs with hshort
  · rcases buffer with _ | ⟨b0, _ | ⟨b1, rest⟩⟩
    · rfl
    · rfl
    · simp only [List.length_cons] at hshort
      omega
  · rfl

/-- A size that becomes negative is that of a header that is not complete. -/
theorem readSizeOf_of_negative {buffer : List UInt8} (h : toInt32 buffer.length < 0) :
    readSizeOf buffer = (-1, Head.init) := by
  unfold readSizeOf
  dsimp only
  rw [if_pos (Int.lt_trans h (by decide))]

theorem length_lpack_le (payload : List UInt8) : (lpack payload).length ≤ payload.length + 10 := by
  rw [lpack, List.length_append, length_frameHeader]
  split_ifs <;> omega

/-- The header is that of an encoding that can hold the length. -/
theorem length_frameHeader_eq_size {n : Nat} (h : n < 2 ^ 64) :
    (packEncoding n).holds n ∧ (frameHeader n).length = (packEncoding n).size := by
  rw [length_frameHeader]
  unfold packEncoding
  split
  · refine ⟨?_, rfl⟩
    simp only [LengthEncoding.holds, decide_eq_true_eq]
    omega
  · split
    · refine ⟨?_, rfl⟩
      simpa only [LengthEncoding.holds, decide_eq_true_eq]
    · refine ⟨?_, rfl⟩
      simpa only [LengthEncoding.holds, decide_eq_true_eq]

/-- No encoding that can hold the length has a shorter header. -/
theorem length_frameHeader_le {n : Nat} {e : LengthEncoding} (h : e.holds n) : (frameHeader n).length ≤ e.size := by
  rw [length_frameHeader]
  cases e with
  | short =>
    have hn : n ≤ 125 := by simpa [LengthEncoding.holds] using h
    rw [if_pos (by omega)]
    exact Nat.le_refl 2
  | ext16 =>
    have hn : n < 65536 := by simpa [LengthEncoding.holds] using h
    rw [if_pos hn]
    split
    · exact (by decide : 2 ≤ 4)
    · exact Nat.le_refl 4
  | ext64 =>
    split
    · exact (by decide : 2 ≤ 10)
    · split
      · exact (by decide : 4 ≤ 10)
      · exact Nat.le_refl 10

/-- What `lpack` writes for a payload of at most `maxPackSize` bytes, cut into chunks, to a connection without an unfinished
packet: the payload is delivered once, and nothing else. -/
theorem run_lpack {payload : List UInt8} (h : payload.length ≤ maxPackSize) {L : Option Queue} (hg : Good L)
    (h0 : packets L = []) {fd : Nat} (hfresh : pending L fd = none) {cs : List (List UInt8)} (hne : ∀ b ∈ cs, b ≠ [])
    (hcs : cs.flatten = lpack payload) :
    ∃ L', run L (chunksOf fd cs) = .ok (L', [.data fd payload payload.length]) ∧ findUncomplete L' fd = none := by
  have hbytes : bytesOf [textFrame payload h] = lpack payload := by
    rw [lpack_eq_bytes h]
    simp [bytesOf]
  rw [← hbytes] at hcs
  obtain ⟨L', hrun, hg', -, hat⟩ := run_frames [textFrame payload h] hg h0 hfresh hne (hcs ▸ List.prefix_refl _)
  rw [hcs] at hat
  rw [hcs, completeFrames_all] at hrun
  exact ⟨L', hrun, find_none_of_pending hg' (at_all hat)⟩

/-- For every payload whose frame is shorter than 2^31 bytes with the longest header: `readSize` reads from what `lpack`
writes the length, no mask, and a header after which the payload comes, the header being the shortest of those that can hold
the length. And if the payload is at most `maxPackSize` bytes long, then from every state the filter can be in, to every
connection without an unfinished packet, and in whatever chunks it comes, it is delivered once. -/
theorem lpack_read (payload : List UInt8) (h : payload.length + 10 < 2 ^ 31) :
    (∃ header : List UInt8, readSizeOf (lpack payload) = ((payload.length : Int), ⟨header.length, Mask.zero, false⟩) ∧
      lpack payload = header ++ payload ∧ (∃ e : LengthEncoding, e.holds payload.length ∧ header.length = e.size) ∧
      ∀ e : LengthEncoding, e.holds payload.length → header.length ≤ e.size) ∧
    (payload.length ≤ maxPackSize →
      ∀ (history : List Chunk) (L : Option Queue) (before : List Out) (fd : Nat) (cs : List (List UInt8)),
        run none history = .ok (L, before) → findUncomplete L fd = none → (∀ b ∈ cs, b ≠ []) → cs.flatten = lpack payload →
      ∃ L', run L (chunksOf fd cs) = .ok (L', [.data fd payload payload.length]) ∧ findUncomplete L' fd = none) := by
  constructor
  · have hsize := length_frameHeader_eq_size (show payload.length < 2 ^ 64 by omega)
    have hread : readSizeOf (lpack payload) = readSize (lpack payload) :=
      readSizeOf_eq (by have := length_lpack_le payload; omega)
    exact ⟨frameHeader payload.length, hread.trans (readSize_lpack (by omega)), rfl, ⟨_, hsize⟩,
      fun e he => length_frameHeader_le he⟩
  · intro hmax history L before fd cs hrun hfresh hne hcs
    obtain ⟨hg, h0⟩ := run_serves good_none packets_none hrun
    exact run_lpack hmax hg h0 (pending_of_find_none hfresh) hne hcs

/-- Two bytes, cut in the header and in the payload. -/
theorem lpack_read_cut :
    ∃ L', run none (chunksOf 3 [[0x81], [0x02, 0x68], [0x69]]) = .ok (L', [.data 3 [0x68, 0x69] 2]) ∧
      findUncomplete L' 3 = none :=
  (lpack_read [0x68, 0x69] (by decide)).2 (by decide) [] none [] 3 _ rfl rfl (by decide) (by decide)

/-- Of 2^31 - 10 bytes the frame has 2^31, and `readSize` takes the header for one that is not complete. -/
theorem lpack_unread :
    ¬∀ payload : List UInt8, payload.length < 2 ^ 31 → (readSizeOf (lpack payload)).1 = payload.length := by
  intro h
  have hlength : (lpack (List.replicate (2 ^ 31 - 10) 0)).length = 2 ^ 31 := by
    rw [lpack, List.length_append, length_frameHeader, List.length_replicate]
    rfl
  have hread := h (List.replicate (2 ^ 31 - 10) 0) (by rw [List.length_replicate]; decide)
  rw [readSizeOf_of_negative (by rw [hlength]; decide), List.length_replicate] at hread
  exact absurd hread (by decide)

end SasyServer.Websocket
