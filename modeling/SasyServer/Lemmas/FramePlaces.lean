import SasyServer.Lemmas.DeclaredLength
import SasyServer.Lemmas.PacketQueue
import SasyServer.Websocket.Places

/-!
# Reading a header byte by byte

More bytes behind a header do not change the answer of `readSize`, once there is one, and the loop that throws bytes away may
stop and go on at any place (`nextPack_append`). So the loop that moves bytes to a header one at a time ends with what
`nextPack` says of all of them, unless a header is complete before.
-/

namespace SasyServer.Websocket

/-! ## More bytes -/

theorem headLength_bounds (b1 : UInt8) : 2 ≤ headLength b1 ∧ headLength b1 ≤ 14 := by
  unfold headLength extendedLength
  simp only [websocketHeaderLen, websocketMaskLen]
  split_ifs <;> omega

theorem answer_cons (b0 b1 : UInt8) (rest : List UInt8) :
    answer (b0 :: b1 :: rest) =
      if discarded b0 then .discard
      else if b0.toNat % 2 ^ 4 = 8 then .close
      else if (b0 :: b1 :: rest).length < headLength b1 then .incomplete
      else .frame (declaredLength b1 rest) (declaredHead b1 rest) := rfl

/-- A header that is not complete is short. -/
theorem length_lt_of_incomplete {buffer : List UInt8} (h : answer buffer = .incomplete) : buffer.length < 14 := by
  match buffer with
  | [] | [_] => simp
  | b0 :: b1 :: rest =>
    rw [answer_cons] at h
    split_ifs at h with h1 h2 h3
    have := headLength_bounds b1
    omega

theorem declaredLength_append {b1 : UInt8} {rest : List UInt8} (x : List UInt8) (h : extendedLength b1 ≤ rest.length) :
    declaredLength b1 (rest ++ x) = declaredLength b1 rest := by
  unfold declaredLength
  rw [List.take_append_of_le_length h]

theorem keyOf_append {bytes : List UInt8} (x : List UInt8) (h : websocketMaskLen ≤ bytes.length) :
    keyOf (bytes ++ x) = keyOf bytes := by
  match bytes with
  | m0 :: m1 :: m2 :: m3 :: rest => rfl
  | [] | [_] | [_, _] | [_, _, _] => exact absurd h (by simp [websocketMaskLen])

/-- The bytes behind a header do not matter to it. -/
theorem declaredHead_append {b1 : UInt8} {rest : List UInt8} (x : List UInt8)
    (h : masked b1 = true → extendedLength b1 + websocketMaskLen ≤ rest.length) :
    declaredHead b1 (rest ++ x) = declaredHead b1 rest := by
  unfold declaredHead
  by_cases hm : masked b1 = true
  · have hlen := h hm
    rw [List.drop_append_of_le_length (by omega), keyOf_append x (by rw [List.length_drop]; omega)]
  · simp only [hm, if_false, Bool.false_eq_true]

/-- More bytes do not change an answer. -/
theorem answer_append {buffer : List UInt8} (x : List UInt8) (h : answer buffer ≠ .incomplete) :
    answer (buffer ++ x) = answer buffer := by
  match buffer with
  | [] => exact absurd rfl h
  | [_] => exact absurd rfl h
  | b0 :: b1 :: rest =>
    rw [List.cons_append, List.cons_append, answer_cons, answer_cons]
    rw [answer_cons] at h
    by_cases hdis : discarded b0
    · rw [if_pos hdis, if_pos hdis]
    rw [if_neg hdis] at h ⊢
    rw [if_neg hdis]
    by_cases hclose : b0.toNat % 2 ^ 4 = 8
    · rw [if_pos hclose, if_pos hclose]
    rw [if_neg hclose] at h ⊢
    rw [if_neg hclose]
    by_cases hlen : (b0 :: b1 :: rest).length < headLength b1
    · exact absurd (if_pos hlen) h
    have hlen' : ¬(b0 :: b1 :: (rest ++ x)).length < headLength b1 := by
      simp only [List.length_cons, List.length_append] at hlen ⊢
      omega
    rw [if_neg hlen, if_neg hlen']
    simp only [headLength, List.length_cons, websocketHeaderLen] at hlen
    rw [declaredLength_append x (by omega), declaredHead_append x fun hm => by rw [hm, if_pos rfl] at hlen; omega]

theorem readSize_append {buffer : List UInt8} (x : List UInt8) (h : answer buffer ≠ .incomplete) :
    readSize (buffer ++ x) = readSize buffer := by
  rw [readSize_eq_encode, readSize_eq_encode, answer_append x h]

/-- Without an answer, `readSize` says so. -/
theorem readSize_of_incomplete {buffer : List UInt8} (h : answer buffer = .incomplete) :
    readSize buffer = (-1, Head.init) := by
  rw [readSize_eq_encode, h, Answer.encode]

theorem answer_ne_incomplete {buffer : List UInt8} (h : (readSize buffer).1 ≠ -1) : answer buffer ≠ .incomplete := by
  intro hinc
  rw [readSize_of_incomplete hinc] at h
  exact h rfl

/-! ## The loop that throws bytes away -/

/-- A buffer without two bytes. -/
theorem eq_nil_or_singleton {buffer : List UInt8} (h : ∀ b0 b1 rest, buffer = b0 :: b1 :: rest → False) :
    buffer = [] ∨ ∃ b, buffer = [b] := by
  rcases buffer with _ | ⟨b0, _ | ⟨b1, rest⟩⟩
  · exact Or.inl rfl
  · exact Or.inr ⟨b0, rfl⟩
  · exact absurd rfl (h b0 b1 rest)

/-- It stops at bytes of which it throws none away. -/
theorem readSize_readFrameSize (buffer : List UInt8) : (readSize (readFrameSize buffer).2.2).1 ≠ -2 := by
  fun_induction readFrameSize buffer with
  | case1 b0 b1 rest h hh ih => exact ih
  | case2 b0 b1 rest n h hr hn =>
    rw [hr]
    exact hn
  | case3 buffer h =>
    rcases eq_nil_or_singleton h with rfl | ⟨b, rfl⟩
    · decide
    · exact Ne.symm (by simp [readSize])

/-- Nothing is skipped where the frame is not one that is discarded. -/
theorem readFrameSize_eq_self {buffer : List UInt8} (h : (readSize buffer).1 ≠ -2) :
    readFrameSize buffer = ((readSize buffer).1, (readSize buffer).2, buffer) := by
  match buffer with
  | [] => rfl
  | [_] => rfl
  | b0 :: b1 :: rest =>
    rw [readFrameSize]
    exact if_neg h

theorem readFrameSize_skip {b0 b1 : UInt8} {rest : List UInt8} (h : (readSize (b0 :: b1 :: rest)).1 = -2) :
    readFrameSize (b0 :: b1 :: rest) = readFrameSize rest := by
  rw [readFrameSize]
  exact if_pos h

/-- It may stop and go on with more bytes. -/
theorem readFrameSize_append (buffer x : List UInt8) :
    readFrameSize (buffer ++ x) = readFrameSize ((readFrameSize buffer).2.2 ++ x) := by
  fun_induction readFrameSize buffer with
  | case1 b0 b1 rest h hh ih =>
    have hsize : (readSize (b0 :: b1 :: rest)).1 = -2 := by rw [hh]
    have happend : (readSize (b0 :: b1 :: (rest ++ x))).1 = -2 := by
      rw [← List.cons_append, ← List.cons_append, readSize_append x (answer_ne_incomplete (by rw [hsize]; decide)), hsize]
    rw [List.cons_append, List.cons_append, readFrameSize_skip happend]
    exact ih
  | case2 b0 b1 rest n h hr hn => rfl
  | case3 buffer h => rfl

/-! ## `nextPack` -/

theorem map_ok {α β : Type} {f : α → β} {x : Except Fault α} {b : β} (h : x.map f = .ok b) : ∃ a, x = .ok a ∧ f a = b := by
  cases x with
  | ok a => exact ⟨a, rfl, Except.ok.inj h⟩
  | error fault => cases h

theorem clampSize_eq_neg_one {n : Int} : clampSize n = -1 ↔ n = -1 := by
  unfold clampSize
  have hmax : (0 : Int) ≤ maxPackSize := Int.natCast_nonneg _
  by_cases h : n > maxPackSize
  · rw [if_pos h]
    constructor <;> intro heq <;> omega
  · rw [if_neg h]

theorem clampSize_nonneg_iff {n : Int} : 0 ≤ clampSize n ↔ 0 ≤ n := by
  unfold clampSize
  split_ifs with h
  · exact iff_of_true (by simp only [maxPackSize]; omega) (by omega)
  · rfl

theorem nextPack_false (buffer : List UInt8) :
    nextPack buffer false = (clampSize (readFrameSize buffer).1, (readFrameSize buffer).2) := rfl

theorem nextPack_true (buffer : List UInt8) : nextPack buffer true = (getHttpHeader buffer, Head.init, buffer) := rfl

/-- The search may stop and go on with more bytes. -/
theorem nextPack_append (hs : Bool) (buffer x : List UInt8) :
    nextPack (buffer ++ x) hs = nextPack ((nextPack buffer hs).2.2 ++ x) hs := by
  cases hs with
  | true => rfl
  | false =>
    rw [nextPack_false, readFrameSize_append]
    rfl

/-- What `nextPack` finds is in front of what it leaves. -/
theorem nextPack_read (buffer : List UInt8) :
    (nextPack buffer false).1 = clampSize (readSize (nextPack buffer false).2.2).1 ∧
      (nextPack buffer false).2.1 = (readSize (nextPack buffer false).2.2).2 := by
  have h := (readFrameSize_spec buffer).2
  exact ⟨congrArg clampSize (congrArg Prod.fst h).symm, (congrArg Prod.snd h).symm⟩

/-- With an answer other than `discard` the search ends where it is. -/
theorem nextPack_of_answer {buffer : List UInt8} (x : List UInt8) (h : answer buffer ≠ .incomplete)
    (hsize : (readSize buffer).1 ≠ -2) :
    nextPack (buffer ++ x) false = (clampSize (readSize buffer).1, (readSize buffer).2, buffer ++ x) := by
  have hread := readSize_append x h
  rw [nextPack_false, readFrameSize_eq_self (by rwa [hread]), hread]

/-- What is left is not more than there was. -/
theorem length_nextPack_le (hs : Bool) (buffer : List UInt8) : (nextPack buffer hs).2.2.length ≤ buffer.length := by
  cases hs with
  | true => exact Nat.le_refl _
  | false => exact (readFrameSize_spec buffer).1

/-- A header that is not complete is short, or grows with every byte. -/
theorem length_lt_of_more {hs : Bool} {buffer x : List UInt8} (hneg : (nextPack buffer hs).1 < 0) (hx : x ≠ []) :
    (nextPack buffer hs).2.2.length < 14 ∨ (nextPack buffer hs).2.2.length < (nextPack (buffer ++ x) hs).2.2.length := by
  have hpos := List.length_pos_of_ne_nil hx
  cases hs with
  | true =>
    right
    rw [nextPack_true, nextPack_true, List.length_append]
    exact Nat.lt_add_of_pos_right hpos
  | false =>
    by_cases hans : answer (nextPack buffer false).2.2 = .incomplete
    · exact Or.inl (length_lt_of_incomplete hans)
    · right
      rw [nextPack_append, nextPack_of_answer x hans (readSize_readFrameSize buffer), List.length_append]
      omega

/-! ## The places -/

theorem length_afterPack (buffer : List UInt8) : (afterPack buffer).length =
    ((nextPack buffer false).2.2.drop (nextPack buffer false).2.1.packHeadLength).length - (nextPack buffer false).1.toNat :=
  List.length_drop

/-- Only the last place of the loop can be one that is read as not complete. -/
theorem eq_of_mem_skipPlaces {buffer p : List UInt8} (h : p ∈ skipPlaces buffer) (hp : (readSize p).1 ≠ -2) :
    p = (readFrameSize buffer).2.2 := by
  fun_induction skipPlaces buffer with
  | case1 b0 b1 rest ih =>
    by_cases hskip : (readSize (b0 :: b1 :: rest)).1 = -2
    · rw [if_pos hskip] at h
      rcases List.mem_cons.1 h with rfl | h
      · exact absurd hskip hp
      · rw [readFrameSize_skip hskip]
        exact ih h
    · rw [if_neg hskip, List.mem_singleton] at h
      rw [readFrameSize_eq_self hskip, h]
  | case2 buffer hshort =>
    rw [List.mem_singleton] at h
    subst h
    rcases eq_nil_or_singleton hshort with rfl | ⟨b, rfl⟩
    · rfl
    · rfl

/-- Where `nextPack` ends is one of the places it comes to. -/
theorem mem_skipPlaces (buffer : List UInt8) : (nextPack buffer false).2.2 ∈ skipPlaces buffer := by
  rw [nextPack_false]
  fun_induction skipPlaces buffer with
  | case1 b0 b1 rest ih =>
    by_cases hskip : (readSize (b0 :: b1 :: rest)).1 = -2
    · rw [if_pos hskip, readFrameSize_skip hskip]
      exact List.mem_cons_of_mem _ ih
    · rw [readFrameSize_eq_self hskip]
      exact List.mem_cons_self
  | case2 buffer hshort =>
    rcases eq_nil_or_singleton hshort with rfl | ⟨b, rfl⟩
    · exact List.mem_singleton_self _
    · exact List.mem_singleton_self _

/-- A length that becomes -1 is taken for a header that is not complete. -/
theorem readSize_of_readsIncomplete {p : List UInt8} (h : readsIncomplete p = true) : (readSize p).1 = -1 := by
  unfold readsIncomplete at h
  rw [readSize_eq_encode]
  split at h
  · rename_i declared head hans
    rw [hans, Answer.encode]
    simp only
    exact of_decide_eq_true h
  · cases h

/-! ## The loop that moves bytes to a header -/

/-- The byte of the chunk with which the header is complete. -/
def completedAt (hs : Bool) (header buffer : List UInt8) : Option Nat :=
  (List.range buffer.length).find? fun j => 0 ≤ (nextPack (header ++ buffer.take (j + 1)) hs).1

/-- The number of bytes up to this one, or of all of them. -/
def fillStop (hs : Bool) (header buffer : List UInt8) : Nat := (completedAt hs header buffer).elim buffer.length (· + 1)

theorem fillStop_complete {hs : Bool} {header : List UInt8} {b : UInt8} {buffer : List UInt8}
    (h : 0 ≤ (nextPack (header ++ [b]) hs).1) :
    fillStop hs header (b :: buffer) = 1 := by
  unfold fillStop completedAt
  rw [List.length_cons, List.range_succ_eq_map, List.find?_cons_of_pos (by simpa using h)]
  rfl

/-- A byte that does not complete the header is taken, and the loop goes on. -/
theorem fillStop_more {hs : Bool} {header : List UInt8} {b : UInt8} {buffer : List UInt8}
    (h : (nextPack (header ++ [b]) hs).1 < 0) :
    fillStop hs header (b :: buffer) = fillStop hs (nextPack (header ++ [b]) hs).2.2 buffer + 1 := by
  unfold fillStop completedAt
  rw [List.length_cons, List.range_succ_eq_map, List.find?_cons_of_neg (by simpa using h), List.find?_map]
  have hcongr : ((fun j => decide (0 ≤ (nextPack (header ++ (b :: buffer).take (j + 1)) hs).1)) ∘ Nat.succ) =
      fun j => decide (0 ≤ (nextPack ((nextPack (header ++ [b]) hs).2.2 ++ buffer.take (j + 1)) hs).1) := by
    funext j
    rw [Function.comp_apply, List.take_succ_cons, ← nextPack_append, List.append_assoc]
    rfl
  rw [hcongr]
  cases (List.range buffer.length).find? _ with
  | none => rfl
  | some j => rfl

theorem fillStop_pos {hs : Bool} {header buffer : List UInt8} (h : buffer ≠ []) : 0 < fillStop hs header buffer := by
  unfold fillStop
  cases completedAt hs header buffer with
  | none => exact List.length_pos_of_ne_nil h
  | some j => exact Nat.succ_pos j

/-- The loop ends with the first byte that completes a header, or with the last one, or it writes behind the header. -/
theorem fillHeader_eq (hs : Bool) (buffer : List UInt8) (hne : buffer ≠ []) : ∀ header : List UInt8,
    fillHeader hs header buffer =
      if header.length < headerSize ∧
        (nextPack (header ++ buffer.take (fillStop hs header buffer)) hs).2.2.length ≤ headerSize then
        .ok ((nextPack (header ++ buffer.take (fillStop hs header buffer)) hs).1,
          (nextPack (header ++ buffer.take (fillStop hs header buffer)) hs).2.1,
          (nextPack (header ++ buffer.take (fillStop hs header buffer)) hs).2.2, buffer.drop (fillStop hs header buffer))
      else .error .headerOverflow := by
  induction buffer with
  | nil => exact absurd rfl hne
  | cons b buffer ih =>
    intro header
    rw [fillHeader]
    by_cases hfull : header.length ≥ headerSize
    · rw [if_pos hfull, if_neg fun h => absurd h.1 (Nat.not_lt.2 hfull)]
    have hlt : header.length < headerSize := Nat.lt_of_not_le hfull
    have hsmall : ¬(hs = true ∧ (header ++ [b]).length > headerSize) := by
      rw [List.length_append, List.length_singleton]
      exact fun h => absurd h.2 (by omega)
    have hle : (nextPack (header ++ [b]) hs).2.2.length ≤ headerSize := by
      refine Nat.le_trans (length_nextPack_le hs _) ?_
      rw [List.length_append, List.length_singleton]
      omega
    simp only [if_neg hfull, if_neg hsmall]
    by_cases hdone : (nextPack (header ++ [b]) hs).1 ≥ 0
    · -- the header is complete with this byte
      rw [if_pos (Or.inl hdone), fillStop_complete hdone]
      exact (if_pos ⟨hlt, hle⟩).symm
    have hneg : (nextPack (header ++ [b]) hs).1 < 0 := Int.lt_of_not_ge hdone
    rw [fillStop_more hneg]
    by_cases hlast : buffer = []
    · -- this is the last byte
      subst hlast
      rw [if_pos (Or.inr rfl)]
      exact (if_pos ⟨hlt, hle⟩).symm
    · rw [if_neg (not_or.2 ⟨hdone, hlast⟩), ih hlast]
      have hstop := @fillStop_pos hs (nextPack (header ++ [b]) hs).2.2 buffer hlast
      have htake : header ++ (b :: buffer).take (fillStop hs (nextPack (header ++ [b]) hs).2.2 buffer + 1) =
          header ++ [b] ++ buffer.take (fillStop hs (nextPack (header ++ [b]) hs).2.2 buffer) := by
        rw [List.take_succ_cons, List.append_assoc]
        rfl
      rw [htake, nextPack_append hs (header ++ [b]), List.drop_succ_cons]
      -- the header grows, so that it fits now if it does in the end
      have hmore := length_lt_of_more (x := buffer.take (fillStop hs (nextPack (header ++ [b]) hs).2.2 buffer)) hneg
        (by rw [ne_eq, List.take_eq_nil_iff]; exact not_or.2 ⟨by omega, hlast⟩)
      rw [nextPack_append hs (header ++ [b])] at hmore
      refine if_congr ⟨fun h => ⟨hlt, h.2⟩, fun h => ⟨?_, h.2⟩⟩ rfl rfl
      have hsize : 14 < headerSize := by decide
      have hend := h.2
      omega

end SasyServer.Websocket
