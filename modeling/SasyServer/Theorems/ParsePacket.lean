import SasyServer.ParseData

/-!
# Theorem: `l_parsepacket` is right about a single packet, and about little else

What comes after the packet is taken from the end of the buffer on, with the length that is left. That is the rest of the
buffer only when nothing is left: when the buffer is a packet, or empty.
-/

namespace SasyServer.ParseData

open ChatSocket (headerSize readInt packSize)

/-- The buffer is empty or a packet and nothing more; or it has 2^32 bytes or more, of which the conversion to an `int`
leaves fewer than the header has, and does not start with a packet. -/
def single (buffer : List UInt8) : Prop :=
  buffer = [] ∨
    (headerSize ≤ buffer.length ∧ (buffer.length : Int) = headerSize + readInt buffer 8 ∧ buffer.length < 2 ^ 31) ∨
    (2 ^ 32 ≤ buffer.length ∧ buffer.length % 2 ^ 32 < headerSize ∧ readInt buffer 8 < 0)

theorem readInt_bounds (buffer : List UInt8) (i : Nat) : -2 ^ 31 ≤ readInt buffer i ∧ readInt buffer i < 2 ^ 31 := by
  unfold readInt
  exact ⟨Int.le_bmod (by decide), Int.bmod_lt (by decide)⟩

/-- The size of a packet, which wraps round only for the largest lengths. -/
theorem packSize_eq (buffer : List UInt8) :
    packSize buffer = if readInt buffer 8 < 2 ^ 31 - 12 then 12 + readInt buffer 8 else 12 + readInt buffer 8 - 2 ^ 32 := by
  have hn := readInt_bounds buffer 8
  unfold packSize headerSize
  split
  · exact Int.bmod_eq_of_le (by omega) (by omega)
  · rw [← Int.sub_bmod_right]
    exact Int.bmod_eq_of_le (by omega) (by omega)

theorem toInt_of_bounds {n : Int} (h : -2 ^ 31 ≤ n) (h' : n < 2 ^ 31) : toInt n = n := by
  unfold toInt
  exact Int.bmod_eq_of_le (by omega) (by omega)

theorem sz_parsepacket (buffer : List UInt8) : (parsepacket buffer).sz = toInt buffer.length := by
  simp only [parsepacket]

/-- A buffer shorter than a header. -/
theorem parsepacket_short {buffer : List UInt8} (h0 : 0 ≤ toInt buffer.length) (h : toInt buffer.length < headerSize) :
    parsepacket buffer =
      ⟨0, toInt buffer.length, ⟨0, 0⟩, toInt buffer.length, ⟨toInt buffer.length, toInt buffer.length⟩, none⟩ := by
  have hno : ¬(toInt buffer.length < 0 ∨ (headerSize : Int) ≤ toInt buffer.length) := by omega
  have hself : toInt (toInt buffer.length) = toInt buffer.length := Int.bmod_bmod
  simp only [parsepacket, hno, if_false, false_and, Int.sub_zero, hself]

/-- A buffer with a header. -/
theorem parsepacket_header {buffer : List UInt8} (h : (headerSize : Int) ≤ toInt buffer.length) :
    parsepacket buffer =
      ⟨if packSize buffer ≤ toInt buffer.length then 1 else 0, toInt buffer.length, ⟨0, packSize buffer⟩,
        toInt (toInt buffer.length - packSize buffer), ⟨toInt buffer.length, toInt (toInt buffer.length - packSize buffer)⟩,
          some ⟨8, 4⟩⟩ := by
  have hyes : toInt buffer.length < 0 ∨ (headerSize : Int) ≤ toInt buffer.length := Or.inr h
  simp only [parsepacket, hyes, if_true, true_and, ge_iff_le]

/-- The `int` of a length, when it is not negative. -/
theorem toInt_eq_mod {n : Nat} (h : 0 ≤ toInt n) : toInt n = (n % 2 ^ 32 : Nat) ∧ n % 2 ^ 32 < 2 ^ 31 := by
  unfold toInt at h ⊢
  rw [Int.bmod_eq_emod] at h ⊢
  split at h
  · omega
  · rename_i hlt
    rw [if_neg hlt]
    omega

/-- A buffer with one packet is parsed right. -/
theorem right_of_single {buffer : List UInt8} (h : single buffer) : Right buffer (parsepacket buffer) := by
  rcases h with rfl | ⟨hhead, hlen, hlt⟩ | ⟨hlarge, hsmall, hneg⟩
  · -- the empty buffer
    constructor
    · exact iff_of_false (by decide) fun h => absurd h.1 (by decide)
    · exact fun h => absurd h (by decide)
    · exact ⟨by decide, fun h => absurd rfl h⟩
    · exact ⟨by decide, fun h => absurd rfl h⟩
    · exact fun s hs => by cases hs
    · decide
    · decide
  · -- a packet and nothing more
    simp only [headerSize] at hhead hlen
    have hsz := toInt_of_bounds (n := buffer.length) (by omega) (by omega)
    have hpack : packSize buffer = buffer.length := by
      rw [packSize_eq, if_pos (by omega)]
      omega
    rw [parsepacket_header (by rw [hsz, headerSize]; omega), hsz, hpack, if_pos (Int.le_refl _), Int.sub_self,
      show toInt 0 = 0 from rfl]
    constructor
    · exact iff_of_true rfl ⟨hhead, by omega, by simp only [headerSize]; omega⟩
    · simp [Segment.bytes]
    · exact ⟨by simp, fun _ => ⟨by simp, by simp⟩⟩
    · exact ⟨by simp, fun h => absurd rfl h⟩
    · intro s hs
      cases hs
      exact ⟨by decide, fun _ => ⟨by decide, by simp only; omega⟩⟩
    · simp
    · exact Int.le_refl 0
  · -- more bytes than an `int` can count, of which hardly any are seen
    simp only [headerSize] at hsmall
    have hsz : toInt buffer.length = (buffer.length % 2 ^ 32 : Nat) := by
      unfold toInt
      rw [Int.bmod_eq_emod_of_lt (by omega)]
      omega
    rw [parsepacket_short (by omega) (by rw [hsz, headerSize]; omega), hsz]
    have hinside : (⟨(buffer.length % 2 ^ 32 : Nat), (buffer.length % 2 ^ 32 : Nat)⟩ : Segment).Within buffer := by
      refine ⟨?_, fun _ => ⟨?_, ?_⟩⟩ <;> simp only <;> omega
    constructor
    · exact iff_of_false (by simp) fun h => absurd h.2.1 (by omega)
    · exact fun h => absurd h (by simp)
    · exact ⟨by simp, fun h => absurd rfl h⟩
    · exact hinside
    · exact fun s hs => by cases hs
    · exact hinside.1
    · exact hinside.1

/-- A buffer that is parsed right has one packet. -/
theorem single_of_right {buffer : List UInt8} (h : Right buffer (parsepacket buffer)) : single buffer := by
  have hn := readInt_bounds buffer 8
  have hsz0 : 0 ≤ toInt buffer.length := sz_parsepacket buffer ▸ h.sz
  obtain ⟨hsz, hlt⟩ := toInt_eq_mod hsz0
  unfold single
  rcases Int.lt_or_le (toInt buffer.length) headerSize with hshort | hhead
  · -- fewer bytes are seen than a header has
    rw [parsepacket_short hsz0 hshort] at h
    have hremain := h.remain.2
    simp only at hremain
    have hnot : ¬startsWithPacket buffer := fun hs => absurd (h.err_iff.2 hs) (by simp)
    simp only [headerSize] at hshort
    rcases Nat.eq_zero_or_pos buffer.length with hzero | hpos
    · exact Or.inl (List.length_eq_zero_iff.1 hzero)
    · have hlarge : 2 ^ 32 ≤ buffer.length := by omega
      refine Or.inr (Or.inr ⟨hlarge, by simp only [headerSize]; omega, ?_⟩)
      by_contra hneg
      exact hnot ⟨by simp only [headerSize]; omega, by omega, by simp only [headerSize]; omega⟩
  · rw [parsepacket_header hhead] at h
    have hpack := packSize_eq buffer
    have hpack0 := h.packet.1
    simp only at hpack0
    have hplain : packSize buffer = 12 + readInt buffer 8 := by
      rw [hpack]
      split
      · rfl
      · rename_i hwrap
        rw [if_neg hwrap] at hpack
        omega
    -- nothing wraps round any more, so that what is left is not negative
    have hleft := h.left
    simp only at hleft
    rw [toInt_of_bounds (by omega) (by omega)] at hleft
    have hone : (if packSize buffer ≤ toInt buffer.length then 1 else 0) = 1 := if_pos (by omega)
    have hremain := h.remain.2
    have hwhole := h.whole
    simp only at hremain hwhole
    replace hwhole := congrArg List.length (hwhole hone)
    rw [toInt_of_bounds (n := toInt buffer.length - packSize buffer) (by omega) (by omega)] at hremain hwhole
    simp only [Segment.bytes, List.length_append, List.length_take, List.length_drop] at hwhole
    -- the two strings have as many bytes as the buffer, so that the second one is empty
    simp only [headerSize] at hhead ⊢
    clear hone
    generalize toInt buffer.length = v at *
    generalize packSize buffer = k at *
    have hend : (buffer.length : Int) = v ∧ k = v := by omega
    exact Or.inr (Or.inl ⟨by omega, by omega, by omega⟩)

/-- For every buffer: what `l_parsepacket` returns is right if and only if the buffer is empty or a single packet,
or one of the largest. -/
theorem right_iff_single (buffer : List UInt8) : Right buffer (parsepacket buffer) ↔ single buffer :=
  ⟨single_of_right, right_of_single⟩

/-- An empty packet and the first byte of the next: the string after the packet is one byte from behind
the end of the buffer. -/
theorem byte_behind_packet :
    (parsepacket (List.replicate 12 0 ++ [7])).remain = ⟨13, 1⟩ ∧
      ¬Right (List.replicate 12 0 ++ [7]) (parsepacket (List.replicate 12 0 ++ [7])) := by
  have hremain : (parsepacket (List.replicate 12 0 ++ [7])).remain = ⟨13, 1⟩ := by decide
  refine ⟨hremain, fun h => ?_⟩
  have hwithin := h.remain
  rw [hremain] at hwithin
  exact absurd (hwithin.2 (by decide)).2 (by decide)

end SasyServer.ParseData
