import SasyServer.Lemmas.DeclaredLength

/-!
# Theorem: `readSize` reads the declared length exactly when it is below 2^31

`readSize` is the protocol's answer with the length narrowed to an `int` (`readSize_eq_encode`). A length below 2^31 is not
changed by that, and any other is: it becomes another length, or a negative number, which may be one of the sentinels.
-/

namespace SasyServer.Websocket

/-- The answer `readSize` is to give: a sentinel exactly for its own answer of the protocol, and otherwise the declared
length with the length of the header, the mask flag and the key. -/
structure ReadsSize (buffer : List UInt8) : Prop where
  incomplete : (readSize buffer).1 = -1 ↔ answer buffer = .incomplete
  discard : (readSize buffer).1 = -2 ↔ answer buffer = .discard
  close : (readSize buffer).1 = -3 ↔ answer buffer = .close
  frame : ∀ declared head, answer buffer = .frame declared head → readSize buffer = ((declared : Int), head)

/-- The header is complete and declares a length of 2^31 or more. -/
def declaresHuge (buffer : List UInt8) : Bool :=
  match answer buffer with
  | .frame declared _ => 2 ^ 31 ≤ declared
  | _ => false

/-- A length of 2^31 or more is changed by the narrowing. -/
theorem toInt32_eq_self_iff (n : Nat) : toInt32 n = n ↔ n < 2 ^ 31 := by
  refine ⟨fun h => ?_, toInt32_of_lt⟩
  have hlt : toInt32 n < (2 ^ 32 + 1) / 2 := Int.bmod_lt (by decide)
  omega

/-- Without a complete header the answer is right. -/
theorem readsSize_of_not_frame {buffer : List UInt8} (h : ∀ declared head, answer buffer ≠ .frame declared head) :
    ReadsSize buffer := by
  have henc := readSize_eq_encode buffer
  cases hans : answer buffer with
  | frame declared head => exact absurd hans (h declared head)
  | incomplete | discard | close =>
    rw [hans, Answer.encode] at henc
    constructor
    · simp [henc, hans]
    · simp [henc, hans]
    · simp [henc, hans]
    · exact fun n head hn => absurd hn (h n head)

/-- For every buffer: `readSize` answers as it is to answer if and only if no length of 2^31 or more is declared. -/
theorem readsSize_iff (buffer : List UInt8) : ReadsSize buffer ↔ ¬declaresHuge buffer := by
  unfold declaresHuge
  by_cases hframe : ∀ declared head, answer buffer ≠ .frame declared head
  · refine iff_of_true (readsSize_of_not_frame hframe) ?_
    split
    · rename_i n head hans
      exact absurd hans (hframe n head)
    · simp
  simp only [not_forall, not_not] at hframe
  obtain ⟨n, head, hans⟩ := hframe
  have henc := readSize_eq_encode buffer
  rw [hans, Answer.encode] at henc
  simp only [hans, decide_eq_true_eq, Nat.not_le]
  rw [← toInt32_eq_self_iff]
  constructor
  · intro h
    have hread := h.frame n head hans
    rw [henc] at hread
    exact (Prod.mk.inj hread).1
  · intro h
    rw [h] at henc
    have hsentinel : ∀ k : Nat, (readSize buffer).1 ≠ -(k + 1 : Int) := by
      intro k
      rw [henc]
      simp only
      omega
    refine ⟨iff_of_false (hsentinel 0) (by simp [hans]), iff_of_false (hsentinel 1) (by simp [hans]),
      iff_of_false (hsentinel 2) (by simp [hans]), ?_⟩
    intro n' head' h'
    rw [hans, Answer.frame.injEq] at h'
    rw [henc, h'.1, h'.2]

/-- A text frame of 2^32 + 5 bytes is read as one of 5 bytes, and one of 2^32 - 1 bytes as a header that is not complete. -/
theorem five_read_of_huge :
    ¬ReadsSize [0x81, 0x7f, 0, 0, 0, 1, 0, 0, 0, 5] ∧ ¬ReadsSize [0x81, 0x7f, 0, 0, 0, 0, 0xff, 0xff, 0xff, 0xff] := by
  constructor
  · intro h
    have := h.frame (2 ^ 32 + 5) ⟨10, Mask.zero, false⟩ (by decide)
    exact absurd this (by decide)
  · intro h
    exact absurd (h.incomplete.1 (by decide)) (by decide)

end SasyServer.Websocket
