import SasyServer.Gateway.Forwarding
import SasyServer.Pbcc

/-!
# Theorem: a forwarded payload is unpacked within its bounds unless it has three bytes

The gateway drops what is shorter than three bytes, and the unpacking refuses the same, but it needs four.
-/

namespace SasyServer.Pbcc

/-- The payload is refused, or it is unpacked from its own bytes alone and its body has all but the first four of them. -/
def UnpacksWithin (payload : List UInt8) : Prop :=
  ∀ u, unpackPointer (fun i => payload.getD i 0) (sizeOfPayload payload.length) = some u →
    (∀ i ∈ u.reads, i < payload.length) ∧ u.bodyLength = payload.length - 4 ∧ 0 ≤ u.bodyLength

theorem sizeOfPayload_of_lt {n : Nat} (h : n < 2 ^ 31) : sizeOfPayload n = n := by
  unfold sizeOfPayload
  rw [Int.bmod_eq_of_le] <;> omega

/-- With the four bytes of the header a pointer and its size are unpacked as the list of the bytes is. -/
theorem unpackPointer_eq_some {payload : List UInt8} (h4 : 4 ≤ payload.length) (h : payload.length < 2 ^ 31) :
    ∃ u, unpackPointer (fun i => payload.getD i 0) (sizeOfPayload payload.length) = some u ∧
      u.bodyLength = payload.length - 4 ∧
      unpackNetPayload payload = some (u.pbNo, (payload.drop u.bodyStart).take u.bodyLength.toNat, u.k, u.first) ∧
      ∀ i ∈ u.reads, i < payload.length := by
  have hsize := sizeOfPayload_of_lt h
  unfold unpackPointer
  rw [hsize, if_neg (by omega)]
  refine ⟨_, rfl, rfl, ?_, ?_⟩
  · clear hsize h
    match payload, h4 with
    | p0 :: p1 :: p2 :: p3 :: body, _ =>
      simp only [unpackNetPayload, List.length_cons, List.drop_succ_cons, List.drop_zero]
      rw [List.take_of_length_le (by omega)]
      rfl
  · intro i hi
    simp only [List.mem_append, List.mem_range'_1, List.mem_cons, List.not_mem_nil, or_false] at hi
    omega

/-- For every state of the gateway and every payload it forwards: the unpacking stays within the payload if and only if the
payload does not have three bytes and, at a length of 2^31 or more, is refused. -/
theorem unpacksWithin_iff (s : Gateway.State) (fd : Nat) (payload : List UInt8) (hkind : s.kind = .tcpGateway)
    (hforward : Gateway.dropsMessage s fd payload.length = false) :
    UnpacksWithin payload ↔ payload.length ≠ 3 ∧ (payload.length < 2 ^ 31 ∨ sizeOfPayload payload.length < 3) := by
  have h3 : 3 ≤ payload.length := by
    rw [Gateway.dropsMessage, Bool.or_eq_false_iff, Bool.and_eq_false_iff] at hforward
    rcases hforward.1 with h | h
    · simp [hkind] at h
    · simpa using h
  rcases Nat.lt_or_ge payload.length (2 ^ 31) with hlt | hge
  · by_cases hthree : payload.length = 3
    · refine iff_of_false ?_ fun h => h.1 hthree
      intro h
      have hbody := (h _ (if_neg (by rw [hthree]; decide))).2.2
      simp only [hthree] at hbody
      exact absurd hbody (by decide : ¬(0 : Int) ≤ sizeOfPayload 3 - 4)
    · refine iff_of_true ?_ ⟨hthree, Or.inl hlt⟩
      obtain ⟨u, hu, hbody, -, hreads⟩ := unpackPointer_eq_some (show 4 ≤ payload.length by omega) hlt
      intro u' hu'
      rw [hu, Option.some.injEq] at hu'
      subst hu'
      exact ⟨hreads, hbody, by omega⟩
  · have hsmall : sizeOfPayload payload.length < (2 ^ 32 + 1) / 2 := Int.bmod_lt (by decide)
    rw [and_iff_right (by omega), or_iff_right (by omega)]
    by_cases hrefused : sizeOfPayload payload.length < 3
    · refine iff_of_true ?_ hrefused
      intro u hu
      rw [unpackPointer, if_pos hrefused] at hu
      cases hu
    · refine iff_of_false ?_ hrefused
      intro h
      have hbody := (h _ (if_neg hrefused)).2.1
      simp only at hbody
      omega

/-- A gateway with one client, whose agent has come. -/
def forwarding : Gateway.State :=
  { Gateway.State.init .tcpGateway 100 with
    connection := Function.update (fun _ => none) 5 (some 0)
    record := fun _ => ⟨5, some 9, 0⟩ }

/-- A payload of four bytes is unpacked, with an empty body. -/
theorem unpacksWithin_iff_empty_body : UnpacksWithin [0, 1, 0, 0] :=
  (unpacksWithin_iff forwarding 5 [0, 1, 0, 0] rfl (by decide)).2 (by decide)

/-- A payload of three bytes is forwarded and not refused, the offset 3 is read, and the length of the body that
`lua_pushlstring` is given is -1; the call then ends with a memory error. -/
theorem three_bytes_unpacked :
    Gateway.dropsMessage forwarding 5 3 = false ∧ ¬UnpacksWithin [0, 1, 0] ∧
      unpackPointer (fun i => ([0, 1, 0] : List UInt8).getD i 0) 3 = some ⟨0x010000, 4, -1, 0, 0, [1, 2, 3, 0]⟩ := by
  refine ⟨by decide, ?_, by decide⟩
  intro h
  have hbody := (h ⟨0x010000, 4, -1, 0, 0, [1, 2, 3, 0]⟩ (by decide)).2.2
  exact absurd hbody (by decide)

end SasyServer.Pbcc
