import Mathlib.Algebra.Group.Nat.Units
import Mathlib.Data.List.Forall2
import SasyServer.Lib.LengthFraming
import SasyServer.Pbcc

/-!
# Theorem: a stream of packets is cut back into them, up to the longest four bodies

`packNetPacket` checks that the length of the body fits into the two bytes of the header, and then writes the length of the
payload, which is four bytes longer.
-/

namespace SasyServer.Pbcc

open LengthFraming (Splitter)

theorem toNat_lowByte (n : Nat) : (lowByte n).toNat = n % 256 := by
  rw [lowByte, UInt8.toNat_ofNat', show (0xff : Nat) = 2 ^ 8 - 1 from rfl, Nat.and_two_pow_sub_one_eq_mod]
  exact Nat.mod_mod n 256

/-- The high byte above the low one. -/
theorem shiftLeft_or_lowByte (a n : Nat) : a <<< 8 ||| (lowByte n).toNat = a * 256 + n % 256 := by
  have hlt : n % 256 < 2 ^ 8 := Nat.mod_lt _ (by decide)
  rw [toNat_lowByte, ← Nat.shiftLeft_add_eq_or_of_lt hlt, Nat.shiftLeft_eq]

/-- The payload of a packet: what follows the header. -/
def payload (ptr : List UInt8) (protoNo : Nat) : List UInt8 :=
  [0, lowByte (protoNo >>> 16), lowByte (protoNo >>> 8), lowByte protoNo] ++ ptr

/-- The header of a packet. -/
def header (ptr : List UInt8) : List UInt8 := [lowByte ((ptr.length + 4) >>> 8), lowByte (ptr.length + 4)]

/-- What a message is packed to, when it is not too long. -/
theorem packNetPacket_eq_some {ptr packet : List UInt8} {protoNo : Nat} (h : packNetPacket ptr protoNo = some packet) :
    ptr.length < 0x10000 ∧ packet = header ptr ++ payload ptr protoNo := by
  unfold packNetPacket at h
  dsimp only at h
  split at h
  · cases h
  · rename_i hlt
    exact ⟨Nat.lt_of_not_ge hlt, (Option.some.inj h).symm⟩

theorem length_payload (ptr : List UInt8) (protoNo : Nat) : (payload ptr protoNo).length = ptr.length + 4 := by
  rw [payload, List.length_append, Nat.add_comm]
  rfl

theorem readSize_header (ptr rest : List UInt8) : readSize (header ptr ++ rest) = (ptr.length + 4) % 0x10000 := by
  have h : readSize (header ptr ++ rest) = (lowByte ((ptr.length + 4) >>> 8)).toNat <<< 8 |||
    (lowByte (ptr.length + 4)).toNat := rfl
  rw [h, shiftLeft_or_lowByte, toNat_lowByte, Nat.shiftRight_eq_div_pow]
  omega

/-- The header says the length of the payload, if it is below the limit. -/
theorem readSize_iff {ptr : List UInt8} (hptr : ptr.length < 0x10000) (rest : List UInt8) (protoNo : Nat) :
    readSize (header ptr ++ rest) = (payload ptr protoNo).length ↔ ptr.length + 4 < 0x10000 := by
  rw [readSize_header, length_payload]
  omega

/-- The payload is unpacked to the protocol number and the message. -/
theorem unpackNetPayload_payload (ptr : List UInt8) {protoNo : Nat} (hno : protoNo < 2 ^ 24) :
    unpackNetPayload (payload ptr protoNo) = some (protoNo, ptr, 0, 0) := by
  have hor :
      (lowByte (protoNo >>> 16)).toNat <<< 16 ||| (lowByte (protoNo >>> 8)).toNat <<< 8 ||| (lowByte protoNo).toNat =
        protoNo := by
    rw [show (16 : Nat) = 8 + 8 from rfl, Nat.shiftLeft_add, ← Nat.shiftLeft_or_distrib, shiftLeft_or_lowByte,
      shiftLeft_or_lowByte, toNat_lowByte, Nat.shiftRight_eq_div_pow, Nat.shiftRight_eq_div_pow]
    omega
  have hunpack : unpackNetPayload (payload ptr protoNo) =
      some ((lowByte (protoNo >>> 16)).toNat <<< 16 ||| (lowByte (protoNo >>> 8)).toNat <<< 8 ||| (lowByte protoNo).toNat,
        ptr, 0, 0) := rfl
  rw [hunpack, hor]

theorem eq_map_of_pack {ps : List (Nat × List UInt8)} {packets : List (List UInt8)}
    (h : List.Forall₂ (fun p packet => packNetPacket p.2 p.1 = some packet) ps packets) :
    packets = ps.map fun p => header p.2 ++ payload p.2 p.1 := by
  induction h with
  | nil => rfl
  | cons h _ ih => rw [List.map_cons, ← ih, (packNetPacket_eq_some h).2]

theorem length_lt_of_pack {ps : List (Nat × List UInt8)} {packets : List (List UInt8)}
    (h : List.Forall₂ (fun p packet => packNetPacket p.2 p.1 = some packet) ps packets) :
    ∀ p ∈ ps, p.2.length < 0x10000 := by
  induction h with
  | nil => exact nofun
  | cons h _ ih => exact List.forall_mem_cons.2 ⟨(packNetPacket_eq_some h).1, ih⟩

/-- For any packets with protocol numbers below 2^24 that are accepted: each header says how many bytes follow, these bytes
are unpacked to the protocol number and the body, and the splitter cuts the stream of the packets into them, in whatever
pieces it comes, exactly if no body is longer than 0xfffb bytes. -/
theorem packets_iff (ps : List (Nat × List UInt8)) (packets : List (List UInt8)) (hno : ∀ p ∈ ps, p.1 < 2 ^ 24)
    (hpack : List.Forall₂ (fun p packet => packNetPacket p.2 p.1 = some packet) ps packets) :
    (List.Forall₂
      (fun p packet => readSize packet = (packet.drop 2).length ∧ unpackNetPayload (packet.drop 2) = some (p.1, p.2, 0, 0))
        ps packets ∧
      ∀ pieces : List (List UInt8), pieces.flatten = packets.flatten →
        (pieces.foldl (Splitter.feed 2 readSize) Splitter.init).frames = packets.map (List.drop 2)) ↔
    ∀ p ∈ ps, p.2.length + 4 < 0x10000 := by
  have hpackets : packets = ps.map fun p => header p.2 ++ payload p.2 p.1 := eq_map_of_pack hpack
  have hlength := length_lt_of_pack hpack
  have hdrop : packets.map (List.drop 2) = ps.map fun p => payload p.2 p.1 := by
    rw [hpackets, List.map_map]
    rfl
  have hstream : (Splitter.feed 2 readSize Splitter.init packets.flatten).frames = packets.map (List.drop 2) ↔
      ∀ p ∈ ps, readSize (header p.2) = (payload p.2 p.1).length := by
    have hheader : ∀ p ∈ ps, (header p.2).length = 2 := fun _ _ => rfl
    have hiff := @LengthFraming.split_frames_iff UInt8 2 readSize (by decide) _ (fun p : Nat × List UInt8 => header p.2)
      (fun p => payload p.2 p.1) ps hheader []
    rw [List.nil_append] at hiff
    rw [hdrop, hpackets, ← List.flatMap_def]
    exact hiff
  have hsize : ∀ p ∈ ps, (readSize (header p.2) = (payload p.2 p.1).length ↔ p.2.length + 4 < 0x10000) := by
    intro p hp
    have := readSize_iff (hlength p hp) [] p.1
    rwa [List.append_nil] at this
  constructor
  · rintro ⟨-, hsplit⟩ p hp
    have hframes := hsplit [packets.flatten] (by simp)
    exact (hsize p hp).1 (hstream.1 hframes p hp)
  · intro hbound
    refine ⟨?_, fun pieces hpieces => ?_⟩
    · rw [hpackets, List.forall₂_map_right_iff]
      refine List.forall₂_same.2 fun p hp => ⟨?_, unpackNetPayload_payload p.2 (hno p hp)⟩
      exact (readSize_iff (hlength p hp) _ p.1).2 (hbound p hp)
    · rw [← LengthFraming.feed_flatten, hpieces]
      exact hstream.2 fun p hp => (hsize p hp).2 (hbound p hp)

/-- A stream of two packets, in two pieces. -/
theorem packets_iff_two :
    ([[0, 7, 0, 1], [2, 7, 10, 20, 30, 0, 4, 0, 0, 0, 5]].foldl (Splitter.feed 2 readSize) Splitter.init).frames =
      [[0, 1, 2, 7, 10, 20, 30], [0, 0, 0, 5]] :=
  ((packets_iff [(0x010207, [10, 20, 30]), (5, [])] [[0, 7, 0, 1, 2, 7, 10, 20, 30], [0, 4, 0, 0, 0, 5]] (by decide)
    (.cons (by decide) (.cons (by decide) .nil))).2 (by decide)).2 [[0, 7, 0, 1], [2, 7, 10, 20, 30, 0, 4, 0, 0, 0, 5]] rfl

/-- A body of 0xfffc bytes is accepted, and the header says 0. -/
theorem header_of_long_body :
    ¬∀ (protoNo : Nat) (ptr packet : List UInt8), protoNo < 2 ^ 24 → packNetPacket ptr protoNo = some packet →
      readSize packet = (packet.drop 2).length ∧ unpackNetPayload (packet.drop 2) = some (protoNo, ptr, 0, 0) := by
  intro h
  have hlength : (List.replicate 0xfffc (0 : UInt8)).length = 0xfffc := List.length_replicate
  generalize List.replicate 0xfffc (0 : UInt8) = ptr at hlength
  have hpack : packNetPacket ptr 1 = some (header ptr ++ payload ptr 1) := if_neg (by rw [hlength]; decide)
  have hsize := (h 1 ptr _ (by decide) hpack).1
  have hbound := (readSize_iff (by rw [hlength]; decide) (payload ptr 1) 1).1 hsize
  rw [hlength] at hbound
  exact absurd hbound (by decide)

end SasyServer.Pbcc
