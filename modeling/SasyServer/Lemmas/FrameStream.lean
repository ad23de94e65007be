import SasyServer.Lemmas.FrameHeader
import SasyServer.Lemmas.PacketQueue

/-!
# The filter on well-formed streams, cut anywhere

`Holds` says what the unfinished packet of a connection is after the first `n` bytes of a frame, and `At` after the first `n`
bytes of a stream of frames. The three paths of the filter (no entry, an entry with a part of the header, an entry with a
part of the payload) and `pushMore` all keep it, wherever the cut falls, and what they deliver are the frames that became
complete (`feed_stream`).
-/

namespace SasyServer.Websocket

/-! ## Masks -/

/-- The `hasunmaskSize` after `k` bytes of payload. -/
def Frame.unmasked (f : Frame) (k : Nat) : Nat := if f.mask.isSome then k else 0

/-- The payload on the wire. -/
def Frame.wire (f : Frame) : List UInt8 := applyMask f.mask f.payload

theorem length_wire (f : Frame) : f.wire.length = f.payload.length := by
  unfold Frame.wire applyMask
  split <;> simp

theorem length_bytes (f : Frame) : f.bytes.length = f.header.length + f.payload.length := by
  rw [← length_wire f]
  simp [Frame.bytes, Frame.wire]

/-- Any segment of the wire payload is decoded at its own phase of the key. -/
theorem decode_segment (f : Frame) (i j : Nat) :
    decodeWsmaskData ((f.wire.drop i).take j) f.head.mask f.head.ismask (f.unmasked i) =
      ((f.payload.drop i).take j, f.unmasked (i + min j (f.payload.length - i))) := by
  unfold decodeWsmaskData Frame.unmasked Frame.wire applyMask Frame.head
  cases hm : f.mask with
  | none => simp
  | some m =>
    simp only [Option.isSome_some, if_true, Option.getD_some, List.length_take, List.length_drop, List.length_mapIdx,
      Prod.mk.injEq, and_true]
    apply List.ext_getElem
    · simp
    · intro k h1 h2
      simp only [List.getElem_mapIdx, List.getElem_take, List.getElem_drop, Nat.add_comm k i]
      rw [UInt8.xor_assoc, UInt8.xor_self, UInt8.xor_zero]

/-! ## Entries -/

/-- An entry with the first `k` bytes of the frame's payload. -/
structure Filled (fd : Nat) (f : Frame) (k : Nat) (uc : Uncomplete) : Prop where
  id : uc.pack.id = fd
  size : uc.pack.size = f.payload.length
  buffer : uc.pack.buffer = f.payload.take k
  read : uc.read = k
  mask : uc.mask = f.head.mask
  ismask : uc.ismask = f.head.ismask
  unmasked : uc.hasunmaskSize = f.unmasked k

/-- An entry with the first `k` bytes of the frame's header. -/
structure Started (fd : Nat) (f : Frame) (k : Nat) (uc : Uncomplete) : Prop where
  id : uc.pack.id = fd
  header : uc.header = f.header.take k
  read : uc.read = -1

/-- What is kept after the first `n` bytes of a frame. -/
def Holds (fd : Nat) (f : Frame) (n : Nat) (e : Option Uncomplete) : Prop :=
  match e with
  | none => n = 0
  | some uc =>
    (0 < n ∧ n < f.header.length ∧ Started fd f n uc) ∨ (f.header.length ≤ n ∧ Filled fd f (n - f.header.length) uc)

/-- What is kept after the first `n` bytes of a stream of frames. -/
def At (fd : Nat) : List Frame → Nat → Option Uncomplete → Prop
  | [], _, e => e = none
  | f :: fs, n, e => if f.bytes.length ≤ n then At fd fs (n - f.bytes.length) e else Holds fd f n e

theorem at_cons_of_lt {fd n : Nat} {f : Frame} {fs : List Frame} {e : Option Uncomplete} (h : n < f.bytes.length) :
    At fd (f :: fs) n e ↔ Holds fd f n e := by
  rw [At, if_neg (by omega)]

theorem at_cons_of_ge {fd n : Nat} {f : Frame} {fs : List Frame} {e : Option Uncomplete} (h : f.bytes.length ≤ n) :
    At fd (f :: fs) n e ↔ At fd fs (n - f.bytes.length) e := by
  rw [At, if_pos h]

theorem completeFrames_cons_of_lt {n : Nat} {f : Frame} {fs : List Frame} (h : n < f.bytes.length) :
    completeFrames (f :: fs) n = [] := by
  rw [completeFrames, if_neg (by omega)]

theorem completeFrames_cons_of_ge {n : Nat} {f : Frame} {fs : List Frame} (h : f.bytes.length ≤ n) :
    completeFrames (f :: fs) n = f :: completeFrames fs (n - f.bytes.length) := by
  rw [completeFrames, if_pos h]

/-- The packet a frame is to lead to. -/
def Frame.pack (fd : Nat) (f : Frame) : NetPack := ⟨fd, f.payload.length, f.payload⟩

theorem length_header_le (f : Frame) : f.header.length ≤ 14 := by
  have := length_key f
  unfold Frame.header Frame.extended
  split <;> simp [length_bigEndian] <;> split at this <;> omega

theorem two_le_length_header (f : Frame) : 2 ≤ f.header.length := by
  simp [Frame.header]

theorem length_bytes_pos (f : Frame) : 0 < f.bytes.length := by
  have := two_le_length_header f
  rw [length_bytes]
  omega

/-- Before its first byte a stream has no complete frame and nothing is kept. -/
theorem completeFrames_zero (fs : List Frame) : completeFrames fs 0 = [] := by
  cases fs with
  | nil => rfl
  | cons f fs => exact completeFrames_cons_of_lt (length_bytes_pos f)

/-- Before the first byte of a stream there is no unfinished packet. -/
theorem at_zero (fd : Nat) (fs : List Frame) (e : Option Uncomplete) : At fd fs 0 e ↔ e = none := by
  cases fs with
  | nil => rfl
  | cons f fs =>
    rw [at_cons_of_lt (length_bytes_pos f)]
    cases e with
    | none => simp [Holds]
    | some uc =>
      have := two_le_length_header f
      simp only [Holds, Nat.lt_irrefl, false_and, false_or, reduceCtorEq, iff_false, not_and]
      omega

/-! ## The start of a frame -/

/-- A complete header, whatever follows. -/
theorem nextPack_header (f : Frame) (x : List UInt8) :
    nextPack (f.header ++ x) false = ((f.payload.length : Int), f.head, f.header ++ x) := by
  have hs := readSize_header f x
  have hl := f.length_ok
  have hr : readFrameSize (f.header ++ x) = ((f.payload.length : Int), f.head, f.header ++ x) := by
    unfold Frame.header at hs ⊢
    simp only [List.cons_append] at hs ⊢
    unfold readFrameSize
    rw [hs]
    simp only
    rw [if_neg (by omega)]
  simp only [nextPack, Bool.false_eq_true, if_false, hr]
  rw [clampSize, if_neg (by omega)]

/-- A part of a header. -/
theorem nextPack_prefix (f : Frame) (p y : List UInt8) (hp : f.header = p ++ y) (hy : y ≠ []) :
    nextPack p false = (-1, Head.init, p) := by
  have hs := readSize_prefix f p y hp hy
  have hr : readFrameSize p = (-1, Head.init, p) := by
    match p with
    | [] => rfl
    | [b] => rfl
    | b0 :: b1 :: p =>
      unfold readFrameSize
      rw [hs]
      rfl
  simp only [nextPack, Bool.false_eq_true, if_false, hr]
  rfl

/-- A frame cut inside, with no entry yet: what is kept of it, by `pushMore` and by `filterFresh` alike. -/
theorem fresh_part {L : Option Queue} {fd : Nat} (f : Frame) {b y : List UInt8} (hg : Good L) (hp : pending L fd = none)
    (hb : b ≠ []) (hf : f.bytes = b ++ y) (hy : y ≠ []) :
    ∃ L' e, Touches L L' fd [] e ∧ Holds fd f b.length e ∧ pushMore L fd b false = .ok L' ∧
      filterFresh L fd b false = .ok (L', .none) := by
  have hb' := List.length_pos_iff.mpr hb
  have hy' := List.length_pos_iff.mpr hy
  have h14 := length_header_le f
  have hlen : f.header.length + f.payload.length = b.length + y.length := by
    rw [← length_bytes, hf, List.length_append]
  rcases Nat.lt_or_ge b.length f.header.length with hlt | hge
  · -- the cut is in the header
    obtain ⟨z, hz⟩ : ∃ z, f.header = b ++ z := by
      have : b <+: f.header := List.prefix_of_prefix_length_le ⟨y, hf.symm⟩ (List.prefix_append _ _) hlt.le
      exact ⟨_, this.choose_spec.symm⟩
    have hz' : z ≠ [] := by
      rintro rfl
      rw [hz, List.append_nil] at hlt
      exact Nat.lt_irrefl _ hlt
    have hn := nextPack_prefix f b z hz hz'
    have hsave : saveHeader L fd b false = .ok (some (saveUncomplete L ⟨⟨fd, 0, []⟩, b, -1, Mask.zero, false, 0⟩)) := by
      unfold saveHeader
      simp only [Bool.false_eq_true, false_and, if_false]
      rw [if_neg (by simp only [headerSize]; omega)]
    refine ⟨_, some ⟨⟨fd, 0, []⟩, b, -1, Mask.zero, false, 0⟩, touches_save _ hg rfl hp,
      Or.inl ⟨hb', hlt, rfl, ?_, rfl⟩, ?_, ?_⟩
    · simp [hz]
    · unfold pushMore
      simp only [hn, if_true]
      exact hsave
    · unfold filterFresh
      simp only [hn, if_true, hsave]
      rfl
  · -- the cut is in the payload
    obtain ⟨z, rfl⟩ : ∃ z, b = f.header ++ z := by
      have : f.header <+: b := List.prefix_of_prefix_length_le (List.prefix_append _ _) ⟨y, hf.symm⟩ hge
      exact ⟨_, this.choose_spec.symm⟩
    have hw : f.wire = z ++ y := by
      rw [Frame.bytes, List.append_assoc] at hf
      exact List.append_cancel_left hf
    rw [List.length_append] at hlen hge ⊢
    have hd : decodeWsmaskData z f.head.mask f.head.ismask 0 = (f.payload.take z.length, f.unmasked z.length) := by
      have := decode_segment f 0 z.length
      rw [hw, List.drop_zero, List.take_left, List.drop_zero, Nat.zero_add, Nat.min_eq_left (by omega)] at this
      simpa [Frame.unmasked] using this
    have hn := nextPack_header f z
    have hdrop : (f.header ++ z).drop f.head.packHeadLength = z := List.drop_left
    refine ⟨savePayload L fd f.payload.length f.head z, _, touches_save _ hg rfl hp,
      Or.inr ⟨Nat.le_add_right _ _, ⟨rfl, rfl, ?_, ?_, rfl, rfl, ?_⟩⟩, ?_, ?_⟩
    · simp [hd]
    · simp
    · simp [hd]
    · unfold pushMore
      simp only [hn, hdrop]
      rw [if_neg (by omega), if_pos ⟨by omega, by decide⟩]
    · unfold filterFresh
      simp only [hn, hdrop]
      rw [if_neg (by omega), if_neg (by omega), if_pos ⟨by omega, by decide⟩]

/-- The first frame of the buffer is whole: its packet, and how both functions go on. -/
theorem fresh_frame (f : Frame) (b : List UInt8) :
    nextPack (f.bytes ++ b) false = ((f.payload.length : Int), f.head, f.bytes ++ b) ∧
      (f.bytes ++ b).drop f.head.packHeadLength = f.wire ++ b ∧ f.payload.length ≤ (f.wire ++ b).length ∧
      (f.wire ++ b).drop f.payload.length = b ∧
      (decodeWsmaskData ((f.wire ++ b).take f.payload.length) f.head.mask f.head.ismask 0).1 = f.payload := by
  have hw := length_wire f
  have hd := decode_segment f 0 f.payload.length
  refine ⟨?_, ?_, ?_, ?_, ?_⟩
  · rw [Frame.bytes, List.append_assoc]
    exact nextPack_header f _
  · rw [Frame.bytes, List.append_assoc]
    exact List.drop_left
  · rw [List.length_append]
    omega
  · rw [← hw, List.drop_left]
  · rw [← hw, List.take_left]
    rw [List.drop_zero, ← hw, List.take_length, List.drop_zero, hw, List.take_length] at hd
    have : f.unmasked 0 = 0 := by simp [Frame.unmasked]
    rw [this] at hd
    rw [hd]

/-- `pushMore` on a buffer that starts with a whole frame. -/
theorem pushMore_frame (L : Option Queue) (fd : Nat) (f : Frame) (b : List UInt8) :
    pushMore L fd (f.bytes ++ b) false =
      if b = [] then .ok (some (pushData L fd f.payload f.payload.length))
      else pushMore (some (pushData L fd f.payload f.payload.length)) fd b false := by
  obtain ⟨hn, hdrop, hle, hrest, hdec⟩ := fresh_frame f b
  rw [pushMore]
  simp only [hn, hdrop, Int.toNat_natCast, hrest, hdec]
  rw [if_neg (by omega), if_neg (by omega), dif_neg (by omega)]
  cases b with
  | nil => simp
  | cons c b => simp

/-- `filterFresh` on a buffer that starts with a whole frame. -/
theorem filterFresh_frame (L : Option Queue) (fd : Nat) (f : Frame) (b : List UInt8) :
    filterFresh L fd (f.bytes ++ b) false =
      if b = [] then .ok (L, .data fd f.payload f.payload.length)
      else (pushMore (some (pushData L fd f.payload f.payload.length)) fd b false).map fun L => (L, .more) := by
  obtain ⟨hn, hdrop, hle, hrest, hdec⟩ := fresh_frame f b
  have hw := length_wire f
  unfold filterFresh
  simp only [hn, hdrop, Int.toNat_natCast, hrest, hdec]
  rw [if_neg (by omega), if_neg (by omega), if_neg (by omega)]
  by_cases hb : b = []
  · subst hb
    rw [← hw, List.append_nil, List.take_length] at hdec
    rw [List.append_nil, if_pos (by rw [hw]), if_pos rfl, hdec, hw]
  · have hb' := List.length_pos_iff.mpr hb
    rw [if_neg (by rw [List.length_append]; omega), if_neg (by omega), if_neg hb]

/-- `pushMore` on any part of a stream that starts with a frame: the complete frames are in the
ring, and the rest is kept. -/
theorem pushMore_stream {fd : Nat} {fs : List Frame} {L : Option Queue} {b : List UInt8} (hg : Good L)
    (hp : pending L fd = none) (hb : b ≠ []) (hpre : b <+: bytesOf fs) :
    ∃ L' e, pushMore L fd b false = .ok L' ∧ Touches L L' fd ((completeFrames fs b.length).map (Frame.pack fd)) e ∧
      At fd fs b.length e := by
  induction fs generalizing L b with
  | nil => exact absurd (List.prefix_nil.1 hpre) hb
  | cons f fs ih =>
    simp only [bytesOf, List.flatMap_cons] at hpre
    rcases Nat.lt_or_ge b.length f.bytes.length with hlt | hge
    · rw [completeFrames_cons_of_lt hlt]
      obtain ⟨y, hy⟩ := List.prefix_of_prefix_length_le hpre (List.prefix_append f.bytes _) hlt.le
      have hy' : y ≠ [] := by
        rintro rfl
        rw [← hy, List.append_nil] at hlt
        exact Nat.lt_irrefl _ hlt
      obtain ⟨L', e, t, hh, hm, -⟩ := fresh_part f hg hp hb hy.symm hy'
      exact ⟨L', e, hm, t, (at_cons_of_lt hlt).2 hh⟩
    · obtain ⟨c, rfl⟩ := List.prefix_of_prefix_length_le (List.prefix_append f.bytes _) hpre hge
      have hc : c <+: bytesOf fs := (List.prefix_append_right_inj f.bytes).1 hpre
      have t := touches_push fd f.payload f.payload.length hg
      rw [hp] at t
      rw [completeFrames_cons_of_ge hge, List.length_append, Nat.add_sub_cancel_left, pushMore_frame]
      simp only [at_cons_of_ge (Nat.le_add_right _ _), Nat.add_sub_cancel_left]
      by_cases hc0 : c = []
      · subst hc0
        rw [if_pos rfl, List.length_nil, completeFrames_zero]
        exact ⟨_, none, rfl, t, (at_zero fd fs none).2 rfl⟩
      · rw [if_neg hc0]
        obtain ⟨L', e, hm, t', ha⟩ := ih t.good t.self hc0 hc
        exact ⟨L', e, hm, t.trans t', ha⟩

/-! ## The middle of a frame -/

/-- The header goes on, and is still not complete. -/
theorem fillHeader_part (f : Frame) {p b z : List UInt8} (hf : f.header = p ++ b ++ z) (hb : b ≠ []) (hz : z ≠ []) :
    fillHeader false p b = .ok (-1, Head.init, p ++ b, []) := by
  have h14 := length_header_le f
  have hlen : f.header.length = p.length + b.length + z.length := by rw [hf]; simp; omega
  induction b generalizing p with
  | nil => exact absurd rfl hb
  | cons c b ih =>
    have hn : nextPack (p ++ [c]) false = (-1, Head.init, p ++ [c]) :=
      nextPack_prefix f (p ++ [c]) (b ++ z) (by rw [hf]; simp) (by simp [hz])
    rw [List.length_cons] at hlen
    unfold fillHeader
    rw [if_neg (by simp only [headerSize]; omega)]
    simp only [Bool.false_eq_true, false_and, if_false, hn]
    by_cases hb0 : b = []
    · subst hb0
      rw [if_pos (Or.inr rfl)]
    · rw [if_neg (by simp [hb0]), ih (by rw [hf]; simp) hb0 (by simp; omega)]
      simp

/-- The header becomes complete. -/
theorem fillHeader_full (f : Frame) {p y : List UInt8} (x : List UInt8) (hf : f.header = p ++ y) (hy : y ≠ []) :
    fillHeader false p (y ++ x) = .ok ((f.payload.length : Int), f.head, f.header, x) := by
  have h14 := length_header_le f
  have hlen : f.header.length = p.length + y.length := by rw [hf]; simp
  induction y generalizing p with
  | nil => exact absurd rfl hy
  | cons c y ih =>
    rw [List.length_cons] at hlen
    rw [List.cons_append]
    unfold fillHeader
    rw [if_neg (by simp only [headerSize]; omega)]
    simp only [Bool.false_eq_true, false_and, if_false]
    by_cases hy0 : y = []
    · subst hy0
      have hn := nextPack_header f []
      rw [List.append_nil] at hn
      rw [← hf, hn]
      simp
    · have hn : nextPack (p ++ [c]) false = (-1, Head.init, p ++ [c]) :=
        nextPack_prefix f (p ++ [c]) y (by rw [hf]; simp) hy0
      rw [hn, if_neg (by simp [hy0])]
      exact ih (by rw [hf]; simp) hy0 (by simp; omega)

/-- The payload goes on, and is still not complete. -/
theorem fillPack_part {q : Queue} {fd : Nat} {f : Frame} {k : Nat} {uc : Uncomplete} {b z : List UInt8}
    (hu : Filled fd f k uc) (hk : k ≤ f.payload.length) (hw : f.wire.drop k = b ++ z) (hz : z ≠ []) :
    ∃ uc', fillPack q fd uc b false = .ok (some (saveUncomplete (some q) uc'), .none) ∧ Filled fd f (k + b.length) uc' := by
  have hz' := List.length_pos_iff.mpr hz
  have hlen : f.payload.length - k = b.length + z.length := by
    rw [← length_wire f, ← List.length_drop, hw, List.length_append]
  have hd := decode_segment f k b.length
  rw [hw, List.take_left, Nat.min_eq_left (by omega)] at hd
  refine ⟨{ uc with
      pack := { uc.pack with buffer := uc.pack.buffer ++ (decodeWsmaskData b uc.mask uc.ismask uc.hasunmaskSize).1 }
      read := uc.read + b.length
      hasunmaskSize := (decodeWsmaskData b uc.mask uc.ismask uc.hasunmaskSize).2 }, ?_, hu.id, hu.size, ?_, ?_, hu.mask,
        hu.ismask, ?_⟩
  · unfold fillPack
    simp only
    rw [if_pos (by rw [hu.size, hu.read]; omega)]
  · simp only [hu.mask, hu.ismask, hu.unmasked, hd, hu.buffer]
    exact List.take_add.symm
  · simp only [hu.read]
    omega
  · simp only [hu.mask, hu.ismask, hu.unmasked, hd]

/-- The payload becomes complete. -/
theorem fillPack_full {q : Queue} {fd : Nat} {f : Frame} {k : Nat} {uc : Uncomplete} (b : List UInt8) (hu : Filled fd f k uc)
    (hk : k ≤ f.payload.length) :
    fillPack q fd uc (f.wire.drop k ++ b) false =
      if b = [] then .ok (some q, .data fd f.payload f.payload.length)
      else (pushMore (some (pushData (some q) fd f.payload f.payload.length)) fd b false).map fun L => (L, .more) := by
  have hlen : (f.wire.drop k).length = f.payload.length - k := by rw [List.length_drop, length_wire]
  have hneed : (uc.pack.size - uc.read).toNat = (f.wire.drop k).length := by rw [hu.size, hu.read, hlen]; omega
  have hd := decode_segment f k (f.wire.drop k).length
  rw [List.take_length] at hd
  have hbuf : uc.pack.buffer ++ (decodeWsmaskData (f.wire.drop k) uc.mask uc.ismask uc.hasunmaskSize).1 = f.payload := by
    have hall : (f.payload.drop k).take (f.payload.length - k) = f.payload.drop k :=
      List.take_of_length_le (by rw [List.length_drop])
    rw [hu.mask, hu.ismask, hu.unmasked, hd, hu.buffer, hlen]
    simp only
    rw [hall, List.take_append_drop]
  unfold fillPack
  simp only [hneed, List.take_left, List.drop_left, hbuf]
  rw [if_neg (by rw [hu.size, hu.read, List.length_append]; omega), hu.size]
  by_cases hb : b = []
  · rw [if_pos hb, if_pos (by rw [hb]; rfl)]
  · rw [if_neg hb, if_neg (by simpa using hb)]

/-- A kept part of a header becomes complete: the payload is filled from its first byte on. -/
theorem filterUncomplete_header {fd : Nat} {f : Frame} {n : Nat} {uc : Uncomplete} (hs : Started fd f n uc)
    (hn : n < f.header.length) :
    ∃ uc', Filled fd f 0 uc' ∧
      ∀ q x, filterUncomplete q fd uc (f.header.drop n ++ x) false = fillPack q fd uc' x false := by
  refine ⟨{ uc with
      pack := { uc.pack with size := f.payload.length, buffer := [] }
      header := f.header
      read := 0
      mask := f.head.mask
      ismask := f.head.ismask
      hasunmaskSize := 0 }, ⟨hs.id, rfl, by simp, rfl, rfl, rfl, by simp [Frame.unmasked]⟩, ?_⟩
  intro q x
  have hne : f.header.drop n ≠ [] := by
    rw [ne_eq, List.drop_eq_nil_iff]
    omega
  unfold filterUncomplete
  rw [if_pos (by rw [hs.read]; decide), hs.header, fillHeader_full f x (List.take_append_drop n f.header).symm hne]
  simp only [Except.bind]
  rw [if_neg (by omega), if_neg (by omega), if_neg (by omega)]
  simp

/-- An entry with a part of the payload goes to `fillPack`. -/
theorem filterUncomplete_payload {fd : Nat} {f : Frame} {k : Nat} {uc : Uncomplete} (hu : Filled fd f k uc) (q : Queue)
    (b : List UInt8) : filterUncomplete q fd uc b false = fillPack q fd uc b false := by
  unfold filterUncomplete
  rw [if_neg (by rw [hu.read]; omega)]

/-- The bytes of a frame from inside its header on. -/
theorem drop_bytes_header {f : Frame} {n : Nat} (h : n ≤ f.header.length) : f.bytes.drop n = f.header.drop n ++ f.wire := by
  rw [Frame.bytes, List.drop_append_of_le_length h, Frame.wire]

/-- The bytes of a frame from inside its payload on. -/
theorem drop_bytes_payload {f : Frame} {n : Nat} (h : f.header.length ≤ n) :
    f.bytes.drop n = f.wire.drop (n - f.header.length) := by
  rw [Frame.bytes, List.drop_append, List.drop_of_length_le h, List.nil_append, Frame.wire]

/-- A frame with a part of it kept is continued, and is still not complete. -/
theorem filterUncomplete_part {q : Queue} {fd : Nat} {f : Frame} {n : Nat} {uc : Uncomplete} {b z : List UInt8}
    (hg : Good (some q)) (hp : pending (some q) fd = none) (hh : Holds fd f n (some uc)) (hn : n < f.bytes.length)
    (hb : b ≠ []) (hf : f.bytes.drop n = b ++ z) (hz : z ≠ []) :
    ∃ L' e, filterUncomplete q fd uc b false = .ok (L', .none) ∧ Touches (some q) L' fd [] e ∧
      Holds fd f (n + b.length) e := by
  rw [length_bytes] at hn
  rcases hh with ⟨h0, hlt, hs⟩ | ⟨hge, hu⟩
  · rw [drop_bytes_header hlt.le] at hf
    have hlen : (f.header.drop n).length = f.header.length - n := List.length_drop
    rcases Nat.lt_or_ge b.length (f.header.drop n).length with hlt' | hge'
    · -- the cut stays in the header
      obtain ⟨y, hy⟩ := List.prefix_of_prefix_length_le ⟨z, hf.symm⟩ (List.prefix_append (f.header.drop n) f.wire) hlt'.le
      have hy' : y ≠ [] := by
        rintro rfl
        rw [← hy, List.append_nil] at hlt'
        exact Nat.lt_irrefl _ hlt'
      have hfh : f.header = f.header.take n ++ b ++ y := by rw [List.append_assoc, hy, List.take_append_drop]
      have hpart := fillHeader_part f hfh hb hy'
      refine ⟨_, some { uc with header := f.header.take n ++ b }, ?_, touches_save _ hg hs.id hp,
        Or.inl ⟨by omega, by omega, hs.id, ?_, hs.read⟩⟩
      · unfold filterUncomplete
        rw [if_pos (by rw [hs.read]; decide), hs.header, hpart]
        rfl
      · rw [List.take_add, ← hy, List.take_left]
    · -- the header becomes complete, the payload does not
      obtain ⟨x, rfl⟩ := List.prefix_of_prefix_length_le (List.prefix_append (f.header.drop n) f.wire) ⟨z, hf.symm⟩ hge'
      rw [List.append_assoc] at hf
      obtain ⟨uc', hu', he⟩ := filterUncomplete_header hs hlt
      obtain ⟨uc'', hfill, hu''⟩ := fillPack_part (q := q) hu' (Nat.zero_le _) (List.append_cancel_left hf) hz
      refine ⟨_, some uc'', (he q x).trans hfill, touches_save _ hg hu''.id hp, Or.inr ⟨?_, ?_⟩⟩
      · rw [List.length_append]
        omega
      · have : n + (f.header.drop n ++ x).length - f.header.length = 0 + x.length := by rw [List.length_append]; omega
        rwa [this]
  · rw [drop_bytes_payload hge] at hf
    obtain ⟨uc', hfill, hu'⟩ := fillPack_part (q := q) hu (by omega) hf hz
    refine ⟨_, some uc', (filterUncomplete_payload hu q b).trans hfill, touches_save _ hg hu'.id hp, Or.inr ⟨by omega, ?_⟩⟩
    have : n + b.length - f.header.length = n - f.header.length + b.length := by omega
    rwa [this]

/-- A frame with a part of it kept becomes complete. -/
theorem filterUncomplete_full {fd : Nat} {f : Frame} {n : Nat} {uc : Uncomplete} (q : Queue) (b : List UInt8)
    (hh : Holds fd f n (some uc)) (hn : n < f.bytes.length) :
    filterUncomplete q fd uc (f.bytes.drop n ++ b) false =
      if b = [] then .ok (some q, .data fd f.payload f.payload.length)
      else (pushMore (some (pushData (some q) fd f.payload f.payload.length)) fd b false).map fun L => (L, .more) := by
  rw [length_bytes] at hn
  rcases hh with ⟨h0, hlt, hs⟩ | ⟨hge, hu⟩
  · obtain ⟨uc', hu', he⟩ := filterUncomplete_header hs hlt
    rw [drop_bytes_header hlt.le, List.append_assoc, he]
    exact fillPack_full b hu' (Nat.zero_le _)
  · rw [drop_bytes_payload hge, filterUncomplete_payload hu]
    exact fillPack_full b hu (by omega)

/-! ## One chunk of a stream -/

/-- The end of a frame: its packet alone, or its packet and what `pushMore` finds behind it. Either way the gate gets the
frame and the frames that are complete behind it, in their order. -/
theorem feed_ends {L L₁ : Option Queue} {fd : Nat} {f : Frame} {fs : List Frame} {x b : List UInt8} (h0 : packets L = [])
    (t : Touches L L₁ fd [] none) (hb : b <+: bytesOf fs)
    (h : filterData L fd x false = if b = [] then .ok (L₁, .data fd f.payload f.payload.length)
      else (pushMore (some (pushData L₁ fd f.payload f.payload.length)) fd b false).map fun L => (L, .more)) :
    ∃ L', feed L ⟨fd, x, false⟩ = .ok (L', (f :: completeFrames fs b.length).map (Frame.out fd)) ∧
      At fd fs b.length (pending L' fd) := by
  have hpk := t.packets
  rw [h0, List.append_nil] at hpk
  unfold feed
  simp only [h]
  by_cases hb0 : b = []
  · subst hb0
    rw [if_pos rfl, List.length_nil, completeFrames_zero]
    exact ⟨L₁, rfl, (at_zero fd fs _).2 t.self⟩
  · rw [if_neg hb0]
    have tp := touches_push fd f.payload f.payload.length t.good
    obtain ⟨L₂, e, hm, t₂, ha⟩ := pushMore_stream tp.good (tp.self.trans t.self) hb0 hb
    have hpk₂ := (tp.trans t₂).packets
    rw [hpk, List.nil_append, List.singleton_append] at hpk₂
    obtain ⟨h1, h2, h3, h4⟩ := popAll_spec t₂.good (length_packets_le t₂.good)
    rw [hm]
    refine ⟨(popAll (capacity L₂) L₂).2, ?_, by rw [h4, t₂.self]; exact ha⟩
    simp only [Except.map, h1, hpk₂, List.map_cons, List.map_map]
    rfl

/-- A chunk that goes on inside a frame, which stays unfinished. -/
theorem feed_part {L : Option Queue} {fd : Nat} {f : Frame} {n : Nat} {b z : List UInt8} (hg : Good L)
    (hh : Holds fd f n (pending L fd)) (hn : n < f.bytes.length) (hb : b ≠ []) (hf : f.bytes.drop n = b ++ z) (hz : z ≠ []) :
    ∃ L', feed L ⟨fd, b, false⟩ = .ok (L', []) ∧ Holds fd f (n + b.length) (pending L' fd) := by
  have key : ∃ L' e, filterData L fd b false = .ok (L', .none) ∧ Touches L L' fd [] e ∧ Holds fd f (n + b.length) e := by
    unfold filterData
    cases hfind : findUncomplete L fd with
    | none =>
      rw [pending_of_find_none hfind] at hh
      have hn0 : n = 0 := hh
      subst hn0
      rw [List.drop_zero] at hf
      obtain ⟨L', e, t, hh', -, he⟩ := fresh_part f hg (pending_of_find_none hfind) hb hf hz
      exact ⟨L', e, he, t, by rwa [Nat.zero_add]⟩
    | some x =>
      obtain ⟨uc, q⟩ := x
      obtain ⟨hp, -, t⟩ := touches_find hg hfind
      rw [hp] at hh
      obtain ⟨L', e, he, t', hh'⟩ := filterUncomplete_part t.good t.self hh hn hb hf hz
      exact ⟨L', e, he, t.trans t', hh'⟩
  obtain ⟨L', e, he, t, hh'⟩ := key
  exact ⟨L', by unfold feed; simp only [he]; rfl, by rwa [t.self]⟩

/-- A chunk that ends a frame, whatever is behind it. -/
theorem filterData_full {L : Option Queue} {fd : Nat} {f : Frame} {n : Nat} (b : List UInt8) (hg : Good L)
    (hh : Holds fd f n (pending L fd)) (hn : n < f.bytes.length) :
    ∃ L₁, Touches L L₁ fd [] none ∧ filterData L fd (f.bytes.drop n ++ b) false =
      if b = [] then .ok (L₁, .data fd f.payload f.payload.length)
      else (pushMore (some (pushData L₁ fd f.payload f.payload.length)) fd b false).map fun L => (L, .more) := by
  cases hfind : findUncomplete L fd with
  | none =>
    have hp := pending_of_find_none hfind
    rw [hp] at hh
    have hn0 : n = 0 := hh
    subst hn0
    have t := Touches.refl hg fd
    rw [hp] at t
    refine ⟨L, t, ?_⟩
    unfold filterData
    rw [hfind, List.drop_zero]
    exact filterFresh_frame L fd f b
  | some x =>
    obtain ⟨uc, q⟩ := x
    obtain ⟨hp, -, t⟩ := touches_find hg hfind
    rw [hp] at hh
    refine ⟨some q, t, ?_⟩
    unfold filterData
    rw [hfind]
    exact filterUncomplete_full q b hh hn

/-- A chunk that ends a frame, with a part of the frames after it behind it. -/
theorem feed_full {L : Option Queue} {fd : Nat} {f : Frame} {fs : List Frame} {n : Nat} {b : List UInt8} (hg : Good L)
    (h0 : packets L = []) (hh : Holds fd f n (pending L fd)) (hn : n < f.bytes.length) (hb : b <+: bytesOf fs) :
    ∃ L', feed L ⟨fd, f.bytes.drop n ++ b, false⟩ = .ok (L', (f :: completeFrames fs b.length).map (Frame.out fd)) ∧
      At fd fs b.length (pending L' fd) := by
  obtain ⟨L₁, t, he⟩ := filterData_full b hg hh hn
  exact feed_ends h0 t hb he

/-- Any chunk of a well-formed stream: the frames it completes are delivered, and the rest of it is kept. -/
theorem feed_stream {L : Option Queue} {fd : Nat} {fs : List Frame} {n : Nat} {b : List UInt8} (hg : Good L)
    (h0 : packets L = []) (ha : At fd fs n (pending L fd)) (hb : b ≠ []) (hpre : b <+: (bytesOf fs).drop n) :
    ∃ L' new, feed L ⟨fd, b, false⟩ = .ok (L', new.map (Frame.out fd)) ∧ At fd fs (n + b.length) (pending L' fd) ∧
      completeFrames fs (n + b.length) = completeFrames fs n ++ new := by
  induction fs generalizing n with
  | nil =>
    rw [bytesOf, List.flatMap_nil, List.drop_nil] at hpre
    exact absurd (List.prefix_nil.1 hpre) hb
  | cons f fs ih =>
    rw [bytesOf, List.flatMap_cons] at hpre
    rcases Nat.lt_or_ge n f.bytes.length with hlt | hge
    · rw [at_cons_of_lt hlt] at ha
      rw [List.drop_append_of_le_length hlt.le] at hpre
      have hlen : (f.bytes.drop n).length = f.bytes.length - n := List.length_drop
      rw [completeFrames_cons_of_lt hlt]
      rcases Nat.lt_or_ge b.length (f.bytes.drop n).length with hlt' | hge'
      · obtain ⟨z, hz⟩ := List.prefix_of_prefix_length_le hpre (List.prefix_append (f.bytes.drop n) _) hlt'.le
        have hz' : z ≠ [] := by
          rintro rfl
          rw [← hz, List.append_nil] at hlt'
          exact Nat.lt_irrefl _ hlt'
        obtain ⟨L', he, hh⟩ := feed_part hg ha hlt hb hz.symm hz'
        rw [completeFrames_cons_of_lt (by omega)]
        exact ⟨L', [], he, (at_cons_of_lt (by omega)).2 hh, rfl⟩
      · obtain ⟨c, rfl⟩ := List.prefix_of_prefix_length_le (List.prefix_append (f.bytes.drop n) _) hpre hge'
        have hc : c <+: bytesOf fs := (List.prefix_append_right_inj _).1 hpre
        obtain ⟨L', he, hh⟩ := feed_full hg h0 ha hlt hc
        have hsub : n + (f.bytes.drop n ++ c).length - f.bytes.length = c.length := by rw [List.length_append]; omega
        have hge2 : f.bytes.length ≤ n + (f.bytes.drop n ++ c).length := by rw [List.length_append]; omega
        refine ⟨L', _, he, ?_, ?_⟩
        · rw [at_cons_of_ge hge2, hsub]
          exact hh
        · rw [completeFrames_cons_of_ge hge2, hsub, List.nil_append]
    · rw [at_cons_of_ge hge] at ha
      rw [List.drop_append, List.drop_of_length_le hge, List.nil_append] at hpre
      obtain ⟨L', new, he, ha', hc⟩ := ih ha hpre
      have hsub : n + b.length - f.bytes.length = n - f.bytes.length + b.length := by omega
      refine ⟨L', new, he, ?_, ?_⟩
      · rw [at_cons_of_ge (by omega), hsub]
        exact ha'
      · rw [completeFrames_cons_of_ge hge, completeFrames_cons_of_ge (by omega), hsub, hc, List.cons_append]

/-! ## The chunks of many connections -/

theorem streamOf_cons (fd : Nat) (c : Chunk) (cs : List Chunk) :
    streamOf fd (c :: cs) = if c.fd = fd then c.bytes ++ streamOf fd cs else streamOf fd cs := by
  unfold streamOf
  by_cases h : c.fd = fd <;> simp [h]

theorem outsOf_append (fd : Nat) (os os' : List Out) : outsOf fd (os ++ os') = outsOf fd os ++ outsOf fd os' :=
  List.filter_append ..

/-- All outputs are for the connection. -/
theorem outsOf_of_forall {fd : Nat} {os : List Out} (h : ∀ o ∈ os, o.fd = fd) : outsOf fd os = os :=
  List.filter_eq_self.2 fun o ho => decide_eq_true (h o ho)

/-- No output is for the connection. -/
theorem outsOf_of_ne {fd fd' : Nat} {os : List Out} (h : ∀ o ∈ os, o.fd = fd') (hne : fd' ≠ fd) : outsOf fd os = [] :=
  List.filter_eq_nil_iff.2 fun o ho => by simp [h o ho, hne]

/-- A run keeps the ring's shape and leaves no packet in it. -/
theorem run_serves {L L' : Option Queue} {cs : List Chunk} {outs : List Out} (hg : Good L) (h0 : packets L = [])
    (h : run L cs = .ok (L', outs)) : Good L' ∧ packets L' = [] := by
  induction cs generalizing L outs with
  | nil =>
    cases h
    exact ⟨hg, h0⟩
  | cons c cs ih =>
    unfold run at h
    cases hf : feed L c with
    | error e => simp [hf, Except.bind] at h
    | ok x =>
      obtain ⟨L₁, os⟩ := x
      obtain ⟨hg₁, h0₁, -, -⟩ := feed_serves hg h0 hf
      simp only [hf, Except.bind] at h
      cases hr : run L₁ cs with
      | error e => simp [hr, Except.map] at h
      | ok y =>
        simp only [hr, Except.map, Except.ok.injEq, Prod.mk.injEq] at h
        obtain ⟨rfl, -⟩ := h
        exact ih hg₁ h0₁ hr

/-- The run from any position in the streams. `n` counts the bytes of each connection so far. -/
theorem run_stream (G : Nat → Prop) (frames : Nat → List Frame) (cs : List Chunk) (L : Option Queue) (n : Nat → Nat)
    (hg : Good L) (h0 : packets L = []) (hat : ∀ fd, G fd → At fd (frames fd) (n fd) (pending L fd))
    (hchunk : ∀ c ∈ cs, G c.fd → c.bytes ≠ [] ∧ c.handeshake = false)
    (hstream : ∀ fd, G fd → streamOf fd cs <+: (bytesOf (frames fd)).drop (n fd)) :
    ∃ pre post L' outs, cs = pre ++ post ∧ run L pre = .ok (L', outs) ∧
      (∀ fd, G fd → At fd (frames fd) (n fd + (streamOf fd pre).length) (pending L' fd) ∧
        ∃ new, outsOf fd outs = new.map (Frame.out fd) ∧
          completeFrames (frames fd) (n fd + (streamOf fd pre).length) = completeFrames (frames fd) (n fd) ++ new) ∧
      (post = [] ∨ ∃ c rest e, post = c :: rest ∧ ¬G c.fd ∧ feed L' c = .error e) := by
  induction cs generalizing L n with
  | nil => exact ⟨[], [], L, [], rfl, rfl, fun fd hfd => ⟨hat fd hfd, [], rfl, by simp [streamOf]⟩, Or.inl rfl⟩
  | cons c cs ih =>
    -- the chunk itself: of a connection of `G` it cannot fault and moves its position; of another it may fault
    have hstep : (∃ e, feed L c = .error e ∧ ¬G c.fd) ∨ ∃ L₁ os, feed L c = .ok (L₁, os) ∧
        (G c.fd → At c.fd (frames c.fd) (n c.fd + c.bytes.length) (pending L₁ c.fd) ∧ ∃ new, os = new.map (Frame.out c.fd) ∧
          completeFrames (frames c.fd) (n c.fd + c.bytes.length) = completeFrames (frames c.fd) (n c.fd) ++ new) := by
      by_cases hG : G c.fd
      · obtain ⟨hne, hhs⟩ := hchunk c (by simp) hG
        have hpre : c.bytes <+: (bytesOf (frames c.fd)).drop (n c.fd) := by
          have := hstream c.fd hG
          rw [streamOf_cons, if_pos rfl] at this
          exact (List.prefix_append _ _).trans this
        obtain ⟨L₁, new, hf, ha, hc⟩ := feed_stream hg h0 (hat c.fd hG) hne hpre
        rw [← hhs] at hf
        exact Or.inr ⟨L₁, _, hf, fun _ => ⟨ha, new, rfl, hc⟩⟩
      · cases hf : feed L c with
        | error e => exact Or.inl ⟨e, rfl, hG⟩
        | ok x => exact Or.inr ⟨x.1, x.2, rfl, fun h => absurd h hG⟩
    rcases hstep with ⟨e, hf, hG⟩ | ⟨L₁, os, hf, hself⟩
    · exact ⟨[], c :: cs, L, [], rfl, rfl, fun fd hfd => ⟨hat fd hfd, [], rfl, by simp [streamOf]⟩,
        Or.inr ⟨c, cs, e, rfl, hG, hf⟩⟩
    · obtain ⟨hg₁, h0₁, hother, hfd⟩ := feed_serves hg h0 hf
      have hat₁ : ∀ fd, G fd →
          At fd (frames fd) ((if c.fd = fd then c.bytes.length else 0) + n fd) (pending L₁ fd) := by
        intro fd hG
        by_cases hc : c.fd = fd
        · subst hc
          rw [if_pos rfl, Nat.add_comm]
          exact (hself hG).1
        · rw [if_neg hc, Nat.zero_add, hother fd (Ne.symm hc)]
          exact hat fd hG
      have hstream₁ : ∀ fd, G fd →
          streamOf fd cs <+: (bytesOf (frames fd)).drop ((if c.fd = fd then c.bytes.length else 0) + n fd) := by
        intro fd hG
        have := hstream fd hG
        rw [streamOf_cons] at this
        by_cases hc : c.fd = fd
        · rw [if_pos hc] at this ⊢
          obtain ⟨t, ht⟩ := this
          rw [Nat.add_comm, ← List.drop_drop, ← ht, List.append_assoc, List.drop_left]
          exact List.prefix_append _ _
        · rw [if_neg hc] at this
          rwa [if_neg hc, Nat.zero_add]
      obtain ⟨pre, post, L', outs, hcs, hrun, hall, hpost⟩ :=
        ih L₁ (fun fd => (if c.fd = fd then c.bytes.length else 0) + n fd) hg₁ h0₁ hat₁
          (fun d hd => hchunk d (List.mem_cons_of_mem _ hd)) hstream₁
      refine ⟨c :: pre, post, L', os ++ outs, by rw [hcs]; rfl, ?_, ?_, hpost⟩
      · simp only [run, hf, Except.bind, hrun, Except.map]
      · intro fd hG
        obtain ⟨ha, new, ho, hc⟩ := hall fd hG
        rw [streamOf_cons, outsOf_append, ho]
        by_cases hcf : c.fd = fd
        · subst hcf
          obtain ⟨-, new₀, hos, hc₀⟩ := hself hG
          have he : n c.fd + (c.bytes ++ streamOf c.fd pre).length = c.bytes.length + n c.fd +
            (streamOf c.fd pre).length := by
            rw [List.length_append]
            omega
          simp only [if_true] at ha hc ⊢
          rw [he]
          refine ⟨ha, new₀ ++ new, ?_, ?_⟩
          · rw [outsOf_of_forall hfd, hos, List.map_append]
          · rw [hc, Nat.add_comm c.bytes.length, hc₀, List.append_assoc]
        · simp only [if_neg hcf, Nat.zero_add] at ha hc ⊢
          rw [outsOf_of_ne hfd hcf]
          exact ⟨ha, new, rfl, hc⟩

end SasyServer.Websocket
