import SasyServer.Lemmas.PacketTable
import SasyServer.Lib.Steps

/-!
# Theorem: when the bytes of a header fit into its buffer

A header past the handshake has at most fourteen bytes, and yet it may grow without end: a close frame whose first byte
came alone is not looked at again before the chunk ends, and a length that becomes negative as an `int` is read as a
sentinel. In the handshake the test of the length comes after the write. The condition names these cases; without them no
byte is written behind the buffer.
-/

namespace SasyServer.Websocket

/-! ## The condition -/

/-- A close frame, or a frame whose length is read as a negative number: a header that is collected goes on growing. -/
def endless (buffer : List UInt8) : Bool :=
  match answer buffer with
  | .close => true
  | .frame declared _ => toInt32 declared < 0
  | _ => false

/-- Where a length is read as -1, the bytes that are left fit into a header. -/
def frameRoom (buffer : List UInt8) : Prop := ∀ p ∈ readPlaces buffer, readsIncomplete p → p.length ≤ headerSize

/-- The condition with a header that is not complete. In the handshake it ends within the buffer, or there are
no more bytes than fit. -/
def headerRoom (hs : Bool) (header buffer : List UInt8) : Prop :=
  buffer = [] ∨ header.length < headerSize ∧
    if hs then header.length + fillStop hs header buffer ≤ headerSize
    else
      let p := nextPack (header ++ buffer.take (fillStop hs header buffer)) false
      (endless p.2.2 → p.2.2.length ≤ headerSize) ∧
        (0 ≤ p.1 → frameRoom ((buffer.drop (fillStop hs header buffer)).drop p.1.toNat))

/-- The condition on a chunk, by the unfinished packet of its connection. -/
def hasRoom (hs : Bool) (entry : Option Uncomplete) (buffer : List UInt8) : Prop :=
  match entry with
  | none => hs = false → frameRoom buffer
  | some uc =>
    if uc.read < 0 then headerRoom hs uc.header buffer else hs = false →
      frameRoom (buffer.drop (uc.pack.size - uc.read).toNat)

/-! ## `pushMore` -/

/-- The condition at the first header, and after its packet. -/
theorem frameRoom_iff (buffer : List UInt8) :
    frameRoom buffer ↔
      (readsIncomplete (nextPack buffer false).2.2 → (nextPack buffer false).2.2.length ≤ headerSize) ∧
        (0 ≤ (nextPack buffer false).1 → 0 < (afterPack buffer).length → frameRoom (afterPack buffer)) := by
  unfold frameRoom
  rw [readPlaces]
  constructor
  · intro h
    refine ⟨h _ (List.mem_append_left _ (mem_skipPlaces buffer)), fun hpack hafter p hp => h p ?_⟩
    rw [dif_pos ⟨hpack, hafter⟩]
    exact List.mem_append_right _ hp
  · rintro ⟨hfirst, hafter⟩ p hp hread
    rcases List.mem_append.1 hp with hp | hp
    · have hplace := eq_of_mem_skipPlaces hp (by rw [readSize_of_readsIncomplete hread]; decide)
      rw [hplace] at hread ⊢
      exact hfirst hread
    · split at hp
      · rename_i hmore
        exact hafter hmore.1 hmore.2 p hp hread
      · cases hp

theorem frameRoom_nil : frameRoom [] := by
  rw [frameRoom_iff]
  exact ⟨fun _ => by decide, fun h => absurd h (by decide)⟩

/-- A header that is read as not complete, and its length. -/
theorem length_le_iff_of_readSize {p : List UInt8} (h : (readSize p).1 = -1) :
    p.length ≤ headerSize ↔ (readsIncomplete p → p.length ≤ headerSize) := by
  refine ⟨fun hle _ => hle, fun himp => ?_⟩
  unfold readsIncomplete at himp
  rw [readSize_eq_encode] at h
  cases hans : answer p with
  | incomplete => exact Nat.le_trans (Nat.le_of_lt (length_lt_of_incomplete hans)) (by decide)
  | discard | close =>
    rw [hans] at h
    exact absurd h (by decide)
  | frame declared head =>
    rw [hans, Answer.encode] at h
    rw [hans] at himp
    simp only at h himp
    exact himp (decide_eq_true h)

/-- Storing a header past the handshake. -/
theorem saveHeader_false_iff (L : Option Queue) (fd : Nat) {p : List UInt8} (h : (readSize p).1 = -1) :
    saveHeader L fd p false ≠ .error .headerOverflow ↔ (readsIncomplete p → p.length ≤ headerSize) := by
  rw [← length_le_iff_of_readSize h]
  unfold saveHeader
  simp only [Bool.false_eq_true, false_and, if_false]
  split_ifs with hlong
  · exact iff_of_false (by simp) (Nat.not_le.2 hlong)
  · exact iff_of_true (by simp) (Nat.le_of_not_lt hlong)

/-- The header that is kept, where it is not complete. -/
theorem saveHeader_iff_frameRoom (L : Option Queue) (fd : Nat) {buffer : List UInt8} (h : (nextPack buffer false).1 = -1) :
    saveHeader L fd (nextPack buffer false).2.2 false ≠ .error .headerOverflow ↔ frameRoom buffer := by
  have hread := (nextPack_read buffer).1
  rw [h] at hread
  rw [saveHeader_false_iff L fd (clampSize_eq_neg_one.1 hread.symm), frameRoom_iff, and_iff_left]
  intro hpack
  rw [h] at hpack
  exact absurd hpack (by decide)

/-- The condition after a header that is complete. -/
theorem frameRoom_iff_of_ne {buffer : List UInt8} (h : (nextPack buffer false).1 ≠ -1) :
    frameRoom buffer ↔ (0 ≤ (nextPack buffer false).1 → 0 < (afterPack buffer).length → frameRoom (afterPack buffer)) := by
  rw [frameRoom_iff, and_iff_right]
  intro hread
  refine absurd ?_ h
  rw [(nextPack_read buffer).1, readSize_of_readsIncomplete hread]
  rfl

/-- In the handshake a header is cut. -/
theorem saveHeader_true (L : Option Queue) (fd : Nat) (buffer : List UInt8) :
    saveHeader L fd buffer true ≠ .error .headerOverflow := by
  unfold saveHeader
  simp only [true_and]
  split_ifs <;> simp

theorem map_ne_overflow {α β : Type} (f : α → β) (x : Except Fault α) :
    x.map f ≠ .error .headerOverflow ↔ x ≠ .error .headerOverflow := by
  cases x with
  | ok a => exact iff_of_true (by simp [Except.map]) (by simp)
  | error fault => simp [Except.map]

/-- `pushMore` never overflows a header in the handshake. -/
theorem pushMore_true (fd : Nat) (buffer : List UInt8) : ∀ L, pushMore L fd buffer true ≠ .error .headerOverflow := by
  induction hn : buffer.length using Nat.strong_induction_on generalizing buffer with
  | _ n ih =>
    subst hn
    intro L
    unfold pushMore
    simp only
    split_ifs with h1 h2 hneg hrest
    · exact saveHeader_true L fd _
    · simp
    · simp
    · exact ih _ (nextPack_lt (Int.not_lt.mp hneg)) _ rfl _
    · simp

/-- Past the handshake it overflows one exactly where the condition is not met. -/
theorem pushMore_false_iff (fd : Nat) (buffer : List UInt8) :
    ∀ L, pushMore L fd buffer false ≠ .error .headerOverflow ↔ frameRoom buffer := by
  induction hn : buffer.length using Nat.strong_induction_on generalizing buffer with
  | _ n ih =>
    subst hn
    intro L
    unfold pushMore
    simp only
    split_ifs with h1 h2 hneg hrest
    · exact saveHeader_iff_frameRoom L fd h1
    all_goals rw [frameRoom_iff_of_ne h1]
    · -- the payload is not complete
      refine iff_of_true (by simp) fun _ hafter => ?_
      rw [length_afterPack] at hafter
      omega
    · exact iff_of_true (by simp) fun hpack => absurd hpack (Int.not_le.2 hneg)
    · rw [ih _ (nextPack_lt (Int.not_lt.mp hneg)) _ rfl]
      exact ⟨fun h _ _ => h, fun h => h (Int.not_lt.1 hneg) hrest⟩
    · exact iff_of_true (by simp) fun _ hafter => absurd hafter hrest

/-! ## `filterData` -/

/-- What follows the packet that is filled up decides. -/
theorem fillPack_iff (q : Queue) (fd : Nat) (uc : Uncomplete) (buffer : List UInt8) (hs : Bool) :
    fillPack q fd uc buffer hs ≠ .error .headerOverflow ↔
      (hs = false → frameRoom (buffer.drop (uc.pack.size - uc.read).toNat)) := by
  unfold fillPack
  simp only
  split_ifs with hshort hend
  · -- the payload is still not complete
    refine iff_of_true (by simp) fun _ => ?_
    rw [List.drop_eq_nil_iff.2 (by omega)]
    exact frameRoom_nil
  · refine iff_of_true (by simp) fun _ => ?_
    rw [List.length_eq_zero_iff.1 hend]
    exact frameRoom_nil
  · rw [map_ne_overflow]
    cases hs with
    | true => exact iff_of_true (pushMore_true fd _ _) (by simp)
    | false => simp only [pushMore_false_iff, forall_const]

/-- Without an unfinished packet the buffer decides. -/
theorem filterFresh_iff (L : Option Queue) (fd : Nat) (buffer : List UInt8) (hs : Bool) :
    filterFresh L fd buffer hs ≠ .error .headerOverflow ↔ hasRoom hs none buffer := by
  unfold filterFresh hasRoom
  simp only
  cases hs with
  | true =>
    refine iff_of_true ?_ (by simp)
    split_ifs
    · exact (map_ne_overflow _ _).2 (saveHeader_true L fd _)
    · simp
    · simp
    · simp
    · simp
    · exact (map_ne_overflow _ _).2 (pushMore_true fd _ _)
  | false =>
    rw [forall_prop_of_true rfl]
    split_ifs with h1 h3 h2 hdata hneg
    · rw [map_ne_overflow]
      exact saveHeader_iff_frameRoom L fd h1
    all_goals rw [frameRoom_iff_of_ne h1]
    · refine iff_of_true (by simp) fun hpack => ?_
      rw [h3] at hpack
      exact absurd hpack (by decide)
    · refine iff_of_true (by simp) fun _ hafter => ?_
      rw [length_afterPack] at hafter
      omega
    · refine iff_of_true (by simp) fun _ hafter => ?_
      rw [length_afterPack] at hafter
      omega
    · exact iff_of_true (by simp) fun hpack => absurd hpack (Int.not_le.2 hneg)
    · rw [map_ne_overflow, pushMore_false_iff]
      refine ⟨fun h _ _ => h, fun h => ?_⟩
      by_cases hafter : 0 < (afterPack buffer).length
      · exact h (Int.not_lt.1 hneg) hafter
      · have hnil := List.length_eq_zero_iff.1 (Nat.le_zero.1 (Nat.not_lt.1 hafter))
        unfold afterPack at hnil
        rw [hnil]
        exact frameRoom_nil

theorem fillStop_le (hs : Bool) (header buffer : List UInt8) : fillStop hs header buffer ≤ buffer.length := by
  unfold fillStop
  cases hat : completedAt hs header buffer with
  | none => exact Nat.le_refl _
  | some j => exact List.mem_range.1 (List.mem_of_find?_eq_some hat)

/-- Past the handshake a header that is completed byte by byte fits. -/
theorem length_le_of_complete {buffer : List UInt8} : ∀ {header : List UInt8}, header.length < headerSize →
    0 ≤ (nextPack (header ++ buffer.take (fillStop false header buffer)) false).1 → buffer ≠ [] →
    (nextPack (header ++ buffer.take (fillStop false header buffer)) false).2.2.length ≤ headerSize := by
  induction buffer with
  | nil => exact fun _ _ hne => absurd rfl hne
  | cons b buffer ih =>
    intro header hlt h _
    have hone : (nextPack (header ++ [b]) false).2.2.length ≤ headerSize := by
      refine Nat.le_trans (length_nextPack_le false _) ?_
      rw [List.length_append, List.length_singleton]
      omega
    rcases Int.lt_or_le (nextPack (header ++ [b]) false).1 0 with hneg | hdone
    · rw [fillStop_more hneg, List.take_succ_cons, show ∀ x : List UInt8,
        header ++ b :: x = header ++ [b] ++ x from fun x => by simp, nextPack_append] at h ⊢
      by_cases hlast : buffer = []
      · subst hlast
        simp only [List.take_nil, List.append_nil] at h
        rw [← List.append_nil (nextPack (header ++ [b]) false).2.2, ← nextPack_append, List.append_nil] at h
        exact absurd h (Int.not_le.2 hneg)
      · refine ih ?_ h hlast
        -- only a header that is not complete may become one
        by_cases hans : answer (nextPack (header ++ [b]) false).2.2 = .incomplete
        · exact Nat.lt_of_lt_of_le (length_lt_of_incomplete hans) (by decide)
        · rw [nextPack_of_answer _ hans (readSize_readFrameSize _), ← (nextPack_read _).1] at h
          exact absurd h (Int.not_le.2 hneg)
    · rw [fillStop_complete hdone]
      exact hone

/-- A header that does not become complete fits, or is one of those that grow without end. -/
theorem length_le_iff_of_neg {p : List UInt8} (h : (readSize p).1 < 0) (hskip : (readSize p).1 ≠ -2) :
    p.length ≤ headerSize ↔ (endless p → p.length ≤ headerSize) := by
  refine ⟨fun hle _ => hle, fun himp => ?_⟩
  unfold endless at himp
  rw [readSize_eq_encode] at h hskip
  cases hans : answer p with
  | incomplete => exact Nat.le_trans (Nat.le_of_lt (length_lt_of_incomplete hans)) (by decide)
  | discard =>
    rw [hans] at hskip
    exact absurd rfl hskip
  | close =>
    rw [hans] at himp
    exact himp rfl
  | frame declared head =>
    rw [hans, Answer.encode] at h
    rw [hans] at himp
    simp only at h himp
    exact himp (decide_eq_true h)

/-- What the condition says of the bytes that are moved. -/
theorem moved_iff (hs : Bool) {header buffer : List UInt8} (hne : buffer ≠ []) (hlt : header.length < headerSize) :
    (nextPack (header ++ buffer.take (fillStop hs header buffer)) hs).2.2.length ≤ headerSize ↔
      if hs then header.length + fillStop hs header buffer ≤ headerSize
      else endless (nextPack (header ++ buffer.take (fillStop hs header buffer)) false).2.2 →
        (nextPack (header ++ buffer.take (fillStop hs header buffer)) false).2.2.length ≤ headerSize := by
  cases hs with
  | true =>
    rw [nextPack_true, List.length_append, List.length_take, Nat.min_eq_left (fillStop_le true header buffer)]
    rfl
  | false =>
    simp only [Bool.false_eq_true, if_false]
    have hread := (nextPack_read (header ++ buffer.take (fillStop false header buffer))).1
    rcases Int.lt_or_le (nextPack (header ++ buffer.take (fillStop false header buffer)) false).1 0 with hneg | hdone
    · refine length_le_iff_of_neg ?_ (readSize_readFrameSize _)
      rw [hread] at hneg
      exact Int.lt_of_not_ge fun h => absurd (clampSize_nonneg_iff.2 h) (Int.not_le.2 hneg)
    · exact iff_of_true (length_le_of_complete hlt hdone hne) fun _ => length_le_of_complete hlt hdone hne

/-- With one, the bytes that are missing come first. -/
theorem filterUncomplete_iff (q : Queue) (fd : Nat) (uc : Uncomplete) (buffer : List UInt8) (hs : Bool) :
    filterUncomplete q fd uc buffer hs ≠ .error .headerOverflow ↔ hasRoom hs (some uc) buffer := by
  unfold filterUncomplete hasRoom
  simp only
  by_cases hread : uc.read < 0
  · rw [if_pos hread, if_pos hread]
    unfold headerRoom
    by_cases hne : buffer = []
    · -- without bytes the size stays zero
      subst hne
      refine iff_of_true ?_ (Or.inl rfl)
      rw [fillHeader]
      cases hs <;> simp [Except.bind, fillPack]
    rw [or_iff_right hne, fillHeader_eq hs buffer hne]
    by_cases hlt : uc.header.length < headerSize
    swap
    · rw [if_neg fun h => hlt h.1]
      exact iff_of_false (by simp [Except.bind]) fun h => hlt h.1
    have hmoved := moved_iff hs hne hlt
    by_cases hfit : (nextPack (uc.header ++ buffer.take (fillStop hs uc.header buffer)) hs).2.2.length ≤ headerSize
    swap
    · rw [if_neg fun h => hfit h.2]
      refine iff_of_false (by simp [Except.bind]) fun h => hfit (hmoved.2 ?_)
      cases hs with
      | true => exact h.2
      | false => exact h.2.1
    rw [if_pos ⟨hlt, hfit⟩, and_iff_right hlt]
    have hroom := hmoved.1 hfit
    simp only [Except.bind]
    cases hs with
    | true =>
      simp only [if_true] at hroom ⊢
      refine iff_of_true ?_ hroom
      split_ifs
      · simp
      · simp
      · simp
      · exact (fillPack_iff _ _ _ _ _).2 fun h => absurd h (by decide)
    | false =>
      simp only [Bool.false_eq_true, if_false] at hroom ⊢
      rw [and_iff_right hroom]
      split_ifs with h1 h3 hneg
      · exact iff_of_true (by simp) fun h => absurd h (by rw [h1]; decide)
      · exact iff_of_true (by simp) fun h => absurd h (by rw [h3]; decide)
      · exact iff_of_true (by simp) fun h => absurd h (Int.not_le.2 hneg)
      · rw [fillPack_iff, forall_prop_of_true rfl, Int.sub_zero]
        exact ⟨fun h _ => h, fun h => h (Int.not_lt.1 hneg)⟩
  · rw [if_neg hread, if_neg hread]
    exact fillPack_iff q fd uc buffer hs

/-- One chunk, whatever the table holds. -/
theorem filterData_iff (L : Option Queue) (fd : Nat) (buffer : List UInt8) (hs : Bool) :
    filterData L fd buffer hs ≠ .error .headerOverflow ↔ hasRoom hs ((findUncomplete L fd).map Prod.fst) buffer := by
  unfold filterData
  cases hfind : findUncomplete L fd with
  | none => exact filterFresh_iff L fd buffer hs
  | some x => exact filterUncomplete_iff x.2 fd x.1 buffer hs

/-! ## The runs -/

/-- The calls of the gate: a chunk in either mode, the end of a connection, and a pop. -/
inductive Call where
  | data (c : Chunk)
  | close (fd : Nat)
  | pop
  deriving DecidableEq, Repr

/-- One call, unless it faults. -/
def call (L : Option Queue) : Call → Option (Option Queue)
  | .data c =>
    match filterData L c.fd c.bytes c.handeshake with
    | .ok p => some p.1
    | .error _ => none
  | .close fd => some (closeUncomplete L fd)
  | .pop => some ((lpop L).elim L Prod.snd)

/-- Every header that is kept fits into its buffer. -/
def HeadersFit (L : Option Queue) : Prop := ∀ h, ∀ uc ∈ (getQueue L).hash h, uc.header.length ≤ headerSize

/-- A call leaves the entries stored. -/
theorem Stored.call {L L' : Option Queue} (h : Stored L) {c : Call} (hc : call L c = some L') : Stored L' := by
  cases c with
  | data c =>
    unfold Websocket.call at hc
    simp only at hc
    split at hc
    · rename_i p hok
      obtain rfl := Option.some.inj hc
      exact h.filterData hok
    · cases hc
  | close fd =>
    obtain rfl := Option.some.inj hc
    exact h.close fd
  | pop =>
    obtain rfl := Option.some.inj hc
    exact h.pop

/-- After any calls, for any chunk of any connection in either mode: the headers that are kept fit, and a byte is written
behind a header, or more than fit into it are, if and only if the condition is not met. -/
theorem header_in_bounds_iff (calls : List Call) (L : Option Queue) (hrun : Steps.exec call none calls = some L) (fd : Nat)
    (buffer : List UInt8) (hs : Bool) :
    HeadersFit L ∧
      (filterData L fd buffer hs ≠ .error .headerOverflow ↔ hasRoom hs ((findUncomplete L fd).map Prod.fst) buffer) := by
  have hmeets : Steps.Meets call (fun _ _ => True) none calls := Steps.meets_of_forall (fun _ _ => trivial) calls none
  have hstored := Steps.exec_invariant (I := Stored) (fun _ _ _ h _ hc => h.call hc) calls none L stored_none hmeets hrun
  exact ⟨fun h uc huc => (hstored h uc huc).2, filterData_iff L fd buffer hs⟩

/-- Zeros hold no end of a header. -/
theorem getHttpHeader_zeros (n : Nat) : getHttpHeader (List.replicate n 0) = -1 := by
  have hpos : ∀ n i, websocketStrnpos [13, 10, 13, 10] (List.replicate n 0) i = -1 := by
    intro n
    induction n with
    | zero => exact fun i => rfl
    | succ n ih =>
      intro i
      rw [List.replicate_succ, websocketStrnpos, if_neg (by simp [List.isPrefixOf]), ih]
  unfold getHttpHeader
  rw [hpos]
  rfl

/-- The entry after a request of 1025 bytes without an end. -/
def fullEntry : Uncomplete := ⟨⟨1, 0, []⟩, (List.replicate 1025 0).take headerSize, -1, Mask.zero, false, 0⟩

/-- The first chunk is saved as a header that fills its buffer. -/
theorem call_long_request :
    call none (.data ⟨1, List.replicate 1025 0, true⟩) = some (some (saveUncomplete none fullEntry)) := by
  have hsave : saveHeader none 1 (List.replicate 1025 0) true = .ok (some (saveUncomplete none fullEntry)) := by
    unfold saveHeader
    rw [List.length_replicate, if_pos ⟨rfl, by decide⟩]
    rfl
  have hfresh : filterFresh none 1 (List.replicate 1025 0) true = .ok (some (saveUncomplete none fullEntry), .none) := by
    unfold filterFresh
    simp only [nextPack_true, getHttpHeader_zeros, if_true, hsave]
    rfl
  have hdata : filterData none 1 (List.replicate 1025 0) true = .ok (some (saveUncomplete none fullEntry), .none) := hfresh
  unfold call
  simp only [hdata]

/-- The entry that was stored last is found. -/
theorem find_saveUncomplete (L : Option Queue) (uc : Uncomplete) :
    (findUncomplete (some (saveUncomplete L uc)) uc.pack.id).map Prod.fst = some uc := by
  unfold findUncomplete saveUncomplete
  rw [Option.bind_some]
  simp only [Function.update_self, unlink, if_true, Option.map_some]

theorem find_fullEntry : (findUncomplete (some (saveUncomplete none fullEntry)) 1).map Prod.fst = some fullEntry :=
  find_saveUncomplete none fullEntry

theorem header_in_bounds_iff_long_request :
    HeadersFit (some (saveUncomplete none fullEntry)) ∧
      (filterData (some (saveUncomplete none fullEntry)) 1 [0] true ≠ .error .headerOverflow ↔
        hasRoom true ((findUncomplete (some (saveUncomplete none fullEntry)) 1).map Prod.fst) [0]) :=
  header_in_bounds_iff [.data ⟨1, List.replicate 1025 0, true⟩] _
    (by rw [Steps.exec_cons, call_long_request]; rfl) 1 [0] true

/-- The byte after a request of 1025 bytes is written behind the buffer. -/
theorem long_request_overflows :
    ¬∀ (calls : List Call) (L : Option Queue), Steps.exec call none calls = some L →
      ∀ (fd : Nat) (buffer : List UInt8) (hs : Bool),
      filterData L fd buffer hs ≠ .error .headerOverflow := by
  intro h
  have hin := h [.data ⟨1, List.replicate 1025 0, true⟩] _ (by rw [Steps.exec_cons, call_long_request]; rfl) 1 [0] true
  rw [filterData_iff, find_fullEntry] at hin
  have hlen : fullEntry.header.length = headerSize := by
    unfold fullEntry
    rw [List.length_take, List.length_replicate]
    decide
  rcases (show headerRoom true fullEntry.header [0] from hin) with hnil | ⟨hlt, -⟩
  · cases hnil
  · omega

end SasyServer.Websocket
