import SasyServer.Lib.LengthFraming
import SasyServer.Netpack.Filter

/-!
# What the table and the queue of a gate hold

The table holds, for every connection, what a splitter of its own has read of the current frame, and the queue is a list of
packets (`Holds`). A chunk goes through the splitter of its connection and leaves the others alone (`Holds.filterData`).
-/

namespace SasyServer.Netpack

open LengthFraming (Splitter)
open Pbcc (readSize)

/-- What a splitter has read when the table holds this entry. -/
def partOf : Option Uncomplete → LengthFraming.Part UInt8
  | none => .header []
  | some uc => if uc.read < 0 then .header [uc.header] else .body uc.pack.size uc.pack.buffer

/-- An entry with one byte of a header, or with a part of a packet. -/
def Uncomplete.Valid (uc : Uncomplete) : Prop :=
  uc.read = -1 ∨ uc.read = uc.pack.buffer.length ∧ uc.pack.buffer.length < uc.pack.size

/-- The entry the table holds for a connection. -/
def entry (L : Option Queue) (fd : Nat) : Option Uncomplete := ChainTable.get Uncomplete.fd hashFd (getQueue L).hash fd

/-- The table holds these parts of frames, and the queue these packets. -/
structure Holds (L : Option Queue) (part : Nat → LengthFraming.Part UInt8) (queue : List NetPack) : Prop where
  ring : (getQueue L).toRingBuffer.WF
  table : ChainTable.WF Uncomplete.fd hashFd (getQueue L).hash
  valid : ∀ fd uc, entry L fd = some uc → uc.Valid
  part : ∀ fd, part fd = partOf (entry L fd)
  queue : (getQueue L).toRingBuffer.toList = queue

theorem partOf_eq_nil {e : Option Uncomplete} : partOf e = .header [] ↔ e = none := by
  cases e with
  | none => exact iff_of_true rfl rfl
  | some uc =>
    unfold partOf
    dsimp only
    split <;> simp

theorem holds_none : Holds none (fun _ => .header []) [] := by
  refine ⟨⟨by decide, by decide⟩, ChainTable.wf_empty, ?_, fun _ => rfl, rfl⟩
  intro fd uc h
  cases h

section Operations

variable {L : Option Queue} {part : Nat → LengthFraming.Part UInt8} {queue : List NetPack} {fd : Nat}

theorem Holds.entry_eq_none (h : Holds L part queue) (hpart : part fd = .header []) : entry L fd = none := by
  rw [h.part fd] at hpart
  exact partOf_eq_nil.1 hpart

/-- A complete packet comes to the end of the queue. -/
theorem Holds.push (h : Holds L part queue) (fd : Nat) (buffer : List UInt8) (size : Nat) :
    Holds (some (pushData L fd buffer size)) part (queue ++ [⟨fd, size, buffer⟩]) where
  ring := h.ring.push (by decide) _
  table := h.table
  valid := h.valid
  part := h.part
  queue := by
    rw [← h.queue]
    exact RingBuffer.toList_push h.ring (by decide) _

/-- An unfinished packet is saved for a connection that had none. -/
theorem Holds.save (h : Holds L part queue) {uc : Uncomplete} (huc : uc.Valid) (hpart : part uc.fd = .header []) :
    Holds (some (saveUncomplete L uc)) (Function.update part uc.fd (partOf (some uc))) queue := by
  have hget : ∀ fd, entry (some (saveUncomplete L uc)) fd = Function.update (entry L) uc.fd (some uc) fd := fun fd =>
    congrFun (ChainTable.get_save (getQueue L).hash uc) fd
  refine ⟨h.ring, h.table.save (h.entry_eq_none hpart), ?_, ?_, h.queue⟩
  · intro fd v hv
    rw [hget] at hv
    by_cases hfd : fd = uc.fd
    · rw [hfd, Function.update_self, Option.some.injEq] at hv
      exact hv ▸ huc
    · rw [Function.update_of_ne hfd] at hv
      exact h.valid fd v hv
  · intro fd
    rw [hget]
    by_cases hfd : fd = uc.fd
    · rw [hfd, Function.update_self, Function.update_self]
    · rw [Function.update_of_ne hfd, Function.update_of_ne hfd]
      exact h.part fd

/-- A connection without an entry is at the start of a header. -/
theorem Holds.find_none (h : Holds L part queue) (hfind : findUncomplete L fd = none) : part fd = .header [] := by
  rw [h.part fd, partOf_eq_nil]
  cases L with
  | none => rfl
  | some q =>
    simp only [findUncomplete, Option.bind_some, Option.map_eq_none_iff, ChainTable.find_eq_none] at hfind
    exact hfind

/-- The entry that is taken out is what its connection has read. -/
theorem Holds.find_some (h : Holds L part queue) {uc : Uncomplete} {q : Queue} (hfind : findUncomplete L fd = some (uc, q)) :
    uc.fd = fd ∧ uc.Valid ∧ part fd = partOf (some uc) ∧ Holds (some q) (Function.update part fd (.header [])) queue := by
  cases L with
  | none => cases hfind
  | some q₀ =>
    simp only [findUncomplete, Option.bind_some, Option.map_eq_some_iff] at hfind
    obtain ⟨⟨v, t⟩, hv, hq⟩ := hfind
    simp only [Prod.mk.injEq] at hq
    obtain ⟨rfl, rfl⟩ := hq
    obtain ⟨hkey, hget, htable, hrest⟩ := ChainTable.find_eq_some h.table hv
    have hentry : ∀ fd', entry (some { q₀ with hash := t }) fd' = Function.update (entry (some q₀)) fd none fd' :=
      congrFun hrest
    refine ⟨hkey, h.valid fd v hget, ?_, h.ring, htable, ?_, ?_, h.queue⟩
    · rw [h.part fd]
      exact congrArg partOf hget
    · intro fd' u hu
      rw [hentry] at hu
      by_cases hfd : fd' = fd
      · rw [hfd, Function.update_self] at hu
        cases hu
      · rw [Function.update_of_ne hfd] at hu
        exact h.valid fd' u hu
    · intro fd'
      rw [hentry]
      by_cases hfd : fd' = fd
      · rw [hfd, Function.update_self, Function.update_self]
        rfl
      · rw [Function.update_of_ne hfd, Function.update_of_ne hfd]
        exact h.part fd'

/-- A connection that is closed has no unfinished packet. -/
theorem Holds.close (h : Holds L part queue) (fd : Nat) :
    Holds (closeUncomplete L fd) (Function.update part fd (.header [])) queue := by
  unfold closeUncomplete
  split
  · rename_i uc q hfind
    exact (h.find_some hfind).2.2.2
  · rename_i hfind
    have hpart := h.find_none hfind
    rw [← hpart, Function.update_eq_self]
    exact h

/-- A pop takes the oldest packet. -/
theorem Holds.pop {np : NetPack} (h : Holds L part (np :: queue)) : ∃ L', lpop L = some (np, L') ∧ Holds L' part queue := by
  cases L with
  | none =>
    exact absurd h.queue (by rw [show (getQueue none).toRingBuffer.toList = [] from rfl]; exact (List.cons_ne_nil _ _).symm)
  | some q =>
    have hlist : q.toRingBuffer.toList = np :: queue := h.queue
    have hring : q.toRingBuffer.WF := h.ring
    cases hpop : q.toRingBuffer.pop with
    | none =>
      rw [(RingBuffer.pop_eq_none hring).1 hpop] at hlist
      cases hlist
    | some p =>
      obtain ⟨hwf, hcons⟩ := RingBuffer.pop_eq_some hring (show _ = some (p.1, p.2) from hpop)
      rw [hlist, List.cons.injEq] at hcons
      refine ⟨some { p.2 with hash := q.hash }, ?_, hwf, h.table, h.valid, h.part, hcons.2.symm⟩
      rw [lpop, Option.bind_some, hpop, hcons.1]
      rfl

theorem Holds.pop_nil (h : Holds L part []) : lpop L = none := by
  cases L with
  | none => rfl
  | some q =>
    have hring : q.toRingBuffer.WF := h.ring
    rw [lpop, Option.bind_some, (RingBuffer.pop_eq_none hring).2 h.queue]
    rfl

end Operations

/-! ## A chunk -/

/-- The splitter of one connection, on a chunk: the frames that become complete and the part of the next one. -/
def split (p : LengthFraming.Part UInt8) (chunk : List UInt8) : Splitter UInt8 := Splitter.feed 2 readSize ⟨[], p⟩ chunk

/-- A frame as a packet of the connection. -/
def packOf (fd : Nat) (frame : List UInt8) : NetPack := ⟨fd, frame.length, frame⟩

/-- A chunk in two pieces. -/
theorem split_append (p : LengthFraming.Part UInt8) (a b : List UInt8) :
    split p (a ++ b) = ⟨(split p a).frames ++ (split (split p a).part b).frames, (split (split p a).part b).part⟩ := by
  have h : Splitter.feed 2 readSize ⟨(split p a).frames ++ [], (split p a).part⟩ b =
      ⟨(split p a).frames ++ (split (split p a).part b).frames, (split (split p a).part b).part⟩ :=
    LengthFraming.feed_frames_append (split p a).frames ⟨[], (split p a).part⟩ b
  rw [List.append_nil] at h
  rw [split, LengthFraming.feed_append]
  exact h

/-- A frame of the size, of which `buffer` is there, and what follows it. -/
def complete (size : Nat) (buffer chunk : List UInt8) : Splitter UInt8 :=
  if buffer.length + chunk.length < size then ⟨[], .body size (buffer ++ chunk)⟩
  else
    let rest := split (.header []) (chunk.drop (size - buffer.length))
    ⟨(buffer ++ chunk.take (size - buffer.length)) :: rest.frames, rest.part⟩

/-- The rest of a frame. -/
theorem split_body {size : Nat} {buffer : List UInt8} (chunk : List UInt8) (hlt : buffer.length < size) :
    split (.body size buffer) chunk = complete size buffer chunk := by
  unfold complete
  split
  · rename_i hchunk
    exact LengthFraming.feed_body_part [] size buffer chunk hchunk
  · rename_i hchunk
    have htake : buffer.length + (chunk.take (size - buffer.length)).length = size := by
      rw [List.length_take]
      omega
    have hne : chunk.take (size - buffer.length) ≠ [] := by
      intro hnil
      rw [hnil, List.length_nil] at htake
      omega
    have hbody : split (.body size buffer) (chunk.take (size - buffer.length)) =
        ⟨[buffer ++ chunk.take (size - buffer.length)], .header []⟩ :=
      LengthFraming.feed_body [] size buffer _ hne htake
    conv_lhs => rw [← List.take_append_drop (size - buffer.length) chunk, split_append, hbody]
    rfl

/-- A header that is complete, with what follows it. -/
theorem split_header (header chunk : List UInt8) (hlength : header.length = 2) :
    split (.header []) (header ++ chunk) = complete (readSize header) [] chunk := by
  have hne : header ≠ [] := by
    rintro rfl
    cases hlength
  have hstart : split (.header []) header = Splitter.start ⟨[], .header []⟩ (readSize header) :=
    LengthFraming.feed_header [] [] header hne (by rw [hlength]; rfl)
  rw [split_append, hstart, Splitter.start]
  by_cases hzero : readSize header = 0
  · rw [if_pos hzero, complete, if_neg (by omega), hzero]
    rfl
  · rw [if_neg hzero]
    exact split_body chunk (Nat.pos_of_ne_zero hzero)

section Chunks

variable {L : Option Queue} {part : Nat → LengthFraming.Part UInt8} {queue : List NetPack} {fd : Nat}

/-- The entry of a part of a packet. -/
theorem Holds.saveBody (h : Holds L part queue) (hpart : part fd = .header []) {size : Nat} {buffer : List UInt8}
    (hlt : buffer.length < size) (header : UInt8) :
    Holds (some (saveUncomplete L ⟨⟨fd, size, buffer⟩, buffer.length, header⟩))
      (Function.update part fd (.body size buffer)) queue := by
  have hsave := @Holds.save _ _ _ h ⟨⟨fd, size, buffer⟩, buffer.length, header⟩ (Or.inr ⟨rfl, hlt⟩) hpart
  simp only [partOf, Int.not_lt.2 (Int.natCast_nonneg buffer.length), if_false] at hsave
  exact hsave

/-- The entry of one byte of a header. -/
theorem Holds.saveByte (h : Holds L part queue) (hpart : part fd = .header []) (b : UInt8) :
    Holds (some (saveUncomplete L ⟨⟨fd, 0, []⟩, -1, b⟩)) (Function.update part fd (.header [b])) queue :=
  @Holds.save _ _ _ h ⟨⟨fd, 0, []⟩, -1, b⟩ (Or.inl rfl) hpart

/-- A frame into the queue. -/
theorem Holds.pushFrame (h : Holds L part queue) (fd : Nat) (frame : List UInt8) (size : Nat) (hsize : frame.length = size) :
    Holds (some (pushData L fd frame size)) part (queue ++ [packOf fd frame]) := by
  rw [packOf, hsize]
  exact h.push fd frame size

/-- `push_more` puts every frame into the queue. -/
theorem Holds.pushMore (buffer : List UInt8) :
    ∀ {L : Option Queue} {queue : List NetPack}, Holds L part queue → part fd = .header [] →
    buffer ≠ [] → ∃ L', pushMore L fd buffer = some L' ∧
      Holds L' (Function.update part fd (split (.header []) buffer).part)
        (queue ++ (split (.header []) buffer).frames.map (packOf fd)) := by
  induction hn : buffer.length using Nat.strong_induction_on generalizing buffer with
  | _ n ih =>
    subst hn
    intro L queue h hpart hne
    match buffer with
    | [b] =>
      refine ⟨_, by rw [Netpack.pushMore], ?_⟩
      rw [show split (.header []) [b] = ⟨[], .header [b]⟩ from rfl, List.map_nil, List.append_nil]
      exact h.saveByte hpart b
    | b0 :: b1 :: rest =>
      have hsplit : split (.header []) (b0 :: b1 :: rest) = complete (readSize [b0, b1]) [] rest :=
        split_header [b0, b1] rest rfl
      rw [Netpack.pushMore, show readSize (b0 :: b1 :: rest) = readSize [b0, b1] from rfl, hsplit, complete]
      simp only [List.length_nil, Nat.zero_add, Nat.sub_zero, List.nil_append]
      by_cases hlt : rest.length < readSize [b0, b1]
      · rw [if_pos hlt, if_pos hlt, List.map_nil, List.append_nil]
        exact ⟨_, rfl, h.saveBody hpart hlt 0⟩
      · rw [if_neg hlt, if_neg hlt]
        have hpush := h.pushFrame fd (rest.take (readSize [b0, b1])) (readSize [b0, b1])
          (by rw [List.length_take, Nat.min_eq_left (Nat.le_of_not_lt hlt)])
        by_cases hrest : 0 < (rest.drop (readSize [b0, b1])).length
        · rw [if_pos hrest]
          obtain ⟨L', hL', hholds⟩ := ih (rest.drop (readSize [b0, b1])).length
            (by rw [List.length_drop, List.length_cons, List.length_cons]; omega) _ rfl hpush hpart
              (List.ne_nil_of_length_pos hrest)
          refine ⟨L', hL', ?_⟩
          rwa [List.append_assoc] at hholds
        · rw [if_neg hrest, List.eq_nil_of_length_eq_zero (Nat.eq_zero_of_not_pos hrest)]
          refine ⟨_, rfl, ?_⟩
          rw [show split (.header []) [] = ⟨[], .header []⟩ from rfl, ← hpart, Function.update_eq_self]
          exact hpush

/-- What a chunk gives the gate server: the frames that have become complete, at once or through the queue. -/
inductive Gives (fd : Nat) (queue : List NetPack) : List (List UInt8) → Result → List NetPack → Prop where
  | none : Gives fd queue [] .none queue
  | data (frame : List UInt8) : Gives fd queue [frame] (.data fd frame frame.length) queue
  | more (frames : List (List UInt8)) : Gives fd queue frames .more (queue ++ frames.map (packOf fd))

/-- The rest of a packet whose size is known. -/
theorem Holds.fillPack {q : Queue} (h : Holds (some q) part queue) (hpart : part fd = .header []) {uc : Uncomplete}
    (hfd : uc.fd = fd) (hread : uc.read = uc.pack.buffer.length) (hle : uc.pack.buffer.length ≤ uc.pack.size)
    (chunk : List UInt8) :
    ∃ L' r queue', fillPack q fd uc chunk = some (L', r) ∧
      Holds L' (Function.update part fd (complete uc.pack.size uc.pack.buffer chunk).part) queue' ∧
      Gives fd queue (complete uc.pack.size uc.pack.buffer chunk).frames r queue' := by
  obtain ⟨⟨id, size, buffer⟩, read, header⟩ := uc
  obtain rfl : id = fd := hfd
  dsimp only at hread hle ⊢
  subst hread
  have hneed : ((size : Int) - (buffer.length : Int)).toNat = size - buffer.length := by omega
  unfold Netpack.fillPack complete
  dsimp only
  by_cases hlt : buffer.length + chunk.length < size
  · rw [if_pos (by omega), if_pos hlt]
    refine ⟨_, _, _, rfl, ?_, .none⟩
    have hsave := h.saveBody hpart (show (buffer ++ chunk).length < size by rw [List.length_append]; exact hlt) header
    rw [List.length_append, Nat.cast_add] at hsave
    exact hsave
  · rw [if_neg (by omega), if_neg hlt, hneed]
    have hframe : (buffer ++ chunk.take (size - buffer.length)).length = size := by
      rw [List.length_append, List.length_take]
      omega
    by_cases hrest : (chunk.drop (size - buffer.length)).length = 0
    · rw [if_pos hrest, List.eq_nil_of_length_eq_zero hrest]
      refine ⟨_, _, queue, rfl, ?_, ?_⟩
      · rw [show split (.header []) [] = ⟨[], .header []⟩ from rfl, ← hpart, Function.update_eq_self]
        exact h
      · have hdata := @Gives.data id queue (buffer ++ chunk.take (size - buffer.length))
        rw [hframe] at hdata
        exact hdata
    · rw [if_neg hrest]
      have hpush := h.pushFrame id _ size hframe
      obtain ⟨L', hL', hholds⟩ := hpush.pushMore (chunk.drop (size - buffer.length)) hpart
        (List.ne_nil_of_length_pos (Nat.pos_of_ne_zero hrest))
      rw [List.append_assoc] at hholds
      exact ⟨L', .more, _, by rw [hL']; rfl, hholds, .more _⟩

/-- A chunk of a connection without an entry. -/
theorem Holds.filterFresh (h : Holds L part queue) (hpart : part fd = .header []) {chunk : List UInt8}
    (hchunk : chunk ≠ []) :
    ∃ L' r queue', filterFresh L fd chunk = some (L', r) ∧ Holds L'
      (Function.update part fd (split (part fd) chunk).part) queue' ∧
      Gives fd queue (split (part fd) chunk).frames r queue' := by
  rw [hpart]
  match chunk with
  | [b] =>
    refine ⟨_, _, _, by rw [Netpack.filterFresh], ?_, .none⟩
    exact h.saveByte hpart b
  | b0 :: b1 :: rest =>
    have hsplit : split (.header []) (b0 :: b1 :: rest) = complete (readSize [b0, b1]) [] rest :=
      split_header [b0, b1] rest rfl
    rw [Netpack.filterFresh, show readSize (b0 :: b1 :: rest) = readSize [b0, b1] from rfl, hsplit, complete]
    simp only [List.length_nil, Nat.zero_add, Nat.sub_zero, List.nil_append]
    by_cases hlt : rest.length < readSize [b0, b1]
    · rw [if_pos hlt, if_pos hlt]
      exact ⟨_, _, _, rfl, h.saveBody hpart hlt 0, .none⟩
    · rw [if_neg hlt, if_neg hlt]
      by_cases heq : rest.length = readSize [b0, b1]
      · rw [if_pos heq, ← heq, List.drop_length, List.take_length]
        refine ⟨_, _, _, rfl, ?_, .data rest⟩
        rw [show split (.header []) [] = ⟨[], .header []⟩ from rfl, ← hpart, Function.update_eq_self]
        exact h
      · rw [if_neg heq]
        have hpush := h.pushFrame fd (rest.take (readSize [b0, b1])) (readSize [b0, b1])
          (by rw [List.length_take, Nat.min_eq_left (Nat.le_of_not_lt hlt)])
        obtain ⟨L', hL', hholds⟩ := hpush.pushMore (rest.drop (readSize [b0, b1])) hpart
          (List.ne_nil_of_length_pos (by rw [List.length_drop]; omega))
        rw [List.append_assoc] at hholds
        exact ⟨L', .more, _, by rw [hL']; rfl, hholds, .more _⟩

/-- A chunk goes through the splitter of its connection, and the others are left alone. -/
theorem Holds.filterData (h : Holds L part queue) (fd : Nat) {chunk : List UInt8} (hchunk : chunk ≠ []) :
    ∃ L' r queue', filterData L fd chunk = some (L', r) ∧ Holds L'
      (Function.update part fd (split (part fd) chunk).part) queue' ∧
      Gives fd queue (split (part fd) chunk).frames r queue' := by
  unfold Netpack.filterData
  cases hfind : findUncomplete L fd with
  | none => exact h.filterFresh (h.find_none hfind) hchunk
  | some p =>
    obtain ⟨uc, q⟩ := p
    obtain ⟨hfd, hvalid, hpart, hq⟩ := h.find_some hfind
    have hself : Function.update part fd (.header []) fd = .header [] := Function.update_self ..
    dsimp only
    unfold Netpack.filterUncomplete
    rcases hvalid with hread | ⟨hread, hlt⟩
    · -- the first byte of a header was there
      match chunk with
      | b :: chunk =>
        have hsplit : split (part fd) (b :: chunk) = complete (readSize [uc.header, b]) [] chunk := by
          rw [hpart, partOf, if_pos (by rw [hread]; decide)]
          exact split_header [uc.header, b] chunk rfl
        obtain ⟨L', r, queue', hfill, hholds, hgives⟩ := hq.fillPack hself
          (show ({ uc with pack := ⟨uc.pack.id, readSize [uc.header, b], []⟩, read := 0 } : Uncomplete).fd = fd from hfd) rfl
            (Nat.zero_le _)
          chunk
        rw [Function.update_idem] at hholds
        rw [if_pos (by rw [hread]; decide), hsplit]
        exact ⟨L', r, queue', hfill, hholds, hgives⟩
    · have hneg : ¬uc.read < 0 := by
        rw [hread]
        exact Int.not_lt.2 (Int.natCast_nonneg _)
      have hsplit : split (part fd) chunk = complete uc.pack.size uc.pack.buffer chunk := by
        rw [hpart, partOf, if_neg hneg]
        exact split_body chunk hlt
      obtain ⟨L', r, queue', hfill, hholds, hgives⟩ := hq.fillPack hself hfd hread (Nat.le_of_lt hlt) chunk
      rw [Function.update_idem] at hholds
      rw [if_neg hneg, hsplit]
      exact ⟨L', r, queue', hfill, hholds, hgives⟩

end Chunks

end SasyServer.Netpack
