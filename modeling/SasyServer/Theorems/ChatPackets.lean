import Mathlib.Data.List.GetD
import SasyServer.ChatSocket

/-!
# Theorem: the packets of a chat connection are read one by one, if they lie well in the nodes

`lreadall_chat` frees the nodes of a packet that is not complete, copies a node again that is shorter than the header,
and copies a node whole before it looks how long the packet is. It gives the packets of the stream if it is only called
when there is nothing to read, or when the first node has the header, the packet is complete and the nodes up to its
end fit into the local buffer.
-/

namespace SasyServer.ChatSocket

/-! ## The loop ends, or goes on for ever -/

/-- How many more turns can change something. -/
def Loop.bound (l : Loop) : Nat := l.sb.nodes.length + (headerSize - l.buffer.length)

/-- A turn that goes on has changed nothing, or has come nearer to the end. -/
theorem Loop.turn_again {l l' : Loop} (h : l.turn = .ok (l', false)) : l' = l ∨ l'.bound < l.bound := by
  unfold Loop.turn at h
  cases hn : l.sb.nodes with
  | nil => simp [hn] at h
  | cons msg rest =>
    rw [hn] at h
    dsimp only at h
    repeat' split at h
    all_goals simp only [reduceCtorEq, Except.ok.injEq, Prod.mk.injEq, Bool.true_eq_false, and_false, and_true] at h
    · subst h
      right
      simp only [Loop.bound, returnFreeNode, hn, List.tail_cons, List.length_cons, List.length_append]
      omega
    · subst h
      rename_i hshort
      rw [List.length_append] at hshort
      by_cases hrest : msg.drop l.sb.offset.toNat = []
      · left
        rw [hrest, List.append_nil]
      · right
        have hpos := List.length_pos_iff.2 hrest
        simp only [Loop.bound, List.length_append]
        omega

theorem Loop.run_stuck {l : Loop} (h : l.turn = .ok (l, false)) (n : Nat) : l.run n = .error .endless := by
  induction n with
  | zero => rfl
  | succ n ih => rw [Loop.run, h]; exact ih

/-- More turns than `bound` make no difference. -/
theorem Loop.run_eq {l : Loop} {n m : Nat} (hn : l.bound < n) (hm : l.bound < m) : l.run n = l.run m := by
  induction n generalizing l m with
  | zero => omega
  | succ n ih =>
    obtain ⟨m, rfl⟩ := Nat.exists_eq_succ_of_ne_zero (Nat.ne_of_gt (Nat.zero_lt_of_lt hm))
    rw [Loop.run, Loop.run]
    cases ht : l.turn with
    | error e => rfl
    | ok r =>
      obtain ⟨l', last⟩ := r
      cases last with
      | true => rfl
      | false =>
        obtain rfl | hlt := Loop.turn_again ht
        · exact (Loop.run_stuck ht n).trans (Loop.run_stuck ht m).symm
        · exact ih (by omega) (by omega)

/-! ## The bytes of a buffer -/

/-- The offset is in the first node. -/
def SocketBuffer.Wf (sb : SocketBuffer) : Prop := 0 ≤ sb.offset ∧ sb.offset ≤ (sb.nodes.headD []).length

/-- What has not been read of the first node. -/
def SocketBuffer.first (sb : SocketBuffer) : List UInt8 := (sb.nodes.headD []).drop sb.offset.toNat

/-- What is unread is the rest of the first node and the other nodes. -/
theorem SocketBuffer.Wf.unread_eq {sb : SocketBuffer} (h : sb.Wf) : sb.unread = sb.first ++ sb.nodes.tail.flatten := by
  obtain ⟨h0, hle⟩ := h
  unfold SocketBuffer.unread SocketBuffer.first
  cases hn : sb.nodes with
  | nil => simp
  | cons msg rest =>
    rw [hn, List.headD_cons] at hle
    rw [List.flatten_cons, List.headD_cons, List.tail_cons, List.drop_append_of_le_length (by omega)]

theorem wf_returnFreeNode (sb : SocketBuffer) : (returnFreeNode sb).Wf := ⟨Int.le_refl 0, Int.natCast_nonneg _⟩

theorem unread_returnFreeNode (sb : SocketBuffer) : (returnFreeNode sb).unread = sb.nodes.tail.flatten := rfl

/-- Some more bytes of the first node are read. -/
theorem SocketBuffer.Wf.advance {sb : SocketBuffer} (h : sb.Wf) {d : Nat} (hd : d ≤ sb.first.length) :
    SocketBuffer.Wf { sb with offset := sb.offset + d } ∧
      SocketBuffer.unread { sb with offset := sb.offset + d } = sb.unread.drop d := by
  obtain ⟨h0, hle⟩ := h
  rw [SocketBuffer.first, List.length_drop] at hd
  refine ⟨⟨Int.add_nonneg h0 (Int.natCast_nonneg d), ?_⟩, ?_⟩
  · show sb.offset + d ≤ ((sb.nodes.headD []).length : Int)
    omega
  · rw [SocketBuffer.unread, SocketBuffer.unread, List.drop_drop, Int.toNat_add h0 (Int.natCast_nonneg d), Int.toNat_natCast]

/-- What comes from the socket is put behind what is unread. -/
theorem SocketBuffer.Wf.lpushbuffer {sb sb' : SocketBuffer} (h : sb.Wf) {msg : List UInt8}
    (hs : lpushbuffer sb msg = .ok sb') :
    sb'.Wf ∧ sb'.unread = sb.unread ++ msg ∧ sb'.size = sb.size + msg.length := by
  unfold ChatSocket.lpushbuffer at hs
  split at hs
  · cases hs
    obtain ⟨h0, hle⟩ := h
    refine ⟨⟨h0, ?_⟩, ?_, rfl⟩
    · cases hn : sb.nodes with
      | nil =>
        rw [hn] at hle
        exact Int.le_trans hle (Int.natCast_nonneg _)
      | cons m rest => simpa [hn] using hle
    · have hoff : sb.offset.toNat ≤ sb.nodes.flatten.length := by
        cases hn : sb.nodes with
        | nil =>
          rw [hn] at hle
          simpa using hle
        | cons m rest =>
          rw [hn, List.headD_cons] at hle
          rw [List.flatten_cons, List.length_append]
          omega
      simp only [SocketBuffer.unread, List.flatten_append, List.flatten_singleton, List.drop_append_of_le_length hoff]
  · cases hs

/-! ## A packet -/

theorem byteAt_of_prefix {x y : List UInt8} (h : x <+: y) {i : Nat} (hi : i < x.length) : byteAt x i = byteAt y i := by
  obtain ⟨z, rfl⟩ := h
  rw [byteAt, byteAt, List.getD_append x z 0 i hi]

/-- A number of the header is the same when more bytes follow. -/
theorem readInt_of_append {x y : List UInt8} (h : x <+: y) {i : Nat}
    (hi : i + 4 ≤ x.length) : readInt x i = readInt y i := by
  have h0 : byteAt x i = byteAt y i := byteAt_of_prefix h (by omega)
  have h1 : byteAt x (i + 1) = byteAt y (i + 1) := byteAt_of_prefix h (by omega)
  have h2 : byteAt x (i + 2) = byteAt y (i + 2) := byteAt_of_prefix h (by omega)
  have h3 : byteAt x (i + 3) = byteAt y (i + 3) := byteAt_of_prefix h (by omega)
  unfold readInt
  rw [h0, h1, h2, h3]

theorem packSize_of_append {x y : List UInt8} (h : x <+: y) (hx : headerSize ≤ x.length) : packSize x = packSize y := by
  have hlen := readInt_of_append (i := 8) h (Nat.le_trans (by decide) hx)
  unfold packSize
  rw [hlen]

/-- How much is copied to get `n` bytes. -/
def copied (n : Nat) : List (List UInt8) → Nat
  | [] => 0
  | x :: xs => if n ≤ x.length then x.length else x.length + copied (n - x.length) xs

/-- What is copied of the further nodes. -/
theorem copied_next {p : Nat} {buffer first : List UInt8} {rest : List (List UInt8)} (hgo : (buffer ++ first).length < p)
    (h : buffer.length +
        (if p - buffer.length ≤ first.length then first.length
          else first.length + copied (p - buffer.length - first.length) rest) ≤ bufferSize) :
    (buffer ++ first).length + copied (p - (buffer ++ first).length) (rest.headD [] :: rest.tail) ≤ bufferSize := by
  rw [List.length_append] at hgo ⊢
  rw [if_neg (by omega), Nat.sub_sub] at h
  cases rest with
  | nil =>
    rw [copied] at h
    rw [List.headD_nil, List.tail_nil, copied, if_neg (by rw [List.length_nil]; omega), copied, List.length_nil]
    omega
  | cons x xs =>
    rw [List.headD_cons, List.tail_cons]
    omega

/-- A turn that copies a node with the rest of a header or more. -/
theorem Loop.turn_packet {p : Nat} {l : Loop} {msg : List UInt8} {rest : List (List UInt8)}
    (hnodes : l.sb.nodes = msg :: rest) (hwf : l.sb.Wf) (hfirst : headerSize ≤ (l.buffer ++ l.sb.first).length)
    (hcap : (l.buffer ++ l.sb.first).length ≤ bufferSize) (hp : packSize (l.buffer ++ l.sb.first) = p) :
    l.turn = .ok (if (l.buffer ++ l.sb.first).length < p then (⟨returnFreeNode l.sb, l.buffer ++ l.sb.first⟩, false)
      else if p = (l.buffer ++ l.sb.first).length then (⟨returnFreeNode l.sb, l.buffer ++ l.sb.first⟩, true)
      else (⟨{ l.sb with offset := l.sb.offset + (p - l.buffer.length) }, (l.buffer ++ l.sb.first).take p⟩, true)) := by
  have hmsg : msg.drop l.sb.offset.toNat = l.sb.first := by rw [SocketBuffer.first, hnodes, List.headD_cons]
  have hoff : ¬(l.sb.offset < 0 ∨ msg.length < l.sb.offset) := by
    obtain ⟨h0, hle⟩ := hwf
    rw [hnodes, List.headD_cons] at hle
    omega
  unfold Loop.turn
  simp only [hnodes, hmsg, if_neg hoff, if_neg (Nat.not_lt.2 hcap), if_pos hfirst, hp, Int.toNat_natCast]
  rcases Nat.lt_trichotomy (l.buffer ++ l.sb.first).length p with hlt | heq | hgt
  · rw [if_pos (by omega), if_pos hlt]
  · rw [if_neg (by omega), if_pos (by omega), if_neg (by omega), if_pos heq.symm]
  · rw [if_neg (by omega), if_neg (by omega), if_neg (by omega), if_neg (by omega), if_neg (by omega)]

/-- The loop copies the nodes until it has the packet. -/
theorem Loop.run_packet {p : Nat} {l : Loop} (hwf : l.sb.Wf) (hlt : l.buffer.length < p)
    (hp : packSize (l.buffer ++ l.sb.unread) = p) (hle : p ≤ l.buffer.length + l.sb.unread.length)
    (hfirst : headerSize ≤ l.buffer.length + l.sb.first.length)
    (hcopied : l.buffer.length + copied (p - l.buffer.length) (l.sb.first :: l.sb.nodes.tail) ≤ bufferSize) {n : Nat}
    (hn : l.sb.nodes.length < n) :
    ∃ sb, l.run n = .ok ⟨sb, (l.buffer ++ l.sb.unread).take p⟩ ∧ sb.Wf ∧ sb.size = l.sb.size ∧
      sb.unread = (l.buffer ++ l.sb.unread).drop p := by
  induction n generalizing l with
  | zero => omega
  | succ n ih =>
    cases hnodes : l.sb.nodes with
    | nil =>
      rw [SocketBuffer.unread, hnodes, List.flatten_nil, List.drop_nil, List.length_nil] at hle
      omega
    | cons msg rest =>
      rw [hnodes, List.tail_cons, copied] at hcopied
      rw [hnodes, List.length_cons] at hn
      have hall : l.buffer ++ l.sb.unread = (l.buffer ++ l.sb.first) ++ rest.flatten := by
        rw [hwf.unread_eq, hnodes, List.tail_cons, List.append_assoc]
      have hhead : headerSize ≤ (l.buffer ++ l.sb.first).length := by rwa [List.length_append]
      have hcap : (l.buffer ++ l.sb.first).length ≤ bufferSize := by
        rw [List.length_append]
        split at hcopied <;> omega
      have hpack : packSize (l.buffer ++ l.sb.first) = p := by
        rw [← hp, hall]
        exact packSize_of_append (List.prefix_append _ _) hhead
      have hturn := Loop.turn_packet hnodes hwf hhead hcap hpack
      have hrest : (returnFreeNode l.sb).nodes = rest := by rw [returnFreeNode, hnodes, List.tail_cons]
      have hunread : (returnFreeNode l.sb).unread = rest.flatten := by rw [unread_returnFreeNode, hnodes, List.tail_cons]
      rw [Loop.run, hturn, hall]
      by_cases hgo : (l.buffer ++ l.sb.first).length < p
      · -- the packet goes on in the next node
        rw [if_pos hgo]
        have hnext :=
          ih (l := ⟨returnFreeNode l.sb, l.buffer ++ l.sb.first⟩) (wf_returnFreeNode _) hgo (by rw [hunread, ← hall, hp])
          (by rw [hunread]; rw [← List.length_append, hall, List.length_append] at hle; exact hle)
          (Nat.le_trans hhead (Nat.le_add_right _ _)) (copied_next hgo (by rwa [← hrest] at hcopied))
            (by simpa [returnFreeNode, hnodes] using hn)
        rwa [hunread] at hnext
      · rw [if_neg hgo]
        clear hp hpack hturn ih
        by_cases hend : p = (l.buffer ++ l.sb.first).length
        · rw [if_pos hend]
          exact ⟨_, by rw [List.take_left' hend.symm], wf_returnFreeNode _, rfl, by rw [hunread, List.drop_left' hend.symm]⟩
        · -- the next packet begins in the node
          rw [if_neg hend]
          have hpe : p = l.buffer.length + (p - l.buffer.length) := by omega
          have hd : p - l.buffer.length ≤ l.sb.first.length := by
            rw [List.length_append] at hgo
            omega
          have hoff : l.sb.offset + ((p : Int) - l.buffer.length) = l.sb.offset + (p - l.buffer.length : Nat) := by omega
          obtain ⟨hadvance, hleft⟩ := hwf.advance hd
          rw [hoff]
          refine ⟨_, by rw [List.take_append_of_le_length (Nat.not_lt.1 hgo)], hadvance, rfl, ?_⟩
          rw [hleft, ← hall, hpe, List.drop_length_add_append, ← hpe]

/-- A packet: a header that says how many bytes follow, and these. -/
structure Packet where
  header : List UInt8
  body : List UInt8
  header_length : header.length = headerSize
  body_length : body.length ≤ 2048
  len_eq : readInt header 8 = body.length

def Packet.bytes (p : Packet) : List UInt8 := p.header ++ p.body

/-- What a call that reports the packet returns. -/
def Packet.chat (p : Packet) : Chat := ⟨p.bytes.length, readInt p.header 0, readInt p.header 4, p.body.length, p.body⟩

theorem Packet.bytes_length (p : Packet) : p.bytes.length = headerSize + p.body.length := by
  rw [Packet.bytes, List.length_append, p.header_length]

theorem bmod_of_lt {x : Int} (h0 : 0 ≤ x) (h : x < 0x80000000) : x.bmod 0x100000000 = x :=
  Int.bmod_eq_of_le (by omega) (by omega)

/-- The header of a packet tells how long it is. -/
theorem Packet.packSize_eq (p : Packet) {bs : List UInt8} (h : p.header <+: bs) : packSize bs = p.bytes.length := by
  have hbody := p.body_length
  have hsum : (headerSize : Int) + p.body.length = (headerSize + p.body.length : Nat) := (Int.natCast_add _ _).symm
  rw [← packSize_of_append h (Nat.le_of_eq p.header_length.symm), p.bytes_length]
  unfold packSize
  rw [p.len_eq, hsum]
  refine bmod_of_lt (Int.natCast_nonneg _) ?_
  rw [headerSize]
  omega

theorem Loop.run_nil {l : Loop} (h : l.sb.nodes = []) (n : Nat) : l.run (n + 1) = .ok l := by
  rw [Loop.run]
  unfold Loop.turn
  rw [h]

/-- A call that finds nothing to read. -/
theorem lreadallChat_nil {sb : SocketBuffer} (h : sb.nodes = []) : lreadallChat sb = .ok (⟨0, 0, 0, 0, []⟩, sb) := by
  have hrun := Loop.run_nil (l := ⟨sb, []⟩) h (sb.nodes.length + headerSize)
  have hread : ∀ i, readInt [] i = 0 := fun i => by
    unfold readInt byteAt
    simp
  have hok : ¬((0 : Int) < 0 ∨ ((bufferSize : Int) - headerSize < 0)) := by decide
  simp only [lreadallChat, hrun, hread, if_neg hok, List.length_nil, Int.natCast_zero, Int.sub_zero, Int.toNat_zero,
    List.take_zero]

/-- A call that finds a packet. -/
theorem lreadallChat_packet {sb : SocketBuffer} (hwf : sb.Wf) (p : Packet) {rest : List UInt8}
    (hunread : sb.unread = p.bytes ++ rest) (hfirst : headerSize ≤ sb.first.length)
    (hcopied : copied p.bytes.length (sb.first :: sb.nodes.tail) ≤ bufferSize) :
    ∃ sb', lreadallChat sb = .ok (p.chat, sb') ∧ sb'.Wf ∧ sb'.size = sb.size - p.bytes.length ∧ sb'.unread = rest := by
  have hheader : p.header <+: sb.unread := by
    rw [hunread, Packet.bytes, List.append_assoc]
    exact List.prefix_append _ _
  have hpos : 0 < p.bytes.length := by
    rw [p.bytes_length, headerSize]
    omega
  obtain ⟨sb', hrun, hwf', hsize, hleft⟩ := Loop.run_packet (l := ⟨sb, []⟩) (n := sb.nodes.length + headerSize + 1) hwf hpos
    (p.packSize_eq hheader) (by simp [hunread]) (by simpa using hfirst) (by simpa using hcopied)
    (Nat.lt_succ_of_le (Nat.le_add_right _ _))
  rw [List.nil_append, hunread, List.take_left] at hrun
  rw [List.nil_append, hunread, List.drop_left] at hleft
  have hread : ∀ i, i + 4 ≤ headerSize → readInt p.bytes i = readInt p.header i := fun i hi =>
    (readInt_of_append (List.prefix_append _ _) (by rw [p.header_length]; exact hi)).symm
  have hbody := p.body_length
  have hlen : readInt p.bytes 8 = p.body.length := (hread 8 (by decide)).trans p.len_eq
  have hmsg :
      (p.bytes.drop headerSize ++ List.replicate (bufferSize - headerSize) 0).take (p.body.length : Int).toNat = p.body := by
    rw [Packet.bytes, List.drop_left' p.header_length, Int.toNat_natCast, List.take_left]
  refine ⟨{ sb' with size := sb'.size - p.bytes.length }, ?_, hwf', ?_, hleft⟩
  · have hok : ¬((p.body.length : Int) < 0 ∨ ((bufferSize : Int) - headerSize < p.body.length)) := by
      rw [bufferSize, headerSize]
      omega
    simp only [lreadallChat, hrun, hlen, if_neg hok, hmsg, hread 0 (by decide), hread 4 (by decide)]
    rfl
  · show sb'.size - p.bytes.length = _
    rw [hsize]

/-! ## A connection -/

/-- There is a complete packet to read. -/
def complete (bs : List UInt8) : Bool := headerSize ≤ bs.length ∧ packSize bs ≤ bs.length

/-- There is nothing to read, or the first node has the header of a complete packet and the nodes up to its end fit
into the local buffer. -/
def SocketBuffer.whole (sb : SocketBuffer) : Bool :=
  sb.nodes = [] ∨ headerSize ≤ sb.first.length ∧ packSize sb.first ≤ sb.unread.length ∧
    copied (packSize sb.first).toNat (sb.first :: sb.nodes.tail) ≤ bufferSize

/-- The condition on a label in the state in which it is taken. -/
def readable (s : Socket) : Label → Bool
  | .push msg => s.buffer.size + msg.length < 0x80000000
  | .read => s.buffer.whole

/-- The bytes that come. -/
def received (labels : List Label) : List UInt8 :=
  labels.flatMap fun
    | .push msg => msg
    | .read => []

/-- How many packets the first `i` calls have reported. -/
def Socket.reported (s : Socket) (i : Nat) : Nat := (((s.calls.take i).map Call.chat).filter fun c => c.size ≠ 0).length

/-- The packets of the stream are reported in order and are what is no longer in the buffer; a call that finds no complete
packet takes nothing, and a call that finds one returns it, the next of the stream, and takes it. -/
structure Reads (packets : List Packet) (s : Socket) : Prop where
  inorder : ∃ k, s.reports = (packets.take k).map Packet.chat ∧
    s.received = (packets.take k).flatMap Packet.bytes ++ s.buffer.unread
  size : s.buffer.size = s.buffer.unread.length
  idle : ∀ c ∈ s.calls, complete c.before = false → c.chat.size = 0 ∧ c.after = c.before
  next : ∀ i c, s.calls[i]? = some c → complete c.before = true →
    ∃ p, packets[s.reported i]? = some p ∧ c.chat = p.chat ∧ c.before = p.bytes ++ c.after

theorem reads_init (packets : List Packet) : Reads packets .init :=
  ⟨⟨0, rfl, rfl⟩, rfl, fun _ hc => absurd hc List.not_mem_nil, fun _ _ hc => absurd hc (by simp [Socket.init])⟩

/-- One more call: the earlier ones are as before, and only the new one has to be looked at. -/
theorem Reads.next_concat {packets : List Packet} {s s' : Socket} (h : Reads packets s) {call : Call}
    (hs : s'.calls = s.calls ++ [call])
    (hnew : complete call.before = true →
      ∃ p, packets[s.reports.length]? = some p ∧ call.chat = p.chat ∧ call.before = p.bytes ++ call.after) :
    ∀ i c, s'.calls[i]? = some c → complete c.before = true →
      ∃ p, packets[s'.reported i]? = some p ∧ c.chat = p.chat ∧ c.before = p.bytes ++ c.after := by
  intro i c hi hc
  rw [hs] at hi
  rcases Nat.lt_or_ge i s.calls.length with hlt | hge
  · have htake : s'.calls.take i = s.calls.take i := by rw [hs, List.take_append_of_le_length (Nat.le_of_lt hlt)]
    rw [List.getElem?_append_left hlt] at hi
    rw [Socket.reported, htake]
    exact h.next i c hi hc
  · obtain ⟨hlast, rfl⟩ : i = s.calls.length ∧ call = c := by
      rw [List.getElem?_append_right hge, List.getElem?_singleton] at hi
      split at hi
      · exact ⟨by omega, Option.some.inj hi⟩
      · cases hi
    have htake : s'.calls.take i = s.calls := by rw [hs, hlast, List.take_left]
    rw [Socket.reported, htake]
    exact hnew hc

section Run

variable {packets : List Packet} {s : Socket}

theorem step_push {msg : List UInt8} {buffer : SocketBuffer} (h : lpushbuffer s.buffer msg = .ok buffer) :
    step s (.push msg) = some { s with buffer := buffer, received := s.received ++ msg } := by
  rw [step, h]

theorem step_read {chat : Chat} {buffer : SocketBuffer} (h : lreadallChat s.buffer = .ok (chat, buffer)) :
    step s .read = some { s with buffer := buffer, calls := s.calls ++ [⟨s.buffer.unread, chat, buffer.unread⟩] } := by
  rw [step, h]

/-- Bytes come from the socket: nothing is reported. -/
theorem Reads.push (h : Reads packets s) (hwf : s.buffer.Wf) {msg : List UInt8} (hc : readable s (.push msg)) :
    ∃ s', step s (.push msg) = some s' ∧ Reads packets s' ∧ s'.buffer.Wf ∧ s'.received = s.received ++ msg := by
  have hc : s.buffer.size + msg.length < 0x80000000 := by simpa [readable] using hc
  have hpush : lpushbuffer s.buffer msg =
    .ok { s.buffer with size := s.buffer.size + msg.length, nodes := s.buffer.nodes ++ [msg] } := by
    rw [lpushbuffer, if_pos hc]
  obtain ⟨hwf', hunread, hsize⟩ := hwf.lpushbuffer hpush
  refine ⟨_, step_push hpush, ⟨?_, ?_, h.idle, h.next⟩, hwf', rfl⟩
  · obtain ⟨k, hreports, hreceived⟩ := h.inorder
    refine ⟨k, hreports, ?_⟩
    rw [hunread, ← List.append_assoc, ← hreceived]
  · rw [hsize, hunread, h.size, List.length_append, Int.natCast_add]

/-- What there is to read begins with the next packet. -/
theorem Reads.nextPacket (h : Reads packets s) (hwf : s.buffer.Wf) (hpre : s.received <+: packets.flatMap Packet.bytes)
    (hfirst : headerSize ≤ s.buffer.first.length) (hpack : packSize s.buffer.first ≤ s.buffer.unread.length) :
    ∃ k p rest, s.reports = (packets.take k).map Packet.chat ∧
      s.received = (packets.take k).flatMap Packet.bytes ++ s.buffer.unread ∧
      packets[k]? = some p ∧ s.buffer.unread = p.bytes ++ rest ∧ packSize s.buffer.first = p.bytes.length := by
  obtain ⟨k, hreports, hreceived⟩ := h.inorder
  have hhead : s.buffer.first <+: s.buffer.unread := by
    rw [hwf.unread_eq]
    exact List.prefix_append _ _
  have hunread : s.buffer.unread <+: (packets.drop k).flatMap Packet.bytes := by
    rw [← List.take_append_drop k packets, List.flatMap_append, hreceived] at hpre
    exact (List.prefix_append_right_inj _).1 hpre
  cases hk : packets.drop k with
  | nil =>
    rw [hk, List.flatMap_nil, List.prefix_nil] at hunread
    rw [hunread, List.prefix_nil] at hhead
    rw [hhead] at hfirst
    exact absurd hfirst (by decide)
  | cons p ps =>
    rw [hk, List.flatMap_cons] at hunread
    have hheader : p.header <+: s.buffer.unread := by
      have hwhole : p.header <+: p.bytes ++ ps.flatMap Packet.bytes := by
        rw [Packet.bytes, List.append_assoc]
        exact List.prefix_append _ _
      refine List.prefix_of_prefix_length_le hwhole hunread ?_
      rw [p.header_length]
      exact Nat.le_trans hfirst hhead.length_le
    have hsize : packSize s.buffer.first = p.bytes.length := (packSize_of_append hhead hfirst).trans (p.packSize_eq hheader)
    rw [hsize] at hpack
    obtain ⟨rest, hrest⟩ := List.prefix_of_prefix_length_le (List.prefix_append p.bytes _) hunread (by omega)
    refine ⟨k, p, rest, hreports, hreceived, ?_, hrest.symm, hsize⟩
    rw [← List.head?_drop, hk, List.head?_cons]

/-- A call of `lreadall_chat`, on a packet that is complete or on none. -/
theorem Reads.read (h : Reads packets s) (hwf : s.buffer.Wf) (hpre : s.received <+: packets.flatMap Packet.bytes)
    (hc : readable s .read) : ∃ s', step s .read = some s' ∧ Reads packets s' ∧ s'.buffer.Wf ∧ s'.received = s.received := by
  have hc : s.buffer.whole := hc
  simp only [SocketBuffer.whole, decide_eq_true_eq] at hc
  obtain hnil | ⟨hfirst, hpack, hcopied⟩ := hc
  · refine ⟨_, step_read (lreadallChat_nil hnil), ⟨?_, h.size, ?_, h.next_concat rfl ?_⟩, hwf, rfl⟩
    · obtain ⟨k, hreports, hreceived⟩ := h.inorder
      refine ⟨k, ?_, hreceived⟩
      rw [← hreports]
      simp [Socket.reports]
    · intro c hmem hcomplete
      rcases List.mem_append.1 hmem with hmem | hmem
      · exact h.idle c hmem hcomplete
      · rw [List.mem_singleton] at hmem
        subst hmem
        exact ⟨rfl, rfl⟩
    · intro hcomplete
      have hunread : s.buffer.unread = [] := by rw [SocketBuffer.unread, hnil, List.flatten_nil, List.drop_nil]
      simp only [hunread, complete, List.length_nil] at hcomplete
      exact absurd hcomplete (by decide)
  · obtain ⟨k, p, rest, hreports, hreceived, hk, hunread, hsize⟩ := h.nextPacket hwf hpre hfirst hpack
    rw [hsize, Int.toNat_natCast] at hcopied
    obtain ⟨sb', hread, hwf', hsize', hrest⟩ := lreadallChat_packet hwf p hunread hfirst hcopied
    have hpos : p.bytes.length ≠ 0 := by
      rw [p.bytes_length, headerSize]
      omega
    have hmore : packets.take (k + 1) = packets.take k ++ [p] := by rw [List.take_add_one, hk, Option.toList_some]
    have hcount : s.reports.length = k := by
      rw [hreports, List.length_map, List.length_take]
      have := (List.getElem?_eq_some_iff.1 hk).1
      omega
    refine ⟨_, step_read hread, ⟨⟨k + 1, ?_, ?_⟩, ?_, ?_, h.next_concat rfl ?_⟩, hwf', rfl⟩
    · rw [hmore, List.map_append, ← hreports]
      simp [Socket.reports, Packet.chat, hpos]
    · show s.received = _
      rw [hmore, List.flatMap_append, List.flatMap_singleton, hrest, hreceived, hunread, List.append_assoc]
    · show sb'.size = _
      rw [hsize', h.size, hunread, hrest, List.length_append]
      omega
    · intro c hmem hcomplete
      rcases List.mem_append.1 hmem with hmem | hmem
      · exact h.idle c hmem hcomplete
      · rw [List.mem_singleton] at hmem
        subst hmem
        have hhead : s.buffer.first <+: s.buffer.unread := by
          rw [hwf.unread_eq]
          exact List.prefix_append _ _
        rw [packSize_of_append hhead hfirst] at hpack
        simp only [complete, decide_eq_false_iff_not] at hcomplete
        exact absurd ⟨Nat.le_trans hfirst hhead.length_le, hpack⟩ hcomplete
    · intro _
      exact ⟨p, by rw [hcount, hk], rfl, by rw [hrest, hunread]⟩

/-- A run that meets the condition. -/
theorem Reads.run {labels : List Label} (h : Reads packets s) (hwf : s.buffer.Wf)
    (hpre : s.received ++ received labels <+: packets.flatMap Packet.bytes)
    (hm : Steps.Meets step (fun s l => readable s l) s labels) :
    ∃ t, Steps.exec step s labels = some t ∧ Reads packets t := by
  induction labels generalizing s with
  | nil => exact ⟨s, rfl, h⟩
  | cons l labels ih =>
    obtain ⟨hc, hm⟩ := hm
    have hstep : ∃ s', step s l = some s' ∧ Reads packets s' ∧ s'.buffer.Wf ∧
        s'.received ++ received labels = s.received ++ received (l :: labels) := by
      cases l with
      | push msg =>
        obtain ⟨s', hs, h', hwf', hr⟩ := h.push hwf hc
        exact ⟨s', hs, h', hwf', by rw [hr, List.append_assoc]; rfl⟩
      | read =>
        obtain ⟨s', hs, h', hwf', hr⟩ := h.read hwf ((List.prefix_append _ _).trans hpre) hc
        exact ⟨s', hs, h', hwf', by rw [hr]; rfl⟩
    obtain ⟨s', hs, h', hwf', hr⟩ := hstep
    obtain ⟨t, ht, hreads⟩ := ih h' hwf' (hr ▸ hpre) (hm s' hs)
    exact ⟨t, by rw [Steps.exec_cons, hs, Option.bind_some, ht], hreads⟩

end Run

/-- For every stream of packets, in whatever pieces and between whatever calls its bytes come: if every call finds nothing to
read or a complete packet that lies well in the nodes, every call ends and writes only into the local buffer, the packets are
reported in order, a call that finds a complete packet returns the next one of the stream and takes it, a call that finds
none takes nothing, and `size` is the number of bytes that have not been read. -/
theorem reads_of_readable (packets : List Packet) (labels : List Label)
    (hs : received labels <+: packets.flatMap Packet.bytes)
    (hm : Steps.Meets step (fun s l => readable s l) .init labels) :
    ∃ t, Steps.exec step .init labels = some t ∧ Reads packets t :=
  (reads_init packets).run ⟨Int.le_refl 0, Int.natCast_nonneg _⟩ hs hm

/-- The packet of user 7 with the command 3 and two bytes. -/
def demoPacket : Packet := ⟨[7, 0, 0, 0, 3, 0, 0, 0, 2, 0, 0, 0], [65, 66], rfl, by decide, by decide +kernel⟩

/-- Two packets, of which the first one comes in two pieces. -/
theorem reads_of_readable_demo : ∃ t, Steps.exec step .init
    [.push (demoPacket.bytes.take 13), .push (demoPacket.bytes.drop 13 ++ demoPacket.bytes), .read, .read, .read] = some t ∧
      Reads [demoPacket, demoPacket] t :=
  reads_of_readable [demoPacket, demoPacket] _ (by decide) (by decide +kernel)

/-- One byte is missing when the packets are read: what has come is taken all the same. -/
theorem not_reads :
    ¬∀ (packets : List Packet) (labels : List Label), received labels <+: packets.flatMap Packet.bytes →
      ∃ t, Steps.exec step .init labels = some t ∧ Reads packets t := by
  intro hall
  obtain ⟨t, ht, hreads⟩ := hall [demoPacket] [.push (demoPacket.bytes.take 13), .read] (by decide)
  have hrun : Steps.exec step .init [.push (demoPacket.bytes.take 13), .read] =
      some ⟨⟨0, 0, []⟩, demoPacket.bytes.take 13, [⟨demoPacket.bytes.take 13, ⟨13, 7, 3, 2, [65, 0]⟩, []⟩]⟩ := by
        decide +kernel
  cases ht.symm.trans hrun
  obtain ⟨hsize, -⟩ := hreads.idle _ (List.mem_singleton_self _) (by decide +kernel)
  cases hsize

end SasyServer.ChatSocket
