import SasyServer.Lemmas.NetpackQueue
import SasyServer.Netpack.GateServer
import SasyServer.Theorems.PacketStream

/-!
# Theorem: the gate cuts every socket's stream by itself

One table and one queue serve all the sockets, and the handler is called as if each socket had a splitter of its own.
-/

namespace SasyServer.Netpack

open LengthFraming (Splitter)

/-- The gate with another reader. -/
def Gate.read {ρ ρ' : Type} (a : Gate ρ) (queue : ρ') : Gate ρ' :=
  ⟨queue, a.socket, a.connection, a.clientNumber, a.maxclient, a.calls⟩

/-! ## The handlers do not look at the reader -/

section Handlers

variable {ρ ρ' : Type} (a : Gate ρ) (queue : ρ') (fd : Nat)

theorem dispatchMsg_read (msg : List UInt8) (sz : Nat) :
    dispatchMsg (a.read queue) fd msg sz = (dispatchMsg a fd msg sz).read queue := by
  unfold dispatchMsg
  rw [apply_ite (Gate.read · queue)]
  rfl

theorem msgOpen_read : msgOpen (a.read queue) fd = (msgOpen a fd).read queue := by
  unfold msgOpen
  rw [apply_ite (Gate.read · queue)]
  rfl

theorem closeFd_read : closeFd (a.read queue) fd = (closeFd a fd).read queue := by
  unfold closeFd
  rw [apply_ite (Gate.read · queue)]
  rfl

theorem closeclient_read : closeclient (a.read queue) fd = (closeclient a fd).read queue := by
  unfold closeclient
  rw [apply_ite (Gate.read · queue)]
  rfl

theorem msgClose_read : msgClose (a.read queue) fd = (msgClose a fd).read queue := by
  unfold msgClose
  rw [apply_ite (Gate.read · queue)]
  exact if_congr Iff.rfl (closeFd_read { a with calls := a.calls ++ [.disconnect fd] } queue fd) rfl

theorem msgError_read : msgError (a.read queue) fd = (msgError a fd).read queue := by
  unfold msgError
  rw [apply_ite (Gate.read · queue)]
  exact if_congr Iff.rfl rfl (closeFd_read { a with calls := a.calls ++ [.error fd] } queue fd)

@[simp] theorem queue_dispatchMsg (msg : List UInt8) (sz : Nat) : (dispatchMsg a fd msg sz).queue = a.queue := by
  unfold dispatchMsg
  split <;> rfl

@[simp] theorem queue_msgOpen : (msgOpen a fd).queue = a.queue := by
  unfold msgOpen
  split <;> rfl

@[simp] theorem queue_closeFd : (closeFd a fd).queue = a.queue := by
  unfold closeFd
  split <;> rfl

@[simp] theorem queue_closeclient : (closeclient a fd).queue = a.queue := by
  unfold closeclient
  split <;> rfl

@[simp] theorem queue_msgClose : (msgClose a fd).queue = a.queue := by
  unfold msgClose
  split
  · exact queue_closeFd ..
  · rfl

@[simp] theorem queue_msgError : (msgError a fd).queue = a.queue := by
  unfold msgError
  split
  · rfl
  · exact queue_closeFd ..

end Handlers

@[simp] theorem queue_dispatchFrames (a : Gate (Nat → LengthFraming.Part UInt8)) (fd : Nat) (frames : List (List UInt8)) :
    (dispatchFrames a fd frames).queue = a.queue := by
  unfold dispatchFrames
  induction frames generalizing a with
  | nil => rfl
  | cons frame frames ih => rw [List.foldl_cons, ih, queue_dispatchMsg]

/-- The loop of `dispatch_queue` goes through all the packets, and leaves an empty queue. -/
theorem dispatchQueue_frames {part : Nat → LengthFraming.Part UInt8} (fd : Nat) :
    ∀ (frames : List (List UInt8)) (a : Gate (Nat → LengthFraming.Part UInt8))
    (L : Option Queue), Holds L part (frames.map (packOf fd)) →
      ∃ L', dispatchQueue frames.length (a.read L) = (dispatchFrames a fd frames).read L' ∧ Holds L' part [] := by
  intro frames
  induction frames with
  | nil => exact fun a L h => ⟨L, rfl, h⟩
  | cons frame frames ih =>
    intro a L h
    obtain ⟨L', hpop, hL'⟩ := h.pop
    obtain ⟨L'', hloop, hL''⟩ := ih (dispatchMsg a fd frame frame.length) L' hL'
    refine ⟨L'', ?_, hL''⟩
    rw [List.length_cons, dispatchQueue, show (a.read L).queue = L from rfl, hpop]
    exact (congrArg (dispatchQueue frames.length) (dispatchMsg_read a L' fd frame frame.length)).trans hloop

/-- The number of packets in the queue. -/
theorem Holds.count {L : Option Queue} {part : Nat → LengthFraming.Part UInt8} {queue : List NetPack}
    (h : Holds L part queue) :
    (getQueue L).count = queue.length := by
  rw [← h.queue, RingBuffer.length_toList]

/-- What `lfilter` gives for a chunk is dispatched as the frames of the socket's splitter. -/
theorem dispatch_gives {L : Option Queue} {a : Gate (Nat → LengthFraming.Part UInt8)}
    {part : Nat → LengthFraming.Part UInt8} {fd : Nat} {frames : List (List UInt8)} {r : Result}
    {queue' : List NetPack} (hgives : Gives fd [] frames r queue') (h : Holds L part queue') :
    ∃ L', dispatch (a.read L) r.filtered = (dispatchFrames a fd frames).read L' ∧ Holds L' part [] := by
  cases hgives with
  | none => exact ⟨L, rfl, h⟩
  | data frame => exact ⟨L, dispatchMsg_read a L fd frame frame.length, h⟩
  | more =>
    have hcount := h.count
    rw [List.nil_append] at h hcount
    rw [List.length_map] at hcount
    obtain ⟨L', hloop, hL'⟩ := dispatchQueue_frames fd frames a L h
    refine ⟨L', ?_, hL'⟩
    rw [← hloop, ← hcount]
    rfl

/-- One label: the gate does what the splitters say. -/
theorem step_read {L : Option Queue} {a : Gate (Nat → LengthFraming.Part UInt8)} (h : Holds L a.queue []) {l : Label}
    (hl : l.ok = true) :
    ∃ L', step (a.read L) l = some ((splitStep a l).read L') ∧ Holds L' (splitStep a l).queue [] := by
  cases l with
  | closeclient fd =>
    refine ⟨L, congrArg some (closeclient_read a L fd), ?_⟩
    rw [splitStep, queue_closeclient]
    exact h
  | socket message =>
    cases message with
    | data fd chunk =>
      have hchunk : chunk ≠ [] := by simpa [Label.ok] using hl
      obtain ⟨L', r, queue', hfilter, hholds, hgives⟩ := h.filterData fd hchunk
      obtain ⟨L'', hdispatch, hL''⟩ := dispatch_gives
        (a := { a with queue := Function.update a.queue fd (split (a.queue fd) chunk).part }) hgives hholds
      refine ⟨L'', ?_, ?_⟩
      · have hfiltered : lfilter (a.read L).queue (.data fd chunk) = some (L', r.filtered) := by
          rw [lfilter, show (a.read L).queue = L from rfl, hfilter]
          rfl
        rw [step, hfiltered]
        exact congrArg some hdispatch
      · rw [splitStep, queue_dispatchFrames]
        exact hL''
    | connect fd => exact ⟨L, rfl, h⟩
    | close fd =>
      refine ⟨closeUncomplete L fd, ?_, ?_⟩
      · exact congrArg some
          (msgClose_read { a with queue := Function.update a.queue fd (.header []) } (closeUncomplete L fd) fd)
      · rw [splitStep, queue_msgClose]
        exact h.close fd
    | accept id fd =>
      refine ⟨L, congrArg some (msgOpen_read a L fd), ?_⟩
      rw [splitStep, queue_msgOpen]
      exact h
    | error fd =>
      refine ⟨closeUncomplete L fd, ?_, ?_⟩
      · exact congrArg some
          (msgError_read { a with queue := Function.update a.queue fd (.header []) } (closeUncomplete L fd) fd)
      · rw [splitStep, queue_msgError]
        exact h.close fd
    | warning fd size => exact ⟨L, rfl, h⟩

/-- A run of the gate is the run of the splitters. -/
theorem exec_read :
    ∀ (ls : List Label) (L : Option Queue) (a : Gate (Nat → LengthFraming.Part UInt8)), Holds L a.queue [] →
      (∀ l ∈ ls, l.ok = true) →
    ∃ L', Steps.exec step (a.read L) ls = some ((ls.foldl splitStep a).read L') ∧
      Holds L' (ls.foldl splitStep a).queue [] := by
  intro ls
  induction ls with
  | nil => exact fun L a h _ => ⟨L, rfl, h⟩
  | cons l ls ih =>
    intro L a h hls
    obtain ⟨hl, hls⟩ := List.forall_mem_cons.1 hls
    obtain ⟨L', hstep, hL'⟩ := step_read h hl
    obtain ⟨L'', hexec, hL''⟩ := ih L' (splitStep a l) hL' hls
    refine ⟨L'', ?_, hL''⟩
    rw [Steps.exec_cons, hstep]
    exact hexec

/-- For any messages of the socket server, for any sockets in any order, and calls of `closeclient`: the gate never reads
past a chunk, it calls the handler as the gate with a splitter for each socket does, and then its queue is empty. -/
theorem gate_splits (socket : Nat) (maxclient : Int) (ls : List Label) (hls : ∀ l ∈ ls, l.ok = true) :
    ∃ s, Steps.exec step (Gate.start none socket maxclient) ls = some s ∧ lpop s.queue = none ∧
      s.calls = (ls.foldl splitStep (Gate.start (fun _ => .header []) socket maxclient)).calls := by
  obtain ⟨L, hexec, hL⟩ := exec_read ls none (Gate.start (fun _ => .header []) socket maxclient) holds_none hls
  exact ⟨_, hexec, hL.pop_nil, rfl⟩

/-- Two sockets whose packets come in pieces, the second piece of the one after the first of the other. -/
theorem gate_splits_two_sockets :
    ∃ s, Steps.exec step (Gate.start none 1 10) [.socket (.accept 1 5), .socket (.accept 1 7), .socket (.data 5 [0, 3, 1]),
        .socket (.data 7 [0]), .socket (.data 5 [2, 3, 0, 0, 0]), .socket (.data 7 [1, 9]), .closeclient 7, .socket
          (.data 7 [0, 0]),
        .socket (.close 5)] = some s ∧ lpop s.queue = none ∧
      s.calls = [.connect 5, .connect 7, .message 5 [1, 2, 3] 3, .message 5 [] 0, .message 7 [9] 1, .disconnect 5] :=
  gate_splits 1 10 _ (by decide)

/-! ## One socket -/

/-- The labels that are about a socket. -/
def Label.about (fd : Nat) : Label → Bool
  | .socket (.data id _) | .socket (.close id) | .socket (.error id) | .socket (.accept _ id) | .closeclient id => id = fd
  | .socket (.connect _) | .socket (.warning _ _) => false

/-- The message of a call for the socket. -/
def messageOf (fd : Nat) : Call → Option (List UInt8)
  | .message id msg _ => if id = fd then some msg else none
  | _ => none

/-- The messages the handler has been given for a socket. -/
def messages {ρ : Type} (s : Gate ρ) (fd : Nat) : List (List UInt8) := s.calls.filterMap (messageOf fd)

/-- What the gate has of a socket: the part of a frame, whether it is open, and its messages so far. -/
def view (a : Gate (Nat → LengthFraming.Part UInt8)) (fd : Nat) :
    LengthFraming.Part UInt8 × Option Bool × List (List UInt8) :=
  (a.queue fd, a.connection fd, messages a fd)

section Sockets

variable (a : Gate (Nat → LengthFraming.Part UInt8)) {fd id : Nat}

theorem view_dispatchMsg (hid : id ≠ fd) (msg : List UInt8) (sz : Nat) : view (dispatchMsg a id msg sz) fd = view a fd := by
  unfold dispatchMsg
  split
  · simp [view, messages, messageOf, List.filterMap_append, hid]
  · rfl

theorem view_dispatchFrames (hid : id ≠ fd) (frames : List (List UInt8)) :
    view (dispatchFrames a id frames) fd = view a fd := by
  unfold dispatchFrames
  induction frames generalizing a with
  | nil => rfl
  | cons frame frames ih => rw [List.foldl_cons, ih, view_dispatchMsg a hid]

theorem view_closeFd (hid : id ≠ fd) : view (closeFd a id) fd = view a fd := by
  unfold closeFd
  split
  · simp [view, messages, Function.update_of_ne hid.symm]
  · rfl

theorem view_closeclient (hid : id ≠ fd) : view (closeclient a id) fd = view a fd := by
  unfold closeclient
  split
  · simp [view, messages, Function.update_of_ne hid.symm]
  · rfl

theorem view_msgOpen (hid : id ≠ fd) : view (msgOpen a id) fd = view a fd := by
  unfold msgOpen
  split
  · rfl
  · simp [view, messages, messageOf, List.filterMap_append, Function.update_of_ne hid.symm]

theorem view_msgClose (hid : id ≠ fd) : view (msgClose a id) fd = view a fd := by
  unfold msgClose
  split
  · rw [view_closeFd _ hid]
    simp [view, messages, messageOf, List.filterMap_append]
  · rfl

theorem view_msgError (hid : id ≠ fd) : view (msgError a id) fd = view a fd := by
  unfold msgError
  split
  · rfl
  · rw [view_closeFd _ hid]
    simp [view, messages, messageOf, List.filterMap_append]

/-- Another socket's part. -/
theorem view_update (hid : id ≠ fd) (p : LengthFraming.Part UInt8) :
    view { a with queue := Function.update a.queue id p } fd = view a fd := by
  simp [view, messages, Function.update_of_ne hid.symm]

/-- A label that is not about the socket changes nothing of it. -/
theorem view_splitStep {l : Label} (hl : l.about fd = false) : view (splitStep a l) fd = view a fd := by
  cases l with
  | closeclient id => exact view_closeclient a (by simpa [Label.about] using hl)
  | socket message =>
    cases message with
    | data id chunk =>
      have hid : id ≠ fd := by simpa [Label.about] using hl
      rw [splitStep, view_dispatchFrames _ hid, view_update a hid]
    | connect id => rfl
    | close id =>
      have hid : id ≠ fd := by simpa [Label.about] using hl
      rw [splitStep, view_msgClose _ hid, view_update a hid]
    | accept listen id => exact view_msgOpen a (by simpa [Label.about] using hl)
    | error id =>
      have hid : id ≠ fd := by simpa [Label.about] using hl
      rw [splitStep, view_msgError _ hid, view_update a hid]
    | warning id size => rfl

/-- The frames of an open socket are messages. -/
theorem view_dispatchFrames_self (fd : Nat) (frames : List (List UInt8)) :
    ∀ (a : Gate (Nat → LengthFraming.Part UInt8)), a.connection fd = some true →
    view (dispatchFrames a fd frames) fd = (a.queue fd, some true, messages a fd ++ frames) := by
  induction frames with
  | nil =>
    intro a ha
    rw [view, List.append_nil, ← ha]
    rfl
  | cons frame frames ih =>
    intro a ha
    have hmsg : dispatchMsg a fd frame frame.length = { a with calls := a.calls ++ [.message fd frame frame.length] } :=
      if_pos ha
    have hrest := ih (dispatchMsg a fd frame frame.length) (by rw [hmsg]; exact ha)
    rw [hmsg] at hrest
    rw [dispatchFrames, List.foldl_cons, hmsg]
    refine hrest.trans ?_
    simp [messages, messageOf, List.filterMap_append]

/-- The stream of an open socket, with anything about other sockets in between, becomes the frames of its splitter. -/
theorem view_stream (fd : Nat) :
    ∀ (ls : List Label) (a : Gate (Nat → LengthFraming.Part UInt8)) (chunks : List (List UInt8)),
    a.connection fd = some true → ls.filter (Label.about fd) = chunks.map (fun chunk => .socket (.data fd chunk)) →
    messages (ls.foldl splitStep a) fd = messages a fd ++ (split (a.queue fd) chunks.flatten).frames := by
  intro ls
  induction ls with
  | nil =>
    intro a chunks _ hchunks
    rw [List.map_eq_nil_iff.1 hchunks.symm]
    exact (List.append_nil _).symm
  | cons l ls ih =>
    intro a chunks ha hchunks
    rw [List.foldl_cons]
    by_cases hl : l.about fd = true
    · rw [List.filter_cons_of_pos hl] at hchunks
      cases chunks with
      | nil => cases hchunks
      | cons chunk chunks =>
        rw [List.map_cons, List.cons.injEq] at hchunks
        obtain ⟨rfl, hchunks⟩ := hchunks
        have hview : view (splitStep a (.socket (.data fd chunk))) fd =
            ((split (a.queue fd) chunk).part, some true, messages a fd ++ (split (a.queue fd) chunk).frames) := by
          rw [splitStep]
          refine (view_dispatchFrames_self fd _
            { a with queue := Function.update a.queue fd (split (a.queue fd) chunk).part } ha).trans ?_
          dsimp only
          rw [Function.update_self]
          rfl
        simp only [view, Prod.mk.injEq] at hview
        rw [ih _ chunks hview.2.1 hchunks, hview.1, hview.2.2, List.flatten_cons, split_append, List.append_assoc]
    · have hview := view_splitStep a (Bool.eq_false_iff.2 hl)
      simp only [view, Prod.mk.injEq] at hview
      rw [List.filter_cons_of_neg hl] at hchunks
      rw [ih _ chunks (by rw [hview.2.1]; exact ha) hchunks, hview.1, hview.2.2]

end Sockets

/-- A socket that is new, or whose last label says that it is closed or has failed. -/
def isFresh (fd : Nat) (ls : List Label) : Bool :=
  (ls.filter (Label.about fd)).getLast?.all fun l => l = .socket (.close fd) || l = .socket (.error fd)

/-- A fresh socket starts with a header. -/
theorem part_of_isFresh (fd : Nat) (a : Gate (Nat → LengthFraming.Part UInt8)) (ha : a.queue fd = .header [])
    (ls : List Label) :
    isFresh fd ls = true → (ls.foldl splitStep a).queue fd = .header [] := by
  induction ls using List.reverseRecOn with
  | nil => exact fun _ => ha
  | append_singleton ls l ih =>
    intro hfresh
    rw [List.foldl_append, List.foldl_cons, List.foldl_nil]
    unfold isFresh at hfresh
    rw [List.filter_append] at hfresh
    by_cases hl : l.about fd = true
    · rw [List.filter_cons_of_pos hl, List.filter_nil, List.getLast?_append, List.getLast?_singleton, Option.some_or,
        Option.all_some, Bool.or_eq_true, decide_eq_true_eq, decide_eq_true_eq] at hfresh
      rcases hfresh with rfl | rfl
      · rw [splitStep, queue_msgClose]
        exact Function.update_self ..
      · rw [splitStep, queue_msgError]
        exact Function.update_self ..
    · rw [List.filter_cons_of_neg hl, List.filter_nil, List.append_nil] at hfresh
      have hview := view_splitStep (ls.foldl splitStep a) (Bool.eq_false_iff.2 hl)
      simp only [view, Prod.mk.injEq] at hview
      rw [hview.1]
      exact ih hfresh

/-- The packets of a client, whose bodies are not too long, in any chunks, with anything about other sockets before, between
and after them: the handler is given, in this order, one message for each packet, which is long enough for the gateway and is
unpacked to its protocol number and its body. -/
theorem gate_delivers (socket listen fd : Nat) (maxclient : Int) (before after : List Label) (chunks : List (List UInt8))
    (ps : List (Nat × List UInt8)) (packets : List (List UInt8))
    (hok : ∀ l ∈ before ++ .socket (.accept listen fd) :: after, l.ok = true) (hfresh : isFresh fd before = true)
    (hroom : ∀ s, Steps.exec step (Gate.start none socket maxclient) before = some s → s.clientNumber < s.maxclient)
    (hafter : after.filter (Label.about fd) = chunks.map fun chunk => .socket (.data fd chunk))
    (hno : ∀ p ∈ ps, p.1 < 2 ^ 24) (hlength : ∀ p ∈ ps, p.2.length + 4 < 0x10000)
    (hpack : List.Forall₂ (fun p packet => Pbcc.packNetPacket p.2 p.1 = some packet) ps packets)
    (hchunks : chunks.flatten = packets.flatten) :
    ∃ s s', Steps.exec step (Gate.start none socket maxclient) before = some s ∧
      Steps.exec step (Gate.start none socket maxclient) (before ++ .socket (.accept listen fd) :: after) = some s' ∧
      ∃ msgs, messages s' fd = messages s fd ++ msgs ∧
        List.Forall₂ (fun p msg => 3 ≤ msg.length ∧ Pbcc.unpackNetPayload msg = some (p.1, p.2, 0, 0)) ps msgs := by
  set a : Gate (Nat → LengthFraming.Part UInt8) := Gate.start (fun _ => .header []) socket maxclient with ha
  obtain ⟨L, hexec, hL⟩ := exec_read before none a holds_none fun l hl => hok l (List.mem_append_left _ hl)
  obtain ⟨L', hexec', -⟩ := exec_read (before ++ .socket (.accept listen fd) :: after) none a holds_none hok
  refine ⟨_, _, hexec, hexec', ps.map (fun p => Pbcc.payload p.2 p.1), ?_, ?_⟩
  · have hopen : (msgOpen (before.foldl splitStep a) fd).connection fd = some true ∧
        messages (msgOpen (before.foldl splitStep a) fd) fd = messages (before.foldl splitStep a) fd := by
      have hlt : (before.foldl splitStep a).clientNumber < (before.foldl splitStep a).maxclient := hroom _ hexec
      rw [msgOpen, if_neg (Int.not_le.2 hlt)]
      exact ⟨Function.update_self .., by simp [messages, messageOf, List.filterMap_append]⟩
    have hstream := view_stream fd after (msgOpen (before.foldl splitStep a) fd) chunks hopen.1 hafter
    rw [hopen.2, queue_msgOpen, part_of_isFresh fd a rfl before hfresh, hchunks, Pbcc.eq_map_of_pack hpack] at hstream
    have hframes :=
      (@LengthFraming.split_frames_iff UInt8 2 Pbcc.readSize (by decide) _ (fun p : Nat × List UInt8 => Pbcc.header p.2)
      (fun p => Pbcc.payload p.2 p.1) ps (fun _ _ => rfl) []).2 fun p hp => by
        have hiff := Pbcc.readSize_iff (Pbcc.length_lt_of_pack hpack p hp) [] p.1
        rw [List.append_nil] at hiff
        exact hiff.2 (hlength p hp)
    rw [List.nil_append, List.flatMap_def] at hframes
    rw [split, hframes] at hstream
    rw [List.foldl_append, List.foldl_cons]
    exact hstream
  · rw [List.forall₂_map_right_iff]
    refine List.forall₂_same.2 fun p hp => ⟨?_, Pbcc.unpackNetPayload_payload p.2 (hno p hp)⟩
    rw [Pbcc.length_payload]
    omega

/-- Two packets in three chunks, with the chunk of another socket between them. -/
theorem gate_delivers_two_packets :
    ∃ s s', Steps.exec step (Gate.start none 1 10) [.socket (.accept 1 7)] = some s ∧
      Steps.exec step (Gate.start none 1 10)
        ([.socket (.accept 1 7)] ++ .socket (.accept 1 5) :: [.socket (.data 5 [0]), .socket (.data 7 [0, 2, 1]),
        .socket (.data 5 [7, 0, 1, 2, 7, 10]), .socket (.data 5 [20, 30, 0, 4, 0, 0, 0, 5])]) = some s' ∧
      ∃ msgs, messages s' 5 = messages s 5 ++ msgs ∧
        List.Forall₂ (fun (p : Nat × List UInt8) msg => 3 ≤ msg.length ∧ Pbcc.unpackNetPayload msg = some (p.1, p.2, 0, 0))
          [(0x010207, [10, 20, 30]), (5, [])] msgs := by
  refine gate_delivers 1 1 5 10 _ _ [[0], [7, 0, 1, 2, 7, 10], [20, 30, 0, 4, 0, 0, 0, 5]] _
    [[0, 7, 0, 1, 2, 7, 10, 20, 30], [0, 4, 0, 0, 0, 5]] (by decide) (by decide) ?_ rfl (by decide) (by decide)
    (.cons (by decide) (.cons (by decide) .nil)) rfl
  intro s hs
  cases hs
  decide

end SasyServer.Netpack
