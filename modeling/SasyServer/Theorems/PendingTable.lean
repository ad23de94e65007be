import SasyServer.Theorems.HeaderBuffer
import SasyServer.Websocket.Events

/-!
# Theorem: the table of the connections with an unfinished packet

An entry leaves the table whenever it is looked up, and whoever wants to keep it puts it back. Every place that stores an
entry does so in the chain of its connection (`Stored`), and every answer that ends a packet, or the connection, comes from a
table that has no entry of it. But a chunk whose bytes do not fit into the header of its entry is written over what lies
behind, which may be the entry of another connection.
-/

namespace SasyServer.Websocket

/-- The entries of a connection in one chain. -/
def entriesIn (L : Option Queue) (fd h : Nat) : List Uncomplete := ((getQueue L).hash h).filter fun uc => uc.pack.id = fd

/-- The entries of a connection, wherever they are in the table. -/
def entries (L : Option Queue) (fd : Nat) : List Uncomplete := (List.range hashSize).flatMap (entriesIn L fd)

/-- The connection that an answer to a chunk ends, or whose packet it completes. -/
def Result.ended : Result → Option Nat
  | .data fd _ _ | .wsclose fd => some fd
  | _ => Option.none

/-- The connection has ended with a message, or has its packet: a close, an error, a packet as the
answer, or a close frame. -/
def Ends (m : SocketMessage) (r : Filtered) (fd : Nat) : Prop :=
  m = .close fd ∨ (∃ text, m = .error fd text) ∨ (∃ buffer size, r = .data (.data fd buffer size)) ∨ r = .data (.wsclose fd)

/-- What is to hold in a table, and of the message that comes next: the table has at most one entry of a connection, each
entry is in the chain of its connection, and the message, whatever it is, writes nothing behind an entry and leaves the
entries of every other connection in every chain as they were. After a close or an error of a connection, and after a packet
or a close frame of it as the answer, no chain has an entry of it. -/
structure TableKept (L : Option Queue) (hs : Bool) (m : SocketMessage) : Prop where
  one : ∀ fd, (entries L fd).length ≤ 1
  chain : ∀ h, ∀ uc ∈ (getQueue L).hash h, hashFd uc.pack.id = h
  inside : lfilter L hs m ≠ .error .headerOverflow
  others : ∀ L' r, lfilter L hs m = .ok (L', r) → ∀ fd, fd ≠ m.id → ∀ h, entriesIn L' fd h = entriesIn L fd h
  ended : ∀ L' r, lfilter L hs m = .ok (L', r) → ∀ fd, Ends m r fd → ∀ h, entriesIn L' fd h = []

/-- The condition on a message: what it adds to a header that is not complete fits. -/
def fitsHeader (L : Option Queue) (hs : Bool) : SocketMessage → Prop
  | .data id buffer => hasRoom hs ((findUncomplete L id).map Prod.fst) buffer
  | _ => True

/-! ## The entries of one connection -/

/-- In a list without two elements of one key, the elements of a key are the one that is found. -/
theorem filter_eq_toList_find? {α β : Type} [DecidableEq β] {f : α → β} {l : List α} (h : (l.map f).Nodup) (b : β) :
    l.filter (fun x => f x = b) = (l.find? fun x => f x = b).toList := by
  induction l with
  | nil => rfl
  | cons x l ih =>
    rw [List.map_cons, List.nodup_cons] at h
    by_cases hx : f x = b
    · rw [List.filter_cons_of_pos (by simpa using hx), List.find?_cons_of_pos (by simpa using hx), List.filter_eq_nil_iff.2]
      · rfl
      intro y hy
      simp only [decide_eq_true_eq]
      rintro rfl
      exact h.1 (List.mem_map.2 ⟨y, hy, hx.symm⟩)
    · rw [List.filter_cons_of_neg (by simpa using hx), List.find?_cons_of_neg (by simpa using hx)]
      exact ih h.2

/-- The entries of a connection in a chain: the unfinished packet in its own chain, and none in another. -/
theorem entriesIn_eq {L : Option Queue} (hg : Good L) (hp : Stored L) (fd h : Nat) :
    entriesIn L fd h = if h = hashFd fd then (pending L fd).toList else [] := by
  split_ifs with hh
  · subst hh
    exact filter_eq_toList_find? (f := fun uc : Uncomplete => uc.pack.id) (hg.nodup (hashFd fd)) fd
  · rw [entriesIn, List.filter_eq_nil_iff]
    intro uc huc
    simp only [decide_eq_true_eq]
    rintro rfl
    exact hh (hp h uc huc).1.symm

/-- One of the places of a list is the only one that gives something. -/
theorem flatMap_ite {α : Type} {l : List Nat} (hl : l.Nodup) {k : Nat} (hk : k ∈ l) (c : List α) :
    (l.flatMap fun h => if h = k then c else []) = c := by
  induction l with
  | nil => cases hk
  | cons h l ih =>
    rw [List.nodup_cons] at hl
    rw [List.flatMap_cons]
    by_cases hh : h = k
    · subst hh
      have hnil : (l.flatMap fun h' => if h' = h then c else []) = [] := by
        rw [List.flatMap_eq_nil_iff]
        intro h' hh'
        refine if_neg ?_
        rintro rfl
        exact hl.1 hh'
      rw [if_pos rfl, hnil, List.append_nil]
    · rw [if_neg hh, List.nil_append]
      exact ih hl.2 ((List.mem_cons.1 hk).resolve_left (Ne.symm hh))

theorem hashFd_lt (fd : Nat) : hashFd fd < hashSize := Nat.mod_lt _ (by decide)

/-- The table has the unfinished packet of a connection and no other entry of it. -/
theorem entries_eq {L : Option Queue} (hg : Good L) (hp : Stored L) (fd : Nat) : entries L fd = (pending L fd).toList := by
  unfold entries
  rw [funext (entriesIn_eq hg hp fd)]
  exact flatMap_ite List.nodup_range (List.mem_range.2 (hashFd_lt fd)) _

/-! ## The answers that end something -/

/-- A packet that the chunk completes is its own connection's, and its entry has been taken out before. -/
theorem fillPack_ended {q : Queue} {fd fd' : Nat} {uc : Uncomplete} {buffer : List UInt8} {hs : Bool}
    {p : Option Queue × Result} (hok : fillPack q fd uc buffer hs = .ok p) (he : p.2.ended = some fd') :
    fd' = fd ∧ p.1 = some q := by
  unfold fillPack at hok
  simp only at hok
  split_ifs at hok
  · cases hok
    cases he
  · cases hok
    cases he
    exact ⟨rfl, rfl⟩
  · obtain ⟨L', -, rfl⟩ := map_ok hok
    cases he

/-- A connection that ends, or whose packet is complete, is the chunk's own; its entry is gone. -/
theorem filterUncomplete_ended {q : Queue} {fd fd' : Nat} {uc : Uncomplete} {buffer : List UInt8} {hs : Bool}
    {p : Option Queue × Result} (hok : filterUncomplete q fd uc buffer hs = .ok p) (he : p.2.ended = some fd') :
    fd' = fd ∧ (p.1 = some q ∨ p.1 = closeUncomplete (some q) fd) := by
  unfold filterUncomplete at hok
  by_cases hread : uc.read < 0
  swap
  · rw [if_neg hread] at hok
    exact (fillPack_ended hok he).imp_right Or.inl
  rw [if_pos hread] at hok
  cases hfill : fillHeader hs uc.header buffer with
  | error fault =>
    rw [hfill] at hok
    cases hok
  | ok x =>
    rw [hfill] at hok
    simp only [Except.bind] at hok
    split_ifs at hok
    · cases hok
      cases he
    · cases hok
      cases he
      exact ⟨rfl, Or.inr rfl⟩
    · exact (fillPack_ended hok he).imp_right Or.inl
    · exact (fillPack_ended hok he).imp_right Or.inl

/-- So it is without an unfinished packet. -/
theorem filterFresh_ended {L : Option Queue} {fd fd' : Nat} {buffer : List UInt8} {hs : Bool} {p : Option Queue × Result}
    (hok : filterFresh L fd buffer hs = .ok p) (he : p.2.ended = some fd') :
    fd' = fd ∧ (p.1 = L ∨ p.1 = closeUncomplete L fd) := by
  unfold filterFresh at hok
  simp only at hok
  split_ifs at hok
  · obtain ⟨L', -, rfl⟩ := map_ok hok
    cases he
  · cases hok
    cases he
    exact ⟨rfl, Or.inr rfl⟩
  · cases hok
    cases he
  · cases hok
    cases he
    exact ⟨rfl, Or.inl rfl⟩
  · obtain ⟨L', -, rfl⟩ := map_ok hok
    cases he

/-- A chunk that ends its packet or its connection leaves no entry of it. -/
theorem filterData_ended {L : Option Queue} {fd fd' : Nat} {buffer : List UInt8} {hs : Bool}
    {p : Option Queue × Result} (hg : Good L) (hok : filterData L fd buffer hs = .ok p) (he : p.2.ended = some fd') :
    fd' = fd ∧ pending p.1 fd = none := by
  unfold filterData at hok
  cases hfind : findUncomplete L fd with
  | none =>
    rw [hfind] at hok
    obtain ⟨hfd, hp | hp⟩ := filterFresh_ended hok he
    · exact ⟨hfd, hp ▸ pending_of_find_none hfind⟩
    · exact ⟨hfd, hp ▸ (touches_close fd hg).self⟩
  | some x =>
    obtain ⟨uc, q⟩ := x
    rw [hfind] at hok
    obtain ⟨-, -, t⟩ := touches_find hg hfind
    obtain ⟨hfd, hp | hp⟩ := filterUncomplete_ended hok he
    · exact ⟨hfd, hp ▸ t.self⟩
    · exact ⟨hfd, hp ▸ (touches_close fd t.good).self⟩

/-! ## One message -/

/-- What a message does to the table: another connection's entries are as they were, and one that has ended has none. -/
theorem lfilter_spec {L : Option Queue} {hs : Bool} {m : SocketMessage} {p : Option Queue × Filtered} (hg : Good L)
    (hp : Stored L) (hok : lfilter L hs m = .ok p) :
    (Good p.1 ∧ Stored p.1) ∧ (∀ fd, fd ≠ m.id → pending p.1 fd = pending L fd) ∧
      ∀ fd, Ends m p.2 fd → pending p.1 fd = none := by
  cases m with
  | data id buffer =>
    obtain ⟨x, hx, rfl⟩ := map_ok hok
    rcases filterData_serves id (pending L id) buffer hs with ⟨fault, hf⟩ | ⟨added, e, r, -, -, -, hf⟩
    · cases hx.symm.trans (hf L hg rfl)
    · obtain ⟨L', hL', t⟩ := hf L hg rfl
      obtain rfl : x = (L', r) := Except.ok.inj (hx.symm.trans hL')
      refine ⟨⟨t.good, hp.filterData hx⟩, t.other, fun fd he => ?_⟩
      have hended : r.ended = some fd := by
        rcases he with he | ⟨_, he⟩ | ⟨_, _, he⟩ | he <;> cases he <;> rfl
      obtain ⟨rfl, hnone⟩ := filterData_ended hg hx hended
      exact hnone
  | close id | error id _ =>
    cases hok
    have t := touches_close id hg
    refine ⟨⟨t.good, hp.close id⟩, t.other, fun fd he => ?_⟩
    rcases he with he | ⟨_, he⟩ | ⟨_, _, he⟩ | he <;> cases he
    exact t.self
  | connect id | accept id _ _ | warning id _ =>
    cases hok
    refine ⟨⟨hg, hp⟩, fun _ _ => rfl, fun fd he => ?_⟩
    rcases he with he | ⟨_, he⟩ | ⟨_, _, he⟩ | he <;> cases he

theorem Good.pop {L : Option Queue} (h : Good L) : Good ((lpop L).elim L Prod.snd) := by
  cases hpop : lpop L with
  | none => exact h
  | some x => exact (lpop_eq_some h hpop).1

/-- What the gate itself does to the queue puts no entry anywhere. -/
theorem gateCall_keeps {L L' : Option Queue} {c : GateCall} (h : Good L ∧ Stored L) (hc : gateCall L c = some L') :
    Good L' ∧ Stored L' := by
  cases c with
  | lfilter hs m =>
    obtain ⟨p, hp, rfl⟩ := Option.map_eq_some_iff.1 hc
    cases hf : Websocket.lfilter L hs m with
    | error fault =>
      rw [hf] at hp
      cases hp
    | ok x =>
      rw [hf] at hp
      cases hp
      exact (lfilter_spec h.1 h.2 hf).1
  | lpop =>
    cases hc
    exact ⟨h.1.pop, h.2.pop⟩

/-- A header is written over by a chunk that does not fit, and by no other message. -/
theorem lfilter_inside_iff (L : Option Queue) (hs : Bool) (m : SocketMessage) :
    lfilter L hs m ≠ .error .headerOverflow ↔ fitsHeader L hs m := by
  cases m with
  | data id buffer => exact (map_ne_overflow _ _).trans (filterData_iff L id buffer hs)
  | close id | error id _ | connect id | accept id _ _ | warning id _ => exact iff_of_true (by simp [lfilter]) trivial

/-- After any messages of any connections, in either mode, with any pops between them, none of which wrote behind an entry or
ended the process: the table is kept by the next message if and only if that fits into its header. -/
theorem tableKept_iff_fitsHeader (calls : List GateCall) (L : Option Queue)
    (hrun : Steps.exec gateCall none calls = some L) (hs : Bool) (m : SocketMessage) :
    TableKept L hs m ↔ fitsHeader L hs m := by
  have hmeets : Steps.Meets gateCall (fun _ _ => True) none calls := Steps.meets_of_forall (fun _ _ => trivial) calls none
  obtain ⟨hg, hp⟩ :=
    Steps.exec_invariant (I := fun L => Good L ∧ Stored L) (fun _ _ _ h _ hc => gateCall_keeps h hc) calls none L
    ⟨good_none, stored_none⟩ hmeets hrun
  rw [← lfilter_inside_iff]
  refine ⟨fun h => h.inside, fun hinside => ⟨fun fd => ?_, fun h uc huc => (hp h uc huc).1, hinside, ?_, ?_⟩⟩
  · rw [entries_eq hg hp]
    exact Option.length_toList_le
  · intro L' r hok fd hne h
    obtain ⟨⟨hg', hp'⟩, hother, -⟩ := lfilter_spec hg hp hok
    rw [entriesIn_eq hg' hp', entriesIn_eq hg hp, hother fd hne]
  · intro L' r hok fd he h
    obtain ⟨⟨hg', hp'⟩, -, hended⟩ := lfilter_spec hg hp hok
    rw [entriesIn_eq hg' hp', hended fd he]
    exact ite_self _

/-- Two connections of one chain, the first bytes of a frame from each, and the end of the first: the other's entry stays. -/
theorem tableKept_iff_fitsHeader_one_chain :
    ∃ L L' : Option Queue,
      Steps.exec gateCall none [.lfilter false (.data 1 [130]), .lfilter false (.data 4096 [130]), .lpop] = some L ∧
        lfilter L false (.close 1) = .ok (L', .close 1) ∧ TableKept L false (.close 1) ∧
          entriesIn L' 4096 1 = entriesIn L 4096 1 ∧
          (entriesIn L 4096 1).length = 1 ∧ (entriesIn L 1 1).length = 1 ∧ entriesIn L' 1 1 = [] := by
  obtain ⟨L, hrun, h1, h2⟩ : ∃ L,
    Steps.exec gateCall none [.lfilter false (.data 1 [130]), .lfilter false (.data 4096 [130]), .lpop] = some L ∧
      (entriesIn L 4096 1).length = 1 ∧ (entriesIn L 1 1).length = 1 := by
    have hlen : (Steps.exec gateCall none [.lfilter false (.data 1 [130]), .lfilter false (.data 4096 [130]), .lpop]).map
      (fun L =>
        ((entriesIn L 4096 1).length, (entriesIn L 1 1).length)) = some (1, 1) := by decide +kernel
    obtain ⟨L, hL, he⟩ := Option.map_eq_some_iff.1 hlen
    simp only [Prod.mk.injEq] at he
    exact ⟨L, hL, he⟩
  have hkept := (tableKept_iff_fitsHeader _ L hrun false (.close 1)).2 trivial
  exact ⟨L, _, hrun, rfl, hkept, hkept.others _ _ rfl 4096 (by decide) 1, h1, h2, hkept.ended _ _ rfl 1 (Or.inl rfl) 1⟩

/-- The header of a frame that declares 2^32 - 1 bytes. -/
def longestHeader : List UInt8 := [129, 127, 0, 0, 0, 0, 255, 255, 255, 255]

/-- The longest header declares a length that becomes -1, with any bytes behind it. -/
theorem readsIncomplete_longestHeader (payload : List UInt8) : readsIncomplete (longestHeader ++ payload) = true := by
  have hlong : ¬(longestHeader ++ payload).length < headLength 127 := by
    rw [List.length_append]
    exact Nat.not_lt.2 (Nat.le_add_right 10 _)
  have hanswer : answer (longestHeader ++ payload) = .frame (2 ^ 32 - 1) ⟨10, Mask.zero, false⟩ := by
    unfold longestHeader at hlong ⊢
    rw [List.cons_append, List.cons_append] at hlong ⊢
    rw [answer, if_neg (by decide), if_neg (by decide), if_neg hlong]
    rfl
  unfold readsIncomplete
  rw [hanswer]
  decide

theorem nextPack_longestHeader (payload : List UInt8) :
    (nextPack (longestHeader ++ payload) false).2.2 = longestHeader ++ payload := by
  rw [nextPack_false, readFrameSize_eq_self]
  rw [readSize_of_readsIncomplete (readsIncomplete_longestHeader payload)]
  decide

/-- Behind the entry of the first connection may be that of the second, and a frame that declares 2^32 - 1
bytes is written over it. -/
theorem entry_overwritten :
    ¬∀ (calls : List GateCall) (L : Option Queue), Steps.exec gateCall none calls = some L →
      ∀ (hs : Bool) (m : SocketMessage),
      TableKept L hs m := by
  intro h
  obtain ⟨L, hrun, hfind⟩ : ∃ L, Steps.exec gateCall none [.lfilter false (.data 2 [130])] = some L ∧
    (findUncomplete L 1).isNone :=
    ⟨_, rfl, rfl⟩
  have hinside := (h _ L hrun false (.data 1 (longestHeader ++ List.replicate 4096 0))).inside
  have hroom : hasRoom false ((findUncomplete L 1).map Prod.fst) (longestHeader ++ List.replicate 4096 0) :=
    (lfilter_inside_iff L false _).1 hinside
  rw [Option.isNone_iff_eq_none.1 hfind] at hroom
  have hframe : frameRoom (longestHeader ++ List.replicate 4096 0) := hroom rfl
  rw [frameRoom_iff, nextPack_longestHeader] at hframe
  have hlong := hframe.1 (readsIncomplete_longestHeader _)
  rw [List.length_append, List.length_replicate] at hlong
  exact absurd hlong (by decide)

end SasyServer.Websocket
