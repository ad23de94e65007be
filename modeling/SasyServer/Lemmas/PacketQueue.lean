import SasyServer.Websocket.Frames

/-!
# What the operations do to the packet queue

Two views of the queue carry every statement about it: the packets in the ring, oldest first (`packets`), and the unfinished
packet of a connection (`pending`). `Touches` says what an operation on behalf of one connection may do to them: add packets
at the end, and change that connection's unfinished packet. Everything `filterData` does is such a change, whatever the bytes
are (`filterData_serves`).
-/

namespace SasyServer.Websocket

/-- The packets in the ring, the oldest first. -/
def packets (L : Option Queue) : List NetPack := (getQueue L).toRingBuffer.toList

/-- The unfinished packet of a connection. -/
def pending (L : Option Queue) (fd : Nat) : Option Uncomplete :=
  ((getQueue L).hash (hashFd fd)).find? fun uc => uc.pack.id = fd

/-- The ring's indices are on the circle, and no chain has two entries of one connection. -/
structure Good (L : Option Queue) : Prop where
  ring : (getQueue L).toRingBuffer.WF
  nodup : ∀ h, (((getQueue L).hash h).map fun uc => uc.pack.id).Nodup

/-- `L'` is `L` after work for the connection `fd`: packets were added and its unfinished packet is now `entry`. -/
structure Touches (L L' : Option Queue) (fd : Nat) (added : List NetPack) (entry : Option Uncomplete) : Prop where
  good : Good L'
  packets : packets L' = packets L ++ added
  self : pending L' fd = entry
  other : ∀ fd', fd' ≠ fd → pending L' fd' = pending L fd'

/-- No queue yet, and a queue with nothing in it, are good. -/
theorem good_none : Good none := ⟨⟨by decide, by decide⟩, fun _ => List.nodup_nil⟩

theorem packets_none : packets none = [] := rfl

theorem Touches.refl {L : Option Queue} (h : Good L) (fd : Nat) : Touches L L fd [] (pending L fd) :=
  ⟨h, by simp, rfl, fun _ _ => rfl⟩

/-- Work after work. -/
theorem Touches.trans {L L' L'' : Option Queue} {fd : Nat} {a b : List NetPack} {e e' : Option Uncomplete}
    (h : Touches L L' fd a e) (h' : Touches L' L'' fd b e') : Touches L L'' fd (a ++ b) e' :=
  ⟨h'.good, by
    rw [h'.packets, h.packets, List.append_assoc], h'.self, fun fd' hne => (h'.other fd' hne).trans (h.other fd' hne)⟩

/-! ## The table of unfinished packets -/

/-- Taking an entry out of a chain: it was the one `find?` gives. -/
theorem unlink_eq_some {fd : Nat} {c c' : List Uncomplete} {uc : Uncomplete} (h : unlink fd c = some (uc, c')) :
    c.find? (fun u => u.pack.id = fd) = some uc ∧ uc.pack.id = fd ∧ c.Perm (uc :: c') ∧
      ∀ fd', fd' ≠ fd → c'.find? (fun u => u.pack.id = fd') = c.find? fun u => u.pack.id = fd' := by
  induction c generalizing c' with
  | nil => cases h
  | cons u c ih =>
    unfold unlink at h
    split at h
    · rename_i hu
      simp only [Option.some.injEq, Prod.mk.injEq] at h
      obtain ⟨rfl, rfl⟩ := h
      refine ⟨by simp [hu], hu, List.Perm.refl _, ?_⟩
      intro fd' hne
      rw [List.find?_cons_of_neg]
      simp [hu, Ne.symm hne]
    · rename_i hu
      rw [Option.map_eq_some_iff] at h
      obtain ⟨⟨v, d⟩, hv, hd⟩ := h
      simp only [Prod.mk.injEq] at hd
      obtain ⟨rfl, rfl⟩ := hd
      obtain ⟨h1, h2, h3, h4⟩ := ih hv
      refine ⟨by rw [List.find?_cons_of_neg (by simp [hu])]; exact h1, h2,
        (h3.cons u).trans (List.Perm.swap v u d), fun fd' hne => ?_⟩
      by_cases hc : u.pack.id = fd'
      · rw [List.find?_cons_of_pos (by simp [hc]), List.find?_cons_of_pos (by simp [hc])]
      · rw [List.find?_cons_of_neg (by simp [hc]), List.find?_cons_of_neg (by simp [hc])]
        exact h4 fd' hne

/-- The entry and the rest of the chain were in the chain. -/
theorem mem_of_unlink {fd : Nat} {c c' : List Uncomplete} {uc : Uncomplete} (h : unlink fd c = some (uc, c')) :
    uc ∈ c ∧ ∀ u ∈ c', u ∈ c := by
  have hperm := (unlink_eq_some h).2.2.1
  exact ⟨hperm.mem_iff.2 List.mem_cons_self, fun u hu => hperm.mem_iff.2 (List.mem_cons_of_mem _ hu)⟩

/-- A chain from which nothing is unlinked has no entry of the connection. -/
theorem unlink_eq_none {fd : Nat} {c : List Uncomplete} (h : unlink fd c = none) :
    c.find? (fun u => u.pack.id = fd) = none := by
  induction c with
  | nil => rfl
  | cons u c ih =>
    unfold unlink at h
    split at h
    · cases h
    · rename_i hu
      rw [Option.map_eq_none_iff] at h
      rw [List.find?_cons_of_neg (by simp [hu])]
      exact ih h

/-- No entry is found exactly when the connection has none. -/
theorem pending_of_find_none {L : Option Queue} {fd : Nat} (h : findUncomplete L fd = none) : pending L fd = none := by
  cases L with
  | none => rfl
  | some q =>
    simp only [findUncomplete, Option.bind_some, Option.map_eq_none_iff] at h
    exact unlink_eq_none h

/-- Finding an entry takes it out of the table. -/
theorem touches_find {L : Option Queue} {fd : Nat} {uc : Uncomplete} {q : Queue} (hg : Good L)
    (h : findUncomplete L fd = some (uc, q)) :
    pending L fd = some uc ∧ uc.pack.id = fd ∧ Touches L (some q) fd [] none := by
  cases L with
  | none => cases h
  | some q₀ =>
    simp only [findUncomplete, Option.bind_some, Option.map_eq_some_iff] at h
    obtain ⟨⟨v, c'⟩, hv, hq⟩ := h
    simp only [Prod.mk.injEq] at hq
    obtain ⟨rfl, rfl⟩ := hq
    obtain ⟨h1, h2, h3, h4⟩ := unlink_eq_some hv
    have hnd : ((v :: c').map fun u => u.pack.id).Nodup := (h3.map _).nodup_iff.1 (hg.nodup (hashFd fd))
    rw [List.map_cons, List.nodup_cons] at hnd
    refine ⟨h1, h2, ⟨hg.ring, ?_⟩, by simp [packets, getQueue], ?_, ?_⟩
    · intro i
      simp only [getQueue]
      by_cases hi : i = hashFd fd
      · subst hi
        rw [Function.update_self]
        exact hnd.2
      · rw [Function.update_of_ne hi]
        exact hg.nodup i
    · simp only [pending, getQueue, Function.update_self, List.find?_eq_none, decide_eq_true_eq]
      intro u hu he
      exact hnd.1 (List.mem_map.2 ⟨u, hu, he.trans h2.symm⟩)
    · intro fd' hne
      simp only [pending, getQueue]
      by_cases hi : hashFd fd' = hashFd fd
      · rw [hi, Function.update_self]
        exact h4 fd' hne
      · rw [Function.update_of_ne hi]

theorem find_none_of_pending {L : Option Queue} {fd : Nat} (hg : Good L)
    (h : pending L fd = none) : findUncomplete L fd = none := by
  cases hf : findUncomplete L fd with
  | none => rfl
  | some x =>
    rw [(touches_find hg hf).1] at h
    cases h

/-- The unfinished packet of a connection is found, and taken out of the hash. -/
theorem find_some_of_pending {L : Option Queue} {fd : Nat} {uc : Uncomplete} (hg : Good L) (h : pending L fd = some uc) :
    ∃ q, findUncomplete L fd = some (uc, q) ∧ Touches L (some q) fd [] none := by
  cases hf : findUncomplete L fd with
  | none =>
    rw [pending_of_find_none hf] at h
    cases h
  | some x =>
    obtain ⟨hu, -, t⟩ := touches_find hg hf
    rw [h, Option.some.injEq] at hu
    exact ⟨x.2, by rw [hu], t⟩

/-- Storing an entry of a connection that has none. -/
theorem touches_save {L : Option Queue} (uc : Uncomplete) {fd : Nat} (hg : Good L) (hid : uc.pack.id = fd)
    (hp : pending L fd = none) : Touches L (some (saveUncomplete L uc)) fd [] (some uc) := by
  subst hid
  refine ⟨⟨hg.ring, ?_⟩, by simp [packets, getQueue, saveUncomplete], ?_, ?_⟩
  · intro i
    simp only [getQueue, saveUncomplete]
    by_cases hi : i = hashFd uc.pack.id
    · subst hi
      rw [Function.update_self, List.map_cons, List.nodup_cons]
      refine ⟨?_, hg.nodup _⟩
      intro hm
      obtain ⟨u, hu, he⟩ := List.mem_map.1 hm
      exact absurd he (by simpa using List.find?_eq_none.1 hp u hu)
    · rw [Function.update_of_ne hi]
      exact hg.nodup i
  · simp [pending, getQueue, saveUncomplete]
  · intro fd' hne
    simp only [pending, getQueue, saveUncomplete]
    by_cases hi : hashFd fd' = hashFd uc.pack.id
    · rw [hi, Function.update_self, List.find?_cons_of_neg (by simp [Ne.symm hne])]
    · rw [Function.update_of_ne hi]

/-- A packet goes to the end of the ring and the table is as it was. -/
theorem touches_push {L : Option Queue} (fd : Nat) (buffer : List UInt8) (size : Int) (hg : Good L) :
    Touches L (some (pushData L fd buffer size)) fd [⟨fd, size, buffer⟩] (pending L fd) :=
  ⟨⟨hg.ring.push (by decide) _, hg.nodup⟩, RingBuffer.toList_push hg.ring (by decide) _, rfl, fun _ _ => rfl⟩

/-- Closing takes the connection's entry out, if there is one. -/
theorem touches_close {L : Option Queue} (fd : Nat) (hg : Good L) : Touches L (closeUncomplete L fd) fd [] none := by
  unfold closeUncomplete
  split
  · rename_i uc q h
    exact (touches_find hg h).2.2
  · rename_i h
    have := Touches.refl hg fd
    rwa [pending_of_find_none h] at this

/-! ## `filterData`, whatever the bytes are -/

/-- The answer is about the connection, if it is about one. -/
def Result.Concerns (fd : Nat) : Result → Prop
  | .data fd' _ _ => fd' = fd
  | .wsclose fd' => fd' = fd
  | _ => True

/-- What a call does for a connection with the entry `entry` depends on nothing else in the queue: it faults, or it
adds certain packets of the connection, which it reports with `more`, and leaves a certain entry. The call is given
`x`, and the queue is `q x`. -/
def Serves {α : Type} (q : α → Option Queue) (fd : Nat) (entry : Option Uncomplete)
    (call : α → Except Fault (Option Queue × Result)) : Prop :=
  (∃ fault, ∀ x, Good (q x) → pending (q x) fd = entry → call x = .error fault) ∨
    ∃ added e r, (∀ p ∈ added, p.id = fd) ∧ (r ≠ .more → added = []) ∧ r.Concerns fd ∧
      ∀ x, Good (q x) → pending (q x) fd = entry → ∃ L', call x = .ok (L', r) ∧ Touches (q x) L' fd added e

/-- The same for a part of a call, on a queue in which the connection has no entry. -/
def Adds (fd : Nat) (part : Option Queue → Except Fault (Option Queue)) : Prop :=
  (∃ fault, ∀ L, part L = .error fault) ∨
    ∃ added e, (∀ p ∈ added, p.id = fd) ∧
      ∀ L, Good L → pending L fd = none → ∃ L', part L = .ok L' ∧ Touches L L' fd added e

/-- A packet is pushed before it. -/
theorem Adds.push {fd : Nat} {part : Option Queue → Except Fault (Option Queue)} (h : Adds fd part) (buffer : List UInt8)
    (size : Int) : Adds fd fun L => part (some (pushData L fd buffer size)) := by
  rcases h with ⟨fault, hf⟩ | ⟨added, e, hid, hf⟩
  · exact Or.inl ⟨fault, fun L => hf _⟩
  · refine Or.inr ⟨⟨fd, size, buffer⟩ :: added, e, ?_, ?_⟩
    · intro p hp
      rcases List.mem_cons.1 hp with rfl | hp
      · rfl
      · exact hid p hp
    · intro L hg hp
      have t := touches_push fd buffer size hg
      obtain ⟨L', hL', t'⟩ := hf _ t.good (t.self.trans hp)
      exact ⟨L', hL', t.trans t'⟩

/-- An entry is stored. -/
theorem adds_save {fd : Nat} {uc : Uncomplete} (hid : uc.pack.id = fd) : Adds fd fun L => .ok (some (saveUncomplete L uc)) :=
  Or.inr ⟨[], _, by simp, fun _ hg hp => ⟨_, rfl, touches_save uc hg hid hp⟩⟩

theorem adds_self (fd : Nat) : Adds fd fun L => .ok L :=
  Or.inr ⟨[], none, by simp, fun _ hg hp => ⟨_, rfl, hp ▸ Touches.refl hg fd⟩⟩

/-- A header is stored whole, or cut, or does not fit. -/
theorem saveHeader_cases (fd : Nat) (buffer : List UInt8) (hs : Bool) :
    (∃ fault, ∀ L, saveHeader L fd buffer hs = .error fault) ∨
      ∃ uc, uc.pack.id = fd ∧ ∀ L, saveHeader L fd buffer hs = .ok (some (saveUncomplete L uc)) := by
  unfold saveHeader
  simp only
  split_ifs
  · exact Or.inr ⟨_, rfl, fun _ => rfl⟩
  · exact Or.inl ⟨_, fun _ => rfl⟩
  · exact Or.inr ⟨_, rfl, fun _ => rfl⟩

/-- `pushMore` adds packets of the connection and stores at most one entry of it, the same whatever else is in the queue. -/
theorem pushMore_adds (fd : Nat) (buffer : List UInt8) (hs : Bool) : Adds fd fun L => pushMore L fd buffer hs := by
  induction hn : buffer.length using Nat.strong_induction_on generalizing buffer with
  | _ n ih =>
    subst hn
    unfold pushMore
    simp only
    split_ifs with h1 h2 hneg hrest
    · rcases saveHeader_cases fd (nextPack buffer hs).2.2 hs with h | ⟨uc, hid, hf⟩
      · exact Or.inl h
      · simp only [hf]
        exact adds_save hid
    · exact adds_save rfl
    · exact Or.inl ⟨_, fun _ => rfl⟩
    · exact (ih _ (nextPack_lt (Int.not_lt.mp hneg)) _ rfl).push _ _
    · exact (adds_self fd).push _ _

section Calls

variable {α : Type} {q : α → Option Queue}

/-- A call that ends with such a part. -/
theorem Adds.serves {fd : Nat} {part : Option Queue → Except Fault (Option Queue)} (h : Adds fd part) :
    Serves q fd none fun x => (part (q x)).map fun L => (L, Result.more) := by
  rcases h with ⟨fault, hf⟩ | ⟨added, e, hid, hf⟩
  · exact Or.inl ⟨fault, fun x _ _ => by simp only [hf, Except.map]⟩
  · refine Or.inr ⟨added, e, .more, hid, by simp, trivial, ?_⟩
    intro x hg hp
    obtain ⟨L', hL', t⟩ := hf _ hg hp
    exact ⟨L', by simp only [hL', Except.map], t⟩

/-- A call that only stores an entry. -/
theorem serves_save {fd : Nat} {uc : Uncomplete} (hid : uc.pack.id = fd) :
    Serves q fd none fun x => .ok (some (saveUncomplete (q x) uc), .none) :=
  Or.inr ⟨[], _, .none, by simp, by simp, trivial, fun _ hg hp => ⟨_, rfl, touches_save uc hg hid hp⟩⟩

/-- A call that closes the connection. -/
theorem serves_close (fd : Nat) : Serves q fd none fun x => .ok (closeUncomplete (q x) fd, .wsclose fd) :=
  Or.inr ⟨[], _, .wsclose fd, by simp, by simp, rfl, fun _ hg _ => ⟨_, rfl, touches_close fd hg⟩⟩

/-- A call that answers with a packet and leaves the queue alone. -/
theorem serves_data (fd : Nat) (buffer : List UInt8) (size : Int) :
    Serves q fd none fun x => .ok (q x, .data fd buffer size) :=
  Or.inr ⟨[], none, .data fd buffer size, by simp, by simp, rfl, fun _ hg hp => ⟨_, rfl, hp ▸ Touches.refl hg fd⟩⟩

/-- A call that faults. -/
theorem serves_error {fd : Nat} {entry : Option Uncomplete} (fault : Fault) : Serves q fd entry fun _ => .error fault :=
  Or.inl ⟨fault, fun _ _ _ => rfl⟩

end Calls

/-- The body is filled up: the packet is complete or goes back into the hash. -/
theorem fillPack_serves {fd : Nat} {uc : Uncomplete} (buffer : List UInt8) (hs : Bool) (hid : uc.pack.id = fd) :
    Serves some fd none fun q => fillPack q fd uc buffer hs := by
  unfold fillPack
  simp only
  split_ifs
  · refine serves_save (q := some) ?_
    exact hid
  · exact serves_data (q := some) fd _ _
  · exact ((pushMore_adds fd _ hs).push _ _).serves (q := some)

/-- The unfinished packet goes on with its header or its body. -/
theorem filterUncomplete_serves {fd : Nat} {uc : Uncomplete} (buffer : List UInt8) (hs : Bool) (hid : uc.pack.id = fd) :
    Serves some fd none fun q => filterUncomplete q fd uc buffer hs := by
  unfold filterUncomplete
  by_cases hr : uc.read < 0
  · simp only [if_pos hr]
    cases hf : fillHeader hs uc.header buffer with
    | error fault => exact serves_error fault
    | ok p =>
      simp only [Except.bind]
      split_ifs
      · refine serves_save (q := some) ?_
        exact hid
      · exact serves_close (q := some) fd
      · exact serves_error _
      · refine fillPack_serves _ hs ?_
        exact hid
      · refine fillPack_serves _ hs ?_
        exact hid
  · simp only [if_neg hr]
    exact fillPack_serves buffer hs hid

/-- Without an unfinished packet the buffer begins with a header. -/
theorem filterFresh_serves (fd : Nat) (buffer : List UInt8) (hs : Bool) :
    Serves id fd none fun L => filterFresh L fd buffer hs := by
  unfold filterFresh
  simp only
  split_ifs
  · rcases saveHeader_cases fd (nextPack buffer hs).2.2 hs with ⟨fault, hf⟩ | ⟨uc, hid, hf⟩
    · simp only [hf]
      exact serves_error fault
    · simp only [hf]
      exact serves_save (q := id) hid
  · exact serves_close (q := id) fd
  · exact serves_save (q := id) rfl
  · exact serves_data (q := id) fd _ _
  · exact serves_error _
  · exact ((pushMore_adds fd _ hs).push _ _).serves (q := id)

/-- Whatever bytes a connection sends, what `filterData` does with them depends on the connection's own entry alone, and it
leaves the entries of the others and the packets in the ring alone. -/
theorem filterData_serves (fd : Nat) (entry : Option Uncomplete) (buffer : List UInt8) (hs : Bool) :
    Serves id fd entry fun L => filterData L fd buffer hs := by
  cases entry with
  | none =>
    have he : ∀ L, Good L → pending L fd = none → filterData L fd buffer hs = filterFresh L fd buffer hs := by
      intro L hg hp
      unfold filterData
      rw [find_none_of_pending hg hp]
    rcases filterFresh_serves fd buffer hs with ⟨fault, hf⟩ | ⟨added, e, r, hid, hr, hc, hf⟩
    · exact Or.inl ⟨fault, fun L hg hp => (he L hg hp).trans (hf L hg hp)⟩
    · refine Or.inr ⟨added, e, r, hid, hr, hc, ?_⟩
      intro L hg hp
      obtain ⟨L', hL', t⟩ := hf L hg hp
      exact ⟨L', (he L hg hp).trans hL', t⟩
  | some uc =>
    by_cases hid : uc.pack.id = fd
    · have he : ∀ L, Good L → pending L fd = some uc →
          ∃ q, filterData L fd buffer hs = filterUncomplete q fd uc buffer hs ∧ Touches L (some q) fd [] none := by
        intro L hg hp
        obtain ⟨q, hq, t⟩ := find_some_of_pending hg hp
        refine ⟨q, ?_, t⟩
        unfold filterData
        rw [hq]
      rcases filterUncomplete_serves buffer hs hid with ⟨fault, hf⟩ | ⟨added, e, r, hids, hr, hc, hf⟩
      · refine Or.inl ⟨fault, ?_⟩
        intro L hg hp
        obtain ⟨q, hq, t⟩ := he L hg hp
        exact hq.trans (hf q t.good t.self)
      · refine Or.inr ⟨added, e, r, hids, hr, hc, ?_⟩
        intro L hg hp
        obtain ⟨q, hq, t⟩ := he L hg hp
        obtain ⟨L', hL', t'⟩ := hf q t.good t.self
        exact ⟨L', hq.trans hL', t.trans t'⟩
    · -- no queue has such an entry for the connection
      refine Or.inl ⟨.headerOverflow, ?_⟩
      intro L hg hp
      obtain ⟨q, hq, -⟩ := find_some_of_pending hg hp
      exact absurd (touches_find hg hq).2.1 hid

/-! ## Taking the queue apart -/

/-- The outputs of an answer other than `more`. -/
def Result.outs : Result → List Out
  | .data fd buffer size => [.data fd buffer size]
  | .wsclose fd => [.wsclose fd]
  | _ => []

theorem Result.fd_of_mem_outs {r : Result} {fd : Nat} (hc : r.Concerns fd) : ∀ o ∈ r.outs, o.fd = fd := by
  cases r with
  | none => simp [Result.outs]
  | more => simp [Result.outs]
  | data fd' buffer size => simpa [Result.outs, Out.fd, Result.Concerns] using hc
  | wsclose fd' => simpa [Result.outs, Out.fd, Result.Concerns] using hc

/-- A pop takes the oldest packet and leaves the table of unfinished packets. -/
theorem lpop_eq_some {L L' : Option Queue} {p : NetPack} (hg : Good L) (h : lpop L = some (p, L')) :
    Good L' ∧ packets L = p :: packets L' ∧ ∀ fd, pending L' fd = pending L fd := by
  cases L with
  | none => cases h
  | some q =>
    simp only [lpop, Option.bind_some, Option.map_eq_some_iff] at h
    obtain ⟨⟨x, r⟩, hr, hx⟩ := h
    simp only [Prod.mk.injEq] at hx
    obtain ⟨rfl, rfl⟩ := hx
    obtain ⟨hwf, hl⟩ := RingBuffer.pop_eq_some hg.ring hr
    exact ⟨⟨hwf, hg.nodup⟩, hl, fun _ => rfl⟩

/-- Whether there is a packet or not, a pop leaves the table. -/
theorem hash_lpop (L : Option Queue) : (getQueue ((lpop L).elim L Prod.snd)).hash = (getQueue L).hash := by
  cases L with
  | none => rfl
  | some q =>
    unfold lpop
    rw [Option.bind_some]
    cases q.toRingBuffer.pop with
    | none => rfl
    | some p => rfl

/-- Nothing is popped only from a queue without packets. -/
theorem lpop_eq_none {L : Option Queue} (hg : Good L) (h : lpop L = none) : packets L = [] := by
  cases L with
  | none => rfl
  | some q =>
    simp only [lpop, Option.bind_some, Option.map_eq_none_iff] at h
    exact (RingBuffer.pop_eq_none hg.ring).1 h

/-- All packets are popped, oldest first, and the unfinished ones stay. -/
theorem popAll_spec {n : Nat} {L : Option Queue} (hg : Good L) (hn : (packets L).length ≤ n) :
    (popAll n L).1 = packets L ∧ Good (popAll n L).2 ∧ packets (popAll n L).2 = [] ∧
      ∀ fd, pending (popAll n L).2 fd = pending L fd := by
  induction n generalizing L with
  | zero =>
    have h0 : packets L = [] := List.length_eq_zero_iff.1 (Nat.le_zero.1 hn)
    exact ⟨h0.symm, hg, h0, fun _ => rfl⟩
  | succ n ih =>
    unfold popAll
    cases hp : lpop L with
    | none =>
      have h0 := lpop_eq_none hg hp
      exact ⟨h0.symm, hg, h0, fun _ => rfl⟩
    | some x =>
      obtain ⟨p, L'⟩ := x
      obtain ⟨hg', hl, hpend⟩ := lpop_eq_some hg hp
      rw [hl, List.length_cons, Nat.add_le_add_iff_right] at hn
      obtain ⟨h1, h2, h3, h4⟩ := ih hg' hn
      exact ⟨by rw [hl]; simp only [h1], h2, h3, fun fd => (h4 fd).trans (hpend fd)⟩

theorem length_packets_le {L : Option Queue} (hg : Good L) : (packets L).length ≤ capacity L := by
  cases L with
  | none => simp [packets_none, capacity]
  | some q =>
    rw [packets, RingBuffer.length_toList]
    exact Nat.le_of_lt (RingBuffer.count_lt hg.ring)

/-- One chunk of a connection with the entry `entry`, from a queue without packets. What it leads to depends on the entry
alone: a fault, or certain outputs, all for the chunk's connection, and a certain new entry. The queue has no packets
afterwards, and the entries of the other connections are as they were. -/
theorem feed_determined (c : Chunk) (entry : Option Uncomplete) :
    (∃ fault, ∀ L, Good L → packets L = [] → pending L c.fd = entry → feed L c = .error fault) ∨
      ∃ outs e, (∀ o ∈ outs, o.fd = c.fd) ∧ ∀ L, Good L → packets L = [] → pending L c.fd = entry →
        ∃ L', feed L c = .ok (L', outs) ∧ Good L' ∧ packets L' = [] ∧ pending L' c.fd = e ∧
          ∀ fd, fd ≠ c.fd → pending L' fd = pending L fd := by
  rcases filterData_serves c.fd entry c.bytes c.handeshake with ⟨fault, hf⟩ | ⟨added, e, r, hid, hr, hc, hf⟩
  · refine Or.inl ⟨fault, ?_⟩
    intro L hg h0 hp
    unfold feed
    simp only [hf L hg hp, Except.map]
  by_cases hmore : r = .more
  · subst hmore
    refine Or.inr ⟨added.map NetPack.out, e, ?_, ?_⟩
    · intro o ho
      obtain ⟨p, hp, rfl⟩ := List.mem_map.1 ho
      exact hid p hp
    · intro L hg h0 hp
      obtain ⟨L₁, hL₁, t⟩ := hf L hg hp
      have hpk := t.packets
      simp only [id] at t hpk
      rw [h0, List.nil_append] at hpk
      obtain ⟨h1, h2, h3, h4⟩ := popAll_spec t.good (length_packets_le t.good)
      refine ⟨_, ?_, h2, h3, (h4 _).trans t.self, fun fd hne => (h4 fd).trans (t.other fd hne)⟩
      unfold feed
      simp only [hL₁, Except.map, h1, hpk]
  · refine Or.inr ⟨r.outs, e, Result.fd_of_mem_outs hc, ?_⟩
    intro L hg h0 hp
    obtain ⟨L₁, hL₁, t⟩ := hf L hg hp
    have hpk := t.packets
    simp only [id] at t hpk
    rw [h0, hr hmore] at hpk
    refine ⟨L₁, ?_, t.good, hpk, t.self, t.other⟩
    unfold feed
    simp only [hL₁, Except.map]
    cases r with
    | more => exact absurd rfl hmore
    | none => rfl
    | data fd buffer size => rfl
    | wsclose fd => rfl

/-- One chunk, from a queue without packets: there are none afterwards either, the entries of the other connections are as
they were, and all the outputs are for the chunk's connection. -/
theorem feed_serves {L L' : Option Queue} {c : Chunk} {outs : List Out} (hg : Good L) (h0 : packets L = [])
    (h : feed L c = .ok (L', outs)) :
    Good L' ∧ packets L' = [] ∧ (∀ fd, fd ≠ c.fd → pending L' fd = pending L fd) ∧ ∀ o ∈ outs, o.fd = c.fd := by
  rcases feed_determined c (pending L c.fd) with ⟨fault, hf⟩ | ⟨outs', e, hfd, hf⟩
  · rw [hf L hg h0 rfl] at h
    cases h
  · obtain ⟨L₁, hL₁, hg₁, h0₁, -, hother⟩ := hf L hg h0 rfl
    rw [hL₁] at h
    cases h
    exact ⟨hg₁, h0₁, hother, hfd⟩

/-- The chunks of one connection do the same to two queues in which the connection has the same entry. -/
theorem run_alike {L M : Option Queue} {fd : Nat} {cs : List Chunk} (hfd : ∀ c ∈ cs, c.fd = fd) (hL : Good L) (hM : Good M)
    (h0L : packets L = []) (h0M : packets M = []) (hp : pending L fd = pending M fd) {x : Option Queue × List Out}
    (h : run L cs = .ok x) : ∃ M', run M cs = .ok (M', x.2) := by
  induction cs generalizing L M x with
  | nil =>
    cases h
    exact ⟨M, rfl⟩
  | cons c cs ih =>
    obtain rfl : c.fd = fd := hfd c (by simp)
    rcases feed_determined c (pending M c.fd) with ⟨fault, hf⟩ | ⟨outs, e, -, hf⟩
    · simp only [run, hf L hL h0L hp, Except.bind] at h
      cases h
    · obtain ⟨L₁, hL₁, hgL, h0L₁, hpL, -⟩ := hf L hL h0L hp
      obtain ⟨M₁, hM₁, hgM, h0M₁, hpM, -⟩ := hf M hM h0M rfl
      cases hr : run L₁ cs with
      | error fault =>
        simp only [run, hL₁, Except.bind, hr, Except.map] at h
        cases h
      | ok y =>
        simp only [run, hL₁, Except.bind, hr, Except.map, Except.ok.injEq] at h
        obtain ⟨M', hM'⟩ := ih (fun d hd => hfd d (List.mem_cons_of_mem _ hd)) hgL hgM h0L₁ h0M₁ (hpL.trans hpM.symm) hr
        exact ⟨M', by simp only [run, hM₁, Except.bind, hM', Except.map, ← h]⟩

end SasyServer.Websocket
