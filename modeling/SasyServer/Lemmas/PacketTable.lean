import SasyServer.Lemmas.FramePlaces

/-!
# How the unfinished packets are stored

Every place that stores an entry does so in the chain of its connection, and with a header that fits into its buffer, or the
call faults. One lemma for each operation, and with them a chunk keeps both (`Stored.filterData`).
-/

namespace SasyServer.Websocket

/-- Every entry is in the chain of its connection, and its header fits into its buffer. -/
def Stored (L : Option Queue) : Prop :=
  ∀ h, ∀ uc ∈ (getQueue L).hash h, hashFd uc.pack.id = h ∧ uc.header.length ≤ headerSize

theorem stored_none : Stored none := fun _ _ huc => by cases huc

/-- A packet in the ring changes nothing in the table. -/
theorem Stored.push {L : Option Queue} (h : Stored L) (fd : Nat) (buffer : List UInt8) (size : Int) :
    Stored (some (pushData L fd buffer size)) := h

/-- An entry is stored in the chain of its connection. -/
theorem Stored.save {L : Option Queue} (h : Stored L) {uc : Uncomplete} (huc : uc.header.length ≤ headerSize) :
    Stored (some (saveUncomplete L uc)) := by
  intro i u hu
  simp only [getQueue, saveUncomplete] at hu
  by_cases hi : i = hashFd uc.pack.id
  · subst hi
    rw [Function.update_self] at hu
    rcases List.mem_cons.1 hu with rfl | hu
    · exact ⟨rfl, huc⟩
    · exact h _ u hu
  · rw [Function.update_of_ne hi] at hu
    exact h i u hu

/-- What a lookup takes out fits, and what it leaves is stored. -/
theorem Stored.find {L : Option Queue} (h : Stored L) {fd : Nat} {uc : Uncomplete} {q : Queue}
    (hfind : findUncomplete L fd = some (uc, q)) : uc.header.length ≤ headerSize ∧ Stored (some q) := by
  cases L with
  | none => cases hfind
  | some q₀ =>
    simp only [findUncomplete, Option.bind_some, Option.map_eq_some_iff] at hfind
    obtain ⟨⟨v, c'⟩, hv, hq⟩ := hfind
    simp only [Prod.mk.injEq] at hq
    obtain ⟨rfl, rfl⟩ := hq
    obtain ⟨hmem, hsub⟩ := mem_of_unlink hv
    refine ⟨(h _ v hmem).2, fun i u hu => ?_⟩
    simp only [getQueue] at hu
    by_cases hi : i = hashFd fd
    · subst hi
      rw [Function.update_self] at hu
      exact h _ u (hsub u hu)
    · rw [Function.update_of_ne hi] at hu
      exact h i u hu

theorem Stored.close {L : Option Queue} (h : Stored L) (fd : Nat) : Stored (closeUncomplete L fd) := by
  unfold closeUncomplete
  split
  · rename_i uc q hfind
    exact (h.find hfind).2
  · exact h

theorem Stored.pop {L : Option Queue} (h : Stored L) : Stored ((lpop L).elim L Prod.snd) := by
  unfold Stored
  rw [hash_lpop]
  exact h

/-- A header is saved only if it fits. -/
theorem Stored.saveHeader {L L' : Option Queue} (h : Stored L) {fd : Nat} {buffer : List UInt8} {hs : Bool}
    (hok : saveHeader L fd buffer hs = .ok L') : Stored L' := by
  unfold Websocket.saveHeader at hok
  simp only at hok
  split_ifs at hok with h1 h2
  · cases hok
    refine h.save ?_
    rw [List.length_take]
    exact Nat.min_le_left _ _
  · cases hok
    exact h.save (Nat.not_lt.1 h2)

/-- By recursion on what is left of the buffer: packets are queued, and at most a rest is saved. -/
theorem Stored.pushMore {fd : Nat} (buffer : List UInt8) {hs : Bool} : ∀ {L L' : Option Queue}, Stored L →
    pushMore L fd buffer hs = .ok L' → Stored L' := by
  induction hn : buffer.length using Nat.strong_induction_on generalizing buffer with
  | _ n ih =>
    subst hn
    intro L L' h hok
    unfold Websocket.pushMore at hok
    simp only at hok
    split_ifs at hok with h1 h2 hneg hrest
    · exact h.saveHeader hok
    · cases hok
      exact h.save (Nat.zero_le _)
    · exact ih _ (nextPack_lt (Int.not_lt.mp hneg)) _ rfl (h.push _ _ _) hok
    · cases hok
      exact h.push _ _ _

/-- The unfinished packet is completed or saved again, with the header it had. -/
theorem Stored.fillPack {q : Queue} {fd : Nat} {uc : Uncomplete} {buffer : List UInt8} {hs : Bool}
    {p : Option Queue × Result} (h : Stored (some q)) (huc : uc.header.length ≤ headerSize)
    (hok : fillPack q fd uc buffer hs = .ok p) : Stored p.1 := by
  unfold Websocket.fillPack at hok
  simp only at hok
  split_ifs at hok
  · cases hok
    exact h.save huc
  · cases hok
    exact h
  · obtain ⟨L', hL', rfl⟩ := map_ok hok
    exact Stored.pushMore _ (h.push _ _ _) hL'

/-- The unfinished packet goes on, and whatever is saved fits. -/
theorem Stored.filterUncomplete {q : Queue} {fd : Nat} {uc : Uncomplete} {buffer : List UInt8} {hs : Bool}
    {p : Option Queue × Result} (h : Stored (some q)) (huc : uc.header.length ≤ headerSize)
    (hok : filterUncomplete q fd uc buffer hs = .ok p) :
    Stored p.1 := by
  unfold Websocket.filterUncomplete at hok
  by_cases hread : uc.read < 0
  swap
  · rw [if_neg hread] at hok
    exact h.fillPack huc hok
  rw [if_pos hread] at hok
  have hheader : ∀ x, fillHeader hs uc.header buffer = .ok x → x.2.2.1.length ≤ headerSize := by
    intro x hx
    by_cases hne : buffer = []
    · subst hne
      rw [fillHeader] at hx
      cases hx
      exact huc
    · rw [fillHeader_eq hs buffer hne] at hx
      split_ifs at hx with hfit
      cases hx
      exact hfit.2
  cases hfill : fillHeader hs uc.header buffer with
  | error fault =>
    rw [hfill] at hok
    cases hok
  | ok x =>
    have hx := hheader x hfill
    rw [hfill] at hok
    simp only [Except.bind] at hok
    split_ifs at hok
    · cases hok
      exact h.save hx
    · cases hok
      exact h.close fd
    · exact h.fillPack (by exact hx) hok
    · exact h.fillPack (by exact hx) hok

/-- A buffer without an unfinished packet. -/
theorem Stored.filterFresh {L : Option Queue} {fd : Nat} {buffer : List UInt8} {hs : Bool} {p : Option Queue × Result}
    (h : Stored L) (hok : filterFresh L fd buffer hs = .ok p) : Stored p.1 := by
  unfold Websocket.filterFresh at hok
  simp only at hok
  split_ifs at hok
  · obtain ⟨L', hL', rfl⟩ := map_ok hok
    exact h.saveHeader hL'
  · cases hok
    exact h.close fd
  · cases hok
    exact h.save (Nat.zero_le _)
  · cases hok
    exact h
  · obtain ⟨L', hL', rfl⟩ := map_ok hok
    exact Stored.pushMore _ (h.push _ _ _) hL'

/-- A chunk, whatever it is, leaves the entries stored. -/
theorem Stored.filterData {L : Option Queue} (h : Stored L) {fd : Nat} {buffer : List UInt8} {hs : Bool}
    {p : Option Queue × Result} (hok : filterData L fd buffer hs = .ok p) :
    Stored p.1 := by
  unfold Websocket.filterData at hok
  cases hfind : findUncomplete L fd with
  | none =>
    rw [hfind] at hok
    exact h.filterFresh hok
  | some x =>
    obtain ⟨uc, q⟩ := x
    rw [hfind] at hok
    obtain ⟨huc, hq⟩ := h.find hfind
    exact hq.filterUncomplete huc hok

end SasyServer.Websocket
