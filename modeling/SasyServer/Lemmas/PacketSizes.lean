import SasyServer.Lemmas.FramePlaces

/-!
# The packets that the declared lengths lead to

Every header that is read leads to one packet, in this order: the packets that have gone out and the one that is still filled
are those of the lengths read so far, each cut to `maxPackSize` (`Leads`). This needs that no length is read, as an `int`, as
a shorter one or as a sentinel; a length that is read as another negative number ends the process.
-/

namespace SasyServer.Websocket

/-- What the size of the packet for a declared length is computed to. -/
def packSizeOf (declared : Nat) : Int := clampSize (toInt32 declared)

/-- The size that a packet of a declared length is to have. -/
def limitedSize (declared : Nat) : Int := (min declared maxPackSize : Nat)

/-- A length that does not become a shorter one as an `int`, nor one of the three sentinels. -/
def harmless (declared : Nat) : Bool :=
  declared < 2 ^ 31 ∨ toInt32 declared < -3 ∨ (maxPackSize : Int) ≤ toInt32 declared

/-- The size of the packet that is being filled. -/
def inProgress : Option Uncomplete → List Int
  | some uc => if uc.read < 0 then [] else [uc.pack.size]
  | none => []

/-- From the packet that is filled in `entry` on, packets of the sizes `sizes` go out and `entry'` remains, while the
lengths `lengths` are read. -/
def Leads (entry : Option Uncomplete) (lengths : List Nat) (sizes : List Int) (entry' : Option Uncomplete) : Prop :=
  sizes ++ inProgress entry' = inProgress entry ++ lengths.map limitedSize

theorem inProgress_of_nonneg {uc : Uncomplete} (h : 0 ≤ uc.read) : inProgress (some uc) = [uc.pack.size] :=
  if_neg (Int.not_lt.2 h)

theorem inProgress_of_neg {uc : Uncomplete} (h : uc.read < 0) : inProgress (some uc) = [] := if_pos h

theorem leads_nil {entry : Option Uncomplete} (h : inProgress entry = []) : Leads none [] [] entry := h

/-- A packet goes out, and then what comes after it. -/
theorem Leads.cons {n : Nat} {lengths : List Nat} {sizes : List Int} {entry : Option Uncomplete}
    (h : Leads none lengths sizes entry) :
    Leads none (n :: lengths) (limitedSize n :: sizes) entry :=
  congrArg (limitedSize n :: ·) h

/-- A call after other calls. -/
theorem Leads.trans {lengths more : List Nat} {sizes new : List Int} {entry₀ entry entry' : Option Uncomplete}
    (h : Leads entry₀ lengths sizes entry) (h' : Leads entry more new entry') :
    Leads entry₀ (lengths ++ more) (sizes ++ new) entry' := by
  unfold Leads at h h' ⊢
  rw [List.append_assoc, h', ← List.append_assoc, h, List.map_append, List.append_assoc]

/-! ## The size of one packet -/

/-- A harmless length is not read as a sentinel. -/
theorem packSizeOf_lt_of_harmless {n : Nat} (h : harmless n = true) (hneg : packSizeOf n < 0) : packSizeOf n < -3 := by
  simp only [harmless, decide_eq_true_eq] at h
  have hmax : (0 : Int) ≤ maxPackSize := Int.natCast_nonneg _
  unfold packSizeOf clampSize at hneg ⊢
  rcases h with hlt | h | h
  · rw [toInt32_of_lt hlt] at hneg
    split_ifs at hneg <;> omega
  · rwa [if_neg (by omega)]
  · split_ifs at hneg <;> omega

/-- A harmless length that leads to a packet leads to one of its size. -/
theorem packSizeOf_eq_of_harmless {n : Nat} (h : harmless n = true) (hn : 0 ≤ packSizeOf n) :
    packSizeOf n = limitedSize n := by
  simp only [harmless, decide_eq_true_eq] at h
  unfold packSizeOf clampSize limitedSize at *
  rcases h with hlt | h | h
  · rw [toInt32_of_lt hlt]
    split_ifs <;> omega
  · split_ifs at hn with hgt
    · exact absurd hgt (by omega)
    · omega
  · have hle : maxPackSize ≤ n := by
      by_contra hlt
      rw [toInt32_of_lt (Nat.lt_trans (Nat.not_le.1 hlt) (by decide))] at h
      omega
    rw [Nat.min_eq_right hle]
    split_ifs <;> omega

/-! ## One header -/

theorem declaredAt_eq_some {buffer : List UInt8} {n : Nat} (h : declaredAt buffer = some n) :
    ∃ head, answer buffer = .frame n head := by
  unfold declaredAt at h
  split at h
  · rename_i declared head hans
    exact ⟨head, by rw [hans, Option.some.inj h]⟩
  · cases h

theorem declaredAt_of_frame {buffer : List UInt8} {n : Nat} {head : Head}
    (h : answer buffer = .frame n head) : declaredAt buffer = some n := by
  unfold declaredAt
  rw [h]

/-- What `nextPack` answers when it finds a frame. -/
theorem nextPack_of_declaredAt {buffer : List UInt8} {n : Nat} (h : declaredAt (nextPack buffer false).2.2 = some n) :
    (nextPack buffer false).1 = packSizeOf n := by
  obtain ⟨head, hans⟩ := declaredAt_eq_some h
  rw [(nextPack_read buffer).1, readSize_eq_encode, hans, Answer.encode]
  simp only [packSizeOf]

/-- A size that is not negative is that of a frame. -/
theorem exists_declaredAt {buffer : List UInt8} (h : 0 ≤ (nextPack buffer false).1) :
    ∃ n, declaredAt (nextPack buffer false).2.2 = some n := by
  rw [(nextPack_read buffer).1, clampSize_nonneg_iff, readSize_eq_encode] at h
  cases hans : answer (nextPack buffer false).2.2 with
  | frame n head => exact ⟨n, declaredAt_of_frame hans⟩
  | incomplete | discard | close =>
    rw [hans] at h
    exact absurd h (by decide)

/-- A sentinel is no answer for a harmless length. -/
theorem declaredAt_of_sentinel {buffer : List UInt8}
    (hR : ∀ n, declaredAt (nextPack buffer false).2.2 = some n → harmless n = true)
    (hsentinel : -3 ≤ (nextPack buffer false).1) (hneg : (nextPack buffer false).1 < 0) :
    declaredAt (nextPack buffer false).2.2 = none := by
  cases hdec : declaredAt (nextPack buffer false).2.2 with
  | none => rfl
  | some n =>
    rw [nextPack_of_declaredAt hdec] at hsentinel hneg
    exact absurd (packSizeOf_lt_of_harmless (hR n hdec) hneg) (Int.not_lt.2 hsentinel)

/-- Of the loop that throws bytes away only the last header can be a frame. -/
theorem lengths_skipPlaces {buffer : List UInt8} (h : ∀ n ∈ (skipPlaces buffer).filterMap declaredAt, harmless n = true) :
    (skipPlaces buffer).filterMap declaredAt = (declaredAt (nextPack buffer false).2.2).toList := by
  rw [nextPack_false]
  fun_induction skipPlaces buffer with
  | case1 b0 b1 rest ih =>
    by_cases hskip : (readSize (b0 :: b1 :: rest)).1 = -2
    · rw [if_pos hskip] at h ⊢
      rw [readFrameSize_skip hskip]
      cases hdec : declaredAt (b0 :: b1 :: rest) with
      | none =>
        rw [List.filterMap_cons_none hdec] at h ⊢
        exact ih h
      | some n =>
        rw [List.filterMap_cons_some hdec] at h
        obtain ⟨head, hans⟩ := declaredAt_eq_some hdec
        rw [readSize_eq_encode, hans, Answer.encode] at hskip
        simp only at hskip
        have hsize : packSizeOf n = -2 := by
          rw [packSizeOf, hskip]
          rfl
        have hlt := packSizeOf_lt_of_harmless (h n List.mem_cons_self) (by rw [hsize]; decide)
        rw [hsize] at hlt
        exact absurd hlt (by decide)
    · rw [if_neg hskip, readFrameSize_eq_self hskip]
      cases hdec : declaredAt (b0 :: b1 :: rest) with
      | none => rw [List.filterMap_cons_none hdec]; rfl
      | some n => rw [List.filterMap_cons_some hdec]; rfl
  | case2 buffer hshort =>
    rcases eq_nil_or_singleton hshort with rfl | ⟨b, rfl⟩
    · rfl
    · rfl

/-- The lengths `pushMore` reads: the first one, and those behind its packet. -/
theorem lengths_readPlaces {buffer : List UInt8} (h : ∀ n ∈ (readPlaces buffer).filterMap declaredAt, harmless n = true) :
    (readPlaces buffer).filterMap declaredAt =
      (declaredAt (nextPack buffer false).2.2).toList ++
        if 0 ≤ (nextPack buffer false).1 ∧ 0 < (afterPack buffer).length then
          (readPlaces (afterPack buffer)).filterMap declaredAt else [] := by
  rw [readPlaces, List.filterMap_append] at h ⊢
  rw [lengths_skipPlaces fun n hn => h n (List.mem_append_left _ hn)]
  split_ifs <;> rfl

/-- The lengths behind a header that is complete: its own, and those after its packet. -/
theorem lengths_complete {buffer : List UInt8} (hR : ∀ n ∈ (readPlaces buffer).filterMap declaredAt, harmless n = true)
    (hsize : 0 ≤ (nextPack buffer false).1) :
    ∃ n, (nextPack buffer false).1 = limitedSize n ∧
      (readPlaces buffer).filterMap declaredAt =
        n :: if 0 < (afterPack buffer).length then (readPlaces (afterPack buffer)).filterMap declaredAt else [] := by
  obtain ⟨n, hdec⟩ := exists_declaredAt hsize
  have hlengths := lengths_readPlaces hR
  rw [hdec, Option.toList_some, if_congr (and_iff_right hsize) rfl rfl] at hlengths
  rw [nextPack_of_declaredAt hdec] at hsize ⊢
  exact ⟨n, packSizeOf_eq_of_harmless (hR n (by rw [hlengths]; exact List.mem_cons_self)) hsize, hlengths⟩

/-- A header that is not complete, or that closes, declares no length. -/
theorem lengths_of_sentinel {buffer : List UInt8} (hR : ∀ n ∈ (readPlaces buffer).filterMap declaredAt, harmless n = true)
    (hsentinel : -3 ≤ (nextPack buffer false).1) (hneg : (nextPack buffer false).1 < 0) :
    (readPlaces buffer).filterMap declaredAt = [] := by
  have hlengths := lengths_readPlaces hR
  rw [if_neg fun h => absurd h.1 (Int.not_le.2 hneg), List.append_nil] at hlengths
  rw [hlengths, declaredAt_of_sentinel (fun n hn => hR n ?_) hsentinel hneg]
  · rfl
  · rw [hlengths, hn]
    exact List.mem_singleton_self n

/-! ## The calls -/

/-- A packet that is being filled. -/
theorem leads_payload {uc : Uncomplete} {n : Nat} (hread : 0 ≤ uc.read) (hsize : uc.pack.size = limitedSize n) :
    Leads none [n] [] (some uc) := by
  unfold Leads
  rw [inProgress_of_nonneg hread, hsize]
  rfl

/-- A packet that is complete with the last byte. -/
theorem leads_packet {n : Nat} : Leads none [n] [limitedSize n] none := rfl

theorem saveHeader_ok {L L' : Option Queue} {fd : Nat} {buffer : List UInt8} (h : saveHeader L fd buffer false = .ok L') :
    L' = some (saveUncomplete L ⟨⟨fd, 0, []⟩, buffer, -1, Mask.zero, false, 0⟩) := by
  unfold saveHeader at h
  simp only [Bool.false_eq_true, false_and, if_false] at h
  split_ifs at h
  exact (Except.ok.inj h).symm

/-- What `pushMore` pushes and keeps. -/
theorem pushMore_leads (fd : Nat) (buffer : List UInt8)
    (hR : ∀ n ∈ (readPlaces buffer).filterMap declaredAt, harmless n = true) :
    ∀ {L L' : Option Queue}, Good L → pending L fd = none → pushMore L fd buffer false = .ok L' →
      ∃ added entry, Touches L L' fd added entry ∧
        Leads none ((readPlaces buffer).filterMap declaredAt) (added.map fun p => p.size) entry := by
  induction hn : buffer.length using Nat.strong_induction_on generalizing buffer with
  | _ n ih =>
    subst hn
    intro L L' hg hp hok
    unfold pushMore at hok
    simp only at hok
    split_ifs at hok with h1 h2 hneg hrest
    · -- the header is not complete
      obtain rfl := saveHeader_ok hok
      rw [lengths_of_sentinel hR (by rw [h1]; decide) (by rw [h1]; decide)]
      exact ⟨[], _, touches_save _ hg rfl hp, leads_nil rfl⟩
    · -- the payload is not complete
      obtain rfl := Except.ok.inj hok
      have hsize : 0 ≤ (nextPack buffer false).1 := by omega
      obtain ⟨n, hn, hlengths⟩ := lengths_complete hR hsize
      rw [if_neg (by rw [length_afterPack]; omega)] at hlengths
      rw [hlengths]
      exact ⟨[], _, touches_save _ hg rfl hp, leads_payload (Int.natCast_nonneg _) hn⟩
    all_goals
      have hsize : 0 ≤ (nextPack buffer false).1 := Int.not_lt.1 hneg
      obtain ⟨n, hn, hlengths⟩ := lengths_complete hR hsize
      have ht := touches_push fd (decodeWsmaskData
        (((nextPack buffer false).2.2.drop (nextPack buffer false).2.1.packHeadLength).take (nextPack buffer false).1.toNat)
        (nextPack buffer false).2.1.mask (nextPack buffer false).2.1.ismask 0).1 (nextPack buffer false).1 hg
    · -- a packet, and more bytes
      rw [if_pos (show 0 < (afterPack buffer).length from hrest)] at hlengths
      have hR' : ∀ n ∈ (readPlaces (afterPack buffer)).filterMap declaredAt, harmless n = true := fun k hk =>
        hR k (by rw [hlengths]; exact List.mem_cons_of_mem _ hk)
      obtain ⟨added, entry, ht', hleads⟩ :=
        ih _ (nextPack_lt hsize) (afterPack buffer) hR' rfl ht.good (ht.self.trans hp) hok
      refine ⟨_, entry, ht.trans ht', ?_⟩
      have hcons := hleads.cons (n := n)
      rw [← hn] at hcons
      rw [hlengths]
      exact hcons
    · -- a packet, and nothing more
      obtain rfl := Except.ok.inj hok
      rw [if_neg (show ¬0 < (afterPack buffer).length from hrest)] at hlengths
      refine ⟨_, _, ht, ?_⟩
      have hpacket := leads_packet (n := n)
      rw [← hn] at hpacket
      rw [hlengths, hp]
      exact hpacket

/-- The size of a packet that is handed over at once. -/
def Result.sizes : Result → List Int
  | .data _ _ size => [size]
  | _ => []

theorem sizes_more : Result.more.sizes = [] := rfl

/-- A call for a connection: what it adds and what it answers, and the entry it leaves. Packets are added with
the answer `more` only. -/
structure Served (L L' : Option Queue) (fd : Nat) (r : Result) (added : List NetPack)
    (entry : Option Uncomplete) : Prop where
  touches : Touches L L' fd added entry
  more : r ≠ .more → added = []

theorem lengths_readPlaces_nil : (readPlaces []).filterMap declaredAt = [] := by
  rw [readPlaces, dif_neg fun h => absurd h.1 (by decide)]
  rfl

/-- A packet that is filled, and what comes after it. -/
theorem fillPack_leads {q : Queue} {fd : Nat} {uc : Uncomplete} {buffer : List UInt8} {L' : Option Queue} {r : Result}
    (hg : Good (some q)) (hp : pending (some q) fd = none) (hid : uc.pack.id = fd) (hread : 0 ≤ uc.read)
    (hR : ∀ n ∈ (packPlaces (uc.pack.size - uc.read) buffer).filterMap declaredAt, harmless n = true)
    (hok : fillPack q fd uc buffer false = .ok (L', r)) :
    ∃ added entry, Served (some q) L' fd r added entry ∧
      Leads (some uc) ((packPlaces (uc.pack.size - uc.read) buffer).filterMap declaredAt)
        (added.map (fun p => p.size) ++ r.sizes) entry := by
  unfold Leads
  rw [inProgress_of_nonneg hread]
  unfold fillPack at hok
  simp only at hok
  split_ifs at hok with hshort hend
  · -- the packet is still not complete
    have hnone : packPlaces (uc.pack.size - uc.read) buffer = [] := if_pos (Int.le_of_lt hshort)
    rw [hnone]
    cases hok
    refine ⟨[], _, ⟨touches_save _ hg hid hp, fun _ => rfl⟩, ?_⟩
    rw [inProgress_of_nonneg (by simp only; omega)]
    rfl
  · -- it is complete with the last byte
    have hnone : (packPlaces (uc.pack.size - uc.read) buffer).filterMap declaredAt = [] := by
      unfold packPlaces
      split_ifs
      · rfl
      · rw [List.length_eq_zero_iff.1 hend]
        exact lengths_readPlaces_nil
    rw [hnone]
    cases hok
    refine ⟨[], _, ⟨Touches.refl hg fd, fun _ => rfl⟩, ?_⟩
    rw [hp]
    rfl
  · -- there are more bytes
    have hplaces : packPlaces (uc.pack.size - uc.read) buffer = readPlaces (buffer.drop (uc.pack.size - uc.read).toNat) := by
      refine if_neg fun hle => hend ?_
      rw [List.length_drop]
      omega
    rw [hplaces] at hR ⊢
    obtain ⟨L₁, hL₁, heq⟩ := map_ok hok
    obtain ⟨rfl, rfl⟩ := Prod.mk.inj heq
    have ht := touches_push (L := some q) fd
      (uc.pack.buffer ++
        (decodeWsmaskData (buffer.take (uc.pack.size - uc.read).toNat) uc.mask uc.ismask uc.hasunmaskSize).1) uc.pack.size hg
    obtain ⟨added, entry, ht', hleads⟩ := pushMore_leads fd _ hR ht.good (ht.self.trans hp) hL₁
    refine ⟨_, entry, ⟨ht.trans ht', fun h => absurd rfl h⟩, ?_⟩
    rw [List.map_append, sizes_more, List.append_nil, List.append_assoc, hleads]
    rfl

/-- A chunk of a connection without an unfinished packet. -/
theorem filterFresh_leads {L L' : Option Queue} {fd : Nat} {buffer : List UInt8} {r : Result} (hg : Good L)
    (hp : pending L fd = none) (hR : ∀ n ∈ (readPlaces buffer).filterMap declaredAt, harmless n = true)
    (hok : filterFresh L fd buffer false = .ok (L', r)) :
    ∃ added entry, Served L L' fd r added entry ∧
      Leads none ((readPlaces buffer).filterMap declaredAt) (added.map (fun p => p.size) ++ r.sizes) entry := by
  unfold filterFresh at hok
  simp only at hok
  split_ifs at hok with h1 h3 h2 hdata hneg
  · -- the header is not complete
    obtain ⟨L₁, hL₁, heq⟩ := map_ok hok
    obtain ⟨rfl, rfl⟩ := Prod.mk.inj heq
    obtain rfl := saveHeader_ok hL₁
    rw [lengths_of_sentinel hR (by rw [h1]; decide) (by rw [h1]; decide)]
    exact ⟨[], _, ⟨touches_save _ hg rfl hp, fun _ => rfl⟩, leads_nil rfl⟩
  · -- only a close frame is answered like this
    rw [lengths_of_sentinel hR (Int.le_of_eq h3.symm) (by rw [h3]; decide)]
    cases hok
    exact ⟨[], none, ⟨touches_close fd hg, fun _ => rfl⟩, leads_nil rfl⟩
  · -- the payload is not complete
    have hsize : 0 ≤ (nextPack buffer false).1 := by omega
    obtain ⟨n, hn, hlengths⟩ := lengths_complete hR hsize
    rw [if_neg (by rw [length_afterPack]; omega)] at hlengths
    rw [hlengths]
    cases hok
    exact ⟨[], _, ⟨touches_save _ hg rfl hp, fun _ => rfl⟩, leads_payload (Int.natCast_nonneg _) hn⟩
  · -- a packet, and nothing more
    have hsize : 0 ≤ (nextPack buffer false).1 := by omega
    obtain ⟨n, hn, hlengths⟩ := lengths_complete hR hsize
    rw [if_neg (by rw [length_afterPack]; omega)] at hlengths
    cases hok
    refine ⟨[], _, ⟨Touches.refl hg fd, fun _ => rfl⟩, ?_⟩
    have hpacket := leads_packet (n := n)
    rw [← hn, ← hdata] at hpacket
    rw [hlengths, hp]
    exact hpacket
  · -- a packet, and more bytes
    have hsize : 0 ≤ (nextPack buffer false).1 := Int.not_lt.1 hneg
    obtain ⟨n, hn, hlengths⟩ := lengths_complete hR hsize
    simp only [not_false_eq_true, and_true] at h2
    rw [if_pos (by rw [length_afterPack]; omega)] at hlengths
    have hR' : ∀ n ∈ (readPlaces (afterPack buffer)).filterMap declaredAt, harmless n = true := fun k hk =>
      hR k (by rw [hlengths]; exact List.mem_cons_of_mem _ hk)
    obtain ⟨L₁, hL₁, heq⟩ := map_ok hok
    obtain ⟨rfl, rfl⟩ := Prod.mk.inj heq
    have ht := touches_push fd (decodeWsmaskData
      (((nextPack buffer false).2.2.drop (nextPack buffer false).2.1.packHeadLength).take (nextPack buffer false).1.toNat)
      (nextPack buffer false).2.1.mask (nextPack buffer false).2.1.ismask 0).1 (nextPack buffer false).1 hg
    obtain ⟨added, entry, ht', hleads⟩ := pushMore_leads fd (afterPack buffer) hR' ht.good (ht.self.trans hp) hL₁
    refine ⟨_, entry, ⟨ht.trans ht', fun h => absurd rfl h⟩, ?_⟩
    have hcons := hleads.cons (n := n)
    rw [← hn] at hcons
    rw [hlengths, sizes_more, List.append_nil]
    exact hcons

/-! ## A header that is collected -/

theorem declaredAt_append {buffer : List UInt8} {n : Nat} (x : List UInt8) (h : declaredAt buffer = some n) :
    declaredAt (buffer ++ x) = some n := by
  obtain ⟨head, hans⟩ := declaredAt_eq_some h
  exact @declaredAt_of_frame _ _ head (by rw [answer_append x (by rw [hans]; simp), hans])

/-- With a frame in front, more bytes change nothing. -/
theorem nextPack_behind {buffer : List UInt8} {n : Nat} (x : List UInt8) (h : declaredAt buffer = some n)
    (hskip : (readSize buffer).1 ≠ -2) :
    (nextPack (buffer ++ x) false).1 = packSizeOf n ∧ declaredAt (nextPack (buffer ++ x) false).2.2 = some n := by
  obtain ⟨head, hans⟩ := declaredAt_eq_some h
  rw [nextPack_of_answer x (by rw [hans]; simp) hskip, readSize_eq_encode, hans, Answer.encode]
  exact ⟨by simp only [packSizeOf], declaredAt_append x h⟩

/-- The lengths the loop reads: of a header that becomes complete only its own, and of one that stays
incomplete, or closes, none. -/
theorem lengths_fillPlaces (buffer : List UInt8) (hne : buffer ≠ []) : ∀ header : List UInt8,
    (∀ n ∈ (fillPlaces header buffer).filterMap declaredAt, harmless n = true) →
      (0 ≤ (nextPack (header ++ buffer.take (fillStop false header buffer)) false).1 →
        ∃ n, (nextPack (header ++ buffer.take (fillStop false header buffer)) false).1 = limitedSize n ∧
          (fillPlaces header buffer).filterMap declaredAt =
            n :: (packPlaces (nextPack (header ++ buffer.take (fillStop false header buffer)) false).1
              (buffer.drop (fillStop false header buffer))).filterMap declaredAt) ∧
      (-3 ≤ (nextPack (header ++ buffer.take (fillStop false header buffer)) false).1 →
        (nextPack (header ++ buffer.take (fillStop false header buffer)) false).1 < 0 →
          (fillPlaces header buffer).filterMap declaredAt = []) := by
  induction buffer with
  | nil => exact absurd rfl hne
  | cons b buffer ih =>
    intro header hR
    rw [fillPlaces, List.filterMap_append] at hR ⊢
    have hskip := lengths_skipPlaces fun n hn => hR n (List.mem_append_left _ hn)
    rw [hskip] at hR ⊢
    rcases Int.lt_or_le (nextPack (header ++ [b]) false).1 0 with hneg | hdone
    · rw [if_neg (Int.not_le.2 hneg)] at hR ⊢
      rw [fillStop_more hneg, List.take_succ_cons, List.drop_succ_cons,
        show ∀ x : List UInt8, header ++ b :: x = header ++ [b] ++ x from fun x => by simp]
      by_cases hlast : buffer = []
      · -- the last byte
        subst hlast
        rw [if_pos rfl, List.filterMap_nil, List.append_nil] at hR ⊢
        rw [List.take_nil, List.append_nil]
        refine ⟨fun h => absurd h (Int.not_le.2 hneg), fun hsentinel _ => ?_⟩
        rw [declaredAt_of_sentinel (fun n hn => hR n (Option.mem_toList.2 hn)) hsentinel hneg]
        rfl
      · rw [if_neg hlast] at hR ⊢
        have hR' := fun n hn => hR n (List.mem_append_right _ hn)
        obtain ⟨hcomplete, hnot⟩ := ih hlast (nextPack (header ++ [b]) false).2.2 hR'
        rw [← nextPack_append] at hcomplete hnot
        cases hdec : declaredAt (nextPack (header ++ [b]) false).2.2 with
        | none =>
          rw [Option.toList_none, List.nil_append]
          exact ⟨hcomplete, hnot⟩
        | some n =>
          -- a negative length has been read, and is the answer with every byte that follows
          have hn := nextPack_of_declaredAt hdec
          have hsize := (nextPack_behind (buffer.take (fillStop false (nextPack (header ++ [b]) false).2.2 buffer)) hdec
            (readSize_readFrameSize _)).1
          rw [← nextPack_append] at hsize
          have hlt := packSizeOf_lt_of_harmless (hR n (List.mem_append_left _ (Option.mem_toList.2 hdec))) (hn ▸ hneg)
          rw [hsize]
          exact ⟨fun h => absurd h (by omega), fun h => absurd h (by omega)⟩
    · rw [if_pos hdone] at hR ⊢
      rw [fillStop_complete hdone]
      obtain ⟨n, hdec⟩ := exists_declaredAt hdone
      refine ⟨fun _ => ⟨n, ?_, ?_⟩, fun _ h => absurd hdone (Int.not_le.2 h)⟩
      · have hharmless := hR n (List.mem_append_left _ (Option.mem_toList.2 hdec))
        have hsize : (nextPack (header ++ [b]) false).1 = packSizeOf n := nextPack_of_declaredAt hdec
        exact hsize.trans (packSizeOf_eq_of_harmless hharmless (hsize ▸ hdone))
      · rw [hdec]
        rfl

/-- A chunk of a connection with an unfinished packet. -/
theorem filterUncomplete_leads {q : Queue} {fd : Nat} {uc : Uncomplete} {buffer : List UInt8}
    {L' : Option Queue} {r : Result} (hg : Good (some q)) (hp : pending (some q) fd = none) (hid : uc.pack.id = fd)
    (hne : buffer ≠ []) (hR : ∀ n ∈ lengthsRead (some uc) buffer, harmless n = true)
    (hok : filterUncomplete q fd uc buffer false = .ok (L', r)) :
    ∃ added entry, Served (some q) L' fd r added entry ∧
      Leads (some uc) (lengthsRead (some uc) buffer) (added.map (fun p => p.size) ++ r.sizes) entry := by
  unfold lengthsRead places at hR ⊢
  unfold filterUncomplete at hok
  simp only at hR ⊢
  rcases Int.lt_or_le uc.read 0 with hread | hread
  swap
  · -- the size is known
    have hnot : ¬uc.read < 0 := Int.not_lt.2 hread
    rw [if_neg hnot] at hR hok ⊢
    exact fillPack_leads hg hp hid hread hR hok
  rw [if_pos hread] at hR hok ⊢
  rw [fillHeader_eq false buffer hne] at hok
  have hfit : uc.header.length < headerSize ∧
      (nextPack (uc.header ++ buffer.take (fillStop false uc.header buffer)) false).2.2.length ≤ headerSize := by
    by_contra hnot
    rw [if_neg hnot] at hok
    cases hok
  rw [if_pos hfit] at hok
  obtain ⟨hcomplete, hnot⟩ := lengths_fillPlaces buffer hne uc.header hR
  simp only [Except.bind, Bool.false_eq_true, if_false] at hok
  unfold Leads
  rw [inProgress_of_neg hread, List.nil_append]
  split_ifs at hok with h1 h3 hneg
  · -- the header is still not complete
    cases hok
    refine ⟨[], _, ⟨touches_save _ hg hid hp, fun _ => rfl⟩, ?_⟩
    rw [hnot (by rw [h1]; decide) (by rw [h1]; decide), inProgress_of_neg (by exact hread)]
    rfl
  · -- only a close frame is answered like this
    cases hok
    refine ⟨[], none, ⟨touches_close fd hg, fun _ => rfl⟩, ?_⟩
    rw [hnot (Int.le_of_eq h3.symm) (by rw [h3]; decide)]
    rfl
  · -- the header is complete
    obtain ⟨n, hn, hlengths⟩ := hcomplete (Int.not_lt.1 hneg)
    rw [hlengths] at hR ⊢
    obtain ⟨added, entry, hserved, hleads⟩ := fillPack_leads hg hp (by exact hid) (Int.le_refl 0)
      (by rw [Int.sub_zero]; exact fun k hk => hR k (List.mem_cons_of_mem _ hk)) hok
    rw [Int.sub_zero] at hleads
    refine ⟨added, entry, hserved, ?_⟩
    unfold Leads at hleads
    rw [hleads, inProgress_of_nonneg (Int.le_refl 0), List.map_cons, ← hn]
    rfl

/-- A chunk past the handshake. -/
theorem filterData_leads {L L' : Option Queue} {fd : Nat} {buffer : List UInt8} {r : Result} (hg : Good L)
    (hne : buffer ≠ []) (hR : ∀ n ∈ lengthsRead (pending L fd) buffer, harmless n = true)
    (hok : filterData L fd buffer false = .ok (L', r)) :
    ∃ added entry, Served L L' fd r added entry ∧
      Leads (pending L fd) (lengthsRead (pending L fd) buffer) (added.map (fun p => p.size) ++ r.sizes) entry := by
  unfold filterData at hok
  cases hfind : findUncomplete L fd with
  | none =>
    rw [hfind] at hok
    have hp := pending_of_find_none hfind
    rw [hp] at hR ⊢
    exact filterFresh_leads hg hp hR hok
  | some x =>
    obtain ⟨uc, q⟩ := x
    rw [hfind] at hok
    obtain ⟨hp, hid, t⟩ := touches_find hg hfind
    rw [hp] at hR ⊢
    obtain ⟨added, entry, hserved, hleads⟩ := filterUncomplete_leads t.good t.self hid hne hR hok
    exact ⟨added, entry, ⟨t.trans hserved.touches, hserved.more⟩, hleads⟩

/-! ## The handshake -/

/-- The end of a header that is found lies in the buffer. -/
theorem getHttpHeader_le (buffer : List UInt8) : getHttpHeader buffer ≤ buffer.length := by
  have hpos : ∀ (buffer : List UInt8) (i : Nat), websocketStrnpos [13, 10, 13, 10] buffer i = -1 ∨
      websocketStrnpos [13, 10, 13, 10] buffer i + 4 ≤ i + buffer.length := by
    intro buffer
    induction buffer with
    | nil => exact fun i => Or.inl rfl
    | cons b buffer ih =>
      intro i
      rw [websocketStrnpos]
      split_ifs with hprefix
      · have hlen := (List.isPrefixOf_iff_prefix.1 hprefix).length_le
        simp only [List.length_cons, List.length_nil] at hlen ⊢
        omega
      · rcases ih (i + 1) with h | h
        · exact Or.inl h
        · simp only [List.length_cons]
          omega
  unfold getHttpHeader
  rcases hpos buffer 0 with h | h
  · rw [h]
    exact Int.le_trans (by decide) (Int.natCast_nonneg _)
  · simp only
    split_ifs <;> omega

/-- In the handshake what is saved is a header. -/
theorem saveHeader_handshake {L L' : Option Queue} {fd : Nat} {buffer : List UInt8}
    (h : saveHeader L fd buffer true = .ok L') :
    ∃ header, L' = some (saveUncomplete L ⟨⟨fd, 0, []⟩, header, -1, Mask.zero, false, 0⟩) := by
  unfold saveHeader at h
  simp only [true_and] at h
  split_ifs at h
  · exact ⟨_, (Except.ok.inj h).symm⟩
  · exact ⟨_, (Except.ok.inj h).symm⟩

/-- In the handshake `pushMore` leaves no packet that is being filled. -/
theorem pushMore_handshake (fd : Nat) (buffer : List UInt8) : ∀ {L L' : Option Queue}, Good L → pending L fd = none →
    pushMore L fd buffer true = .ok L' → ∃ added entry, Touches L L' fd added entry ∧ inProgress entry = [] := by
  induction hn : buffer.length using Nat.strong_induction_on generalizing buffer with
  | _ n ih =>
    subst hn
    intro L L' hg hp hok
    unfold pushMore at hok
    simp only at hok
    split_ifs at hok with h1 h2 hneg hrest
    · obtain ⟨header, rfl⟩ := saveHeader_handshake hok
      exact ⟨[], _, touches_save _ hg rfl hp, rfl⟩
    · exact absurd h2.2 (by simp)
    · have ht := touches_push fd (decodeWsmaskData
        (((nextPack buffer true).2.2.drop (nextPack buffer true).2.1.packHeadLength).take (nextPack buffer true).1.toNat)
        (nextPack buffer true).2.1.mask (nextPack buffer true).2.1.ismask 0).1 (nextPack buffer true).1 hg
      obtain ⟨added, entry, ht', hin⟩ := ih _ (nextPack_lt (Int.not_lt.1 hneg)) _ rfl ht.good (ht.self.trans hp) hok
      exact ⟨_, entry, ht.trans ht', hin⟩
    · obtain rfl := Except.ok.inj hok
      exact ⟨_, _, touches_push fd _ _ hg, by rw [hp]; rfl⟩

/-- Once the request is there, nothing more is awaited. -/
theorem fillPack_handshake {q : Queue} {fd : Nat} {uc : Uncomplete} {buffer : List UInt8} {L' : Option Queue} {r : Result}
    (hg : Good (some q)) (hp : pending (some q) fd = none) (hneed : uc.pack.size ≤ uc.read)
    (hok : fillPack q fd uc buffer true = .ok (L', r)) :
    ∃ added entry, Served (some q) L' fd r added entry ∧ inProgress entry = [] := by
  unfold fillPack at hok
  simp only at hok
  split_ifs at hok with hshort hend
  · omega
  · cases hok
    exact ⟨[], _, ⟨Touches.refl hg fd, fun _ => rfl⟩, by rw [hp]; rfl⟩
  · obtain ⟨L₁, hL₁, heq⟩ := map_ok hok
    obtain ⟨rfl, rfl⟩ := Prod.mk.inj heq
    have ht := touches_push (L := some q) fd
      (uc.pack.buffer ++
        (decodeWsmaskData (buffer.take (uc.pack.size - uc.read).toNat) uc.mask uc.ismask uc.hasunmaskSize).1) uc.pack.size hg
    obtain ⟨added, entry, ht', hin⟩ := pushMore_handshake fd _ ht.good (ht.self.trans hp) hL₁
    exact ⟨_, entry, ⟨ht.trans ht', fun h => absurd rfl h⟩, hin⟩

/-- In the handshake an unfinished header goes on as one, or is complete. -/
theorem filterUncomplete_handshake {q : Queue} {fd : Nat} {uc : Uncomplete} {buffer : List UInt8}
    {L' : Option Queue} {r : Result} (hg : Good (some q)) (hp : pending (some q) fd = none) (hid : uc.pack.id = fd)
    (hread : uc.read < 0) (hok : filterUncomplete q fd uc buffer true = .ok (L', r)) :
    ∃ added entry, Served (some q) L' fd r added entry ∧ inProgress entry = [] := by
  unfold filterUncomplete at hok
  rw [if_pos hread] at hok
  -- the size is at most the bytes of the header
  have hsize : ∀ x, fillHeader true uc.header buffer = .ok x → x.1 ≤ x.2.2.1.length := by
    intro x hx
    by_cases hne : buffer = []
    · subst hne
      rw [fillHeader] at hx
      cases hx
      exact Int.natCast_nonneg _
    · rw [fillHeader_eq true buffer hne] at hx
      split_ifs at hx
      cases hx
      exact getHttpHeader_le _
  cases hfill : fillHeader true uc.header buffer with
  | error fault =>
    rw [hfill] at hok
    cases hok
  | ok x =>
    have hx := hsize x hfill
    rw [hfill] at hok
    simp only [Except.bind, if_true] at hok
    split_ifs at hok with h1 h3 hneg
    · cases hok
      exact ⟨[], _, ⟨touches_save _ hg hid hp, fun _ => rfl⟩, inProgress_of_neg hread⟩
    · cases hok
      exact ⟨[], none, ⟨touches_close fd hg, fun _ => rfl⟩, rfl⟩
    · refine fillPack_handshake hg hp ?_ hok
      simp only
      omega

/-- In the handshake a buffer is a request, or a part of one. -/
theorem filterFresh_handshake {L L' : Option Queue} {fd : Nat} {buffer : List UInt8} {r : Result} (hg : Good L)
    (hp : pending L fd = none) (hok : filterFresh L fd buffer true = .ok (L', r)) :
    ∃ added entry, Served L L' fd r added entry ∧ inProgress entry = [] := by
  unfold filterFresh at hok
  simp only at hok
  split_ifs at hok with h1 h3 h2 hdata hneg
  · obtain ⟨L₁, hL₁, heq⟩ := map_ok hok
    obtain ⟨rfl, rfl⟩ := Prod.mk.inj heq
    obtain ⟨header, rfl⟩ := saveHeader_handshake hL₁
    exact ⟨[], _, ⟨touches_save _ hg rfl hp, fun _ => rfl⟩, rfl⟩
  · cases hok
    exact ⟨[], none, ⟨touches_close fd hg, fun _ => rfl⟩, rfl⟩
  · exact absurd h2.2 (by simp)
  · cases hok
    exact ⟨[], _, ⟨Touches.refl hg fd, fun _ => rfl⟩, by rw [hp]; rfl⟩
  · obtain ⟨L₁, hL₁, heq⟩ := map_ok hok
    obtain ⟨rfl, rfl⟩ := Prod.mk.inj heq
    have ht := touches_push fd (decodeWsmaskData
      (((nextPack buffer true).2.2.drop (nextPack buffer true).2.1.packHeadLength).take (nextPack buffer true).1.toNat)
      (nextPack buffer true).2.1.mask (nextPack buffer true).2.1.ismask 0).1 (nextPack buffer true).1 hg
    obtain ⟨added, entry, ht', hin⟩ := pushMore_handshake fd _ ht.good (ht.self.trans hp) hL₁
    exact ⟨_, entry, ⟨ht.trans ht', fun h => absurd rfl h⟩, hin⟩

/-- A chunk of the handshake. -/
theorem filterData_handshake {L L' : Option Queue} {fd : Nat} {buffer : List UInt8} {r : Result} (hg : Good L)
    (hin : inProgress (pending L fd) = []) (hok : filterData L fd buffer true = .ok (L', r)) :
    ∃ added entry, Served L L' fd r added entry ∧ inProgress entry = [] := by
  unfold filterData at hok
  cases hfind : findUncomplete L fd with
  | none =>
    rw [hfind] at hok
    exact filterFresh_handshake hg (pending_of_find_none hfind) hok
  | some x =>
    obtain ⟨uc, q⟩ := x
    rw [hfind] at hok
    obtain ⟨hp, hid, t⟩ := touches_find hg hfind
    have hread : uc.read < 0 := by
      rw [hp] at hin
      by_contra hnot
      rw [inProgress_of_nonneg (Int.not_lt.1 hnot)] at hin
      cases hin
    obtain ⟨added, entry, hserved, hin'⟩ := filterUncomplete_handshake t.good t.self hid hread hok
    exact ⟨added, entry, ⟨t.trans hserved.touches, hserved.more⟩, hin'⟩

/-! ## `feed` -/

/-- The sizes of the packets among the outputs. -/
def outSizes (outs : List Out) : List Int :=
  outs.flatMap fun
    | .data _ _ size => [size]
    | .wsclose _ => []

theorem outSizes_packets (added : List NetPack) : outSizes (added.map NetPack.out) = added.map fun p => p.size := by
  induction added with
  | nil => rfl
  | cons p added ih =>
    rw [List.map_cons, List.map_cons, ← ih]
    rfl

theorem outSizes_outs (r : Result) : outSizes r.outs = r.sizes := by
  cases r <;> rfl

/-- The outputs of a chunk are the packets that were added, or the answer. -/
theorem feed_of_served {L L' : Option Queue} {c : Chunk} {outs : List Out} (h0 : packets L = [])
    (hok : feed L c = .ok (L', outs)) {P : Option Queue → Result → List NetPack → Option Uncomplete → Prop}
    (hserved : ∀ {L₁ r}, filterData L c.fd c.bytes c.handeshake = .ok (L₁, r) →
      ∃ added entry, Served L L₁ c.fd r added entry ∧ P L₁ r added entry) :
    ∃ L₁ r added, P L₁ r added (pending L' c.fd) ∧ outSizes outs = added.map (fun p => p.size) ++ r.sizes := by
  unfold feed at hok
  obtain ⟨⟨L₁, r⟩, hr, heq⟩ := map_ok hok
  obtain ⟨added, entry, ⟨ht, hmore⟩, hP⟩ := hserved hr
  by_cases hm : r = .more
  · subst hm
    obtain ⟨h1, -, -, h4⟩ := popAll_spec ht.good (length_packets_le ht.good)
    simp only [Prod.mk.injEq] at heq
    obtain ⟨rfl, rfl⟩ := heq
    have hpackets := ht.packets
    rw [h0, List.nil_append] at hpackets
    refine ⟨L₁, .more, added, ?_, ?_⟩
    · rw [h4, ht.self]
      exact hP
    · rw [h1, hpackets, outSizes_packets, sizes_more, List.append_nil]
  · have hout : (L₁, r.outs) = (L', outs) := by
      rw [← heq]
      cases r with
      | more => exact absurd rfl hm
      | none => rfl
      | data fd buffer size => rfl
      | wsclose fd => rfl
    obtain ⟨rfl, rfl⟩ := Prod.mk.inj hout
    refine ⟨L₁, r, added, ?_, ?_⟩
    · rw [ht.self]
      exact hP
    · rw [hmore hm, outSizes_outs]
      rfl

/-- A chunk past the handshake, and the packets it leads to. -/
theorem feed_leads {L L' : Option Queue} {fd : Nat} {bytes : List UInt8} {outs : List Out} (hg : Good L)
    (h0 : packets L = []) (hne : bytes ≠ []) (hR : ∀ n ∈ lengthsRead (pending L fd) bytes, harmless n = true)
    (hok : feed L ⟨fd, bytes, false⟩ = .ok (L', outs)) :
    Leads (pending L fd) (lengthsRead (pending L fd) bytes) (outSizes outs) (pending L' fd) := by
  obtain ⟨L₁, r, added, hP, hout⟩ := feed_of_served (c := ⟨fd, bytes, false⟩) h0 hok
    (P := fun _ r added entry => Leads (pending L fd) (lengthsRead (pending L fd) bytes)
      (added.map (fun p => p.size) ++ r.sizes) entry)
    fun hr => filterData_leads hg hne hR hr
  rw [hout]
  exact hP

/-- A chunk of the handshake. -/
theorem feed_handshake {L L' : Option Queue} {fd : Nat} {bytes : List UInt8} {outs : List Out} (hg : Good L)
    (h0 : packets L = []) (hin : inProgress (pending L fd) = []) (hok : feed L ⟨fd, bytes, true⟩ = .ok (L', outs)) :
    inProgress (pending L' fd) = [] := by
  obtain ⟨L₁, r, added, hP, -⟩ := feed_of_served (c := ⟨fd, bytes, true⟩) h0 hok
    (P := fun _ _ _ entry => inProgress entry = []) fun hr => filterData_handshake hg hin hr
  exact hP

end SasyServer.Websocket
