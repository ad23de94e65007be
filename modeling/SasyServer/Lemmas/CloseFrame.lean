import SasyServer.Lemmas.FrameStream

/-!
# The close frame, wherever it falls in a chunk

A close frame that begins a chunk, or of which only the first byte was there before, is reported. One that stands behind
other bytes of its chunk goes to `pushMore`, which takes the -3 of `readSize` for a length.
-/

namespace SasyServer.Websocket

/-- A whole close frame is answered with -3, from its first two bytes on. -/
theorem nextPack_close (b1 : UInt8) (t : List UInt8) :
    nextPack (firstByte 8 :: b1 :: t) false = (-3, Head.init, firstByte 8 :: b1 :: t) := by
  have hs : readSize (firstByte 8 :: b1 :: t) = (-3, Head.init) := by
    have hb : firstByte 8 = 0x88 := by decide
    rw [hb]
    rfl
  have hr : readFrameSize (firstByte 8 :: b1 :: t) = (-3, Head.init, firstByte 8 :: b1 :: t) := by
    unfold readFrameSize
    rw [hs]
    rfl
  simp only [nextPack, Bool.false_eq_true, if_false, hr]
  rfl

/-- Its first byte alone is an incomplete header. -/
theorem nextPack_close_byte : nextPack [firstByte 8] false = (-1, Head.init, [firstByte 8]) := rfl

/-- The entry that holds the first byte of a close frame. -/
def closeByteEntry (fd : Nat) : Uncomplete := ⟨⟨fd, 0, []⟩, [0x88], -1, Mask.zero, false, 0⟩

/-- The first byte of a close frame is kept, with and without frames before it in the chunk. -/
theorem pushMore_close_byte (L : Option Queue) (fd : Nat) :
    pushMore L fd [firstByte 8] false = .ok (some (saveUncomplete L (closeByteEntry fd))) := by
  unfold pushMore
  simp only [nextPack_close_byte]
  rfl

theorem filterFresh_close_byte (L : Option Queue) (fd : Nat) :
    filterFresh L fd [firstByte 8] false = .ok (some (saveUncomplete L (closeByteEntry fd)), .none) := by
  unfold filterFresh
  simp only [nextPack_close_byte]
  rfl

/-- `pushMore` takes a close frame for a packet of size -3. -/
theorem pushMore_close (L : Option Queue) (fd : Nat) (b1 : UInt8) (t : List UInt8) :
    pushMore L fd (firstByte 8 :: b1 :: t) false = .error (.malloc (-3)) := by
  unfold pushMore
  simp only [nextPack_close]
  rw [if_neg (by decide), if_neg (by omega), dif_pos (by decide)]

/-- A close frame that begins a chunk is reported. -/
theorem filterFresh_close (L : Option Queue) (fd : Nat) (b1 : UInt8) (t : List UInt8) :
    filterFresh L fd (firstByte 8 :: b1 :: t) false = .ok (closeUncomplete L fd, .wsclose fd) := by
  unfold filterFresh
  simp only [nextPack_close]
  rw [if_neg (by decide), if_pos trivial]

/-- The loop over a started close frame goes on to the end of the buffer, since -3 is below zero,
unless the header is full. -/
theorem fillHeader_close (b1 : UInt8) (t y : List UInt8) (hlen : 2 + t.length ≤ headerSize) :
    fillHeader false (firstByte 8 :: b1 :: t) y =
      if y = [] then .ok (0, Head.init, firstByte 8 :: b1 :: t, [])
      else if 2 + t.length + y.length ≤ headerSize then .ok (-3, Head.init, firstByte 8 :: b1 :: (t ++ y), [])
      else .error .headerOverflow := by
  induction y generalizing t with
  | nil => rfl
  | cons b y ih =>
    unfold fillHeader
    rw [if_neg (List.cons_ne_nil b y)]
    simp only [List.length_cons, Bool.false_eq_true, false_and, if_false, List.cons_append, nextPack_close]
    by_cases hfull : t.length + 1 + 1 ≥ headerSize
    · rw [if_pos hfull, if_neg (by omega)]
    · rw [if_neg hfull]
      by_cases hy : y = []
      · subst hy
        rw [if_pos (Or.inr rfl), if_pos (by simp only [List.length_nil]; omega)]
      · rw [if_neg (by simp [hy]), ih (t ++ [b]) (by simp only [List.length_append, List.length_singleton]; omega),
          if_neg hy]
        simp only [List.length_append, List.length_singleton, List.append_assoc, List.singleton_append]
        have e : 2 + (t.length + 1) + y.length = 2 + t.length + (y.length + 1) := by omega
        rw [e]

/-- The rest of a close frame whose first byte is kept: reported, unless the chunk does not fit into `header`. -/
theorem filterUncomplete_close (q : Queue) (fd : Nat) (b1 : UInt8) (t : List UInt8) :
    filterUncomplete q fd (closeByteEntry fd) (b1 :: t) false =
      if (b1 :: t).length < headerSize then .ok (closeUncomplete (some q) fd, .wsclose fd) else .error .headerOverflow := by
  have hfill : fillHeader false [firstByte 8] (b1 :: t) =
      if (b1 :: t).length < headerSize then .ok (-3, Head.init, firstByte 8 :: b1 :: t, []) else .error .headerOverflow := by
    unfold fillHeader
    rw [if_neg (by decide)]
    simp only [Bool.false_eq_true, false_and, if_false, List.singleton_append, nextPack_close]
    by_cases ht : t = []
    · subst ht
      rw [if_pos (Or.inr rfl), if_pos (by rw [List.length_singleton]; decide)]
    · rw [if_neg (by simp [ht]), fillHeader_close b1 [] t (by decide), if_neg ht]
      simp only [List.length_nil, List.length_cons, List.nil_append]
      by_cases hl : t.length + 1 < headerSize
      · rw [if_pos hl, if_pos (by omega)]
      · rw [if_neg hl, if_neg (by omega)]
  unfold filterUncomplete
  rw [if_pos (show (closeByteEntry fd).read < 0 from by simp only [closeByteEntry]; decide),
    show (closeByteEntry fd).header = [firstByte 8] from rfl, hfill]
  by_cases hl : (b1 :: t).length < headerSize
  · rw [if_pos hl, if_pos hl]
    rfl
  · rw [if_neg hl, if_neg hl]
    rfl

/-! ## What stands behind whole frames -/

/-- `pushMore` on whole frames and something behind them. -/
theorem pushMore_bytesOf {fd : Nat} {y : List UInt8} (hy : y ≠ []) (fs : List Frame) {L : Option Queue} (hg : Good L)
    (hp : pending L fd = none) :
    ∃ L₁, Touches L L₁ fd (fs.map (Frame.pack fd)) none ∧
      pushMore L fd (bytesOf fs ++ y) false = pushMore L₁ fd y false := by
  induction fs generalizing L with
  | nil =>
    have t := Touches.refl hg fd
    rw [hp] at t
    exact ⟨L, t, rfl⟩
  | cons f fs ih =>
    have t := touches_push fd f.payload f.payload.length hg
    rw [hp] at t
    obtain ⟨L₁, t₁, he⟩ := ih t.good t.self
    refine ⟨L₁, t.trans t₁, ?_⟩
    rw [bytesOf, List.flatMap_cons, List.append_assoc, pushMore_frame, if_neg (by simp [hy])]
    exact he

/-- A chunk with the last bytes of a stream of frames and something behind them: what is behind them goes to `pushMore`. -/
theorem filterData_then {L : Option Queue} {fd : Nat} {fs : List Frame} {n : Nat} {y : List UInt8} (hg : Good L)
    (ha : At fd fs n (pending L fd)) (hn : n < (bytesOf fs).length) (hy : y ≠ []) :
    ∃ L₁ new, Touches L L₁ fd (new.map (Frame.pack fd)) none ∧ fs = completeFrames fs n ++ new ∧
      filterData L fd ((bytesOf fs).drop n ++ y) false = (pushMore L₁ fd y false).map fun L => (L, .more) := by
  induction fs generalizing n with
  | nil => simp [bytesOf] at hn
  | cons f fs ih =>
    rw [bytesOf, List.flatMap_cons] at hn ⊢
    rcases Nat.lt_or_ge n f.bytes.length with hlt | hge
    · rw [at_cons_of_lt hlt] at ha
      rw [List.drop_append_of_le_length hlt.le, List.append_assoc, completeFrames_cons_of_lt hlt]
      obtain ⟨L₀, t₀, he⟩ := filterData_full (fs.flatMap Frame.bytes ++ y) hg ha hlt
      have tp := touches_push fd f.payload f.payload.length t₀.good
      rw [t₀.self] at tp
      obtain ⟨L₁, t₁, hm⟩ := pushMore_bytesOf hy fs tp.good tp.self
      refine ⟨L₁, f :: fs, t₀.trans (tp.trans t₁), rfl, ?_⟩
      rw [he, if_neg (by simp [hy])]
      exact congrArg _ hm
    · rw [at_cons_of_ge hge] at ha
      rw [List.length_append] at hn
      obtain ⟨L₁, new, t, hc, he⟩ := ih (n := n - f.bytes.length) ha (by rw [bytesOf]; omega)
      refine ⟨L₁, new, t, ?_, ?_⟩
      · rw [completeFrames_cons_of_ge hge, List.cons_append, ← hc]
      · rw [List.drop_append, List.drop_of_length_le hge, List.nil_append]
        exact he

/-! ## The chunks of one connection -/

/-- The chunks of one connection past the handshake. -/
def chunksOf (fd : Nat) (cs : List (List UInt8)) : List Chunk := cs.map fun b => ⟨fd, b, false⟩

/-- A run of two parts. -/
theorem run_append (L : Option Queue) (cs ds : List Chunk) :
    run L (cs ++ ds) = (run L cs).bind fun p => (run p.1 ds).map fun r => (r.1, p.2 ++ r.2) := by
  induction cs generalizing L with
  | nil =>
    simp only [List.nil_append, run, Except.bind]
    cases run L ds <;> rfl
  | cons c cs ih =>
    simp only [List.cons_append, run]
    cases feed L c with
    | error e => rfl
    | ok x =>
      simp only [Except.bind, ih]
      cases run x.1 cs with
      | error e => rfl
      | ok y =>
        simp only [Except.map]
        cases run y.1 ds with
        | error e => rfl
        | ok z => simp only [List.append_assoc]

/-- The chunks of a part of a well-formed stream, from any position in it. -/
theorem run_connection {fd : Nat} {fs : List Frame} {cs : List (List UInt8)} {L : Option Queue} {n : Nat} (hg : Good L)
    (h0 : packets L = []) (ha : At fd fs n (pending L fd)) (hne : ∀ b ∈ cs, b ≠ [])
    (hpre : cs.flatten <+: (bytesOf fs).drop n) :
    ∃ L' new, run L (chunksOf fd cs) = .ok (L', new.map (Frame.out fd)) ∧ Good L' ∧ packets L' = [] ∧
      At fd fs (n + cs.flatten.length) (pending L' fd) ∧
      completeFrames fs (n + cs.flatten.length) = completeFrames fs n ++ new := by
  induction cs generalizing L n with
  | nil => exact ⟨L, [], rfl, hg, h0, ha, (List.append_nil _).symm⟩
  | cons b cs ih =>
    rw [List.flatten_cons] at hpre
    obtain ⟨L₁, new, hf, ha₁, hc⟩ := feed_stream hg h0 ha (hne b (by simp)) ((List.prefix_append _ _).trans hpre)
    obtain ⟨hg₁, h0₁, -, -⟩ := feed_serves hg h0 hf
    have hpre₁ : cs.flatten <+: (bytesOf fs).drop (n + b.length) := by
      obtain ⟨t, ht⟩ := hpre
      rw [← List.drop_drop, ← ht, List.append_assoc, List.drop_left]
      exact List.prefix_append _ _
    obtain ⟨L₂, new₂, hr, hg₂, h0₂, ha₂, hc₂⟩ := ih hg₁ h0₁ ha₁ (fun c hm => hne c (List.mem_cons_of_mem _ hm)) hpre₁
    have e : n + (b :: cs).flatten.length = n + b.length + cs.flatten.length := by
      rw [List.flatten_cons, List.length_append]
      omega
    rw [e]
    refine ⟨L₂, new ++ new₂, ?_, hg₂, h0₂, ha₂, by rw [hc₂, hc, List.append_assoc]⟩
    unfold chunksOf at hr ⊢
    rw [List.map_cons]
    simp only [run, hf, Except.bind, hr, Except.map, List.map_append]

/-- All frames are complete at the end of the stream, and nothing is kept. -/
theorem completeFrames_all (fs : List Frame) : completeFrames fs (bytesOf fs).length = fs := by
  induction fs with
  | nil => rfl
  | cons f fs ih =>
    rw [bytesOf, List.flatMap_cons, List.length_append, completeFrames_cons_of_ge (Nat.le_add_right _ _),
      Nat.add_sub_cancel_left]
    exact congrArg _ ih

theorem at_all {fd : Nat} {fs : List Frame} {e : Option Uncomplete} (h : At fd fs (bytesOf fs).length e) : e = none := by
  induction fs with
  | nil => exact h
  | cons f fs ih =>
    rw [bytesOf, List.flatMap_cons, List.length_append, at_cons_of_ge (Nat.le_add_right _ _), Nat.add_sub_cancel_left] at h
    exact ih h

/-- The run up to a position in or right after the frames. -/
theorem run_frames {fd : Nat} (fs : List Frame) {cs : List (List UInt8)} {L : Option Queue} (hg : Good L)
    (h0 : packets L = []) (hp : pending L fd = none) (hne : ∀ b ∈ cs, b ≠ []) (hpre : cs.flatten <+: bytesOf fs) :
    ∃ L', run L (chunksOf fd cs) = .ok (L', (completeFrames fs cs.flatten.length).map (Frame.out fd)) ∧ Good L' ∧
      packets L' = [] ∧ At fd fs cs.flatten.length (pending L' fd) := by
  obtain ⟨L', new, hr, hg', h0', ha, hc⟩ := run_connection (n := 0) hg h0 ((at_zero fd fs _).2 hp) hne (by simpa using hpre)
  rw [Nat.zero_add, completeFrames_zero, List.nil_append] at hc
  rw [Nat.zero_add] at ha
  exact ⟨L', by rw [hc]; exact hr, hg', h0', ha⟩

/-- A chunk that ends with the first byte of the close frame: the frames are delivered and the byte is kept. -/
theorem feed_close_byte {fd : Nat} {fs : List Frame} {n : Nat} {L : Option Queue} (hg : Good L) (h0 : packets L = [])
    (ha : At fd fs n (pending L fd)) (hn : n ≤ (bytesOf fs).length) :
    ∃ L' new, feed L ⟨fd, (bytesOf fs).drop n ++ [firstByte 8], false⟩ = .ok (L', new.map (Frame.out fd)) ∧
      fs = completeFrames fs n ++ new ∧ Good L' ∧ pending L' fd = some (closeByteEntry fd) := by
  rcases Nat.lt_or_eq_of_le hn with hlt | heq
  · obtain ⟨L₁, new, t, hc, he⟩ := filterData_then (y := [firstByte 8]) hg ha hlt (by simp)
    have t' := t.trans (touches_save (closeByteEntry fd) t.good rfl t.self)
    have hpk := t'.packets
    rw [h0, List.nil_append, List.append_nil] at hpk
    obtain ⟨h1, h2, h3, h4⟩ := popAll_spec t'.good (length_packets_le t'.good)
    refine ⟨_, new, ?_, hc, h2, by rw [h4]; exact t'.self⟩
    unfold feed
    simp only [he, pushMore_close_byte, Except.map, h1, hpk, List.map_map]
    rfl
  · rw [heq] at ha ⊢
    have hp := at_all ha
    have t := touches_save (closeByteEntry fd) hg rfl hp
    refine ⟨some (saveUncomplete L (closeByteEntry fd)), [], ?_, by rw [completeFrames_all, List.append_nil], t.good, t.self⟩
    unfold feed filterData
    simp only [find_none_of_pending hg hp, List.drop_length, List.nil_append, filterFresh_close_byte,
      Except.map, List.map_nil]

/-- The run up to the first byte of the close frame. -/
theorem run_close_byte {fd : Nat} {fs : List Frame} {cs : List (List UInt8)} {L : Option Queue} (hg : Good L)
    (h0 : packets L = []) (hp : pending L fd = none) (hne : ∀ b ∈ cs, b ≠ [])
    (hcs : cs.flatten = bytesOf fs ++ [firstByte 8]) :
    ∃ L', run L (chunksOf fd cs) = .ok (L', fs.map (Frame.out fd)) ∧ Good L' ∧ pending L' fd = some (closeByteEntry fd) := by
  obtain rfl | ⟨cs, b, rfl⟩ := List.eq_nil_or_concat cs
  · simp at hcs
  · rw [List.concat_eq_append] at hne hcs ⊢
    -- the last chunk ends with the byte, since it is not empty
    obtain rfl | ⟨x, y, rfl⟩ := List.eq_nil_or_concat b
    · exact absurd rfl (hne [] (by simp))
    · rw [List.concat_eq_append, List.flatten_append, List.flatten_singleton, ← List.append_assoc] at hcs
      obtain ⟨hx, hy⟩ := List.append_inj' hcs rfl
      rw [List.singleton_inj] at hy
      subst hy
      obtain ⟨L₁, hr, hg₁, h0₁, ha⟩ := run_frames fs hg h0 hp (fun b hb => hne b (by simp [hb])) ⟨x, hx⟩
      have hn : cs.flatten.length ≤ (bytesOf fs).length := by rw [← hx, List.length_append]; omega
      have hxd : (bytesOf fs).drop cs.flatten.length = x := by rw [← hx, List.drop_left]
      obtain ⟨L₂, new, hf, hc, hg₂, hp₂⟩ := feed_close_byte hg₁ h0₁ ha hn
      rw [hxd] at hf
      refine ⟨L₂, ?_, hg₂, hp₂⟩
      unfold chunksOf at hr ⊢
      rw [List.map_append, run_append, hr]
      simp only [List.map_singleton, List.concat_eq_append, Except.bind, run, hf, Except.map, List.append_nil]
      rw [← List.map_append, ← hc]

/-! ## The chunk with the second byte of the close frame -/

/-- It begins with the close frame. -/
theorem feed_close {fd : Nat} {L : Option Queue} (hg : Good L) (hp : pending L fd = none) (b1 : UInt8) (t : List UInt8) :
    feed L ⟨fd, firstByte 8 :: b1 :: t, false⟩ = .ok (closeUncomplete L fd, [.wsclose fd]) := by
  unfold feed filterData
  simp only [find_none_of_pending hg hp, filterFresh_close]
  rfl

/-- It begins with the second byte. -/
theorem feed_close_rest {fd : Nat} {L : Option Queue} (hg : Good L)
    (hp : pending L fd = some (closeByteEntry fd)) (b1 : UInt8) (t : List UInt8) :
    ∃ L', pending L' fd = none ∧ feed L ⟨fd, b1 :: t, false⟩ =
      if (b1 :: t).length < headerSize then .ok (L', [.wsclose fd]) else .error .headerOverflow := by
  obtain ⟨q, hf, tq⟩ := find_some_of_pending hg hp
  refine ⟨closeUncomplete (some q) fd, (touches_close fd tq.good).self, ?_⟩
  unfold feed filterData
  simp only [hf, filterUncomplete_close]
  split_ifs <;> rfl

/-- It begins before the close frame. -/
theorem feed_close_behind {fd : Nat} (fs : List Frame) {n : Nat} {L : Option Queue} (hg : Good L)
    (ha : At fd fs n (pending L fd)) (hn : n < (bytesOf fs).length) (b1 : UInt8) (t : List UInt8) :
    feed L ⟨fd, (bytesOf fs).drop n ++ firstByte 8 :: b1 :: t, false⟩ = .error (.malloc (-3)) := by
  obtain ⟨L₁, new, -, -, he⟩ := filterData_then (y := firstByte 8 :: b1 :: t) hg ha hn (by simp)
  unfold feed
  simp only [he, pushMore_close]
  rfl

end SasyServer.Websocket
