import SasyServer.Lemmas.CloseFrame

/-!
# Theorem: when the close frame is reported

A connection sends well-formed data frames and then a close frame, cut into chunks. The filter delivers the data frames and
reports the close exactly when a chunk begins at the first or the second byte of the close frame; a chunk that begins before
it and holds its first two bytes makes `pushMore` ask for -3 bytes of memory.
-/

namespace SasyServer.Websocket

/-- The data frames are delivered and the close frame is reported: the chunks up to some point lead to exactly these outputs,
and to no fault. What may follow of the close frame's own bytes is not looked at. -/
def ReportsClose (L : Option Queue) (fd : Nat) (fs : List Frame) (cs : List (List UInt8)) : Prop :=
  ∃ pre post L', cs = pre ++ post ∧ run L (chunksOf fd pre) = .ok (L', fs.map (Frame.out fd) ++ [.wsclose fd])

/-- A chunk begins at the byte `n` of the stream and holds two bytes or more, or begins at the byte after it and fits into
the `header` of an entry beside that byte. -/
def BeginsChunk (n : Nat) (cs : List (List UInt8)) : Prop :=
  ∃ pre c post, cs = pre ++ c :: post ∧
    ((pre.flatten.length = n ∧ 2 ≤ c.length) ∨ (pre.flatten.length = n + 1 ∧ c.length < headerSize))

/-- The chunk that holds a given byte of the stream. -/
theorem exists_chunk (cs : List (List UInt8)) (k : Nat) (hk : k < cs.flatten.length) :
    ∃ pre c post, cs = pre ++ c :: post ∧ pre.flatten.length ≤ k ∧ k < pre.flatten.length + c.length := by
  induction cs generalizing k with
  | nil => simp at hk
  | cons c cs ih =>
    rw [List.flatten_cons, List.length_append] at hk
    rcases Nat.lt_or_ge k c.length with hlt | hge
    · exact ⟨[], c, cs, rfl, Nat.zero_le _, by simpa using hlt⟩
    · obtain ⟨pre, d, post, hcs, h1, h2⟩ := ih (k - c.length) (by omega)
      refine ⟨c :: pre, d, post, by rw [hcs]; rfl, ?_, ?_⟩
      · rw [List.flatten_cons, List.length_append]
        omega
      · rw [List.flatten_cons, List.length_append]
        omega

/-- There is only one such chunk. -/
theorem chunk_unique {pre pre' post post' : List (List UInt8)} {c c' : List UInt8} {k : Nat}
    (h : pre ++ c :: post = pre' ++ c' :: post') (h1 : pre.flatten.length ≤ k) (h2 : k < pre.flatten.length + c.length)
    (h1' : pre'.flatten.length ≤ k) (h2' : k < pre'.flatten.length + c'.length) : pre = pre' ∧ c = c' := by
  induction pre generalizing pre' k with
  | nil =>
    cases pre' with
    | nil => exact ⟨rfl, (List.cons.inj h).1⟩
    | cons d pre' =>
      obtain ⟨rfl, -⟩ := List.cons.inj h
      rw [List.flatten_cons, List.length_append] at h1'
      rw [List.flatten_nil, List.length_nil] at h2
      omega
  | cons d pre ih =>
    cases pre' with
    | nil =>
      obtain ⟨rfl, -⟩ := List.cons.inj h
      rw [List.flatten_cons, List.length_append] at h1
      rw [List.flatten_nil, List.length_nil] at h2'
      omega
    | cons d' pre' =>
      obtain ⟨rfl, htail⟩ := List.cons.inj h
      rw [List.flatten_cons, List.length_append] at h1 h2 h1' h2'
      obtain ⟨rfl, rfl⟩ := ih (k := k - d.length) htail (by omega) (by omega) (by omega) (by omega)
      exact ⟨rfl, rfl⟩

/-- A chunk that is long enough to hold what comes first and two bytes more. -/
theorem eq_append_cons_cons {c p B tail : List UInt8} {x y : UInt8} (h : c ++ p = B ++ x :: y :: tail)
    (hlen : B.length + 1 < c.length) : ∃ t, c = B ++ x :: y :: t := by
  rcases List.append_eq_append_iff.1 h with ⟨a, rfl, -⟩ | ⟨a, rfl, ha⟩
  · rw [List.length_append] at hlen
    omega
  · match a, ha with
    | [], _ =>
      rw [List.append_nil] at hlen
      omega
    | [_], _ =>
      rw [List.length_append, List.length_singleton] at hlen
      omega
    | u :: v :: t, ha =>
      simp only [List.cons_append, List.cons.injEq] at ha
      exact ⟨t, by rw [ha.1, ha.2.1]⟩

/-- A run that delivers data only and whose next chunk faults reports no close, whatever comes after. -/
theorem not_reportsClose {L L' : Option Queue} {fd : Nat} {fs : List Frame} (gs : List Frame) (pre : List (List UInt8))
    {post : List (List UInt8)} {c : List UInt8}
    {e : Fault} (hrun : run L (chunksOf fd pre) = .ok (L', gs.map (Frame.out fd))) (hf : feed L' ⟨fd, c, false⟩ = .error e) :
    ¬ReportsClose L fd fs (pre ++ c :: post) := by
  rintro ⟨pre', post', L'', hcs, hr⟩
  unfold chunksOf at hrun hr
  rcases List.append_eq_append_iff.1 hcs with ⟨a, rfl, ha⟩ | ⟨a, rfl, -⟩
  · cases a with
    | nil =>
      rw [List.append_nil, hrun, Except.ok.injEq, Prod.mk.injEq] at hr
      have hm : Out.wsclose fd ∈ gs.map (Frame.out fd) := by rw [hr.2]; simp
      simp [Frame.out] at hm
    | cons d a =>
      obtain ⟨rfl, -⟩ := List.cons.inj ha
      rw [List.map_append, run_append, hrun, List.map_cons] at hr
      simp [run, hf, Except.bind, Except.map] at hr
  · rw [List.map_append, run_append, hr] at hrun
    simp only [Except.bind] at hrun
    cases hr' : run L'' (a.map fun b => ⟨fd, b, false⟩) with
    | error e => simp [hr', Except.map] at hrun
    | ok x =>
      simp only [hr', Except.map, Except.ok.injEq, Prod.mk.injEq] at hrun
      have hm : Out.wsclose fd ∈ gs.map (Frame.out fd) := by rw [← hrun.2]; simp
      simp [Frame.out] at hm

/-- A run that delivers the data and whose next chunk is answered with the close reports it. -/
theorem reportsClose_of_feed {L L' L'' : Option Queue} {fd : Nat} {fs : List Frame} {pre post : List (List UInt8)}
    {c : List UInt8} (hrun : run L (chunksOf fd pre) = .ok (L', fs.map (Frame.out fd)))
    (hf : feed L' ⟨fd, c, false⟩ = .ok (L'', [.wsclose fd])) : ReportsClose L fd fs (pre ++ c :: post) := by
  refine ⟨pre ++ [c], post, L'', by simp, ?_⟩
  unfold chunksOf at hrun ⊢
  rw [List.map_append, run_append, hrun]
  simp [run, hf, Except.bind, Except.map]

/-- The condition, at the chunk that holds the second byte. -/
theorem beginsChunk_iff {n : Nat} {pre post : List (List UInt8)} {c : List UInt8} (hne : ∀ b ∈ pre ++ c :: post, b ≠ [])
    (h1 : pre.flatten.length ≤ n + 1) (h2 : n + 1 < pre.flatten.length + c.length) :
    BeginsChunk n (pre ++ c :: post) ↔
      pre.flatten.length = n ∨ (pre.flatten.length = n + 1 ∧ c.length < headerSize) := by
  constructor
  · rintro ⟨pre', c', post', hcs', hor⟩
    have hc' : 0 < c'.length := List.length_pos_iff.2 (hne c' (by rw [hcs']; simp))
    obtain ⟨rfl, rfl⟩ := chunk_unique hcs' h1 h2 (by omega) (by omega)
    exact hor.imp And.left id
  · rintro (he | he)
    · exact ⟨pre, c, post, rfl, Or.inl ⟨he, by omega⟩⟩
    · exact ⟨pre, c, post, rfl, Or.inr he⟩

/-- The chunk that holds the second byte of the close frame decides. In front of it the data is delivered as far as it goes;
it is answered with the close, and leaves the connection without an unfinished packet, when it begins at the close frame's
first byte, or at its second one and is shorter than `HEADERSIZE`; else it faults. -/
theorem second_byte_decides {fd : Nat} {fs : List Frame} {b1 : UInt8} {tail : List UInt8} {pre post : List (List UInt8)}
    {c : List UInt8} {L : Option Queue} (hg : Good L) (h0 : packets L = []) (hp : pending L fd = none)
    (hne : ∀ b ∈ pre ++ c :: post, b ≠ []) (hcs : (pre ++ c :: post).flatten = bytesOf fs ++ firstByte 8 :: b1 :: tail)
    (h1 : pre.flatten.length ≤ (bytesOf fs).length + 1) (h2 : (bytesOf fs).length + 1 < pre.flatten.length + c.length) :
    ((pre.flatten.length = (bytesOf fs).length ∨
        (pre.flatten.length = (bytesOf fs).length + 1 ∧ c.length < headerSize)) ∧
      ∃ L' L'', run L (chunksOf fd pre) = .ok (L', fs.map (Frame.out fd)) ∧
        feed L' ⟨fd, c, false⟩ = .ok (L'', [.wsclose fd]) ∧ Good L'' ∧ packets L'' = [] ∧ pending L'' fd = none) ∨
    (¬(pre.flatten.length = (bytesOf fs).length ∨
        (pre.flatten.length = (bytesOf fs).length + 1 ∧ c.length < headerSize)) ∧
      ∃ (gs : List Frame) (L' : Option Queue) (e : Fault), run L (chunksOf fd pre) = .ok (L', gs.map (Frame.out fd)) ∧
        feed L' ⟨fd, c, false⟩ = .error e) := by
  have hpre : ∀ b ∈ pre, b ≠ [] := fun b hb => hne b (by simp [hb])
  rw [List.flatten_append, List.flatten_cons] at hcs
  rcases Nat.lt_trichotomy pre.flatten.length (bytesOf fs).length with hlt | heq | hgt
  · -- the chunk begins in the data frames
    have hB : bytesOf fs = pre.flatten ++ (bytesOf fs).drop pre.flatten.length := by
      have : pre.flatten <+: bytesOf fs :=
        List.prefix_of_prefix_length_le ⟨_, hcs⟩ (List.prefix_append _ _) hlt.le
      obtain ⟨B, hB⟩ := this
      rw [← hB, List.drop_left]
    have hdrop : ((bytesOf fs).drop pre.flatten.length).length = (bytesOf fs).length - pre.flatten.length := List.length_drop
    rw [hB, List.append_assoc, List.append_cancel_left_eq] at hcs
    obtain ⟨t, rfl⟩ := eq_append_cons_cons hcs (by omega)
    obtain ⟨L', hr, hg', h0', ha⟩ := run_frames fs hg h0 hp hpre ⟨_, hB.symm⟩
    exact Or.inr ⟨by omega, _, L', _, hr, feed_close_behind fs hg' ha hlt b1 t⟩
  · -- the chunk begins with the close frame
    obtain ⟨hB, htail⟩ := List.append_inj hcs heq
    obtain ⟨t, rfl⟩ := eq_append_cons_cons (B := []) htail (by simp only [List.length_nil]; omega)
    obtain ⟨L', hr, hg', h0', ha⟩ := run_frames fs hg h0 hp hpre ⟨[], by rw [List.append_nil, hB]⟩
    rw [hB] at ha hr
    rw [completeFrames_all] at hr
    have hf := feed_close hg' (at_all ha) b1 t
    obtain ⟨hg'', h0'', -, -⟩ := feed_serves hg' h0' hf
    exact Or.inl ⟨Or.inl heq, L', _, hr, hf, hg'', h0'', (touches_close fd hg').self⟩
  · -- the chunk begins with the second byte
    have heq : pre.flatten.length = (bytesOf fs ++ [firstByte 8]).length := by
      rw [List.length_append, List.length_singleton]
      omega
    rw [← List.singleton_append, ← List.append_assoc (bytesOf fs)] at hcs
    obtain ⟨hB, htail⟩ := List.append_inj hcs heq
    obtain ⟨L', hr, hg', hp'⟩ := run_close_byte hg h0 hp hpre hB
    obtain ⟨-, h0'⟩ := run_serves hg h0 hr
    cases c with
    | nil => exact absurd rfl (hne [] (by simp))
    | cons d t =>
      obtain ⟨L'', hp'', hf⟩ := feed_close_rest hg' hp' d t
      by_cases hl : (d :: t).length < headerSize
      · rw [if_pos hl] at hf
        obtain ⟨hg'', h0'', -, -⟩ := feed_serves hg' h0' hf
        exact Or.inl ⟨Or.inr ⟨by omega, hl⟩, L', L'', hr, hf, hg'', h0'', hp''⟩
      · rw [if_neg hl] at hf
        exact Or.inr ⟨by omega, fs, L', _, hr, hf⟩

/-- From any state the filter can be in in which the connection has no unfinished packet, for every sequence of data frames,
every close frame and every cut: the data is delivered and the close reported exactly when a chunk begins at the close
frame's first byte and holds its second one, or begins at its second byte and is shorter than `HEADERSIZE`. -/
theorem reportsClose_iff_beginsChunk (fd : Nat) (fs : List Frame) (b1 : UInt8) (tail : List UInt8) (cs : List (List UInt8))
    (history : List Chunk) (L : Option Queue) (before : List Out) (hhist : run none history = .ok (L, before))
    (hfresh : findUncomplete L fd = none) (hne : ∀ b ∈ cs, b ≠ [])
    (hcs : cs.flatten = bytesOf fs ++ firstByte 8 :: b1 :: tail) :
    ReportsClose L fd fs cs ↔ BeginsChunk (bytesOf fs).length cs := by
  obtain ⟨hg, h0⟩ := run_serves good_none packets_none hhist
  obtain ⟨pre, c, post, rfl, h1, h2⟩ := exists_chunk cs ((bytesOf fs).length + 1) (by
    rw [hcs]
    simp only [List.length_append, List.length_cons]
    omega)
  rw [beginsChunk_iff hne h1 h2]
  rcases second_byte_decides hg h0 (pending_of_find_none hfresh) hne hcs h1 h2 with
    ⟨hpos, L', L'', hr, hf, -, -, -⟩ | ⟨hpos, gs, L', e, hr, hf⟩
  · exact iff_of_true (reportsClose_of_feed hr hf) hpos
  · exact iff_of_false (not_reportsClose gs pre hr hf) hpos

/-- One data frame and the close frame in two chunks, the second of which begins with the close frame. -/
theorem reportsClose_iff_beginsChunk_apart :
    ReportsClose none 1 [⟨2, .short, none, [7], by decide, by decide, by decide⟩] [[0x82, 0x01, 0x07], [0x88, 0x00]] ↔
      BeginsChunk 3 [[0x82, 0x01, 0x07], [0x88, 0x00]] :=
  reportsClose_iff_beginsChunk 1 [⟨2, .short, none, [7], by decide, by decide, by decide⟩] 0 [] _ [] none [] rfl rfl
    (by decide) (by decide)

/-- The whole stream is taken without a fault, the close frame's own bytes after the report included, exactly when a chunk
begins at the close frame in that way and the chunks after it would be taken without a fault on a connection of their own:
`readSize` never looks at the length of a close frame, so that its payload, when it comes later, is taken for new frames. -/
theorem taken_iff_beginsChunk (fd : Nat) (fs : List Frame) (b1 : UInt8) (tail : List UInt8) (cs : List (List UInt8))
    {L : Option Queue} (hg : Good L) (h0 : packets L = []) (hp : pending L fd = none) (hne : ∀ b ∈ cs, b ≠ [])
    (hcs : cs.flatten = bytesOf fs ++ firstByte 8 :: b1 :: tail) :
    (∃ L' outs, run L (chunksOf fd cs) = .ok (L', outs)) ↔
      ∃ pre c post, cs = pre ++ c :: post ∧ (∃ L' outs, run none (chunksOf fd post) = .ok (L', outs)) ∧
        ((pre.flatten.length = (bytesOf fs).length ∧ 2 ≤ c.length) ∨
          (pre.flatten.length = (bytesOf fs).length + 1 ∧ c.length < headerSize)) := by
  obtain ⟨pre, c, post, rfl, h1, h2⟩ := exists_chunk cs ((bytesOf fs).length + 1) (by
    rw [hcs]
    simp only [List.length_append, List.length_cons]
    omega)
  have hfd : ∀ d ∈ chunksOf fd post, d.fd = fd := by
    intro d hd
    obtain ⟨b, -, rfl⟩ := List.mem_map.1 hd
    rfl
  have hsplit : chunksOf fd (pre ++ c :: post) = chunksOf fd pre ++ ⟨fd, c, false⟩ :: chunksOf fd post := by
    unfold chunksOf
    rw [List.map_append, List.map_cons]
  rw [hsplit, run_append]
  rcases second_byte_decides hg h0 hp hne hcs h1 h2 with
    ⟨hpos, L', L'', hr, hf, hg'', h0'', hp''⟩ | ⟨hpos, gs, L', e, hr, hf⟩
  · simp only [hr, run, hf, Except.bind]
    constructor
    · rintro ⟨M, outs, hM⟩
      cases hpost : run L'' (chunksOf fd post) with
      | error fault => simp only [hpost, Except.map, reduceCtorEq] at hM
      | ok x =>
        obtain ⟨M', hM'⟩ := run_alike hfd hg'' good_none h0'' packets_none hp'' hpost
        exact ⟨pre, c, post, rfl, ⟨M', _, hM'⟩, hpos.imp (fun he => ⟨he, by omega⟩) id⟩
    · rintro ⟨pre', c', post', hcs', ⟨M, outs, hM⟩, hor⟩
      have hc' : 0 < c'.length := List.length_pos_iff.2 (hne c' (by rw [hcs']; simp))
      obtain ⟨rfl, rfl⟩ := chunk_unique hcs' h1 h2 (by omega) (by omega)
      obtain ⟨-, rfl⟩ := List.cons.inj (List.append_cancel_left hcs')
      obtain ⟨M', hM'⟩ := run_alike hfd good_none hg'' packets_none h0'' hp''.symm hM
      exact ⟨M', fs.map (Frame.out fd) ++ ([.wsclose fd] ++ outs), by simp only [hM', Except.map]⟩
  · simp only [hr, run, hf, Except.bind]
    refine iff_of_false (by simp [Except.map]) ?_
    rintro ⟨pre', c', post', hcs', -, hor⟩
    exact hpos ((beginsChunk_iff hne h1 h2).1 ⟨pre', c', post', hcs', hor⟩)

/-- One data frame and the close frame in one chunk: the second call of `readSize` is in `pushMore`, and its -3 becomes the
size of an allocation. -/
theorem close_behind_frame_faults :
    run none (chunksOf 1 [[0x82, 0x01, 0x07, 0x88, 0x00]]) = .error (.malloc (-3)) ∧
      ¬ReportsClose none 1 [⟨2, .short, none, [7], by decide, by decide, by decide⟩] [[0x82, 0x01, 0x07, 0x88, 0x00]] := by
  have hf : feed none ⟨1, [0x82, 0x01, 0x07, 0x88, 0x00], false⟩ = .error (.malloc (-3)) :=
    feed_close_behind [⟨2, .short, none, [7], by decide, by decide, by decide⟩] (n := 0) good_none
      ((at_zero _ _ _).2 rfl) (by decide) 0 []
  refine ⟨?_, not_reportsClose [] [] rfl hf⟩
  unfold chunksOf
  simp only [List.map_singleton, run, hf]
  rfl

end SasyServer.Websocket
