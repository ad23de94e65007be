import SasyServer.Websocket.Filter

/-!
# Theorem: an upgrade request is delivered once, however it is cut

In the handshake the filter collects the bytes of a connection until they hold a CRLFCRLF. It looks for it in the chunk
itself, if nothing has been kept, and otherwise in what has been kept with one byte more. As the request is cut before its
end, nothing before the last byte holds it.
-/

namespace SasyServer.Websocket

/-- What `get_http_header` looks for. -/
def crlfcrlf : List UInt8 := [13, 10, 13, 10]

/-- A request that ends with its first CRLFCRLF. -/
structure Upgrade (request : List UInt8) : Prop where
  ends : ∃ lines, request = lines ++ crlfcrlf
  first : ∀ pre suf, request = pre ++ crlfcrlf ++ suf → suf = []

/-- The chunks of a connection in the handshake, in their order, and what `filter_data_` answers to each. -/
def filterAll (fd : Nat) : Option Queue → List (List UInt8) → Except Fault (Option Queue × List Result)
  | L, [] => .ok (L, [])
  | L, c :: cs => (filterData L fd c true).bind fun p => (filterAll fd p.1 cs).map fun r => (r.1, p.2 :: r.2)

/-! ## Where the terminator is found -/

theorem isPrefixOf_iff_eq_append {needle hay : List UInt8} : needle.isPrefixOf hay = true ↔ ∃ suf, hay = needle ++ suf := by
  rw [List.isPrefixOf_iff_prefix]
  exact ⟨fun ⟨suf, h⟩ => ⟨suf, h.symm⟩, fun ⟨suf, h⟩ => ⟨suf, h.symm⟩⟩

/-- The search finds nothing where there is nothing. -/
theorem websocketStrnpos_none {needle : List UInt8} :
    ∀ {hay : List UInt8} (i : Nat), (∀ pre suf, hay ≠ pre ++ needle ++ suf) → websocketStrnpos needle hay i = -1 := by
  intro hay
  induction hay with
  | nil => intro i _; rfl
  | cons b hay ih =>
    intro i h
    have hnot : ¬needle.isPrefixOf (b :: hay) = true := by
      rw [isPrefixOf_iff_eq_append]
      rintro ⟨suf, hsuf⟩
      exact h [] suf hsuf
    rw [websocketStrnpos, if_neg hnot]
    refine ih (i + 1) ?_
    intro pre suf hsuf
    exact h (b :: pre) suf (by rw [hsuf]; rfl)

/-- The search finds what is only at the end. -/
theorem websocketStrnpos_end {needle : List UInt8} (hne : needle ≠ []) :
    ∀ {pre : List UInt8} (i : Nat), (∀ pre' suf, pre ++ needle = pre' ++ needle ++ suf → suf = []) →
      websocketStrnpos needle (pre ++ needle) i = i + pre.length := by
  intro pre
  induction pre with
  | nil =>
    intro i _
    obtain ⟨b, rest, rfl⟩ := List.exists_cons_of_ne_nil hne
    have hpre : (b :: rest).isPrefixOf (b :: rest) = true := isPrefixOf_iff_eq_append.2 ⟨[], (List.append_nil _).symm⟩
    rw [List.nil_append, websocketStrnpos, if_pos hpre]
    exact (Int.add_zero _).symm
  | cons b pre ih =>
    intro i h
    have hnot : ¬needle.isPrefixOf (b :: (pre ++ needle)) = true := by
      rw [isPrefixOf_iff_eq_append]
      rintro ⟨suf, hsuf⟩
      have hnil := h [] suf hsuf
      subst hnil
      have hlen := congrArg List.length hsuf
      simp only [List.length_cons, List.length_append, List.length_nil] at hlen
      omega
    rw [List.cons_append, websocketStrnpos, if_neg hnot, ih (i + 1), List.length_cons]
    · push_cast
      omega
    · intro pre' suf hsuf
      exact h (b :: pre') suf (by rw [List.cons_append, hsuf]; rfl)

theorem getHttpHeader_eq (buffer : List UInt8) :
    getHttpHeader buffer =
      if websocketStrnpos crlfcrlf buffer 0 < 0 then websocketStrnpos crlfcrlf buffer 0
      else websocketStrnpos crlfcrlf buffer 0 + (crlfcrlf.length : Int) := rfl

section Request

variable {request : List UInt8}

theorem Upgrade.getHttpHeader_self (h : Upgrade request) : getHttpHeader request = request.length := by
  obtain ⟨lines, rfl⟩ := h.ends
  have hpos := websocketStrnpos_end (show crlfcrlf ≠ [] by decide) 0 h.first
  rw [getHttpHeader_eq, hpos, if_neg (by omega), List.length_append]
  push_cast
  omega

/-- What comes before the last byte does not hold the terminator. -/
theorem Upgrade.getHttpHeader_part (h : Upgrade request) {p y : List UInt8} (hp : request = p ++ y) (hy : y ≠ []) :
    getHttpHeader p = -1 := by
  have hnone : websocketStrnpos crlfcrlf p 0 = -1 := by
    refine websocketStrnpos_none 0 ?_
    intro pre suf hsuf
    have hnil := h.first pre (suf ++ y) (by rw [hp, hsuf, List.append_assoc])
    exact hy (List.append_eq_nil_iff.1 hnil).2
  rw [getHttpHeader_eq, hnone]
  rfl

/-! ## One chunk -/

/-- An entry with the first bytes of a request. -/
def headerEntry (fd : Nat) (header : List UInt8) : Uncomplete := ⟨⟨fd, 0, []⟩, header, -1, Mask.zero, false, 0⟩

theorem read_headerEntry (fd : Nat) (header : List UInt8) : (headerEntry fd header).read < 0 := by
  show (-1 : Int) < 0
  decide

/-- An entry that has been put in is found, and what is left is the table without it. -/
theorem findUncomplete_save (q : Queue) (uc : Uncomplete) :
    findUncomplete (some (saveUncomplete (some q) uc)) uc.pack.id = some (uc, q) := by
  unfold findUncomplete saveUncomplete getQueue
  simp [unlink]

/-- A first chunk that is not the whole request is kept. -/
theorem filterFresh_part (h : Upgrade request) (L : Option Queue) (fd : Nat) {c y : List UInt8}
    (hp : request = c ++ y) (hy : y ≠ []) (hlen : request.length ≤ headerSize) :
    filterFresh L fd c true = .ok (some (saveUncomplete (some (getQueue L)) (headerEntry fd c)), .none) := by
  have hc : ¬c.length > headerSize := by
    rw [hp, List.length_append] at hlen
    omega
  have hsave : saveHeader L fd c true = .ok (some (saveUncomplete (some (getQueue L)) (headerEntry fd c))) := by
    unfold saveHeader
    dsimp only
    rw [if_neg fun hh => hc hh.2, if_neg hc]
    rfl
  unfold filterFresh
  simp only [nextPack, if_true, h.getHttpHeader_part hp hy, hsave]
  rfl

/-- A first chunk that is the whole request is delivered. -/
theorem filterFresh_upgrade (h : Upgrade request) (L : Option Queue) (fd : Nat) :
    filterFresh L fd request true = .ok (L, .data fd request request.length) := by
  unfold filterFresh
  simp only [nextPack, if_true, h.getHttpHeader_self, Head.init, List.drop_zero, not_true_eq_false, and_false, if_false]
  rw [if_neg (by omega), if_neg (by omega)]
  rfl

/-- The bytes of the request that are moved to the entry. -/
theorem nextPack_byte (h : Upgrade request) {p y : List UInt8} {b : UInt8} (hp : request = p ++ b :: y)
    (hlen : request.length ≤ headerSize) :
    (if (true : Bool) ∧ (p ++ [b]).length > headerSize then ((headerSize : Int), Head.init, (p ++ [b]).take headerSize)
      else nextPack (p ++ [b]) true) = (if y = [] then (request.length : Int) else -1, Head.init, p ++ [b]) := by
  have hlt : ¬(p ++ [b]).length > headerSize := by
    rw [hp, List.length_append, List.length_cons] at hlen
    rw [List.length_append, List.length_singleton]
    omega
  have hp' : request = (p ++ [b]) ++ y := by rw [hp]; simp
  rw [if_neg fun hh => hlt hh.2, nextPack, if_pos rfl]
  by_cases hy : y = []
  · subst hy
    rw [List.append_nil] at hp'
    rw [if_pos rfl, ← hp', h.getHttpHeader_self]
  · rw [if_neg hy, h.getHttpHeader_part hp' hy]

/-- Bytes that do not complete the request. -/
theorem fillHeader_upgrade_part (h : Upgrade request) {p b y : List UInt8} (hp : request = p ++ b ++ y)
    (hb : b ≠ []) (hy : y ≠ []) (hlen : request.length ≤ headerSize) :
    fillHeader true p b = .ok (-1, Head.init, p ++ b, []) := by
  induction b generalizing p with
  | nil => exact absurd rfl hb
  | cons c b ih =>
    have hstep := nextPack_byte h (p := p) (b := c) (y := b ++ y) (by rw [hp]; simp) hlen
    rw [if_neg fun hnil => hy (List.append_eq_nil_iff.1 hnil).2] at hstep
    rw [fillHeader, if_neg (by rw [hp] at hlen; simp at hlen; omega)]
    dsimp only
    rw [hstep]
    by_cases hb0 : b = []
    · subst hb0
      rw [if_pos (Or.inr rfl)]
    · rw [if_neg fun hor => hor.elim (absurd · (by decide : ¬(-1 : Int) ≥ 0)) hb0, ih (by rw [hp]; simp) hb0,
        List.append_assoc]
      rfl

/-- Bytes that complete the request. -/
theorem fillHeader_upgrade_full (h : Upgrade request) {p b : List UInt8} (hp : request = p ++ b) (hb : b ≠ [])
    (hlen : request.length ≤ headerSize) : fillHeader true p b = .ok (request.length, Head.init, request, []) := by
  induction b generalizing p with
  | nil => exact absurd rfl hb
  | cons c b ih =>
    have hstep := nextPack_byte h hp hlen
    rw [fillHeader, if_neg (by rw [hp] at hlen; simp at hlen; omega)]
    dsimp only
    rw [hstep]
    by_cases hb0 : b = []
    · subst hb0
      rw [if_pos rfl, if_pos (Or.inr rfl), ← hp]
    · rw [if_neg hb0, if_neg fun hor => hor.elim (absurd · (by decide : ¬(-1 : Int) ≥ 0)) hb0, ih (by rw [hp]; simp) hb0]

/-- A chunk for an entry that does not complete the request. -/
theorem filterData_part (h : Upgrade request) (q : Queue) (fd : Nat) {p b y : List UInt8}
    (hp : request = p ++ b ++ y) (hb : b ≠ []) (hy : y ≠ []) (hlen : request.length ≤ headerSize) :
    filterData (some (saveUncomplete (some q) (headerEntry fd p))) fd b true =
      .ok (some (saveUncomplete (some q) (headerEntry fd (p ++ b))), .none) := by
  have hfind : findUncomplete (some (saveUncomplete (some q) (headerEntry fd p))) fd = some (headerEntry fd p, q) :=
    findUncomplete_save q (headerEntry fd p)
  have hfill : fillHeader true (headerEntry fd p).header b = .ok (-1, Head.init, p ++ b, []) :=
    fillHeader_upgrade_part h hp hb hy hlen
  rw [filterData, hfind]
  dsimp only
  rw [filterUncomplete, if_pos (read_headerEntry fd p), hfill]
  rfl

/-- The chunk that completes the request. -/
theorem filterData_upgrade (h : Upgrade request) (q : Queue) (fd : Nat) {p b : List UInt8}
    (hp : request = p ++ b) (hb : b ≠ []) (hlen : request.length ≤ headerSize) :
    filterData (some (saveUncomplete (some q) (headerEntry fd p))) fd b true = .ok
      (some q, .data fd request request.length) := by
  have hfind : findUncomplete (some (saveUncomplete (some q) (headerEntry fd p))) fd = some (headerEntry fd p, q) :=
    findUncomplete_save q (headerEntry fd p)
  have hfill : fillHeader true (headerEntry fd p).header b = .ok (request.length, Head.init, request, []) :=
    fillHeader_upgrade_full h hp hb hlen
  rw [filterData, hfind]
  dsimp only
  rw [filterUncomplete, if_pos (read_headerEntry fd p), hfill]
  simp only [Except.bind, if_true]
  rw [if_neg (by omega), if_neg (by omega), if_neg (by omega), fillPack]
  simp [decodeWsmaskData, Head.init]

/-! ## All chunks -/

/-- Chunks that are not empty hold something. -/
theorem flatten_ne_nil {cs : List (List UInt8)} (hcs : cs ≠ []) (hne : ∀ c ∈ cs, c ≠ []) : cs.flatten ≠ [] := by
  obtain ⟨c, cs', rfl⟩ := List.exists_cons_of_ne_nil hcs
  intro hnil
  exact hne c List.mem_cons_self (List.flatten_eq_nil_iff.1 hnil c List.mem_cons_self)

/-- The chunks after the first. -/
theorem filterAll_kept (h : Upgrade request) (hlen : request.length ≤ headerSize) (q : Queue) (fd : Nat) :
    ∀ (cs : List (List UInt8)) (p : List UInt8), cs ≠ [] → (∀ c ∈ cs, c ≠ []) → request = p ++ cs.flatten →
      filterAll fd (some (saveUncomplete (some q) (headerEntry fd p))) cs =
        .ok (some q, List.replicate (cs.length - 1) .none ++ [.data fd request request.length]) := by
  intro cs
  induction cs with
  | nil => exact fun _ hcs => absurd rfl hcs
  | cons c cs ih =>
    intro p _ hne hp
    rw [List.flatten_cons] at hp
    have hc := hne c List.mem_cons_self
    by_cases hlast : cs = []
    · subst hlast
      rw [List.flatten_nil, List.append_nil] at hp
      rw [filterAll, filterData_upgrade h q fd hp hc hlen]
      rfl
    · have hrest := flatten_ne_nil hlast fun d hd => hne d (List.mem_cons_of_mem c hd)
      have hp' : request = p ++ c ++ cs.flatten := by rw [hp, List.append_assoc]
      have hih := ih (p ++ c) hlast (fun d hd => hne d (List.mem_cons_of_mem _ hd)) hp'
      rw [filterAll, filterData_part h q fd hp' hc hrest hlen]
      simp only [Except.bind, hih, Except.map, List.length_cons, Nat.add_sub_cancel]
      obtain ⟨d, ds, rfl⟩ := List.exists_cons_of_ne_nil hlast
      rfl

end Request

/-- Every upgrade request of at most `HEADERSIZE` bytes that ends with its first CRLFCRLF, and every way to cut it:
each chunk but the last is answered with nothing, the last with the request, and then the connection has no entry, and
the queue is what it was. -/
theorem upgrade_delivered_once (L : Option Queue) (fd : Nat) (request : List UInt8) (h : Upgrade request)
    (hlen : request.length ≤ headerSize) (hfresh : findUncomplete L fd = none) (cs : List (List UInt8))
    (hne : ∀ c ∈ cs, c ≠ []) (hcs : cs.flatten = request) :
    ∃ L', filterAll fd L cs = .ok (L', List.replicate (cs.length - 1) .none ++ [.data fd request request.length]) ∧
      findUncomplete L' fd = none ∧ getQueue L' = getQueue L := by
  have hsome : findUncomplete (some (getQueue L)) fd = none := by
    cases L with
    | none => rfl
    | some q => exact hfresh
  cases cs with
  | nil =>
    obtain ⟨lines, rfl⟩ := h.ends
    exact absurd (List.append_eq_nil_iff.1 hcs.symm).2 (by decide)
  | cons c cs =>
    rw [List.flatten_cons] at hcs
    have hfilter : filterData L fd c true = filterFresh L fd c true := by
      rw [filterData, hfresh]
    by_cases hlast : cs = []
    · subst hlast
      rw [List.flatten_nil, List.append_nil] at hcs
      subst hcs
      refine ⟨L, ?_, hfresh, rfl⟩
      rw [filterAll, hfilter, filterFresh_upgrade h]
      rfl
    · have hrest := flatten_ne_nil hlast fun d hd => hne d (List.mem_cons_of_mem c hd)
      refine ⟨some (getQueue L), ?_, hsome, rfl⟩
      have hkept := filterAll_kept h hlen (getQueue L) fd cs c hlast (fun d hd => hne d (List.mem_cons_of_mem _ hd)) hcs.symm
      rw [filterAll, hfilter, filterFresh_part h L fd hcs.symm hrest hlen]
      simp only [Except.bind, hkept, Except.map, List.length_cons, Nat.add_sub_cancel]
      obtain ⟨d, ds, rfl⟩ := List.exists_cons_of_ne_nil hlast
      rfl

/-- `GET /` and an empty line. -/
def shortRequest : List UInt8 := [71, 69, 84, 32, 47, 13, 10, 13, 10]

/-- The short request is one for an upgrade. -/
theorem upgrade_shortRequest : Upgrade shortRequest := by
  refine ⟨⟨[71, 69, 84, 32, 47], rfl⟩, ?_⟩
  intro pre suf h
  have hlen := congrArg List.length h
  simp only [List.length_append, crlfcrlf, shortRequest, List.length_cons, List.length_nil] at hlen
  have hdrop := congrArg (fun l => (l.drop pre.length).take 4) h
  rw [List.append_assoc, List.drop_left, show 4 = crlfcrlf.length from rfl, List.take_left] at hdrop
  have hnot : ∀ k < 5, (shortRequest.drop k).take crlfcrlf.length ≠ crlfcrlf := by decide
  have hge : 5 ≤ pre.length := Nat.le_of_not_lt fun hlt => hnot pre.length hlt hdrop
  exact List.length_eq_zero_iff.1 (by omega)

/-- The terminator is cut after each of its bytes. -/
theorem upgrade_delivered_once_cut :
    ∃ L', filterAll 5 none [[71, 69, 84], [32, 47, 13], [10], [13], [10]] =
        .ok (L', List.replicate 4 .none ++ [.data 5 shortRequest shortRequest.length]) ∧
      findUncomplete L' 5 = none ∧ getQueue L' = getQueue none :=
  upgrade_delivered_once none 5 shortRequest upgrade_shortRequest (by decide) rfl
    [[71, 69, 84], [32, 47, 13], [10], [13], [10]]
    (by decide) rfl

end SasyServer.Websocket
