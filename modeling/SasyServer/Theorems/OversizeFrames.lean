import SasyServer.Gateway.WsMessages
import SasyServer.Lemmas.PacketSizes
import SasyServer.Lib.Steps
import Mathlib.Data.List.TakeWhile

/-!
# Theorem: `handler.message` and the limit of a packet

`dispatch_msg` closes a client whose packet has `max_packsize` bytes or more, and the filter makes a packet of at least that
size of each longer frame, as long as the length is not read as a negative number or as a small one. A length read as a
number below -3 faults, so that only the rest of the lengths of 2^31 and more does harm: with these the client goes on. One
read as -1 looks like a header that is not complete, and the bytes that follow run over `header`.
-/

namespace SasyServer.WsMessages

open Websocket
open WsServer (Header Connection)

/-- No header that is read of the chunk declares a length of 2^31 or more that becomes, as an `int`, shorter than the limit
or one of the sentinels. -/
def harmlessStep (s : State) : Event → Prop
  | .data fd bytes => handeshake s.server fd = false → ∀ n ∈ lengthsRead (entryOf s fd) bytes, harmless n = true
  | _ => True

instance (s : State) : ∀ e, Decidable (harmlessStep s e)
  | .data fd bytes =>
    inferInstanceAs (Decidable (handeshake s.server fd = false → ∀ n ∈ lengthsRead (entryOf s fd) bytes, harmless n = true))
  | .msgOpen _ | .close _ | .error _ | .kick _ | .kickAll _ => .isTrue trivial

/-! ## The sizes below the limit -/

/-- The sizes of packets that `dispatch_msg` hands over, if it is called with them one after the other. -/
def below (sizes : List Int) : List Int := sizes.takeWhile fun n => n < WsServer.maxPacksize

theorem limitedSize_of_lt {n : Nat} (hn : n < WsServer.maxPacksize) : limitedSize n = n :=
  congrArg Int.ofNat (Nat.min_eq_left (Nat.le_of_lt hn))

/-- A length of the limit or more leads to no packet below the limit. -/
theorem limitedSize_of_ge {n : Nat} (hn : WsServer.maxPacksize ≤ n) : limitedSize n = WsServer.maxPacksize :=
  congrArg Int.ofNat (Nat.min_eq_right hn)

theorem limitedSize_nonneg (n : Nat) : 0 ≤ limitedSize n := Int.natCast_nonneg _

/-- The packets below the limit are those of the lengths before the first that reaches it. -/
theorem below_limitedSize (lengths : List Nat) :
    below (lengths.map limitedSize) = (lengths.takeWhile fun n => n < WsServer.maxPacksize).map Int.ofNat := by
  induction lengths with
  | nil => rfl
  | cons n lengths ih =>
    unfold below at ih ⊢
    rw [List.map_cons]
    rcases Nat.lt_or_ge n WsServer.maxPacksize with hlt | hge
    · have hsize := limitedSize_of_lt hlt
      rw [List.takeWhile_cons_of_pos (by rw [hsize]; simpa using hlt), List.takeWhile_cons_of_pos (by simpa using hlt),
        List.map_cons, ih, hsize]
      rfl
    · rw [List.takeWhile_cons_of_neg (by rw [limitedSize_of_ge hge]; simp),
        List.takeWhile_cons_of_neg (by simpa using hge), List.map_nil]

/-- With a length of the limit or more, the lengths after it do not count. -/
theorem takeWhile_append_of_ge {lengths : List Nat} (more : List Nat) (h : ∃ n ∈ lengths, WsServer.maxPacksize ≤ n) :
    (lengths ++ more).takeWhile (fun n => n < WsServer.maxPacksize) = lengths.takeWhile
      fun n => n < WsServer.maxPacksize := by
  induction lengths with
  | nil =>
    obtain ⟨n, hn, -⟩ := h
    cases hn
  | cons n lengths ih =>
    rcases Nat.lt_or_ge n WsServer.maxPacksize with hlt | hge
    · rw [List.cons_append, List.takeWhile_cons_of_pos (by simpa using hlt),
        List.takeWhile_cons_of_pos (by simpa using hlt), ih]
      obtain ⟨k, hk, hmax⟩ := h
      rcases List.mem_cons.1 hk with rfl | hk
      · exact absurd hlt (Nat.not_lt.2 hmax)
      · exact ⟨k, hk, hmax⟩
    · rw [List.cons_append, List.takeWhile_cons_of_neg (by simpa using hge), List.takeWhile_cons_of_neg (by simpa using hge)]

/-! ## Dispatching -/

/-- What is dispatched for a client leaves the queue and the other clients alone. -/
structure Apart (s s' : State) (fd : Nat) : Prop where
  queue : s'.queue = s.queue
  opened : s'.opened = s.opened
  ended : s'.ended = s.ended
  reads : s'.reads = s.reads
  connection : ∀ x, x ≠ fd → s'.server.connection x = s.server.connection x
  early : ∀ x, x ≠ fd → s'.early x = s.early x
  messages : ∀ x, x ≠ fd → s'.messages x = s.messages x

/-- No call of `handler.message` has reached the limit. -/
def Below (s : State) : Prop := ∀ fd, ∀ n ∈ s.calls fd, n < WsServer.maxPacksize

theorem closeclient_self (s : WsServer.State) (fd : Nat) : (WsServer.closeclient s fd).connection fd = none := by
  unfold WsServer.closeclient
  cases hc : s.connection fd with
  | none => exact hc
  | some c => simp

theorem closeclient_other (s : WsServer.State) {fd x : Nat} (h : x ≠ fd) :
    (WsServer.closeclient s fd).connection x = s.connection x := by
  unfold WsServer.closeclient
  cases s.connection fd with
  | none => rfl
  | some c => exact Function.update_of_ne h _ _

theorem msgWsclose_connection (s : WsServer.State) (fd : Nat) : (WsServer.msgWsclose s fd).connection = s.connection := by
  unfold WsServer.msgWsclose
  split
  · rfl
  · split <;> rfl

/-- A message of one client does not change the entry of another. -/
theorem dispatchMsg_other (s : WsServer.State) (m : WsServer.Message) {x : Nat} (h : x ≠ m.fd) :
    (WsServer.dispatchMsg s m).connection x = s.connection x := by
  unfold WsServer.dispatchMsg
  cases s.connection m.fd with
  | none => rfl
  | some c =>
    simp only
    split_ifs
    · exact closeclient_other s h
    · unfold WsServer.checkwebsocket
      cases WsServer.checkwebsocketValid m.header with
      | none => exact Function.update_of_ne h _ _
      | some refusal => exact closeclient_other s h
    · exact closeclient_other s h
    · rfl
    · rfl

/-- In the handshake, a request lets the client in, is refused, or changes nothing. -/
theorem dispatchMsg_handshake {s : WsServer.State} {m : WsServer.Message} (h : s.connection m.fd = some ⟨true, true⟩) :
    (WsServer.dispatchMsg s m).connection m.fd = none ∨ (WsServer.dispatchMsg s m).connection m.fd = some ⟨true, false⟩ := by
  unfold WsServer.dispatchMsg
  rw [h]
  simp only [if_true]
  split_ifs
  · exact Or.inl (closeclient_self s m.fd)
  · unfold WsServer.checkwebsocket
    cases WsServer.checkwebsocketValid m.header with
    | none => exact Or.inr (Function.update_self _ _ _)
    | some refusal => exact Or.inl (closeclient_self s m.fd)

/-- Past the handshake, a packet of the limit or more closes the client. -/
theorem dispatchMsg_past {s : WsServer.State} {m : WsServer.Message} (h : s.connection m.fd = some ⟨true, false⟩) :
    (WsServer.dispatchMsg s m).connection m.fd = if m.sz < WsServer.maxPacksize then some ⟨true, false⟩ else none := by
  unfold WsServer.dispatchMsg
  rw [h]
  simp only [if_true, Bool.false_eq_true, if_false]
  by_cases hlt : m.sz < WsServer.maxPacksize
  · rw [if_neg (Nat.not_le.2 hlt), if_pos hlt]
    exact h
  · rw [if_pos (Nat.not_lt.1 hlt), if_neg hlt]
    exact closeclient_self s m.fd

theorem dispatchMsg_none {s : WsServer.State} {m : WsServer.Message} (h : s.connection m.fd = none) :
    WsServer.dispatchMsg s m = s := by
  unfold WsServer.dispatchMsg
  rw [h]

variable {parse : List UInt8 → Header} {past : Bool}

/-- A packet is dispatched: its own client may be closed. -/
theorem dispatch_apart (s : State) (o : Out) : Apart s (dispatch parse past s o) o.fd := by
  cases o with
  | data fd payload size =>
    refine ⟨rfl, rfl, rfl, rfl, fun x hx => dispatchMsg_other _ _ hx, fun x hx => ?_, fun x hx => ?_⟩
    · unfold dispatch
      cases past with
      | true => rfl
      | false => exact Function.update_of_ne hx _ _
    · unfold dispatch
      cases past with
      | true => exact Function.update_of_ne hx _ _
      | false => rfl
  | wsclose fd =>
    exact ⟨rfl, rfl, rfl, rfl, fun x _ => congrFun (msgWsclose_connection _ _) x, fun _ _ => rfl, fun _ _ => rfl⟩

/-- One after the other. -/
theorem Apart.trans {s s' s'' : State} {fd : Nat} (h : Apart s s' fd) (h' : Apart s' s'' fd) : Apart s s'' fd where
  queue := h'.queue.trans h.queue
  opened := h'.opened.trans h.opened
  ended := h'.ended.trans h.ended
  reads := h'.reads.trans h.reads
  connection x hx := (h'.connection x hx).trans (h.connection x hx)
  early x hx := (h'.early x hx).trans (h.early x hx)
  messages x hx := (h'.messages x hx).trans (h.messages x hx)

/-- All packets of a client are dispatched. -/
theorem foldl_dispatch_apart {fd : Nat} (outs : List Out) (hfd : ∀ o ∈ outs, o.fd = fd) :
    ∀ s, Apart s (outs.foldl (dispatch parse past) s) fd := by
  induction outs with
  | nil => exact fun s => ⟨rfl, rfl, rfl, rfl, fun _ _ => rfl, fun _ _ => rfl, fun _ _ => rfl⟩
  | cons o outs ih =>
    intro s
    obtain rfl := hfd o List.mem_cons_self
    exact (dispatch_apart s o).trans (ih (fun o ho => hfd o (List.mem_cons_of_mem _ ho)) _)

theorem lt_of_handles {s : WsServer.State} {fd sz : Nat} (h : handles s fd sz = true) : sz < WsServer.maxPacksize := by
  unfold handles at h
  cases hc : s.connection fd with
  | none => simp [hc] at h
  | some c =>
    simp only [hc, Bool.and_eq_true, decide_eq_true_eq] at h
    exact h.2

/-- `dispatch_msg` checks the size. -/
theorem Below.dispatch {s : State} (h : Below s) (o : Out) : Below (dispatch parse past s o) := by
  cases o with
  | wsclose fd => exact h
  | data fd payload size =>
    intro x n hn
    have hnew : ∀ n ∈ if handles s.server fd size.toNat = true then [size.toNat] else [], n < WsServer.maxPacksize := by
      intro n hn
      split_ifs at hn with hh
      · rw [List.mem_singleton.1 hn]
        exact lt_of_handles hh
      · cases hn
    by_cases hx : x = fd
    · subst hx
      rcases List.mem_append.1 hn with hn | hn
      · unfold WsMessages.dispatch at hn
        cases past with
        | true => exact h x n (List.mem_append_left _ hn)
        | false =>
          simp only [Bool.false_eq_true, if_false, Function.update_self] at hn
          rcases List.mem_append.1 hn with hn | hn
          · exact h x n (List.mem_append_left _ hn)
          · exact hnew n hn
      · unfold WsMessages.dispatch at hn
        cases past with
        | true =>
          simp only [if_true, Function.update_self] at hn
          rcases List.mem_append.1 hn with hn | hn
          · exact h x n (List.mem_append_right _ hn)
          · exact hnew n hn
        | false => exact h x n (List.mem_append_right _ hn)
    · have ha := @dispatch_apart parse past s (.data fd payload size)
      unfold State.calls at hn
      rw [ha.early x hx, ha.messages x hx] at hn
      exact h x n hn

theorem Below.foldl {outs : List Out} : ∀ {s : State}, Below s → Below (outs.foldl (WsMessages.dispatch parse past) s) := by
  induction outs with
  | nil => exact fun h => h
  | cons o outs ih => exact fun h => ih (h.dispatch o)

theorem handles_none {s : WsServer.State} {fd : Nat} (h : s.connection fd = none) (sz : Nat) : handles s fd sz = false := by
  unfold handles
  rw [h]

theorem handles_past {s : WsServer.State} {fd : Nat} (h : s.connection fd = some ⟨true, false⟩) (sz : Nat) :
    handles s fd sz = decide (sz < WsServer.maxPacksize) := by
  unfold handles
  rw [h]
  rfl

/-- Without a connection, packets are dropped. -/
theorem foldl_dispatch_none {fd : Nat} (outs : List Out) (hfd : ∀ o ∈ outs, o.fd = fd) :
    ∀ s : State, s.server.connection fd = none →
    (outs.foldl (dispatch parse past) s).server.connection fd = none ∧
      (outs.foldl (dispatch parse past) s).messages fd = s.messages fd ∧
        (outs.foldl (dispatch parse past) s).early fd = s.early fd := by
  induction outs with
  | nil => exact fun s h => ⟨h, rfl, rfl⟩
  | cons o outs ih =>
    intro s h
    obtain rfl := hfd o List.mem_cons_self
    have hone : (dispatch parse past s o).server.connection o.fd = none ∧
      (dispatch parse past s o).messages o.fd = s.messages o.fd ∧
        (dispatch parse past s o).early o.fd = s.early o.fd := by
      cases o with
      | wsclose fd => exact ⟨(congrFun (msgWsclose_connection _ _) _).trans h, rfl, rfl⟩
      | data fd payload size =>
        have hd : WsServer.dispatchMsg s.server ⟨fd, size.toNat, parse payload⟩ = s.server := dispatchMsg_none h
        unfold dispatch
        simp only [Out.fd] at h ⊢
        rw [hd, handles_none h]
        cases past with
        | true => simp [h]
        | false => simp [h]
    obtain ⟨hc, hm, he⟩ := ih (fun o ho => hfd o (List.mem_cons_of_mem _ ho)) _ hone.1
    exact ⟨hc, hm.trans hone.2.1, he.trans hone.2.2⟩

/-- The packets of a handshake's chunk: the client is let in, is closed or still waits, and there are no
messages past the handshake. -/
theorem foldl_dispatch_handshake {fd : Nat} (outs : List Out) (hfd : ∀ o ∈ outs, o.fd = fd) : ∀ s : State,
    (s.server.connection fd = none ∨ s.server.connection fd = some ⟨true, true⟩ ∨
      s.server.connection fd = some ⟨true, false⟩) →
      ((outs.foldl (dispatch parse false) s).server.connection fd = none ∨
        (outs.foldl (dispatch parse false) s).server.connection fd = some ⟨true, true⟩ ∨
        (outs.foldl (dispatch parse false) s).server.connection fd = some ⟨true, false⟩) ∧
      (outs.foldl (dispatch parse false) s).messages fd = s.messages fd := by
  induction outs with
  | nil => exact fun s h => ⟨h, rfl⟩
  | cons o outs ih =>
    intro s h
    obtain rfl := hfd o List.mem_cons_self
    have hone : (dispatch parse false s o).server.connection o.fd = none ∨
        (dispatch parse false s o).server.connection o.fd = some ⟨true, true⟩ ∨
        (dispatch parse false s o).server.connection o.fd = some ⟨true, false⟩ := by
      cases o with
      | wsclose fd =>
        have hsame : (dispatch parse false s (.wsclose fd)).server.connection = s.server.connection :=
          msgWsclose_connection _ _
        rw [hsame]
        exact h
      | data fd payload size =>
        rcases h with h | h | h
        · have hd : WsServer.dispatchMsg s.server ⟨fd, size.toNat, parse payload⟩ = s.server := dispatchMsg_none h
          left
          exact (congrArg (fun t => t.connection fd) hd).trans h
        · have hd := dispatchMsg_handshake (m := ⟨fd, size.toNat, parse payload⟩) h
          rcases hd with hd | hd
          · exact Or.inl hd
          · exact Or.inr (Or.inr hd)
        · have hd := dispatchMsg_past (m := ⟨fd, size.toNat, parse payload⟩) h
          split_ifs at hd with hlt
          · exact Or.inr (Or.inr hd)
          · exact Or.inl hd
    have hmessages : (dispatch parse false s o).messages = s.messages := by
      cases o <;> rfl
    obtain ⟨hc, hm⟩ := ih (fun o ho => hfd o (List.mem_cons_of_mem _ ho)) _ hone
    exact ⟨hc, hm.trans (congrFun hmessages _)⟩

/-- The packets past the handshake are handed over up to the first that reaches the limit, which closes the client. -/
theorem foldl_dispatch_past {fd : Nat} (outs : List Out) (hfd : ∀ o ∈ outs, o.fd = fd)
    (hpos : ∀ n ∈ outSizes outs, 0 ≤ n) : ∀ s : State,
    s.server.connection fd = some ⟨true, false⟩ →
      ((outs.foldl (dispatch parse true) s).messages fd).map Int.ofNat = (s.messages fd).map Int.ofNat ++ below
        (outSizes outs) ∧
      (outs.foldl (dispatch parse true) s).early fd = s.early fd ∧
      ((outs.foldl (dispatch parse true) s).server.connection fd = none ∨
        (outs.foldl (dispatch parse true) s).server.connection fd = some ⟨true, false⟩ ∧
          below (outSizes outs) = outSizes outs) := by
  induction outs with
  | nil => exact fun s h => ⟨(List.append_nil _).symm, rfl, Or.inr ⟨h, rfl⟩⟩
  | cons o outs ih =>
    intro s h
    obtain rfl := hfd o List.mem_cons_self
    have hfd' : ∀ x ∈ outs, x.fd = o.fd := fun x hx => hfd x (List.mem_cons_of_mem _ hx)
    cases o with
    | wsclose fd =>
      have hsame : (dispatch parse true s (.wsclose fd)).server.connection = s.server.connection := msgWsclose_connection _ _
      exact ih hfd' hpos (dispatch parse true s (.wsclose fd)) ((congrFun hsame fd).trans h)
    | data fd payload size =>
      simp only [Out.fd] at h ih hfd' ⊢
      have hsizes : outSizes (.data fd payload size :: outs) = size :: outSizes outs := rfl
      rw [hsizes] at hpos ⊢
      have hsize : (size.toNat : Int) = size := Int.toNat_of_nonneg (hpos size List.mem_cons_self)
      have hd := dispatchMsg_past (m := ⟨fd, size.toNat, parse payload⟩) h
      have hmessages : (dispatch parse true s (.data fd payload size)).messages fd =
          s.messages fd ++ if size.toNat < WsServer.maxPacksize then [size.toNat] else [] := by
        unfold dispatch
        simp only [if_true, Function.update_self]
        rw [handles_past h]
        simp only [decide_eq_true_eq]
      rw [List.foldl_cons]
      by_cases hlt : size.toNat < WsServer.maxPacksize
      · rw [if_pos hlt] at hd hmessages
        obtain ⟨hm, he, hc⟩ :=
          ih hfd' (fun n hn => hpos n (List.mem_cons_of_mem _ hn)) (dispatch parse true s (.data fd payload size)) hd
        have hbelow : below (size :: outSizes outs) = size :: below (outSizes outs) := by
          unfold below
          rw [List.takeWhile_cons_of_pos]
          simp only [decide_eq_true_eq]
          omega
        rw [hbelow]
        refine ⟨?_, he, ?_⟩
        · rw [hm, hmessages, List.map_append, List.append_assoc, List.map_singleton]
          simp only [Int.ofNat_eq_natCast, hsize, List.singleton_append]
        · rcases hc with hc | ⟨hc, hall⟩
          · exact Or.inl hc
          · exact Or.inr ⟨hc, by rw [hall]⟩
      · rw [if_neg hlt] at hd hmessages
        rw [List.append_nil] at hmessages
        obtain ⟨hc, hm, he⟩ :=
          @foldl_dispatch_none parse true fd outs hfd' (dispatch parse true s (.data fd payload size)) hd
        have hbelow : below (size :: outSizes outs) = [] := by
          unfold below
          rw [List.takeWhile_cons_of_neg]
          simp only [decide_eq_true_eq]
          omega
        rw [hbelow, List.append_nil]
        exact ⟨by rw [← hmessages]; exact congrArg (List.map Int.ofNat) hm, he, Or.inl hc⟩

/-! ## Where a connection is -/

/-- Before the handshake is over no length has been read and no packet is being filled. Past it the lengths lead to the
packets that were handed over. Of a client that is closed, the first of the packets were. -/
inductive Phase (s : State) (fd : Nat) : Prop where
  | before (hc : s.server.connection fd = none ∨ s.server.connection fd = some ⟨true, true⟩ ∧ fd ∈ s.opened)
      (hin : inProgress (pending s.queue fd) = []) (hreads : s.reads fd = []) (hmessages : s.messages fd = [])
  | past (hc : s.server.connection fd = some ⟨true, false⟩) (hopened : fd ∈ s.opened)
      (hleads : Leads none (s.reads fd) ((s.messages fd).map Int.ofNat) (pending s.queue fd))
  | closed (hclosed : fd ∈ s.ended ∨ s.server.connection fd = none ∧ fd ∈ s.opened)
      (hmessages : (s.messages fd).map Int.ofNat <+: below ((s.reads fd).map limitedSize))

/-- What holds after every run whose lengths are harmless. -/
structure Inv (s : State) : Prop where
  good : Good s.queue
  packets : packets s.queue = []
  below : Below s
  phase : ∀ fd, Phase s fd

theorem inv_init (maxclient : Int) (socket : Nat) : Inv (.init maxclient socket) where
  good := good_none
  packets := packets_none
  below _ _ hn := by cases hn
  phase _ := .before (Or.inl rfl) rfl rfl rfl

theorem below_append {sizes : List Int} (more : List Int) (h : ∀ n ∈ sizes, n < WsServer.maxPacksize) :
    below (sizes ++ more) = sizes ++ below more :=
  List.takeWhile_append_of_pos fun n hn => decide_eq_true (h n hn)

theorem below_prefix {sizes more : List Int} (h : sizes <+: more) : below sizes <+: below more := by
  obtain ⟨rest, rfl⟩ := h
  unfold below
  rw [List.takeWhile_append]
  split_ifs
  · exact (List.takeWhile_prefix _).trans (List.prefix_append _ _)
  · exact List.prefix_refl _

/-- The messages as sizes. -/
theorem Below.messages {s : State} (h : Below s) (fd : Nat) :
    ∀ n ∈ (s.messages fd).map Int.ofNat, n < WsServer.maxPacksize := by
  intro n hn
  obtain ⟨k, hk, rfl⟩ := List.mem_map.1 hn
  exact Int.ofNat_lt.2 (h fd k (List.mem_append_right _ hk))

theorem below_messages {s : State} (h : Below s) (fd : Nat) :
    WsMessages.below ((s.messages fd).map Int.ofNat) = (s.messages fd).map Int.ofNat := by
  have happend := below_append [] (h.messages fd)
  rw [List.append_nil] at happend
  exact happend.trans (List.append_nil _)

/-- In every phase, the messages are the first of the packets below the limit. -/
theorem Phase.messages {s : State} {fd : Nat} (h : Phase s fd) (hb : Below s) :
    (s.messages fd).map Int.ofNat <+: WsMessages.below ((s.reads fd).map limitedSize) := by
  cases h with
  | before _ _ _ hmessages =>
    rw [hmessages]
    exact List.nil_prefix
  | past _ _ hleads =>
    rw [← below_messages hb fd]
    exact below_prefix ⟨_, hleads⟩
  | closed _ hmessages => exact hmessages

/-- Nothing happens for the client, or it is closed. -/
theorem Phase.kept {s s' : State} {fd : Nat} (h : Phase s fd) (hb : Below s)
    (hc : s'.server.connection fd = s.server.connection fd ∨ s'.server.connection fd = none)
    (hp : pending s'.queue fd = pending s.queue fd) (hr : s'.reads fd = s.reads fd) (hm : s'.messages fd = s.messages fd)
    (ho : ∀ x ∈ s.opened, x ∈ s'.opened) (he : ∀ x ∈ s.ended, x ∈ s'.ended) : Phase s' fd := by
  have hprefix := h.messages hb
  cases h with
  | before hconn hin hreads hmessages =>
    refine .before ?_ (by rw [hp, hin]) (hr.trans hreads) (hm.trans hmessages)
    rcases hc with hc | hc
    · rw [hc]
      exact hconn.imp id fun h => ⟨h.1, ho fd h.2⟩
    · exact Or.inl hc
  | past hconn hopened hleads =>
    rcases hc with hc | hc
    · exact .past (hc.trans hconn) (ho fd hopened) (by rw [hr, hm, hp]; exact hleads)
    · exact .closed (Or.inr ⟨hc, ho fd hopened⟩) (by rw [hr, hm]; exact hprefix)
  | closed hclosed hmessages =>
    refine .closed ?_ (by rw [hr, hm]; exact hmessages)
    rcases hclosed with hend | ⟨hnone, hopened⟩
    · exact Or.inl (he fd hend)
    · exact Or.inr ⟨hc.elim (fun h => h.trans hnone) id, ho fd hopened⟩

/-- The socket of the client closes. -/
theorem Phase.ends {s s' : State} {fd : Nat} (h : Phase s fd) (hb : Below s) (hr : s'.reads fd = s.reads fd)
    (hm : s'.messages fd = s.messages fd) (he : fd ∈ s'.ended) :
    Phase s' fd :=
  .closed (Or.inl he) (by rw [hr, hm]; exact h.messages hb)

/-! ## One event -/

theorem entryOf_eq {s : State} (hg : Good s.queue) (fd : Nat) : entryOf s fd = pending s.queue fd := by
  unfold entryOf
  cases hfind : findUncomplete s.queue fd with
  | none => exact (pending_of_find_none hfind).symm
  | some x => exact (touches_find hg hfind).1.symm

theorem handeshake_none {s : WsServer.State} {fd : Nat} (h : s.connection fd = none) : handeshake s fd = true := by
  unfold handeshake
  rw [h]

theorem handeshake_before {s : WsServer.State} {fd : Nat} (h : s.connection fd = some ⟨true, true⟩) :
    handeshake s fd = true := by
  unfold handeshake
  rw [h]
  rfl

theorem handeshake_past {s : WsServer.State} {fd : Nat} (h : s.connection fd = some ⟨true, false⟩) :
    handeshake s fd = false := by
  unfold handeshake
  rw [h]
  rfl

/-- The state in which the outputs of a chunk are dispatched. -/
def fed (s : State) (fd : Nat) (queue : Option Queue) (read : List Nat) : State :=
  { s with queue := queue, reads := Function.update s.reads fd (s.reads fd ++ read) }

theorem fed_reads (s : State) (fd : Nat) (queue : Option Queue) (read : List Nat) :
    (fed s fd queue read).reads fd = s.reads fd ++ read :=
  Function.update_self _ _ _

/-- A chunk that is received, and the outputs of the filter. -/
theorem receive_eq_some {s s' : State} {fd : Nat} {bytes : List UInt8} (h : receive parse s fd bytes = some s') :
    ∃ queue outs, feed s.queue ⟨fd, bytes, handeshake s.server fd⟩ = .ok (queue, outs) ∧
      s' = outs.foldl (dispatch parse !handeshake s.server fd)
        (fed s fd queue (if handeshake s.server fd then [] else lengthsRead (entryOf s fd) bytes)) := by
  unfold receive at h
  cases hfeed : feed s.queue ⟨fd, bytes, handeshake s.server fd⟩ with
  | error fault =>
    rw [hfeed] at h
    cases h
  | ok x =>
    rw [hfeed] at h
    exact ⟨x.1, x.2, rfl, (Option.some.inj h).symm⟩

/-- A chunk leaves the other clients alone. -/
theorem receive_other {s s' : State} {fd : Nat} {bytes : List UInt8} (hinv : Inv s)
    (h : receive parse s fd bytes = some s') :
    Good s'.queue ∧ packets s'.queue = [] ∧ Below s' ∧ s'.opened = s.opened ∧ s'.ended = s.ended ∧
      ∀ x, x ≠ fd → Phase s' x ∧ s'.reads x = s.reads x ∧ s'.calls x = s.calls x := by
  obtain ⟨queue, outs, hfeed, rfl⟩ := receive_eq_some h
  obtain ⟨hgood, hpackets, hother, hfd⟩ := feed_serves hinv.good hinv.packets hfeed
  simp only at hother hfd
  generalize (if handeshake s.server fd then [] else lengthsRead (entryOf s fd) bytes) = read
  have hb : Below (fed s fd queue read) := hinv.below
  have ha := @foldl_dispatch_apart parse (!handeshake s.server fd) fd outs hfd (fed s fd queue read)
  refine ⟨by rw [ha.queue]; exact hgood, by rw [ha.queue]; exact hpackets, hb.foldl, ha.opened, ha.ended, fun x hx => ?_⟩
  have hr := (congrFun ha.reads x).trans (Function.update_of_ne hx _ _)
  have hm := ha.messages x hx
  refine ⟨(hinv.phase x).kept hinv.below (Or.inl (ha.connection x hx)) ?_ hr hm (by rw [ha.opened]; exact fun _ h => h)
    (by rw [ha.ended]; exact fun _ h => h), hr, ?_⟩
  · rw [ha.queue]
    exact hother x hx
  · unfold State.calls
    rw [hm, ha.early x hx]
    rfl

/-- A chunk of a client without a connection. -/
theorem receive_none {s s' : State} {fd : Nat} {bytes : List UInt8} (hinv : Inv s) (hc : s.server.connection fd = none)
    (h : receive parse s fd bytes = some s') :
    s'.server.connection fd = none ∧ s'.reads fd = s.reads fd ∧ s'.messages fd = s.messages fd ∧
      s'.calls fd = s.calls fd := by
  obtain ⟨queue, outs, hfeed, rfl⟩ := receive_eq_some h
  have hfd := (feed_serves hinv.good hinv.packets hfeed).2.2.2
  simp only at hfd
  rw [handeshake_none hc, if_pos rfl]
  have ha := @foldl_dispatch_apart parse (!true) fd outs hfd (fed s fd queue [])
  obtain ⟨hc', hm, he⟩ := @foldl_dispatch_none parse (!true) fd outs hfd (fed s fd queue []) hc
  refine ⟨hc', by rw [ha.reads, fed_reads, List.append_nil], hm, ?_⟩
  unfold State.calls
  rw [hm, he]
  rfl

/-- A chunk in the handshake. -/
theorem receive_before {s s' : State} {fd : Nat} {bytes : List UInt8} (hinv : Inv s) (hc : handeshake s.server fd = true)
    (hconn : s.server.connection fd = none ∨ s.server.connection fd = some ⟨true, true⟩)
    (hin : inProgress (pending s.queue fd) = []) (h : receive parse s fd bytes = some s') :
    (s'.server.connection fd = none ∨ s'.server.connection fd = some ⟨true, true⟩ ∨
      s'.server.connection fd = some ⟨true, false⟩) ∧
      inProgress (pending s'.queue fd) = [] ∧ s'.reads fd = s.reads fd ∧ s'.messages fd = s.messages fd := by
  obtain ⟨queue, outs, hfeed, rfl⟩ := receive_eq_some h
  have hfd := (feed_serves hinv.good hinv.packets hfeed).2.2.2
  simp only at hfd
  rw [hc] at hfeed ⊢
  rw [if_pos rfl]
  have ha := @foldl_dispatch_apart parse (!true) fd outs hfd (fed s fd queue [])
  obtain ⟨hc', hm⟩ := @foldl_dispatch_handshake parse fd outs hfd (fed s fd queue []) (hconn.imp id Or.inl)
  refine ⟨hc', ?_, by rw [ha.reads, fed_reads, List.append_nil], hm⟩
  rw [ha.queue]
  exact feed_handshake hinv.good hinv.packets hin hfeed

/-- A chunk past the handshake: its lengths lead to packets, of which those before the first that reaches the
limit are handed over. -/
theorem receive_past {s s' : State} {fd : Nat} {bytes : List UInt8} (hinv : Inv s)
    (hc : s.server.connection fd = some ⟨true, false⟩)
    (hleads : Leads none (s.reads fd) ((s.messages fd).map Int.ofNat) (pending s.queue fd)) (hne : bytes ≠ [])
    (hharmless : ∀ n ∈ lengthsRead (entryOf s fd) bytes, harmless n = true) (h : receive parse s fd bytes = some s') :
    ∃ sizes, s'.reads fd = s.reads fd ++ lengthsRead (entryOf s fd) bytes ∧
      (s'.messages fd).map Int.ofNat = (s.messages fd).map Int.ofNat ++ below sizes ∧ s'.early fd = s.early fd ∧
      Leads none (s'.reads fd) ((s.messages fd).map Int.ofNat ++ sizes) (pending s'.queue fd) ∧
      (s'.server.connection fd = none ∨ s'.server.connection fd = some ⟨true, false⟩ ∧ below sizes = sizes) := by
  obtain ⟨queue, outs, hfeed, rfl⟩ := receive_eq_some h
  have hfd := (feed_serves hinv.good hinv.packets hfeed).2.2.2
  simp only at hfd
  rw [handeshake_past hc] at hfeed ⊢
  rw [if_neg (by decide)]
  have hentry := entryOf_eq hinv.good fd
  rw [hentry] at hharmless ⊢
  have hleads' := hleads.trans (feed_leads hinv.good hinv.packets hne hharmless hfeed)
  -- the sizes of complete packets are not negative
  have hpos : ∀ n ∈ outSizes outs, 0 ≤ n := by
    intro n hn
    have hmem : n ∈ (s.reads fd ++ lengthsRead (pending s.queue fd) bytes).map limitedSize := by
      unfold Leads at hleads'
      rw [inProgress, List.nil_append] at hleads'
      rw [← hleads']
      exact List.mem_append_left _ (List.mem_append_right _ hn)
    obtain ⟨k, -, rfl⟩ := List.mem_map.1 hmem
    exact limitedSize_nonneg k
  have ha := @foldl_dispatch_apart parse (!false) fd outs hfd (fed s fd queue (lengthsRead (pending s.queue fd) bytes))
  obtain ⟨hm, he, hc'⟩ :=
    @foldl_dispatch_past parse fd outs hfd hpos (fed s fd queue (lengthsRead (pending s.queue fd) bytes)) hc
  have hr := (congrFun ha.reads fd).trans (fed_reads s fd queue _)
  refine ⟨outSizes outs, hr, hm, he, ?_, hc'⟩
  rw [hr, ha.queue]
  exact hleads'

/-- An entry is only ever removed when a client is closed. -/
theorem closeFd_connection (s : WsServer.State) (fd x : Nat) :
    (WsServer.closeFd s fd).connection x = s.connection x ∨ (WsServer.closeFd s fd).connection x = none := by
  unfold WsServer.closeFd
  cases s.connection fd with
  | none => exact Or.inl rfl
  | some c =>
    by_cases hx : x = fd
    · subst hx
      exact Or.inr (Function.update_self _ _ _)
    · exact Or.inl (Function.update_of_ne hx _ _)

/-- So it is when the socket tells that a client is gone. -/
theorem msgClose_connection (s : WsServer.State) (fd x : Nat) :
    (WsServer.msgClose s fd).connection x = s.connection x ∨ (WsServer.msgClose s fd).connection x = none := by
  unfold WsServer.msgClose
  split
  · exact Or.inl rfl
  · split
    · exact closeFd_connection s fd x
    · exact Or.inl rfl

theorem msgError_connection (s : WsServer.State) (fd x : Nat) :
    (WsServer.msgError s fd).connection x = s.connection x ∨ (WsServer.msgError s fd).connection x = none := by
  unfold WsServer.msgError
  split
  · exact Or.inl rfl
  · exact closeFd_connection s fd x

/-- And when several clients are closed. -/
theorem foldl_closeclient_connection (fds : List Nat) (x : Nat) : ∀ s : WsServer.State,
    (fds.foldl WsServer.closeclient s).connection x = s.connection x ∨
      (fds.foldl WsServer.closeclient s).connection x = none := by
  induction fds with
  | nil => exact fun s => Or.inl rfl
  | cons fd fds ih =>
    intro s
    rcases ih (WsServer.closeclient s fd) with h | h
    · by_cases hx : x = fd
      · subst hx
        exact Or.inr (h.trans (closeclient_self s x))
      · exact Or.inl (h.trans (closeclient_other s hx))
    · exact Or.inr h

theorem msgOpen_other (s : WsServer.State) {fd x : Nat} (h : x ≠ fd) :
    (WsServer.msgOpen s fd).connection x = s.connection x := by
  unfold WsServer.msgOpen
  split
  · rfl
  · exact Function.update_of_ne h _ _

theorem msgOpen_self (s : WsServer.State) (fd : Nat) :
    (WsServer.msgOpen s fd).connection fd = s.connection fd ∨ (WsServer.msgOpen s fd).connection fd = some ⟨true, true⟩ := by
  unfold WsServer.msgOpen
  split
  · exact Or.inl rfl
  · exact Or.inr (Function.update_self _ _ _)

/-- A socket of a client ends: its unfinished packet goes, and its connection, if it has one. -/
theorem Inv.ended {s : State} (hinv : Inv s) (fd : Nat) {server : WsServer.State}
    (hc : ∀ x, server.connection x = s.server.connection x ∨ server.connection x = none) :
    Inv { s with queue := closeUncomplete s.queue fd, server := server, ended := fd :: s.ended } := by
  have ht := touches_close fd hinv.good
  refine ⟨ht.good, by rw [ht.packets, hinv.packets]; rfl, hinv.below, fun x => ?_⟩
  by_cases hx : x = fd
  · subst hx
    exact (hinv.phase x).ends hinv.below rfl rfl List.mem_cons_self
  · exact (hinv.phase x).kept hinv.below (hc x) (ht.other x hx) rfl rfl (fun _ h => h) fun _ h => List.mem_cons_of_mem _ h

/-- The server closes clients. -/
theorem Inv.closes {s : State} (hinv : Inv s) {server : WsServer.State}
    (hc : ∀ x, server.connection x = s.server.connection x ∨ server.connection x = none) : Inv { s with server := server } :=
  ⟨hinv.good, hinv.packets, hinv.below,
    fun x => (hinv.phase x).kept hinv.below (hc x) rfl rfl rfl (fun _ h => h) fun _ h => h⟩

/-- A client opens. -/
theorem Inv.opens {s : State} (hinv : Inv s) {fd : Nat} (hfd : fd ∉ s.opened) :
    Inv { s with server := WsServer.msgOpen s.server fd, opened := fd :: s.opened } := by
  refine ⟨hinv.good, hinv.packets, hinv.below, fun x => ?_⟩
  by_cases hx : x = fd
  · subst hx
    cases hinv.phase x with
    | before hc hin hreads hmessages =>
      refine .before ?_ hin hreads hmessages
      rcases hc with hc | ⟨-, hopened⟩
      · rcases msgOpen_self s.server x with h | h
        · exact Or.inl (h.trans hc)
        · exact Or.inr ⟨h, List.mem_cons_self⟩
      · exact absurd hopened hfd
    | past _ hopened _ => exact absurd hopened hfd
    | closed hclosed hmessages =>
      rcases hclosed with hend | ⟨-, hopened⟩
      · exact .closed (Or.inl hend) hmessages
      · exact absurd hopened hfd
  · exact (hinv.phase x).kept hinv.below (Or.inl (msgOpen_other s.server hx)) rfl rfl rfl
      (fun _ h => List.mem_cons_of_mem _ h) fun _ h => h

/-- A chunk of a client that has not ended. -/
theorem Inv.receive {s s' : State} (hinv : Inv s) {fd : Nat} {bytes : List UInt8} (hne : bytes ≠ []) (hend : fd ∉ s.ended)
    (hcond : harmlessStep s (.data fd bytes)) (h : receive parse s fd bytes = some s') : Inv s' := by
  obtain ⟨hgood, hpackets, hbelow, hopened', -, hother⟩ := receive_other hinv h
  have hself : Phase s' fd := by
    cases hinv.phase fd with
    | before hc hin hreads hmessages =>
      have hhand : handeshake s.server fd = true := hc.elim handeshake_none fun h => handeshake_before h.1
      obtain ⟨hc', hin', hr, hm⟩ := receive_before hinv hhand (hc.imp id And.left) hin h
      rcases hc with hc | ⟨-, hopened⟩
      · exact .before (Or.inl (receive_none hinv hc h).1) hin' (hr.trans hreads) (hm.trans hmessages)
      · rw [← hopened'] at hopened
        rcases hc' with hc' | hc' | hc'
        · exact .before (Or.inl hc') hin' (hr.trans hreads) (hm.trans hmessages)
        · exact .before (Or.inr ⟨hc', hopened⟩) hin' (hr.trans hreads) (hm.trans hmessages)
        · refine .past hc' hopened ?_
          rw [hr, hreads, hm, hmessages]
          exact leads_nil hin'
    | past hc hopened hleads =>
      have hread := hcond (handeshake_past hc)
      obtain ⟨sizes, hr, hm, -, hleads', hc'⟩ := receive_past hinv hc hleads hne hread h
      rcases hc' with hc' | ⟨hc', hall⟩
      · refine .closed (Or.inr ⟨hc', by rw [hopened']; exact hopened⟩) ?_
        rw [hm, ← below_append sizes (hinv.below.messages fd)]
        exact below_prefix ⟨_, hleads'⟩
      · refine .past hc' (by rw [hopened']; exact hopened) ?_
        rw [hm, hall]
        exact hleads'
    | closed hclosed hmessages =>
      obtain ⟨hc, hopened⟩ := hclosed.resolve_left hend
      obtain ⟨hc', hr, hm, -⟩ := receive_none hinv hc h
      exact .closed (Or.inr ⟨hc', by rw [hopened']; exact hopened⟩) (by rw [hm, hr]; exact hmessages)
  refine ⟨hgood, hpackets, hbelow, fun x => ?_⟩
  by_cases hx : x = fd
  · exact hx ▸ hself
  · exact (hother x hx).1

/-- One event. -/
theorem Inv.step {s s' : State} (hinv : Inv s) {e : Event} (hcond : harmlessStep s e)
    (h : step parse s e = some s') : Inv s' := by
  cases e with
  | msgOpen fd =>
    simp only [WsMessages.step, Option.ite_none_right_eq_some, Option.some.injEq] at h
    obtain ⟨⟨hfd, -⟩, rfl⟩ := h
    exact hinv.opens hfd
  | data fd bytes =>
    simp only [WsMessages.step, Option.ite_none_right_eq_some] at h
    exact hinv.receive h.1.1 h.1.2 hcond h.2
  | close fd =>
    obtain rfl := Option.some.inj h
    exact hinv.ended fd (msgClose_connection s.server fd)
  | error fd =>
    obtain rfl := Option.some.inj h
    exact hinv.ended fd (msgError_connection s.server fd)
  | kick fd =>
    obtain rfl := Option.some.inj h
    exact hinv.closes fun x => foldl_closeclient_connection [fd] x s.server
  | kickAll fds =>
    obtain rfl := Option.some.inj h
    exact hinv.closes fun x => foldl_closeclient_connection fds x s.server

/-! ## The theorem -/

/-- The messages past the handshake are those of the lengths before the first that reaches the
limit, or the first of them. -/
theorem Inv.frames {s : State} (hinv : Inv s) (fd : Nat) :
    s.messages fd <+: (s.reads fd).takeWhile fun n => n < WsServer.maxPacksize := by
  have h := (hinv.phase fd).messages hinv.below
  rw [below_limitedSize] at h
  exact (List.prefix_map_iff_of_injective Int.ofNat_injective).1 h

/-- Past the handshake, all packets below the limit have been handed over once a length reaches it. -/
theorem below_limitedSize_of_past {s : State} (hinv : Inv s) {fd : Nat}
    (hleads : Leads none (s.reads fd) ((s.messages fd).map Int.ofNat) (pending s.queue fd))
    (h : ∃ n ∈ s.reads fd, WsServer.maxPacksize ≤ n) :
    below ((s.reads fd).map limitedSize) = (s.messages fd).map Int.ofNat := by
  have hsizes : (s.messages fd).map Int.ofNat ++ inProgress (pending s.queue fd) = (s.reads fd).map limitedSize := hleads
  rw [← hsizes, below_append _ (hinv.below.messages fd)]
  have hrest : below (inProgress (pending s.queue fd)) = [] := by
    cases hentry : pending s.queue fd with
    | none => rfl
    | some uc =>
      rcases Int.lt_or_le uc.read 0 with hneg | hpos
      · rw [inProgress_of_neg hneg]
        rfl
      -- the packet that is being filled is the one of the length that reaches the limit
      rw [hentry, inProgress_of_nonneg hpos] at hsizes
      obtain ⟨n, hn, hge⟩ := h
      have hmem : limitedSize n ∈ (s.messages fd).map Int.ofNat ++ [uc.pack.size] := hsizes ▸ List.mem_map_of_mem hn
      rw [limitedSize_of_ge hge] at hmem
      rw [inProgress_of_nonneg hpos]
      rcases List.mem_append.1 hmem with hm | hm
      · exact absurd (hinv.below.messages fd _ hm) (Int.lt_irrefl _)
      · unfold below
        rw [← List.mem_singleton.1 hm, List.takeWhile_cons_of_neg (by simp)]
  rw [hrest, List.append_nil]

/-- Once a length has reached the limit, `handler.message` is not called for the client. -/
theorem Inv.silent {s s' : State} (hinv : Inv s) {e : Event} (hcond : harmlessStep s e)
    (h : WsMessages.step parse s e = some s') {fd : Nat} (hover : ∃ n ∈ s.reads fd, WsServer.maxPacksize ≤ n) :
    (∃ n ∈ s'.reads fd, WsServer.maxPacksize ≤ n) ∧ s'.calls fd = s.calls fd := by
  have hinv' := hinv.step hcond h
  cases e with
  | msgOpen x =>
    simp only [WsMessages.step, Option.ite_none_right_eq_some, Option.some.injEq] at h
    obtain ⟨-, rfl⟩ := h
    exact ⟨hover, rfl⟩
  | data x bytes =>
    simp only [WsMessages.step, Option.ite_none_right_eq_some] at h
    obtain ⟨⟨hne, hend⟩, h⟩ := h
    by_cases hx : fd = x
    swap
    · obtain ⟨-, hr, hcalls⟩ := (receive_other hinv h).2.2.2.2.2 fd hx
      exact ⟨by rw [hr]; exact hover, hcalls⟩
    subst hx
    cases hinv.phase fd with
    | before _ _ hreads _ =>
      obtain ⟨n, hn, -⟩ := hover
      rw [hreads] at hn
      cases hn
    | past hc _ hleads =>
      obtain ⟨sizes, hr, hm, he, -, -⟩ := receive_past hinv hc hleads hne (hcond (handeshake_past hc)) h
      obtain ⟨n, hn, hge⟩ := hover
      refine ⟨⟨n, by rw [hr]; exact List.mem_append_left _ hn, hge⟩, ?_⟩
      -- the messages stay the first packets below the limit, and these were all handed over
      have hnow : ((s.reads fd).takeWhile fun n => n < WsServer.maxPacksize) = s.messages fd := by
        refine List.map_injective_iff.2 Int.ofNat_injective ?_
        rw [← below_limitedSize, below_limitedSize_of_past hinv hleads ⟨n, hn, hge⟩]
      have hthen := hinv'.frames fd
      rw [hr, takeWhile_append_of_ge _ ⟨n, hn, hge⟩, hnow] at hthen
      have hgrow : s.messages fd <+: s'.messages fd :=
        (List.prefix_map_iff_of_injective Int.ofNat_injective).1 ⟨WsMessages.below sizes, hm.symm⟩
      unfold State.calls
      rw [he, hthen.eq_of_length_le hgrow.length_le]
    | closed hclosed _ =>
      obtain ⟨-, hr, -, hcalls⟩ := receive_none hinv (hclosed.resolve_left hend).1 h
      exact ⟨by rw [hr]; exact hover, hcalls⟩
  | close x =>
    obtain rfl := Option.some.inj h
    exact ⟨hover, rfl⟩
  | error x =>
    obtain rfl := Option.some.inj h
    exact ⟨hover, rfl⟩
  | kick x =>
    obtain rfl := Option.some.inj h
    exact ⟨hover, rfl⟩
  | kickAll fds =>
    obtain rfl := Option.some.inj h
    exact ⟨hover, rfl⟩

/-- What holds in a state `s` of a run that goes on to `t`, for a client: no message has the size of the limit or more, the
messages past the handshake are those of the frames before the first frame that reaches the limit, or the first of them, and
after that frame there are none. -/
structure Limited (s t : State) (fd : Nat) : Prop where
  below : ∀ n ∈ s.calls fd, n < WsServer.maxPacksize
  frames : s.messages fd <+: (s.reads fd).takeWhile fun n => n < WsServer.maxPacksize
  silent : (∃ n ∈ s.reads fd, WsServer.maxPacksize ≤ n) → t.calls fd = s.calls fd

/-- In every run whose lengths are harmless, for every client. -/
theorem limited_of_harmless (parse : List UInt8 → Header) (maxclient : Int) (socket : Nat)
    (before after : List Event) (s t : State) (hs : Steps.exec (step parse) (.init maxclient socket) before = some s)
    (ht : Steps.exec (step parse) s after = some t)
    (hharmless : Steps.Meets (step parse) harmlessStep (.init maxclient socket) (before ++ after)) (fd : Nat) :
    Limited s t fd := by
  have hinv :=
    Steps.exec_invariant (fun _ _ _ h hc hs => h.step hc hs) before _ s (inv_init maxclient socket) hharmless.take hs
  refine ⟨hinv.below fd, hinv.frames fd, fun hover => ?_⟩
  have hkept := Steps.exec_invariant
    (I := fun u => Inv u ∧ (∃ n ∈ u.reads fd, WsServer.maxPacksize ≤ n) ∧ u.calls fd = s.calls fd)
    (fun _ _ _ h hc hs => ⟨h.1.step hc hs, (h.1.silent hc hs h.2.1).1, (h.1.silent hc hs h.2.1).2.trans h.2.2⟩)
    after s t ⟨hinv, hover, rfl⟩ (hharmless.drop hs) ht
  exact hkept.2.2

/-- A header that asks for a websocket. -/
def upgrade : List UInt8 → Header := fun _ key =>
  if key = "upgrade" then some "websocket"
  else if key = "connection" then some "Upgrade"
  else if key = "sec-websocket-version" then some "13"
  else if key = "sec-websocket-key" then some "key"
  else none

/-- A client opens and sends a request without a line. -/
def opening (fd : Nat) : List Event := [.msgOpen fd, .data fd [13, 10, 13, 10]]

/-- A frame of one byte, the header of a frame of 10240 bytes, and its first bytes. -/
theorem limited_of_harmless_upgrade :
    ∃ s t, Steps.exec (step upgrade) (.init 2 1)
      (opening 5 ++ [.data 5 [129, 1, 65], .data 5 [129, 126, 40, 0, 66]]) = some s ∧
      Steps.exec (step upgrade) s [.data 5 [129, 1, 65]] = some t ∧ s.reads 5 = [1, 10240] ∧ s.messages 5 = [1] ∧
        Limited s t 5 := by
  have hrun : (Steps.exec (step upgrade) (.init 2 1)
    (opening 5 ++ [.data 5 [129, 1, 65], .data 5 [129, 126, 40, 0, 66]])).map
      (fun s => (s.reads 5, s.messages 5, (Steps.exec (step upgrade) s [.data 5 [129, 1, 65]]).isSome)) =
        some ([1, 10240], [1], true) := by
    decide +kernel
  obtain ⟨s, hs, heq⟩ := Option.map_eq_some_iff.1 hrun
  simp only [Prod.mk.injEq] at heq
  obtain ⟨hreads, hmessages, hsome⟩ := heq
  obtain ⟨t, ht⟩ := Option.isSome_iff_exists.1 hsome
  exact ⟨s, t, hs, ht, hreads, hmessages, limited_of_harmless upgrade 2 1 _ _ s t hs ht (by decide +kernel) 5⟩

/-- A frame of 2^32 + 5 bytes is handed over after its first five. -/
theorem oversize_handed_over :
    ¬∀ (parse : List UInt8 → Header) (maxclient : Int) (socket : Nat) (before after : List Event) (s t : State),
      Steps.exec (step parse) (.init maxclient socket) before = some s → Steps.exec (step parse) s after = some t →
        ∀ fd, Limited s t fd := by
  intro h
  have hrun : (Steps.exec (step upgrade) (.init 2 1)
    (opening 5 ++ [.data 5 [129, 127, 0, 0, 0, 1, 0, 0, 0, 5, 65, 66, 67, 68, 69]])).map
      (fun s => (s.reads 5, s.messages 5)) = some ([2 ^ 32 + 5], [5]) := by
    decide +kernel
  obtain ⟨s, hs, heq⟩ := Option.map_eq_some_iff.1 hrun
  simp only [Prod.mk.injEq] at heq
  obtain ⟨hreads, hmessages⟩ := heq
  have hframes := (h upgrade 2 1 _ [] s s hs rfl 5).frames
  rw [hreads, hmessages] at hframes
  exact absurd hframes.length_le (by decide)

end SasyServer.WsMessages
