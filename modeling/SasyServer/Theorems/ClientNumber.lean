import SasyServer.Gateway.WsServer
import SasyServer.Lib.Steps

/-!
# Theorem: the client number of the websocket gate server, and the exact condition

`closeclient` takes the entry of the client out of `connection`, so the `close` that follows finds none and does not
count the client off. The number stays one too high for every client that closes without an entry, or after the
listening socket is gone.
-/

namespace SasyServer.WsServer

variable {s s' : State} {m : Nat}

/-- What an event leaves in `clientNumber` for good: an accepted client closes and is not counted off. -/
def leak (s : State) : Event → Nat
  | .close fd => if fd ∈ s.accepted ∧ (s.socket = none ∨ s.connection fd = none) then 1 else 0
  | .error fd => if fd ∈ s.accepted ∧ s.connection fd = none then 1 else 0
  | _ => 0

theorem leak_close (s : State) (fd : Nat) :
    leak s (.close fd) = if fd ∈ s.accepted ∧ (s.socket = none ∨ s.connection fd = none) then 1 else 0 := rfl

theorem leak_error (s : State) (fd : Nat) : leak s (.error fd) = if fd ∈ s.accepted ∧ s.connection fd = none then 1 else 0 :=
  rfl

/-- A client that closes still has its entry, and the gate server its listening socket. -/
def countedOff (s : State) : Event → Prop
  | .close fd => fd ∈ s.accepted → s.socket ≠ none ∧ s.connection fd ≠ none
  | .error fd => fd ∈ s.accepted → s.connection fd ≠ none
  | _ => True

instance countedOff.decidable (s : State) : ∀ e : Event, Decidable (countedOff s e)
  | .close _ => inferInstanceAs (Decidable (_ → _ ∧ _))
  | .error _ => inferInstanceAs (Decidable (_ → _))
  | .msgOpen _ | .data _ | .more _ | .wsclose _ | .kick _ | .kickAll _ => .isTrue trivial

theorem leak_eq_zero_iff (s : State) (e : Event) : leak s e = 0 ↔ countedOff s e := by
  cases e with
  | close fd => simp [leak, countedOff]
  | error fd => simp [leak, countedOff]
  | _ => exact iff_of_true rfl trivial

/-- The number is that of the accepted clients and of those not counted off, and none of them is the listening socket. -/
structure Counted (s : State) (m : Nat) : Prop where
  number : s.clientNumber = s.accepted.length + m
  client : ∀ fd ∈ s.accepted, s.socket ≠ some fd

theorem counted_init (maxclient : Int) (socket : Nat) : Counted (.init maxclient socket) 0 := ⟨rfl, by simp [State.init]⟩

/-- Only the entries of `connection` change. -/
theorem Counted.setConnection (h : Counted s m) (connection : Nat → Option Connection) :
    Counted { s with connection := connection } m := ⟨h.number, h.client⟩

theorem Counted.closeclient (h : Counted s m) (fd : Nat) : Counted (closeclient s fd) m := by
  unfold WsServer.closeclient
  split
  · exact h.setConnection _
  · exact h

/-- A packet is handled, or its client is closed and counted off. -/
theorem Counted.dispatchMsg (h : Counted s m) (msg : Message) : Counted (dispatchMsg s msg) m := by
  unfold WsServer.dispatchMsg
  split
  · rename_i c _
    split
    · split
      · split
        · exact h.closeclient msg.fd
        · unfold checkwebsocket
          cases checkwebsocketValid msg.header with
          | some refusal => exact h.closeclient msg.fd
          | none => exact h.setConnection _
      · split
        · exact h.closeclient msg.fd
        · exact h
    · exact h
  · exact h

/-- What every element of a list keeps, the list keeps. -/
theorem Counted.foldl {α : Type} {f : State → α → State} (keep : ∀ s a, Counted s m → Counted (f s a) m) (as : List α)
    (h : Counted s m) : Counted (as.foldl f s) m := by
  induction as generalizing s with
  | nil => exact h
  | cons a as ih => exact ih (keep s a h)

/-- A client is accepted and counted, or closed at once. -/
theorem Counted.msgOpen (h : Counted s m) {fd : Nat} (hfd : s.socket ≠ some fd) : Counted (msgOpen s fd) m := by
  unfold WsServer.msgOpen
  split
  · exact h
  · refine ⟨?_, fun x hx => ?_⟩
    · have := h.number
      simp only [List.length_cons]
      omega
    · rcases List.mem_cons.1 hx with rfl | hx
      · exact hfd
      · exact h.client x hx

/-- The listening socket is gone. -/
theorem Counted.unlisten (h : Counted s m) : Counted { s with socket := none } m := ⟨h.number, by simp⟩

theorem Counted.msgWsclose (h : Counted s m) (fd : Nat) : Counted (msgWsclose s fd) m := by
  unfold WsServer.msgWsclose
  split
  · exact h
  · split
    · exact h
    · exact h.unlisten

/-- A client that is not accepted closes. -/
theorem Counted.closed_of_not_mem (h : Counted s m) {fd : Nat} (hfd : fd ∉ s.accepted) : Counted (s.closed fd) m := by
  unfold State.closed
  rw [List.erase_of_not_mem hfd]
  exact h

/-- An accepted client closes and is not counted off. -/
theorem Counted.closed_of_mem (h : Counted s m) {fd : Nat} (hfd : fd ∈ s.accepted) : Counted (s.closed fd) (m + 1) := by
  refine ⟨?_, fun x hx => h.client x (List.mem_of_mem_erase hx)⟩
  have hn := h.number
  have hl := List.length_erase_of_mem hfd
  have hpos := List.length_pos_of_mem hfd
  simp only [State.closed]
  omega

/-- `close_fd` counts a client off that has its entry. -/
theorem Counted.closeFd_closed (h : Counted s m) {fd : Nat} (hmay : fd ∈ s.accepted ∨ s.connection fd = none) :
    Counted ((closeFd s fd).closed fd) (m + if fd ∈ s.accepted ∧ s.connection fd = none then 1 else 0) := by
  unfold closeFd
  cases hc : s.connection fd with
  | none =>
    by_cases hfd : fd ∈ s.accepted
    · rw [if_pos ⟨hfd, rfl⟩]
      exact h.closed_of_mem hfd
    · rw [if_neg fun hx => hfd hx.1]
      exact h.closed_of_not_mem hfd
  | some c =>
    have hfd : fd ∈ s.accepted := hmay.resolve_right (by simp [hc])
    rw [if_neg fun hx => by simp at hx]
    refine ⟨?_, fun x hx => h.client x (List.mem_of_mem_erase hx)⟩
    have hn := h.number
    have hl := List.length_erase_of_mem hfd
    have hpos := List.length_pos_of_mem hfd
    simp only [State.closed]
    omega

theorem mem_or_none_of_mayClose {fd : Nat} (hmay : mayClose s fd) (hfd : s.socket ≠ some fd) :
    fd ∈ s.accepted ∨ s.connection fd = none := by
  simpa [mayClose, hfd] using hmay

/-- A client that closes is counted off, if it has an entry. -/
theorem Counted.msgClose (h : Counted s m) {fd : Nat} (hmay : mayClose s fd) :
    Counted ((msgClose s fd).closed fd) (m + leak s (.close fd)) := by
  rw [leak_close]
  unfold WsServer.msgClose
  cases hs : s.socket with
  | none =>
    by_cases hfd : fd ∈ s.accepted
    · rw [if_pos ⟨hfd, Or.inl rfl⟩]
      exact h.closed_of_mem hfd
    · rw [if_neg fun hx => hfd hx.1]
      exact h.closed_of_not_mem hfd
  | some socket =>
    by_cases heq : fd = socket
    · have hfd : fd ∉ s.accepted := fun hm => h.client fd hm (by rw [hs, heq])
      rw [if_neg fun hx => hfd hx.1]
      simp only [heq, ne_eq, not_true_eq_false, if_false]
      exact h.unlisten.closed_of_not_mem (heq ▸ hfd)
    · have hne : s.socket ≠ some fd := by simpa [hs] using fun hx : socket = fd => heq hx.symm
      simp only [ne_eq, heq, not_false_eq_true, if_true, reduceCtorEq, false_or]
      exact h.closeFd_closed (mem_or_none_of_mayClose hmay hne)

/-- So is one with an error of the socket. -/
theorem Counted.msgError (h : Counted s m) {fd : Nat} (hmay : mayClose s fd) :
    Counted ((msgError s fd).closed fd) (m + leak s (.error fd)) := by
  rw [leak_error]
  unfold WsServer.msgError
  split
  · rename_i hs
    have hfd : fd ∉ s.accepted := fun hm => h.client fd hm hs
    rw [if_neg fun hx => hfd hx.1]
    exact h.closed_of_not_mem hfd
  · rename_i hs
    exact h.closeFd_closed (mem_or_none_of_mayClose hmay hs)

/-- One event keeps the count. -/
theorem Counted.step (h : Counted s m) {e : Event} (hs : step s e = some s') : Counted s' (m + leak s e) := by
  cases e with
  | msgOpen fd =>
    simp only [WsServer.step, Option.ite_none_right_eq_some, Option.some.injEq] at hs
    obtain ⟨⟨_, hfd⟩, rfl⟩ := hs
    exact h.msgOpen hfd
  | data msg => cases hs; exact h.dispatchMsg msg
  | more ms => cases hs; exact Counted.foldl (fun _ msg h => h.dispatchMsg msg) ms h
  | wsclose fd => cases hs; exact h.msgWsclose fd
  | close fd =>
    simp only [WsServer.step, Option.ite_none_right_eq_some, Option.some.injEq] at hs
    obtain ⟨hmay, rfl⟩ := hs
    exact h.msgClose hmay
  | error fd =>
    simp only [WsServer.step, Option.ite_none_right_eq_some, Option.some.injEq] at hs
    obtain ⟨hmay, rfl⟩ := hs
    exact h.msgError hmay
  | kick fd => cases hs; exact h.closeclient fd
  | kickAll fds => cases hs; exact Counted.foldl (fun _ fd h => h.closeclient fd) fds h

/-- In every run, the number is exact, and a client is refused only when there are as many as allowed, if and only if each
accepted client that closed was counted off. -/
theorem clientNumber_iff (maxclient : Int) (socket : Nat) (events : List Event) (t : State)
    (hrun : Steps.exec step (.init maxclient socket) events = some t) :
    (t.clientNumber = t.accepted.length ∧ (refuses t → t.maxclient ≤ t.accepted.length)) ↔
      Steps.Meets step countedOff (.init maxclient socket) events := by
  have hcount : Counted t (0 + Steps.total step leak (.init maxclient socket) events) :=
    Steps.exec_total (I := Counted) (C := fun _ _ => True) (fun _ _ _ _ h _ hs => h.step hs) events _ t 0
      (counted_init maxclient socket) (Steps.meets_of_forall (fun _ _ => trivial) events _) hrun
  have hnumber := hcount.number
  have hmeets : Steps.total step leak (.init maxclient socket) events = 0 ↔
      Steps.Meets step countedOff (.init maxclient socket) events := by
    rw [Steps.total_eq_zero_iff]
    simp only [leak_eq_zero_iff]
  rw [← hmeets]
  constructor
  · rintro ⟨hexact, -⟩
    omega
  · intro hzero
    have hexact : t.clientNumber = t.accepted.length := by omega
    exact ⟨hexact, fun hrefuse => hexact ▸ hrefuse⟩

/-- Two clients, of which one closes on its own. -/
theorem clientNumber_iff_two :
    ∃ t, Steps.exec step (.init 2 1) [.msgOpen 5, .msgOpen 6, .close 5, .wsclose 6] = some t ∧
      t.clientNumber = t.accepted.length ∧ (refuses t → t.maxclient ≤ t.accepted.length) :=
  ⟨_, rfl, (clientNumber_iff 2 1 [.msgOpen 5, .msgOpen 6, .close 5, .wsclose 6] _ rfl).2 (by decide +kernel)⟩

/-- A client that was kicked is never counted off: with no client left, the next one is refused. -/
theorem refuses_after_kick :
    ¬∀ (maxclient : Int) (socket : Nat) (events : List Event) (t : State),
      Steps.exec step (.init maxclient socket) events = some t →
        t.clientNumber = t.accepted.length ∧ (refuses t → t.maxclient ≤ t.accepted.length) := by
  intro h
  have hrefuse := (h 1 1 [.msgOpen 5, .kick 5, .close 5] _ rfl).2
  exact absurd (hrefuse (by decide)) (by decide)

end SasyServer.WsServer
