import Mathlib.Data.List.Basic

/-!
# The connections of a server

`service/tcpConnection.lua`: a service for each connection, here called by its address. The manager of the users tells a
connection who its user is (`setCache`, `clearCache`), every request of the client carries a copy of `_cache`, and a
connection that exits with a session in its cache dispatches an event with its user and itself. `_criticalSection` has one
request or exit at a time.

Messages are handled one at a time, in any order. The caller of `clearCache` waits for the answer, and `τ` is what it will do
then; an answer comes from a connection that has exited, too, since the call is protected. Left out are the requests of a
connection without a session and what a connection sends to the client.
-/

namespace SasyServer.TcpConnection

/-- `_cache` of a connection with a session: the connection, its user and, if there was one, the user's record. -/
structure Cache where
  agent : Nat
  userID : Nat
  sui : Option Nat
  deriving DecidableEq, Repr

/-- A message to a connection. -/
inductive Mail (τ : Type) where
  | setCache (cache : Cache)
  | clearCache (agent : Nat) (caller : τ)
  | exit (agent : Nat)
  deriving DecidableEq, Repr

/-- The connections: the caches that are set, the copies of them that requests in progress carry, who has exited,
the messages to connections, the answers to `clearCache`, and the disconnect events on their way to the manager,
each with user and connection. -/
structure Agents (τ : Type) where
  caches : List Cache
  requests : List Cache
  exited : List Nat
  mail : List (Mail τ)
  answers : List (Nat × τ)
  events : List (Nat × Nat)
  deriving DecidableEq, Repr

namespace Agents

variable {τ : Type}

/-- Nobody is connected. -/
def init : Agents τ := ⟨[], [], [], [], [], []⟩

/-- A request of the connection is in progress. -/
def busy (s : Agents τ) (agent : Nat) : Bool := s.requests.any fun c => c.agent = agent

/-- Messages to connections. -/
def send (s : Agents τ) (mail : List (Mail τ)) : Agents τ := { s with mail := s.mail ++ mail }

/-- `cmd_setCache`. -/
def setCache (s : Agents τ) (cache : Cache) : Agents τ :=
  if cache.agent ∈ s.exited then s else { s with caches := s.caches.filter (fun c => c.agent ≠ cache.agent) ++ [cache] }

/-- `cmd_clearCache`. -/
def clearCache (s : Agents τ) (agent : Nat) : Agents τ := { s with caches := s.caches.filter fun c => c.agent ≠ agent }

/-- `exit`. -/
def exit (s : Agents τ) (agent : Nat) : Agents τ :=
  { s with
    caches := s.caches.filter fun c => c.agent ≠ agent
    exited := agent :: s.exited
    events := s.events ++ (s.caches.filter fun c => c.agent = agent).map fun c => (c.userID, agent) }

/-- A message is handled. An exit waits for the request in progress. -/
def handle (s : Agents τ) : Mail τ → Option (Agents τ)
  | .setCache cache => some (s.setCache cache)
  | .clearCache agent caller => some { s.clearCache agent with answers := s.answers ++ [(agent, caller)] }
  | .exit agent => if s.busy agent then none else some (s.exit agent)

end Agents

/-- The `k`-th message is handled, a connection is closed, a request comes, or the `k`-th request is finished. -/
inductive Label where
  | deliver (k : Nat)
  | close (agent : Nat)
  | request (agent : Nat)
  | respond (k : Nat)
  deriving DecidableEq, Repr

/-- One label. -/
def step {τ : Type} (s : Agents τ) : Label → Option (Agents τ)
  | .deliver k => s.mail[k]?.bind fun m => Agents.handle { s with mail := s.mail.eraseIdx k } m
  | .close agent => if s.busy agent then none else some (s.exit agent)
  | .request agent =>
    if s.busy agent then none
    else (s.caches.find? fun c => c.agent = agent).map fun c => { s with requests := s.requests ++ [c] }
  | .respond k => s.requests[k]?.map fun _ => { s with requests := s.requests.eraseIdx k }

namespace Agents

variable {τ : Type}

/-- Who speaks for whom: the users of the caches and of the events, each with its connection. -/
def speakers (s : Agents τ) : List (Nat × Nat) := s.caches.map (fun c => (c.userID, c.agent)) ++ s.events

/-- The cache a message sets. -/
def cacheOf : Mail τ → Option Cache
  | .setCache cache => some cache
  | _ => none

/-- The copies of caches: those that are set, those of requests, and those on their way. -/
def copies (s : Agents τ) : List Cache := s.caches ++ s.requests ++ s.mail.filterMap cacheOf

theorem copies_send (s : Agents τ) (mail : List (Mail τ)) : (s.send mail).copies = s.copies ++ mail.filterMap cacheOf := by
  simp only [copies, send, List.filterMap_append, List.append_assoc]

theorem cacheOf_setCache (o : Option Cache) : (o.toList.map Mail.setCache).filterMap (cacheOf (τ := τ)) = o.toList := by
  cases o <;> rfl

/-- A connection that exits still speaks for its user, by its event. -/
theorem speakers_exit {s : Agents τ} {agent : Nat} {p : Nat × Nat} (h : p ∈ (s.exit agent).speakers) : p ∈ s.speakers := by
  simp only [speakers, exit, List.mem_append, List.mem_map, List.mem_filter, decide_eq_true_eq] at h ⊢
  rcases h with ⟨c, ⟨hc, -⟩, rfl⟩ | h | ⟨c, ⟨hc, rfl⟩, rfl⟩
  · exact Or.inl ⟨c, hc, rfl⟩
  · exact Or.inr h
  · exact Or.inl ⟨c, hc, rfl⟩

theorem speakers_setCache {s : Agents τ} {cache : Cache} {p : Nat × Nat} (h : p ∈ (s.setCache cache).speakers) :
    p ∈ s.speakers ∨ p = (cache.userID, cache.agent) := by
  unfold setCache at h
  split at h
  · exact Or.inl h
  · simp only [speakers, List.mem_append, List.mem_map, List.mem_filter, List.mem_singleton] at h ⊢
    rcases h with ⟨c, ⟨hc, -⟩ | rfl, rfl⟩ | h
    · exact Or.inl (Or.inl ⟨c, hc, rfl⟩)
    · exact Or.inr rfl
    · exact Or.inl (Or.inr h)

theorem speakers_clearCache {s : Agents τ} {agent : Nat} {p : Nat × Nat}
    (h : p ∈ (s.clearCache agent).speakers) : p ∈ s.speakers := by
  simp only [speakers, clearCache, List.mem_append, List.mem_map, List.mem_filter] at h ⊢
  rcases h with ⟨c, ⟨hc, -⟩, rfl⟩ | h
  · exact Or.inl ⟨c, hc, rfl⟩
  · exact Or.inr h

/-- Only by `setCache` a connection begins to speak for a user. -/
theorem speakers_step {s s' : Agents τ} {l : Label} (hs : step s l = some s') {p : Nat × Nat} (h : p ∈ s'.speakers) :
    p ∈ s.speakers ∨ ∃ k cache, l = .deliver k ∧ s.mail[k]? = some (.setCache cache) ∧ p = (cache.userID, cache.agent) := by
  cases l with
  | deliver k =>
    simp only [step, Option.bind_eq_some_iff] at hs
    obtain ⟨m, hm, hs⟩ := hs
    cases m with
    | setCache cache =>
      simp only [handle, Option.some.injEq] at hs
      subst hs
      rcases speakers_setCache h with h | h
      · exact Or.inl h
      · exact Or.inr ⟨k, cache, rfl, hm, h⟩
    | clearCache agent caller =>
      simp only [handle, Option.some.injEq] at hs
      subst hs
      have hclear : p ∈ (clearCache { s with mail := s.mail.eraseIdx k } agent).speakers := h
      exact Or.inl (speakers_clearCache hclear)
    | exit agent =>
      simp only [handle, Option.ite_none_left_eq_some, Option.some.injEq] at hs
      obtain ⟨-, rfl⟩ := hs
      exact Or.inl (speakers_exit h)
  | close agent =>
    simp only [step, Option.ite_none_left_eq_some, Option.some.injEq] at hs
    obtain ⟨-, rfl⟩ := hs
    exact Or.inl (speakers_exit h)
  | request agent =>
    simp only [step, Option.ite_none_left_eq_some, Option.map_eq_some_iff] at hs
    obtain ⟨-, c, -, rfl⟩ := hs
    exact Or.inl h
  | respond k =>
    simp only [step, Option.map_eq_some_iff] at hs
    obtain ⟨c, -, rfl⟩ := hs
    exact Or.inl h

/-- With fewer caches, requests and messages there are fewer copies. -/
theorem mem_copies_of_subset {s s' : Agents τ} {c : Cache} (h : c ∈ s'.copies) (hcaches : s'.caches ⊆ s.caches)
    (hrequests : s'.requests ⊆ s.requests) (hmail : s'.mail.filterMap cacheOf ⊆ s.mail.filterMap cacheOf) :
    c ∈ s.copies := by
  simp only [copies, List.mem_append] at h ⊢
  rcases h with (h | h) | h
  · exact Or.inl (Or.inl (hcaches h))
  · exact Or.inl (Or.inr (hrequests h))
  · exact Or.inr (hmail h)

/-- A step of the connections makes copies of copies only. -/
theorem copies_step {s s' : Agents τ} {l : Label} (hs : step s l = some s') {c : Cache}
    (h : c ∈ s'.copies) : c ∈ s.copies := by
  have hmail : ∀ k : Nat, (s.mail.eraseIdx k).filterMap cacheOf ⊆ s.mail.filterMap cacheOf := fun k =>
    ((List.eraseIdx_sublist s.mail k).filterMap _).subset
  cases l with
  | deliver k =>
    simp only [step, Option.bind_eq_some_iff] at hs
    obtain ⟨m, hm, hs⟩ := hs
    cases m with
    | setCache cache =>
      have hcache : cache ∈ s.mail.filterMap cacheOf := List.mem_filterMap.2 ⟨_, List.mem_of_getElem? hm, rfl⟩
      simp only [handle, setCache, Option.some.injEq] at hs
      subst hs
      simp only [copies, List.mem_append] at h ⊢
      split at h
      · rcases h with h | h
        · exact Or.inl h
        · exact Or.inr (hmail k h)
      · simp only [List.mem_append, List.mem_filter, List.mem_singleton] at h
        rcases h with ((⟨h, -⟩ | rfl) | h) | h
        · exact Or.inl (Or.inl h)
        · exact Or.inr hcache
        · exact Or.inl (Or.inr h)
        · exact Or.inr (hmail k h)
    | clearCache agent caller =>
      simp only [handle, clearCache, Option.some.injEq] at hs
      subst hs
      exact mem_copies_of_subset h (List.filter_sublist ..).subset (List.Subset.refl _) (hmail k)
    | exit agent =>
      simp only [handle, exit, Option.ite_none_left_eq_some, Option.some.injEq] at hs
      obtain ⟨-, rfl⟩ := hs
      exact mem_copies_of_subset h (List.filter_sublist ..).subset (List.Subset.refl _) (hmail k)
  | close agent =>
    simp only [step, exit, Option.ite_none_left_eq_some, Option.some.injEq] at hs
    obtain ⟨-, rfl⟩ := hs
    exact mem_copies_of_subset h (List.filter_sublist ..).subset (List.Subset.refl _) (List.Subset.refl _)
  | request agent =>
    simp only [step, Option.ite_none_left_eq_some, Option.map_eq_some_iff] at hs
    obtain ⟨-, c', hc', rfl⟩ := hs
    simp only [copies, List.mem_append, List.mem_singleton] at h ⊢
    rcases h with (h | h | rfl) | h
    · exact Or.inl (Or.inl h)
    · exact Or.inl (Or.inr h)
    · exact Or.inl (Or.inl (List.mem_of_find?_eq_some hc'))
    · exact Or.inr h
  | respond k =>
    simp only [step, Option.map_eq_some_iff] at hs
    obtain ⟨c', -, rfl⟩ := hs
    exact mem_copies_of_subset h (List.Subset.refl _) (List.eraseIdx_sublist ..).subset (List.Subset.refl _)

end Agents

end SasyServer.TcpConnection
