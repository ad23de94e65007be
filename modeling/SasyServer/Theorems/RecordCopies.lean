import SasyServer.Lemmas.SessionRecords
import SasyServer.Lemmas.UserCopies

/-!
# Theorem: a record that a connection refers to is no other user's, as long as none is released of which there is a copy

A connection gives each request a copy of its cache, and the cache has a reference to the record of its user. The managers
release records without asking who has a copy: a game server only sends `exit` to the agent, and the login server clears the
cache while a request is in progress. So the next allocation may give the record to another user.
-/

namespace SasyServer

namespace Session

variable {account : Nat → Nat}

/-- The user for whom a label allocates a record, and the record. -/
def allocates (account : Nat → Nat) (s : Served) : ServedLabel → Option (Nat × Nat)
  | .manager (.registerUser platformID _) =>
    (s.manager.platformID platformID).bind fun i =>
      if (s.manager.items i).sui ≠ none then none else some (account platformID, s.manager.buffer.allocate.1)
  | _ => none

/-- The record in the cache of a connection or of a request is that of its user, and is not allocated for another one. -/
def Exclusive (account : Nat → Nat) (s : Served) (l : ServedLabel) : Prop :=
  ∀ c ∈ s.agents.caches ++ s.agents.requests, ∀ r, c.sui = some r →
    Owned s.manager c.userID r ∧ ∀ user, allocates account s l = some (user, r) → user = c.userID

theorem allocates_record {s : Served} {l : ServedLabel} {user r : Nat} (h : allocates account s l = some (user, r)) :
    r = s.manager.buffer.allocate.1 := by
  unfold allocates at h
  split at h
  · simp only [Option.bind_eq_some_iff, Option.ite_none_left_eq_some, Option.some.injEq, Prod.mk.injEq] at h
    obtain ⟨i, -, -, -, h⟩ := h
    exact h.symm
  · cases h

/-- A record that is owned is in use, and the pool gives another one. -/
theorem CopyInv.exclusive {s : Served} (h : CopyInv account s) (l : ServedLabel) : Exclusive account s l := by
  intro c hc r hr
  have howned := h.copies c (List.mem_append_left _ hc) r hr
  refine ⟨howned, ?_⟩
  intro user ha
  obtain ⟨i, hi, -⟩ := howned
  obtain ⟨-, hfree, -⟩ := CItemBuffer.allocate_spec h.wf.pool
  exact absurd (h.wf.inUse i r hi) (allocates_record ha ▸ hfree)

end Session

namespace UserManager

/-- The user for whom a label allocates a record, and the record. -/
def allocates (cfg : ServerConfig) (s : Served) : ServedLabel → Option (Nat × Nat)
  | .manager (.insertUserItem userInfo leastUserID) =>
    ((insertUserItem cfg s.manager userInfo leastUserID).filter fun m => m.buffer ≠ s.manager.buffer).map fun _ =>
      (userInfo.userID, s.manager.buffer.allocate.1)
  | _ => none

/-- The record in the cache of a connection or of a request is that of its user, and is not allocated for another one. -/
def Exclusive (cfg : ServerConfig) (s : Served) (l : ServedLabel) : Prop :=
  ∀ c ∈ s.agents.caches ++ s.agents.requests, ∀ i, c.sui = some i →
    Owned s.manager c.userID i ∧ ∀ user, allocates cfg s l = some (user, i) → user = c.userID

theorem allocates_record {cfg : ServerConfig} {s : Served} {l : ServedLabel} {user i : Nat}
    (h : allocates cfg s l = some (user, i)) :
    i = s.manager.buffer.allocate.1 := by
  unfold allocates at h
  split at h
  · simp only [Option.map_eq_some_iff, Prod.mk.injEq] at h
    obtain ⟨m, -, -, h⟩ := h
    exact h.symm
  · cases h

theorem CopyInv.exclusive {cfg : ServerConfig} {s : Served} (h : CopyInv s) (l : ServedLabel) : Exclusive cfg s l := by
  intro c hc i hi
  have howned := h.copies c (List.mem_append_left _ (List.mem_append_left _ (List.mem_append_left _ hc))) i hi
  refine ⟨howned, ?_⟩
  intro user ha
  obtain ⟨-, hfree, -⟩ := CItemBuffer.allocate_spec h.records.wf
  exact absurd howned.1 (allocates_record ha ▸ hfree)

end UserManager

namespace CItemBuffer

/-- Every run of the login server, and every run of a game server, whose labels meet the condition when they are taken: the
record that a connection or a request refers to is its user's, and no label allocates it for another one. -/
theorem record_exclusive_of_releaseSafe (account : Nat → Nat) (cfg : UserManager.ServerConfig)
    (login : List Session.ServedLabel) (game : List UserManager.ServedLabel) :
    (Steps.Meets (Session.servedStep account) (fun s l => Session.releaseSafe s l) .init login →
      Steps.Meets (Session.servedStep account) (Session.Exclusive account) .init login) ∧
    (Steps.Meets (UserManager.servedStep cfg) (fun s l => UserManager.releaseSafe s l) .init game →
      Steps.Meets (UserManager.servedStep cfg) (UserManager.Exclusive cfg) .init game) := by
  constructor
  · intro hsafe
    exact hsafe.of_invariant (fun _ _ _ h hc hs => Session.CopyInv.step h hc hs) (fun _ l h _ => h.exclusive l)
      Session.copyInv_init
  · intro hsafe
    exact hsafe.of_invariant (fun _ _ _ h hc hs => UserManager.CopyInv.step h hc hs) (fun _ l h _ => h.exclusive l)
      UserManager.copyInv_init

/-- A user of either server whose connection has no copy any more when the record is released, and another
user who gets the record. -/
theorem record_exclusive_of_releaseSafe_reused :
    Steps.Meets (Session.servedStep id) (Session.Exclusive id) .init
      [.manager (.registerSession "a" 1), .manager (.registerUser 1 7),
      .agents (.deliver 0), .agents (.request 7), .agents (.respond 0), .manager (.gsLogin "a" 6 1 5),
      .manager (.gameServerDisconnect 5 ["a"]), .agents (.deliver 0), .manager (.resume 0 []), .manager
        (.registerSession "b" 2),
      .manager (.registerUser 2 8)] ∧
    Steps.Meets (UserManager.servedStep ⟨1, 9⟩) (UserManager.Exclusive ⟨1, 9⟩) .init
      [.manager (.insertUserItem ⟨1, UserManager.invalidTable, UserManager.invalidChair, .usFree, 7, 1, 6, false, 0⟩ 0),
        .manager (.resume 0 true true), .inserted 0, .agents (.deliver 0), .agents (.request 7), .agents (.respond 0),
        .manager (.kickUser 1 true), .agents (.deliver 0), .manager (.resume 0 true true), .manager (.resume 0 true true),
        .manager (.insertUserItem ⟨2, UserManager.invalidTable, UserManager.invalidChair, .usFree, 8, 1, 6, false, 0⟩ 0)] :=
  have h := record_exclusive_of_releaseSafe id ⟨1, 9⟩
    [.manager (.registerSession "a" 1), .manager (.registerUser 1 7), .agents (.deliver 0), .agents (.request 7),
      .agents (.respond 0), .manager (.gsLogin "a" 6 1 5), .manager (.gameServerDisconnect 5 ["a"]), .agents (.deliver 0),
        .manager (.resume 0 []),
      .manager (.registerSession "b" 2), .manager (.registerUser 2 8)]
    [.manager (.insertUserItem ⟨1, UserManager.invalidTable, UserManager.invalidChair, .usFree, 7, 1, 6, false, 0⟩ 0),
      .manager (.resume 0 true true), .inserted 0, .agents (.deliver 0), .agents (.request 7), .agents (.respond 0),
      .manager (.kickUser 1 true), .agents (.deliver 0), .manager (.resume 0 true true), .manager (.resume 0 true true),
      .manager (.insertUserItem ⟨2, UserManager.invalidTable, UserManager.invalidChair, .usFree, 8, 1, 6, false, 0⟩ 0)]
  ⟨h.1 (by decide +kernel), h.2 (by decide +kernel)⟩

/-- A request of user 1 is in progress on the connection 7. The login server loses the game server of the user, clears the
cache and releases the record, or a game server kicks the user and releases the record; then user 2 comes and gets it. -/
theorem allocated_while_in_request :
    (¬∀ (account : Nat → Nat) (labels : List Session.ServedLabel),
      Steps.Meets (Session.servedStep account) (Session.Exclusive account) .init labels) ∧
    ¬∀ (cfg : UserManager.ServerConfig) (labels : List UserManager.ServedLabel),
      Steps.Meets (UserManager.servedStep cfg) (UserManager.Exclusive cfg) .init labels := by
  constructor
  · intro hall
    have h := (hall id
      ([.manager (.registerSession "a" 1), .manager (.registerUser 1 7), .agents (.deliver 0), .agents (.request 7),
      .manager (.gsLogin "a" 6 1 5), .manager (.gameServerDisconnect 5 ["a"]), .agents (.deliver 0), .manager (.resume 0 []),
      .manager (.registerSession "b" 2)] ++ [Session.ServedLabel.manager (.registerUser 2 8)])).drop rfl
    exact absurd ((h.1 ⟨7, 1, some 0⟩ (by decide) 0 rfl).2 2 rfl) (by decide)
  · intro hall
    have h := (hall ⟨1, 9⟩
      ([.manager (.insertUserItem ⟨1, UserManager.invalidTable, UserManager.invalidChair, .usFree, 7, 1, 6, false, 0⟩ 0),
        .manager (.resume 0 true true), .inserted 0, .agents (.deliver 0), .agents (.request 7), .manager (.kickUser 1 true),
        .manager (.resume 0 true true), .manager (.resume 0 true true)] ++
      [UserManager.ServedLabel.manager
        (.insertUserItem ⟨2, UserManager.invalidTable, UserManager.invalidChair, .usFree, 8, 1, 6, false, 0⟩ 0)])).drop rfl
    exact absurd ((h.1 ⟨7, 1, some 0⟩ (by decide) 0 rfl).2 2 rfl) (by decide)

end CItemBuffer

end SasyServer
