import SasyServer.Table.Frame

/-!
# Lemmas: the chairs of a table and its users

The invariant ties together the chairs of the table, the game data of the sink and the records of the users. While it holds,
`standUp` and `concludeGame` come to their end, and what they do is said by equations.
-/

namespace SasyServer.UserManager

/-- The number of a status. -/
def UserStatus.code : UserStatus → Nat
  | .usNull => 0
  | .usFree => 1
  | .usSit => 2
  | .usReady => 3
  | .usLookon => 4
  | .usPlaying => 5
  | .usOffline => 6

end SasyServer.UserManager

namespace SasyServer.TableFrame

open UserManager (UserStatus)

/-- The users, their records and the chairs agree: a record is that of its user, and the user in a chair has the table, the
chair and the status of one who sits. -/
structure Placed (cfg : ServerConfig) (s : State) : Prop where
  hash : ∀ userID r, s.userItemHash userID = some r → ∃ u, s.users r = some u ∧ u.userID = userID
  users : ∀ r u, s.users r = some u → s.userItemHash u.userID = some r
  sits : ∀ c r, s.chairs.lookup c = some r →
    ∃ u, s.users r = some u ∧ u.tableID = cfg.id ∧ u.chairID = c ∧ UserStatus.usSit.code ≤ u.userStatus.code
  pos : ∀ r u, s.users r = some u → u.userID ≠ 0

/-- The sink agrees with them too: a chair is taken if and only if there is game data for it. -/
structure Seated (cfg : ServerConfig) (s : State) : Prop extends Placed cfg s where
  data : ∀ c, s.gameData c = true ↔ c ∈ s.chairs

section Seated

variable {cfg : ServerConfig} {s : State} {r : Nat} {u : User}

/-- A step that changes neither the chairs nor the records. -/
theorem Placed.congr {s' : State} (h : Placed cfg s) (hc : s'.chairs = s.chairs) (hu : s'.users = s.users)
    (hh : s'.userItemHash = s.userItemHash) : Placed cfg s' := by
  refine ⟨?_, ?_, ?_, ?_⟩
  · rw [hh, hu]
    exact h.hash
  · rw [hh, hu]
    exact h.users
  · rw [hu, hc]
    exact h.sits
  · rw [hu]
    exact h.pos

theorem Seated.congr {s' : State} (h : Seated cfg s) (hc : s'.chairs = s.chairs) (hd : s'.gameData = s.gameData)
    (hu : s'.users = s.users) (hh : s'.userItemHash = s.userItemHash) : Seated cfg s' := by
  refine ⟨h.toPlaced.congr hc hu hh, ?_⟩
  rw [hd, hc]
  exact h.data

/-- A user sits in the chair of the record, or nowhere. -/
theorem Placed.lookup_iff (h : Placed cfg s) (hu : s.users r = some u) (c : Nat) :
    s.chairs.lookup c = some r ↔ s.chairs.lookup u.chairID = some r ∧ u.chairID = c := by
  constructor
  · intro hc
    obtain ⟨u', hu', -, rfl, -⟩ := h.sits c r hc
    obtain rfl := Option.some.inj (hu.symm.trans hu')
    exact ⟨hc, rfl⟩
  · rintro ⟨hc, rfl⟩
    exact hc

/-- The record of a user who sits. -/
theorem Placed.record_of_sits (h : Placed cfg s) (hu : s.users r = some u) (hc : s.chairs.lookup u.chairID = some r) :
    u.tableID = cfg.id ∧ UserStatus.usSit.code ≤ u.userStatus.code := by
  obtain ⟨u', hu', ht, -, hs⟩ := h.sits _ _ hc
  obtain rfl := Option.some.inj (hu.symm.trans hu')
  exact ⟨ht, hs⟩

/-- `setUserStatus` on the record of a user. Only a user who sits without game data is an error. -/
theorem setUserStatus_eq (h : Placed cfg s) (hu : s.users r = some u) (st : UserStatus) (t c : Nat)
    (hoff : st = .usOffline → s.gameData u.chairID) :
    setUserStatus cfg s u.userID st t c = .ok (writeUser s u.userID r u st t c) := by
  rw [setUserStatus, h.users r u hu]
  simp only [hu]
  rw [if_neg]
  rintro ⟨hst, -, -, hd⟩
  exact hd (hoff hst)

/-- The records after a write. -/
theorem users_writeUser (s : State) (userID r : Nat) (u : User) (st : UserStatus) (t c : Nat) :
    (writeUser s userID r u st t c).users = Function.update s.users r
      (if st = .usNull then none else some { u with userStatus := st, tableID := t, chairID := c }) := by
  unfold writeUser
  split <;> rfl

theorem userItemHash_writeUser (s : State) (userID r : Nat) (u : User) (st : UserStatus) (t c : Nat) :
    (writeUser s userID r u st t c).userItemHash =
      if st = .usNull then Function.update s.userItemHash userID none else s.userItemHash := by
  unfold writeUser
  split <;> rfl

/-- A write leaves the table alone. -/
theorem writeUser_eq (s : State) (userID r : Nat) (u : User) (st : UserStatus) (t c : Nat) :
    writeUser s userID r u st t c =
      { s with
        users := (writeUser s userID r u st t c).users
        userItemHash := (writeUser s userID r u st t c).userItemHash } := by
  unfold writeUser
  split <;> rfl

/-- The records and the hash still belong together after a write. -/
theorem Placed.directory (h : Placed cfg s) (hu : s.users r = some u) (st : UserStatus) (t c : Nat) :
    (∀ userID r', (writeUser s u.userID r u st t c).userItemHash userID = some r' →
      ∃ u', (writeUser s u.userID r u st t c).users r' = some u' ∧ u'.userID = userID) ∧
    (∀ r' u', (writeUser s u.userID r u st t c).users r' = some u' →
      (writeUser s u.userID r u st t c).userItemHash u'.userID = some r') ∧
    ∀ r' u', (writeUser s u.userID r u st t c).users r' = some u' → u'.userID ≠ 0 := by
  rw [users_writeUser, userItemHash_writeUser]
  by_cases hst : st = .usNull
  · rw [if_pos hst, if_pos hst]
    refine ⟨?_, ?_, ?_⟩
    · intro userID r' hr'
      by_cases hid : userID = u.userID
      · rw [hid, Function.update_self] at hr'
        cases hr'
      · rw [Function.update_of_ne hid] at hr'
        obtain ⟨u', hu', huid⟩ := h.hash userID r' hr'
        refine ⟨u', ?_, huid⟩
        rw [Function.update_of_ne, hu']
        rintro rfl
        rw [hu] at hu'
        exact hid (by rw [Option.some.inj hu', huid])
    · intro r' u' hu'
      by_cases hr : r' = r
      · rw [hr, Function.update_self] at hu'
        cases hu'
      · rw [Function.update_of_ne hr] at hu'
        rw [Function.update_of_ne, h.users r' u' hu']
        intro hid
        have hsame := h.users r' u' hu'
        rw [hid, h.users r u hu] at hsame
        exact hr (Option.some.inj hsame).symm
    · intro r' u' hu'
      by_cases hr : r' = r
      · rw [hr, Function.update_self] at hu'
        cases hu'
      · rw [Function.update_of_ne hr] at hu'
        exact h.pos r' u' hu'
  · rw [if_neg hst, if_neg hst]
    refine ⟨?_, ?_, ?_⟩
    · intro userID r' hr'
      obtain ⟨u', hu', huid⟩ := h.hash userID r' hr'
      by_cases hr : r' = r
      · subst hr
        obtain rfl := Option.some.inj (hu.symm.trans hu')
        exact ⟨_, Function.update_self _ _ _, huid⟩
      · exact ⟨u', by rw [Function.update_of_ne hr, hu'], huid⟩
    · intro r' u' hu'
      by_cases hr : r' = r
      · subst hr
        rw [Function.update_self] at hu'
        obtain rfl := Option.some.inj hu'
        exact h.users r' u hu
      · rw [Function.update_of_ne hr] at hu'
        exact h.users r' u' hu'
    · intro r' u' hu'
      by_cases hr : r' = r
      · subst hr
        rw [Function.update_self] at hu'
        obtain rfl := Option.some.inj hu'
        exact h.pos r' u hu
      · rw [Function.update_of_ne hr] at hu'
        exact h.pos r' u' hu'

/-- A user who sits gets another status of those who sit. -/
theorem Placed.write (h : Placed cfg s) (hu : s.users r = some u) (hc : s.chairs.lookup u.chairID = some r) {st : UserStatus}
    (hst : UserStatus.usSit.code ≤ st.code) : Placed cfg (writeUser s u.userID r u st cfg.id u.chairID) := by
  have hnull : st ≠ .usNull := by
    rintro rfl
    exact absurd hst (by decide)
  obtain ⟨h1, h2, h3⟩ := h.directory hu st cfg.id u.chairID
  refine ⟨h1, h2, ?_, h3⟩
  intro c r' hr'
  rw [writeUser_eq] at hr'
  rw [users_writeUser, if_neg hnull]
  obtain ⟨u', hu', ht', hc', hs'⟩ := h.sits c r' hr'
  by_cases hr : r' = r
  · subst hr
    obtain rfl := Option.some.inj (hu.symm.trans hu')
    exact ⟨_, Function.update_self _ _ _, rfl, hc', hst⟩
  · exact ⟨u', by rw [Function.update_of_ne hr, hu'], ht', hc', hs'⟩

/-- A user who does not sit at the table gets another record. -/
theorem Placed.write_other (h : Placed cfg s) (hu : s.users r = some u) (hc : s.chairs.lookup u.chairID ≠ some r)
    (st : UserStatus) (t c : Nat) :
    Placed cfg (writeUser s u.userID r u st t c) := by
  obtain ⟨h1, h2, h3⟩ := h.directory hu st t c
  refine ⟨h1, h2, ?_, h3⟩
  intro c' r' hr'
  rw [writeUser_eq] at hr'
  rw [users_writeUser]
  have hr : r' ≠ r := by
    rintro rfl
    exact hc ((h.lookup_iff hu c').1 hr').1
  obtain ⟨u', hu', hrest⟩ := h.sits c' r' hr'
  exact ⟨u', by rw [Function.update_of_ne hr, hu'], hrest⟩

theorem Seated.data_writeUser (h : Seated cfg s) (userID r : Nat) (u : User) (st : UserStatus) (t c : Nat) :
    ∀ c', (writeUser s userID r u st t c).gameData c' = true ↔ c' ∈ (writeUser s userID r u st t c).chairs := by
  rw [writeUser_eq]
  exact h.data

theorem Seated.write (h : Seated cfg s) (hu : s.users r = some u) (hc : s.chairs.lookup u.chairID = some r) {st : UserStatus}
    (hst : UserStatus.usSit.code ≤ st.code) : Seated cfg (writeUser s u.userID r u st cfg.id u.chairID) :=
  ⟨h.toPlaced.write hu hc hst, h.data_writeUser _ _ _ _ _ _⟩

theorem Seated.write_other (h : Seated cfg s) (hu : s.users r = some u) (hc : s.chairs.lookup u.chairID ≠ some r)
    (st : UserStatus) (t c : Nat) :
    Seated cfg (writeUser s u.userID r u st t c) :=
  ⟨h.toPlaced.write_other hu hc st t c, h.data_writeUser _ _ _ _ _ _⟩

/-! ## Leaving -/

/-- The table without the user in the chair, before the hand-over. -/
def State.left (s : State) (r : Nat) (u : User) : State :=
  writeUser
    { s with
      gameData := Function.update s.gameData u.chairID false
      chairs := s.chairs.erase u.chairID }
    u.userID r u (if u.userStatus = .usOffline then .usNull else .usFree) invalidTable invalidChair

/-- The table after the hand-over. -/
def State.handedOver (s : State) (attr : Nat → Attr) : State :=
  match (heir attr (s.chairs.entries.map Sigma.snd)).bind s.users with
  | some u => { s with tableOwnerID := u.userID, lock := false }
  | none => { s with tableOwnerID := 0, enterPassword := none, needVipLv := 0, multipleLv := 0, lock := false }

/-- The table after the first part of `standUp`. -/
def State.away (s : State) (attr : Nat → Attr) (r : Nat) (u : User) : State :=
  if (s.left r u).tableOwnerID = u.userID then (s.left r u).handedOver attr else s.left r u

/-- Only the chair, its game data and the record of the user change before the hand-over. -/
theorem left_eq (s : State) (r : Nat) (u : User) :
    s.left r u =
      { s with
        chairs := s.chairs.erase u.chairID
        gameData := Function.update s.gameData u.chairID false
        users := (s.left r u).users
        userItemHash := (s.left r u).userItemHash } := by
  rw [State.left, writeUser_eq]

theorem chairs_left (s : State) (r : Nat) (u : User) : (s.left r u).chairs = s.chairs.erase u.chairID := by
  rw [State.left, writeUser_eq]

theorem gameData_left (s : State) (r : Nat) (u : User) :
    (s.left r u).gameData = Function.update s.gameData u.chairID false := by
  rw [State.left, writeUser_eq]

theorem users_left (s : State) (r : Nat) (u : User) :
    (s.left r u).users =
      (writeUser s u.userID r u (if u.userStatus = .usOffline then .usNull else .usFree) invalidTable
      invalidChair).users := by
  rw [State.left, users_writeUser, users_writeUser]

theorem userItemHash_left (s : State) (r : Nat) (u : User) : (s.left r u).userItemHash =
    (writeUser s u.userID r u (if u.userStatus = .usOffline then .usNull else .usFree) invalidTable
      invalidChair).userItemHash := by
  rw [State.left, userItemHash_writeUser, userItemHash_writeUser]

/-- The others keep their chairs and their records. -/
theorem Placed.lookup_left (h : Placed cfg s) (hu : s.users r = some u) {c r' : Nat}
    (hr' : (s.left r u).chairs.lookup c = some r') :
    s.chairs.lookup c = some r' ∧ c ≠ u.chairID ∧ r' ≠ r ∧ (s.left r u).users r' = s.users r' := by
  rw [chairs_left] at hr'
  have hne : c ≠ u.chairID := by
    rintro rfl
    rw [AList.lookup_erase] at hr'
    cases hr'
  rw [AList.lookup_erase_ne hne] at hr'
  have hr : r' ≠ r := by
    rintro rfl
    exact hne ((h.lookup_iff hu c).1 hr').2.symm
  exact ⟨hr', hne, hr, by rw [users_left, users_writeUser, Function.update_of_ne hr]⟩

/-- A user leaves a chair, and only the record of that user knew of it. -/
theorem Placed.left (h : Placed cfg s) (hu : s.users r = some u) : Placed cfg (s.left r u) := by
  obtain ⟨h1, h2, h3⟩ := h.directory hu (if u.userStatus = .usOffline then .usNull else .usFree) invalidTable invalidChair
  refine ⟨by rw [users_left, userItemHash_left]; exact h1, by rw [users_left, userItemHash_left]; exact h2, ?_,
    by rw [users_left]; exact h3⟩
  intro c r' hr'
  obtain ⟨hold, -, -, huser⟩ := h.lookup_left hu hr'
  rw [huser]
  exact h.sits c r' hold

theorem Seated.left (h : Seated cfg s) (hu : s.users r = some u) : Seated cfg (s.left r u) := by
  refine ⟨h.toPlaced.left hu, ?_⟩
  intro c
  rw [gameData_left, chairs_left]
  by_cases hcc : c = u.chairID
  · simp [hcc, AList.mem_erase]
  · simp only [Function.update_of_ne hcc, h.data, AList.mem_erase, ne_eq, hcc, not_false_eq_true, true_and]

theorem Placed.handedOver (h : Placed cfg s) (attr : Nat → Attr) : Placed cfg (s.handedOver attr) := by
  unfold State.handedOver
  split <;> exact h.congr rfl rfl rfl

theorem Seated.handedOver (h : Seated cfg s) (attr : Nat → Attr) : Seated cfg (s.handedOver attr) := by
  unfold State.handedOver
  split <;> exact h.congr rfl rfl rfl rfl

theorem chairs_away (s : State) (attr : Nat → Attr) (r : Nat) (u : User) :
    (s.away attr r u).chairs = s.chairs.erase u.chairID := by
  rw [← chairs_left s r u]
  unfold State.away State.handedOver
  repeat' split
  all_goals rfl

theorem gameData_away (s : State) (attr : Nat → Attr) (r : Nat) (u : User) :
    (s.away attr r u).gameData = Function.update s.gameData u.chairID false := by
  rw [← gameData_left s r u]
  unfold State.away State.handedOver
  repeat' split
  all_goals rfl

theorem users_away (s : State) (attr : Nat → Attr) (r : Nat) (u : User) : (s.away attr r u).users = (s.left r u).users := by
  unfold State.away State.handedOver
  repeat' split
  all_goals rfl

theorem Placed.away (h : Placed cfg s) (attr : Nat → Attr) (hu : s.users r = some u) : Placed cfg (s.away attr r u) := by
  unfold State.away
  split
  · exact (h.left hu).handedOver attr
  · exact h.left hu

theorem Seated.away (h : Seated cfg s) (attr : Nat → Attr) (hu : s.users r = some u) :
    Seated cfg (s.away attr r u) := by
  unfold State.away
  split
  · exact (h.left hu).handedOver attr
  · exact h.left hu

/-- The loop of the hand-over, from what has been found so far: somebody who has contributed more, or what was there. -/
theorem foldl_heir (attr : Nat → Attr) (l : List Nat) (temp : Int × Option Nat) :
    (l.foldl (fun temp v => if (attr v).contribution > temp.1 then ((attr v).contribution, some v) else temp) temp = temp ∧
      ∀ v ∈ l, (attr v).contribution ≤ temp.1) ∨
    ∃ v ∈ l, temp.1 < (attr v).contribution ∧
      (l.foldl (fun temp v => if (attr v).contribution > temp.1 then ((attr v).contribution, some v) else temp)
        temp).2 = some v := by
  induction l generalizing temp with
  | nil => exact Or.inl ⟨rfl, nofun⟩
  | cons x l ih =>
    rw [List.foldl_cons]
    split
    · rename_i hx
      rcases ih ((attr x).contribution, some x) with ⟨heq, -⟩ | ⟨v, hv, hlt, hsome⟩
      · exact Or.inr ⟨x, List.mem_cons_self, hx, by rw [heq]⟩
      · exact Or.inr ⟨v, List.mem_cons_of_mem _ hv, Int.lt_trans hx hlt, hsome⟩
    · rename_i hx
      rcases ih temp with ⟨heq, hle⟩ | ⟨v, hv, hlt, hsome⟩
      · exact Or.inl ⟨heq, List.forall_mem_cons.2 ⟨Int.not_lt.1 hx, hle⟩⟩
      · exact Or.inr ⟨v, List.mem_cons_of_mem _ hv, hlt, hsome⟩

/-- There is an heir if anybody has contributed, and the heir has. -/
theorem heir_cases (attr : Nat → Attr) (l : List Nat) :
    (heir attr l = none ∧ ∀ v ∈ l, (attr v).contribution ≤ 0) ∨ ∃ v ∈ l, 0 < (attr v).contribution ∧
      heir attr l = some v := by
  rcases foldl_heir attr l (0, none) with ⟨heq, hle⟩ | hex
  · exact Or.inl ⟨by rw [heir, heq], hle⟩
  · exact Or.inr hex

/-- The hand-over: nobody at the table has contributed and the table has no owner, or somebody at the table who
has contributed owns it. -/
theorem Placed.handedOver_cases (h : Placed cfg s) (attr : Nat → Attr) :
    ((∀ c v, s.chairs.lookup c = some v → (attr v).contribution ≤ 0) ∧
      s.handedOver attr =
        { s with tableOwnerID := 0, enterPassword := none, needVipLv := 0, multipleLv := 0, lock := false }) ∨
    ∃ c v u, s.chairs.lookup c = some v ∧ s.users v = some u ∧ 0 < (attr v).contribution ∧
      s.handedOver attr = { s with tableOwnerID := u.userID, lock := false } := by
  unfold State.handedOver
  rcases heir_cases attr (s.chairs.entries.map Sigma.snd) with ⟨hnone, hle⟩ | ⟨v, hv, hpos, hsome⟩
  · left
    refine ⟨fun c v hv => hle v ?_, by rw [hnone]; rfl⟩
    exact List.mem_map.2 ⟨⟨c, v⟩, AList.mem_lookup_iff.1 hv, rfl⟩
  · right
    obtain ⟨e, he, rfl⟩ := List.mem_map.1 hv
    have hlookup : s.chairs.lookup e.1 = some e.2 := AList.mem_lookup_iff.2 he
    obtain ⟨u, hu, -⟩ := h.sits _ _ hlookup
    refine ⟨e.1, e.2, u, hlookup, hu, hpos, ?_⟩
    rw [hsome, Option.bind_some, hu]

/-- The hand-over raises no error: the records of the users at the table are there. -/
theorem handOver_eq (h : Placed cfg s) (attr : Nat → Attr) : handOver s attr = .ok (s.handedOver attr) := by
  have hany : ((s.chairs.entries.map Sigma.snd).any fun v => s.users v = none) = false := by
    rw [List.any_eq_false]
    intro v hv hnone
    obtain ⟨e, he, rfl⟩ := List.mem_map.1 hv
    obtain ⟨u, hu, -⟩ := h.sits e.1 e.2 (AList.mem_lookup_iff.2 he)
    rw [decide_eq_true_eq, hu] at hnone
    cases hnone
  unfold handOver State.handedOver
  simp only [hany, Bool.false_eq_true, if_false]
  cases (heir attr (s.chairs.entries.map Sigma.snd)).bind s.users <;> rfl

/-- The first part of `standUp` comes to its end. -/
theorem leaveChair_eq (h : Placed cfg s) (attr : Nat → Attr) (hu : s.users r = some u)
    (hdata : s.gameData u.chairID = true) :
    leaveChair cfg attr s u = .ok (s.away attr r u) := by
  have hset : setUserStatus cfg { s with
        gameData := Function.update s.gameData u.chairID false
        chairs := s.chairs.erase u.chairID } u.userID (if u.userStatus = .usOffline then .usNull else .usFree) invalidTable
          invalidChair =
      .ok (s.left r u) := by
    have hst : (if u.userStatus = .usOffline then UserStatus.usNull else .usFree) ≠ .usOffline := by split <;> decide
    simp only [setUserStatus, h.users r u hu, hu, hst, false_and, if_false]
    rfl
  unfold leaveChair
  rw [if_neg (by simp [hdata])]
  dsimp only
  rw [hset, Attempt.ok_andThen, State.away]
  split
  · exact handOver_eq (h.left hu) attr
  · rfl

/-- The table when its timers have been stopped. -/
def State.stopTimer (s : State) : State := { s with timer := s.timer.stop }

theorem Seated.stopTimer (h : Seated cfg s) : Seated cfg s.stopTimer := h.congr rfl rfl rfl rfl

/-- `standUp` of a user who sits, with game data. -/
theorem standUpWith_of_data (h : Placed cfg s) (conclude : State → Run) (attr : Nat → Attr) (silent : Bool)
    (hu : s.users r = some u) (hc : s.chairs.lookup u.chairID = some r) (hdata : s.gameData u.chairID = true) :
    standUpWith conclude cfg attr silent s r =
      (if (s.away attr r u).tableOwnerID = 0 ∧ cfg.kindID ≠ 104 ∧ cfg.kindID ≠ 800 then
        conclude (s.away attr r u).stopTimer
      else .ok (s.away attr r u)).andThen fun s => .ok (if silent then s else sendTableState s) := by
  rw [standUpWith, hu]
  simp only
  rw [if_neg (by simp [hc]), leaveChair_eq h attr hu hdata, Attempt.ok_andThen]
  rfl

/-- There is game data for a user who sits. -/
theorem Seated.data_of_sits (h : Seated cfg s) (hc : s.chairs.lookup u.chairID = some r) : s.gameData u.chairID = true :=
  (h.data _).2 (AList.lookup_isSome.1 (by rw [hc]; rfl))

/-- With the game data in the sink, `standUp` of a user in the chair comes to its end: the game is concluded when the
table has no owner any more, and the state is sent. -/
theorem standUpWith_eq (h : Seated cfg s) (conclude : State → Run) (attr : Nat → Attr) (silent : Bool)
    (hu : s.users r = some u) (hc : s.chairs.lookup u.chairID = some r) :
    standUpWith conclude cfg attr silent s r =
      (if (s.away attr r u).tableOwnerID = 0 ∧ cfg.kindID ≠ 104 ∧ cfg.kindID ≠ 800 then
        conclude (s.away attr r u).stopTimer
      else .ok (s.away attr r u)).andThen fun s => .ok (if silent then s else sendTableState s) :=
  standUpWith_of_data h.toPlaced conclude attr silent hu hc (h.data_of_sits hc)

/-- `standUp` of a user who does not sit here. -/
theorem standUpWith_other (conclude : State → Run) (attr : Nat → Attr) (silent : Bool) (hu : s.users r = some u)
    (hc : s.chairs.lookup u.chairID ≠ some r) : standUpWith conclude cfg attr silent s r = .ok s := by
  rw [standUpWith, hu]
  simp only
  rw [if_pos hc]

end Seated

/-! ## The end of the game -/

/-- `concludeGame` sends the user away. -/
def goes (cfg : ServerConfig) (attr : Nat → Attr) (r : Nat) (u : User) : Prop :=
  u.userStatus = .usOffline ∨ kickMsg cfg u.isAndroid (attr r) = true

/-- What holds throughout the loop of `concludeGame`: `I` is kept when a user no longer plays, when a user is sent away, and
when the timers are stopped. -/
structure Stable (cfg : ServerConfig) (attr : Nat → Attr) (I : State → Prop) : Prop where
  write : ∀ s r u, Seated cfg s → I s → s.users r = some u → s.chairs.lookup u.chairID = some r →
    I (writeUser s u.userID r u .usSit cfg.id u.chairID)
  away : ∀ s r u, Seated cfg s → I s → s.users r = some u → s.chairs.lookup u.chairID = some r → goes cfg attr r u →
    I (s.away attr r u)
  stop : ∀ s, Seated cfg s → I s → I s.stopTimer

section Conclude

variable {cfg : ServerConfig} {attr : Nat → Attr} {I : State → Prop}

theorem Stable.and {J : State → Prop} (hI : Stable cfg attr I) (hJ : Stable cfg attr J) :
    Stable cfg attr fun s => I s ∧ J s where
  write := fun s r u h hi hu hc => ⟨hI.write s r u h hi.1 hu hc, hJ.write s r u h hi.2 hu hc⟩
  away := fun s r u h hi hu hc hg => ⟨hI.away s r u h hi.1 hu hc hg, hJ.away s r u h hi.2 hu hc hg⟩
  stop := fun s h hi => ⟨hI.stop s h hi.1, hJ.stop s h hi.2⟩

/-- In a game that is not started `concludeGame` does nothing. -/
theorem concludeAt_of_not_started {s : State} (n : Nat) (gameStatus : GameStatus) (hs : s.isGameStarted = false) :
    concludeAt n cfg attr gameStatus s = .ok s := by
  cases n with
  | zero => rfl
  | succ n => simp [concludeAt, hs]

theorem isGameStarted_left (s : State) (r : Nat) (u : User) : (s.left r u).isGameStarted = s.isGameStarted := by
  rw [State.left, writeUser_eq]

theorem isGameStarted_away (s : State) (attr : Nat → Attr) (r : Nat) (u : User) :
    (s.away attr r u).isGameStarted = s.isGameStarted := by
  unfold State.away State.handedOver
  repeat' split
  all_goals exact isGameStarted_left s r u

/-- A user stands up while the game ends. -/
theorem ends_standUp_inner (hI : Stable cfg attr I) (n : Nat) {s : State} {r : Nat} {u : User}
    (h : Seated cfg s ∧ I s ∧ s.isGameStarted = false) (hu : s.users r = some u) (hc : s.chairs.lookup u.chairID = some r)
    (hgoes : goes cfg attr r u) :
    (standUpWith (concludeAt n cfg attr .free) cfg attr true s r).Ends
      (fun s => Seated cfg s ∧ I s ∧ s.isGameStarted = false) fun _ _ => False := by
  obtain ⟨hs, hi, hg⟩ := h
  have hseated := hs.away attr hu
  have haway := hI.away s r u hs hi hu hc hgoes
  have hnot : (s.away attr r u).isGameStarted = false := (isGameStarted_away s attr r u).trans hg
  rw [standUpWith_eq hs _ attr true hu hc]
  refine Attempt.Ends.andThen (P := fun s => Seated cfg s ∧ I s ∧ s.isGameStarted = false) ?_ fun s hs => hs
  split
  · have hstop : (s.away attr r u).stopTimer.isGameStarted = false := hnot
    rw [concludeAt_of_not_started n .free hstop]
    exact ⟨hseated.stopTimer, hI.stop _ hseated haway, hnot⟩
  · exact ⟨hseated, haway, hnot⟩

/-- One turn of the loop. -/
theorem ends_concludeUser (hI : Stable cfg attr I) (n : Nat) {s : State} (c : Nat)
    (h : Seated cfg s ∧ I s ∧ s.isGameStarted = false) :
    (concludeUser (standUpWith (concludeAt n cfg attr .free) cfg attr true) cfg attr s c).Ends
      (fun s => Seated cfg s ∧ I s ∧ s.isGameStarted = false) fun _ _ => False := by
  unfold concludeUser
  split
  case h_1 => exact h
  rename_i r hr
  obtain ⟨u, hu, ht, rfl, -⟩ := h.1.sits c r hr
  simp only [hu]
  split
  · rename_i hoff
    exact ends_standUp_inner hI n h hu hr (Or.inl hoff)
  · -- The record of a player changes, and then the user may be sent away.
    refine Attempt.Ends.andThen
      (P := fun s => (Seated cfg s ∧ I s ∧ s.isGameStarted = false) ∧
        ∃ u', s.users r = some u' ∧ s.chairs.lookup u'.chairID = some r ∧ u'.isAndroid = u.isAndroid) ?_ ?_
    · split
      · rw [setUserStatus_eq h.1.toPlaced hu _ _ _ (fun hst => by cases hst)]
        refine Attempt.ends_ok ⟨⟨h.1.write hu hr (by decide), hI.write s r u h.1 h.2.1 hu hr, ?_⟩, ?_⟩
        · rw [writeUser_eq]
          exact h.2.2
        · refine ⟨{ u with userStatus := .usSit, tableID := cfg.id },
            by rw [users_writeUser, Function.update_self, if_neg (by decide)], ?_, rfl⟩
          rw [writeUser_eq]
          exact hr
      · exact ⟨h, u, hu, hr, rfl⟩
    · rintro s ⟨hs, u', hu', hr', hand⟩
      split
      · rename_i hkick
        exact ends_standUp_inner hI n hs hu' hr' (Or.inr (hand ▸ hkick))
      · exact hs

/-- The table when `concludeGame` has set its flags. -/
def State.concluding (s : State) (gameStatus : GameStatus) : State :=
  { s with
    offlineCheckTimerID := none
    isDrawStarted := false
    gameStatus := gameStatus
    isGameStarted := gameStatus ≠ .free }

/-- `concludeGame` in a game that is started: the state it sends at its end is one of which `I` holds. -/
theorem ends_concludeAt (hI : Stable cfg attr I) (n : Nat) (gameStatus : GameStatus) {s : State} (h : Seated cfg s)
    (hg : s.isGameStarted = true) (hi : I (s.concluding gameStatus)) :
    (concludeAt (n + 1) cfg attr gameStatus s).Ends
      (fun s' => ∃ t, Seated cfg t ∧ I t ∧ t.isGameStarted = decide (gameStatus ≠ .free) ∧
        s' = sendTableState (concludeTable cfg t))
      fun _ _ => False := by
  have hseated : Seated cfg (s.concluding gameStatus) := h.congr rfl rfl rfl rfl
  have hstart : (s.concluding gameStatus).isGameStarted = decide (gameStatus ≠ .free) := rfl
  rw [concludeAt, if_neg (by simp [hg])]
  refine Attempt.Ends.andThen
    (P := fun t => Seated cfg t ∧ I t ∧ t.isGameStarted = decide (gameStatus ≠ .free)) ?_
      fun t ht => ⟨t, ht.1, ht.2.1, ht.2.2, rfl⟩
  split
  · exact ⟨hseated, hi, hstart⟩
  · rename_i hfree
    have hnot : decide (gameStatus ≠ .free) = false := Bool.eq_false_iff.2 hfree
    refine Attempt.Ends.mono (Attempt.ends_forEach (fun s c hs => ends_concludeUser hI n c hs) _ _ ⟨hseated, hi, hnot⟩) ?_
      fun _ _ hf => hf
    exact fun t ht => ⟨ht.1, ht.2.1, ht.2.2.trans hnot.symm⟩

/-- `concludeGame` where the game goes on: nobody is sent away. -/
theorem concludeGame_of_ne_free {s : State} {gameStatus : GameStatus} (hg : s.isGameStarted = true)
    (hfree : gameStatus ≠ .free) :
    concludeGame cfg attr gameStatus s = .ok (sendTableState (concludeTable cfg (s.concluding gameStatus))) := by
  rw [concludeGame, concludeAt, if_neg (by simp [hg])]
  dsimp only
  rw [if_pos (decide_eq_true hfree), Attempt.ok_andThen]
  rfl

/-- What `concludeGame` keeps from its beginning to its end. -/
structure Lasting (cfg : ServerConfig) (attr : Nat → Attr) (I : State → Prop) : Prop extends Stable cfg attr I where
  concluding : ∀ s gameStatus, I s → I (s.concluding gameStatus)
  table : ∀ s, I s → I (concludeTable cfg s)
  send : ∀ s, I s → I (sendTableState s)

theorem Lasting.and {J : State → Prop} (hI : Lasting cfg attr I) (hJ : Lasting cfg attr J) :
    Lasting cfg attr fun s => I s ∧ J s where
  toStable := hI.toStable.and hJ.toStable
  concluding := fun s gameStatus hi => ⟨hI.concluding s gameStatus hi.1, hJ.concluding s gameStatus hi.2⟩
  table := fun s hi => ⟨hI.table s hi.1, hJ.table s hi.2⟩
  send := fun s hi => ⟨hI.send s hi.1, hJ.send s hi.2⟩

theorem Seated.sendTableState {s : State} (h : Seated cfg s) : Seated cfg (sendTableState s) := h.congr rfl rfl rfl rfl

theorem Seated.concludeTable {s : State} (h : Seated cfg s) : Seated cfg (concludeTable cfg s) := by
  unfold TableFrame.concludeTable
  split
  · exact h.congr rfl rfl rfl rfl
  · exact h

/-- `concludeGame` comes to its end with what it keeps. -/
theorem ends_concludeGame (hI : Lasting cfg attr I) {s : State} (h : Seated cfg s) (hi : I s) (gameStatus : GameStatus) :
    (concludeGame cfg attr gameStatus s).Ends (fun s => Seated cfg s ∧ I s) fun _ _ => False := by
  cases hg : s.isGameStarted with
  | false =>
    rw [concludeGame, concludeAt_of_not_started 2 gameStatus hg]
    exact ⟨h, hi⟩
  | true =>
    refine (ends_concludeAt hI.toStable 1 gameStatus h hg (hI.concluding s gameStatus hi)).mono ?_ fun _ _ hf => hf
    rintro _ ⟨t, ht, hit, -, rfl⟩
    exact ⟨ht.concludeTable.sendTableState, hI.send _ (hI.table _ hit)⟩

/-- A user who sits stands up: what holds when the user has left holds at the end. -/
theorem ends_standUp (hI : Lasting cfg attr I) {s : State} (h : Seated cfg s) {r : Nat} {u : User} (hu : s.users r = some u)
    (hc : s.chairs.lookup u.chairID = some r) (hi : I (s.away attr r u)) :
    (standUp cfg attr s r).Ends (fun s => Seated cfg s ∧ I s) fun _ _ => False := by
  have haway := h.away attr hu
  rw [standUp, standUpWith_eq h _ attr false hu hc]
  refine Attempt.Ends.andThen (P := fun s => Seated cfg s ∧ I s) ?_ fun s hs => ⟨hs.1.sendTableState, hI.send _ hs.2⟩
  split
  · exact ends_concludeGame hI haway.stopTimer (hI.stop _ haway hi) .free
  · exact ⟨haway, hi⟩

end Conclude

/-! ## Sitting down -/

/-- The checks of `cmd_sitDown` that come after the chair has been taken. -/
def sitPasses (cfg : ServerConfig) (attr : Nat → Attr) (s : State) (userItem : Nat) (a : SitArgs) : Bool :=
  let first : Bool := s.sitUserCount = 0 && !cfg.isMatch
  let needVipLv := if first && a.needVipLv ≠ 0 then a.needVipLv else s.needVipLv
  let multipleLv := if first && a.multipleLv ≠ 0 then a.multipleLv else s.multipleLv
  let enterPassword := if first then a.password.or s.enterPassword else s.enterPassword
  match isVipRoom cfg a with
  | none => false
  | some false => true
  | some true =>
    (!first || 2 ≤ (attr userItem).memberOrder) && needVipLv ≤ (attr userItem).memberOrder && enterPassword = a.password &&
      (multipleLv = 0 || multipleLv ≤ a.gunMultiple)

/-- The condition on `cmd_sitDown`: a call that is not refused before the chair is taken passes the checks after that too,
and is not one for which `freezeScore` is called. -/
def sitSafe (cfg : ServerConfig) (s : State) : Label → Bool
  | .sitDown attr userItem chairID a =>
    match s.users userItem with
    | none => true
    | some u =>
      !(u.tableID = invalidTable && u.chairID = invalidChair) || (sitRefusal cfg attr s userItem chairID a).isSome ||
        ((!s.isGameStarted || cfg.serviceScore ≤ 0) && sitPasses cfg attr s userItem a)
  | _ => true

/-- The table when the user has taken the chair. -/
def State.taken (s : State) (cfg : ServerConfig) (r : Nat) (u : User) (c : Nat) : State :=
  writeUser
    { s with
      chairs := s.chairs.insert c r
      offlineTime := Function.update s.offlineTime c 0 }
    u.userID r u
    (if s.isGameStarted then .usPlaying else if cfg.allowAvertCheatMode ∨ cfg.isMatch then .usReady else .usSit) cfg.id c

/-- The table when its first user has become the owner. -/
def State.owned (s : State) (cfg : ServerConfig) (userID : Nat) (a : SitArgs) : State :=
  if s.sitUserCount = 1 ∧ ¬cfg.isMatch then
    if isVipRoom cfg a = some true then
      { s with
        enterPassword := a.password.or s.enterPassword
        needVipLv := if a.needVipLv ≠ 0 then a.needVipLv else s.needVipLv
        multipleLv := if a.multipleLv ≠ 0 then a.multipleLv else s.multipleLv
        tableOwnerID := userID
        lock := false }
    else { s with tableOwnerID := userID, lock := false }
  else s

section Sit

variable {cfg : ServerConfig} {attr : Nat → Attr} {s : State} {r : Nat} {u : User} {c : Nat} {a : SitArgs}

/-- The status of a user who has taken a chair is one of those who sit, but not the one of a user who is offline. -/
theorem status_taken (cfg : ServerConfig) (b : Bool) :
    (if b then UserStatus.usPlaying else if cfg.allowAvertCheatMode ∨ cfg.isMatch then .usReady else .usSit) ≠ .usNull ∧
    UserStatus.usSit.code ≤
      (if b then UserStatus.usPlaying else if cfg.allowAvertCheatMode ∨ cfg.isMatch then .usReady else .usSit).code ∧
    (if b then UserStatus.usPlaying else if cfg.allowAvertCheatMode ∨ cfg.isMatch then .usReady else .usSit) ≠
      .usOffline := by
  repeat' split
  all_goals decide

/-- The chair is taken without an error, but in a game that has started where scores are frozen. -/
theorem takeChair_eq (h : Placed cfg s) (hu : s.users r = some u)
    (hfree : ¬(s.isGameStarted = true ∧ cfg.serviceScore > 0)) :
    takeChair cfg s r u.userID c = .ok (s.taken cfg r u c) := by
  obtain ⟨-, -, hoff⟩ := status_taken cfg s.isGameStarted
  unfold takeChair
  dsimp only
  rw [if_neg hfree, h.users r u hu]
  simp only [setUserStatus, h.users r u hu, hu, hoff, false_and, if_false]
  rfl

/-- A user who is at no table takes a chair. -/
theorem Placed.taken (h : Placed cfg s) (hu : s.users r = some u) (ht : u.tableID = invalidTable) (c : Nat) :
    Placed cfg (s.taken cfg r u c) := by
  obtain ⟨hnull, hcode, -⟩ := status_taken cfg s.isGameStarted
  obtain ⟨h1, h2, h3⟩ :=
    h.directory hu
    (if s.isGameStarted then .usPlaying else if cfg.allowAvertCheatMode ∨ cfg.isMatch then .usReady else .usSit)
    cfg.id c
  have husers : (s.taken cfg r u c).users = (writeUser s u.userID r u (if s.isGameStarted then .usPlaying else
      if cfg.allowAvertCheatMode ∨ cfg.isMatch then .usReady else .usSit) cfg.id c).users := by
    rw [State.taken, users_writeUser, users_writeUser]
  have hhash : (s.taken cfg r u c).userItemHash = (writeUser s u.userID r u (if s.isGameStarted then .usPlaying else
      if cfg.allowAvertCheatMode ∨ cfg.isMatch then .usReady else .usSit) cfg.id c).userItemHash := by
    rw [State.taken, userItemHash_writeUser, userItemHash_writeUser]
  have hchairs : (s.taken cfg r u c).chairs = s.chairs.insert c r := by rw [State.taken, writeUser_eq]
  refine ⟨by rw [husers, hhash]; exact h1, by rw [husers, hhash]; exact h2, ?_, by rw [husers]; exact h3⟩
  intro c' r' hr'
  rw [hchairs] at hr'
  rw [State.taken, users_writeUser, if_neg hnull]
  by_cases hcc : c' = c
  · subst hcc
    rw [AList.lookup_insert] at hr'
    obtain rfl := Option.some.inj hr'
    exact ⟨_, Function.update_self _ _ _, rfl, rfl, hcode⟩
  · rw [AList.lookup_insert_ne hcc] at hr'
    obtain ⟨u', hu', ht', hrest⟩ := h.sits c' r' hr'
    refine ⟨u', ?_, ht', hrest⟩
    rw [Function.update_of_ne, hu']
    rintro rfl
    obtain rfl := Option.some.inj (hu.symm.trans hu')
    exact cfg.id_ne (ht'.symm.trans ht)

/-- The chair that has been taken still lacks its game data. -/
theorem Seated.taken (h : Seated cfg s) (hu : s.users r = some u) (ht : u.tableID = invalidTable) (c : Nat) :
    Seated cfg { s.taken cfg r u c with gameData := Function.update (s.taken cfg r u c).gameData c true } := by
  have hchairs : (s.taken cfg r u c).chairs = s.chairs.insert c r := by rw [State.taken, writeUser_eq]
  have hdata : (s.taken cfg r u c).gameData = s.gameData := by rw [State.taken, writeUser_eq]
  refine ⟨(h.toPlaced.taken hu ht c).congr rfl rfl rfl, ?_⟩
  intro c'
  dsimp only
  rw [hchairs, hdata, AList.mem_insert]
  by_cases hcc : c' = c
  · simp [hcc]
  · simp [hcc, h.data]

theorem sitUserCount_taken (cfg : ServerConfig) (r : Nat) (u : User) (hc : c ∉ s.chairs) :
    (s.taken cfg r u c).sitUserCount = s.sitUserCount + 1 := by
  rw [State.taken, writeUser_eq]
  simp only [State.sitUserCount, AList.keys_insert, List.length_cons, List.erase_of_not_mem (mt AList.mem_keys.2 hc)]

/-- Only the owner, the password, the levels and the lock may change when the first user becomes the owner. -/
theorem owned_eq (s : State) (cfg : ServerConfig) (userID : Nat) (a : SitArgs) :
    s.owned cfg userID a =
      { s with
        enterPassword := (s.owned cfg userID a).enterPassword
        needVipLv := (s.owned cfg userID a).needVipLv
        multipleLv := (s.owned cfg userID a).multipleLv
        tableOwnerID := (s.owned cfg userID a).tableOwnerID
        lock := (s.owned cfg userID a).lock } := by
  unfold State.owned
  repeat' split
  all_goals rfl

/-- A call of `cmd_sitDown` that is not refused is for a chair that is free. -/
theorem chair_free {c : Nat} {a : SitArgs} (hr : sitRefusal cfg attr s r c a = none) : sitChair cfg s c a ∉ s.chairs := by
  intro hc
  unfold sitRefusal at hr
  simp only [hc, if_true] at hr
  split at hr
  · cases hr
  · split at hr
    · cases hr
    · cases hr

/-- The rules raise no other error. -/
theorem rule_raised {e : LuaError} (h : (checkUserIPRule cfg).or (checkUserScoreRule cfg s) = some e) :
    e = .indexNumber := by
  rcases Option.or_eq_some_iff.1 h with h | ⟨-, h⟩
  · unfold checkUserIPRule at h
    split at h
    · cases h
    · exact (Option.some.inj h).symm
  · unfold checkUserScoreRule at h
    split at h
    · cases h
    · exact (Option.some.inj h).symm

/-- Without one of the two bits of the room's rule nobody whose `masterOrder` is 0 takes a chair. -/
theorem sitRefusal_isSome_of_rule {c : Nat} {a : SitArgs} (hmatch : cfg.isMatch = false)
    (hrule : ¬(cfg.forfendGameRule ∨ cfg.allowAvertCheatMode)) (hmaster : (attr r).masterOrder = 0) :
    (sitRefusal cfg attr s r c a).isSome := by
  have hraised : checkUserIPRule cfg = some .indexNumber := if_neg hrule
  unfold sitRefusal
  rw [hraised, hmatch]
  repeat' split
  all_goals first | rfl | contradiction

/-- Of the checks before the chair is taken only those of the rules raise an error. -/
theorem sitRefusal_raised {c : Nat} {a : SitArgs} {e : LuaError} (hr : sitRefusal cfg attr s r c a = some (.raised e)) :
    e = .indexNumber := by
  unfold sitRefusal at hr
  split at hr
  · cases hr
  split at hr
  · cases hr
  split at hr
  · cases hr
  split at hr
  · cases hr
  split at hr
  · cases hr
  split at hr
  · obtain ⟨e', he', heq⟩ := Option.map_eq_some_iff.1 hr
    cases heq
    exact rule_raised he'
  · cases hr

/-- The part of `cmd_sitDown` about the owner, for a user who may own the table. -/
theorem sitOwner_eq (hroom : isVipRoom cfg a ≠ none)
    (hvip : s.sitUserCount = 1 → cfg.isMatch = false → isVipRoom cfg a = some true → 2 ≤ (attr r).memberOrder)
    (userID : Nat) :
    sitOwner cfg attr s r userID a = .ok (s.owned cfg userID a) := by
  unfold sitOwner State.owned
  split
  · rename_i hone
    cases hv : isVipRoom cfg a with
    | none => exact absurd hv hroom
    | some b =>
      cases b with
      | false => simp
      | true =>
        have hm := hvip hone.1 (by simpa using hone.2) hv
        simp [Nat.not_lt.2 hm]
  · rfl

/-- The checks of a VIP room are passed by a user who has taken a chair. -/
theorem sitVip_eq {userID : Nat} (hcount : (s.taken cfg r u c).sitUserCount = s.sitUserCount + 1)
    (hpass : sitPasses cfg attr s r a) :
    sitVip cfg attr ((s.taken cfg r u c).owned cfg userID a) r a = .ok ((s.taken cfg r u c).owned cfg userID a) := by
  have hsame : (s.taken cfg r u c).enterPassword = s.enterPassword ∧ (s.taken cfg r u c).needVipLv = s.needVipLv ∧
      (s.taken cfg r u c).multipleLv = s.multipleLv := by
    rw [State.taken, writeUser_eq]
    exact ⟨rfl, rfl, rfl⟩
  unfold sitVip
  unfold sitPasses at hpass
  cases hv : isVipRoom cfg a with
  | none => simp [hv] at hpass
  | some b =>
    cases b with
    | false => rfl
    | true =>
      simp only [hv, Bool.and_eq_true, decide_eq_true_eq, Bool.or_eq_true] at hpass
      obtain ⟨⟨⟨-, hneed⟩, hpassword⟩, hmultiple⟩ := hpass
      unfold State.owned
      by_cases hfirst : s.sitUserCount = 0 ∧ cfg.isMatch = false
      · have hif : (s.taken cfg r u c).sitUserCount = 1 ∧ ¬cfg.isMatch := ⟨by omega, by simp [hfirst.2]⟩
        simp only [hfirst, Bool.not_false, and_self, true_and, if_true] at hneed hpassword hmultiple
        rw [if_pos hif, if_pos hv]
        dsimp only
        rw [hsame.1, hsame.2.1, hsame.2.2, if_neg (Nat.not_lt.2 hneed), if_neg (not_not.2 hpassword), if_neg]
        rintro ⟨hne, hlt⟩
        exact hmultiple.elim hne (Nat.not_le.2 hlt)
      · have hif : ¬((s.taken cfg r u c).sitUserCount = 1 ∧ ¬cfg.isMatch) := by
          rintro ⟨hone, hm⟩
          exact hfirst ⟨by omega, by simpa using hm⟩
        have hff : ¬(s.sitUserCount = 0 ∧ (!cfg.isMatch) = true) := by
          rintro ⟨hz, hm⟩
          exact hfirst ⟨hz, by simpa using hm⟩
        simp only [hff, false_and, if_false] at hneed hpassword hmultiple
        rw [if_neg hif, hsame.1, hsame.2.1, hsame.2.2, if_neg (Nat.not_lt.2 hneed), if_neg (not_not.2 hpassword), if_neg]
        rintro ⟨hne, hlt⟩
        exact hmultiple.elim hne (Nat.not_le.2 hlt)

/-- A call that is not refused before the chair is taken, under the condition: the user gets the
chair, and the sink is told. -/
theorem sitDown_eq (h : Seated cfg s) (hu : s.users r = some u) (hat : u.tableID = invalidTable ∧ u.chairID = invalidChair)
    (hsafe : sitSafe cfg s (.sitDown attr r c a)) (hr : sitRefusal cfg attr s r c a = none)
    (hc : sitChair cfg s c a ∉ s.chairs) :
    sitDown cfg attr s r c a = onActionUserSitDown cfg
      (sendTableState ((s.taken cfg r u (sitChair cfg s c a)).owned cfg u.userID a)) (sitChair cfg s c a) := by
  simp only [sitSafe, hu, hat.1, hat.2, hr, decide_true, Bool.and_self, Bool.not_true, Option.isSome_none, Bool.or_self,
    Bool.false_or, Bool.and_eq_true, Bool.or_eq_true, Bool.not_eq_true', decide_eq_true_eq] at hsafe
  obtain ⟨hscore, hpass⟩ := hsafe
  have hfree : ¬(s.isGameStarted = true ∧ cfg.serviceScore > 0) := by
    rintro ⟨hg, hpos⟩
    rcases hscore with hn | hn
    · simp [hg] at hn
    · exact absurd hpos (Int.not_lt.2 hn)
  have hcount := sitUserCount_taken cfg r u hc
  have hroom : isVipRoom cfg a ≠ none := by
    intro hn
    simp [sitPasses, hn] at hpass
  have hvip : (s.taken cfg r u (sitChair cfg s c a)).sitUserCount = 1 → cfg.isMatch = false → isVipRoom cfg a = some true →
      2 ≤ (attr r).memberOrder := by
    intro hone hmatch htrue
    have hzero : s.sitUserCount = 0 := by omega
    simp only [sitPasses, htrue, hzero, hmatch, decide_true, Bool.not_false, Bool.and_self, Bool.not_true, Bool.false_or,
      Bool.and_eq_true, decide_eq_true_eq] at hpass
    exact hpass.1.1.1
  rw [sitDown, hu]
  simp only
  rw [if_neg (not_not.2 hat), hr]
  simp only
  rw [takeChair_eq h.toPlaced hu hfree, Attempt.ok_andThen, sitOwner_eq hroom hvip, Attempt.ok_andThen,
    sitVip_eq hcount hpass, Attempt.ok_andThen]

end Sit

/-! ## What happens elsewhere -/

section Elsewhere

variable {cfg : ServerConfig} {s : State} {r : Nat} {u : User}

theorem placed_init (cfg : ServerConfig) (time : Nat) : Placed cfg (State.init time) := ⟨nofun, nofun, nofun, nofun⟩

/-- The chairs in another order. -/
theorem Placed.rehash (h : Placed cfg s) {chairs : AList fun _ : Nat => Nat} (hp : chairs.entries.Perm s.chairs.entries) :
    Placed cfg { s with chairs := chairs } :=
  ⟨h.hash, h.users, fun c r hr => h.sits c r ((AList.perm_lookup hp).symm.trans hr), h.pos⟩

/-- A user comes who has no record yet. -/
theorem Placed.login (h : Placed cfg s) {userID : Nat} (isAndroid : Bool) (hr : s.users r = none)
    (hid : s.userItemHash userID = none) (hpos : userID ≠ 0) :
    Placed cfg { s with
      users := Function.update s.users r (some ⟨userID, isAndroid, .usFree, invalidTable, invalidChair⟩)
      userItemHash := Function.update s.userItemHash userID (some r) } := by
  refine ⟨?_, ?_, ?_, ?_⟩
  · intro userID' r' hr'
    dsimp only at hr' ⊢
    by_cases hu : userID' = userID
    · subst hu
      rw [Function.update_self] at hr'
      obtain rfl := Option.some.inj hr'
      exact ⟨_, Function.update_self _ _ _, rfl⟩
    · rw [Function.update_of_ne hu] at hr'
      obtain ⟨u, hu', hid'⟩ := h.hash userID' r' hr'
      refine ⟨u, ?_, hid'⟩
      rw [Function.update_of_ne, hu']
      rintro rfl
      rw [hr] at hu'
      cases hu'
  · intro r' u' hu'
    dsimp only at hu' ⊢
    by_cases hrr : r' = r
    · subst hrr
      rw [Function.update_self] at hu'
      obtain rfl := Option.some.inj hu'
      exact Function.update_self _ _ _
    · rw [Function.update_of_ne hrr] at hu'
      have hold := h.users r' u' hu'
      rw [Function.update_of_ne, hold]
      rintro rfl
      rw [hid] at hold
      cases hold
  · intro c r' hr'
    obtain ⟨u, hu, hrest⟩ := h.sits c r' hr'
    refine ⟨u, ?_, hrest⟩
    dsimp only
    rw [Function.update_of_ne, hu]
    rintro rfl
    rw [hr] at hu
    cases hu
  · intro r' u' hu'
    dsimp only at hu'
    by_cases hrr : r' = r
    · subst hrr
      rw [Function.update_self] at hu'
      obtain rfl := Option.some.inj hu'
      exact hpos
    · rw [Function.update_of_ne hrr] at hu'
      exact h.pos r' u' hu'

/-- A user who is back plays again, at the table of the record. -/
theorem switchUserItem_cases {s' : State} (hs : switchUserItem s r = some s') :
    ∃ u, s.users r = some u ∧ (s' = s ∨ s' = writeUser s u.userID r u .usPlaying u.tableID u.chairID) := by
  unfold switchUserItem at hs
  split at hs
  case h_1 => cases hs
  rename_i u hu
  obtain rfl := Option.some.inj hs
  refine ⟨u, hu, ?_⟩
  split
  · exact Or.inr rfl
  · exact Or.inl rfl

theorem Placed.back (h : Placed cfg s) (hu : s.users r = some u) :
    Placed cfg (writeUser s u.userID r u .usPlaying u.tableID u.chairID) := by
  by_cases hc : s.chairs.lookup u.chairID = some r
  · rw [(h.record_of_sits hu hc).1]
    exact h.write hu hc (by decide)
  · exact h.write_other hu hc _ _ _

/-- The record of a user who is not at this table is written. -/
theorem elsewhere_cases {st : UserStatus} {t c : Nat} {s' : State} (hs : elsewhere cfg s r st t c = some s') :
    ∃ u, s.users r = some u ∧ u.tableID ≠ cfg.id ∧ s' = writeUser s u.userID r u st t c := by
  unfold elsewhere at hs
  split at hs
  case h_1 => cases hs
  rename_i u hu
  split at hs
  case isFalse => cases hs
  rename_i ht
  exact ⟨u, hu, ht.1, (Option.some.inj hs).symm⟩

end Elsewhere

end SasyServer.TableFrame
