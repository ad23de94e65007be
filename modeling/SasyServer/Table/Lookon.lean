import Mathlib.Data.List.AList
import Mathlib.Logic.Function.Basic
import SasyServer.Lib.Steps
import SasyServer.Table.Frame

/-!
# The watchers of a table

`service/gameServer/GS_model_tableFrame.lua`: the handlers that edit the lists of `chairID2LookonUser`, at one table.
`cmd_userLookon`, `cmd_standUp`, `cmd_userOffLine` and the callers of `concludeGame` run in the critical section, which a
handler keeps while it waits; the command `removeOldLookonUser` runs outside it. What they wait for is `setUserStatus` of the
user manager, which handles the messages of the table in the order in which they were sent.

A user is named by the `userID`, and has a record while the user manager knows the user. A list of watchers is a table of
Lua, which a handler may hold after the chair has lost it, so that the lists have numbers. After a wait `pairs` may go on
with any chairs, since another handler may have given a chair its first watcher meanwhile; the label gives them. So it does
with the users `concludeGame` goes through, and with those it sends away for their scores.

The waits for other services than `setUserStatus`, between which none of this is read, are left out, and so are
the packets to the watchers.
-/

namespace SasyServer.TableLookon

open UserManager (UserStatus)
open TableFrame (ServerConfig invalidTable invalidChair)

/-- A user record. -/
structure User where
  userStatus : UserStatus
  tableID : Nat
  chairID : Nat
  deriving DecidableEq, Repr

/-- A call of `setUserStatus`. -/
structure Request where
  userID : Nat
  userStatus : UserStatus
  tableID : Nat
  chairID : Nat
  deriving DecidableEq, Repr

/-- A `removeOldLookonUser` that waits: it has found the user in a list at a place (the first one is 0). -/
structure Removal where
  userID : Nat
  userIDs : Nat
  k : Nat
  session : Nat
  deriving DecidableEq, Repr

/-- What a handler in the critical section has still to do: a `standUp`, a turn of the loop of `concludeGame`, or a
call of `setUserStatus`. -/
inductive Todo where
  | standUp (userID : Nat)
  | concludeUser (chairID : Nat) (kick : Bool)
  | setUserStatus (q : Request)
  deriving DecidableEq, Repr

/-- The handler that waits in the critical section: in the `removeOldLookonUser` of `addLookonUserID`, or in another
call of `setUserStatus`. -/
inductive Holder where
  | replacing (chairID : Nat) (r : Removal)
  | asking (q : Request) (session : Nat) (todo : List Todo)
  deriving DecidableEq, Repr

/-- What `table.remove` has removed from a list, for a user whom it should remove. -/
structure Removed where
  userID : Nat
  value : Option Nat
  deriving DecidableEq, Repr

/-- The table: the users in the chairs, the lists of the watchers, the messages to the user manager, with the number of those
it has handled, and the handlers that wait. -/
structure State where
  users : Nat → Option User
  chairs : Nat → Option Nat
  lookonUser : AList fun _ : Nat => Nat
  lists : Nat → List Nat
  nextList : Nat
  messages : List Request
  handled : Nat
  holder : Option Holder
  removals : List Removal
  log : List Removed

/-- An empty table before the first user. -/
def State.init : State where
  users := fun _ => none
  chairs := fun _ => none
  lookonUser := ∅
  lists := fun _ => []
  nextList := 0
  messages := []
  handled := 0
  holder := none
  removals := []
  log := []

namespace State

/-- The watchers of a chair. -/
def watchers (s : State) (chairID : Nat) : List Nat := (s.lookonUser.lookup chairID).elim [] s.lists

/-- The session of the next message. -/
def session (s : State) : Nat := s.handled + s.messages.length

/-- The answer to a message has come. -/
def answered (s : State) (session : Nat) : Bool := session < s.handled

def send (s : State) (q : Request) : State := { s with messages := s.messages ++ [q] }

/-- The handler in the critical section sends a message and waits. -/
def ask (s : State) (q : Request) (todo : List Todo) : State := { s.send q with holder := some (.asking q s.session todo) }

/-- The handler leaves the critical section, at its end or with an error. -/
def release (s : State) : State := { s with holder := none }

end State

/-! ## The user manager -/

def Request.free (userID : Nat) : Request := ⟨userID, .usFree, invalidTable, invalidChair⟩

def Request.null (userID : Nat) : Request := ⟨userID, .usNull, invalidTable, invalidChair⟩

/-- `setUserStatus`. A user that is not found is left alone, and the record of one that gets `US_NULL` is released. -/
def setUserStatus (s : State) (q : Request) : State :=
  if s.users q.userID = none then s
  else
    { s with
      users := Function.update s.users q.userID
        (if q.userStatus = .usNull then none else some ⟨q.userStatus, q.tableID, q.chairID⟩) }

/-- The user manager handles the next message. -/
def serve (s : State) : Option State :=
  match s.messages with
  | [] => none
  | q :: messages => some { setUserStatus s q with messages := messages, handled := s.handled + 1 }

/-! ## The lists -/

/-- The loops of `removeOldLookonUser`, up to the next wait. -/
def search (s : State) (userID : Nat) (chairs : List Nat) : Option Removal :=
  chairs.findSome? fun chairID =>
    (s.lookonUser.lookup chairID).bind fun userIDs => ((s.lists userIDs).idxOf? userID).map
      fun k => ⟨userID, userIDs, k, s.session⟩

/-- `table.remove`; `none` is the error "position out of bounds". The place after the last one is within the
bounds, and nothing is there. -/
def tableRemove (s : State) (r : Removal) : Option State :=
  if r.k ≤ (s.lists r.userIDs).length then
    some { s with
      lists := Function.update s.lists r.userIDs ((s.lists r.userIDs).eraseIdx r.k)
      log := ⟨r.userID, (s.lists r.userIDs)[r.k]?⟩ :: s.log }
  else none

/-- A chair gets a list with its first watcher. -/
def newList (s : State) (chairID userID : Nat) : State :=
  { s with
    lookonUser := s.lookonUser.insert chairID s.nextList
    lists := Function.update s.lists s.nextList [userID]
    nextList := s.nextList + 1 }

/-- `table.insert`. -/
def tableInsert (s : State) (userIDs userID : Nat) : State :=
  { s with lists := Function.update s.lists userIDs (s.lists userIDs ++ [userID]) }

/-- The chair and its list are given up in `standUp`. -/
def leave (s : State) (chairID : Nat) : State :=
  { s with
    chairs := Function.update s.chairs chairID none
    lookonUser := s.lookonUser.erase chairID }

/-! ## In the critical section -/

/-- What the handler does next: it stops with an error, it gives up a chair and asks for the status of the user who leaves,
or it asks for another status. -/
inductive Act where
  | error
  | leave (userID chairID : Nat) (us : UserStatus)
  | ask (q : Request) (more : List Todo)
  deriving DecidableEq, Repr

/-- `standUp`, if the user sits in the chair. -/
def standUp (s : State) (userID : Nat) : Option Act :=
  match s.users userID with
  | none => some .error
  | some u =>
    if s.chairs u.chairID ≠ some userID then none
    else some (.leave userID u.chairID (if u.userStatus = .usOffline then .usNull else .usFree))

/-- One turn of the loop of `concludeGame`. -/
def concludeUser (cfg : ServerConfig) (s : State) (chairID : Nat) (kick : Bool) : Option Act :=
  match s.chairs chairID with
  | none => none
  | some userID =>
    match s.users userID with
    | none => some .error
    | some u =>
      if u.userStatus = .usOffline then standUp s userID
      else if u.userStatus = .usPlaying then
        some (.ask ⟨userID, .usSit, cfg.id, chairID⟩ (if kick then [.standUp userID] else []))
      else if kick then standUp s userID
      else none

def Todo.act (cfg : ServerConfig) (s : State) : Todo → Option Act
  | .standUp userID => TableLookon.standUp s userID
  | .concludeUser chairID kick => TableLookon.concludeUser cfg s chairID kick
  | .setUserStatus q => some (.ask q [])

/-- The first thing that is done, and what is left after it. -/
def nextAct (cfg : ServerConfig) (s : State) : List Todo → Option (Act × List Todo)
  | [] => none
  | t :: todo =>
    match t.act cfg s with
    | none => nextAct cfg s todo
    | some a => some (a, todo)

/-- The handler goes on, up to the next wait. -/
def advance (cfg : ServerConfig) (s : State) (todo : List Todo) : State :=
  match nextAct cfg s todo with
  | none | some (.error, _) => s.release
  | some (.leave userID chairID us, todo) => (leave s chairID).ask ⟨userID, us, invalidTable, invalidChair⟩ todo
  | some (.ask q more, todo) => s.ask q (more ++ todo)

/-- `cmd_userOffLine`. A user who does not sit at the table gets `US_NULL`, as does one who does not
play, after a `standUp`. -/
def userOffLine (cfg : ServerConfig) (s : State) (userID : Nat) (turns : List Todo) : List Todo :=
  match s.users userID with
  | none => []
  | some u =>
    if s.chairs u.chairID ≠ some userID then [.setUserStatus (Request.null userID)]
    else if u.userStatus = .usPlaying then [.setUserStatus ⟨userID, .usOffline, cfg.id, u.chairID⟩]
    else .standUp userID :: (turns ++ [.setUserStatus (Request.null userID)])

/-- The turns of `concludeGame`. -/
def concludeGame (turns : List (Nat × Bool)) : List Todo := turns.map fun t => .concludeUser t.1 t.2

/-- The call of `setUserStatus` in `cmd_userLookon`. -/
def askLookon (cfg : ServerConfig) (s : State) (userID chairID : Nat) : State :=
  s.ask ⟨userID, .usLookon, cfg.id, chairID⟩ []

/-- `addLookonUserID` for a chair that has a list, from its `removeOldLookonUser` on. -/
def replaceOld (cfg : ServerConfig) (s : State) (userID chairID : Nat) (chairs : List Nat) : State :=
  match search s userID chairs with
  | some r => { s.send (Request.free userID) with holder := some (.replacing chairID r) }
  | none =>
    match s.lookonUser.lookup chairID with
    | none => s.release
    | some userIDs => askLookon cfg (tableInsert s userIDs userID) userID chairID

/-- The checks of `cmd_userLookon`; `refused` is what those of the password and of the sink say. -/
def admits (s : State) (userID chairID : Nat) (refused : Bool) : Bool :=
  (s.users userID).any (fun u => u.tableID = invalidTable && u.chairID = invalidChair) && chairID ≠ invalidChair &&
    (s.chairs chairID).isSome && !refused

/-- `cmd_userLookon`. -/
def userLookon (cfg : ServerConfig) (s : State) (userID chairID : Nat) (refused : Bool) (chairs : List Nat) : State :=
  if ¬admits s userID chairID refused then s
  else
    match s.lookonUser.lookup chairID with
    | none => askLookon cfg (newList s chairID userID) userID chairID
    | some _ => replaceOld cfg s userID chairID chairs

/-- The answer has come to the handler in the critical section. -/
def resume (cfg : ServerConfig) (s : State) (chairs : List Nat) : Option State :=
  match s.holder with
  | none => none
  | some (.asking _ session todo) => if s.answered session then some (advance cfg s todo) else none
  | some (.replacing chairID r) =>
    if s.answered r.session then
      some (match tableRemove s r with
        | none => s.release
        | some s => replaceOld cfg s r.userID chairID chairs)
    else none

/-! ## Outside of the critical section -/

/-- The loops of `removeOldLookonUser` in a handler of its own. -/
def removeOldLookonUser (s : State) (userID : Nat) (chairs : List Nat) : State :=
  match search s userID chairs with
  | none => s
  | some r => { s.send (Request.free userID) with removals := s.removals ++ [r] }

/-- The answer has come to a `removeOldLookonUser`. -/
def resumeRemoval (s : State) (i : Nat) (chairs : List Nat) : Option State :=
  match s.removals[i]? with
  | none => none
  | some r =>
    if s.answered r.session then
      let s := { s with removals := s.removals.eraseIdx i }
      some (match tableRemove s r with
        | none => s
        | some s => removeOldLookonUser s r.userID chairs)
    else none

/-! ## The system -/

/-- The beginning of a handler, the user manager, the end of a wait, or what happens to the users otherwise: `sitDown` gives
the record and the chair to a player, and with `elsewhere` a user who neither watches here nor comes to watch logs in, gets
another record, or logs out. -/
inductive Label where
  | userLookon (userID chairID : Nat) (refused : Bool) (chairs : List Nat)
  | removeOldLookonUser (userID : Nat) (chairs : List Nat)
  | standUp (userID : Nat) (turns : List (Nat × Bool))
  | userOffLine (userID : Nat) (turns : List (Nat × Bool))
  | concludeGame (turns : List (Nat × Bool))
  | serve
  | resume (chairs : List Nat)
  | resumeRemoval (i : Nat) (chairs : List Nat)
  | sitDown (userID chairID : Nat) (userStatus : UserStatus)
  | elsewhere (userID : Nat) (user : Option User)
  deriving DecidableEq, Repr

/-- The user watches at this table. -/
def User.watches (cfg : ServerConfig) (u : User) : Bool := u.userStatus = .usLookon && u.tableID = cfg.id

/-- A user sits down: the end of `cmd_sitDown`. -/
def sitDown (cfg : ServerConfig) (s : State) (userID chairID : Nat) (userStatus : UserStatus) : Option State :=
  match s.users userID with
  | none => none
  | some u =>
    if u.tableID = invalidTable ∧ u.chairID = invalidChair ∧ s.chairs chairID = none ∧
        (userStatus = .usSit ∨ userStatus = .usReady ∨ userStatus = .usPlaying) then
      some { s with
        chairs := Function.update s.chairs chairID (some userID)
        users := Function.update s.users userID (some ⟨userStatus, cfg.id, chairID⟩) }
    else none

/-- One label. A handler begins in the critical section when no other one has it. -/
def step (cfg : ServerConfig) (s : State) : Label → Option State
  | .userLookon userID chairID refused chairs =>
    if s.holder = none ∧ chairs.isPerm s.lookonUser.keys then some (userLookon cfg s userID chairID refused chairs) else none
  | .removeOldLookonUser userID chairs =>
    if chairs.isPerm s.lookonUser.keys then some (removeOldLookonUser s userID chairs) else none
  | .standUp userID turns => if s.holder = none then some (advance cfg s (.standUp userID :: concludeGame turns)) else none
  | .userOffLine userID turns =>
    if s.holder = none then some (advance cfg s (userOffLine cfg s userID (concludeGame turns))) else none
  | .concludeGame turns => if s.holder = none then some (advance cfg s (concludeGame turns)) else none
  | .serve => serve s
  | .resume chairs => resume cfg s chairs
  | .resumeRemoval i chairs => resumeRemoval s i chairs
  | .sitDown userID chairID userStatus => if s.holder = none then sitDown cfg s userID chairID userStatus else none
  | .elsewhere userID user =>
    if (s.users userID).any (User.watches cfg) ∨ user.any (User.watches cfg) then none
    else some { s with users := Function.update s.users userID user }

end SasyServer.TableLookon
