import SasyServer.Table.Frame

/-!
# The scores of the users at a table

`cmd_sitDown` of `service/gameServer/GS_model_tableFrame.lua` with the attributes `score` and `siteDownScore` of the user
records, which a practice table exchanges: over the table of `Table.Frame`, whose `cmd_sitDown` is this one without the
scores. The score that is tried is `_data.config.tryScore` of the sink.
-/

namespace SasyServer.TableFrame

/-- An entry of `chairID2UserData`: the user item and the `offlineTime`. -/
def State.chairID2UserData (s : State) (chairID : Nat) : Option (Nat × Nat) :=
  (s.chairs.lookup chairID).map fun userItem => (userItem, s.offlineTime chairID)

/-- The attributes `score` and `siteDownScore` of the user records. -/
structure Scores where
  score : Nat → Int
  siteDownScore : Nat → Int

namespace Scores

/-- The attributes of the users, with their scores. -/
def attr (x : Scores) (attr : Nat → Attr) (userItem : Nat) : Attr := { attr userItem with score := x.score userItem }

/-- The practice score is given, and the score kept in `siteDownScore`. -/
def practice (x : Scores) (userItem : Nat) (tryScore : Int) : Scores where
  score := Function.update x.score userItem tryScore
  siteDownScore := Function.update x.siteDownScore userItem (x.score userItem)

end Scores

/-- A table and the scores of the users. -/
structure Table where
  state : State
  scores : Scores

/-- A computation that does not change the scores. -/
def Table.lift (x : Scores) (a : Run) : Attempt Table Failure := ⟨⟨a.state, x⟩, a.failure⟩

/-- `cmd_sitDown`. -/
def cmdSitDown (cfg : ServerConfig) (tryScore : Int) (attr : Nat → Attr) (t : Table) (userItem chairID : Nat) (a : SitArgs) :
    Attempt Table Failure :=
  let attr := t.scores.attr attr
  match t.state.users userItem with
  | none => .fail t (.raised .unusedObject)
  | some u =>
    if ¬(u.tableID = invalidTable ∧ u.chairID = invalidChair) then .fail t (.raised .userStatus)
    else
      match sitRefusal cfg attr t.state userItem chairID a with
      | some failure => .fail t failure
      | none =>
        let scores := if cfg.isEducate then t.scores.practice userItem tryScore else t.scores
        Table.lift scores <|
          (takeChair cfg t.state userItem u.userID (sitChair cfg t.state chairID a)).andThen fun s =>
            (sitOwner cfg attr s userItem u.userID a).andThen fun s =>
              (sitVip cfg attr s userItem a).andThen fun s =>
                onActionUserSitDown cfg (sendTableState s) (sitChair cfg t.state chairID a)

end SasyServer.TableFrame
