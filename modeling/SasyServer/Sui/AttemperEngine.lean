import SasyServer.Sui.UserInfo

/-!
# The writes of the variation

`service/gameServer/GS_model_attemperEngine.lua`: `writeVariation` takes the variation of a user out of the record, and waits
for `sp_write_score` with it. Its `retCode` is only logged and decides whether the client is told. `cmd_writeVariation` calls
`writeVariation` on a server with the rule `SR_IMMEDIATE_WRITE_SCORE`, and `cmd_writeVariationWithoutNotify` on every server.
In the wait `writeUserScore` and other calls of `writeVariation` go on. What the database has been asked to write is kept
here with its answer, the newest first.
-/

namespace SasyServer.Sui

/-- The record of a user, the calls of `sp_write_score` that wait, and those that have been answered: the `retCode`, or no
answer for a call that has ended in an error. -/
structure Attemper where
  userItem : UserInfo
  waiting : List Distilled
  answered : List (Distilled × Option Int)

/-- A call of `writeUserScore` or of `writeVariation`, and the answer to the `k`-th call that waits. -/
inductive AttemperLabel where
  | writeUserScore (scores : List (String × Int)) (type gamePlayTime : Int)
  | writeVariation
  | answer (k : Nat) (retCode : Option Int)
  deriving DecidableEq, Repr

/-- One label. `writeVariation` calls the database only with a variation of a record that was modified. -/
def attemperStep (s : Attemper) : AttemperLabel → Option Attemper
  | .writeUserScore scores type gamePlayTime =>
    (Sui.writeUserScore s.userItem scores type gamePlayTime).map fun userItem => { s with userItem := userItem }
  | .writeVariation =>
    (distillVariation s.userItem).map fun (tmp, userItem) =>
      { s with userItem := userItem, waiting := s.waiting ++ tmp.toList }
  | .answer k retCode =>
    s.waiting[k]?.map fun tmp => { s with waiting := s.waiting.eraseIdx k, answered := (tmp, retCode) :: s.answered }

end SasyServer.Sui
