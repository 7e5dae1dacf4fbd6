import UchiPulse.Db.SaveAction

/-! The control app's connection to the hub's database file. -/
namespace UchiPulse.Control
open Common Db Sql

def sqlError (display : SqliteError → String) (error : SqliteError) : String :=
  s!"SQLiteエラー: {display error}"

def validateAction (action : ActionRecord) : Except String Unit := do
  failIf (action.actionId = 0) "Action IDは1以上で入力してください"
  validateRequired "Action名" action.actionName
  validateActionTarget action

/-- Unlike the settings app, it lets any state through that is not empty. -/
def saveAction (display : SqliteError → String) (action : ActionRecord) :
    Program Env Connection String Unit :=
  saving (sqlError display) (validateAction action) (writeAction action)

end UchiPulse.Control
