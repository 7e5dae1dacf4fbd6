import UchiPulse.Common.Types
import UchiPulse.Db.Tables
import UchiPulse.Lib.Checks

/-! What the settings app and the control app share when they save one action into the
hub's database file. -/
namespace UchiPulse.Db
open Common Sql

structure StateChangeRecord where
  stateType : String
  stateValue : String
deriving DecidableEq

structure ActionRecord where
  actionId : UInt32
  actionName : String
  targetType : String
  targetFamilyId : Option UInt32
  webMessage : String
  enabled : Bool
  stateChanges : List StateChangeRecord
  notificationEnabled : Bool
  notificationMessage : String
  notificationTargets : List UInt32
deriving DecidableEq

def nullIfEmpty (value : String) : Option String := if value = "" then none else some value

def validateRequired (label value : String) : Except String Unit :=
  failIf (isBlank value) s!"{label}を入力してください"

def validateActionTarget (action : ActionRecord) : Except String Unit := do
  failIf (action.targetType = "FAMILY" ∧ action.targetFamilyId = none)
    "家族対象Actionには対象家族を指定してください"
  failIf (action.targetType = "COMMON" ∧ action.targetFamilyId.isSome)
    "共通Actionには対象家族を指定できません"
  failIf (action.targetType ≠ "FAMILY" ∧ action.targetType ≠ "COMMON") "対象種別が不正です"

def writeStateChange (actionId : UInt32) (change : StateChangeRecord) : Session Unit := do
  Program.failIf (change.stateType = "" ∨ change.stateValue = "")
    (.invalidParameterName "状態変更が未入力です")
  execute (Tables.insertStateChange {
    actionId,stateType := change.stateType,stateValue := change.stateValue })

/-- The statements between `BEGIN IMMEDIATE` and `COMMIT`. -/
def writeAction (action : ActionRecord) : Session Unit := do
  execute (Tables.upsertAction {
    actionId := action.actionId,actionName := action.actionName,targetType := action.targetType
    targetFamilyId := action.targetFamilyId,webMessage := nullIfEmpty action.webMessage
    enabled := action.enabled })
  execute (Tables.deleteStateChangesOf action.actionId)
  action.stateChanges.forM (writeStateChange action.actionId)
  execute (Tables.deleteNotificationSettingsOf action.actionId)
  Program.onlyIf (action.notificationEnabled || action.notificationMessage ≠ "")
    (execute (Tables.insertNotificationSetting {
      actionId := action.actionId,notificationEnabled := action.notificationEnabled
      notificationMessage := nullIfEmpty action.notificationMessage }))
  execute (Tables.deleteNotificationTargetsOf action.actionId)
  action.notificationTargets.forM fun familyId =>
    execute (Tables.insertNotificationTarget { actionId := action.actionId,familyId })

end UchiPulse.Db
