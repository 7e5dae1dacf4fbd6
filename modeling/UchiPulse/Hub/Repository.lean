import UchiPulse.Common.Types
import UchiPulse.Db.Tables

/-! The hub's repository: one statement for each function, and the typed records its
rows are read into. -/
namespace UchiPulse.Hub
open Common Db Sql

/-- Its other variant only travels inside a conversion failure. -/
abbrev DatabaseError := SqliteError

structure ActionRecord where
  actionId : ActionId
  actionName : String
  targetType : TargetType
  targetFamilyId : Option FamilyId
  webMessage : Option String
  enabled : Bool
deriving DecidableEq

structure ActionStateChangeRecord where
  actionId : ActionId
  stateType : StateType
  stateValue : StateValue
deriving DecidableEq

/-! ### Stored names -/

def targetTypeToStr : TargetType → String
  | .family => "FAMILY"
  | .common => "COMMON"

def stateTypeToStr : StateType → String
  | .entryPermission => "ENTRY_PERMISSION"
  | .mealNotice => "MEAL_NOTICE"
  | .snackNotice => "SNACK_NOTICE"
  | .helpNotice => "HELP_NOTICE"
  | .mailbox => "MAILBOX"

def stateValueToStr : StateValue → String
  | .unset => "UNSET"
  | .on => "ON"
  | .off => "OFF"
  | .ok => "OK"
  | .ng => "NG"
  | .meeting => "MEETING"

def targetTypeFromStr : String → Except SqliteError TargetType
  | "FAMILY" => .ok .family
  | "COMMON" => .ok .common
  | value => .error (.fromSqlConversionFailure "target_type" value)

def stateTypeFromStr : String → Except SqliteError StateType
  | "ENTRY_PERMISSION" => .ok .entryPermission
  | "MEAL_NOTICE" => .ok .mealNotice
  | "SNACK_NOTICE" => .ok .snackNotice
  | "HELP_NOTICE" => .ok .helpNotice
  | "MAILBOX" => .ok .mailbox
  | value => .error (.fromSqlConversionFailure "state_type" value)

def stateValueFromStr : String → Except SqliteError StateValue
  | "UNSET" => .ok .unset
  | "ON" => .ok .on
  | "OFF" => .ok .off
  | "OK" => .ok .ok
  | "NG" => .ok .ng
  | "MEETING" => .ok .meeting
  | value => .error (.fromSqlConversionFailure "state_value" value)

@[simp] theorem targetTypeFromStr_toStr (value : TargetType) :
    targetTypeFromStr (targetTypeToStr value) = .ok value := by
  cases value <;> rfl

@[simp] theorem stateTypeFromStr_toStr (value : StateType) :
    stateTypeFromStr (stateTypeToStr value) = .ok value := by
  cases value <;> rfl

@[simp] theorem stateValueFromStr_toStr (value : StateValue) :
    stateValueFromStr (stateValueToStr value) = .ok value := by
  cases value <;> rfl

theorem stateTypeFromStr_ok {name : String} {value : StateType} (ok : stateTypeFromStr name = .ok value) :
    stateTypeToStr value = name := by
  unfold stateTypeFromStr at ok
  split at ok <;> cases ok <;> rfl

/-! ### Rows -/

def rowToAction (row : ActionRow) : Except SqliteError ActionRecord := do
  let targetType ← targetTypeFromStr row.targetType
  return { row with targetType }

def rowToStateChange (row : StateChangeRow) : Except SqliteError ActionStateChangeRecord := do
  let stateType ← stateTypeFromStr row.stateType
  let stateValue ← stateValueFromStr row.stateValue
  return { actionId := row.actionId,stateType,stateValue }

/-- The first row, if there is one. -/
def optional {α β : Type} (convert : α → Except SqliteError β) : Option α → Except SqliteError (Option β)
  | none => .ok none
  | some row => (convert row).map some

/-! ### Statements -/

def getDevice (deviceId : String) : Session (Option DeviceRow) :=
  query fun tables => .ok (tables.device deviceId)

def listEnabledDevices : Session (List DeviceRow) :=
  query fun tables => .ok tables.enabledDevices

def getFamily (familyId : FamilyId) : Session (Option FamilyRow) :=
  query fun tables => .ok (tables.family familyId)

def listFamilies : Session (List FamilyRow) :=
  query fun tables => .ok tables.familiesById

def listActions : Session (List ActionRecord) :=
  query fun tables => tables.actionsById.mapM rowToAction

def getAction (actionId : ActionId) : Session (Option ActionRecord) :=
  query fun tables => optional rowToAction (tables.action actionId)

def listActionStateChanges (actionId : ActionId) : Session (List ActionStateChangeRecord) :=
  query fun tables => (tables.stateChangesOf actionId).mapM rowToStateChange

def getNotificationSetting (actionId : ActionId) : Session (Option NotificationSettingRow) :=
  query fun tables => .ok (tables.notificationSetting actionId)

def listNotificationTargets (actionId : ActionId) : Session (List NotificationTargetRow) :=
  query fun tables => .ok (tables.notificationTargetsOf actionId)

def listFamilyNotificationDestinations (familyId : FamilyId) : Session (List DestinationRow) :=
  query fun tables => .ok (tables.destinationsOf familyId)

/-- False when `(device_id, event_id)` was already present. -/
def insertEvent (event : EventRow) : Session Bool := execute fun tables => tables.insertEvent event

def getEvent (deviceId eventId : String) : Session (Option EventRow) :=
  query fun tables => .ok (tables.event deviceId eventId)

def schemaVersion : Session Nat := query fun tables => .ok tables.userVersion

/-! ### Statements of the repository alone -/

def ActionRecord.row (self : ActionRecord) : ActionRow where
  actionId := self.actionId
  actionName := self.actionName
  targetType := targetTypeToStr self.targetType
  targetFamilyId := self.targetFamilyId
  webMessage := self.webMessage
  enabled := self.enabled

def ActionStateChangeRecord.row (self : ActionStateChangeRecord) : StateChangeRow where
  actionId := self.actionId
  stateType := stateTypeToStr self.stateType
  stateValue := stateValueToStr self.stateValue

def insertDevice (device : DeviceRow) : Session Unit := execute (Tables.insertDevice device)

def updateDevice (device : DeviceRow) : Session Bool :=
  execute (Tables.single (·.devices.countP (·.deviceId = device.deviceId)) (Tables.updateDevice device))

def deleteDevice (deviceId : String) : Session Bool :=
  execute (Tables.single (·.devices.countP (·.deviceId = deviceId)) (Tables.deleteDevice deviceId))

def insertFamily (family : FamilyRow) : Session Unit := execute (Tables.insertFamily family)

def updateFamily (family : FamilyRow) : Session Bool :=
  execute (Tables.single (·.families.countP (·.familyId = family.familyId)) (Tables.updateFamily family))

def insertAction (action : ActionRecord) : Session Unit := execute (Tables.insertAction action.row)

def updateAction (action : ActionRecord) : Session Bool :=
  execute (Tables.single (·.actions.countP (·.actionId = action.actionId)) (Tables.updateAction action.row))

def insertActionStateChange (change : ActionStateChangeRecord) : Session Unit :=
  execute (Tables.insertStateChange change.row)

def deleteActionStateChange (actionId : ActionId) (stateType : StateType) : Session Bool :=
  let name := stateTypeToStr stateType
  execute (Tables.single (·.stateChanges.countP fun row => row.actionId = actionId ∧ row.stateType = name)
    (Tables.deleteStateChange actionId name))

def upsertNotificationSetting (setting : NotificationSettingRow) : Session Unit :=
  execute (Tables.upsertNotificationSetting setting)

def insertNotificationTarget (target : NotificationTargetRow) : Session Unit :=
  execute (Tables.insertNotificationTarget target)

def deleteNotificationTarget (target : NotificationTargetRow) : Session Bool :=
  execute (Tables.single (·.notificationTargets.count target) (Tables.deleteNotificationTarget target))

/-- Returns the identifier that the table gave it. -/
def insertFamilyNotificationDestination (familyId : FamilyId) (notificationType destination : String)
    (enabled : Bool) : Session Nat :=
  execute (Tables.insertDestination familyId notificationType destination enabled)

def deleteFamilyNotificationDestination (id : Nat) : Session Bool :=
  execute (Tables.single (·.destinations.countP (·.id = id)) (Tables.deleteDestination id))

end UchiPulse.Hub
