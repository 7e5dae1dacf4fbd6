import UchiPulse.Db.SaveAction

/-! The settings app's connection to the hub's database file. -/
namespace UchiPulse.Settings
open Common Db Sql

structure DeviceRecord where
  deviceId : String
  name : String
  deviceType : String
  enabled : Bool
deriving DecidableEq

structure FamilyRecord where
  familyId : UInt32
  displayName : String
  enabled : Bool
deriving DecidableEq

/-- A destination that was never saved has no `id`. -/
structure NotificationDestinationRecord where
  id : Option Nat
  familyId : UInt32
  notificationType : String
  destination : String
  enabled : Bool
deriving DecidableEq

/-- Without the rowid, which is only shown. -/
structure EventRecord where
  receivedAt : String
  deviceId : String
  eventId : String
deriving DecidableEq

/-! ### Labels -/

def states : List String := ["MEAL_NOTICE","SNACK_NOTICE","HELP_NOTICE","ENTRY_PERMISSION","MAILBOX"]

def values : String → List String
  | "ENTRY_PERMISSION" => ["UNSET","OK","NG","MEETING"]
  | "MAILBOX" => ["ON","OFF"]
  | _ => ["ON","OFF"]

/-! ### Saving an action -/

/-- Busy or locked files and violated constraints have texts of their own. -/
def sqlError (display : SqliteError → String) (error : SqliteError) : String :=
  match error with
  | .code 5 | .code 6 => "設定ファイルを別の処理が使用しています。親機の停止後に、もう一度お試しください。"
  | .code 19 => "同じ番号の登録、または関連する設定・履歴があります。対象の番号と関連する家族・動作を確認してください。削除できない場合は無効にできます。"
  | error => s!"SQLiteエラー: {display error}"

def validateAction (action : ActionRecord) : Except String Unit := do
  validateRequired "動作の名前" action.actionName
  validateActionTarget action
  action.stateChanges.forM fun change =>
    failIf (change.stateType ∉ states ∨ change.stateValue ∉ values change.stateType)
      "お知らせの種類に対応した状態を選んでください。"

def saveAction (display : SqliteError → String) (action : ActionRecord) :
    Program Env Connection String Unit :=
  saving (sqlError display) (validateAction action) (writeAction action)

/-! ### Saving and deleting other records -/

section
variable (display : SqliteError → String)

/-- One statement of its own, after the checks. -/
def statement {α : Type} (checked : Except String Unit) (body : Session α) : Program Env Connection String α :=
  match checked with
  | .error message => Program.fail message
  | .ok () => reporting (sqlError display) body

/-- `now` is the database's clock. -/
def saveDevice (now : String) (device : DeviceRecord) : Program Env Connection String Unit :=
  statement display
    (do
      validateRequired "子機ID" device.deviceId
      validateRequired "子機名" device.name
      validateRequired "子機種別" device.deviceType)
    (execute (Tables.upsertDevice device.deviceId device.name device.deviceType now device.enabled))

def saveFamily (family : FamilyRecord) : Program Env Connection String Unit :=
  statement display
    (do
      failIf (family.familyId = 0) "家族IDは1以上で入力してください"
      validateRequired "家族表示名" family.displayName)
    (execute (Tables.upsertFamily {
      familyId := family.familyId,displayName := family.displayName,enabled := family.enabled }))

def writeDestination (destination : NotificationDestinationRecord) : Session Nat :=
  match destination.id with
  | some id => do
    execute (Tables.updateDestination {
      id,familyId := destination.familyId,notificationType := destination.notificationType
      destination := destination.destination,enabled := destination.enabled })
    return id
  | none => execute (Tables.insertDestination destination.familyId destination.notificationType
      destination.destination destination.enabled)

/-- Returns the identifier, which a new destination gets from its table. -/
def saveNotificationDestination (destination : NotificationDestinationRecord) :
    Program Env Connection String Nat :=
  statement display
    (do
      failIf (destination.familyId = 0) "通知先の家族を選択してください"
      validateRequired "通知種別" destination.notificationType
      validateRequired "通知先" destination.destination)
    (writeDestination destination)

def deleteDevice (deviceId : String) : Program Env Connection String Unit :=
  statement display (.ok ()) (execute (Tables.deleteDevice deviceId))

def deleteFamily (familyId : UInt32) : Program Env Connection String Unit :=
  statement display (.ok ()) (execute (Tables.deleteFamily familyId))

def deleteAction (actionId : UInt32) : Program Env Connection String Unit :=
  statement display (.ok ()) (execute (Tables.deleteAction actionId))

def deleteNotificationDestination (id : Nat) : Program Env Connection String Unit :=
  statement display (.ok ()) (execute (Tables.deleteDestination id))

end

/-! ### Lists -/

def deviceRecord (row : DeviceRow) : DeviceRecord :=
  { deviceId := row.deviceId,name := row.name,deviceType := row.deviceType,enabled := row.enabled }

def listDevices : Session (List DeviceRecord) :=
  query fun tables => .ok (tables.devicesById.map deviceRecord)

def familyRecord (row : FamilyRow) : FamilyRecord :=
  { familyId := row.familyId,displayName := row.displayName,enabled := row.enabled }

def listFamilies : Session (List FamilyRecord) :=
  query fun tables => .ok (tables.familiesById.map familyRecord)

/-- What belongs to an action is read after its row. -/
def loadAction (row : ActionRow) : Session ActionRecord := do
  let stateChanges ← query fun tables => .ok (tables.stateChangesOf row.actionId)
  let notification ← query fun tables => .ok (tables.notificationSetting row.actionId)
  let targets ← query fun tables => .ok (tables.notificationTargetsOf row.actionId)
  return {
    actionId := row.actionId,actionName := row.actionName,targetType := row.targetType
    targetFamilyId := row.targetFamilyId,webMessage := row.webMessage.getD "",enabled := row.enabled
    stateChanges := stateChanges.map fun change =>
      { stateType := change.stateType,stateValue := change.stateValue }
    notificationEnabled := notification.any (·.notificationEnabled)
    notificationMessage := (notification.bind (·.notificationMessage)).getD ""
    notificationTargets := targets.map (·.familyId) }

def listActions : Session (List ActionRecord) := do
  let rows ← query fun tables => .ok tables.actionsById
  rows.mapM loadAction

def destinationRecord (row : DestinationRow) : NotificationDestinationRecord where
  id := some row.id
  familyId := row.familyId
  notificationType := row.notificationType
  destination := row.destination
  enabled := row.enabled

def listNotificationDestinations : Session (List NotificationDestinationRecord) :=
  query fun tables => .ok (tables.destinationsByFamily.map destinationRecord)

def eventRecord (row : EventRow) : EventRecord :=
  { receivedAt := row.receivedAt,deviceId := row.deviceId,eventId := row.eventId }

def listEvents : Session (List EventRecord) :=
  query fun tables => .ok (tables.latestEvents.map eventRecord)

/-! ### Opening -/

def userVersion : Session Nat := query fun tables => .ok tables.userVersion

/-- `opened` is what the file system makes of the path. -/
def openDatabase (display : SqliteError → String) (opened : Except String Connection) (env : Env) :
    Except String Connection :=
  match opened with
  | .error message => .error message
  | .ok connection =>
    match reporting (sqlError display) userVersion env connection with
    | (.error message,_) => .error message
    | (.ok version,connection) =>
      if version ≠ 1 then
        .error s!"この設定ファイルの形式（バージョン{version}）には対応していません。親機の設定ファイルを確認してください。"
      else .ok connection

end UchiPulse.Settings
