import UchiPulse.Control.Db
import UchiPulse.Settings.App

/-! The control app's editor of the notification destinations. Its records and lists are
those of the settings app, statement for statement. What is only shown is left out. -/
namespace UchiPulse.Control
open Common Db Sql
open Settings (DeviceRecord FamilyRecord NotificationDestinationRecord EventRecord DestinationField)

/-- The statements are the settings app's as well, but the identifier is not returned. -/
def saveNotificationDestination (display : SqliteError → String) (destination : NotificationDestinationRecord) :
    Program Env Connection String Unit :=
  let checked : Except String Unit := do
    failIf (destination.familyId = 0) "通知先の家族を選択してください"
    validateRequired "通知種別" destination.notificationType
    validateRequired "通知先" destination.destination
  match checked with
  | .error message => Program.fail message
  | .ok () => reporting (sqlError display) do
    let _ ← Settings.writeDestination destination
    return ()

def deleteNotificationDestination (display : SqliteError → String) (id : Nat) :
    Program Env Connection String Unit :=
  reporting (sqlError display) (execute (Tables.deleteDestination id))

section
variable (display : SqliteError → String)

/-- `now` is the database's clock. -/
def saveDevice (now : String) (device : DeviceRecord) : Program Env Connection String Unit :=
  let checked : Except String Unit := do
    validateRequired "子機ID" device.deviceId
    validateRequired "子機名" device.name
    validateRequired "子機種別" device.deviceType
  match checked with
  | .error message => Program.fail message
  | .ok () => reporting (sqlError display)
    (execute (Tables.upsertDevice device.deviceId device.name device.deviceType now device.enabled))

def saveFamily (family : FamilyRecord) : Program Env Connection String Unit :=
  let checked : Except String Unit := do
    failIf (family.familyId = 0) "家族IDは1以上で入力してください"
    validateRequired "家族表示名" family.displayName
  match checked with
  | .error message => Program.fail message
  | .ok () => reporting (sqlError display) (execute (Tables.upsertFamily {
      familyId := family.familyId,displayName := family.displayName,enabled := family.enabled }))

def deleteDevice (deviceId : String) : Program Env Connection String Unit :=
  reporting (sqlError display) (execute (Tables.deleteDevice deviceId))

def deleteFamily (familyId : UInt32) : Program Env Connection String Unit :=
  reporting (sqlError display) (execute (Tables.deleteFamily familyId))

def deleteAction (actionId : UInt32) : Program Env Connection String Unit :=
  reporting (sqlError display) (execute (Tables.deleteAction actionId))

end

/-- What befalls the statements, and the texts of the errors. -/
structure World where
  env : Env
  display : SqliteError → String

structure ControlApp where
  database : Option Connection
  devices : List DeviceRecord
  families : List FamilyRecord
  actions : List ActionRecord
  notificationDestinations : List NotificationDestinationRecord
  events : List EventRecord
  selectedNotificationDestination : Option Nat
  notificationDestinationForm : NotificationDestinationRecord
  status : String

namespace ControlApp

/-- A destination to be entered. -/
def newForm : NotificationDestinationRecord where
  id := none
  familyId := 0
  notificationType := "LINE"
  destination := ""
  enabled := true

/-- All lists are read, and kept unless one of them fails. -/
def refreshDatabaseData (world : World) (self : ControlApp) : ControlApp :=
  match self.database with
  | none => { self with status := "先にSQLiteを開いてください" }
  | some database =>
    let list {α : Type} (session : Session α) := reporting (sqlError world.display) session world.env
    let (devices,database) := list Settings.listDevices database
    let (families,database) := list Settings.listFamilies database
    let (actions,database) := list Settings.listActions database
    let (notificationDestinations,database) := list Settings.listNotificationDestinations database
    let (events,database) := list Settings.listEvents database
    let opened := { self with database := some database }
    let refreshed : Except String ControlApp := do
      return { opened with
        devices := ← devices,families := ← families,actions := ← actions
        notificationDestinations := ← notificationDestinations,events := ← events
        status := "SQLiteの設定を読み込みました" }
    match refreshed with
    | .ok refreshed => refreshed
    | .error error => { opened with status := error }

/-- The form keeps the identifier it had, and so does what is selected. -/
def saveNotificationDestination (world : World) (self : ControlApp) : ControlApp :=
  match self.database with
  | none => { self with status := "先にSQLiteを開いてください" }
  | some database =>
    match Control.saveNotificationDestination world.display self.notificationDestinationForm world.env database with
    | (.ok (),database) =>
      let saved := { self with database := some database,status := "通知先を保存しました" }
      { saved.refreshDatabaseData world with
        selectedNotificationDestination := self.notificationDestinationForm.id }
    | (.error error,database) => { self with database := some database,status := error }

def notificationTypes : List String := ["LINE","Slack","メール","その他"]

/-- One widget of the form is used. -/
def editNotificationDestination (self : ControlApp) (field : DestinationField) : ControlApp :=
  let form := self.notificationDestinationForm
  let edited : NotificationDestinationRecord :=
    match field with
    | .family familyId =>
      if ∃ family ∈ self.families, family.familyId = familyId then { form with familyId } else form
    | .notificationType name =>
      if name ∈ notificationTypes then { form with notificationType := name } else form
    | .destination text => { form with destination := text }
    | .enabled value => { form with enabled := value }
  { self with notificationDestinationForm := edited }

end ControlApp

end UchiPulse.Control
