import Mathlib.Algebra.Ring.Nat
import UchiPulse.Settings.Db

/-! The settings app: the record being edited, the dialogs, and what each widget does. What
is only shown, such as the search text and the path, is left out. -/
namespace UchiPulse.Settings
open Common Db Sql

inductive Section where
  | families | devices | actions | destinations | events
deriving DecidableEq

inductive Draft where
  | device (record : DeviceRecord)
  | family (record : FamilyRecord)
  | action (record : ActionRecord)
  | destination (record : NotificationDestinationRecord)
deriving DecidableEq

inductive Intent where
  | openPicker
  | openPath (path : String)
  | navigate (target : Section)
  | edit (draft : Draft)
  | new
  | reload
  | close
deriving DecidableEq

inductive Dialog where
  | discard (intent : Intent)
  | delete
deriving DecidableEq

structure Data where
  devices : List DeviceRecord := []
  families : List FamilyRecord := []
  actions : List ActionRecord := []
  destinations : List NotificationDestinationRecord := []
  events : List EventRecord := []
deriving DecidableEq

def Data.load (display : SqliteError → String) : Program Env Connection String Data := do
  let devices ← reporting (sqlError display) listDevices
  let families ← reporting (sqlError display) listFamilies
  let actions ← reporting (sqlError display) listActions
  let destinations ← reporting (sqlError display) listNotificationDestinations
  let events ← reporting (sqlError display) listEvents
  return { devices,families,actions,destinations,events }

structure SettingsApp where
  db : Option Connection
  data : Data
  openSection : Section
  draft : Option Draft
  original : Option Draft
  creating : Bool
  status : String
  error : Bool
  dialog : Option Dialog
  stateType : String
  allowClose : Bool

/-- What the app finds outside: the file system, the file the picker returns, the database's
clock, and what befalls its statements. -/
structure World where
  env : Env
  opened : String → Except String Connection
  picked : Option String
  now : String
  display : SqliteError → String

namespace SettingsApp

def new : SettingsApp where
  db := none
  data := {}
  openSection := .families
  draft := none
  original := none
  creating := false
  status := "設定ファイルを選んで始めましょう。"
  error := false
  dialog := none
  stateType := "MEAL_NOTICE"
  allowClose := false

def dirty (self : SettingsApp) : Bool := self.draft ≠ self.original

def message (self : SettingsApp) (message : String) (error : Bool) : SettingsApp :=
  { self with status := message,error }

def clearEditor (self : SettingsApp) : SettingsApp :=
  { self with draft := none,original := none,creating := false }

/-- A database that cannot be loaded is not opened. -/
def openFile (world : World) (path : String) (self : SettingsApp) : SettingsApp :=
  match openDatabase world.display (world.opened path) world.env with
  | .error message => self.message message true
  | .ok db =>
    match Data.load world.display world.env db with
    | (.error message,_) => self.message message true
    | (.ok data,db) =>
      ({ self with db := some db,data }.clearEditor).message
        "設定ファイルを開きました。左から設定項目を選んでください。" false

/-- The first number from 1 that is not used. One of the first `used.length + 1` is free. -/
def nextId (used : List UInt32) : UInt32 :=
  let numbers := (List.range' 1 (min (used.length + 1) (2 ^ 32 - 1))).map UInt32.ofNat
  (numbers.find? (· ∉ used)).getD 0

def emptyDraft (self : SettingsApp) : Option Draft :=
  match self.openSection with
  | .devices => some (.device { deviceId := "",name := "",deviceType := "pico-w",enabled := true })
  | .families => some (.family {
      familyId := nextId (self.data.families.map (·.familyId)),displayName := "",enabled := true })
  | .actions => some (.action {
      actionId := nextId (self.data.actions.map (·.actionId)),actionName := "",targetType := "FAMILY",
      targetFamilyId := none,webMessage := "",enabled := true,stateChanges := [],
      notificationEnabled := false,notificationMessage := "",notificationTargets := [] })
  | .destinations => some (.destination {
      id := none,familyId := 0,notificationType := "LINE",destination := "",enabled := true })
  | .events => none

def newRecord (self : SettingsApp) : SettingsApp :=
  match self.emptyDraft with
  | none => self
  | some draft => { self with original := some draft,draft := some draft,creating := true }

def reload (world : World) (self : SettingsApp) : SettingsApp :=
  match self.db with
  | none => self
  | some db =>
    match Data.load world.display world.env db with
    | (.ok data,db) =>
      ({ self with db := some db,data }.clearEditor).message "最新の設定を読み込みました。" false
    | (.error message,db) => { self with db := some db }.message message true

def perform (world : World) (self : SettingsApp) : Intent → SettingsApp
  | .openPicker =>
    match world.picked with
    | some path => self.openFile world path
    | none => self
  | .openPath path => self.openFile world path
  | .navigate target => { self with openSection := target }.clearEditor
  | .edit draft => { self with original := some draft,draft := some draft,creating := false }
  | .new => self.newRecord
  | .reload => self.reload world
  | .close => { self with allowClose := true }

/-- Unsaved changes are not lost without asking. -/
def request (world : World) (self : SettingsApp) (intent : Intent) : SettingsApp :=
  if self.dirty then { self with dialog := some (.discard intent) } else self.perform world intent

/-! ### Saving and deleting -/

/-- The first thing that is wrong with a draft. -/
def issue (self : SettingsApp) : Draft → Option String
  | .device v =>
    if isBlank v.name then some "子機の名前を入力してください。"
    else if isBlank v.deviceId then some "子機に設定した識別番号を入力してください。"
    else if isBlank v.deviceType then some "子機の種類を入力してください。"
    else if self.creating ∧ ∃ x ∈ self.data.devices, x.deviceId = v.deviceId then
      some "この識別番号は登録済みです。一覧から選んで編集してください。"
    else none
  | .family v =>
    if isBlank v.displayName then some "家族の名前を入力してください。"
    else if self.creating ∧ ∃ x ∈ self.data.families, x.familyId = v.familyId then
      some "この管理番号は登録済みです。別の番号を指定してください。"
    else none
  | .action v =>
    if isBlank v.actionName then some "動作の名前を入力してください。"
    else if self.creating ∧ ∃ x ∈ self.data.actions, x.actionId = v.actionId then
      some "この動作番号は登録済みです。一覧から選んで編集してください。"
    else if v.targetType = "FAMILY" ∧ ¬ ∃ x ∈ self.data.families, some x.familyId = v.targetFamilyId then
      some "対象の家族を選んでください。家族が未登録の場合は、先に登録してください。"
    else none
  | .destination v =>
    if ¬ ∃ x ∈ self.data.families, x.familyId = v.familyId then some "通知を受け取る家族を選んでください。"
    else if isBlank v.destination then some "送信先ID・アドレスを入力してください。"
    else none

def validation (self : SettingsApp) : Option String := self.draft.bind self.issue

/-- Returns the draft as it stands after the save. -/
def saveDraft (world : World) : Draft → Program Env Connection String Draft
  | .device v => do
    saveDevice world.display world.now v
    return .device v
  | .family v => do
    saveFamily world.display v
    return .family v
  | .action v => do
    saveAction world.display v
    return .action v
  | .destination v => do
    let id ← saveNotificationDestination world.display v
    return .destination { v with id := some id }

def save (world : World) (self : SettingsApp) : SettingsApp :=
  match self.db,self.draft with
  | some db,some draft =>
    match self.validation with
    | some message => self.message message true
    | none =>
      match saveDraft world draft world.env db with
      | (.error message,db) => { self with db := some db }.message message true
      | (.ok draft,db) =>
        let saved := { self with draft := some draft,original := some draft,creating := false }
        match Data.load world.display world.env db with
        | (.ok data,db) =>
          { saved with db := some db,data }.message
            "保存しました。変更を反映するには親機を再起動してください。" false
        | (.error message,db) =>
          { saved with db := some db }.message s!"保存は完了しました。再読込に失敗しました：{message}" true
  | _,_ => self

def deleteDraft (display : SqliteError → String) : Draft → Program Env Connection String Unit
  | .device v => deleteDevice display v.deviceId
  | .family v => deleteFamily display v.familyId
  | .action v => deleteAction display v.actionId
  | .destination v =>
    match v.id with
    | none => Program.fail "保存済みの届け先を選んでください。"
    | some id => deleteNotificationDestination display id

def delete (world : World) (self : SettingsApp) : SettingsApp :=
  match self.db,self.original with
  | some db,some original =>
    match deleteDraft world.display original world.env db with
    | (.error message,db) => { self with db := some db }.message message true
    | (.ok (),db) =>
      let reloaded := { self with db := some db }.reload world
      if reloaded.error then reloaded else reloaded.message "削除しました。" false
  | _,_ => self

end SettingsApp

/-! ### The form -/

inductive DeviceField where
  | name (text : String)
  | deviceId (text : String)
  | deviceType (text : String)
  | enabled (value : Bool)

inductive FamilyField where
  | displayName (text : String)
  | enabled (value : Bool)

inductive ActionField where
  | actionName (text : String)
  | actionId (number : UInt32)
  | enabled (value : Bool)
  | targetType (common : Bool)
  | targetFamily (familyId : UInt32)
  | changeValue (index : Nat) (value : String)
  | removeChange (index : Nat)
  | stateType (name : String)
  | addChange
  | notificationEnabled (value : Bool)
  | notificationMessage (text : String)
  | notificationTarget (familyId : UInt32)
  | webMessage (text : String)

inductive DestinationField where
  | family (familyId : UInt32)
  | notificationType (name : String)
  | destination (text : String)
  | enabled (value : Bool)

inductive Field where
  | device (field : DeviceField)
  | family (field : FamilyField)
  | action (field : ActionField)
  | destination (field : DestinationField)

/-- The identifier can only be entered for a new device. -/
def DeviceRecord.edit (creating : Bool) (self : DeviceRecord) : DeviceField → DeviceRecord
  | .name text => { self with name := text }
  | .deviceId text => if creating then { self with deviceId := text } else self
  | .deviceType text => { self with deviceType := text }
  | .enabled value => { self with enabled := value }

def FamilyRecord.edit (self : FamilyRecord) : FamilyField → FamilyRecord
  | .displayName text => { self with displayName := text }
  | .enabled value => { self with enabled := value }

/-- `stateType` is what the box next to the button shows. -/
def editAction (creating : Bool) (families : List FamilyRecord) (stateType : String) (self : ActionRecord) :
    ActionField → ActionRecord
  | .actionName text => { self with actionName := text }
  | .actionId number => if creating then { self with actionId := number } else self
  | .enabled value => { self with enabled := value }
  | .targetType common =>
    if common then { self with targetType := "COMMON",targetFamilyId := none }
    else { self with targetType := "FAMILY" }
  | .targetFamily familyId =>
    if self.targetType = "FAMILY" ∧ ∃ family ∈ families, family.familyId = familyId then
      { self with targetFamilyId := some familyId }
    else self
  | .changeValue index value =>
    { self with
      stateChanges := self.stateChanges.modify index fun change =>
        if value ∈ values change.stateType then { change with stateValue := value } else change }
  | .removeChange index => { self with stateChanges := self.stateChanges.eraseIdx index }
  | .stateType _ => self
  | .addChange =>
    if ∃ change ∈ self.stateChanges, change.stateType = stateType then self
    else { self with
      stateChanges := self.stateChanges ++ [{ stateType,stateValue := (values stateType).headD "" }] }
  | .notificationEnabled value => { self with notificationEnabled := value }
  | .notificationMessage text => { self with notificationMessage := text }
  | .notificationTarget familyId =>
    if ¬ ∃ family ∈ families, family.familyId = familyId then self
    else if familyId ∈ self.notificationTargets then
      { self with notificationTargets := self.notificationTargets.filter (· ≠ familyId) }
    else { self with notificationTargets := self.notificationTargets ++ [familyId] }
  | .webMessage text => { self with webMessage := text }

def NotificationDestinationRecord.edit (families : List FamilyRecord) (self : NotificationDestinationRecord) :
    DestinationField → NotificationDestinationRecord
  | .family familyId =>
    if ∃ family ∈ families, family.familyId = familyId then { self with familyId } else self
  | .notificationType name =>
    if name ∈ ["LINE","Slack"] then { self with notificationType := name } else self
  | .destination text => { self with destination := text }
  | .enabled value => { self with enabled := value }

/-- One widget of the form is used. The form has the widgets of the draft's kind. -/
def Draft.edit (creating : Bool) (families : List FamilyRecord) (stateType : String) : Draft → Field → Draft
  | .device v, .device field => .device (v.edit creating field)
  | .family v, .family field => .family (v.edit field)
  | .action v, .action field => .action (editAction creating families stateType v field)
  | .destination v, .destination field => .destination (v.edit families field)
  | draft, _ => draft

/-! ### What the user does -/

inductive Click where
  | openPicker
  | openPath (path : String)
  | reload
  | navigate (target : Section)
  | new
  /-- A row of the list. -/
  | row (index : Nat)
  | field (field : Field)
  | save
  | cancelChanges
  | askDelete

inductive Operation where
  | click (click : Click)
  /-- The dialog's two buttons. -/
  | accept
  | cancel
  /-- The window is asked to close. -/
  | closeRequested

namespace SettingsApp

def rows (self : SettingsApp) : List Draft :=
  match self.openSection with
  | .families => self.data.families.map .family
  | .devices => self.data.devices.map .device
  | .actions => self.data.actions.map .action
  | .destinations => self.data.destinations.map .destination
  | .events => []

def editField (self : SettingsApp) (field : Field) : SettingsApp :=
  let draft := self.draft.map fun draft => draft.edit self.creating self.data.families self.stateType field
  match field with
  | .action (.stateType name) => if name ∈ states then { self with draft,stateType := name } else self
  | _ => { self with draft }

/-- What the widgets do, if they are shown and enabled. -/
def click (world : World) (self : SettingsApp) : Click → SettingsApp
  | .openPicker => self.request world .openPicker
  | .openPath path => if self.db.isNone then self.request world (.openPath path) else self
  | .reload => if self.db.isSome then self.request world .reload else self
  | .navigate target => if self.db.isSome then self.request world (.navigate target) else self
  | .new => if self.db.isSome ∧ self.openSection ≠ .events then self.request world .new else self
  | .row index =>
    if self.db.isSome then
      match self.rows[index]? with
      | some draft => self.request world (.edit draft)
      | none => self
    else self
  | .field field => if self.db.isSome then self.editField field else self
  | .save =>
    if self.db.isSome ∧ self.validation = none ∧ (self.dirty ∨ self.creating) then self.save world else self
  | .cancelChanges =>
    if self.db.isSome ∧ self.draft.isSome ∧ self.dirty then
      match self.original with
      | some original => self.request world (.edit original)
      | none => self
    else self
  | .askDelete =>
    if self.db.isSome ∧ self.draft.isSome ∧ self.creating = false then { self with dialog := some .delete } else self

/-- An open dialog takes all input. -/
def step (world : World) (self : SettingsApp) : Operation → SettingsApp
  | .click click => if self.dialog.isSome then self else self.click world click
  | .cancel => { self with dialog := none }
  | .accept =>
    match self.dialog with
    | none => self
    | some .delete => { self with dialog := none }.delete world
    | some (.discard intent) => { self with dialog := none,draft := self.original }.perform world intent
  | .closeRequested =>
    if self.dirty ∧ self.allowClose = false ∧ self.dialog = none then
      { self with dialog := some (.discard .close) }
    else self

end SettingsApp

end UchiPulse.Settings
