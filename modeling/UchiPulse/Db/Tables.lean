import UchiPulse.Lib.Sql
import Mathlib.Data.List.Sort

/-! The tables of the hub's database file, which the settings and control apps open as
well, and the statements on them with the constraints of the schema. A statement that
fails changes nothing. Rows stand in the order of their rowids. -/
namespace UchiPulse.Db

inductive SqliteError where
  | code (code : Nat)
  | fromSqlConversionFailure (field value : String)
  | invalidParameterName (name : String)
deriving DecidableEq

/-- A statement within, or without, a transaction it does not expect. -/
def SqliteError.error : SqliteError := .code 1
def SqliteError.busy : SqliteError := .code 5
def SqliteError.full : SqliteError := .code 13
def SqliteError.constraint : SqliteError := .code 19

structure DeviceRow where
  deviceId : String
  name : String
  deviceType : String
  registeredAt : String
  updatedAt : String
  enabled : Bool
deriving DecidableEq

structure FamilyRow where
  familyId : UInt32
  displayName : String
  enabled : Bool
deriving DecidableEq

structure ActionRow where
  actionId : UInt32
  actionName : String
  targetType : String
  targetFamilyId : Option UInt32
  webMessage : Option String
  enabled : Bool
deriving DecidableEq

structure StateChangeRow where
  actionId : UInt32
  stateType : String
  stateValue : String
deriving DecidableEq

structure NotificationSettingRow where
  actionId : UInt32
  notificationEnabled : Bool
  notificationMessage : Option String
deriving DecidableEq

structure NotificationTargetRow where
  actionId : UInt32
  familyId : UInt32
deriving DecidableEq

structure DestinationRow where
  id : Nat
  familyId : UInt32
  notificationType : String
  destination : String
  enabled : Bool
deriving DecidableEq

/-- Without the rowid, in whose order the rows stand; the apps' lists carry it on to be shown. -/
structure EventRow where
  receivedAt : String
  deviceId : String
  eventId : String
  payload : String
deriving DecidableEq

/-- `destinationSeq` is the last rowid handed out by `AUTOINCREMENT`. -/
structure Tables where
  devices : List DeviceRow
  families : List FamilyRow
  actions : List ActionRow
  stateChanges : List StateChangeRow
  notificationSettings : List NotificationSettingRow
  notificationTargets : List NotificationTargetRow
  destinations : List DestinationRow
  destinationSeq : Nat
  events : List EventRow
  userVersion : Nat
deriving DecidableEq

namespace Tables

/-- What the migrations make of a new file. -/
def empty : Tables where
  devices := []
  families := []
  actions := []
  stateChanges := []
  notificationSettings := []
  notificationTargets := []
  destinations := []
  destinationSeq := 0
  events := []
  userVersion := 1

/-! ### Constraints -/

/-- `length()` counts the characters in front of the first NUL. -/
def textLength (text : String) : Nat := (text.toList.takeWhile (· ≠ '\x00')).length

def hasDevice (self : Tables) (deviceId : String) : Prop :=
  ∃ row ∈ self.devices, row.deviceId = deviceId

def hasFamily (self : Tables) (familyId : UInt32) : Prop :=
  ∃ row ∈ self.families, row.familyId = familyId

def hasAction (self : Tables) (actionId : UInt32) : Prop :=
  ∃ row ∈ self.actions, row.actionId = actionId

/-- The `CHECK` constraints on an action's target, and its foreign key. -/
def TargetOk (self : Tables) (row : ActionRow) : Prop :=
  (row.targetType = "FAMILY" ∧ ∃ familyId ∈ row.targetFamilyId, self.hasFamily familyId) ∨
    (row.targetType = "COMMON" ∧ row.targetFamilyId = none)

instance (self : Tables) (deviceId : String) : Decidable (self.hasDevice deviceId) := by
  unfold hasDevice; infer_instance
instance (self : Tables) (familyId : UInt32) : Decidable (self.hasFamily familyId) := by
  unfold hasFamily; infer_instance
instance (self : Tables) (actionId : UInt32) : Decidable (self.hasAction actionId) := by
  unfold hasAction; infer_instance
instance (self : Tables) (row : ActionRow) : Decidable (self.TargetOk row) := by
  unfold TargetOk; infer_instance

/-- A change of the tables under conditions the schema puts on it. -/
def constrained {α : Type} (condition : Prop) [Decidable condition] (result : α × Tables) :
    Except SqliteError (α × Tables) :=
  if condition then .ok result else .error .constraint

theorem constrained_ok {α : Type} {condition : Prop} [Decidable condition]
    {result found : α × Tables} :
    constrained condition result = .ok found ↔ condition ∧ found = result := by
  unfold constrained
  split <;> simp_all [eq_comm]

/-! ### Inserts -/

def insertFamily (row : FamilyRow) (self : Tables) : Except SqliteError (Unit × Tables) :=
  constrained (¬ self.hasFamily row.familyId) ((),{ self with families := self.families ++ [row] })

def insertAction (row : ActionRow) (self : Tables) : Except SqliteError (Unit × Tables) :=
  constrained (¬ self.hasAction row.actionId ∧ self.TargetOk row)
    ((),{ self with actions := self.actions ++ [row] })

/-- `INSERT … ON CONFLICT(action_id) DO UPDATE` -/
def upsertAction (row : ActionRow) (self : Tables) : Except SqliteError (Unit × Tables) :=
  constrained (self.TargetOk row) ((),{ self with
    actions := if self.hasAction row.actionId
      then self.actions.map fun old => if old.actionId = row.actionId then row else old
      else self.actions ++ [row] })

def insertStateChange (row : StateChangeRow) (self : Tables) : Except SqliteError (Unit × Tables) :=
  constrained (0 < textLength row.stateType ∧ 0 < textLength row.stateValue ∧
      self.hasAction row.actionId ∧
      ¬ ∃ old ∈ self.stateChanges, old.actionId = row.actionId ∧ old.stateType = row.stateType)
    ((),{ self with stateChanges := self.stateChanges ++ [row] })

def insertNotificationSetting (row : NotificationSettingRow) (self : Tables) :
    Except SqliteError (Unit × Tables) :=
  constrained (self.hasAction row.actionId ∧
      ¬ ∃ old ∈ self.notificationSettings, old.actionId = row.actionId)
    ((),{ self with notificationSettings := self.notificationSettings ++ [row] })

def insertNotificationTarget (row : NotificationTargetRow) (self : Tables) :
    Except SqliteError (Unit × Tables) :=
  constrained (self.hasAction row.actionId ∧ self.hasFamily row.familyId ∧
      row ∉ self.notificationTargets)
    ((),{ self with notificationTargets := self.notificationTargets ++ [row] })

/-- The largest rowid. -/
def maxRowid : Nat := 1 <<< 63 - 1

def insertDestination (familyId : UInt32) (notificationType destination : String) (enabled : Bool)
    (self : Tables) : Except SqliteError (Nat × Tables) :=
  if self.destinationSeq = maxRowid then .error .full
  else
    let id := self.destinationSeq + 1
    constrained (self.hasFamily familyId) (id,{ self with
      destinations := self.destinations ++ [{ id,familyId,notificationType,destination,enabled }]
      destinationSeq := id })

/-- `INSERT … ON CONFLICT(device_id) DO UPDATE`, which leaves `registered_at` -/
def upsertDevice (deviceId name deviceType now : String) (enabled : Bool) (self : Tables) :
    Except SqliteError (Unit × Tables) :=
  .ok ((),{ self with
    devices := if self.hasDevice deviceId
      then self.devices.map fun old =>
        if old.deviceId = deviceId then { old with name,deviceType,updatedAt := now,enabled } else old
      else self.devices ++ [{ deviceId,name,deviceType,registeredAt := now,updatedAt := now,enabled }] })

/-- `INSERT … ON CONFLICT(family_id) DO UPDATE` -/
def upsertFamily (row : FamilyRow) (self : Tables) : Except SqliteError (Unit × Tables) :=
  .ok ((),{ self with
    families := if self.hasFamily row.familyId
      then self.families.map fun old => if old.familyId = row.familyId then row else old
      else self.families ++ [row] })

/-- No row with this identifier is no error. -/
def updateDestination (row : DestinationRow) (self : Tables) : Except SqliteError (Unit × Tables) :=
  constrained (self.hasFamily row.familyId ∨ ¬ ∃ old ∈ self.destinations, old.id = row.id)
    ((),{ self with destinations := self.destinations.map fun old => if old.id = row.id then row else old })

def insertDevice (row : DeviceRow) (self : Tables) : Except SqliteError (Unit × Tables) :=
  constrained (¬ self.hasDevice row.deviceId) ((),{ self with devices := self.devices ++ [row] })

def updateDevice (row : DeviceRow) (self : Tables) : Except SqliteError (Unit × Tables) :=
  .ok ((),{ self with devices := self.devices.map fun old => if old.deviceId = row.deviceId then row else old })

def updateFamily (row : FamilyRow) (self : Tables) : Except SqliteError (Unit × Tables) :=
  .ok ((),{ self with families := self.families.map fun old => if old.familyId = row.familyId then row else old })

def updateAction (row : ActionRow) (self : Tables) : Except SqliteError (Unit × Tables) :=
  constrained (self.TargetOk row ∨ ¬ self.hasAction row.actionId)
    ((),{ self with actions := self.actions.map fun old => if old.actionId = row.actionId then row else old })

/-- `INSERT … ON CONFLICT(action_id) DO UPDATE` -/
def upsertNotificationSetting (row : NotificationSettingRow) (self : Tables) :
    Except SqliteError (Unit × Tables) :=
  constrained ((∃ old ∈ self.notificationSettings, old.actionId = row.actionId) ∨ self.hasAction row.actionId)
    ((),{ self with notificationSettings :=
      if ∃ old ∈ self.notificationSettings, old.actionId = row.actionId
      then self.notificationSettings.map fun old => if old.actionId = row.actionId then row else old
      else self.notificationSettings ++ [row] })

/-- `INSERT OR IGNORE`; tells whether a row was added. -/
def insertEvent (row : EventRow) (self : Tables) : Except SqliteError (Bool × Tables) :=
  if ∃ old ∈ self.events, old.deviceId = row.deviceId ∧ old.eventId = row.eventId then
    .ok (false,self)
  else constrained (self.hasDevice row.deviceId) (true,{ self with events := self.events ++ [row] })

/-! ### Deletes -/

def deleteNotificationTargets (self : Tables) : Except SqliteError (Unit × Tables) :=
  .ok ((),{ self with notificationTargets := [] })

def deleteNotificationSettings (self : Tables) : Except SqliteError (Unit × Tables) :=
  .ok ((),{ self with notificationSettings := [] })

def deleteStateChanges (self : Tables) : Except SqliteError (Unit × Tables) :=
  .ok ((),{ self with stateChanges := [] })

/-- Whatever hangs on an action is deleted with it. -/
def deleteActions (self : Tables) : Except SqliteError (Unit × Tables) :=
  let gone (actionId : UInt32) : Bool := self.hasAction actionId
  .ok ((),{ self with
    actions := []
    stateChanges := self.stateChanges.filter (!gone ·.actionId)
    notificationSettings := self.notificationSettings.filter (!gone ·.actionId)
    notificationTargets := self.notificationTargets.filter (!gone ·.actionId) })

def deleteDestinations (self : Tables) : Except SqliteError (Unit × Tables) :=
  .ok ((),{ self with destinations := [] })

/-- A family that an action targets cannot be deleted. -/
def deleteFamilies (self : Tables) : Except SqliteError (Unit × Tables) :=
  let gone (familyId : UInt32) : Bool := self.hasFamily familyId
  constrained (¬ ∃ row ∈ self.actions, ∃ familyId ∈ row.targetFamilyId, gone familyId)
    ((),{ self with
      families := []
      notificationTargets := self.notificationTargets.filter (!gone ·.familyId)
      destinations := self.destinations.filter (!gone ·.familyId) })

def deleteStateChangesOf (actionId : UInt32) (self : Tables) : Except SqliteError (Unit × Tables) :=
  .ok ((),{ self with stateChanges := self.stateChanges.filter (·.actionId ≠ actionId) })

def deleteNotificationSettingsOf (actionId : UInt32) (self : Tables) :
    Except SqliteError (Unit × Tables) :=
  .ok ((),{ self with notificationSettings := self.notificationSettings.filter (·.actionId ≠ actionId) })

def deleteNotificationTargetsOf (actionId : UInt32) (self : Tables) :
    Except SqliteError (Unit × Tables) :=
  .ok ((),{ self with notificationTargets := self.notificationTargets.filter (·.actionId ≠ actionId) })

/-- A device with a history cannot be deleted. -/
def deleteDevice (deviceId : String) (self : Tables) : Except SqliteError (Unit × Tables) :=
  constrained (¬ (self.hasDevice deviceId ∧ ∃ row ∈ self.events, row.deviceId = deviceId))
    ((),{ self with devices := self.devices.filter (·.deviceId ≠ deviceId) })

/-- Nor can a family that an action targets. -/
def deleteFamily (familyId : UInt32) (self : Tables) : Except SqliteError (Unit × Tables) :=
  let gone (other : UInt32) : Bool := other = familyId ∧ self.hasFamily familyId
  constrained (¬ ∃ row ∈ self.actions, ∃ target ∈ row.targetFamilyId, gone target)
    ((),{ self with
      families := self.families.filter (·.familyId ≠ familyId)
      notificationTargets := self.notificationTargets.filter (!gone ·.familyId)
      destinations := self.destinations.filter (!gone ·.familyId) })

def deleteAction (actionId : UInt32) (self : Tables) : Except SqliteError (Unit × Tables) :=
  let gone (other : UInt32) : Bool := other = actionId ∧ self.hasAction actionId
  .ok ((),{ self with
    actions := self.actions.filter (·.actionId ≠ actionId)
    stateChanges := self.stateChanges.filter (!gone ·.actionId)
    notificationSettings := self.notificationSettings.filter (!gone ·.actionId)
    notificationTargets := self.notificationTargets.filter (!gone ·.actionId) })

def deleteDestination (id : Nat) (self : Tables) : Except SqliteError (Unit × Tables) :=
  .ok ((),{ self with destinations := self.destinations.filter (·.id ≠ id) })

def deleteStateChange (actionId : UInt32) (stateType : String) (self : Tables) :
    Except SqliteError (Unit × Tables) :=
  .ok ((),{ self with
    stateChanges := self.stateChanges.filter fun row => ¬ (row.actionId = actionId ∧ row.stateType = stateType) })

def deleteNotificationTarget (target : NotificationTargetRow) (self : Tables) :
    Except SqliteError (Unit × Tables) :=
  .ok ((),{ self with notificationTargets := self.notificationTargets.filter (· ≠ target) })

/-- A statement that tells whether it changed one row. -/
def single (changed : Tables → Nat) (change : Tables → Except SqliteError (Unit × Tables)) (self : Tables) :
    Except SqliteError (Bool × Tables) :=
  (change self).map fun (_,next) => (changed self = 1,next)

/-! ### Selects -/

def devicesById (self : Tables) : List DeviceRow :=
  self.devices.insertionSort fun a b => a.deviceId ≤ b.deviceId

def enabledDevices (self : Tables) : List DeviceRow :=
  (self.devices.filter (·.enabled)).insertionSort fun a b => a.deviceId ≤ b.deviceId

def device (self : Tables) (deviceId : String) : Option DeviceRow :=
  self.devices.find? (·.deviceId = deviceId)

def familiesById (self : Tables) : List FamilyRow :=
  self.families.insertionSort fun a b => a.familyId ≤ b.familyId

def family (self : Tables) (familyId : UInt32) : Option FamilyRow :=
  self.families.find? (·.familyId = familyId)

def actionsById (self : Tables) : List ActionRow :=
  self.actions.insertionSort fun a b => a.actionId ≤ b.actionId

def action (self : Tables) (actionId : UInt32) : Option ActionRow :=
  self.actions.find? (·.actionId = actionId)

def stateChangesOf (self : Tables) (actionId : UInt32) : List StateChangeRow :=
  (self.stateChanges.filter (·.actionId = actionId)).insertionSort fun a b => a.stateType ≤ b.stateType

def notificationSetting (self : Tables) (actionId : UInt32) : Option NotificationSettingRow :=
  self.notificationSettings.find? (·.actionId = actionId)

def notificationTargetsOf (self : Tables) (actionId : UInt32) : List NotificationTargetRow :=
  (self.notificationTargets.filter (·.actionId = actionId)).insertionSort fun a b => a.familyId ≤ b.familyId

def destinationsOf (self : Tables) (familyId : UInt32) : List DestinationRow :=
  (self.destinations.filter (·.familyId = familyId)).insertionSort fun a b => a.id ≤ b.id

def destinationsByFamily (self : Tables) : List DestinationRow :=
  self.destinations.insertionSort fun a b => a.familyId < b.familyId ∨ a.familyId = b.familyId ∧ a.id ≤ b.id

/-- The latest 500. -/
def latestEvents (self : Tables) : List EventRow := self.events.reverse.take 500

def event (self : Tables) (deviceId eventId : String) : Option EventRow :=
  self.events.find? fun row => row.deviceId = deviceId ∧ row.eventId = eventId

end Tables

/-- What every database created by the migrations satisfies and later proofs use. -/
structure Schema (tables : Tables) : Prop where
  devices : (tables.devices.map (·.deviceId)).Nodup
  families : (tables.families.map (·.familyId)).Nodup
  actions : (tables.actions.map (·.actionId)).Nodup
  targets : ∀ row ∈ tables.actions, tables.TargetOk row
  stateChanges : (tables.stateChanges.map fun row => (row.actionId,row.stateType)).Nodup
  notificationSettings : (tables.notificationSettings.map (·.actionId)).Nodup
  notificationTargets : tables.notificationTargets.Nodup
  destinations : (tables.destinations.map (·.id)).Pairwise (· < ·)
  destinationSeq : ∀ row ∈ tables.destinations, row.id ≤ tables.destinationSeq
  events : (tables.events.map fun row => (row.deviceId,row.eventId)).Nodup

/-- A computation on one connection to the database. -/
abbrev Session := Sql.Session Tables SqliteError

abbrev Connection := Sql.Connection Tables

abbrev Env := Sql.Env Tables SqliteError

def Env.quiet : Env := Sql.Env.quiet .error .error

/-- A computation whose errors are told as texts. -/
def reporting {α : Type} (display : SqliteError → String) (session : Session α) :
    Program Env Connection String α :=
  Program.zoom id (fun connection _ => connection) display session

/-- What was found right is written in one transaction. -/
def saving (display : SqliteError → String) (checked : Except String Unit) (body : Session Unit) :
    Program Env Connection String Unit :=
  match checked with
  | .error message => Program.fail message
  | .ok () => reporting display (Sql.transactionally body)

end UchiPulse.Db
