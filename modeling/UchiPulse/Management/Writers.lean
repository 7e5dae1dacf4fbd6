import UchiPulse.Control.App
import UchiPulse.Db.Integrity
import UchiPulse.Hub.Domains

/-! Everything that writes to the hub's database file: the hub's two connections, its
repository, and the settings and the control app. Each of them issues statements of one list,
and checks what it writes before. -/
namespace UchiPulse.Management
open Common Db Sql Json Hub
open Settings (DeviceRecord FamilyRecord NotificationDestinationRecord)

/-! ### Statements -/

/-- The hub can read the row. -/
def Named (row : StateChangeRow) : Prop := ∃ change, rowToStateChange row = .ok change

/-- The hub would accept these texts. -/
def Addressed (notificationType destination : String) : Prop :=
  ¬ (isBlank notificationType || isBlank destination) = true

/-- What is asked of the texts that are written. -/
structure Checks where
  known : StateChangeRow → Prop
  addressed : String → String → Prop

def Checks.none : Checks where
  known _ := True
  addressed _ _ := True

def Checks.hub : Checks where
  known := Named
  addressed := Addressed

/-- What the hub accepts is right. -/
structure Checks.Allows (checks : Checks) : Prop where
  named : ∀ row, Named row → checks.known row
  addressed : ∀ notificationType destination,
    Addressed notificationType destination → checks.addressed notificationType destination

theorem Checks.none_allows : Checks.none.Allows := ⟨fun _ _ => trivial,fun _ _ _ => trivial⟩

theorem Checks.hub_allows : Checks.hub.Allows := ⟨fun _ => id,fun _ _ => id⟩

/-- The statements, with what is checked of the rows they write. -/
inductive Issued (checks : Checks) :
    (α : Type) → (Tables → Except SqliteError (α × Tables)) → Prop where
  | insertDevice (row : DeviceRow) : Issued checks Unit (Tables.insertDevice row)
  | updateDevice (row : DeviceRow) : Issued checks Unit (Tables.updateDevice row)
  | upsertDevice (deviceId name deviceType now : String) (enabled : Bool) :
    Issued checks Unit (Tables.upsertDevice deviceId name deviceType now enabled)
  | deleteDevice (deviceId : String) : Issued checks Unit (Tables.deleteDevice deviceId)
  | insertFamily (row : FamilyRow) : Issued checks Unit (Tables.insertFamily row)
  | updateFamily (row : FamilyRow) : Issued checks Unit (Tables.updateFamily row)
  | upsertFamily (row : FamilyRow) : Issued checks Unit (Tables.upsertFamily row)
  | deleteFamily (familyId : UInt32) : Issued checks Unit (Tables.deleteFamily familyId)
  | deleteFamilies : Issued checks Unit Tables.deleteFamilies
  | insertAction (row : ActionRow) : Issued checks Unit (Tables.insertAction row)
  | updateAction (row : ActionRow) : Issued checks Unit (Tables.updateAction row)
  | upsertAction (row : ActionRow) : Issued checks Unit (Tables.upsertAction row)
  | deleteAction (actionId : UInt32) : Issued checks Unit (Tables.deleteAction actionId)
  | deleteActions : Issued checks Unit Tables.deleteActions
  | insertStateChange (row : StateChangeRow) (named : checks.known row) : Issued checks Unit (Tables.insertStateChange row)
  | deleteStateChange (actionId : UInt32) (stateType : String) :
    Issued checks Unit (Tables.deleteStateChange actionId stateType)
  | deleteStateChangesOf (actionId : UInt32) : Issued checks Unit (Tables.deleteStateChangesOf actionId)
  | deleteStateChanges : Issued checks Unit Tables.deleteStateChanges
  | insertNotificationSetting (row : NotificationSettingRow) :
    Issued checks Unit (Tables.insertNotificationSetting row)
  | upsertNotificationSetting (row : NotificationSettingRow) :
    Issued checks Unit (Tables.upsertNotificationSetting row)
  | deleteNotificationSettingsOf (actionId : UInt32) :
    Issued checks Unit (Tables.deleteNotificationSettingsOf actionId)
  | deleteNotificationSettings : Issued checks Unit Tables.deleteNotificationSettings
  | insertNotificationTarget (row : NotificationTargetRow) :
    Issued checks Unit (Tables.insertNotificationTarget row)
  | deleteNotificationTarget (row : NotificationTargetRow) :
    Issued checks Unit (Tables.deleteNotificationTarget row)
  | deleteNotificationTargetsOf (actionId : UInt32) :
    Issued checks Unit (Tables.deleteNotificationTargetsOf actionId)
  | deleteNotificationTargets : Issued checks Unit Tables.deleteNotificationTargets
  | insertDestination (familyId : UInt32) (notificationType destination : String) (enabled : Bool)
    (addressed : checks.addressed notificationType destination) :
    Issued checks Nat (Tables.insertDestination familyId notificationType destination enabled)
  | updateDestination (row : DestinationRow) (addressed : checks.addressed row.notificationType row.destination) :
    Issued checks Unit (Tables.updateDestination row)
  | deleteDestination (id : Nat) : Issued checks Unit (Tables.deleteDestination id)
  | deleteDestinations : Issued checks Unit Tables.deleteDestinations
  | insertEvent (row : EventRow) : Issued checks Bool (Tables.insertEvent row)
  | single (changed : Tables → Nat) (change : Tables → Except SqliteError (Unit × Tables))
    (issued : Issued checks Unit change) : Issued checks Bool (Tables.single changed change)

theorem Issued.keeps {checks : Checks} {α : Type} {change : Tables → Except SqliteError (α × Tables)}
    (issued : Issued checks α change) : Keeps Integrity change := by
  induction issued with
  | insertDevice row => exact keeps_insertDevice row
  | updateDevice row => exact keeps_updateDevice row
  | upsertDevice deviceId name deviceType now enabled => exact keeps_upsertDevice deviceId name deviceType now enabled
  | deleteDevice deviceId => exact keeps_deleteDevice deviceId
  | insertFamily row => exact keeps_insertFamily row
  | updateFamily row => exact keeps_updateFamily row
  | upsertFamily row => exact keeps_upsertFamily row
  | deleteFamily familyId => exact keeps_deleteFamily familyId
  | deleteFamilies => exact keeps_deleteFamilies
  | insertAction row => exact keeps_insertAction row
  | updateAction row => exact keeps_updateAction row
  | upsertAction row => exact keeps_upsertAction row
  | deleteAction actionId => exact keeps_deleteAction actionId
  | deleteActions => exact keeps_deleteActions
  | insertStateChange row named => exact keeps_insertStateChange row
  | deleteStateChange actionId stateType => exact keeps_deleteStateChange actionId stateType
  | deleteStateChangesOf actionId => exact keeps_deleteStateChangesOf actionId
  | deleteStateChanges => exact keeps_deleteStateChanges
  | insertNotificationSetting row => exact keeps_insertNotificationSetting row
  | upsertNotificationSetting row => exact keeps_upsertNotificationSetting row
  | deleteNotificationSettingsOf actionId => exact keeps_deleteNotificationSettingsOf actionId
  | deleteNotificationSettings => exact keeps_deleteNotificationSettings
  | insertNotificationTarget row => exact keeps_insertNotificationTarget row
  | deleteNotificationTarget row => exact keeps_deleteNotificationTarget row
  | deleteNotificationTargetsOf actionId => exact keeps_deleteNotificationTargetsOf actionId
  | deleteNotificationTargets => exact keeps_deleteNotificationTargets
  | insertDestination familyId notificationType destination enabled addressed =>
    exact keeps_insertDestination familyId notificationType destination enabled
  | updateDestination row addressed => exact keeps_updateDestination row
  | deleteDestination id => exact keeps_deleteDestination id
  | deleteDestinations => exact keeps_deleteDestinations
  | insertEvent row => exact keeps_insertEvent row
  | single changed change issued ih => exact keeps_single changed ih

/-! ### Programs along a relation -/

/-- Of what the programs are made. -/
structure Writes (env : Env) (checks : Checks) (R : Connection → Connection → Prop) : Prop where
  refl : ∀ self, R self self
  trans : ∀ a b c, R a b → R b c → R a c
  queries : ∀ {α : Type} (read : Tables → Except SqliteError α), Program.Moves env R (query read)
  issues : ∀ {α : Type} {change : Tables → Except SqliteError (α × Tables)}, Issued checks α change →
    Program.Moves env R (execute change)
  begins : Program.Moves env R begin
  commits : Program.Moves env R commit
  rolls : Program.Moves env R rollback
  closes : ∀ connection, R connection { connection with working := none }

theorem named_changeRow (actionId : ActionId) (change : StateChangeConfig) : Named (changeRow actionId change) :=
  ⟨_,rowToStateChange_changeRow actionId change⟩

section
variable {env : Env} {checks : Checks} {R : Connection → Connection → Prop}

theorem moves_reporting {α : Type} {display : SqliteError → String} {session : Session α}
    (moves : Program.Moves env R session) : Program.Moves env R (reporting display session) :=
  Program.moves_zoom moves fun _ _ => id

variable (writes : Writes env checks R)
include writes

theorem moves_saving {display : SqliteError → String} {checked : Except String Unit} {body : Session Unit}
    (moves : checked = .ok () → Program.Moves env R body) : Program.Moves env R (saving display checked body) := by
  unfold saving
  cases checked with
  | error message => exact writes.refl
  | ok passed => exact moves_reporting (moves_transactionally_of writes.refl writes.trans writes.begins
      writes.commits writes.rolls (moves rfl))

/-! The hub -/

theorem moves_writeConfig (allows : checks.Allows) {config : ParentConfig}
    (passed : validateConfig config = .ok ()) : Program.Moves env R (writeConfig config) := by
  have addressed : ∀ destination ∈ config.familyNotificationDestinations,
      Addressed destination.notificationType destination.destination := by
    obtain ⟨familyIds,-,passed⟩ := bind_ok.mp passed
    obtain ⟨-,-,passed⟩ := bind_ok.mp passed
    obtain ⟨-,-,passed⟩ := bind_ok.mp passed
    intro destination among
    exact failIf_ok.mp (then_ok.mp (forM_ok.mp passed destination among)).2
  have all {β : Type} {items : List β} {each : β → Session Unit} :
      (∀ item ∈ items, Program.Moves env R (each item)) → Program.Moves env R (items.forM each) :=
    Program.moves_forM_mem writes.refl writes.trans
  have deletes : Program.Moves env R deleteConfig :=
    Program.moves_bind writes.trans (writes.issues .deleteNotificationTargets) fun _ =>
    Program.moves_bind writes.trans (writes.issues .deleteNotificationSettings) fun _ =>
    Program.moves_bind writes.trans (writes.issues .deleteStateChanges) fun _ =>
    Program.moves_bind writes.trans (writes.issues .deleteActions) fun _ =>
    Program.moves_bind writes.trans (writes.issues .deleteDestinations) fun _ => writes.issues .deleteFamilies
  have action (action : ActionConfig) : Program.Moves env R (Hub.writeAction action) := by
    refine Program.moves_bind writes.trans (writes.issues (.insertAction _)) fun _ => ?_
    refine Program.moves_bind writes.trans (all fun change _ =>
      writes.issues (.insertStateChange _ (allows.named _ (named_changeRow action.actionId change)))) fun _ => ?_
    refine Program.moves_bind writes.trans
      (Program.moves_onlyIf writes.refl _ (writes.issues (.insertNotificationSetting _))) fun _ => ?_
    exact all fun familyId _ => writes.issues (.insertNotificationTarget _)
  refine Program.moves_bind writes.trans deletes fun _ => ?_
  refine Program.moves_bind writes.trans (all fun family _ => writes.issues (.insertFamily _)) fun _ => ?_
  refine Program.moves_bind writes.trans (all fun item _ => action item) fun _ => all fun destination among => ?_
  exact Program.moves_bind writes.trans (writes.issues (.insertDestination _ _ _ _
    (allows.addressed _ _ (addressed destination among))))
    fun _ => writes.refl

theorem moves_saveConfig (allows : checks.Allows) (display : SqliteError → String)
    (config : ParentConfig) : Program.Moves env R (saveConfig display config) :=
  moves_saving writes (moves_writeConfig writes allows)

theorem moves_handleLine {V : Type} (allows : checks.Allows) (decoding : Decoding V) (line : String) :
    Program.Moves env R (handleLine decoding line) := by
  intro self
  have effect := handleLine_effect decoding line env self
  generalize (handleLine decoding line env self).2 = after at effect ⊢
  cases effect with
  | nothing => exact writes.refl self
  | loads => exact moves_reporting (along_readConfig writes.refl writes.trans writes.queries) self
  | looks => exact moves_reporting (writes.queries _) self
  | resets => exact moves_saveConfig writes allows _ _ self
  | sets config accepted => exact moves_saveConfig writes allows _ _ self

theorem moves_processDatagram (skip : Reader Unit) (payload : List UInt8) (now : Nat) (receivedAt : String) :
    Program.Moves env (fun before after : HubUdpProcessor ActionEngine => R before.database after.database)
      (HubUdpProcessor.processDatagram skip ActionEngine.handler payload now receivedAt) := by
  have along : Along env ActionEngine.handler (fun _ => True) now
      fun before after => R before.database after.database :=
    { refl := fun _ => writes.refl _
      trans := fun _ _ _ => writes.trans _ _ _
      reads := fun read self => writes.queries read self.database
      inserts := fun event self => writes.issues (.insertEvent event) self.database
      validates := fun engine actionId self =>
        along_validates writes.refl writes.trans writes.queries engine actionId self.database
      handles := fun event self =>
        along_handles writes.refl writes.trans writes.queries event (self.database,self.actionHandler)
      observes := fun _ _ _ => writes.refl _ }
  exact HubUdpProcessor.along_processDatagram along (fun _ _ => trivial) receivedAt

/-! The apps -/

theorem moves_writeStateChange (actionId : UInt32) {change : StateChangeRecord}
    (fits : checks.known { actionId,stateType := change.stateType,stateValue := change.stateValue }) :
    Program.Moves env R (writeStateChange actionId change) :=
  Program.moves_bind writes.trans (Program.moves_failIf writes.refl _ _) fun _ =>
    writes.issues (.insertStateChange _ fits)

/-- The state changes of an action as the apps hold them. -/
def Fitting (checks : Checks) (action : Db.ActionRecord) : Prop :=
  ∀ change ∈ action.stateChanges,
    checks.known { actionId := action.actionId,stateType := change.stateType,stateValue := change.stateValue }

theorem moves_writeAction {action : Db.ActionRecord} (fits : Fitting checks action) :
    Program.Moves env R (Db.writeAction action) := by
  refine Program.moves_bind writes.trans (writes.issues (.upsertAction _)) fun _ => ?_
  refine Program.moves_bind writes.trans (writes.issues (.deleteStateChangesOf _)) fun _ => ?_
  refine Program.moves_bind writes.trans (Program.moves_forM_mem writes.refl writes.trans fun change among =>
    moves_writeStateChange writes action.actionId (fits change among)) fun _ => ?_
  refine Program.moves_bind writes.trans (writes.issues (.deleteNotificationSettingsOf _)) fun _ => ?_
  refine Program.moves_bind writes.trans
    (Program.moves_onlyIf writes.refl _ (writes.issues (.insertNotificationSetting _))) fun _ => ?_
  refine Program.moves_bind writes.trans (writes.issues (.deleteNotificationTargetsOf _)) fun _ => ?_
  exact Program.moves_forM writes.refl writes.trans fun familyId => writes.issues (.insertNotificationTarget _)

theorem moves_writeDestination {destination : NotificationDestinationRecord}
    (addressed : checks.addressed destination.notificationType destination.destination) :
    Program.Moves env R (Settings.writeDestination destination) := by
  unfold Settings.writeDestination
  cases destination.id with
  | none => exact writes.issues (.insertDestination _ _ _ _ addressed)
  | some id => exact Program.moves_bind writes.trans (writes.issues (.updateDestination _ addressed)) fun _ => writes.refl

end

theorem mem_states {name : String} (listed : name ∈ Settings.states) : ∃ stateType, stateTypeToStr stateType = name := by
  simp only [Settings.states,List.mem_cons,List.not_mem_nil,or_false] at listed
  rcases listed with rfl | rfl | rfl | rfl | rfl
  · exact ⟨.mealNotice,rfl⟩
  · exact ⟨.snackNotice,rfl⟩
  · exact ⟨.helpNotice,rfl⟩
  · exact ⟨.entryPermission,rfl⟩
  · exact ⟨.mailbox,rfl⟩

/-- What the settings app offers the hub can read. -/
theorem fitting_validateAction {action : Db.ActionRecord} (passed : Settings.validateAction action = .ok ()) :
    Fitting Checks.hub action := by
  intro change among
  obtain ⟨-,passed⟩ := then_ok.mp passed
  obtain ⟨-,passed⟩ := then_ok.mp passed
  have offered := failIf_ok.mp (forM_ok.mp passed change among)
  rw [not_or,not_not,not_not] at offered
  obtain ⟨typed,valued⟩ := offered
  obtain ⟨stateType,known⟩ := mem_states typed
  rw [← known,← domain_values] at valued
  obtain ⟨stateValue,-,same⟩ := List.mem_map.mp valued
  rw [← known,← same]
  exact named_changeRow action.actionId { stateType,stateValue }

theorem addressed_of_required {notificationType destination : String}
    (typed : validateRequired "通知種別" notificationType = .ok ())
    (filled : validateRequired "通知先" destination = .ok ()) : Addressed notificationType destination := by
  have typed := failIf_ok.mp typed
  have filled := failIf_ok.mp filled
  simp [Addressed,typed,filled]

/-! ### Operations -/

/-- The functions the two apps have in common. -/
inductive AppOperation where
  | saveDevice (now : String) (device : DeviceRecord)
  | deleteDevice (deviceId : String)
  | saveFamily (family : FamilyRecord)
  | deleteFamily (familyId : UInt32)
  | saveAction (action : Db.ActionRecord)
  | deleteAction (actionId : UInt32)
  | saveNotificationDestination (destination : NotificationDestinationRecord)
  | deleteNotificationDestination (id : Nat)

def AppOperation.settings (display : SqliteError → String) (env : Env) (connection : Connection) :
    AppOperation → Connection
  | saveDevice now device => (Settings.saveDevice display now device env connection).2
  | deleteDevice deviceId => (Settings.deleteDevice display deviceId env connection).2
  | saveFamily family => (Settings.saveFamily display family env connection).2
  | deleteFamily familyId => (Settings.deleteFamily display familyId env connection).2
  | saveAction action => (Settings.saveAction display action env connection).2
  | deleteAction actionId => (Settings.deleteAction display actionId env connection).2
  | saveNotificationDestination destination =>
    (Settings.saveNotificationDestination display destination env connection).2
  | deleteNotificationDestination id => (Settings.deleteNotificationDestination display id env connection).2

def AppOperation.control (display : SqliteError → String) (env : Env) (connection : Connection) :
    AppOperation → Connection
  | saveDevice now device => (Control.saveDevice display now device env connection).2
  | deleteDevice deviceId => (Control.deleteDevice display deviceId env connection).2
  | saveFamily family => (Control.saveFamily display family env connection).2
  | deleteFamily familyId => (Control.deleteFamily display familyId env connection).2
  | saveAction action => (Control.saveAction display action env connection).2
  | deleteAction actionId => (Control.deleteAction display actionId env connection).2
  | saveNotificationDestination destination =>
    (Control.saveNotificationDestination display destination env connection).2
  | deleteNotificationDestination id => (Control.deleteNotificationDestination display id env connection).2

/-- The functions of the hub's repository. -/
inductive RepositoryOperation where
  | insertDevice (device : DeviceRow)
  | updateDevice (device : DeviceRow)
  | deleteDevice (deviceId : String)
  | insertFamily (family : FamilyRow)
  | updateFamily (family : FamilyRow)
  | insertAction (action : Hub.ActionRecord)
  | updateAction (action : Hub.ActionRecord)
  | insertActionStateChange (change : ActionStateChangeRecord)
  | deleteActionStateChange (actionId : ActionId) (stateType : StateType)
  | upsertNotificationSetting (setting : NotificationSettingRow)
  | insertNotificationTarget (target : NotificationTargetRow)
  | deleteNotificationTarget (target : NotificationTargetRow)
  | insertFamilyNotificationDestination (familyId : FamilyId) (notificationType destination : String) (enabled : Bool)
  | deleteFamilyNotificationDestination (id : Nat)
  | insertEvent (event : EventRow)

def RepositoryOperation.run (env : Env) (connection : Connection) : RepositoryOperation → Connection
  | insertDevice device => (Hub.insertDevice device env connection).2
  | updateDevice device => (Hub.updateDevice device env connection).2
  | deleteDevice deviceId => (Hub.deleteDevice deviceId env connection).2
  | insertFamily family => (Hub.insertFamily family env connection).2
  | updateFamily family => (Hub.updateFamily family env connection).2
  | insertAction action => (Hub.insertAction action env connection).2
  | updateAction action => (Hub.updateAction action env connection).2
  | insertActionStateChange change => (Hub.insertActionStateChange change env connection).2
  | deleteActionStateChange actionId stateType => (Hub.deleteActionStateChange actionId stateType env connection).2
  | upsertNotificationSetting setting => (Hub.upsertNotificationSetting setting env connection).2
  | insertNotificationTarget target => (Hub.insertNotificationTarget target env connection).2
  | deleteNotificationTarget target => (Hub.deleteNotificationTarget target env connection).2
  | insertFamilyNotificationDestination familyId notificationType destination enabled =>
    (Hub.insertFamilyNotificationDestination familyId notificationType destination enabled env connection).2
  | deleteFamilyNotificationDestination id => (Hub.deleteFamilyNotificationDestination id env connection).2
  | insertEvent event => (Hub.insertEvent event env connection).2

/-- What is done on one connection. A closed connection loses its transaction. -/
inductive Operation where
  | handleLine (line : String)
  | processDatagram (state : CommunicationStateManager) (engine : ActionEngine) (payload : List UInt8) (now : Nat)
    (receivedAt : String)
  | repository (operation : RepositoryOperation)
  | settings (operation : AppOperation)
  | control (operation : AppOperation)
  | close

section
variable {V : Type} (decoding : Decoding V) (skip : Reader Unit)

def Operation.run (env : Env) (connection : Connection) : Operation → Connection
  | handleLine line => (Hub.handleLine decoding line env connection).2
  | processDatagram state actionHandler payload now receivedAt =>
    (HubUdpProcessor.processDatagram skip ActionEngine.handler payload now receivedAt env
      { database := connection,state,actionHandler }).2.database
  | repository operation => operation.run env connection
  | settings operation => operation.settings decoding.display env connection
  | control operation => operation.control decoding.display env connection
  | close => { connection with working := none }

def Operation.runAll (env : Env) (connection : Connection) (operations : List Operation) : Connection :=
  operations.foldl (Operation.run decoding skip env) connection

end

/-- What the program does not check itself. -/
def Operation.Checked (checks : Checks) : Operation → Prop
  | control (.saveAction action) => Fitting checks action
  | repository (.insertFamilyNotificationDestination _ notificationType destination _) =>
    checks.addressed notificationType destination
  | _ => True

section
variable {env : Env} {checks : Checks} {R : Connection → Connection → Prop}
  (writes : Writes env checks R) (allows : checks.Allows)
include writes allows

theorem moves_settings (display : SqliteError → String) (operation : AppOperation) (connection : Connection) :
    R connection (operation.settings display env connection) := by
  have statement {checked : Except String Unit} {α : Type} {body : Session α}
      (moves : checked = .ok () → Program.Moves env R body) :
      Program.Moves env R (Settings.statement display checked body) := by
    unfold Settings.statement
    cases checked with
    | error message => exact writes.refl
    | ok passed => exact moves_reporting (moves rfl)
  cases operation with
  | saveDevice now device => exact statement (fun _ => writes.issues (.upsertDevice ..)) connection
  | deleteDevice deviceId => exact statement (fun _ => writes.issues (.deleteDevice _)) connection
  | saveFamily family => exact statement (fun _ => writes.issues (.upsertFamily _)) connection
  | deleteFamily familyId => exact statement (fun _ => writes.issues (.deleteFamily _)) connection
  | saveAction action =>
    exact moves_saving writes (fun passed => moves_writeAction writes
      fun change among => allows.named _ (fitting_validateAction passed change among)) connection
  | deleteAction actionId => exact statement (fun _ => writes.issues (.deleteAction _)) connection
  | saveNotificationDestination destination =>
    refine statement (fun passed => moves_writeDestination writes ?_) connection
    obtain ⟨-,passed⟩ := then_ok.mp passed
    obtain ⟨typed,filled⟩ := then_ok.mp passed
    exact allows.addressed _ _ (addressed_of_required typed filled)
  | deleteNotificationDestination id => exact statement (fun _ => writes.issues (.deleteDestination _)) connection

theorem moves_control (display : SqliteError → String) {operation : AppOperation}
    (checked : (Operation.control operation).Checked checks) (connection : Connection) :
    R connection (operation.control display env connection) := by
  cases operation with
  | saveDevice now device =>
    have moves : Program.Moves env R (Control.saveDevice display now device) := by
      simp only [Control.saveDevice]
      split
      · exact writes.refl
      · exact moves_reporting (writes.issues (.upsertDevice ..))
    exact moves connection
  | deleteDevice deviceId => exact moves_reporting (writes.issues (.deleteDevice _)) connection
  | saveFamily family =>
    have moves : Program.Moves env R (Control.saveFamily display family) := by
      simp only [Control.saveFamily]
      split
      · exact writes.refl
      · exact moves_reporting (writes.issues (.upsertFamily _))
    exact moves connection
  | deleteFamily familyId => exact moves_reporting (writes.issues (.deleteFamily _)) connection
  | saveAction action => exact moves_saving writes (fun _ => moves_writeAction writes checked) connection
  | deleteAction actionId => exact moves_reporting (writes.issues (.deleteAction _)) connection
  | saveNotificationDestination destination =>
    have written (addressed : checks.addressed destination.notificationType destination.destination) :
        Program.Moves env R (do let _ ← Settings.writeDestination destination) :=
      Program.moves_bind writes.trans (moves_writeDestination writes addressed) fun _ => writes.refl
    have moves : Program.Moves env R (Control.saveNotificationDestination display destination) := by
      simp only [Control.saveNotificationDestination]
      split
      · exact writes.refl
      next passed =>
        obtain ⟨-,passed⟩ := then_ok.mp passed
        obtain ⟨typed,filled⟩ := then_ok.mp passed
        exact moves_reporting (written (allows.addressed _ _ (addressed_of_required typed filled)))
    exact moves connection
  | deleteNotificationDestination id => exact moves_reporting (writes.issues (.deleteDestination _)) connection

theorem moves_repository {operation : RepositoryOperation} (checked : (Operation.repository operation).Checked checks)
    (connection : Connection) : R connection (operation.run env connection) := by
  cases operation with
  | insertDevice device => exact writes.issues (.insertDevice _) connection
  | updateDevice device => exact writes.issues (.single _ _ (.updateDevice _)) connection
  | deleteDevice deviceId => exact writes.issues (.single _ _ (.deleteDevice _)) connection
  | insertFamily family => exact writes.issues (.insertFamily _) connection
  | updateFamily family => exact writes.issues (.single _ _ (.updateFamily _)) connection
  | insertAction action => exact writes.issues (.insertAction _) connection
  | updateAction action => exact writes.issues (.single _ _ (.updateAction _)) connection
  | insertActionStateChange change =>
    exact writes.issues (.insertStateChange _ (allows.named _ (named_changeRow change.actionId
      { stateType := change.stateType,stateValue := change.stateValue }))) connection
  | deleteActionStateChange actionId stateType => exact writes.issues (.single _ _ (.deleteStateChange _ _)) connection
  | upsertNotificationSetting setting => exact writes.issues (.upsertNotificationSetting _) connection
  | insertNotificationTarget target => exact writes.issues (.insertNotificationTarget _) connection
  | deleteNotificationTarget target => exact writes.issues (.single _ _ (.deleteNotificationTarget _)) connection
  | insertFamilyNotificationDestination familyId notificationType destination enabled =>
    exact writes.issues (.insertDestination _ _ _ _ checked) connection
  | deleteFamilyNotificationDestination id => exact writes.issues (.single _ _ (.deleteDestination _)) connection
  | insertEvent event => exact writes.issues (.insertEvent _) connection

variable {V : Type} {decoding : Decoding V} {skip : Reader Unit}

theorem moves_operation {operation : Operation} (checked : operation.Checked checks) (connection : Connection) :
    R connection (operation.run decoding skip env connection) := by
  cases operation with
  | handleLine line => exact moves_handleLine writes allows decoding line connection
  | processDatagram state engine payload now receivedAt =>
    exact moves_processDatagram writes skip payload now receivedAt
      { database := connection,state,actionHandler := engine }
  | repository operation => exact moves_repository writes allows checked connection
  | settings operation => exact moves_settings writes allows decoding.display operation connection
  | control operation => exact moves_control writes allows decoding.display checked connection
  | close => exact writes.closes connection

theorem moves_runAll {operations : List Operation} (checked : ∀ operation ∈ operations, operation.Checked checks)
    (connection : Connection) : R connection (Operation.runAll decoding skip env connection operations) := by
  induction operations generalizing connection with
  | nil => exact writes.refl connection
  | cons operation operations ih =>
    obtain ⟨first,later⟩ := List.forall_mem_cons.mp checked
    exact writes.trans _ _ _ (moves_operation writes allows first connection) (ih later _)

end

/-! ### Runs -/

/-- What other connections commit comes of operations as well. -/
def ByOperations {V : Type} (decoding : Decoding V) (skip : Reader Unit) (checks : Checks) (env : Env) : Prop :=
  ∀ n, ∀ change ∈ env.others n, ∀ tables, ∃ (operation : Operation) (own : Env),
    operation.Checked checks ∧ (∀ n, own.others n = []) ∧
      change tables = (operation.run decoding skip own (.opened tables)).committed

section
variable {V : Type} {decoding : Decoding V} {skip : Reader Unit} {env : Env} {checks : Checks}
  {good : Tables → Prop}

theorem writes_preserves (respects : Respects env good)
    (keeps : ∀ {α : Type} {change : Tables → Except SqliteError (α × Tables)}, Issued checks α change → Keeps good change) :
    Writes env checks (Preserves good) where
  refl := preserves_refl
  trans := preserves_trans
  queries := preserves_query respects
  issues issued := preserves_execute respects (keeps issued)
  begins := preserves_begin respects
  commits := preserves_commit respects
  rolls := preserves_rollback respects
  closes _ sound := sound.closed

theorem respects_of_operations (others : ByOperations decoding skip checks env)
    (keeps : ∀ {α : Type} {change : Tables → Except SqliteError (α × Tables)}, Issued checks α change → Keeps good change)
    (allows : checks.Allows) : Respects env good := by
  intro n change among tables holds
  obtain ⟨operation,own,checked,alone,same⟩ := others n change among tables
  have respects : Respects own good := by
    intro n change among
    rw [alone n] at among
    cases among
  rw [same]
  exact (moves_operation (writes_preserves respects keeps) allows checked _ (sound_opened holds)).committed

/-- Whatever every statement keeps, every version has that the operations of all programs make. -/
theorem sound_runAll (others : ByOperations decoding skip checks env)
    (keeps : ∀ {α : Type} {change : Tables → Except SqliteError (α × Tables)}, Issued checks α change → Keeps good change)
    (allows : checks.Allows) {operations : List Operation}
    (checked : ∀ operation ∈ operations, operation.Checked checks) {tables : Tables} (holds : good tables) :
    Sound good (Operation.runAll decoding skip env (.opened tables) operations) :=
  moves_runAll (writes_preserves (respects_of_operations others keeps allows) keeps) allows checked _ (sound_opened holds)

end

/-- Whatever fails, and whatever other connections do in between: no operation of any program
ever breaks a key, a foreign key or a check of the schema, for any version anybody can read. -/
theorem operations_keep_integrity {V : Type} {decoding : Decoding V} {skip : Reader Unit} {env : Env}
    (others : ByOperations decoding skip .none env) (operations : List Operation) {tables : Tables}
    (integrity : Integrity tables) :
    (∀ version ∈ (Operation.runAll decoding skip env (.opened tables) operations).versions, Integrity version) ∧
      ∀ version ∈ (Operation.runAll decoding skip env (.opened tables) operations).working, Integrity version := by
  have checked (operation : Operation) : operation.Checked .none := by
    unfold Operation.Checked
    split
    · exact fun _ _ => trivial
    · trivial
    · trivial
  have sound : Sound Integrity (Operation.runAll decoding skip env (.opened tables) operations) :=
    sound_runAll others Issued.keeps Checks.none_allows (fun operation _ => checked operation) integrity
  exact ⟨sound.versions,sound.working⟩

/-- Before the third statement, the configuration is reset over another connection. -/
def resetBetween : Env :=
  { Db.Env.quiet with others := fun n =>
      if n = 2 then [fun tables => (Operation.run resetting (fun _ => none) Db.Env.quiet (.opened tables)
        (.handleLine "")).committed] else [] }

/-- The device outlives the reset, and the family does not. -/
theorem operations_keep_integrity_reset :
    let operations : List Operation := [
      .settings (.saveFamily { familyId := 1,displayName := "home",enabled := true }),
      .control (.saveDevice "now" { deviceId := "n",name := "n",deviceType := "n",enabled := true }),
      .settings (.deleteFamily 1)]
    let after := Operation.runAll resetting (fun _ => none) resetBetween (.opened Tables.empty) operations
    (∀ version ∈ after.versions, Integrity version) ∧
      after.committed.families = [] ∧ after.committed.devices.length = 1 ∧ after.versions.length = 5 := by
  intro operations after
  have others : ByOperations resetting (fun _ => none) .none resetBetween := by
    intro n change among tables
    simp only [resetBetween] at among
    split at among
    · rw [List.mem_singleton.mp among]
      exact ⟨.handleLine "",Db.Env.quiet,trivial,fun _ => rfl,rfl⟩
    · cases among
  have integrity := operations_keep_integrity others operations empty_integrity
  exact ⟨integrity.1,by decide +kernel⟩

end UchiPulse.Management
