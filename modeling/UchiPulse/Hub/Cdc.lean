import UchiPulse.Common.Cdc
import UchiPulse.Hub.Repository
import UchiPulse.Lib.Checks

/-! The hub's CDC endpoint: it reads the whole configuration from the database, and
replaces it as a whole in one transaction. -/
namespace UchiPulse.Hub
open Common Db Sql Json

structure FamilyConfig where
  familyId : FamilyId
  displayName : String
  enabled : Bool
deriving DecidableEq

structure StateChangeConfig where
  stateType : StateType
  stateValue : StateValue
deriving DecidableEq

structure ActionConfig where
  actionId : ActionId
  actionName : String
  targetType : TargetType
  targetFamilyId : Option FamilyId
  webMessage : Option String
  enabled : Bool
  stateChanges : List StateChangeConfig
  notificationEnabled : Bool
  notificationMessage : Option String
  notificationTargets : List FamilyId
deriving DecidableEq

structure FamilyNotificationDestinationConfig where
  familyId : FamilyId
  notificationType : String
  destination : String
  enabled : Bool
deriving DecidableEq

structure ParentConfig where
  families : List FamilyConfig := []
  actions : List ActionConfig := []
  familyNotificationDestinations : List FamilyNotificationDestinationConfig := []
deriving DecidableEq

/-! ### Checks -/

def uniqueIds (ids : List UInt32) (name : String) : Except String (List UInt32) :=
  insertAll (fun id => s!"duplicate {name}: {id}") [] ids

def validateActionTarget (familyIds : List FamilyId) (action : ActionConfig) : Except String Unit :=
  match action.targetType,action.targetFamilyId with
  | .family,some familyId =>
    failIf (familyId ∉ familyIds) s!"Action {action.actionId} has an invalid target family"
  | .family,none => .error s!"Action {action.actionId} has an invalid target family"
  | .common,none => .ok ()
  | .common,some _ => .error s!"COMMON Action {action.actionId} cannot target a family"

/-- The loop over the actions, with the identifiers seen so far. -/
def validateActions (familyIds : List FamilyId) : List ActionId → List ActionConfig → Except String Unit
  | _, [] => .ok ()
  | actionIds, action :: actions => do
    failIf (action.actionId ∈ actionIds) s!"duplicate action_id: {action.actionId}"
    validateActionTarget familyIds action
    let _ ← insertAll (fun _ => s!"Action {action.actionId} has duplicate state_type") []
      (action.stateChanges.map (·.stateType))
    failIf (∃ familyId ∈ action.notificationTargets, familyId ∉ familyIds)
      s!"Action {action.actionId} has invalid notification target"
    validateActions familyIds (actionIds ++ [action.actionId]) actions

def validateDestination (familyIds : List FamilyId)
    (destination : FamilyNotificationDestinationConfig) : Except String Unit := do
  failIf (destination.familyId ∉ familyIds) s!"invalid destination family_id: {destination.familyId}"
  failIf (isBlank destination.notificationType || isBlank destination.destination)
    "notification_type and destination must not be empty"

def validateConfig (config : ParentConfig) : Except String Unit := do
  let familyIds ← uniqueIds (config.families.map (·.familyId)) "family_id"
  let _ ← uniqueIds (config.actions.map (·.actionId)) "action_id"
  validateActions familyIds [] config.actions
  config.familyNotificationDestinations.forM (validateDestination familyIds)

/-! ### Saving -/

def deleteConfig : Session Unit := do
  execute Tables.deleteNotificationTargets
  execute Tables.deleteNotificationSettings
  execute Tables.deleteStateChanges
  execute Tables.deleteActions
  execute Tables.deleteDestinations
  execute Tables.deleteFamilies

def writeFamily (family : FamilyConfig) : Session Unit :=
  execute (Tables.insertFamily {
    familyId := family.familyId,displayName := family.displayName,enabled := family.enabled })

def writeAction (action : ActionConfig) : Session Unit := do
  execute (Tables.insertAction {
    actionId := action.actionId,actionName := action.actionName,
    targetType := targetTypeToStr action.targetType,targetFamilyId := action.targetFamilyId,
    webMessage := action.webMessage,enabled := action.enabled })
  action.stateChanges.forM fun change => execute (Tables.insertStateChange {
    actionId := action.actionId,stateType := stateTypeToStr change.stateType,
    stateValue := stateValueToStr change.stateValue })
  Program.onlyIf (action.notificationEnabled || action.notificationMessage.isSome)
    (execute (Tables.insertNotificationSetting {
      actionId := action.actionId,notificationEnabled := action.notificationEnabled
      notificationMessage := action.notificationMessage }))
  action.notificationTargets.forM fun familyId =>
    execute (Tables.insertNotificationTarget { actionId := action.actionId,familyId })

def writeDestination (destination : FamilyNotificationDestinationConfig) : Session Unit := do
  let _ ← execute (Tables.insertDestination destination.familyId destination.notificationType
    destination.destination destination.enabled)

def writeConfig (config : ParentConfig) : Session Unit := do
  deleteConfig
  config.families.forM writeFamily
  config.actions.forM writeAction
  config.familyNotificationDestinations.forM writeDestination

/-- `display` is the text of a database error. -/
def saveConfig (display : SqliteError → String) (config : ParentConfig) :
    Program Env Connection String Unit :=
  saving display (validateConfig config) (writeConfig config)

/-! ### Loading -/

def loadAction (action : ActionRecord) : Session ActionConfig := do
  let stateChanges ← listActionStateChanges action.actionId
  let notification ← getNotificationSetting action.actionId
  let notificationTargets ← listNotificationTargets action.actionId
  return {
    actionId := action.actionId,actionName := action.actionName,targetType := action.targetType
    targetFamilyId := action.targetFamilyId,webMessage := action.webMessage,enabled := action.enabled
    stateChanges := stateChanges.map fun change =>
      { stateType := change.stateType,stateValue := change.stateValue }
    notificationEnabled := notification.any (·.notificationEnabled)
    notificationMessage := notification.bind (·.notificationMessage)
    notificationTargets := notificationTargets.map (·.familyId) }

def loadDestinations (family : FamilyConfig) : Session (List FamilyNotificationDestinationConfig) := do
  let destinations ← listFamilyNotificationDestinations family.familyId
  return destinations.map fun destination => {
    familyId := destination.familyId,notificationType := destination.notificationType
    destination := destination.destination,enabled := destination.enabled }

def readConfig : Session ParentConfig := do
  let families := (← listFamilies).map fun family =>
    { familyId := family.familyId,displayName := family.displayName,enabled := family.enabled }
  let actions ← (← listActions).mapM loadAction
  let destinations ← families.mapM loadDestinations
  return { families,actions,familyNotificationDestinations := destinations.flatten }

def loadConfig (display : SqliteError → String) : Program Env Connection String ParentConfig :=
  reporting display readConfig

/-! ### Requests -/

/-- The JSON decoder and the texts of its errors, and the texts of database errors. -/
structure Decoding (V : Type) where
  request : String → Except String (CdcRequest V)
  config : V → Except String ParentConfig
  display : SqliteError → String

/-- The data of a successful response. -/
inductive ResponseData where
  | info (deviceType : String) (protocolVersion : UInt8) (capabilities : List String)
  | config (config : ParentConfig)
  | status (deviceType : String) (schemaVersion : Nat)
  | empty
deriving DecidableEq

abbrev Response := CdcResponse ResponseData

def responseOk (requestId : RequestId) (data : ResponseData) : Response :=
  .success cdcProtocolVersion requestId data

/-- A message that does not fit is replaced. -/
def responseError (requestId : RequestId) (code : CdcErrorCode) (message : String) : Response :=
  .failure cdcProtocolVersion requestId code
    (match text 128 message with
      | .ok message => message
      | .error _ => ⟨"CDC operation failed",by decide⟩)

variable {V : Type}

/-- The response to what a command returned. -/
def respond {α : Type} (requestId : RequestId) (code : CdcErrorCode) (data : α → ResponseData)
    (command : Program Env Connection String α) : Program Env Connection String Response := do
  match ← Program.attempt command with
  | .ok value => return responseOk requestId (data value)
  | .error error => return responseError requestId code error

def setConfig (decoding : Decoding V) (params : V) : Program Env Connection String ParentConfig := do
  match decoding.config params with
  | .error error => Program.fail s!"invalid parent configuration: {error}"
  | .ok config =>
    saveConfig decoding.display config
    return config

def handleRequest (decoding : Decoding V) (request : CdcRequest V) :
    Program Env Connection String Response :=
  match request.command.val with
  | "get_info" =>
    pure (responseOk request.requestId
      (.info "hub" cdcProtocolVersion ["get_config","set_config","factory_reset"]))
  | "get_config" => respond request.requestId .operationFailed .config (loadConfig decoding.display)
  | "set_config" => respond request.requestId .invalidConfig .config (setConfig decoding request.params)
  | "factory_reset" =>
    respond request.requestId .saveFailed (fun _ => .empty) (saveConfig decoding.display {})
  | "get_status" =>
    respond request.requestId .operationFailed (.status "hub") (reporting decoding.display schemaVersion)
  | "reboot" =>
    pure (responseError request.requestId .notSupported "Hub reboot is not exposed through CDC")
  | "get_inputs" | "get_outputs" =>
    pure (responseError request.requestId .notSupported "Hub has no GPIO input/output state")
  | command =>
    pure (responseError request.requestId .invalidCommand s!"unknown command: {command}")

def handleLine (decoding : Decoding V) (line : String) : Program Env Connection String Response :=
  match decoding.request line with
  | .error error =>
    pure (responseError ⟨"unknown",by decide⟩ .invalidJson s!"invalid CDC JSON: {error}")
  | .ok request =>
    if request.version ≠ cdcProtocolVersion then
      pure (responseError request.requestId .unsupportedVersion
        s!"unsupported protocol version: {request.version}")
    else handleRequest decoding request

/-- The worker answers one line after the other. -/
def handleLines (decoding : Decoding V) (lines : List String) :
    Program Env Connection String (List Response) :=
  lines.mapM (handleLine decoding)

end UchiPulse.Hub
