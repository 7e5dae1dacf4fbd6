import UchiPulse.Db.FailedSave
import UchiPulse.Lib.Grouping

/-! The configuration scattered over six tables and collected again. A save replaces all
the rows of these tables and no others; a load finds them in a normal form. -/
namespace UchiPulse.Hub
open Common Db Sql

/-! ### The rows of a configuration -/

def familyRow (family : FamilyConfig) : FamilyRow :=
  { familyId := family.familyId,displayName := family.displayName,enabled := family.enabled }

def actionRow (action : ActionConfig) : ActionRow where
  actionId := action.actionId
  actionName := action.actionName
  targetType := targetTypeToStr action.targetType
  targetFamilyId := action.targetFamilyId
  webMessage := action.webMessage
  enabled := action.enabled

def changeRow (actionId : ActionId) (change : StateChangeConfig) : StateChangeRow where
  actionId := actionId
  stateType := stateTypeToStr change.stateType
  stateValue := stateValueToStr change.stateValue

def changeRows (action : ActionConfig) : List StateChangeRow :=
  action.stateChanges.map (changeRow action.actionId)

def settingRows (action : ActionConfig) : List NotificationSettingRow :=
  if action.notificationEnabled || action.notificationMessage.isSome then
    [{ actionId := action.actionId,notificationEnabled := action.notificationEnabled
       notificationMessage := action.notificationMessage }]
  else []

def targetRows (action : ActionConfig) : List NotificationTargetRow :=
  action.notificationTargets.map fun familyId => { actionId := action.actionId,familyId }

/-- Destinations get fresh rowids in their order. -/
def destinationRows : Nat → List FamilyNotificationDestinationConfig → List DestinationRow
  | _, [] => []
  | seq, destination :: destinations =>
    { id := seq + 1,familyId := destination.familyId,notificationType := destination.notificationType
      destination := destination.destination,enabled := destination.enabled } ::
      destinationRows (seq + 1) destinations

/-- The tables after a save. -/
def written (config : ParentConfig) (tables : Tables) : Tables :=
  { tables with
    families := config.families.map familyRow
    actions := config.actions.map actionRow
    stateChanges := config.actions.flatMap changeRows
    notificationSettings := config.actions.flatMap settingRows
    notificationTargets := config.actions.flatMap targetRows
    destinations := destinationRows tables.destinationSeq config.familyNotificationDestinations
    destinationSeq := tables.destinationSeq + config.familyNotificationDestinations.length }

/-! ### Saving -/

section
variable {env : Env}

/-- Without a configuration. -/
def cleared (tables : Tables) : Tables :=
  { tables with
    families := [],actions := [],stateChanges := [],notificationSettings := []
    notificationTargets := [],destinations := [] }

theorem leads_deleteFamilies : Leads env (execute Tables.deleteFamilies) fun tables => { tables with
    families := []
    notificationTargets := tables.notificationTargets.filter (!tables.hasFamily ·.familyId)
    destinations := tables.destinations.filter (!tables.hasFamily ·.familyId) } :=
  leads_constrained

theorem leads_deleteConfig : Leads env deleteConfig cleared :=
  leads_congr (leads_bind (leads_always fun _ => rfl) fun _ => leads_bind (leads_always fun _ => rfl) fun _ =>
    leads_bind (leads_always fun _ => rfl) fun _ => leads_bind (leads_always fun _ => rfl) fun _ =>
    leads_bind (leads_always fun _ => rfl) fun _ => leads_deleteFamilies)
    fun tables => by simp [Function.comp,cleared]

def addFamilies (families : List FamilyConfig) (tables : Tables) : Tables :=
  { tables with families := tables.families ++ families.map familyRow }

theorem leads_writeFamily (family : FamilyConfig) : Leads env (writeFamily family) (addFamilies [family]) :=
  leads_constrained

theorem leads_insertAction (action : ActionConfig) : Leads env (execute (Tables.insertAction (actionRow action)))
    fun tables => { tables with actions := tables.actions ++ [actionRow action] } :=
  leads_constrained

/-- Some changes of one action. -/
def addChanges (actionId : ActionId) (changes : List StateChangeConfig) (tables : Tables) : Tables :=
  { tables with stateChanges := tables.stateChanges ++ changes.map (changeRow actionId) }

theorem leads_insertStateChange (actionId : ActionId) (change : StateChangeConfig) :
    Leads env (execute (Tables.insertStateChange (changeRow actionId change))) (addChanges actionId [change]) :=
  leads_constrained

theorem leads_stateChanges (actionId : ActionId) (changes : List StateChangeConfig) :
    Leads env (changes.forM fun change => execute (Tables.insertStateChange (changeRow actionId change)))
      (addChanges actionId changes) :=
  leads_appends (addChanges actionId) (leads_insertStateChange actionId) (by simp [addChanges]) (by simp [addChanges])

theorem leads_setting (action : ActionConfig) :
    Leads env (Program.onlyIf (action.notificationEnabled || action.notificationMessage.isSome)
      (execute (Tables.insertNotificationSetting {
        actionId := action.actionId,notificationEnabled := action.notificationEnabled
        notificationMessage := action.notificationMessage }))) fun tables =>
      { tables with notificationSettings := tables.notificationSettings ++ settingRows action } := by
  refine leads_congr (leads_onlyIf leads_constrained) fun tables => ?_
  unfold settingRows
  split <;> simp

/-- Some targets of one action. -/
def addTargets (actionId : ActionId) (familyIds : List FamilyId) (tables : Tables) : Tables :=
  { tables with
    notificationTargets := tables.notificationTargets ++ familyIds.map fun familyId => { actionId,familyId } }

theorem leads_insertTarget (actionId : ActionId) (familyId : FamilyId) :
    Leads env (execute (Tables.insertNotificationTarget { actionId,familyId })) (addTargets actionId [familyId]) :=
  leads_constrained

theorem leads_targets (actionId : ActionId) (familyIds : List FamilyId) :
    Leads env (familyIds.forM fun familyId => execute (Tables.insertNotificationTarget { actionId,familyId }))
      (addTargets actionId familyIds) :=
  leads_appends (addTargets actionId) (leads_insertTarget actionId) (by simp [addTargets]) (by simp [addTargets])

/-- Some actions with all that hangs on them. -/
def addActions (actions : List ActionConfig) (tables : Tables) : Tables :=
  { tables with
    actions := tables.actions ++ actions.map actionRow
    stateChanges := tables.stateChanges ++ actions.flatMap changeRows
    notificationSettings := tables.notificationSettings ++ actions.flatMap settingRows
    notificationTargets := tables.notificationTargets ++ actions.flatMap targetRows }

theorem leads_writeAction (action : ActionConfig) : Leads env (writeAction action) (addActions [action]) :=
  leads_congr (leads_bind (leads_insertAction action) fun _ =>
    leads_bind (leads_stateChanges action.actionId action.stateChanges) fun _ =>
    leads_bind (leads_setting action) fun _ => leads_targets action.actionId action.notificationTargets)
    fun tables => by simp [addActions,addChanges,addTargets,changeRows,targetRows]

def addDestinations (destinations : List FamilyNotificationDestinationConfig) (tables : Tables) : Tables :=
  { tables with
    destinations := tables.destinations ++ destinationRows tables.destinationSeq destinations
    destinationSeq := tables.destinationSeq + destinations.length }

theorem leads_writeDestination (destination : FamilyNotificationDestinationConfig) :
    Leads env (writeDestination destination) (addDestinations [destination]) := by
  refine leads_bind (leads_execute fun tables value next ok => ?_) fun _ => leads_pure ()
  unfold Tables.insertDestination at ok
  split at ok
  · cases ok
  · exact (Prod.mk.inj (Tables.constrained_ok.mp ok).2).2

theorem addFamilies_cons (family : FamilyConfig) (families : List FamilyConfig) (tables : Tables) :
    addFamilies families (addFamilies [family] tables) = addFamilies (family :: families) tables := by
  simp [addFamilies]

theorem addActions_cons (action : ActionConfig) (actions : List ActionConfig) (tables : Tables) :
    addActions actions (addActions [action] tables) = addActions (action :: actions) tables := by
  simp [addActions]

theorem addDestinations_cons (destination : FamilyNotificationDestinationConfig)
    (destinations : List FamilyNotificationDestinationConfig) (tables : Tables) :
    addDestinations destinations (addDestinations [destination] tables) =
      addDestinations (destination :: destinations) tables := by
  simp [addDestinations,destinationRows,Nat.add_comm,Nat.add_left_comm]

theorem leads_families (families : List FamilyConfig) : Leads env (families.forM writeFamily) (addFamilies families) :=
  leads_appends addFamilies leads_writeFamily (by simp [addFamilies]) addFamilies_cons

theorem leads_actions (actions : List ActionConfig) : Leads env (actions.forM writeAction) (addActions actions) :=
  leads_appends addActions leads_writeAction (by simp [addActions]) addActions_cons

theorem leads_destinations (destinations : List FamilyNotificationDestinationConfig) :
    Leads env (destinations.forM writeDestination) (addDestinations destinations) :=
  leads_appends addDestinations leads_writeDestination (by simp [addDestinations,destinationRows]) addDestinations_cons

theorem leads_writeConfig (config : ParentConfig) : Leads env (writeConfig config) (written config) :=
  leads_congr (leads_bind leads_deleteConfig fun _ => leads_bind (leads_families config.families) fun _ =>
    leads_bind (leads_actions config.actions) fun _ => leads_destinations config.familyNotificationDestinations)
    fun tables => by simp [Function.comp,written,cleared,addFamilies,addActions,addDestinations]

end

end UchiPulse.Hub
