import UchiPulse.Db.FailedSave

/-! The tables after an action was saved: its row is replaced or added, and what belongs to
it is written anew. -/
namespace UchiPulse.Db
open Common Sql

def actionRow (action : ActionRecord) : ActionRow where
  actionId := action.actionId
  actionName := action.actionName
  targetType := action.targetType
  targetFamilyId := action.targetFamilyId
  webMessage := nullIfEmpty action.webMessage
  enabled := action.enabled

def changeRows (action : ActionRecord) : List StateChangeRow :=
  action.stateChanges.map fun change =>
    { actionId := action.actionId,stateType := change.stateType,stateValue := change.stateValue }

def settingRows (action : ActionRecord) : List NotificationSettingRow :=
  if action.notificationEnabled || action.notificationMessage ≠ "" then
    [{ actionId := action.actionId,notificationEnabled := action.notificationEnabled
       notificationMessage := nullIfEmpty action.notificationMessage }]
  else []

def targetRows (action : ActionRecord) : List NotificationTargetRow :=
  action.notificationTargets.map fun familyId => { actionId := action.actionId,familyId }

def savedAction (action : ActionRecord) (tables : Tables) : Tables :=
  { tables with
    actions := if tables.hasAction action.actionId
      then tables.actions.map fun old => if old.actionId = action.actionId then actionRow action else old
      else tables.actions ++ [actionRow action]
    stateChanges := tables.stateChanges.filter (·.actionId ≠ action.actionId) ++ changeRows action
    notificationSettings := tables.notificationSettings.filter (·.actionId ≠ action.actionId) ++ settingRows action
    notificationTargets := tables.notificationTargets.filter (·.actionId ≠ action.actionId) ++ targetRows action }

section
variable {env : Env}

theorem leads_upsertAction (action : ActionRecord) : Leads env (execute (Tables.upsertAction (actionRow action)))
    fun tables => { tables with
      actions := if tables.hasAction action.actionId
        then tables.actions.map fun old => if old.actionId = action.actionId then actionRow action else old
        else tables.actions ++ [actionRow action] } :=
  leads_constrained

theorem leads_writeStateChange (actionId : UInt32) (change : StateChangeRecord) :
    Leads env (writeStateChange actionId change) fun tables =>
      { tables with
        stateChanges := tables.stateChanges ++
          [{ actionId,stateType := change.stateType,stateValue := change.stateValue }] } :=
  leads_bind (leads_failIf _ _) fun _ => leads_constrained

theorem leads_stateChanges (action : ActionRecord) :
    Leads env (action.stateChanges.forM (writeStateChange action.actionId)) fun tables =>
      { tables with stateChanges := tables.stateChanges ++ changeRows action } :=
  leads_appends (fun (changes : List StateChangeRecord) (tables : Tables) => { tables with
      stateChanges := tables.stateChanges ++ changes.map fun change =>
        { actionId := action.actionId,stateType := change.stateType,stateValue := change.stateValue } })
    (leads_writeStateChange action.actionId) (by simp) (by simp)

theorem leads_setting (action : ActionRecord) :
    Leads env (Program.onlyIf (action.notificationEnabled || action.notificationMessage ≠ "")
      (execute (Tables.insertNotificationSetting {
        actionId := action.actionId,notificationEnabled := action.notificationEnabled
        notificationMessage := nullIfEmpty action.notificationMessage }))) fun tables =>
      { tables with notificationSettings := tables.notificationSettings ++ settingRows action } := by
  refine leads_congr (leads_onlyIf leads_constrained) fun tables => ?_
  unfold settingRows
  split <;> simp

theorem leads_targets (action : ActionRecord) :
    Leads env (action.notificationTargets.forM fun familyId =>
      execute (Tables.insertNotificationTarget { actionId := action.actionId,familyId })) fun tables =>
      { tables with notificationTargets := tables.notificationTargets ++ targetRows action } :=
  leads_appends (fun familyIds (tables : Tables) => { tables with
      notificationTargets := tables.notificationTargets ++
        familyIds.map fun familyId => { actionId := action.actionId,familyId } })
    (fun _ => leads_constrained) (by simp) (by simp)

theorem leads_writeAction (action : ActionRecord) : Leads env (writeAction action) (savedAction action) :=
  leads_congr (leads_bind (leads_upsertAction action) fun _ => leads_bind (leads_always fun _ => rfl) fun _ =>
    leads_bind (leads_stateChanges action) fun _ => leads_bind (leads_always fun _ => rfl) fun _ =>
    leads_bind (leads_setting action) fun _ => leads_bind (leads_always fun _ => rfl) fun _ => leads_targets action)
    fun _ => rfl

end

end UchiPulse.Db
