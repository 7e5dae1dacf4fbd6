import UchiPulse.Lib.Outcome
import UchiPulse.Settings.Stored

/-! A saved action as the settings app lists it next. Its parts stand in four tables; what is
read of them is what was saved, in order, and the parts of every other action stay. -/
namespace UchiPulse.Settings
open Common Db Sql

/-- The action as it is listed: its parts in order. -/
def sortedAction (action : ActionRecord) : ActionRecord :=
  { action with
    stateChanges := action.stateChanges.insertionSort fun a b => a.stateType ≤ b.stateType
    notificationTargets := action.notificationTargets.insertionSort fun a b => a ≤ b }

/-- The actions a listing of these tables returns. -/
def listedActions (tables : Tables) : List ActionRecord := tables.actionsById.map (loadedAction · tables)

/-! ### The parts of the saved action -/

section
variable (action : ActionRecord) (tables : Tables)

theorem changeRows_own : ∀ row ∈ changeRows action, row.actionId = action.actionId :=
  List.forall_mem_map.mpr fun _ _ => rfl

theorem targetRows_own : ∀ row ∈ targetRows action, row.actionId = action.actionId :=
  List.forall_mem_map.mpr fun _ _ => rfl

theorem settingRows_own : ∀ row ∈ settingRows action, row.actionId = action.actionId := by
  unfold settingRows
  split <;> simp

theorem saved_stateChangesOf : (savedAction action tables).stateChangesOf action.actionId =
    (sortedAction action).stateChanges.map fun change =>
      { actionId := action.actionId,stateType := change.stateType,stateValue := change.stateValue } := by
  rw [Tables.stateChangesOf,savedAction,filter_rewritten StateChangeRow.actionId (changeRows_own action)]
  exact insertionSort_map_key StateChangeRecord.stateType StateChangeRow.stateType (fun _ => rfl) _

theorem saved_notificationTargetsOf : (savedAction action tables).notificationTargetsOf action.actionId =
    (sortedAction action).notificationTargets.map fun familyId => { actionId := action.actionId,familyId } := by
  rw [Tables.notificationTargetsOf,savedAction,filter_rewritten NotificationTargetRow.actionId (targetRows_own action)]
  exact insertionSort_map_key (fun familyId => familyId) NotificationTargetRow.familyId (fun _ => rfl) _

theorem saved_notificationSetting : (savedAction action tables).notificationSetting action.actionId =
    (settingRows action).head? := by
  rw [Tables.notificationSetting,← List.head?_filter,savedAction,
    filter_rewritten NotificationSettingRow.actionId (settingRows_own action)]

/-- Without a setting there is nothing to tell from an empty message. -/
theorem setting_read : ((settingRows action).head?.any (·.notificationEnabled)) = action.notificationEnabled ∧
    (((settingRows action).head?.bind (·.notificationMessage)).getD "") = action.notificationMessage := by
  unfold settingRows nullIfEmpty
  split
  next stored =>
    refine ⟨rfl,?_⟩
    by_cases empty : action.notificationMessage = "" <;> simp [empty]
  next absent =>
    simp only [Bool.or_eq_true,decide_eq_true_eq,not_or,not_not] at absent
    exact ⟨(Bool.eq_false_iff.mpr absent.1).symm,absent.2.symm⟩

theorem loaded_saved : loadedAction (actionRow action) (savedAction action tables) = sortedAction action := by
  obtain ⟨enabled,message⟩ := setting_read action
  have changes := saved_stateChangesOf action tables
  have targets := saved_notificationTargetsOf action tables
  have setting := saved_notificationSetting action tables
  have webMessage : (nullIfEmpty action.webMessage).getD "" = action.webMessage := by
    unfold nullIfEmpty
    split
    next empty => exact empty.symm
    next => rfl
  simp only [loadedAction,actionRow,changes,targets,setting,enabled,message,webMessage,List.map_map,
    Function.comp_def]
  simp [sortedAction]

/-- What belongs to another action is read as before. -/
theorem loaded_other {row : ActionRow} (apart : row.actionId ≠ action.actionId) :
    loadedAction row (savedAction action tables) = loadedAction row tables := by
  have changes : (savedAction action tables).stateChangesOf row.actionId = tables.stateChangesOf row.actionId := by
    rw [Tables.stateChangesOf,savedAction,
      filter_rewritten_other StateChangeRow.actionId row.actionId (changeRows_own action) apart]
    rfl
  have targets : (savedAction action tables).notificationTargetsOf row.actionId =
      tables.notificationTargetsOf row.actionId := by
    rw [Tables.notificationTargetsOf,savedAction,
      filter_rewritten_other NotificationTargetRow.actionId row.actionId (targetRows_own action) apart]
    rfl
  have setting : (savedAction action tables).notificationSetting row.actionId =
      tables.notificationSetting row.actionId := by
    rw [Tables.notificationSetting,← List.head?_filter,savedAction,
      filter_rewritten_other NotificationSettingRow.actionId row.actionId (settingRows_own action) apart,
      List.head?_filter]
    rfl
  simp only [loadedAction,changes,targets,setting]

/-! ### The rows of the actions -/

theorem saved_row (distinct : (tables.actions.map (·.actionId)).Nodup) :
    (savedAction action tables).actions.filter (·.actionId = action.actionId) = [actionRow action] :=
  filter_upsert ActionRow.actionId (actionRow action) rfl distinct Iff.rfl

theorem saved_other_rows : (savedAction action tables).actions.filter (·.actionId ≠ action.actionId) =
    tables.actions.filter (·.actionId ≠ action.actionId) :=
  filter_upsert_other ActionRow.actionId (actionRow action) rfl

/-! ### The listing -/

theorem listed_filter (p : UInt32 → Bool) : (listedActions tables).filter (p ·.actionId) =
    ((tables.actions.filter (p ·.actionId)).insertionSort fun a b => a.actionId ≤ b.actionId).map
      (loadedAction · tables) := by
  rw [listedActions,Tables.actionsById,List.filter_map,← filter_insertionSort_key ActionRow.actionId]
  rfl

/-- The saved action is listed once, as it was saved. -/
theorem listed_saved (distinct : (tables.actions.map (·.actionId)).Nodup) :
    (listedActions (savedAction action tables)).filter (·.actionId = action.actionId) = [sortedAction action] := by
  rw [listed_filter _ fun actionId => actionId = action.actionId,saved_row action tables distinct,
    List.insertionSort_cons,List.insertionSort_nil,List.orderedInsert_nil,List.map_singleton,loaded_saved]

/-- All others are listed as before. -/
theorem listed_others : (listedActions (savedAction action tables)).filter (·.actionId ≠ action.actionId) =
    (listedActions tables).filter (·.actionId ≠ action.actionId) := by
  rw [listed_filter _ fun actionId => actionId ≠ action.actionId,
    listed_filter _ fun actionId => actionId ≠ action.actionId,saved_other_rows]
  refine List.map_congr_left fun row member => loaded_other action tables ?_
  simpa using (List.mem_filter.mp ((List.mem_insertionSort _).mp member)).2

/-- The tables without an action and what belongs to it. -/
def without (actionId : UInt32) (tables : Tables) : Tables :=
  { tables with
    actions := tables.actions.filter (·.actionId ≠ actionId)
    stateChanges := tables.stateChanges.filter (·.actionId ≠ actionId)
    notificationSettings := tables.notificationSettings.filter (·.actionId ≠ actionId)
    notificationTargets := tables.notificationTargets.filter (·.actionId ≠ actionId) }

theorem without_saved : without action.actionId (savedAction action tables) = without action.actionId tables := by
  have changes : (savedAction action tables).stateChanges.filter (·.actionId ≠ action.actionId) =
      tables.stateChanges.filter (·.actionId ≠ action.actionId) :=
    filter_rewritten_others StateChangeRow.actionId (changeRows_own action)
  have settings : (savedAction action tables).notificationSettings.filter (·.actionId ≠ action.actionId) =
      tables.notificationSettings.filter (·.actionId ≠ action.actionId) :=
    filter_rewritten_others NotificationSettingRow.actionId (settingRows_own action)
  have targets : (savedAction action tables).notificationTargets.filter (·.actionId ≠ action.actionId) =
      tables.notificationTargets.filter (·.actionId ≠ action.actionId) :=
    filter_rewritten_others NotificationTargetRow.actionId (targetRows_own action)
  simp only [without,saved_other_rows,changes,settings,targets]
  rfl

end

/-! ### What a save needs -/

/-- The families of the action are known, and nothing is listed twice. -/
structure Savable (tables : Tables) (action : ActionRecord) : Prop where
  target : ∀ familyId ∈ action.targetFamilyId, tables.hasFamily familyId
  stateTypes : (action.stateChanges.map (·.stateType)).Nodup
  targets : action.notificationTargets.Nodup
  families : ∀ familyId ∈ action.notificationTargets, tables.hasFamily familyId

section
variable {env : Env}

theorem needs_any {α : Type} {body : Session α} : Needs env body fun _ => True := fun _ _ _ _ _ _ => trivial

theorem needs_stateChanges (action : ActionRecord) :
    Needs env (action.stateChanges.forM (writeStateChange action.actionId)) fun _ =>
      (action.stateChanges.map (·.stateType)).Nodup := by
  have each (change : StateChangeRecord) : Needs env (writeStateChange action.actionId change) fun tables =>
      ¬ ∃ old ∈ tables.stateChanges, old.actionId = action.actionId ∧ old.stateType = change.stateType := by
    intro self version working value done ok
    obtain ⟨⟨⟩,between,checked,ran⟩ := Program.bind_eq_ok.mp ok
    obtain ⟨-,rfl⟩ := Program.failIf_eq_ok.mp checked
    obtain ⟨_,_,inserted⟩ := needs_execute _ between version working value done ran
    exact (Tables.constrained_ok.mp inserted).1.2.2.2
  intro self version working value done ok
  have fresh := needs_forM (fun (changes : List StateChangeRecord) (tables : Tables) => { tables with
      stateChanges := tables.stateChanges ++ changes.map fun change =>
        { actionId := action.actionId,stateType := change.stateType,stateValue := change.stateValue } })
    (leads_writeStateChange action.actionId) (by simp) (by simp) each self version working value done ok
  by_contra repeats
  obtain ⟨front,stateType,back,split,-,member⟩ := exists_repeat repeats
  obtain ⟨earlier,later,shape,rfl,rest⟩ := List.map_eq_append_iff.mp split
  obtain ⟨change,others,rfl,rfl,-⟩ := List.map_eq_cons_iff.mp rest
  obtain ⟨old,among,same⟩ := List.mem_map.mp member
  exact fresh earlier change others shape ⟨_,List.mem_append_right _ (List.mem_map_of_mem among),rfl,same⟩

theorem needs_targets (action : ActionRecord) :
    Needs env (action.notificationTargets.forM fun familyId =>
      execute (Tables.insertNotificationTarget { actionId := action.actionId,familyId })) fun tables =>
        action.notificationTargets.Nodup ∧ ∀ familyId ∈ action.notificationTargets, tables.hasFamily familyId := by
  have each (familyId : UInt32) : Needs env
      (execute (Tables.insertNotificationTarget { actionId := action.actionId,familyId })) fun tables =>
        tables.hasFamily familyId ∧ { actionId := action.actionId,familyId } ∉ tables.notificationTargets := by
    intro self version working value done ok
    obtain ⟨_,_,inserted⟩ := needs_execute _ self version working value done ok
    exact (Tables.constrained_ok.mp inserted).1.2
  intro self version working value done ok
  have fit := needs_forM (fun familyIds (tables : Tables) => { tables with
      notificationTargets := tables.notificationTargets ++
        familyIds.map fun familyId => { actionId := action.actionId,familyId } })
    (fun _ => leads_constrained) (by simp) (by simp) each self version working value done ok
  refine ⟨?_,fun familyId member => ?_⟩
  · by_contra repeats
    obtain ⟨front,familyId,back,split,-,member⟩ := exists_repeat repeats
    exact (fit front familyId back split).2 (List.mem_append_right _ (List.mem_map_of_mem member))
  · obtain ⟨front,back,split⟩ := List.append_of_mem member
    exact (fit front familyId back split).1

theorem needs_writeAction (action : ActionRecord) : Needs env (writeAction action) (Savable · action) := by
  intro self version working value done ok
  obtain ⟨⟨_,_,upserted⟩,-,stateTypes,-,-,-,targets,families⟩ :=
    needs_bind (needs_execute _) (leads_upsertAction action) (fun _ =>
      needs_bind needs_any (leads_always fun _ => rfl) fun _ =>
      needs_bind (needs_stateChanges action) (leads_stateChanges action) fun _ =>
      needs_bind needs_any (leads_always fun _ => rfl) fun _ =>
      needs_bind needs_any (leads_setting action) fun _ =>
      needs_bind needs_any (leads_always fun _ => rfl) fun _ => needs_targets action)
      self version working value done ok
  refine ⟨fun familyId targeted => ?_,stateTypes,targets,families⟩
  rcases (Tables.constrained_ok.mp upserted).1 with ⟨-,known,found,has⟩ | ⟨-,common⟩
  · rwa [Option.mem_unique targeted found]
  · rw [show action.targetFamilyId = none from common] at targeted
    cases targeted

/-! ### Saving -/

theorem saveAction_ok {display : SqliteError → String} {action : ActionRecord} {self after : Connection}
    (saved : saveAction display action env self = (.ok (),after)) :
    after.working = none ∧ after.committed = savedAction action (self.tick env).committed ∧
      Savable (self.tick env).committed action := by
  obtain ⟨-,ran⟩ := saving_ok saved
  obtain ⟨-,closed,committed⟩ := transactionally_ok (leads_writeAction action) ran
  exact ⟨closed,committed,needs_transactionally (needs_writeAction action) ran⟩

/-- A save that fails leaves what is committed, whichever of its statements it was. -/
theorem saveAction_error (alone : ∀ n, env.others n = []) {display : SqliteError → String} {action : ActionRecord}
    {self : Connection} (failed : (saveAction display action env self).1 ≠ .ok ()) :
    (saveAction display action env self).2.committed = self.committed := by
  rcases ran : saveAction display action env self with ⟨message | ⟨⟩,after⟩
  · have kept : Upholds (· = self.committed) self after := by
      refine upholds_saving (fun n change member => ?_) (inside_writeAction action) ran
      rw [alone] at member
      cases member
    exact kept rfl
  · rw [ran] at failed
    exact absurd rfl failed

theorem reads_listActions (quiet : Quiet env) : Reads env listActions fun tables => .ok (listedActions tables) := by
  have action (row : ActionRow) : Reads env (loadAction row) fun tables => .ok (loadedAction row tables) :=
    reads_bind (reads_query quiet _) fun _ => reads_bind (reads_query quiet _) fun _ =>
      reads_bind (reads_query quiet _) fun _ => reads_pure _
  refine reads_congr (reads_bind (reads_query quiet _) fun rows => reads_mapM rows action) fun tables => ?_
  exact mapM_ok fun _ _ => rfl

/-- What an unfit action writes is rolled back. -/
theorem saveAction_noTrace (alone : ∀ n, env.others n = []) (rolls : ∀ n, env.rollbackFault n = none)
    {display : SqliteError → String} {action : ActionRecord} {self : Connection} (idle : self.working = none)
    (unfit : ¬ Savable self.committed action) : NoTrace env self (saveAction display action env self).2 := by
  have begins : (self.tick env).committed = self.committed := by rw [tick_alone alone]
  rcases ran : saveAction display action env self with ⟨message | ⟨⟩,after⟩
  · refine (saving_noTrace alone (inside_writeAction action) rolls ran).mpr ⟨idle,?_⟩
    rintro ⟨-,begun,done,fault,opened,written,-⟩
    have working : begun.working = some self.committed := by rw [(begin_ok opened).1,begins]
    exact unfit (needs_writeAction action begun _ working () done written)
  · exact absurd (begins ▸ (saveAction_ok ran).2.2) unfit

end

/-- A save that succeeds replaces what was stored under the action's number: the action is
listed once, as it was saved and in order, and nothing else changes. A save that fails, as
it does for an action that is not fit for the tables, changes nothing. -/
theorem saved_action_listed (display : SqliteError → String) (env : Env) (self : Connection) (action : ActionRecord) :
    let before := (self.tick env).committed
    let saved := saveAction display action env self
    let after := saved.2.committed
    (saved.1 = .ok () → Schema before →
      (listedActions after).filter (·.actionId = action.actionId) = [sortedAction action] ∧
      (listedActions after).filter (·.actionId ≠ action.actionId) =
        (listedActions before).filter (·.actionId ≠ action.actionId) ∧
      without action.actionId after = without action.actionId before ∧
      ∀ env', (∀ n, env'.others n = []) →
        (Quiet env' → (listActions env' saved.2).1 = .ok (listedActions after)) ∧
        ((listActions env' saved.2).1 = .ok (listedActions after) ∨
          ∃ error, (listActions env' saved.2).1 = .error error)) ∧
    (¬ Savable before action → saved.1 ≠ .ok ()) ∧
    ((∀ n, env.others n = []) → saved.1 ≠ .ok () → after = self.committed) ∧
    ((∀ n, env.others n = []) → (∀ n, env.rollbackFault n = none) → self.working = none →
      ¬ Savable before action → NoTrace env self saved.2) := by
  intro before saved after
  refine ⟨fun ok schema => ?_,fun unfit ok => ?_,fun alone failed => saveAction_error alone failed,
    fun alone rolls idle unfit => ?_⟩
  · obtain ⟨closed,committed,-⟩ := saveAction_ok (Program.result_eq ok)
    have stored : after = savedAction action before := committed
    have view : saved.2.view = after := by rw [Connection.view,closed,Option.getD_none]
    refine ⟨?_,?_,?_,fun env' alone => ⟨fun quiet => ?_,?_⟩⟩
    · rw [stored]
      exact listed_saved action before schema.actions
    · rw [stored]
      exact listed_others action before
    · rw [stored]
      exact without_saved action before
    · obtain ⟨clock,ran⟩ := reads_listActions quiet saved.2
      rw [ran,view]
    · obtain ⟨outcome,next,ran,-,-,found⟩ := (finds_listActions alone).2 saved.2 closed
      rw [ran]
      exact found
  · exact unfit (saveAction_ok (Program.result_eq ok)).2.2
  · have begins : before = self.committed := by simp only [before,tick_alone alone]
    exact saveAction_noTrace alone rolls idle (begins ▸ unfit)

/-- The new version of an action has its parts in another order, and none of the old ones. -/
def renewedAction : ActionRecord :=
  { commonAction with
    stateChanges := [{ stateType := "SNACK_NOTICE",stateValue := "ON" },{ stateType := "MAILBOX",stateValue := "OFF" }] }

/-- The connection after the first save. -/
def renewing : Connection := (saveAction (fun _ => "error") commonAction Env.quiet (.opened .empty)).2

theorem saved_action_listed_renewed :
    (saveAction (fun _ => "error") renewedAction Env.quiet renewing).1 = .ok () ∧
    (listActions Env.quiet (saveAction (fun _ => "error") renewedAction Env.quiet renewing).2).1 =
      .ok [sortedAction renewedAction] ∧
    (sortedAction renewedAction).stateChanges.map (·.stateType) = ["MAILBOX","SNACK_NOTICE"] := by
  have ok : (saveAction (fun _ => "error") renewedAction Env.quiet renewing).1 = .ok () := by decide +kernel
  have tables : (renewing.tick Env.quiet).committed = savedAction commonAction .empty := by decide +kernel
  have schema : Schema (renewing.tick Env.quiet).committed := by
    rw [tables]
    constructor <;> decide +kernel
  have listed : listedActions (saveAction (fun _ => "error") renewedAction Env.quiet renewing).2.committed =
      [sortedAction renewedAction] := by
    decide +kernel
  obtain ⟨-,-,-,listing⟩ := (saved_action_listed (fun _ => "error") Env.quiet renewing renewedAction).1 ok schema
  have lists := (listing Env.quiet fun _ => rfl).1 (Env.quiet_quiet _ _)
  exact ⟨ok,lists.trans (congrArg Except.ok listed),by decide +kernel⟩

end UchiPulse.Settings
