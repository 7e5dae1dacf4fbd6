import UchiPulse.Control.Db
import UchiPulse.Hub.Cdc
import UchiPulse.Lib.Transaction
import UchiPulse.Settings.Db

/-! What a failed save leaves behind on its connection. Every early exit is rolled back;
a `COMMIT` that is refused is not. -/
namespace UchiPulse.Db
open Sql

variable {env : Env}

section
variable {display : SqliteError → String} {checked : Except String Unit} {body : Session Unit}
  {self after : Connection} {message : String}

/-- A save that succeeds passed its checks, and its transaction was committed. -/
theorem saving_ok (saved : saving display checked body env self = (.ok (),after)) :
    checked = .ok () ∧ transactionally body env self = (.ok (),after) := by
  cases checked with
  | error text => cases saved
  | ok value =>
    simp only [saving,reporting,Program.zoom,id_eq] at saved
    rcases ran : transactionally body env self with ⟨error | value,done⟩
    · rw [ran] at saved
      cases saved
    · rw [ran] at saved
      cases saved
      exact ⟨rfl,rfl⟩

/-- A save that fails stopped at its checks, or its transaction failed. -/
theorem saving_error (failed : saving display checked body env self = (.error message,after)) :
    checked = .error message ∧ after = self ∨
      checked = .ok () ∧ ∃ error, transactionally body env self = (.error error,after) := by
  cases checked with
  | error text =>
    cases failed
    exact .inl ⟨rfl,rfl⟩
  | ok value =>
    simp only [saving,reporting,Program.zoom,id_eq] at failed
    rcases ran : transactionally body env self with ⟨error | value,done⟩
    · rw [ran] at failed
      cases failed
      exact .inr ⟨rfl,error,rfl⟩
    · rw [ran] at failed
      cases failed

/-- What all other writers respect holds after a save that fails. -/
theorem upholds_saving {good : Tables → Prop} (respects : Respects env good) (inside : Inside env body)
    (failed : saving display checked body env self = (.error message,after)) : Upholds good self after := by
  rcases saving_error failed with ⟨-,rfl⟩ | ⟨-,error,ran⟩
  · exact id
  · have upholds : Upholds good self (transactionally body env self).2 :=
      upholds_transactionally respects inside fun done ok => by
        rw [ran] at ok
        cases ok
    rwa [ran] at upholds

theorem saving_noTrace (alone : ∀ n, env.others n = []) (inside : Inside env body)
    (rolls : ∀ n, env.rollbackFault n = none)
    (failed : saving display checked body env self = (.error message,after)) :
    NoTrace env self after ↔
      self.working = none ∧ ¬ (checked = .ok () ∧ CommitRefused env body self) := by
  rcases saving_error failed with ⟨rfl,rfl⟩ | ⟨rfl,error,ran⟩
  · constructor
    · exact fun trace => ⟨trace.closed,fun passed => (by cases passed.1)⟩
    · exact fun idle => noTrace_of_closed idle.1 rfl rfl idle.1
  · simpa using transactionally_noTrace alone inside (fun _ _ _ _ _ fault refused => (by simp [rolls] at refused)) ran

end

/-! ### The bodies -/

/-- A statement that succeeds under conditions the schema puts on it. -/
theorem leads_constrained {α : Type} {condition : Tables → Prop} [∀ tables, Decidable (condition tables)]
    {value : Tables → α} {write : Tables → Tables} : Leads env
      (execute fun tables => Tables.constrained (condition tables) (value tables,write tables)) write :=
  leads_execute fun _ _ _ ok => (Prod.mk.inj (Tables.constrained_ok.mp ok).2).2

theorem inside_writeConfig (config : Hub.ParentConfig) : Inside env (Hub.writeConfig config) := by
  have deletes : Inside env Hub.deleteConfig := by
    unfold Hub.deleteConfig
    repeat' first
      | apply inside_execute
      | refine inside_bind ?_ fun _ => ?_
  have action (action : Hub.ActionConfig) : Inside env (Hub.writeAction action) := by
    refine inside_bind (inside_execute _) fun _ => inside_bind (inside_forM fun _ => inside_execute _)
      fun _ => inside_bind (inside_onlyIf _ (inside_execute _)) fun _ => ?_
    exact inside_forM fun _ => inside_execute _
  have destination (destination : Hub.FamilyNotificationDestinationConfig) :
      Inside env (Hub.writeDestination destination) :=
    inside_bind (inside_execute _) fun _ => inside_pure ()
  exact inside_bind deletes fun _ => inside_bind (inside_forM fun _ => inside_execute _) fun _ =>
    inside_bind (inside_forM action) fun _ => inside_forM destination

theorem inside_writeAction (action : ActionRecord) : Inside env (writeAction action) := by
  have change (change : StateChangeRecord) : Inside env (writeStateChange action.actionId change) :=
    inside_bind (inside_failIf _ _) fun _ => inside_execute _
  refine inside_bind (inside_execute _) fun _ => inside_bind (inside_execute _) fun _ =>
    inside_bind (inside_forM change) fun _ => inside_bind (inside_execute _) fun _ =>
    inside_bind (inside_onlyIf _ (inside_execute _)) fun _ =>
    inside_bind (inside_execute _) fun _ => ?_
  exact inside_forM fun _ => inside_execute _

/-- A failed save leaves no trace exactly when no transaction was open before, and it did
not fail because its `COMMIT` was refused. -/
theorem failed_save_noTrace_iff (display : SqliteError → String) (env : Env) (self after : Connection)
    (message : String) (alone : ∀ n, env.others n = []) (rolls : ∀ n, env.rollbackFault n = none) :
    (∀ config, Hub.saveConfig display config env self = (.error message,after) →
      (NoTrace env self after ↔ self.working = none ∧ ¬ (Hub.validateConfig config = .ok () ∧
        CommitRefused env (Hub.writeConfig config) self))) ∧
    (∀ action, Control.saveAction display action env self = (.error message,after) →
      (NoTrace env self after ↔ self.working = none ∧ ¬ (Control.validateAction action = .ok () ∧
        CommitRefused env (writeAction action) self))) ∧
    ∀ action, Settings.saveAction display action env self = (.error message,after) →
      (NoTrace env self after ↔ self.working = none ∧ ¬ (Settings.validateAction action = .ok () ∧
        CommitRefused env (writeAction action) self)) :=
  ⟨fun config failed => saving_noTrace alone (inside_writeConfig config) rolls failed,
    fun action failed => saving_noTrace alone (inside_writeAction action) rolls failed,
    fun action failed => saving_noTrace alone (inside_writeAction action) rolls failed⟩

/-- Nothing but `COMMIT` fails. -/
def commitFails (fault : Fault SqliteError) : Env :=
  { Env.quiet with commitFault := fun _ => some fault }

def commonAction : ActionRecord where
  actionId := 1
  actionName := "dinner"
  targetType := "COMMON"
  targetFamilyId := none
  webMessage := ""
  enabled := true
  stateChanges := [{ stateType := "MEAL_NOTICE",stateValue := "ON" }]
  notificationEnabled := false
  notificationMessage := ""
  notificationTargets := []

theorem not_commitRefused_aborted (error : SqliteError) (body : Session Unit) (self : Connection) :
    ¬ CommitRefused (commitFails (.aborted error)) body self := by
  rintro ⟨_,_,_,-,-,refused⟩
  cases refused

/-- A home with one person and the action of this person. -/
def storedHome : Tables :=
  { Tables.empty with
    families := [{ familyId := 1,displayName := "hanako",enabled := true }]
    actions := [
      { actionId := 1,actionName := "help",targetType := "FAMILY",targetFamilyId := some 1
        webMessage := none,enabled := true }]
    stateChanges := [{ actionId := 1,stateType := "HELP_NOTICE",stateValue := "ON" }] }

/-- The configuration that is to take its place. -/
def newHome : Hub.ParentConfig where
  families := [{ familyId := 1,displayName := "hanako",enabled := true },
    { familyId := 2,displayName := "taro",enabled := true }]
  actions := [
    { actionId := 1,actionName := "dinner",targetType := .common,targetFamilyId := none
      webMessage := some "dinner",enabled := true
      stateChanges := [{ stateType := .mealNotice,stateValue := .on }]
      notificationEnabled := true,notificationMessage := some "dinner",notificationTargets := [1,2] }]
  familyNotificationDestinations := [
    { familyId := 2,notificationType := "mail",destination := "taro",enabled := true }]

/-- The engine rolls a `COMMIT` back that finds the disk full, after every table was cleared and
written again. -/
theorem failed_save_noTrace_iff_full :
    NoTrace (commitFails (.aborted .full)) (.opened storedHome)
      (Hub.saveConfig (fun _ => "full") newHome (commitFails (.aborted .full)) (.opened storedHome)).2 ∧
    NoTrace (commitFails (.aborted .full)) (.opened storedHome)
      (Settings.saveAction (fun _ => "full") commonAction (commitFails (.aborted .full))
        (.opened storedHome)).2 ∧
    NoTrace (commitFails (.aborted .full)) (.opened storedHome)
      (Control.saveAction (fun _ => "full") commonAction (commitFails (.aborted .full))
        (.opened storedHome)).2 := by
  have hub : (Hub.saveConfig (fun _ => "full") newHome (commitFails (.aborted .full))
      (.opened storedHome)).1 = .error "full" := by decide +kernel
  have settings : (Settings.saveAction (fun _ => "full") commonAction (commitFails (.aborted .full))
      (.opened storedHome)).1 = .error "SQLiteエラー: full" := by decide +kernel
  have control : (Control.saveAction (fun _ => "full") commonAction (commitFails (.aborted .full))
      (.opened storedHome)).1 = .error "SQLiteエラー: full" := by decide +kernel
  have trace (after : Connection) (message : String) := failed_save_noTrace_iff (fun _ => "full")
    (commitFails (.aborted .full)) (.opened storedHome) after message (fun _ => rfl) fun _ => rfl
  exact ⟨((trace _ _).1 newHome (Program.result_eq hub)).mpr ⟨rfl,fun failed =>
      not_commitRefused_aborted _ _ _ failed.2⟩,
    ((trace _ _).2.2 commonAction (Program.result_eq settings)).mpr ⟨rfl,fun failed =>
      not_commitRefused_aborted _ _ _ failed.2⟩,
    ((trace _ _).2.1 commonAction (Program.result_eq control)).mpr ⟨rfl,fun failed =>
      not_commitRefused_aborted _ _ _ failed.2⟩⟩

/-- While another connection holds a lock, `COMMIT` is refused: the transaction stays open,
and the next `BEGIN IMMEDIATE` fails. -/
def BlocksLaterSaves (save : Program Env Connection String Unit) : Prop :=
  let failed := save (commitFails (.refused .busy)) (.opened Tables.empty)
  failed.1 ≠ .ok () ∧ failed.2.working.isSome ∧
    (begin (commitFails (.refused .busy)) failed.2).1 = .error .error

theorem busy_commit_blocks_later_saves :
    BlocksLaterSaves (Hub.saveConfig (fun _ => "busy") {}) ∧
    BlocksLaterSaves (Settings.saveAction (fun _ => "busy") commonAction) ∧
    BlocksLaterSaves (Control.saveAction (fun _ => "busy") commonAction) := by
  unfold BlocksLaterSaves
  decide +kernel

end UchiPulse.Db
