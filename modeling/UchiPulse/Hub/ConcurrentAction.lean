import UchiPulse.Hub.Action
import UchiPulse.Hub.LoadedConfig

/-! An action executed while another connection replaces the configuration. The action's
target and its state changes are read by statements of their own, so that a commit may
fall between them. -/
namespace UchiPulse.Hub
open Common Db Sql

/-- The scope an action has in one version of the tables. -/
def scopeOf (actionId : ActionId) (tables : Tables) : Option ActionStateScope :=
  match optional rowToAction (tables.action actionId) with
  | .ok (some action) =>
    match action.targetType,action.targetFamilyId with
    | .family,some familyId => some (.family familyId)
    | .common,none => some .common
    | _,_ => none
  | _ => none

/-- The state changes of an action in one version of the tables. -/
def changesOf (actionId : ActionId) (tables : Tables) : Option (List ActionStateChangeRecord) :=
  ((tables.stateChangesOf actionId).mapM rowToStateChange).toOption

/-- Scope and state changes are those of the action in this version. -/
def PlanOf (actionId : ActionId) (plan : ValidatedAction) (tables : Tables) : Prop :=
  scopeOf actionId tables = some plan.scope ∧ changesOf actionId tables = some plan.stateChanges

/-- The statements up to the one that lists the state changes: the family of a target is
looked up in between. -/
def statements : Option ActionStateScope → Nat
  | some (.family _) => 3
  | _ => 2

/-- Some committed version has both the target the action has when it is read, and the
state changes it has when they are listed. -/
def OneConfig (env : Env) (connection : Connection) (actionId : ActionId) : Prop :=
  let target := scopeOf actionId (connection.tick env).committed
  let listed := connection.ticks env (statements target)
  ∃ version ∈ listed.versions,
    scopeOf actionId version = target ∧ changesOf actionId version = changesOf actionId listed.committed

namespace ActionEngine
variable {env : Env} {actionId : ActionId} {connection next : Connection} {engine : ActionEngine}

theorem database_ok {α : Type} {session : Session α} {value : α}
    (ok : database session env connection = (.ok value,next)) : session env connection = (.ok value,next) := by
  simp only [database,Program.zoom,id_eq] at ok
  rcases ran : session env connection with ⟨error | found,between⟩ <;> rw [ran] at ok <;> cases ok
  rfl

theorem view_idle {self : Connection} (idle : self.working = none) :
    (self.tick env).view = (self.tick env).committed ∧ (self.tick env).working = none := by
  have idle' : (self.tick env).working = none := tick_working.trans idle
  exact ⟨by simp [Connection.view,idle'],idle'⟩

/-- What a plan was read from. -/
theorem validateEvent_ok {plan : ValidatedAction} (idle : connection.working = none)
    (ok : validateEvent actionId env connection = (.ok plan,next)) :
    scopeOf actionId (connection.tick env).committed = some plan.scope ∧
      next = connection.ticks env (statements (some plan.scope)) ∧
      changesOf actionId next.committed = some plan.stateChanges := by
  unfold validateEvent at ok
  obtain ⟨found,first,read,rest⟩ := Program.bind_eq_ok.mp ok
  obtain ⟨rfl,target⟩ := query_ok (database_ok read)
  rw [(view_idle idle).1] at target
  have idle₁ : (connection.tick env).working = none := (view_idle idle).2
  cases found with
  | none => cases rest
  | some action =>
    obtain ⟨⟨⟩,between,enabled,rest⟩ := Program.bind_eq_ok.mp rest
    obtain ⟨-,rfl⟩ := Program.failIf_eq_ok.mp enabled
    obtain ⟨scope,second,targeted,rest⟩ := Program.bind_eq_ok.mp rest
    obtain ⟨stateChanges,third,listed,rest⟩ := Program.bind_eq_ok.mp rest
    cases rest
    obtain ⟨rfl,changes⟩ := query_ok (database_ok listed)
    have reached : scopeOf actionId (connection.tick env).committed =
        match action.targetType,action.targetFamilyId with
        | .family,some familyId => some (.family familyId)
        | .common,none => some .common
        | _,_ => none := by
      unfold scopeOf
      rw [target]
    cases type : action.targetType with
    | family =>
      cases family : action.targetFamilyId with
      | none =>
        simp only [validateTarget,type,family] at targeted
        cases targeted
      | some familyId =>
        simp only [validateTarget,type,family] at targeted
        obtain ⟨row,looked,read,rest⟩ := Program.bind_eq_ok.mp targeted
        obtain ⟨rfl,-⟩ := query_ok (database_ok read)
        obtain ⟨⟨⟩,same,known,rest⟩ := Program.bind_eq_ok.mp rest
        obtain ⟨-,rfl⟩ := Program.failIf_eq_ok.mp known
        cases rest
        rw [(view_idle (view_idle idle₁).2).1] at changes
        refine ⟨by simp [reached,type,family],rfl,?_⟩
        change Except.toOption _ = _
        rw [changes]
        rfl
    | common =>
      cases family : action.targetFamilyId with
      | some familyId =>
        simp only [validateTarget,type,family] at targeted
        cases targeted
      | none =>
        simp only [validateTarget,type,family] at targeted
        cases targeted
        rw [(view_idle idle₁).1] at changes
        refine ⟨by simp [reached,type,family],rfl,?_⟩
        change Except.toOption _ = _
        rw [changes]
        rfl

/-- An executed plan was read, and then applied as a whole. -/
theorem execute_ok {plan : ValidatedAction} {last : Connection × ActionEngine}
    (ok : execute actionId env (connection,engine) = (.ok plan,last)) :
    validateEvent actionId env connection = (.ok plan,last.1) ∧
      last.2.state = engine.state.applyChanges plan.scope plan.stateChanges := by
  obtain ⟨read,between,validated,rest⟩ := Program.bind_eq_ok.mp ok
  simp only [Program.zoom] at validated
  rcases ran : validateEvent actionId env connection with ⟨error | found,next⟩ <;> rw [ran] at validated <;>
    cases validated
  simp only [Program.bind_run,Program.get_run] at rest
  rcases applied : engine.state.applyBatch read.scope read.stateChanges with ⟨error | value,state⟩ <;>
    rw [applied] at rest <;> cases rest
  exact ⟨rfl,ActionStateManager.applyBatch_ok applied⟩

theorem execute_error {error : ActionError} {last : Connection × ActionEngine}
    (failed : execute actionId env (connection,engine) = (.error error,last)) : last.2 = engine := by
  rcases Program.bind_eq_error.mp failed with notRead | ⟨read,between,validated,rest⟩
  · simp only [Program.zoom] at notRead
    rcases ran : validateEvent actionId env connection with ⟨error | found,next⟩ <;> rw [ran] at notRead <;>
      cases notRead
    rfl
  · simp only [Program.zoom] at validated
    rcases ran : validateEvent actionId env connection with ⟨error | found,next⟩ <;> rw [ran] at validated <;>
      cases validated
    simp only [Program.bind_run,Program.get_run] at rest
    rcases applied : engine.state.applyBatch read.scope read.stateChanges with ⟨error | value,state⟩ <;>
      rw [applied] at rest <;> cases rest
    rfl

end ActionEngine

/-! ### When a plan stems from one configuration -/

theorem statements_pos (target : Option ActionStateScope) : ∃ n, statements target = n + 1 := by
  unfold statements
  split
  · exact ⟨2,rfl⟩
  · exact ⟨1,rfl⟩

/-- Commits that all keep the target, or all keep the state changes, do no harm. -/
theorem oneConfig_of_stable {env : Env} {connection : Connection} {actionId : ActionId}
    (idle : connection.working = none)
    (keeps : Stable env (scopeOf actionId) ∨ Stable env (changesOf actionId)) :
    OneConfig env connection actionId := by
  obtain ⟨n,count⟩ := statements_pos (scopeOf actionId (connection.tick env).committed)
  have idle' : (connection.tick env).working = none := tick_working.trans idle
  simp only [OneConfig,count]
  rcases keeps with target | changes
  · exact ⟨_,List.mem_cons_self,(unmoved_ticks target n (connection.tick env) idle').2,rfl⟩
  · exact ⟨_,versions_ticks n List.mem_cons_self,rfl,
      (unmoved_ticks changes n (connection.tick env) idle').2.symm⟩

/-- The scope and the state changes that were applied are those of one committed
configuration exactly when some version pairs the target read first with the changes
listed last, as it is when all commits in between keep the one or the other; and an action
that fails leaves the state alone. -/
theorem execute_one_config_iff (env : Env) (actionId : ActionId) (connection : Connection)
    (engine : ActionEngine) (idle : connection.working = none) :
    (∀ plan connection' engine',
      ActionEngine.execute actionId env (connection,engine) = (.ok plan,(connection',engine')) →
        engine'.state = engine.state.applyChanges plan.scope plan.stateChanges ∧
        ((∃ version ∈ connection'.versions, PlanOf actionId plan version) ↔
          OneConfig env connection actionId)) ∧
    (Stable env (scopeOf actionId) ∨ Stable env (changesOf actionId) → OneConfig env connection actionId) ∧
    ∀ error last, ActionEngine.execute actionId env (connection,engine) = (.error error,last) →
      last.2 = engine := by
  refine ⟨fun plan connection' engine' ok => ?_,oneConfig_of_stable idle,fun error last => ActionEngine.execute_error⟩
  obtain ⟨validated,applied⟩ := ActionEngine.execute_ok ok
  obtain ⟨target,rfl,changes⟩ := ActionEngine.validateEvent_ok idle validated
  refine ⟨applied,?_⟩
  simp only [OneConfig,PlanOf,target,changes]

/-- A configuration with one action. -/
def oneAction (targetType : TargetType) (targetFamilyId : Option FamilyId) (stateValue : StateValue) :
    ParentConfig where
  families := [{ familyId := 1,displayName := "A",enabled := true }]
  actions := [{
    actionId := 1,actionName := "dinner",targetType,targetFamilyId,webMessage := none,enabled := true
    stateChanges := [{ stateType := .mealNotice,stateValue }]
    notificationEnabled := false,notificationMessage := none,notificationTargets := [] }]

/-- The plan of an action on all, with the change of another configuration. -/
def commonOff : ValidatedAction where
  action := {
    actionId := 1,actionName := "dinner",targetType := .common,targetFamilyId := none,webMessage := none
    enabled := true }
  scope := .common
  stateChanges := [{ actionId := 1,stateType := .mealNotice,stateValue := .off }]

/-- Another connection saves a configuration once, in front of the second statement. -/
def savesInBetween (config : ParentConfig) : Env :=
  { Db.Env.quiet with others := fun n => if n = 1 then [written config] else [] }

/-- The same target with another change: the new configuration is the one. -/
theorem execute_one_config_iff_same_target :
    let connection : Connection := .opened (written (oneAction .common none .on) Tables.empty)
    let env := savesInBetween (oneAction .common none .off)
    ∃ plan last, ActionEngine.execute 1 env (connection,.new) = (.ok plan,last) ∧
      ∃ version ∈ last.1.versions, PlanOf 1 plan version := by
  intro connection env
  have ok : (ActionEngine.execute 1 env (connection,.new)).1 = .ok commonOff := by decide +kernel
  have one : OneConfig env connection 1 :=
    ⟨written (oneAction .common none .off) connection.committed,by decide +kernel,by decide +kernel,
      by decide +kernel⟩
  exact ⟨_,_,Program.result_eq ok,((execute_one_config_iff env 1 connection .new rfl).1 _ _ _
    (Program.result_eq ok)).2.mpr one⟩

/-- The old target with the new change: neither configuration has both. -/
theorem execute_mixes_configs :
    let connection : Connection := .opened (written (oneAction .common none .on) Tables.empty)
    let env := savesInBetween (oneAction .family (some 1) .off)
    let run := ActionEngine.execute 1 env (connection,.new)
    run.1 = .ok commonOff ∧ ∀ version ∈ run.2.1.versions, ¬ PlanOf 1 commonOff version := by
  unfold PlanOf
  decide +kernel

end UchiPulse.Hub
