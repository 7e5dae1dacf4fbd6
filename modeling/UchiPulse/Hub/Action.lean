import UchiPulse.Hub.Repository

/-! The action engine: it validates an action against the database, and applies the
action's state changes to the in-memory business state all at once. -/
namespace UchiPulse.Hub
open Common Db Sql

inductive ActionStateScope where
  | common
  | family (familyId : FamilyId)
deriving DecidableEq

structure ActionStateKey where
  scope : ActionStateScope
  stateType : StateType
deriving DecidableEq

inductive StateApplyError where
  | duplicateStateType (stateType : StateType)
deriving DecidableEq

structure ActionStateManager where
  values : ActionStateKey → Option StateValue

namespace ActionStateManager

/-- Nothing is known. -/
def empty : ActionStateManager where
  values _ := none

def get (self : ActionStateManager) (scope : ActionStateScope) (stateType : StateType) : Option StateValue :=
  self.values { scope,stateType }

/-- Set one key of a map. -/
def insert (values : ActionStateKey → Option StateValue) (key : ActionStateKey) (value : StateValue) :
    ActionStateKey → Option StateValue :=
  fun other => if other = key then some value else values other

/-- The loop over the changes, with the map staged and the types seen so far. -/
def stage (scope : ActionStateScope) : (ActionStateKey → Option StateValue) → List StateType →
    List ActionStateChangeRecord → Except StateApplyError (ActionStateKey → Option StateValue)
  | staged, _, [] => .ok staged
  | staged, seen, change :: changes =>
    if change.stateType ∈ seen then .error (.duplicateStateType change.stateType)
    else stage scope (insert staged { scope,stateType := change.stateType } change.stateValue)
      (seen ++ [change.stateType]) changes

/-- Every change is staged before the live map is replaced. -/
def applyBatch (self : ActionStateManager) (scope : ActionStateScope)
    (changes : List ActionStateChangeRecord) : Except StateApplyError Unit × ActionStateManager :=
  match stage scope self.values [] changes with
  | .error error => (.error error,self)
  | .ok staged => (.ok (),{ values := staged })

/-- One state change after the other. -/
def applyChanges (self : ActionStateManager) (scope : ActionStateScope)
    (changes : List ActionStateChangeRecord) : ActionStateManager where
  values := changes.foldl (fun values change =>
    insert values { scope,stateType := change.stateType } change.stateValue) self.values

/-- Only the keys of the changes are set. -/
theorem applyChanges_get_of_not (self : ActionStateManager) (changes : List ActionStateChangeRecord)
    {target scope : ActionStateScope} {stateType : StateType}
    (apart : ∀ change ∈ changes, target = scope → change.stateType ≠ stateType) :
    (self.applyChanges target changes).get scope stateType = self.get scope stateType := by
  induction changes generalizing self with
  | nil => rfl
  | cons change changes ih =>
    obtain ⟨own,later⟩ := List.forall_mem_cons.mp apart
    have rest := ih { values := insert self.values { scope := target,stateType := change.stateType } change.stateValue } later
    refine rest.trans (if_neg fun same => ?_)
    obtain ⟨rfl,rfl⟩ := ActionStateKey.mk.inj same
    exact own rfl rfl

theorem stage_nodup (scope : ActionStateScope) (values : ActionStateKey → Option StateValue)
    (seen : List StateType) (changes : List ActionStateChangeRecord)
    (fresh : ∀ change ∈ changes, change.stateType ∉ seen)
    (nodup : (changes.map (·.stateType)).Nodup) :
    stage scope values seen changes = .ok (changes.foldl (fun values change =>
      insert values { scope,stateType := change.stateType } change.stateValue) values) := by
  induction changes generalizing values seen with
  | nil => rfl
  | cons change changes ih =>
    obtain ⟨notSeen,later⟩ := List.forall_mem_cons.mp fresh
    simp only [List.map_cons,List.nodup_cons,List.mem_map,not_exists,not_and] at nodup
    simp only [stage,if_neg notSeen,List.foldl_cons]
    apply ih _ _ _ nodup.2
    intro other member among
    rcases List.mem_append.mp among with before | same
    · exact later other member before
    · exact nodup.1 other member (List.mem_singleton.mp same)

/-- Changes of different types are all applied. -/
theorem applyBatch_nodup (self : ActionStateManager) (scope : ActionStateScope)
    (changes : List ActionStateChangeRecord) (nodup : (changes.map (·.stateType)).Nodup) :
    self.applyBatch scope changes = (.ok (),self.applyChanges scope changes) := by
  simp only [applyBatch,stage_nodup scope self.values [] changes (by simp) nodup]
  rfl

theorem stage_ok {scope : ActionStateScope} {values staged : ActionStateKey → Option StateValue}
    {seen : List StateType} {changes : List ActionStateChangeRecord}
    (ok : stage scope values seen changes = .ok staged) :
    staged = changes.foldl (fun values change =>
      insert values { scope,stateType := change.stateType } change.stateValue) values := by
  induction changes generalizing values seen with
  | nil =>
    cases ok
    rfl
  | cons change changes ih =>
    simp only [stage] at ok
    split at ok
    · cases ok
    · exact ih ok

/-- A batch that is applied is applied as a whole. -/
theorem applyBatch_ok {self after : ActionStateManager} {scope : ActionStateScope}
    {changes : List ActionStateChangeRecord} (ok : self.applyBatch scope changes = (.ok (),after)) :
    after = self.applyChanges scope changes := by
  unfold applyBatch at ok
  cases staged : stage scope self.values [] changes with
  | error error => simp [staged] at ok
  | ok values =>
    simp only [staged,Prod.mk.injEq,true_and] at ok
    rw [← ok,stage_ok staged]
    rfl

end ActionStateManager

structure ValidatedAction where
  action : ActionRecord
  scope : ActionStateScope
  stateChanges : List ActionStateChangeRecord
deriving DecidableEq

inductive ActionError where
  | notFound (actionId : ActionId)
  | disabled (actionId : ActionId)
  | familyTargetMissing (actionId : ActionId)
  | commonTargetHasFamily (actionId : ActionId)
  | targetFamilyNotFound (actionId : ActionId) (familyId : FamilyId)
  | database (error : DatabaseError)
  | state (error : StateApplyError)
deriving DecidableEq

/-- The engine's database handle is a clone of its owner's, so its computations run over
that connection. -/
structure ActionEngine where
  state : ActionStateManager

namespace ActionEngine

def new : ActionEngine where
  state := .empty

/-- A computation on the database that fails with an action's error. -/
abbrev Validation (α : Type) := Program Env Connection ActionError α

def database {α : Type} (session : Session α) : Validation α :=
  Program.zoom id (fun connection _ => connection) .database session

def validateTarget (action : ActionRecord) : Validation ActionStateScope :=
  match action.targetType,action.targetFamilyId with
  | .family,some familyId => do
    let family ← database (getFamily familyId)
    Program.failIf (family = none) (.targetFamilyNotFound action.actionId familyId)
    return .family familyId
  | .family,none => Program.fail (.familyTargetMissing action.actionId)
  | .common,some _ => Program.fail (.commonTargetHasFamily action.actionId)
  | .common,none => return .common

/-- All checks made before an event is accepted. -/
def validateEvent (actionId : ActionId) : Validation ValidatedAction := do
  match ← database (getAction actionId) with
  | none => Program.fail (.notFound actionId)
  | some action =>
    Program.failIf (action.enabled = false) (.disabled actionId)
    let scope ← validateTarget action
    let stateChanges ← database (listActionStateChanges actionId)
    return { action,scope,stateChanges }

/-- The action is loaded again before its changes are applied. -/
def execute (actionId : ActionId) : Program Env (Connection × ActionEngine) ActionError ValidatedAction := do
  let plan ← Program.zoom Prod.fst (fun connection state => (connection,state.2)) id (validateEvent actionId)
  let (_,engine) ← Program.get
  match engine.state.applyBatch plan.scope plan.stateChanges with
  | (.error error,_) => Program.fail (.state error)
  | (.ok (),state) =>
    Program.modify fun (connection,_) => (connection,{ state })
    return plan

end ActionEngine

end UchiPulse.Hub
