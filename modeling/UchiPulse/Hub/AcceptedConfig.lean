import UchiPulse.Hub.LoadedConfig
import UchiPulse.Lib.Outcome

/-! What the checks of a configuration are worth to the schema. They rule out every violated
constraint but one: nothing looks for a notification target that is listed twice. -/
namespace UchiPulse.Hub
open Common Db Sql

/-! ### What the checks promise -/

structure Accepted (config : ParentConfig) : Prop extends Valid config where
  targets : ∀ action ∈ config.actions, validateActionTarget (config.families.map (·.familyId)) action = .ok ()
  stateTypes : ∀ action ∈ config.actions, (action.stateChanges.map (·.stateType)).Nodup
  notificationTargets : ∀ action ∈ config.actions, ∀ familyId ∈ action.notificationTargets,
    familyId ∈ config.families.map (·.familyId)

theorem validateActions_ok {familyIds : List FamilyId} {actionIds : List ActionId} {actions : List ActionConfig}
    (passed : validateActions familyIds actionIds actions = .ok ()) : ∀ action ∈ actions,
      validateActionTarget familyIds action = .ok () ∧ (action.stateChanges.map (·.stateType)).Nodup ∧
        ∀ familyId ∈ action.notificationTargets, familyId ∈ familyIds := by
  induction actions generalizing actionIds with
  | nil => exact fun action member => by cases member
  | cons action actions ih =>
    obtain ⟨⟨⟩,-,passed⟩ := bind_ok.mp passed
    obtain ⟨⟨⟩,target,passed⟩ := bind_ok.mp passed
    obtain ⟨types,inserted,passed⟩ := bind_ok.mp passed
    obtain ⟨⟨⟩,known,passed⟩ := bind_ok.mp passed
    refine List.forall_mem_cons.mpr ⟨⟨target,(insertAll_ok.mp inserted).2.1,fun familyId member => ?_⟩,ih passed⟩
    by_contra unknown
    exact failIf_ok.mp known ⟨familyId,member,unknown⟩

theorem accepted_of_validateConfig {config : ParentConfig} (passed : validateConfig config = .ok ()) :
    Accepted config := by
  have valid := valid_of_validateConfig passed
  obtain ⟨familyIds,families,passed⟩ := bind_ok.mp passed
  obtain ⟨actionIds,-,passed⟩ := bind_ok.mp passed
  obtain ⟨⟨⟩,actions,-⟩ := bind_ok.mp passed
  obtain ⟨rfl,-,-⟩ := insertAll_ok.mp families
  have each := validateActions_ok actions
  exact { valid with
    targets := fun action member => (each action member).1
    stateTypes := fun action member => (each action member).2.1
    notificationTargets := fun action member => (each action member).2.2 }

/-! ### Statement by statement -/

section
variable {env : Env} (faultless : Faultless env)
include faultless

theorem ends_always {α : Type} {change : Tables → Except SqliteError (α × Tables)} {tables next : Tables} {value : α}
    (changed : change tables = .ok (value,next)) : Ends env (execute change) tables (.ok value) := by
  have ends := ends_execute faultless tables change
  rwa [changed] at ends

theorem ends_constrained {α : Type} {condition : Tables → Prop} [DecidablePred condition]
    {result : Tables → α × Tables} {tables : Tables} (holds : condition tables) :
    Ends env (execute fun tables => Tables.constrained (condition tables) (result tables)) tables
      (.ok (result tables).1) :=
  ends_always faultless (if_pos holds)

theorem ends_violated {α : Type} {condition : Tables → Prop} [DecidablePred condition]
    {result : Tables → α × Tables} {tables : Tables} (violated : ¬ condition tables) :
    Ends env (execute fun tables => Tables.constrained (condition tables) (result tables)) tables
      (.error .constraint) := by
  have ends := ends_execute faultless tables fun tables =>
    Tables.constrained (condition tables) (result tables)
  rwa [Tables.constrained,if_neg violated] at ends

theorem ends_deleteConfig (tables : Tables) : Ends env deleteConfig tables (.ok ()) := by
  refine ends_bind (leads_always fun _ => rfl) (ends_always faultless rfl) ?_
  refine ends_bind (leads_always fun _ => rfl) (ends_always faultless rfl) ?_
  refine ends_bind (leads_always fun _ => rfl) (ends_always faultless rfl) ?_
  refine ends_bind (leads_always fun _ => rfl) (ends_always faultless rfl) ?_
  refine ends_bind (leads_always fun _ => rfl) (ends_always faultless rfl) ?_
  refine ends_constrained faultless ?_
  rintro ⟨row,member,-⟩
  cases member

theorem ends_families {families : List FamilyConfig} (distinct : (families.map (·.familyId)).Nodup) (tables : Tables)
    (none : tables.families = []) : Ends env (families.forM writeFamily) tables (.ok ()) := by
  refine ends_forM_ok addFamilies leads_writeFamily (by simp [addFamilies]) addFamilies_cons fun done family rest split => ?_
  refine ends_constrained faultless ?_
  rintro ⟨row,member,same⟩
  simp only [addFamilies,none,List.nil_append,List.mem_map] at member
  obtain ⟨earlier,listed,rfl⟩ := member
  rw [split,List.map_append,List.map_cons,List.nodup_append] at distinct
  exact distinct.2.2 earlier.familyId (List.mem_map_of_mem listed) family.familyId List.mem_cons_self same

omit faultless in
/-- An action none of whose rows is there yet, and which the checks accept. -/
structure Ready (action : ActionConfig) (tables : Tables) : Prop where
  fresh : ¬ tables.hasAction action.actionId
  target : tables.TargetOk (actionRow action)
  stateChanges : ∀ row ∈ tables.stateChanges, row.actionId ≠ action.actionId
  notificationSettings : ∀ row ∈ tables.notificationSettings, row.actionId ≠ action.actionId
  notificationTargets : ∀ row ∈ tables.notificationTargets, row.actionId ≠ action.actionId
  stateTypes : (action.stateChanges.map (·.stateType)).Nodup
  families : ∀ familyId ∈ action.notificationTargets, tables.hasFamily familyId

omit faultless in
theorem stateTypeToStr_injective : Function.Injective stateTypeToStr := fun a b same => by
  have back := congrArg stateTypeFromStr same
  rw [stateTypeFromStr_toStr,stateTypeFromStr_toStr] at back
  exact Except.ok.inj back

omit faultless in
theorem stateTypeToStr_length (stateType : StateType) : 0 < Tables.textLength (stateTypeToStr stateType) := by
  cases stateType <;> decide

omit faultless in
theorem stateValueToStr_length (stateValue : StateValue) : 0 < Tables.textLength (stateValueToStr stateValue) := by
  cases stateValue <;> decide

theorem ends_stateChanges {action : ActionConfig} {tables : Tables} (known : tables.hasAction action.actionId)
    (fresh : ∀ row ∈ tables.stateChanges, row.actionId ≠ action.actionId)
    (distinct : (action.stateChanges.map (·.stateType)).Nodup) :
    Ends env (action.stateChanges.forM fun change =>
      execute (Tables.insertStateChange (changeRow action.actionId change))) tables (.ok ()) := by
  refine ends_forM_ok (addChanges action.actionId) (leads_insertStateChange action.actionId) (by simp [addChanges])
    (by simp [addChanges]) fun done change rest split => ?_
  refine ends_constrained faultless ⟨stateTypeToStr_length _,stateValueToStr_length _,known,?_⟩
  rintro ⟨row,member,same,again⟩
  rcases List.mem_append.mp member with old | new
  · exact fresh row old same
  · obtain ⟨earlier,listed,rfl⟩ := List.mem_map.mp new
    rw [split,List.map_append,List.map_cons,List.nodup_append] at distinct
    exact distinct.2.2 earlier.stateType (List.mem_map_of_mem listed) change.stateType List.mem_cons_self
      (stateTypeToStr_injective again)

/-- The only check that is missing. -/
theorem ends_targets {action : ActionConfig} {tables : Tables} (known : tables.hasAction action.actionId)
    (fresh : ∀ row ∈ tables.notificationTargets, row.actionId ≠ action.actionId)
    (families : ∀ familyId ∈ action.notificationTargets, tables.hasFamily familyId) :
    Ends env (action.notificationTargets.forM fun familyId =>
        execute (Tables.insertNotificationTarget { actionId := action.actionId,familyId })) tables
      (if action.notificationTargets.Nodup then .ok () else .error .constraint) := by
  have passes {done : List FamilyId} {familyId : FamilyId} (new : familyId ∉ done) (family : tables.hasFamily familyId) :
      Ends env (execute (Tables.insertNotificationTarget { actionId := action.actionId,familyId }))
        (addTargets action.actionId done tables) (.ok ()) := by
    refine ends_constrained faultless ⟨known,family,fun member => ?_⟩
    rcases List.mem_append.mp member with old | listed
    · exact fresh _ old rfl
    · obtain ⟨earlier,there,same⟩ := List.mem_map.mp listed
      cases same
      exact new there
  have leads (familyId : FamilyId) :
      Leads env (execute (Tables.insertNotificationTarget { actionId := action.actionId,familyId }))
        (addTargets action.actionId [familyId]) := leads_insertTarget action.actionId familyId
  have none (tables : Tables) : addTargets action.actionId [] tables = tables := by simp [addTargets]
  have more (familyId : FamilyId) (familyIds : List FamilyId) (tables : Tables) :
      addTargets action.actionId familyIds (addTargets action.actionId [familyId] tables) =
        addTargets action.actionId (familyId :: familyIds) tables := by simp [addTargets]
  split
  next distinct =>
    refine ends_forM_ok (addTargets action.actionId) leads none more fun done familyId rest split => ?_
    rw [split] at distinct families
    refine passes (fun member => ?_) (families familyId (by simp))
    exact (List.nodup_append.mp distinct).2.2 familyId member familyId List.mem_cons_self rfl
  next repeats =>
    obtain ⟨front,familyId,back,split,distinct,again⟩ := exists_repeat repeats
    rw [split] at families ⊢
    refine ends_forM_error (addTargets action.actionId) leads none more (fun done familyId' rest split' => ?_) ?_
    · rw [split'] at distinct families
      refine passes (fun member => ?_) (families familyId' (by simp))
      exact (List.nodup_append.mp distinct).2.2 familyId' member familyId' List.mem_cons_self rfl
    · refine ends_violated faultless fun all => all.2.2 (List.mem_append_right _ ?_)
      exact List.mem_map_of_mem again

theorem ends_writeAction {action : ActionConfig} {tables : Tables} (ready : Ready action tables) :
    Ends env (writeAction action) tables
      (if action.notificationTargets.Nodup then .ok () else .error .constraint) := by
  have known (rows : List ActionRow) (others : Tables) (same : others.actions = rows ++ [actionRow action]) :
      others.hasAction action.actionId := ⟨actionRow action,by rw [same]; simp,rfl⟩
  refine ends_bind (leads_insertAction action) (ends_constrained faultless ⟨ready.fresh,ready.target⟩) ?_
  refine ends_bind (leads_stateChanges action.actionId action.stateChanges)
    (ends_stateChanges faultless (known tables.actions _ rfl) ready.stateChanges ready.stateTypes) ?_
  refine ends_bind (leads_setting action) (ends_onlyIf fun _ => ends_constrained faultless ⟨known tables.actions _ rfl,?_⟩) ?_
  · rintro ⟨row,member,same⟩
    exact ready.notificationSettings row member same
  · exact ends_targets faultless (known tables.actions _ rfl) ready.notificationTargets ready.families

/-! ### The whole configuration -/

omit faultless in
theorem targetOk_actionRow {config : ParentConfig} {action : ActionConfig} {tables : Tables}
    (target : validateActionTarget (config.families.map (·.familyId)) action = .ok ())
    (families : tables.families = config.families.map familyRow) : tables.TargetOk (actionRow action) := by
  simp only [Tables.TargetOk,actionRow,Tables.hasFamily,families]
  unfold validateActionTarget at target
  cases kind : action.targetType with
  | family =>
    cases chosen : action.targetFamilyId with
    | none =>
      rw [kind,chosen] at target
      cases target
    | some familyId =>
      rw [kind,chosen] at target
      have known := not_not.mp (failIf_ok.mp target)
      obtain ⟨family,member,same⟩ := List.mem_map.mp known
      exact .inl ⟨rfl,familyId,rfl,familyRow family,List.mem_map_of_mem member,same⟩
  | common =>
    cases chosen : action.targetFamilyId with
    | none => exact .inr ⟨rfl,rfl⟩
    | some familyId =>
      rw [kind,chosen] at target
      cases target

omit faultless in
theorem ready_of_accepted {config : ParentConfig} (accepted : Accepted config) {done rest : List ActionConfig}
    {action : ActionConfig} (split : config.actions = done ++ action :: rest) (tables : Tables) :
    Ready action (addActions done (addFamilies config.families (cleared tables))) := by
  have member : action ∈ config.actions := by rw [split]; simp
  have others (earlier : ActionConfig) (listed : earlier ∈ done) : earlier.actionId ≠ action.actionId := by
    have distinct := accepted.actions
    rw [split,List.map_append,List.map_cons,List.nodup_append] at distinct
    exact distinct.2.2 earlier.actionId (List.mem_map_of_mem listed) action.actionId List.mem_cons_self
  have families : (addActions done (addFamilies config.families (cleared tables))).families =
      config.families.map familyRow := rfl
  refine ⟨?_,targetOk_actionRow (accepted.targets action member) families,?_,?_,?_,accepted.stateTypes action member,?_⟩
  · rintro ⟨row,listed,same⟩
    obtain ⟨earlier,there,rfl⟩ := List.mem_map.mp listed
    exact others earlier there same
  · intro row listed
    obtain ⟨earlier,there,own⟩ := List.mem_flatMap.mp listed
    obtain ⟨change,-,rfl⟩ := List.mem_map.mp own
    exact others earlier there
  · intro row listed
    obtain ⟨earlier,there,own⟩ := List.mem_flatMap.mp listed
    unfold settingRows at own
    split at own
    · rw [List.mem_singleton.mp own]
      exact others earlier there
    · cases own
  · intro row listed
    obtain ⟨earlier,there,own⟩ := List.mem_flatMap.mp listed
    obtain ⟨familyId,-,rfl⟩ := List.mem_map.mp own
    exact others earlier there
  · intro familyId listed
    obtain ⟨family,there,same⟩ := List.mem_map.mp (accepted.notificationTargets action member familyId listed)
    exact ⟨familyRow family,by rw [families]; exact List.mem_map_of_mem there,same⟩

/-- Every action lists each of its notification targets once. -/
def DistinctTargets (config : ParentConfig) : Prop :=
  ∀ action ∈ config.actions, action.notificationTargets.Nodup

theorem ends_actions {config : ParentConfig} (accepted : Accepted config) (tables : Tables) :
    (DistinctTargets config → Ends env (config.actions.forM writeAction)
      (addFamilies config.families (cleared tables)) (.ok ())) ∧
    (¬ DistinctTargets config → Ends env (config.actions.forM writeAction)
      (addFamilies config.families (cleared tables)) (.error .constraint)) := by
  have writes {done rest : List ActionConfig} {action : ActionConfig} (split : config.actions = done ++ action :: rest) :=
    ends_writeAction faultless (ready_of_accepted accepted split tables)
  have none (tables : Tables) : addActions [] tables = tables := by simp [addActions]
  constructor
  · intro distinct
    refine ends_forM_ok addActions leads_writeAction none addActions_cons fun done action rest split => ?_
    have ends := writes split
    rwa [if_pos (distinct action (by rw [split]; simp))] at ends
  · intro repeats
    obtain ⟨action,found⟩ : ∃ action, config.actions.find? (fun action => ¬ action.notificationTargets.Nodup) =
        some action := by
      rw [← Option.isSome_iff_exists,List.find?_isSome]
      unfold DistinctTargets at repeats
      push Not at repeats
      obtain ⟨action,member,again⟩ := repeats
      exact ⟨action,member,decide_eq_true again⟩
    obtain ⟨again,front,back,split,before⟩ := List.find?_eq_some_iff_append.mp found
    have ends := writes split
    rw [if_neg (of_decide_eq_true again)] at ends
    rw [split]
    refine ends_forM_error addActions leads_writeAction none addActions_cons (fun done action' rest split' => ?_) ends
    have passed := before action' (by rw [split']; simp)
    rw [Bool.not_eq_true',decide_eq_false_iff_not,not_not] at passed
    have there : config.actions = done ++ action' :: (rest ++ action :: back) := by rw [split,split']; simp
    have ends := writes there
    rwa [if_pos passed] at ends

/-- Destinations only fail when the rowids have run out. -/
theorem ends_destinations {destinations : List FamilyNotificationDestinationConfig} {tables : Tables}
    (known : ∀ destination ∈ destinations, tables.hasFamily destination.familyId) :
    Ends env (destinations.forM writeDestination) tables (.ok ()) ∨
      Tables.maxRowid < tables.destinationSeq + destinations.length ∧
        Ends env (destinations.forM writeDestination) tables (.error .full) := by
  induction destinations generalizing tables with
  | nil => exact .inl (ends_pure ())
  | cons destination destinations ih =>
    obtain ⟨family,others⟩ := List.forall_mem_cons.mp known
    by_cases full : tables.destinationSeq = Tables.maxRowid
    · refine .inr ⟨by rw [full,List.length_cons]; omega,ends_bind_error (ends_bind_error ?_)⟩
      have ends := ends_execute faultless tables (Tables.insertDestination destination.familyId
        destination.notificationType destination.destination destination.enabled)
      rwa [Tables.insertDestination,if_pos full] at ends
    · have written : Ends env (writeDestination destination) tables (.ok ()) := by
        have ends := ends_execute faultless tables (Tables.insertDestination destination.familyId
          destination.notificationType destination.destination destination.enabled)
        rw [Tables.insertDestination,if_neg full,Tables.constrained,if_pos family] at ends
        intro self working
        have ran := Program.result_eq (ends self working)
        rw [writeDestination,Program.bind_run,ran]
        rfl
      have leads : Leads env (writeDestination destination) (addDestinations [destination]) :=
        leads_writeDestination destination
      have after : ∀ destination' ∈ destinations,
          (addDestinations [destination] tables).hasFamily destination'.familyId := others
      rcases ih after with ends | ⟨over',ends⟩
      · exact .inl (ends_bind leads written ends)
      · refine .inr ⟨?_,ends_bind leads written ends⟩
        simp only [addDestinations,List.length_cons,List.length_nil] at over' ⊢
        omega

/-- How the body of a save ends. -/
theorem ends_writeConfig {config : ParentConfig} (accepted : Accepted config) (tables : Tables) :
    (¬ DistinctTargets config → Ends env (writeConfig config) tables (.error .constraint)) ∧
    (DistinctTargets config → Ends env (writeConfig config) tables (.ok ()) ∨
      Tables.maxRowid < tables.destinationSeq + config.familyNotificationDestinations.length ∧
        Ends env (writeConfig config) tables (.error .full)) := by
  have deleted := ends_deleteConfig faultless tables
  have families := ends_families faultless accepted.families (cleared tables) rfl
  have actions := ends_actions faultless accepted tables
  constructor
  · intro repeats
    exact ends_bind leads_deleteConfig deleted (ends_bind (leads_families config.families) families
      (ends_bind_error (actions.2 repeats)))
  · intro distinct
    have known : ∀ destination ∈ config.familyNotificationDestinations,
        (addActions config.actions (addFamilies config.families (cleared tables))).hasFamily destination.familyId := by
      intro destination member
      obtain ⟨family,listed,same⟩ := List.mem_map.mp (accepted.destinations destination member)
      exact ⟨familyRow family,List.mem_map_of_mem listed,same⟩
    rcases ends_destinations faultless known with ends | ⟨over',ends⟩
    · exact .inl (ends_bind leads_deleteConfig deleted (ends_bind (leads_families config.families) families
        (ends_bind (leads_actions config.actions) (actions.1 distinct) ends)))
    · exact .inr ⟨over',ends_bind leads_deleteConfig deleted (ends_bind (leads_families config.families) families
        (ends_bind (leads_actions config.actions) (actions.1 distinct) ends))⟩

end

/-- A configuration that the checks accept violates no constraint exactly when every action
lists each of its notification targets once. Only then a save succeeds while the store does not
fail; otherwise it always fails. -/
theorem accepted_config_sound_iff {config : ParentConfig} (passed : validateConfig config = .ok ()) {env : Env}
    (faultless : Faultless env) (display : SqliteError → String) {self : Connection} (idle : self.working = none) :
    (∀ tables within, within.working = some tables →
      ((writeConfig config env within).1 ≠ .error .constraint ↔ DistinctTargets config)) ∧
    (DistinctTargets config →
      (self.tick env).committed.destinationSeq + config.familyNotificationDestinations.length ≤ Tables.maxRowid →
      (saveConfig display config env self).1 = .ok ()) ∧
    (¬ DistinctTargets config → (saveConfig display config env self).1 = .error (display .constraint)) := by
  have accepted := accepted_of_validateConfig passed
  have saved {outcome : Except SqliteError Unit} (ends : Ends env (writeConfig config) (self.tick env).committed outcome) :
      (saveConfig display config env self).1 = outcome.mapError display := by
    have ran := Program.result_eq (ends_transactionally faultless idle (Db.inside_writeConfig config) ends)
    simp only [saveConfig,passed,saving,reporting,Program.zoom,id_eq]
    rw [ran]
    cases outcome <;> rfl
  refine ⟨fun tables within working => ?_,fun distinct room => ?_,fun repeats => ?_⟩
  · obtain ⟨fails,passes⟩ := ends_writeConfig faultless accepted tables
    constructor
    · intro sound
      by_contra repeats
      exact sound (fails repeats within working)
    · intro distinct
      rcases passes distinct with ends | ⟨-,ends⟩
      · rw [ends within working]
        exact fun failed => by cases failed
      · rw [ends within working]
        exact fun failed => by cases failed
  · rcases (ends_writeConfig faultless accepted _).2 distinct with ends | ⟨over',-⟩
    · exact saved ends
    · omega
  · exact saved ((ends_writeConfig faultless accepted _).1 repeats)

/-- One family, and one action that notifies it so often. -/
def notifying (familyIds : List FamilyId) : ParentConfig where
  families := [{ familyId := 1,displayName := "home",enabled := true }]
  actions := [{
    actionId := 1,actionName := "dinner",targetType := .common,targetFamilyId := none,webMessage := none
    enabled := true,stateChanges := [],notificationEnabled := true,notificationMessage := none
    notificationTargets := familyIds }]
  familyNotificationDestinations := []

theorem accepted_config_sound_iff_once :
    (saveConfig (fun _ => "") (notifying [1]) Db.Env.quiet (.opened Tables.empty)).1 = .ok () :=
  (accepted_config_sound_iff (by decide +kernel) (faultless_quiet _ _) (fun _ => "") rfl).2.1 (by
    intro action member
    rw [List.mem_singleton.mp member]
    decide) (by decide +kernel)

/-- The target that is listed twice passes the checks and violates a primary key. -/
theorem repeated_target_violates_key :
    ¬ ∀ config, validateConfig config = .ok () →
      (writeConfig config Db.Env.quiet { Connection.opened Tables.empty with working := some Tables.empty }).1 ≠
        .error .constraint :=
  fun sound => sound (notifying [1,1]) (by decide +kernel) (by decide +kernel)

end UchiPulse.Hub
