import UchiPulse.Hub.AcceptedConfig
import UchiPulse.Management.Writers

/-! The configuration a hub reads out of its database is one that every hub takes back. -/
namespace UchiPulse.Management
open Common Db Sql Json Hub

/-! ### The stored texts -/

/-- The stored texts have passed the checks. -/
structure Texts (checks : Checks) (tables : Tables) : Prop where
  named : ∀ row ∈ tables.stateChanges, checks.known row
  addressed : ∀ row ∈ tables.destinations, checks.addressed row.notificationType row.destination

section
variable {checks : Checks} {tables next : Tables}

theorem Texts.mono (texts : Texts checks tables) (changes : next.stateChanges ⊆ tables.stateChanges)
    (destinations : next.destinations ⊆ tables.destinations) : Texts checks next where
  named row among := texts.named row (changes among)
  addressed row among := texts.addressed row (destinations among)

/-- Most statements write no such text. -/
theorem Texts.same (texts : Texts checks tables) (changes : next.stateChanges = tables.stateChanges)
    (destinations : next.destinations = tables.destinations) : Texts checks next :=
  texts.mono (changes ▸ List.Subset.refl _) (destinations ▸ List.Subset.refl _)

theorem Issued.keeps_texts {α : Type} {change : Tables → Except SqliteError (α × Tables)}
    (issued : Issued checks α change) : Keeps (Texts checks) change := by
  induction issued with
  | insertDevice row => exact keeps_constrained fun _ _ texts => texts.same rfl rfl
  | updateDevice row => exact keeps_always fun _ texts => texts.same rfl rfl
  | upsertDevice deviceId name deviceType now enabled => exact keeps_always fun _ texts => texts.same rfl rfl
  | deleteDevice deviceId => exact keeps_constrained fun _ _ texts => texts.same rfl rfl
  | insertFamily row => exact keeps_constrained fun _ _ texts => texts.same rfl rfl
  | updateFamily row => exact keeps_always fun _ texts => texts.same rfl rfl
  | upsertFamily row => exact keeps_always fun _ texts => texts.same rfl rfl
  | deleteFamily familyId =>
    exact keeps_constrained fun _ _ texts => texts.mono (List.Subset.refl _) (List.filter_subset_self _)
  | deleteFamilies =>
    exact keeps_constrained fun _ _ texts => texts.mono (List.Subset.refl _) (List.filter_subset_self _)
  | insertAction row => exact keeps_constrained fun _ _ texts => texts.same rfl rfl
  | updateAction row => exact keeps_constrained fun _ _ texts => texts.same rfl rfl
  | upsertAction row => exact keeps_constrained fun _ _ texts => texts.same rfl rfl
  | deleteAction actionId => exact keeps_always fun _ texts => texts.mono (List.filter_subset_self _) (List.Subset.refl _)
  | deleteActions => exact keeps_always fun _ texts => texts.mono (List.filter_subset_self _) (List.Subset.refl _)
  | insertStateChange row named =>
    exact keeps_constrained fun _ _ texts => ⟨forall_concat texts.named named,texts.addressed⟩
  | deleteStateChange actionId stateType =>
    exact keeps_always fun _ texts => texts.mono (List.filter_subset_self _) (List.Subset.refl _)
  | deleteStateChangesOf actionId =>
    exact keeps_always fun _ texts => texts.mono (List.filter_subset_self _) (List.Subset.refl _)
  | deleteStateChanges => exact keeps_always fun _ texts => texts.mono (List.nil_subset _) (List.Subset.refl _)
  | insertNotificationSetting row => exact keeps_constrained fun _ _ texts => texts.same rfl rfl
  | upsertNotificationSetting row => exact keeps_constrained fun _ _ texts => texts.same rfl rfl
  | deleteNotificationSettingsOf actionId => exact keeps_always fun _ texts => texts.same rfl rfl
  | deleteNotificationSettings => exact keeps_always fun _ texts => texts.same rfl rfl
  | insertNotificationTarget row => exact keeps_constrained fun _ _ texts => texts.same rfl rfl
  | deleteNotificationTarget row => exact keeps_always fun _ texts => texts.same rfl rfl
  | deleteNotificationTargetsOf actionId => exact keeps_always fun _ texts => texts.same rfl rfl
  | deleteNotificationTargets => exact keeps_always fun _ texts => texts.same rfl rfl
  | insertDestination familyId notificationType destination enabled addressed =>
    intro tables value next changed texts
    unfold Tables.insertDestination at changed
    split at changed
    · cases changed
    · cases (Tables.constrained_ok.mp changed).2
      exact ⟨texts.named,forall_concat texts.addressed addressed⟩
  | updateDestination row addressed =>
    refine keeps_constrained fun tables _ texts => ⟨texts.named,fun other among => ?_⟩
    rcases mem_replace among with ⟨old,listed,own,rfl⟩ | old
    · exact addressed
    · exact texts.addressed other old
  | deleteDestination id => exact keeps_always fun _ texts => texts.mono (List.Subset.refl _) (List.filter_subset_self _)
  | deleteDestinations => exact keeps_always fun _ texts => texts.mono (List.Subset.refl _) (List.nil_subset _)
  | insertEvent row =>
    intro tables value next changed texts
    unfold Tables.insertEvent at changed
    split at changed
    · cases changed
      exact texts
    · cases (Tables.constrained_ok.mp changed).2
      exact texts.same rfl rfl
  | single changed change issued ih => exact keeps_single changed ih

end

/-! ### The configuration in the tables -/

/-- What the hub can read and would accept. -/
structure Readable (tables : Tables) : Prop extends Integrity tables,Texts .hub tables

theorem Issued.keeps_readable {α : Type} {change : Tables → Except SqliteError (α × Tables)}
    (issued : Issued .hub α change) : Keeps Readable change := fun tables value next changed readable =>
  { issued.keeps tables value next changed readable.toIntegrity,
    issued.keeps_texts tables value next changed readable.toTexts with }

theorem empty_readable : Readable Tables.empty :=
  { empty_integrity with
    named := fun _ among => absurd among List.not_mem_nil
    addressed := fun _ among => absurd among List.not_mem_nil }

/-- An action is read as its row says. -/
structure ReadAs (row : ActionRow) (record : Hub.ActionRecord) : Prop where
  actionId : record.actionId = row.actionId
  targetType : targetTypeToStr record.targetType = row.targetType
  targetFamilyId : record.targetFamilyId = row.targetFamilyId

theorem readAs_rowToAction {row : ActionRow} {record : Hub.ActionRecord} (read : rowToAction row = .ok record) :
    ReadAs row record := by
  obtain ⟨targetType,typed,same⟩ := bind_ok.mp read
  cases same
  refine ⟨rfl,?_,rfl⟩
  unfold targetTypeFromStr at typed
  split at typed
  · next family =>
    cases typed
    exact family.symm
  · next common =>
    cases typed
    exact common.symm
  · cases typed

section
variable {tables : Tables} {record : Hub.ActionRecord} {action : ActionConfig}

theorem rowToAction_ok {row : ActionRow} (target : tables.TargetOk row) : ∃ record, rowToAction row = .ok record := by
  rcases target with ⟨family,-⟩ | ⟨common,-⟩
  · exact ⟨_,by rw [rowToAction,family]; rfl⟩
  · exact ⟨_,by rw [rowToAction,common]; rfl⟩

theorem mem_actionsById {row : ActionRow} : row ∈ tables.actionsById ↔ row ∈ tables.actions := by
  simp [Tables.actionsById,List.mem_insertionSort]

theorem mem_stateChangesOf {actionId : UInt32} {row : StateChangeRow} :
    row ∈ tables.stateChangesOf actionId ↔ row ∈ tables.stateChanges ∧ row.actionId = actionId := by
  simp [Tables.stateChangesOf,List.mem_insertionSort]

theorem mem_notificationTargetsOf {actionId : UInt32} {row : NotificationTargetRow} :
    row ∈ tables.notificationTargetsOf actionId ↔ row ∈ tables.notificationTargets ∧ row.actionId = actionId := by
  simp [Tables.notificationTargetsOf,List.mem_insertionSort]

theorem actionFrom_ok (readable : Readable tables) (record : Hub.ActionRecord) :
    ∃ action, actionFrom record tables = .ok action := by
  obtain ⟨changes,read⟩ := mapM_ok_iff.mpr fun row among =>
    readable.named row (mem_stateChangesOf.mp among).1
  exact ⟨_,by rw [actionFrom,read]; rfl⟩

/-- What an action has of its record and of the rows that hang on it. -/
structure Loads (tables : Tables) (record : Hub.ActionRecord) (action : ActionConfig) : Prop where
  actionId : action.actionId = record.actionId
  targetType : action.targetType = record.targetType
  targetFamilyId : action.targetFamilyId = record.targetFamilyId
  stateTypes : action.stateChanges.map (stateTypeToStr ·.stateType) =
    (tables.stateChangesOf record.actionId).map (·.stateType)
  notificationTargets : action.notificationTargets =
    (tables.notificationTargetsOf record.actionId).map (·.familyId)

theorem loads_actionFrom (read : actionFrom record tables = .ok action) : Loads tables record action := by
  obtain ⟨changes,found,same⟩ := bind_ok.mp read
  cases same
  refine ⟨rfl,rfl,rfl,?_,rfl⟩
  have names : changes.map (stateTypeToStr ·.stateType) =
      (tables.stateChangesOf record.actionId).map (·.stateType) := by
    refine mapM_map found fun row change converted => ?_
    obtain ⟨stateType,typed,rest⟩ := bind_ok.mp converted
    obtain ⟨stateValue,-,same⟩ := bind_ok.mp rest
    cases same
    exact stateTypeFromStr_ok typed
  simpa [Function.comp_def] using names

theorem stateTypesOf_nodup (schema : Schema tables) (actionId : UInt32) :
    ((tables.stateChangesOf actionId).map (·.stateType)).Nodup := by
  have keys : ((tables.stateChangesOf actionId).map fun row => (row.actionId,row.stateType)).Nodup := by
    have own : (tables.stateChanges.filter (·.actionId = actionId)).Sublist tables.stateChanges := List.filter_sublist
    exact (((List.perm_insertionSort _ _).map _).nodup_iff).mpr (schema.stateChanges.sublist (own.map _))
  have same : (tables.stateChangesOf actionId).map (fun row => (row.actionId,row.stateType)) =
      ((tables.stateChangesOf actionId).map (·.stateType)).map (actionId,·) := by
    rw [List.map_map]
    exact List.map_congr_left fun row among => congrArg (·,row.stateType) (mem_stateChangesOf.mp among).2
  rw [same] at keys
  exact keys.of_map _

theorem notificationTargetsOf_nodup (schema : Schema tables) (actionId : UInt32) :
    ((tables.notificationTargetsOf actionId).map (·.familyId)).Nodup := by
  have rows : (tables.notificationTargetsOf actionId).Nodup :=
    (List.perm_insertionSort _ _).nodup_iff.mpr (schema.notificationTargets.sublist List.filter_sublist)
  refine List.Nodup.map_on (fun a first b second same => ?_) rows
  have owner := (mem_notificationTargetsOf.mp first).2.trans (mem_notificationTargetsOf.mp second).2.symm
  obtain ⟨firstAction,firstFamily⟩ := a
  obtain ⟨secondAction,secondFamily⟩ := b
  exact congr (congrArg NotificationTargetRow.mk owner) same

theorem loads_normalised (loads : Loads tables record action) : normaliseAction action = action := by
  have changes : (action.stateChanges.map (stateTypeToStr ·.stateType)).Pairwise (· ≤ ·) := by
    rw [loads.stateTypes]
    exact List.pairwise_map.mpr (pairwise_insertionSort_key StateChangeRow.stateType _)
  have targets : action.notificationTargets.Pairwise (· ≤ ·) := by
    rw [loads.notificationTargets]
    exact List.pairwise_map.mpr (pairwise_insertionSort_key NotificationTargetRow.familyId _)
  simp only [normaliseAction]
  rw [(List.pairwise_map.mp changes).insertionSort_eq,targets.insertionSort_eq]

/-! The whole configuration -/

theorem familiesById_ids (tables : Tables) :
    (tables.familiesById.map familyConfig).map (·.familyId) = tables.familiesById.map (·.familyId) := by
  simp [Function.comp_def,familyConfig]

theorem mem_familiesById {familyId : UInt32} :
    familyId ∈ tables.familiesById.map (·.familyId) ↔ tables.hasFamily familyId := by
  simp [Tables.familiesById,Tables.hasFamily,List.mem_insertionSort]

theorem configFrom_ok (readable : Readable tables) : ∃ records actions, tables.actionsById.mapM rowToAction = .ok records ∧
    records.mapM (actionFrom · tables) = .ok actions ∧ configFrom tables = .ok {
      families := tables.familiesById.map familyConfig
      actions
      familyNotificationDestinations := ((tables.familiesById.map familyConfig).map fun family =>
        (tables.destinationsOf family.familyId).map destinationConfig).flatten } := by
  obtain ⟨records,read⟩ := mapM_ok_iff.mpr fun row among =>
    rowToAction_ok (readable.targets row (mem_actionsById.mp among))
  obtain ⟨actions,loaded⟩ := mapM_ok_iff.mpr fun record (_ : record ∈ records) => actionFrom_ok readable record
  refine ⟨records,actions,read,loaded,?_⟩
  unfold configFrom
  rw [show tables.actionsById.mapM rowToAction = .ok records from read]
  change records.mapM (actionFrom · tables) >>= _ = _
  rw [loaded]
  rfl

/-- Where the actions of a configuration come from. -/
structure Origin (tables : Tables) (action : ActionConfig) (row : ActionRow) (record : Hub.ActionRecord) : Prop where
  stored : row ∈ tables.actions
  readAs : ReadAs row record
  loads : Loads tables record action

theorem origin {records : List Hub.ActionRecord} {actions : List ActionConfig}
    (read : tables.actionsById.mapM rowToAction = .ok records)
    (loaded : records.mapM (actionFrom · tables) = .ok actions) :
    ∀ action ∈ actions, ∃ row record, Origin tables action row record := by
  intro action among
  obtain ⟨record,listed,loads⟩ := mapM_mem loaded action among
  obtain ⟨row,stored,converted⟩ := mapM_mem read record listed
  exact ⟨row,record,mem_actionsById.mp stored,readAs_rowToAction converted,loads_actionFrom loads⟩

theorem actions_ids {records : List Hub.ActionRecord} {actions : List ActionConfig}
    (read : tables.actionsById.mapM rowToAction = .ok records)
    (loaded : records.mapM (actionFrom · tables) = .ok actions) :
    actions.map (·.actionId) = tables.actionsById.map (·.actionId) :=
  (mapM_map loaded fun _ _ loads => (loads_actionFrom loads).actionId).trans
    (mapM_map read fun _ _ converted => (readAs_rowToAction converted).actionId)

theorem Origin.validateActionTarget {row : ActionRow} (origin : Origin tables action row record)
    (schema : Schema tables) :
    Hub.validateActionTarget (tables.familiesById.map (·.familyId)) action = .ok () := by
  obtain ⟨stored,⟨-,typed,targeted⟩,⟨-,targetType,targetFamilyId,-,-⟩⟩ := origin
  rw [← targetType] at typed
  rw [← targetFamilyId] at targeted
  rcases schema.targets row stored with ⟨family,familyId,named,known⟩ | ⟨common,untargeted⟩
  · rw [family] at typed
    rw [Option.mem_def.mp named] at targeted
    have kind : action.targetType = .family := by
      cases held : action.targetType with
      | family => rfl
      | common => rw [held] at typed; exact absurd typed (by decide)
    simp only [Hub.validateActionTarget,kind,targeted]
    exact failIf_ok.mpr (not_not.mpr (mem_familiesById.mpr known))
  · rw [common] at typed
    rw [untargeted] at targeted
    have kind : action.targetType = .common := by
      cases held : action.targetType with
      | common => rfl
      | family => rw [held] at typed; exact absurd typed (by decide)
    simp only [Hub.validateActionTarget,kind,targeted]

theorem Origin.stateTypes_nodup {row : ActionRow} (origin : Origin tables action row record) (schema : Schema tables) :
    (action.stateChanges.map (·.stateType)).Nodup := by
  have names : ((action.stateChanges.map (·.stateType)).map stateTypeToStr).Nodup := by
    rw [List.map_map]
    exact origin.loads.stateTypes ▸ stateTypesOf_nodup schema record.actionId
  exact names.of_map _

/-- What the hub would accept, in its normal form. -/
structure Restorable (config : ParentConfig) : Prop extends Accepted config where
  addressed : ∀ destination ∈ config.familyNotificationDestinations,
    Addressed destination.notificationType destination.destination
  distinct : DistinctTargets config
  normal : normalise config = config

theorem mem_destinationsOf {familyId : UInt32} {row : DestinationRow} :
    row ∈ tables.destinationsOf familyId ↔ row ∈ tables.destinations ∧ row.familyId = familyId := by
  simp [Tables.destinationsOf,List.mem_insertionSort]

theorem storedDestinations (readable : Readable tables) :
    ∀ destination ∈ ((tables.familiesById.map familyConfig).map fun family =>
      (tables.destinationsOf family.familyId).map destinationConfig).flatten, ∃ family ∈ tables.familiesById,
        destination.familyId = family.familyId ∧ Addressed destination.notificationType destination.destination := by
  intro destination among
  rw [List.map_map] at among
  obtain ⟨group,listed,among⟩ := List.mem_flatten.mp among
  obtain ⟨family,known,rfl⟩ := List.mem_map.mp listed
  obtain ⟨row,stored,rfl⟩ := List.mem_map.mp among
  obtain ⟨stored,own⟩ := mem_destinationsOf.mp stored
  exact ⟨family,known,own,readable.addressed row stored⟩

/-- Family by family, the destinations are in the order of their families. -/
theorem storedDestinations_ordered (tables : Tables) :
    ((tables.familiesById.map familyConfig).map fun family =>
      (tables.destinationsOf family.familyId).map destinationConfig).flatten.Pairwise
        fun a b => a.familyId ≤ b.familyId := by
  have own (familyId : UInt32) : ∀ destination ∈ (tables.destinationsOf familyId).map destinationConfig,
      destination.familyId = familyId := by
    intro destination among
    obtain ⟨row,stored,rfl⟩ := List.mem_map.mp among
    exact (mem_destinationsOf.mp stored).2
  refine List.pairwise_flatten.mpr ⟨fun group listed => ?_,?_⟩
  · obtain ⟨family,-,rfl⟩ := List.mem_map.mp listed
    refine List.pairwise_of_forall_mem_list fun a first b second => ?_
    rw [own family.familyId a first,own family.familyId b second]
    exact Std.le_refl _
  · rw [List.map_map]
    refine List.pairwise_map.mpr ((pairwise_insertionSort_key FamilyRow.familyId _).imp fun {a b} before c first d second => ?_)
    rw [own a.familyId c first,own b.familyId d second]
    exact before

theorem configFrom_restorable (readable : Readable tables) :
    ∃ config, configFrom tables = .ok config ∧ Restorable config := by
  obtain ⟨records,actions,read,loaded,found⟩ := configFrom_ok readable
  have origins := origin read loaded
  have ids := actions_ids read loaded
  have destinations := storedDestinations readable
  refine ⟨_,found,?_⟩
  refine { families := ?_, actions := ?_, destinations := ?_, targets := ?_, stateTypes := ?_, notificationTargets := ?_
           addressed := ?_, distinct := ?_, normal := ?_ }
  · rw [familiesById_ids]
    exact ((List.perm_insertionSort _ _).map _).nodup_iff.mpr readable.families
  · rw [ids]
    exact ((List.perm_insertionSort _ _).map _).nodup_iff.mpr readable.actions
  · intro destination among
    obtain ⟨family,known,same,-⟩ := destinations destination among
    rw [familiesById_ids,same]
    exact List.mem_map_of_mem known
  · intro action among
    obtain ⟨row,record,origin⟩ := origins action among
    rw [familiesById_ids]
    exact origin.validateActionTarget readable.toSchema
  · intro action among
    obtain ⟨row,record,origin⟩ := origins action among
    exact origin.stateTypes_nodup readable.toSchema
  · intro action among familyId targeted
    obtain ⟨row,record,origin⟩ := origins action among
    rw [origin.loads.notificationTargets] at targeted
    obtain ⟨target,stored,rfl⟩ := List.mem_map.mp targeted
    rw [familiesById_ids]
    exact mem_familiesById.mpr (readable.targetFamilies target (mem_notificationTargetsOf.mp stored).1)
  · intro destination among
    obtain ⟨-,-,-,addressed⟩ := destinations destination among
    exact addressed
  · intro action among
    obtain ⟨row,record,origin⟩ := origins action among
    rw [origin.loads.notificationTargets]
    exact notificationTargetsOf_nodup readable.toSchema record.actionId
  · have families : (tables.familiesById.map familyConfig).Pairwise fun a b => a.familyId ≤ b.familyId :=
      List.pairwise_map.mpr (pairwise_insertionSort_key FamilyRow.familyId _)
    have ordered : (actions.map (·.actionId)).Pairwise (· ≤ ·) := by
      rw [ids]
      exact List.pairwise_map.mpr (pairwise_insertionSort_key ActionRow.actionId _)
    have normal : actions.map normaliseAction = actions := by
      refine (List.map_congr_left fun action among => ?_).trans (List.map_id actions)
      obtain ⟨row,record,origin⟩ := origins action among
      exact loads_normalised origin.loads
    simp only [normalise]
    rw [families.insertionSort_eq,(List.pairwise_map.mp ordered).insertionSort_eq,normal,
      (storedDestinations_ordered tables).insertionSort_eq]

end

/-! ### Taking it back -/

theorem validateActions_of {familyIds : List FamilyId} {actionIds : List ActionId} {actions : List ActionConfig}
    (fresh : ∀ action ∈ actions, action.actionId ∉ actionIds) (apart : (actions.map (·.actionId)).Nodup)
    (each : ∀ action ∈ actions, validateActionTarget familyIds action = .ok () ∧
      (action.stateChanges.map (·.stateType)).Nodup ∧ ∀ familyId ∈ action.notificationTargets, familyId ∈ familyIds) :
    validateActions familyIds actionIds actions = .ok () := by
  induction actions generalizing actionIds with
  | nil => rfl
  | cons action actions ih =>
    obtain ⟨new,later⟩ := List.forall_mem_cons.mp fresh
    obtain ⟨⟨target,types,targets⟩,others⟩ := List.forall_mem_cons.mp each
    obtain ⟨first,apart⟩ := List.nodup_cons.mp apart
    have rest := @ih (actionIds ++ [action.actionId]) (fun other among known => ?_) apart others
    · refine bind_ok.mpr ⟨(),failIf_ok.mpr new,bind_ok.mpr ⟨(),target,bind_ok.mpr ⟨_,insertAll_ok.mpr
        ⟨rfl,types,fun _ _ => List.not_mem_nil⟩,bind_ok.mpr ⟨(),failIf_ok.mpr ?_,rest⟩⟩⟩⟩
      rintro ⟨familyId,targeted,unknown⟩
      exact unknown (targets familyId targeted)
    · rcases List.mem_append.mp known with seen | same
      · exact later other among seen
      · exact first (List.mem_map.mpr ⟨other,among,List.mem_singleton.mp same⟩)

theorem validateConfig_restorable {config : ParentConfig} (restorable : Restorable config) :
    validateConfig config = .ok () := by
  have unique {ids : List UInt32} (apart : ids.Nodup) (name : String) : uniqueIds ids name = .ok ids :=
    insertAll_ok.mpr ⟨rfl,apart,fun _ _ => List.not_mem_nil⟩
  refine bind_ok.mpr ⟨_,unique restorable.families "family_id",bind_ok.mpr ⟨_,unique restorable.actions "action_id",
    bind_ok.mpr ⟨(),?_,forM_ok.mpr fun destination among => ?_⟩⟩⟩
  · exact validateActions_of (fun _ _ => List.not_mem_nil) restorable.actions fun action among =>
      ⟨restorable.targets action among,restorable.stateTypes action among,restorable.notificationTargets action among⟩
  · exact then_ok.mpr ⟨failIf_ok.mpr (not_not.mpr (restorable.destinations destination among)),
      failIf_ok.mpr (restorable.addressed destination among)⟩

section
variable {env : Env} (quiet : Quiet env) (display : SqliteError → String) {config : ParentConfig}
include quiet

/-- Over any tables that have rowids left. -/
theorem restores (restorable : Restorable config) {self : Connection} (idle : self.working = none)
    (room : self.committed.destinationSeq + config.familyNotificationDestinations.length ≤ Tables.maxRowid) :
    ∃ next, saveConfig display config env self = (.ok (),next) ∧ (loadConfig display env next).1 = .ok config := by
  have passed := validateConfig_restorable restorable
  have faultless : Faultless env := ⟨quiet.fault,quiet.beginFault,quiet.commitFault⟩
  have kept : (self.tick env).committed = self.committed := by rw [tick_alone quiet.others]
  have ends : Ends env (writeConfig config) (self.tick env).committed (.ok ()) := by
    rcases (ends_writeConfig faultless restorable.toAccepted (self.tick env).committed).2 restorable.distinct
      with ends | ⟨over',-⟩
    · exact ends
    · rw [kept] at over'
      omega
  have ran := Program.result_eq (ends_transactionally faultless idle (Db.inside_writeConfig config) ends)
  have saved : (saveConfig display config env self).1 = .ok () := by
    simp only [saveConfig,passed,saving,reporting,Program.zoom,id_eq]
    rw [ran]
  obtain ⟨-,closed,committed⟩ := saveConfig_ok (Program.result_eq saved)
  refine ⟨_,Program.result_eq saved,?_⟩
  have view : (saveConfig display config env self).2.view = written config (self.tick env).committed := by
    simpa [Connection.view,closed] using committed
  obtain ⟨clock,loaded⟩ := loadConfig_written quiet display restorable.toValid _ _ view
  rw [loaded,restorable.normal]

end

/-- Whatever all programs do to a new database, as long as the control app writes states the hub
knows and the repository no blank destination: the hub can always read its configuration, and
any hub that is given it takes it and reads the same again. -/
theorem backups_restore {V : Type} {decoding : Decoding V} {skip : Reader Unit} {env : Env}
    (others : ByOperations decoding skip .hub env) {operations : List Operation}
    (checked : ∀ operation ∈ operations, operation.Checked .hub) (display : SqliteError → String) :
    ∀ version ∈ (Operation.runAll decoding skip env (.opened Tables.empty) operations).versions, ∃ config,
      (∀ (own : Env) (self : Connection), Quiet own → self.view = version →
        (loadConfig display own self).1 = .ok config) ∧
      ∀ (own : Env) (self : Connection), Quiet own → self.working = none →
        self.committed.destinationSeq + config.familyNotificationDestinations.length ≤ Tables.maxRowid →
        ∃ next, saveConfig display config own self = (.ok (),next) ∧ (loadConfig display own next).1 = .ok config := by
  have sound : Sound Readable (Operation.runAll decoding skip env (.opened Tables.empty) operations) :=
    sound_runAll others Issued.keeps_readable Checks.hub_allows checked empty_readable
  intro version among
  obtain ⟨config,found,restorable⟩ := configFrom_restorable (sound.versions version among)
  refine ⟨config,fun own self quiet view => ?_,fun own self quiet idle room => restores quiet display restorable idle room⟩
  obtain ⟨clock,ran⟩ := reads_readConfig quiet self
  rw [view,found] at ran
  simp only [loadConfig,reporting,Program.zoom,id_eq,ran]

/-- Two apps set up a home. -/
def homeOperations : List Operation := [
  .settings (.saveFamily { familyId := 2,displayName := "B",enabled := true }),
  .control (.saveFamily { familyId := 1,displayName := "A",enabled := true }),
  .settings (.saveAction {
    actionId := 7,actionName := "dinner",targetType := "FAMILY",targetFamilyId := some 2,webMessage := ""
    enabled := true,stateChanges := [{ stateType := "MEAL_NOTICE",stateValue := "ON" }]
    notificationEnabled := true,notificationMessage := "",notificationTargets := [2,1] }),
  .control (.saveNotificationDestination {
    id := none,familyId := 1,notificationType := "LINE",destination := "a",enabled := true })]

/-- The new database, set up. -/
def homeTables : Tables :=
  (Operation.runAll resetting (fun _ => none) Db.Env.quiet (.opened Tables.empty) homeOperations).committed

theorem backups_restore_home : ∃ config,
    (loadConfig (fun _ => "") Db.Env.quiet (.opened homeTables)).1 = .ok config ∧
    config.families.map (·.displayName) = ["A","B"] ∧ config.actions.map (·.notificationTargets) = [[1,2]] ∧
    ∃ next, saveConfig (fun _ => "") config Db.Env.quiet (.opened Tables.empty) = (.ok (),next) := by
  have others : ByOperations resetting (fun _ => none) .hub Db.Env.quiet := by
    intro n change among
    cases among
  have checked : ∀ operation ∈ homeOperations, operation.Checked .hub := by
    intro operation among
    simp only [homeOperations,List.mem_cons,List.not_mem_nil,or_false] at among
    rcases among with rfl | rfl | rfl | rfl <;> trivial
  obtain ⟨config,loads,restores⟩ := backups_restore others checked (fun _ => "") homeTables (List.mem_cons_self ..)
  have loaded := loads Db.Env.quiet (.opened homeTables) (Sql.Env.quiet_quiet _ _) (by simp [Connection.view,Connection.opened])
  have read : (loadConfig (fun _ => "") Db.Env.quiet (.opened homeTables)).1.map (fun config =>
      (config.families.map (·.displayName),config.actions.map (·.notificationTargets),
        config.familyNotificationDestinations.length)) = .ok (["A","B"],[[1,2]],1) := by decide +kernel
  rw [loaded] at read
  obtain ⟨names,rest⟩ := Prod.mk.inj (Except.ok.inj read)
  obtain ⟨targets,one⟩ := Prod.mk.inj rest
  refine ⟨config,loaded,names,targets,?_⟩
  obtain ⟨next,saved,-⟩ := restores Db.Env.quiet (.opened Tables.empty) (Sql.Env.quiet_quiet _ _) rfl (by
    rw [one]
    decide +kernel)
  exact ⟨next,saved⟩

end UchiPulse.Management
