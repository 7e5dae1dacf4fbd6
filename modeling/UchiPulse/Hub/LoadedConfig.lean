import UchiPulse.Hub.Endpoint
import UchiPulse.Hub.SavedConfig

/-! What a load finds after a save: the saved configuration in its normal form, with
everything sorted by its key and nothing else changed. -/
namespace UchiPulse.Hub
open Common Db Sql

/-! ### The normal form -/

def normaliseAction (action : ActionConfig) : ActionConfig :=
  { action with
    stateChanges := action.stateChanges.insertionSort fun a b =>
      stateTypeToStr a.stateType ≤ stateTypeToStr b.stateType
    notificationTargets := action.notificationTargets.insertionSort fun a b => a ≤ b }

/-- Destinations of one family stay in their order. -/
def normalise (config : ParentConfig) : ParentConfig where
  families := config.families.insertionSort fun a b => a.familyId ≤ b.familyId
  actions := (config.actions.insertionSort fun a b => a.actionId ≤ b.actionId).map normaliseAction
  familyNotificationDestinations :=
    config.familyNotificationDestinations.insertionSort fun a b => a.familyId ≤ b.familyId

theorem normaliseAction_normaliseAction (action : ActionConfig) :
    normaliseAction (normaliseAction action) = normaliseAction action := by
  simp only [normaliseAction]
  rw [insertionSort_insertionSort_key fun change : StateChangeConfig => stateTypeToStr change.stateType,
    insertionSort_insertionSort_key fun familyId : FamilyId => familyId]

theorem normalise_normalise (config : ParentConfig) : normalise (normalise config) = normalise config := by
  have actions : ((normalise config).actions.insertionSort fun a b => a.actionId ≤ b.actionId) =
      (normalise config).actions := by
    simp only [normalise]
    rw [insertionSort_map_key ActionConfig.actionId ActionConfig.actionId (f := normaliseAction) fun _ => rfl,
      insertionSort_insertionSort_key ActionConfig.actionId]
  simp only [normalise] at actions ⊢
  rw [insertionSort_insertionSort_key FamilyConfig.familyId,
    insertionSort_insertionSort_key FamilyNotificationDestinationConfig.familyId,actions,List.map_map]
  simp only [Function.comp_def,normaliseAction_normaliseAction]

/-! ### What a valid configuration promises -/

structure Valid (config : ParentConfig) : Prop where
  families : (config.families.map (·.familyId)).Nodup
  actions : (config.actions.map (·.actionId)).Nodup
  destinations : ∀ destination ∈ config.familyNotificationDestinations,
    destination.familyId ∈ config.families.map (·.familyId)

theorem valid_of_validateConfig {config : ParentConfig} (passed : validateConfig config = .ok ()) :
    Valid config := by
  obtain ⟨familyIds,families,passed⟩ := bind_ok.mp passed
  obtain ⟨actionIds,actions,passed⟩ := bind_ok.mp passed
  obtain ⟨⟨⟩,-,passed⟩ := bind_ok.mp passed
  obtain ⟨rfl,families,-⟩ := insertAll_ok.mp families
  obtain ⟨rfl,actions,-⟩ := insertAll_ok.mp actions
  refine ⟨families,actions,fun destination member => ?_⟩
  obtain ⟨⟨⟩,known,-⟩ := bind_ok.mp (forM_ok.mp passed destination member)
  simpa using failIf_ok.mp known

/-! ### Loading -/

section
variable {config : ParentConfig} {tables : Tables} {action : ActionConfig}

def recordOf (action : ActionConfig) : ActionRecord :=
  { action with }

theorem rowToAction_actionRow (action : ActionConfig) : rowToAction (actionRow action) = .ok (recordOf action) := by
  simp only [rowToAction,actionRow,targetTypeFromStr_toStr]
  rfl

theorem rowToStateChange_changeRow (actionId : ActionId) (change : StateChangeConfig) :
    rowToStateChange (changeRow actionId change) =
      .ok { actionId,stateType := change.stateType,stateValue := change.stateValue } := by
  simp only [rowToStateChange,changeRow,stateTypeFromStr_toStr,stateValueFromStr_toStr]
  rfl

theorem written_stateChangesOf (tables : Tables) (valid : Valid config) (member : action ∈ config.actions) :
    (written config tables).stateChangesOf action.actionId =
      (normaliseAction action).stateChanges.map (changeRow action.actionId) := by
  have own : (config.actions.flatMap changeRows).filter (·.actionId = action.actionId) = changeRows action :=
    filter_flatMap_of_nodup (fun item row rowMember => by
      obtain ⟨change,-,rfl⟩ := List.mem_map.mp rowMember
      rfl) valid.actions member
  simp only [Tables.stateChangesOf,written,own,changeRows,normaliseAction]
  exact insertionSort_map_key (fun change : StateChangeConfig => stateTypeToStr change.stateType)
    StateChangeRow.stateType
    (fun _ => rfl) _

theorem written_notificationTargetsOf (tables : Tables) (valid : Valid config) (member : action ∈ config.actions) :
    (written config tables).notificationTargetsOf action.actionId =
      (normaliseAction action).notificationTargets.map fun familyId =>
        { actionId := action.actionId,familyId } := by
  have own : (config.actions.flatMap targetRows).filter (·.actionId = action.actionId) = targetRows action :=
    filter_flatMap_of_nodup (fun item row rowMember => by
      obtain ⟨familyId,-,rfl⟩ := List.mem_map.mp rowMember
      rfl) valid.actions member
  simp only [Tables.notificationTargetsOf,written,own,targetRows,normaliseAction]
  exact insertionSort_map_key (fun familyId => familyId) NotificationTargetRow.familyId (fun _ => rfl) _

theorem written_notificationSetting (tables : Tables) (valid : Valid config) (member : action ∈ config.actions) :
    (written config tables).notificationSetting action.actionId = (settingRows action).head? := by
  have own : (config.actions.flatMap settingRows).filter (·.actionId = action.actionId) =
      settingRows action := filter_flatMap_of_nodup (fun item row rowMember => by
    unfold settingRows at rowMember
    split at rowMember
    · rw [List.mem_singleton.mp rowMember]
    · cases rowMember) valid.actions member
  rw [Tables.notificationSetting,← own,List.head?_filter]
  rfl

theorem settingRows_enabled (action : ActionConfig) :
    (settingRows action).head?.any (·.notificationEnabled) = action.notificationEnabled := by
  unfold settingRows
  split
  · rfl
  next off => simp_all

theorem settingRows_message (action : ActionConfig) :
    (settingRows action).head?.bind (·.notificationMessage) = action.notificationMessage := by
  unfold settingRows
  split
  · rfl
  next off =>
    simp only [Bool.or_eq_true,not_or,Bool.not_eq_true,Option.isSome_eq_false_iff,Option.isNone_iff_eq_none] at off
    simp [off.2]

/-! ### The families and their destinations -/

def destinationConfig (row : DestinationRow) : FamilyNotificationDestinationConfig where
  familyId := row.familyId
  notificationType := row.notificationType
  destination := row.destination
  enabled := row.enabled

theorem destinationRows_map (seq : Nat) (destinations : List FamilyNotificationDestinationConfig) :
    (destinationRows seq destinations).map destinationConfig = destinations := by
  induction destinations generalizing seq with
  | nil => rfl
  | cons destination destinations ih => rw [destinationRows,List.map_cons,ih]; rfl

theorem destinationRows_after (seq : Nat) (destinations : List FamilyNotificationDestinationConfig) :
    ∀ row ∈ destinationRows seq destinations, seq < row.id := by
  induction destinations generalizing seq with
  | nil => simp [destinationRows]
  | cons destination destinations ih =>
    refine List.forall_mem_cons.mpr ⟨Nat.lt_succ_self seq,fun row member => ?_⟩
    exact Nat.lt_of_succ_lt (ih (seq + 1) row member)

theorem destinationRows_ordered (seq : Nat) (destinations : List FamilyNotificationDestinationConfig) :
    (destinationRows seq destinations).Pairwise fun a b => a.id ≤ b.id := by
  induction destinations generalizing seq with
  | nil => exact .nil
  | cons destination destinations ih =>
    exact .cons (fun row member => (destinationRows_after (seq + 1) destinations row member).le)
      (ih (seq + 1))

/-- The destinations of one family are found in their order. -/
theorem written_destinationsOf (config : ParentConfig) (tables : Tables) (familyId : FamilyId) :
    ((written config tables).destinationsOf familyId).map destinationConfig =
      config.familyNotificationDestinations.filter (·.familyId = familyId) := by
  have ordered := (destinationRows_ordered tables.destinationSeq
    config.familyNotificationDestinations).filter (·.familyId = familyId)
  rw [Tables.destinationsOf,written,ordered.insertionSort_eq]
  conv_rhs => rw [← destinationRows_map tables.destinationSeq config.familyNotificationDestinations,
    List.filter_map]
  rfl

theorem written_familiesById (config : ParentConfig) (tables : Tables) :
    (written config tables).familiesById = (normalise config).families.map familyRow :=
  insertionSort_map_key FamilyConfig.familyId FamilyRow.familyId (fun _ => rfl) _

theorem written_actionsById (config : ParentConfig) (tables : Tables) :
    (written config tables).actionsById =
      (config.actions.insertionSort fun a b => a.actionId ≤ b.actionId).map actionRow :=
  insertionSort_map_key ActionConfig.actionId ActionRow.actionId (fun _ => rfl) _

/-- Grouped by the families in their order, the destinations are sorted by family. -/
theorem destinations_grouped (valid : Valid config) :
    ((normalise config).families.map fun family =>
      config.familyNotificationDestinations.filter (·.familyId = family.familyId)).flatten =
        (normalise config).familyNotificationDestinations := by
  have ascending := ascending_insertionSort_key FamilyConfig.familyId config.families valid.families
  have grouped := flatMap_filter_eq_insertionSort FamilyNotificationDestinationConfig.familyId _ ascending
    config.familyNotificationDestinations fun destination member => by
      obtain ⟨family,known,same⟩ := List.mem_map.mp (valid.destinations destination member)
      exact List.mem_map.mpr ⟨family,(List.mem_insertionSort _).mpr known,same⟩
  rw [← List.flatMap_def,← show _ = (normalise config).familyNotificationDestinations from grouped,
    List.flatMap_map]
  rfl

/-! ### The whole load -/

/-- What `load_action` makes of the tables. -/
def actionFrom (record : ActionRecord) (tables : Tables) : Except SqliteError ActionConfig :=
  (tables.stateChangesOf record.actionId).mapM rowToStateChange >>= fun changes =>
    .ok {
      actionId := record.actionId,actionName := record.actionName,targetType := record.targetType
      targetFamilyId := record.targetFamilyId,webMessage := record.webMessage,enabled := record.enabled
      stateChanges := changes.map fun change =>
        { stateType := change.stateType,stateValue := change.stateValue }
      notificationEnabled := (tables.notificationSetting record.actionId).any (·.notificationEnabled)
      notificationMessage := (tables.notificationSetting record.actionId).bind (·.notificationMessage)
      notificationTargets := (tables.notificationTargetsOf record.actionId).map (·.familyId) }

def familyConfig (row : FamilyRow) : FamilyConfig :=
  { familyId := row.familyId,displayName := row.displayName,enabled := row.enabled }

/-- What `load_config` makes of the tables. -/
def configFrom (tables : Tables) : Except SqliteError ParentConfig :=
  tables.actionsById.mapM rowToAction >>= fun records => records.mapM (actionFrom · tables) >>= fun actions =>
    .ok {
      families := tables.familiesById.map familyConfig
      actions
      familyNotificationDestinations := ((tables.familiesById.map familyConfig).map fun family =>
        (tables.destinationsOf family.familyId).map destinationConfig).flatten }

theorem actionFrom_written (valid : Valid config) (member : action ∈ config.actions) :
    actionFrom (recordOf action) (written config tables) = .ok (normaliseAction action) := by
  have changes := written_stateChangesOf tables valid member
  have targets := written_notificationTargetsOf tables valid member
  have setting := written_notificationSetting tables valid member
  have converted : ((normaliseAction action).stateChanges.map (changeRow action.actionId)).mapM
      rowToStateChange = .ok ((normaliseAction action).stateChanges.map fun change =>
        { actionId := action.actionId,stateType := change.stateType,stateValue := change.stateValue }) := by
    rw [List.mapM_map]
    exact mapM_ok fun change _ => rowToStateChange_changeRow action.actionId change
  simp only [actionFrom,recordOf,changes,targets,setting,converted,settingRows_enabled,settingRows_message]
  simp [bind,Except.bind,normaliseAction,Function.comp_def]

theorem configFrom_written (valid : Valid config) :
    configFrom (written config tables) = .ok (normalise config) := by
  have records : ((config.actions.insertionSort fun a b => a.actionId ≤ b.actionId).map actionRow).mapM
      rowToAction = .ok ((config.actions.insertionSort fun a b => a.actionId ≤ b.actionId).map recordOf) := by
    rw [List.mapM_map]
    exact mapM_ok fun action _ => rowToAction_actionRow action
  have actions : ((config.actions.insertionSort fun a b => a.actionId ≤ b.actionId).map recordOf).mapM
      (actionFrom · (written config tables)) = .ok (normalise config).actions := by
    rw [List.mapM_map]
    exact mapM_ok fun action member => actionFrom_written valid ((List.mem_insertionSort _).mp member)
  have families : ((normalise config).families.map familyRow).map familyConfig = (normalise config).families := by
    simp [Function.comp_def,familyRow,familyConfig]
  simp only [configFrom,written_actionsById,records,written_familiesById,families,written_destinationsOf,
    destinations_grouped valid]
  simp only [bind,Except.bind,actions]

end

section
variable {env : Env}

theorem reads_loadAction (quiet : Quiet env) (record : ActionRecord) :
    Reads env (loadAction record) (actionFrom record) :=
  reads_bind (reads_query quiet _) fun _ => reads_bind (reads_query quiet _) fun _ =>
    reads_bind (reads_query quiet _) fun _ => reads_pure _

/-- The queries of a load, one after the other. -/
theorem configFrom_steps (tables : Tables) :
    ((.ok tables.familiesById : Except SqliteError (List FamilyRow)) >>= fun families =>
      tables.actionsById.mapM rowToAction >>= fun records => records.mapM (actionFrom · tables) >>= fun actions =>
        (families.map familyConfig).mapM (fun family =>
          .ok ((tables.destinationsOf family.familyId).map destinationConfig)) >>= fun destinations =>
          .ok {
            families := families.map familyConfig,actions
            familyNotificationDestinations := destinations.flatten }) = configFrom tables := by
  have all : (tables.familiesById.map familyConfig).mapM
      (fun family => (.ok ((tables.destinationsOf family.familyId).map destinationConfig) :
        Except SqliteError (List FamilyNotificationDestinationConfig))) =
      .ok ((tables.familiesById.map familyConfig).map fun family =>
        (tables.destinationsOf family.familyId).map destinationConfig) := mapM_ok fun _ _ => rfl
  change (tables.actionsById.mapM rowToAction >>= fun records =>
    records.mapM (actionFrom · tables) >>= fun actions =>
      (tables.familiesById.map familyConfig).mapM _ >>= fun destinations => _) = _
  simp only [all]
  rfl

theorem reads_readConfig (quiet : Quiet env) : Reads env readConfig configFrom := by
  have destinations (family : FamilyConfig) : Reads env (loadDestinations family) fun tables =>
      .ok ((tables.destinationsOf family.familyId).map destinationConfig) :=
    reads_bind (reads_query quiet _) fun _ => reads_pure _
  exact reads_congr (reads_bind (reads_query quiet _) fun families => reads_bind (reads_query quiet _)
    fun records => reads_bind (reads_mapM records (reads_loadAction quiet)) fun actions =>
    reads_bind (reads_mapM (families.map familyConfig) destinations) fun _ => reads_pure _) configFrom_steps

/-- The tables without those that no configuration is in. -/
def configTables (tables : Tables) : Tables := { tables with devices := [],events := [],userVersion := 0 }

/-- The same while statements may fail, as long as nobody else writes to the configuration. -/
theorem finds_readConfig (stable : Stable env configTables) : Finds env configTables readConfig configFrom := by
  have action (record : ActionRecord) : Finds env configTables (loadAction record) (actionFrom record) :=
    finds_bind (finds_query stable fun _ => rfl) fun _ => finds_bind (finds_query stable fun _ => rfl) fun _ =>
      finds_bind (finds_query stable fun _ => rfl) fun _ => finds_pure _
  have destinations (family : FamilyConfig) : Finds env configTables (loadDestinations family) fun tables =>
      .ok ((tables.destinationsOf family.familyId).map destinationConfig) :=
    finds_bind (finds_query stable fun _ => rfl) fun _ => finds_pure _
  exact finds_congr (finds_bind (finds_query stable fun _ => rfl) fun families =>
    finds_bind (finds_query stable fun _ => rfl) fun records => finds_bind (finds_mapM records action) fun actions =>
    finds_bind (finds_mapM (families.map familyConfig) destinations) fun _ => finds_pure _) configFrom_steps

/-- A load of saved tables returns the normal form, and leaves the connection as it is. -/
theorem loadConfig_written (quiet : Quiet env) (display : SqliteError → String) {config : ParentConfig}
    (valid : Valid config) (self : Connection) (tables : Tables) (saved : self.view = written config tables) :
    ∃ clock, loadConfig display env self = (.ok (normalise config),{ self with clock }) := by
  obtain ⟨clock,ran⟩ := reads_readConfig quiet self
  rw [saved,configFrom_written valid] at ran
  exact ⟨clock,by simp only [loadConfig,reporting,Program.zoom,id_eq,ran]⟩

/-- A load of saved tables that does not fail returns the normal form. -/
theorem loadConfig_found (stable : Stable env configTables) (display : SqliteError → String)
    {config : ParentConfig} (valid : Valid config) {self next : Connection} {tables : Tables}
    {outcome : Except String ParentConfig} (idle : self.working = none)
    (saved : self.committed = written config tables) (ran : loadConfig display env self = (outcome,next)) :
    outcome = .ok (normalise config) ∨ ∃ error, outcome = .error error := by
  obtain ⟨found,last,read,-,-,either⟩ := (finds_readConfig stable).2 self idle
  rw [saved,configFrom_written valid] at either
  simp only [loadConfig,reporting,Program.zoom,id_eq,read] at ran
  rcases either with rfl | ⟨error,rfl⟩
  · cases ran
    exact .inl rfl
  · cases ran
    exact .inr ⟨_,rfl⟩

/-- A save that succeeds writes a valid configuration. -/
theorem saveConfig_ok {display : SqliteError → String} {config : ParentConfig} {self after : Connection}
    (saved : saveConfig display config env self = (.ok (),after)) :
    validateConfig config = .ok () ∧ after.working = none ∧
      after.committed = written config (self.tick env).committed := by
  obtain ⟨passed,ran⟩ := Db.saving_ok saved
  exact ⟨passed,(transactionally_ok (leads_writeConfig config) ran).2⟩

/-- Saving what was loaded changes nothing of what is loaded next, whether it succeeds or not. -/
theorem saveConfig_again (quiet : Quiet env) (display : SqliteError → String) {config : ParentConfig}
    (valid : Valid config) {self again : Connection} {tables : Tables} {outcome : Except String Unit}
    (idle : self.working = none) (saved : self.view = written config tables)
    (resaved : saveConfig display (normalise config) env self = (outcome,again)) :
    (loadConfig display env again).1 = .ok (normalise config) := by
  cases outcome with
  | ok value =>
    obtain ⟨passed,closed,committed⟩ := saveConfig_ok resaved
    have view : again.view = written (normalise config) (self.tick env).committed := by
      simpa [Connection.view,closed] using committed
    obtain ⟨clock,loaded⟩ := loadConfig_written quiet display (valid_of_validateConfig passed) again _ view
    rw [loaded,normalise_normalise]
  | error message =>
    have trace := (saving_noTrace quiet.others (inside_writeConfig _) quiet.rollbackFault resaved).mpr <| by
      refine ⟨idle,?_⟩
      rintro ⟨_,_,_,_,_,_,refused⟩
      rw [quiet.commitFault] at refused
      cases refused
    obtain ⟨clock,loaded⟩ := loadConfig_written quiet display valid again tables (trace.reads.trans saved)
    rw [loaded]

/-! ### The rest of the tables -/

/-- What the configuration does not touch. -/
def deviceHistory (tables : Tables) : List DeviceRow × List EventRow := (tables.devices,tables.events)

theorem keeps_constrained {α : Type} (stable : Stable env deviceHistory)
    {condition : Tables → Prop} [∀ tables, Decidable (condition tables)] {result : Tables → α × Tables}
    (same : ∀ tables, deviceHistory (result tables).2 = deviceHistory tables) :
    Program.Moves env (Kept deviceHistory)
      (execute fun tables => Tables.constrained (condition tables) (result tables)) :=
  keeps_execute stable fun tables value next ok => by
    rw [← same tables,← (Tables.constrained_ok.mp ok).2]

theorem keeps_writeConfig (stable : Stable env deviceHistory) (config : ParentConfig) :
    Program.Moves env (Kept deviceHistory) (writeConfig config) := by
  have deletes {change : Tables → Except SqliteError (Unit × Tables)} {result : Tables → Tables}
      (always : ∀ tables, change tables = .ok ((),result tables))
      (same : ∀ tables, deviceHistory (result tables) = deviceHistory tables) :
      Program.Moves env (Kept deviceHistory) (execute change) :=
    keeps_execute stable fun tables value next ok => by
      rw [always] at ok
      cases ok
      exact same tables
  have destination (row : FamilyNotificationDestinationConfig) :
      Program.Moves env (Kept deviceHistory) (writeDestination row) := by
    refine Program.moves_bind kept_trans (keeps_execute stable fun tables value next ok => ?_)
      fun _ => kept_refl
    unfold Tables.insertDestination at ok
    split at ok
    · cases ok
    · rw [(Prod.mk.inj (Tables.constrained_ok.mp ok).2).2]
      rfl
  have all {α : Type} {items : List α} {each : α → Session Unit}
      (keeps : ∀ item, Program.Moves env (Kept deviceHistory) (each item)) :
      Program.Moves env (Kept deviceHistory) (items.forM each) :=
    Program.moves_forM kept_refl kept_trans keeps
  have action (action : ActionConfig) : Program.Moves env (Kept deviceHistory) (writeAction action) := by
    refine Program.moves_bind kept_trans (keeps_constrained stable fun _ => rfl) fun _ => ?_
    refine Program.moves_bind kept_trans (all fun _ => keeps_constrained stable fun _ => rfl) fun _ => ?_
    refine Program.moves_bind kept_trans (Program.moves_onlyIf kept_refl _
      (keeps_constrained stable fun _ => rfl)) fun _ => ?_
    exact all fun _ => keeps_constrained stable fun _ => rfl
  refine Program.moves_bind kept_trans ?_ fun _ => Program.moves_bind kept_trans
    (all fun _ => keeps_constrained stable fun _ => rfl) fun _ =>
    Program.moves_bind kept_trans (all action) fun _ => all destination
  refine Program.moves_bind kept_trans (deletes (fun _ => rfl) fun _ => rfl) fun _ =>
    Program.moves_bind kept_trans (deletes (fun _ => rfl) fun _ => rfl) fun _ =>
    Program.moves_bind kept_trans (deletes (fun _ => rfl) fun _ => rfl) fun _ =>
    Program.moves_bind kept_trans (deletes (fun _ => rfl) fun _ => rfl) fun _ =>
    Program.moves_bind kept_trans (deletes (fun _ => rfl) fun _ => rfl) fun _ => ?_
  exact keeps_constrained stable fun _ => rfl

theorem keeps_reporting {α : Type} {part : Tables → List DeviceRow × List EventRow}
    {display : SqliteError → String} {session : Session α}
    (keeps : Program.Moves env (Kept part) session) :
    Program.Moves env (Kept part) (reporting display session) :=
  Program.moves_zoom keeps fun _ _ => id

theorem keeps_saveConfig (stable : Stable env deviceHistory) (display : SqliteError → String)
    (config : ParentConfig) : Program.Moves env (Kept deviceHistory) (saveConfig display config) := by
  unfold saveConfig saving
  cases validateConfig config with
  | error message => exact kept_refl
  | ok value => exact keeps_reporting (keeps_transactionally stable (keeps_writeConfig stable config))

/-- A load only reads. -/
theorem along_readConfig {R : Connection → Connection → Prop} (refl : ∀ self, R self self)
    (trans : ∀ a b c, R a b → R b c → R a c)
    (reads : ∀ {α : Type} (read : Tables → Except SqliteError α), Program.Moves env R (query read)) :
    Program.Moves env R readConfig := by
  have action (record : ActionRecord) : Program.Moves env R (loadAction record) :=
    Program.moves_bind trans (reads _) fun _ => Program.moves_bind trans (reads _) fun _ =>
      Program.moves_bind trans (reads _) fun _ => refl
  have destinations (family : FamilyConfig) : Program.Moves env R (loadDestinations family) :=
    Program.moves_bind trans (reads _) fun _ => refl
  refine Program.moves_bind trans (reads _) fun _ => Program.moves_bind trans (reads _) fun _ => ?_
  exact Program.moves_bind trans (Program.moves_mapM refl trans action) fun _ =>
    Program.moves_bind trans (Program.moves_mapM refl trans destinations) fun _ => refl

/-- No line touches the devices or the events. -/
theorem keeps_handleLine {V : Type} (stable : Stable env deviceHistory) (decoding : Decoding V)
    (line : String) : Program.Moves env (Kept deviceHistory) (handleLine decoding line) := by
  intro self
  have effect := handleLine_effect decoding line env self
  generalize (handleLine decoding line env self).2 = after at effect ⊢
  cases effect with
  | nothing => exact kept_refl self
  | loads => exact keeps_reporting (along_readConfig kept_refl kept_trans (keeps_query stable)) self
  | looks => exact keeps_reporting (keeps_query stable _) self
  | resets => exact keeps_saveConfig stable _ _ self
  | sets config => exact keeps_saveConfig stable _ config self

end

/-- A saved configuration is loaded in its normal form and in place of the old one; saving
what was loaded changes no later load; and no sequence of lines touches devices or events. -/
theorem saved_config_loads (display : SqliteError → String) :
    (∀ (config : ParentConfig) (env env' : Env) (self after : Connection), Quiet env' →
      saveConfig display config env self = (.ok (),after) →
        after.committed = written config (self.tick env).committed ∧
        ∃ next, loadConfig display env' after = (.ok (normalise config),next) ∧
          ∀ outcome again, saveConfig display (normalise config) env' next = (outcome,again) →
            (loadConfig display env' again).1 = .ok (normalise config)) ∧
    ∀ (V : Type) (decoding : Decoding V) (lines : List String) (env : Env) (self : Connection),
      Stable env deviceHistory → self.working = none →
        deviceHistory (handleLines decoding lines env self).2.committed = deviceHistory self.committed := by
  constructor
  · intro config env env' self after quiet saved
    obtain ⟨passed,closed,committed⟩ := saveConfig_ok saved
    have valid := valid_of_validateConfig passed
    have view : after.view = written config (self.tick env).committed := by
      simpa [Connection.view,closed] using committed
    obtain ⟨clock,loaded⟩ := loadConfig_written quiet display valid after _ view
    refine ⟨committed,_,loaded,fun outcome again resaved => ?_⟩
    have idle : ({ after with clock } : Connection).working = none := closed
    exact saveConfig_again quiet display valid idle view resaved
  · intro V decoding lines env self stable idle
    have keeps : Program.Moves env (Kept deviceHistory) (handleLines decoding lines) :=
      Program.moves_mapM kept_refl kept_trans fun line => keeps_handleLine stable decoding line
    exact (keeps self _ ⟨rfl,by simp [idle]⟩).1

/-- Two families out of order, and an action with a message though it notifies nobody. -/
def familyDinner : ParentConfig where
  families := [{ familyId := 2,displayName := "B",enabled := true },
    { familyId := 1,displayName := "A",enabled := false }]
  actions := [{
    actionId := 7,actionName := "dinner",targetType := .family,targetFamilyId := some 2
    webMessage := none,enabled := true
    stateChanges := [{ stateType := .snackNotice,stateValue := .off },
      { stateType := .mealNotice,stateValue := .on }]
    notificationEnabled := false,notificationMessage := some "come",notificationTargets := [2,1] }]
  familyNotificationDestinations := [
    { familyId := 2,notificationType := "mail",destination := "b",enabled := true },
    { familyId := 1,notificationType := "mail",destination := "a",enabled := true },
    { familyId := 2,notificationType := "mail",destination := "c",enabled := false }]

/-- Every line asks for a factory reset. -/
def resetting : Decoding Unit where
  request _ := .ok {
    version := 1,requestId := firstRequestId,command := ⟨"factory_reset",by decide⟩,params := () }
  config _ := .ok familyDinner
  display _ := "error"

theorem saved_config_loads_dinner :
    (∃ next, loadConfig (fun _ => "error") Env.quiet
      (saveConfig (fun _ => "error") familyDinner Env.quiet (.opened Tables.empty)).2 =
        (.ok (normalise familyDinner),next)) ∧
    deviceHistory (handleLines resetting ["{}","{}"] Env.quiet (.opened Tables.empty)).2.committed = ([],[]) := by
  have saved : (saveConfig (fun _ => "error") familyDinner Env.quiet (.opened Tables.empty)).1 = .ok () := by
    decide +kernel
  obtain ⟨loads,frame⟩ := saved_config_loads fun _ => "error"
  obtain ⟨-,next,loaded,-⟩ := loads familyDinner Env.quiet Env.quiet _ _ (Env.quiet_quiet _ _)
    (Program.result_eq saved)
  exact ⟨⟨next,loaded⟩,frame Unit resetting _ _ _ (stable_of_alone fun _ => rfl) rfl⟩

end UchiPulse.Hub
