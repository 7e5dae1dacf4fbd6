import UchiPulse.Db.SavedAction
import UchiPulse.Lib.Grouping
import UchiPulse.Settings.App

/-! Which records are stored, and what the app's calls of the database do to that. -/
namespace UchiPulse.Settings
open Common Db Sql

/-! ### Keys -/

inductive RecordKey where
  | device (deviceId : String)
  | family (familyId : UInt32)
  | action (actionId : UInt32)
  | destination (id : Option Nat)
deriving DecidableEq

/-- What identifies the record. -/
def Draft.key : Draft → RecordKey
  | .device v => .device v.deviceId
  | .family v => .family v.familyId
  | .action v => .action v.actionId
  | .destination v => .destination v.id

def Stored (tables : Tables) : RecordKey → Prop
  | .device deviceId => tables.hasDevice deviceId
  | .family familyId => tables.hasFamily familyId
  | .action actionId => tables.hasAction actionId
  | .destination id => ∃ row ∈ tables.destinations, some row.id = id

instance (tables : Tables) (key : RecordKey) : Decidable (Stored tables key) := by
  cases key <;> unfold Stored <;> infer_instance

/-- A new destination has no number yet. -/
def RecordKey.Fresh : RecordKey → Prop
  | .destination id => id = none
  | _ => True

/-- Nothing stored is lost. -/
def KeepsRecords (before after : Tables) : Prop := ∀ key, Stored before key → Stored after key

/-- The record of each row, whether it is shown or not. -/
def Data.drafts (self : Data) : List Draft :=
  self.devices.map .device ++ self.families.map .family ++ self.actions.map .action ++
    self.destinations.map .destination

theorem SettingsApp.rows_subset (self : SettingsApp) {draft : Draft} (member : draft ∈ self.rows) :
    draft ∈ self.data.drafts := by
  unfold SettingsApp.rows at member
  simp only [Data.drafts,List.mem_append]
  split at member
  · exact .inl (.inl (.inr member))
  · exact .inl (.inl (.inl member))
  · exact .inl (.inr member)
  · exact .inr member
  · cases member

/-- The form has no field for the number. -/
theorem NotificationDestinationRecord.edit_id (families : List FamilyRecord) (v : NotificationDestinationRecord)
    (field : DestinationField) : (v.edit families field).id = v.id := by
  cases field with
  | family familyId =>
    simp only [NotificationDestinationRecord.edit]
    split_ifs <;> rfl
  | notificationType name =>
    simp only [NotificationDestinationRecord.edit]
    split_ifs <;> rfl
  | destination text => rfl
  | enabled value => rfl

/-! ### Writes -/

section
variable {tables after : Tables}

theorem stored_upsertDevice {deviceId name deviceType now : String} {enabled : Bool}
    (ok : Tables.upsertDevice deviceId name deviceType now enabled tables = .ok ((),after)) :
    KeepsRecords tables after ∧ Stored after (.device deviceId) := by
  cases ok
  have keys (other : String) := exists_key_upsert DeviceRow.deviceId other
    (fun old => { old with name,deviceType,updatedAt := now,enabled })
    { deviceId,name,deviceType,registeredAt := now,updatedAt := now,enabled }
    (fun old same => same) rfl (Iff.refl (tables.hasDevice deviceId))
  refine ⟨fun key stored => ?_,(keys deviceId).mpr (.inl rfl)⟩
  cases key with
  | device other => exact (keys other).mpr (.inr stored)
  | family familyId => exact stored
  | action actionId => exact stored
  | destination id => exact stored

theorem stored_upsertFamily {row : FamilyRow} (ok : Tables.upsertFamily row tables = .ok ((),after)) :
    KeepsRecords tables after ∧ Stored after (.family row.familyId) := by
  cases ok
  have keys (other : UInt32) := exists_key_upsert FamilyRow.familyId other (fun _ => row) row
    (fun _ _ => rfl) rfl (Iff.refl (tables.hasFamily row.familyId))
  refine ⟨fun key stored => ?_,(keys row.familyId).mpr (.inl rfl)⟩
  cases key with
  | device deviceId => exact stored
  | family other => exact (keys other).mpr (.inr stored)
  | action actionId => exact stored
  | destination id => exact stored

theorem stored_savedAction (action : ActionRecord) (tables : Tables) :
    KeepsRecords tables (savedAction action tables) ∧ Stored (savedAction action tables) (.action action.actionId) := by
  have keys (other : UInt32) := exists_key_upsert ActionRow.actionId other (fun _ => actionRow action)
    (actionRow action) (fun _ _ => rfl) rfl (Iff.refl (tables.hasAction action.actionId))
  refine ⟨fun key stored => ?_,(keys action.actionId).mpr (.inl rfl)⟩
  cases key with
  | device deviceId => exact stored
  | family familyId => exact stored
  | action other => exact (keys other).mpr (.inr stored)
  | destination id => exact stored

theorem stored_updateDestination {row : DestinationRow} (ok : Tables.updateDestination row tables = .ok ((),after)) :
    KeepsRecords tables after := by
  obtain ⟨-,same⟩ := Tables.constrained_ok.mp ok
  cases same
  intro key stored
  cases key with
  | device deviceId => exact stored
  | family familyId => exact stored
  | action actionId => exact stored
  | destination id =>
    cases id with
    | none => simp [Stored] at stored
    | some id =>
      simp only [Stored,Option.some.injEq] at stored ⊢
      exact (exists_key_replace DestinationRow.id id (fun _ => row) fun _ _ => rfl).mpr stored

theorem stored_insertDestination {familyId : UInt32} {notificationType destination : String} {enabled : Bool}
    {id : Nat} (ok : Tables.insertDestination familyId notificationType destination enabled tables = .ok (id,after)) :
    KeepsRecords tables after ∧ Stored after (.destination (some id)) := by
  unfold Tables.insertDestination at ok
  split at ok
  · cases ok
  obtain ⟨-,same⟩ := Tables.constrained_ok.mp ok
  cases same
  refine ⟨fun key stored => ?_,⟨_,List.mem_append_right _ (List.mem_singleton_self _),rfl⟩⟩
  cases key with
  | device deviceId => exact stored
  | family familyId => exact stored
  | action actionId => exact stored
  | destination id =>
    obtain ⟨row,member,same⟩ := stored
    exact ⟨row,List.mem_append_left _ member,same⟩

end

/-! ### Saves -/

/-- The row of a destination. -/
def destinationRow (id : Nat) (v : NotificationDestinationRecord) : DestinationRow where
  id := id
  familyId := v.familyId
  notificationType := v.notificationType
  destination := v.destination
  enabled := v.enabled

section
variable {env : Env} {self : Connection}

theorem commitsAt_statement {display : SqliteError → String} {α : Type} {checked : Except String Unit}
    {body : Session α} {change : Tables → α → Tables → Prop} (commits : Commits env body change)
    (idle : self.working = none) : CommitsAt env (statement display checked body) change self := by
  unfold statement
  cases checked with
  | error message => exact commits_fail message self idle
  | ok value => exact (commits self idle).zoom _

theorem commitsAt_saveAction (alone : ∀ n, env.others n = []) (display : SqliteError → String)
    (action : ActionRecord) (ends : Concludes env (writeAction action) self) (idle : self.working = none) :
    CommitsAt env (saveAction display action) (fun tables _ after => after = savedAction action tables) self := by
  unfold saveAction saving
  cases validateAction action with
  | error message => exact commits_fail message self idle
  | ok value =>
    exact (commitsAt_transactionally alone ends idle (inside_writeAction action) (leads_writeAction action)).zoom _

/-- The statement a destination is saved by. -/
theorem commits_writtenDestination (alone : ∀ n, env.others n = []) (v : NotificationDestinationRecord) :
    Commits env (writeDestination v) fun tables id after =>
      (v.id = none ∧ Tables.insertDestination v.familyId v.notificationType v.destination v.enabled tables =
        .ok (id,after)) ∨
      v.id = some id ∧ Tables.updateDestination (destinationRow id v) tables = .ok ((),after) := by
  intro self idle
  unfold writeDestination
  cases known : v.id with
  | none => exact (commits_execute alone _ self idle).mono fun tables id after ok => .inl ⟨rfl,ok⟩
  | some id =>
    refine ((commits_execute alone _ self idle).map fun _ => id).mono fun tables found after done => ?_
    obtain ⟨⟨⟩,rfl,ok⟩ := done
    exact .inr ⟨rfl,ok⟩

theorem commits_writeDestination (alone : ∀ n, env.others n = []) (v : NotificationDestinationRecord) :
    Commits env (writeDestination v) fun tables id after => KeepsRecords tables after ∧
      (v.id = none ∨ Stored tables (.destination v.id) → Stored after (.destination (some id))) := by
  intro self idle
  refine (commits_writtenDestination alone v self idle).mono fun tables id after done => ?_
  rcases done with ⟨new,ok⟩ | ⟨known,ok⟩
  · obtain ⟨keeps,stored⟩ := stored_insertDestination ok
    exact ⟨keeps,fun _ => stored⟩
  · have keeps := stored_updateDestination ok
    rw [known]
    refine ⟨keeps,fun before => ?_⟩
    rcases before with ⟨⟨⟩⟩ | stored
    exact keeps _ stored

/-- A save that succeeds stores the record, and loses no other. -/
theorem commitsAt_saveDraft (alone : ∀ n, env.others n = []) (world : World) (draft : Draft)
    (ends : ∀ action, draft = .action action → Concludes env (writeAction action) self) (idle : self.working = none) :
    CommitsAt env (SettingsApp.saveDraft world draft) (fun tables saved after => KeepsRecords tables after ∧
      (draft.key.Fresh ∨ Stored tables draft.key → Stored after saved.key)) self := by
  cases draft with
  | device v =>
    refine ((commitsAt_statement (commits_execute alone _) idle).map fun _ => Draft.device v).mono
      fun tables saved after done => ?_
    obtain ⟨⟨⟩,rfl,ok⟩ := done
    obtain ⟨keeps,stored⟩ := stored_upsertDevice ok
    exact ⟨keeps,fun _ => stored⟩
  | family v =>
    refine ((commitsAt_statement (commits_execute alone _) idle).map fun _ => Draft.family v).mono
      fun tables saved after done => ?_
    obtain ⟨⟨⟩,rfl,ok⟩ := done
    obtain ⟨keeps,stored⟩ := stored_upsertFamily ok
    exact ⟨keeps,fun _ => stored⟩
  | action v =>
    refine ((commitsAt_saveAction alone _ v (ends v rfl) idle).map fun _ => Draft.action v).mono
      fun tables saved after done => ?_
    obtain ⟨⟨⟩,rfl,rfl⟩ := done
    obtain ⟨keeps,stored⟩ := stored_savedAction v tables
    exact ⟨keeps,fun _ => stored⟩
  | destination v =>
    refine ((commitsAt_statement (commits_writeDestination alone v) idle).map
      fun id => Draft.destination { v with id := some id }).mono fun tables saved after done => ?_
    obtain ⟨id,rfl,keeps,stored⟩ := done
    exact ⟨keeps,stored⟩

theorem commitsAt_deleteDraft (alone : ∀ n, env.others n = []) (display : SqliteError → String) (draft : Draft)
    (idle : self.working = none) : CommitsAt env (SettingsApp.deleteDraft display draft) (fun _ _ _ => True) self := by
  have deletes (change : Tables → Except SqliteError (Unit × Tables)) :
      CommitsAt env (statement display (.ok ()) (execute change)) (fun _ _ _ => True) self :=
    (commitsAt_statement (commits_execute alone change) idle).mono fun _ _ _ _ => trivial
  cases draft with
  | device v => exact deletes _
  | family v => exact deletes _
  | action v => exact deletes _
  | destination v =>
    obtain ⟨id,familyId,notificationType,destination,enabled⟩ := v
    cases id with
    | none => exact commits_fail _ self idle
    | some id => exact deletes _

/-! ### Loads -/

/-- An action with what belongs to it. -/
def loadedAction (row : ActionRow) (tables : Tables) : ActionRecord where
  actionId := row.actionId
  actionName := row.actionName
  targetType := row.targetType
  targetFamilyId := row.targetFamilyId
  webMessage := row.webMessage.getD ""
  enabled := row.enabled
  stateChanges := (tables.stateChangesOf row.actionId).map fun change =>
    { stateType := change.stateType,stateValue := change.stateValue }
  notificationEnabled := (tables.notificationSetting row.actionId).any (·.notificationEnabled)
  notificationMessage := ((tables.notificationSetting row.actionId).bind (·.notificationMessage)).getD ""
  notificationTargets := (tables.notificationTargetsOf row.actionId).map (·.familyId)

/-- What a load finds. -/
def dataFrom (tables : Tables) : Data where
  devices := tables.devicesById.map deviceRecord
  families := tables.familiesById.map familyRecord
  actions := tables.actionsById.map (loadedAction · tables)
  destinations := tables.destinationsByFamily.map destinationRecord
  events := tables.latestEvents.map eventRecord

theorem finds_listActions (alone : ∀ n, env.others n = []) :
    Finds env id listActions fun tables => .ok (tables.actionsById.map (loadedAction · tables)) := by
  have stable : Stable env id := stable_of_alone alone
  have action (row : ActionRow) : Finds env id (loadAction row) fun tables => .ok (loadedAction row tables) :=
    finds_bind (finds_query stable fun _ => rfl) fun _ => finds_bind (finds_query stable fun _ => rfl) fun _ =>
      finds_bind (finds_query stable fun _ => rfl) fun _ => finds_pure _
  refine finds_congr (finds_bind (finds_query stable fun _ => rfl) fun rows => finds_mapM rows action) fun tables => ?_
  exact mapM_ok fun _ _ => rfl

theorem finds_load (alone : ∀ n, env.others n = []) (display : SqliteError → String) :
    Finds env id (Data.load display) fun tables => .ok (dataFrom tables) :=
  have stable : Stable env id := stable_of_alone alone
  finds_congr
    (finds_bind (finds_zoom _ (finds_query stable fun _ => rfl)) fun _ =>
      finds_bind (finds_zoom _ (finds_query stable fun _ => rfl)) fun _ =>
      finds_bind (finds_zoom _ (finds_listActions alone)) fun _ =>
      finds_bind (finds_zoom _ (finds_query stable fun _ => rfl)) fun _ =>
      finds_bind (finds_zoom _ (finds_query stable fun _ => rfl)) fun _ => finds_pure _) fun _ => rfl

/-- Every record that is loaded is stored. -/
theorem stored_dataFrom {tables : Tables} {draft : Draft} (member : draft ∈ (dataFrom tables).drafts) :
    Stored tables draft.key := by
  simp only [Data.drafts,dataFrom,List.map_map,List.mem_append,List.mem_map] at member
  rcases member with ((⟨row,among,rfl⟩ | ⟨row,among,rfl⟩) | ⟨row,among,rfl⟩) | ⟨row,among,rfl⟩
  · exact ⟨row,(List.mem_insertionSort _).mp among,rfl⟩
  · exact ⟨row,(List.mem_insertionSort _).mp among,rfl⟩
  · exact ⟨row,(List.mem_insertionSort _).mp among,rfl⟩
  · exact ⟨row,(List.mem_insertionSort _).mp among,rfl⟩

theorem load_ok (alone : ∀ n, env.others n = []) {display : SqliteError → String} {self next : Connection}
    {data : Data} (idle : self.working = none) (ran : Data.load display env self = (.ok data,next)) :
    next.working = none ∧ next.committed = self.committed ∧ data = dataFrom self.committed := by
  obtain ⟨outcome,last,found,closed,same,either⟩ := (finds_load alone display).2 self idle
  rw [ran] at found
  cases found
  refine ⟨closed,same,?_⟩
  rcases either with taken | ⟨error,⟨⟩⟩
  exact Except.ok.inj taken

theorem load_error (alone : ∀ n, env.others n = []) {display : SqliteError → String} {self next : Connection}
    {message : String} (idle : self.working = none) (ran : Data.load display env self = (.error message,next)) :
    next.working = none ∧ next.committed = self.committed := by
  obtain ⟨outcome,last,found,closed,same,-⟩ := (finds_load alone display).2 self idle
  rw [ran] at found
  cases found
  exact ⟨closed,same⟩

end

end UchiPulse.Settings
