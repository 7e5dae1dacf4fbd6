import UchiPulse.Db.Tables
import UchiPulse.Lib.Frame
import UchiPulse.Lib.Grouping

/-! All constraints of the schema at once, foreign keys included, and that every statement
keeps them. -/
namespace UchiPulse.Db
open Sql

structure Integrity (tables : Tables) : Prop extends Schema tables where
  stateTexts : ∀ row ∈ tables.stateChanges,
    0 < Tables.textLength row.stateType ∧ 0 < Tables.textLength row.stateValue
  stateActions : ∀ row ∈ tables.stateChanges, tables.hasAction row.actionId
  settingActions : ∀ row ∈ tables.notificationSettings, tables.hasAction row.actionId
  targetActions : ∀ row ∈ tables.notificationTargets, tables.hasAction row.actionId
  targetFamilies : ∀ row ∈ tables.notificationTargets, tables.hasFamily row.familyId
  destinationFamilies : ∀ row ∈ tables.destinations, tables.hasFamily row.familyId
  eventDevices : ∀ row ∈ tables.events, tables.hasDevice row.deviceId

theorem empty_integrity : Integrity Tables.empty := by
  constructor
  · constructor <;> decide
  all_goals exact fun row among => absurd among List.not_mem_nil

/-- A statement that makes good tables of good ones. -/
def Keeps {α : Type} (good : Tables → Prop) (change : Tables → Except SqliteError (α × Tables)) : Prop :=
  ∀ tables value next, change tables = .ok (value,next) → good tables → good next

theorem keeps_always {good : Tables → Prop} {next : Tables → Tables} (keeps : ∀ tables, good tables → good (next tables)) :
    Keeps good fun tables => .ok ((),next tables) := by
  rintro tables _ _ ⟨⟩ holds
  exact keeps tables holds

theorem keeps_constrained {good : Tables → Prop} {α : Type} {condition : Tables → Prop}
    [∀ tables, Decidable (condition tables)] {result : Tables → α × Tables}
    (keeps : ∀ tables, condition tables → good tables → good (result tables).2) :
    Keeps good fun tables => Tables.constrained (condition tables) (result tables) := by
  intro tables value next changed holds
  obtain ⟨condition,same⟩ := Tables.constrained_ok.mp changed
  rw [show next = (result tables).2 from congrArg Prod.snd same]
  exact keeps tables condition holds

namespace Tables
variable {tables next : Tables}

/-! ### Keys -/

theorem hasDevice_iff {deviceId : String} : tables.hasDevice deviceId ↔ deviceId ∈ tables.devices.map (·.deviceId) :=
  List.mem_map.symm

theorem hasFamily_iff {familyId : UInt32} : tables.hasFamily familyId ↔ familyId ∈ tables.families.map (·.familyId) :=
  List.mem_map.symm

theorem hasAction_iff {actionId : UInt32} : tables.hasAction actionId ↔ actionId ∈ tables.actions.map (·.actionId) :=
  List.mem_map.symm

/-- What an action's target needs is that its family stays. -/
theorem TargetOk.mono {row : ActionRow} (target : tables.TargetOk row)
    (families : ∀ familyId ∈ row.targetFamilyId, tables.hasFamily familyId → next.hasFamily familyId) :
    next.TargetOk row := by
  rcases target with ⟨family,familyId,named,known⟩ | common
  · exact .inl ⟨family,familyId,named,families familyId named known⟩
  · exact .inr common

end Tables

/-! ### Deletes -/

/-- Rows went, and with each of them those that refer to it. -/
structure Shrinks (tables next : Tables) : Prop where
  devices : next.devices.Sublist tables.devices
  families : next.families.Sublist tables.families
  actions : next.actions.Sublist tables.actions
  stateChanges : next.stateChanges.Sublist tables.stateChanges
  notificationSettings : next.notificationSettings.Sublist tables.notificationSettings
  notificationTargets : next.notificationTargets.Sublist tables.notificationTargets
  destinations : next.destinations.Sublist tables.destinations
  destinationSeq : next.destinationSeq = tables.destinationSeq
  events : next.events.Sublist tables.events
  actionFamilies : ∀ row ∈ next.actions, ∀ familyId ∈ row.targetFamilyId,
    tables.hasFamily familyId → next.hasFamily familyId
  stateActions : ∀ row ∈ next.stateChanges, tables.hasAction row.actionId → next.hasAction row.actionId
  settingActions : ∀ row ∈ next.notificationSettings, tables.hasAction row.actionId → next.hasAction row.actionId
  targetActions : ∀ row ∈ next.notificationTargets, tables.hasAction row.actionId → next.hasAction row.actionId
  targetFamilies : ∀ row ∈ next.notificationTargets, tables.hasFamily row.familyId → next.hasFamily row.familyId
  destinationFamilies : ∀ row ∈ next.destinations, tables.hasFamily row.familyId → next.hasFamily row.familyId
  eventDevices : ∀ row ∈ next.events, tables.hasDevice row.deviceId → next.hasDevice row.deviceId

theorem Shrinks.integrity {tables next : Tables} (shrinks : Shrinks tables next) (integrity : Integrity tables) :
    Integrity next where
  devices := integrity.devices.sublist (shrinks.devices.map _)
  families := integrity.families.sublist (shrinks.families.map _)
  actions := integrity.actions.sublist (shrinks.actions.map _)
  targets row among :=
    (integrity.targets row (shrinks.actions.subset among)).mono (shrinks.actionFamilies row among)
  stateChanges := integrity.stateChanges.sublist (shrinks.stateChanges.map _)
  notificationSettings := integrity.notificationSettings.sublist (shrinks.notificationSettings.map _)
  notificationTargets := integrity.notificationTargets.sublist shrinks.notificationTargets
  destinations := integrity.destinations.sublist (shrinks.destinations.map _)
  destinationSeq row among := by
    rw [shrinks.destinationSeq]
    exact integrity.destinationSeq row (shrinks.destinations.subset among)
  events := integrity.events.sublist (shrinks.events.map _)
  stateTexts row among := integrity.stateTexts row (shrinks.stateChanges.subset among)
  stateActions row among :=
    shrinks.stateActions row among (integrity.stateActions row (shrinks.stateChanges.subset among))
  settingActions row among :=
    shrinks.settingActions row among (integrity.settingActions row (shrinks.notificationSettings.subset among))
  targetActions row among :=
    shrinks.targetActions row among (integrity.targetActions row (shrinks.notificationTargets.subset among))
  targetFamilies row among :=
    shrinks.targetFamilies row among (integrity.targetFamilies row (shrinks.notificationTargets.subset among))
  destinationFamilies row among :=
    shrinks.destinationFamilies row among (integrity.destinationFamilies row (shrinks.destinations.subset among))
  eventDevices row among :=
    shrinks.eventDevices row among (integrity.eventDevices row (shrinks.events.subset among))

theorem keeps_shrinking {next : Tables → Tables} (shrinks : ∀ tables, Shrinks tables (next tables)) :
    Keeps Integrity fun tables => .ok ((),next tables) :=
  keeps_always fun tables integrity => (shrinks tables).integrity integrity

theorem Shrinks.refl (tables : Tables) : Shrinks tables tables where
  devices := .refl _
  families := .refl _
  actions := .refl _
  stateChanges := .refl _
  notificationSettings := .refl _
  notificationTargets := .refl _
  destinations := .refl _
  destinationSeq := rfl
  events := .refl _
  actionFamilies _ _ _ _ := id
  stateActions _ _ := id
  settingActions _ _ := id
  targetActions _ _ := id
  targetFamilies _ _ := id
  destinationFamilies _ _ := id
  eventDevices _ _ := id

theorem keeps_deleteNotificationTargets : Keeps Integrity Tables.deleteNotificationTargets :=
  keeps_shrinking fun tables => { Shrinks.refl tables with
    notificationTargets := List.nil_sublist _
    targetActions := fun _ among => absurd among List.not_mem_nil
    targetFamilies := fun _ among => absurd among List.not_mem_nil }

theorem keeps_deleteNotificationSettings : Keeps Integrity Tables.deleteNotificationSettings :=
  keeps_shrinking fun tables => { Shrinks.refl tables with
    notificationSettings := List.nil_sublist _
    settingActions := fun _ among => absurd among List.not_mem_nil }

theorem keeps_deleteStateChanges : Keeps Integrity Tables.deleteStateChanges :=
  keeps_shrinking fun tables => { Shrinks.refl tables with
    stateChanges := List.nil_sublist _
    stateActions := fun _ among => absurd among List.not_mem_nil }

theorem keeps_deleteDestinations : Keeps Integrity Tables.deleteDestinations :=
  keeps_shrinking fun tables => { Shrinks.refl tables with
    destinations := List.nil_sublist _
    destinationFamilies := fun _ among => absurd among List.not_mem_nil }

theorem keeps_deleteStateChangesOf (actionId : UInt32) : Keeps Integrity (Tables.deleteStateChangesOf actionId) :=
  keeps_shrinking fun tables => { Shrinks.refl tables with
    stateChanges := List.filter_sublist
    stateActions := fun _ _ => id }

theorem keeps_deleteNotificationSettingsOf (actionId : UInt32) :
    Keeps Integrity (Tables.deleteNotificationSettingsOf actionId) :=
  keeps_shrinking fun tables => { Shrinks.refl tables with
    notificationSettings := List.filter_sublist
    settingActions := fun _ _ => id }

theorem keeps_deleteNotificationTargetsOf (actionId : UInt32) :
    Keeps Integrity (Tables.deleteNotificationTargetsOf actionId) :=
  keeps_shrinking fun tables => { Shrinks.refl tables with
    notificationTargets := List.filter_sublist
    targetActions := fun _ _ => id
    targetFamilies := fun _ _ => id }

theorem keeps_deleteDestination (id : Nat) : Keeps Integrity (Tables.deleteDestination id) :=
  keeps_shrinking fun tables => { Shrinks.refl tables with
    destinations := List.filter_sublist
    destinationFamilies := fun _ _ known => known }

theorem keeps_deleteStateChange (actionId : UInt32) (stateType : String) :
    Keeps Integrity (Tables.deleteStateChange actionId stateType) :=
  keeps_shrinking fun tables => { Shrinks.refl tables with
    stateChanges := List.filter_sublist
    stateActions := fun _ _ => id }

theorem keeps_deleteNotificationTarget (target : NotificationTargetRow) :
    Keeps Integrity (Tables.deleteNotificationTarget target) :=
  keeps_shrinking fun tables => { Shrinks.refl tables with
    notificationTargets := List.filter_sublist
    targetActions := fun _ _ => id
    targetFamilies := fun _ _ => id }

/-- A row whose action is among those deleted goes with it. -/
theorem cascaded {α κ : Type} {rows : List α} {row : α} (key : α → κ) (gone : κ → Bool)
    (among : row ∈ rows.filter fun row => !gone (key row)) : gone (key row) = false := by
  simpa using (List.mem_filter.mp among).2

theorem keeps_deleteActions : Keeps Integrity Tables.deleteActions := by
  refine keeps_shrinking fun tables => ?_
  let gone (actionId : UInt32) : Bool := tables.hasAction actionId
  have unreferred (actionId : UInt32) (kept : gone actionId = false)
      (known : tables.hasAction actionId) : ({ tables with actions := [] } : Tables).hasAction actionId :=
    absurd known (of_decide_eq_false kept)
  exact { Shrinks.refl tables with
    actions := List.nil_sublist _
    stateChanges := List.filter_sublist
    notificationSettings := List.filter_sublist
    notificationTargets := List.filter_sublist
    actionFamilies := fun _ among => absurd among List.not_mem_nil
    stateActions := fun _ among => unreferred _ (cascaded StateChangeRow.actionId gone among)
    settingActions := fun _ among => unreferred _ (cascaded NotificationSettingRow.actionId gone among)
    targetActions := fun _ among => unreferred _ (cascaded NotificationTargetRow.actionId gone among)
    targetFamilies := fun _ _ known => known }

theorem keeps_deleteAction (actionId : UInt32) : Keeps Integrity (Tables.deleteAction actionId) := by
  refine keeps_shrinking fun tables => ?_
  let gone (other : UInt32) : Bool := other = actionId ∧ tables.hasAction actionId
  have left (other : UInt32) (kept : gone other = false)
      (known : tables.hasAction other) :
      ({ tables with actions := tables.actions.filter (·.actionId ≠ actionId) } : Tables).hasAction other := by
    obtain ⟨row,among,own⟩ := known
    refine ⟨row,List.mem_filter.mpr ⟨among,decide_eq_true fun here => ?_⟩,own⟩
    exact of_decide_eq_false kept ⟨own.symm.trans here,row,among,here⟩
  exact { Shrinks.refl tables with
    actions := List.filter_sublist
    stateChanges := List.filter_sublist
    notificationSettings := List.filter_sublist
    notificationTargets := List.filter_sublist
    actionFamilies := fun _ _ _ _ known => known
    stateActions := fun _ among => left _ (cascaded StateChangeRow.actionId gone among)
    settingActions := fun _ among => left _ (cascaded NotificationSettingRow.actionId gone among)
    targetActions := fun _ among => left _ (cascaded NotificationTargetRow.actionId gone among)
    targetFamilies := fun _ _ known => known }

/-- No action is left behind by its family. -/
theorem keeps_deleteFamilies : Keeps Integrity Tables.deleteFamilies := by
  refine keeps_constrained fun tables untargeted integrity => Shrinks.integrity ?_ integrity
  let gone (familyId : UInt32) : Bool := tables.hasFamily familyId
  have unreferred (familyId : UInt32) (kept : gone familyId = false)
      (known : tables.hasFamily familyId) : ({ tables with families := [] } : Tables).hasFamily familyId :=
    absurd known (of_decide_eq_false kept)
  exact { Shrinks.refl tables with
    families := List.nil_sublist _
    notificationTargets := List.filter_sublist
    destinations := List.filter_sublist
    actionFamilies := fun row among familyId named known =>
      absurd ⟨row,among,familyId,named,decide_eq_true known⟩ untargeted
    targetActions := fun _ _ known => known
    targetFamilies := fun _ among => unreferred _ (cascaded NotificationTargetRow.familyId gone among)
    destinationFamilies := fun _ among => unreferred _ (cascaded DestinationRow.familyId gone among) }

theorem keeps_deleteFamily (familyId : UInt32) : Keeps Integrity (Tables.deleteFamily familyId) := by
  refine keeps_constrained fun tables untargeted integrity => Shrinks.integrity ?_ integrity
  let gone (other : UInt32) : Bool := other = familyId ∧ tables.hasFamily familyId
  have left (other : UInt32) (kept : gone other = false)
      (known : tables.hasFamily other) :
      ({ tables with families := tables.families.filter (·.familyId ≠ familyId) } : Tables).hasFamily other := by
    obtain ⟨row,among,own⟩ := known
    refine ⟨row,List.mem_filter.mpr ⟨among,decide_eq_true fun here => ?_⟩,own⟩
    exact of_decide_eq_false kept ⟨own.symm.trans here,row,among,here⟩
  exact { Shrinks.refl tables with
    families := List.filter_sublist
    notificationTargets := List.filter_sublist
    destinations := List.filter_sublist
    actionFamilies := fun row among target named =>
      left _ (Bool.eq_false_iff.mpr fun gone => untargeted ⟨row,among,target,named,gone⟩)
    targetActions := fun _ _ known => known
    targetFamilies := fun _ among => left _ (cascaded NotificationTargetRow.familyId gone among)
    destinationFamilies := fun _ among => left _ (cascaded DestinationRow.familyId gone among) }

theorem keeps_deleteDevice (deviceId : String) : Keeps Integrity (Tables.deleteDevice deviceId) := by
  refine keeps_constrained fun tables unused integrity => Shrinks.integrity ?_ integrity
  refine { Shrinks.refl tables with devices := List.filter_sublist, eventDevices := ?_ }
  rintro row among ⟨device,listed,own⟩
  refine ⟨device,List.mem_filter.mpr ⟨listed,decide_eq_true fun here => ?_⟩,own⟩
  exact unused ⟨⟨device,listed,here⟩,row,among,own.symm.trans here⟩

/-! ### Rows of the tables others refer to -/

section
variable {tables : Tables}

theorem Integrity.withDevices {devices : List DeviceRow} (integrity : Integrity tables)
    (apart : (devices.map (·.deviceId)).Nodup)
    (wider : tables.devices.map (·.deviceId) ⊆ devices.map (·.deviceId)) : Integrity { tables with devices } :=
  { integrity with
    devices := apart
    eventDevices := fun row among => Tables.hasDevice_iff.mpr
      (wider (Tables.hasDevice_iff.mp (integrity.eventDevices row among))) }

theorem Integrity.withFamilies {families : List FamilyRow} (integrity : Integrity tables)
    (apart : (families.map (·.familyId)).Nodup)
    (wider : tables.families.map (·.familyId) ⊆ families.map (·.familyId)) : Integrity { tables with families } := by
  have kept (familyId : UInt32) (known : tables.hasFamily familyId) :
      { tables with families : Tables }.hasFamily familyId :=
    Tables.hasFamily_iff.mpr (wider (Tables.hasFamily_iff.mp known))
  exact { integrity with
    families := apart
    targets := fun row among => (integrity.targets row among).mono fun familyId _ => kept familyId
    targetFamilies := fun row among => kept _ (integrity.targetFamilies row among)
    destinationFamilies := fun row among => kept _ (integrity.destinationFamilies row among) }

theorem Integrity.withActions {actions : List ActionRow} (integrity : Integrity tables)
    (apart : (actions.map (·.actionId)).Nodup)
    (wider : tables.actions.map (·.actionId) ⊆ actions.map (·.actionId))
    (targets : ∀ row ∈ actions, tables.TargetOk row) : Integrity { tables with actions } := by
  have kept (actionId : UInt32) (known : tables.hasAction actionId) :
      { tables with actions : Tables }.hasAction actionId :=
    Tables.hasAction_iff.mpr (wider (Tables.hasAction_iff.mp known))
  exact { integrity with
    actions := apart
    targets := targets
    stateActions := fun row among => kept _ (integrity.stateActions row among)
    settingActions := fun row among => kept _ (integrity.settingActions row among)
    targetActions := fun row among => kept _ (integrity.targetActions row among) }

end

theorem keeps_insertDevice (row : DeviceRow) : Keeps Integrity (Tables.insertDevice row) :=
  keeps_constrained fun tables fresh integrity =>
    integrity.withDevices (nodup_concat row integrity.devices fresh) (by simp)

theorem keeps_updateDevice (row : DeviceRow) : Keeps Integrity (Tables.updateDevice row) := by
  rintro tables _ _ ⟨⟩ integrity
  have same := map_replace DeviceRow.deviceId row.deviceId (fun _ => row) fun old (_ : old ∈ tables.devices) _ => rfl
  exact integrity.withDevices (same ▸ integrity.devices) (same ▸ List.Subset.refl _)

theorem keeps_upsertDevice (deviceId name deviceType now : String) (enabled : Bool) :
    Keeps Integrity (Tables.upsertDevice deviceId name deviceType now enabled) := by
  rintro tables _ _ ⟨⟩ integrity
  obtain ⟨apart,wider⟩ := map_upsert DeviceRow.deviceId deviceId
    (fun old => { old with name,deviceType,updatedAt := now,enabled })
    { deviceId,name,deviceType,registeredAt := now,updatedAt := now,enabled }
    (fun _ own => own) rfl (Iff.refl (tables.hasDevice deviceId)) integrity.devices
  exact integrity.withDevices apart wider

theorem keeps_insertFamily (row : FamilyRow) : Keeps Integrity (Tables.insertFamily row) :=
  keeps_constrained fun tables fresh integrity =>
    integrity.withFamilies (nodup_concat row integrity.families fresh) (by simp)

theorem keeps_updateFamily (row : FamilyRow) : Keeps Integrity (Tables.updateFamily row) := by
  rintro tables _ _ ⟨⟩ integrity
  have same := map_replace FamilyRow.familyId row.familyId (fun _ => row) fun old (_ : old ∈ tables.families) _ => rfl
  exact integrity.withFamilies (same ▸ integrity.families) (same ▸ List.Subset.refl _)

theorem keeps_upsertFamily (row : FamilyRow) : Keeps Integrity (Tables.upsertFamily row) := by
  rintro tables _ _ ⟨⟩ integrity
  obtain ⟨apart,wider⟩ := map_upsert FamilyRow.familyId row.familyId (fun _ => row) row (fun _ _ => rfl) rfl
    (Iff.refl (tables.hasFamily row.familyId)) integrity.families
  exact integrity.withFamilies apart wider

theorem keeps_insertAction (row : ActionRow) : Keeps Integrity (Tables.insertAction row) := by
  refine keeps_constrained fun tables condition integrity => ?_
  obtain ⟨fresh,target⟩ := condition
  refine integrity.withActions (nodup_concat row integrity.actions fresh) (by simp) fun other among => ?_
  rcases List.mem_append.mp among with old | new
  · exact integrity.targets other old
  · rwa [List.mem_singleton.mp new]

theorem keeps_updateAction (row : ActionRow) : Keeps Integrity (Tables.updateAction row) := by
  refine keeps_constrained fun tables condition integrity => ?_
  have same := map_replace ActionRow.actionId row.actionId (fun _ => row) fun old (_ : old ∈ tables.actions) _ => rfl
  refine integrity.withActions (same ▸ integrity.actions) (same ▸ List.Subset.refl _) fun other among => ?_
  rcases mem_replace among with ⟨old,listed,own,rfl⟩ | old
  · exact condition.resolve_right fun unknown => unknown ⟨old,listed,own⟩
  · exact integrity.targets other old

theorem keeps_upsertAction (row : ActionRow) : Keeps Integrity (Tables.upsertAction row) := by
  refine keeps_constrained fun tables target integrity => ?_
  obtain ⟨apart,wider⟩ := map_upsert ActionRow.actionId row.actionId (fun _ => row) row (fun _ _ => rfl) rfl
    (Iff.refl (tables.hasAction row.actionId)) integrity.actions
  refine integrity.withActions apart wider fun other among => ?_
  split at among
  · rcases mem_replace among with ⟨old,listed,own,rfl⟩ | old
    · exact target
    · exact integrity.targets other old
  · rcases List.mem_append.mp among with old | new
    · exact integrity.targets other old
    · rwa [List.mem_singleton.mp new]

/-! ### Rows that refer to others -/

theorem forall_concat {α : Type} {p : α → Prop} {rows : List α} {row : α} (before : ∀ old ∈ rows, p old)
    (new : p row) : ∀ other ∈ rows ++ [row], p other := by
  simpa [or_imp,forall_and] using And.intro before new

theorem keeps_insertStateChange (row : StateChangeRow) : Keeps Integrity (Tables.insertStateChange row) := by
  refine keeps_constrained fun tables condition integrity => ?_
  obtain ⟨named,valued,action,fresh⟩ := condition
  exact { integrity with
    stateChanges := nodup_concat row integrity.stateChanges (by simpa only [Prod.mk.injEq] using fresh)
    stateTexts := forall_concat integrity.stateTexts ⟨named,valued⟩
    stateActions := forall_concat integrity.stateActions action }

theorem keeps_insertNotificationSetting (row : NotificationSettingRow) :
    Keeps Integrity (Tables.insertNotificationSetting row) := by
  refine keeps_constrained fun tables condition integrity => ?_
  obtain ⟨action,fresh⟩ := condition
  exact { integrity with
    notificationSettings := nodup_concat row integrity.notificationSettings fresh
    settingActions := forall_concat integrity.settingActions action }

theorem keeps_upsertNotificationSetting (row : NotificationSettingRow) :
    Keeps Integrity (Tables.upsertNotificationSetting row) := by
  refine keeps_constrained fun tables condition integrity => ?_
  have action : tables.hasAction row.actionId := by
    rcases condition with ⟨old,listed,own⟩ | known
    · exact own ▸ integrity.settingActions old listed
    · exact known
  refine { integrity with notificationSettings := ?_, settingActions := ?_ }
  · exact (map_upsert NotificationSettingRow.actionId row.actionId (fun _ => row) row (fun _ _ => rfl) rfl Iff.rfl
      integrity.notificationSettings).1
  · intro other among
    split at among
    · rcases mem_replace among with ⟨old,listed,own,rfl⟩ | old
      · exact action
      · exact integrity.settingActions other old
    · exact forall_concat integrity.settingActions action other among

theorem keeps_insertNotificationTarget (row : NotificationTargetRow) :
    Keeps Integrity (Tables.insertNotificationTarget row) := by
  refine keeps_constrained fun tables condition integrity => ?_
  obtain ⟨action,family,fresh⟩ := condition
  exact { integrity with
    notificationTargets := List.concat_eq_append ▸ integrity.notificationTargets.concat fresh
    targetActions := forall_concat integrity.targetActions action
    targetFamilies := forall_concat integrity.targetFamilies family }

theorem keeps_insertDestination (familyId : UInt32) (notificationType destination : String) (enabled : Bool) :
    Keeps Integrity (Tables.insertDestination familyId notificationType destination enabled) := by
  intro tables value next changed integrity
  unfold Tables.insertDestination at changed
  split at changed
  · cases changed
  · obtain ⟨family,same⟩ := Tables.constrained_ok.mp changed
    cases same
    have later (row : DestinationRow) (among : row ∈ tables.destinations) : row.id < tables.destinationSeq + 1 :=
      Nat.lt_succ_of_le (integrity.destinationSeq row among)
    refine { integrity with destinations := ?_, destinationSeq := ?_, destinationFamilies := ?_ }
    · rw [List.map_append,List.map_singleton]
      refine List.pairwise_append.mpr ⟨integrity.destinations,List.pairwise_singleton _ _,?_⟩
      rintro id among new fresh
      obtain ⟨row,listed,rfl⟩ := List.mem_map.mp among
      rw [List.mem_singleton.mp fresh]
      exact later row listed
    · exact forall_concat (fun row among => (later row among).le) le_rfl
    · exact forall_concat integrity.destinationFamilies family

theorem keeps_updateDestination (row : DestinationRow) : Keeps Integrity (Tables.updateDestination row) := by
  refine keeps_constrained fun tables condition integrity => ?_
  refine { integrity with destinations := ?_, destinationSeq := ?_, destinationFamilies := ?_ }
  · rw [map_replace DestinationRow.id row.id (fun _ => row) fun _ _ _ => rfl]
    exact integrity.destinations
  · intro other among
    rcases mem_replace among with ⟨old,listed,own,rfl⟩ | old
    · exact own ▸ integrity.destinationSeq old listed
    · exact integrity.destinationSeq other old
  · intro other among
    rcases mem_replace among with ⟨old,listed,own,rfl⟩ | old
    · exact condition.resolve_right fun unknown => unknown ⟨old,listed,own⟩
    · exact integrity.destinationFamilies other old

theorem keeps_insertEvent (row : EventRow) : Keeps Integrity (Tables.insertEvent row) := by
  intro tables value next changed integrity
  unfold Tables.insertEvent at changed
  split at changed
  · cases changed
    exact integrity
  · next fresh =>
    obtain ⟨device,same⟩ := Tables.constrained_ok.mp changed
    cases same
    exact { integrity with
      events := nodup_concat row integrity.events (by simpa only [Prod.mk.injEq] using fresh)
      eventDevices := forall_concat integrity.eventDevices device }

theorem keeps_single {good : Tables → Prop} (changed : Tables → Nat)
    {change : Tables → Except SqliteError (Unit × Tables)} (keeps : Keeps good change) :
    Keeps good (Tables.single changed change) := by
  intro tables value next single holds
  unfold Tables.single at single
  cases result : change tables with
  | error error => simp [result,Except.map] at single
  | ok pair =>
    simp only [result,Except.map,Except.ok.injEq,Prod.mk.injEq] at single
    exact keeps tables pair.1 next (by rw [result,← single.2]) holds

end UchiPulse.Db
