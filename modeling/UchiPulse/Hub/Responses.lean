import UchiPulse.Hub.Cdc
import UchiPulse.Lib.Compact

/-! The bytes of the hub's responses. The members of a configuration come out in the
order of their names, those of a response in the order of its fields. -/
namespace UchiPulse.Hub
open Common Json

def writeArray {α : Type} (write : α → List UInt8) (items : List α) : List UInt8 :=
  openBracket :: (writeItems write items ++ [closeBracket])

def writeNull : List UInt8 := [110,117,108,108]

def writeOption {α : Type} (write : α → List UInt8) : Option α → List UInt8
  | none => writeNull
  | some value => write value

def writeU32 (value : UInt32) : List UInt8 := writeNat value.toNat

def FamilyConfig.write (self : FamilyConfig) : List UInt8 :=
  writeObject [("display_name",compactText self.displayName),("enabled",writeBool self.enabled),
    ("family_id",writeU32 self.familyId)]

def StateChangeConfig.write (self : StateChangeConfig) : List UInt8 :=
  writeObject [("state_type",compactText (stateTypeToStr self.stateType)),
    ("state_value",compactText (stateValueToStr self.stateValue))]

def ActionConfig.write (self : ActionConfig) : List UInt8 :=
  writeObject [("action_id",writeU32 self.actionId),("action_name",compactText self.actionName),
    ("enabled",writeBool self.enabled),("notification_enabled",writeBool self.notificationEnabled),
    ("notification_message",writeOption compactText self.notificationMessage),
    ("notification_targets",writeArray writeU32 self.notificationTargets),
    ("state_changes",writeArray StateChangeConfig.write self.stateChanges),
    ("target_family_id",writeOption writeU32 self.targetFamilyId),
    ("target_type",compactText (targetTypeToStr self.targetType)),
    ("web_message",writeOption compactText self.webMessage)]

def FamilyNotificationDestinationConfig.write (self : FamilyNotificationDestinationConfig) : List UInt8 :=
  writeObject [("destination",compactText self.destination),("enabled",writeBool self.enabled),
    ("family_id",writeU32 self.familyId),("notification_type",compactText self.notificationType)]

def ParentConfig.write (self : ParentConfig) : List UInt8 :=
  writeObject [("actions",writeArray ActionConfig.write self.actions),
    ("families",writeArray FamilyConfig.write self.families),
    ("family_notification_destinations",
      writeArray FamilyNotificationDestinationConfig.write self.familyNotificationDestinations)]

def ResponseData.write : ResponseData → List UInt8
  | .info deviceType protocolVersion capabilities => writeObject [
      ("capabilities",writeArray compactText capabilities),("device_type",compactText deviceType),
      ("protocol_version",writeNat protocolVersion.toNat)]
  | .config found => found.write
  | .status deviceType schemaVersion => writeObject [("device_type",compactText deviceType),
      ("schema_version",writeNat schemaVersion)]
  | .empty => writeObject []

def writeError (error : CdcError) : List UInt8 :=
  writeObject [("code",compactText error.code.name),("message",compactText error.message.val)]

/-- The members behind the status; absent ones are not written. -/
def Response.outcome (self : Response) : List (String × List UInt8) :=
  (self.data.map fun data => ("data",data.write)).toList ++
    (self.error.map fun error => ("error",writeError error)).toList

def Response.write (self : Response) : List UInt8 :=
  writeObject (("version",writeNat self.version.toNat) :: ("request_id",compactText self.requestId.val) ::
    ("status",compactText self.status.name) :: Response.outcome self)

/-- What goes out on the port. -/
def Response.line (self : Response) : List UInt8 := Response.write self ++ [lineFeed]

/-! ### Every response is one line -/

theorem writeArray_oneLine {α : Type} {write : α → List UInt8} (each : ∀ item, OneLine (write item))
    (items : List α) : OneLine (writeArray write items) := by
  have opens : OneLine [openBracket] := by decide
  have closes : OneLine [closeBracket] := by decide
  exact opens.append ((writeItems_oneLine fun item _ => each item).append closes)

theorem writeOption_oneLine {α : Type} {write : α → List UInt8} (each : ∀ item, OneLine (write item))
    (value : Option α) : OneLine (writeOption write value) := by
  cases value with
  | none => exact (by decide : OneLine writeNull)
  | some value => exact each value

theorem writeU32_oneLine (value : UInt32) : OneLine (writeU32 value) := writeNat_oneLine _

theorem writeBool_oneLine (value : Bool) : OneLine (writeBool value) := by cases value <;> decide

/-- Plain names and values of one line, entry by entry. -/
theorem oneLine_entries {entries : List (String × List UInt8)} (names : ∀ entry ∈ entries, Plain entry.1)
    (values : entries.Forall fun entry => OneLine entry.2) : OneLine (writeObject entries) :=
  writeObject_oneLine fun entry member =>
    ⟨names entry member,List.forall_iff_forall_mem.mp values entry member⟩

theorem FamilyConfig.write_oneLine (self : FamilyConfig) : OneLine self.write := by
  refine oneLine_entries (by simp; decide) ?_
  exact ⟨compactText_oneLine _,writeBool_oneLine _,writeU32_oneLine _⟩

theorem StateChangeConfig.write_oneLine (self : StateChangeConfig) : OneLine self.write := by
  refine oneLine_entries (by simp; decide) ?_
  exact ⟨compactText_oneLine _,compactText_oneLine _⟩

theorem ActionConfig.write_oneLine (self : ActionConfig) : OneLine self.write := by
  refine oneLine_entries (by simp; decide) ?_
  exact ⟨writeU32_oneLine _,compactText_oneLine _,writeBool_oneLine _,writeBool_oneLine _,
    writeOption_oneLine compactText_oneLine _,writeArray_oneLine writeU32_oneLine _,
    writeArray_oneLine StateChangeConfig.write_oneLine _,writeOption_oneLine writeU32_oneLine _,
    compactText_oneLine _,writeOption_oneLine compactText_oneLine _⟩

theorem FamilyNotificationDestinationConfig.write_oneLine (self : FamilyNotificationDestinationConfig) :
    OneLine self.write := by
  refine oneLine_entries (by simp; decide) ?_
  exact ⟨compactText_oneLine _,writeBool_oneLine _,writeU32_oneLine _,compactText_oneLine _⟩

theorem ParentConfig.write_oneLine (self : ParentConfig) : OneLine self.write := by
  refine oneLine_entries (by simp; decide) ?_
  exact ⟨writeArray_oneLine ActionConfig.write_oneLine _,writeArray_oneLine FamilyConfig.write_oneLine _,
    writeArray_oneLine FamilyNotificationDestinationConfig.write_oneLine _⟩

theorem ResponseData.write_oneLine (self : ResponseData) : OneLine self.write := by
  cases self with
  | info deviceType protocolVersion capabilities =>
    simp only [ResponseData.write]
    refine oneLine_entries (by simp; decide) ?_
    exact ⟨writeArray_oneLine compactText_oneLine _,compactText_oneLine _,writeNat_oneLine _⟩
  | config found => exact found.write_oneLine
  | status deviceType schemaVersion =>
    simp only [ResponseData.write]
    refine oneLine_entries (by simp; decide) ?_
    exact ⟨compactText_oneLine _,writeNat_oneLine _⟩
  | empty => exact (by decide : OneLine (writeObject []))

theorem writeError_oneLine (error : CdcError) : OneLine (writeError error) := by
  refine oneLine_entries (by simp; decide) ?_
  exact ⟨compactText_oneLine _,compactText_oneLine _⟩

theorem Response.write_oneLine (self : Response) : OneLine (Response.write self) := by
  refine writeObject_oneLine fun entry member => ?_
  simp only [List.mem_cons] at member
  rcases member with rfl | rfl | rfl | member
  · exact entry_oneLine (by decide) (writeNat_oneLine _)
  · exact entry_oneLine (by decide) (compactText_oneLine _)
  · exact entry_oneLine (by decide) (compactText_oneLine _)
  · rcases List.mem_append.mp member with inData | inError
    · obtain ⟨data,-,rfl⟩ := by simpa using inData
      exact entry_oneLine (by decide) data.write_oneLine
    · obtain ⟨error,-,rfl⟩ := by simpa using inError
      exact entry_oneLine (by decide) (writeError_oneLine error)

end UchiPulse.Hub
