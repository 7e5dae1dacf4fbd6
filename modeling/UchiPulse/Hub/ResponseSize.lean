import Mathlib.Algebra.BigOperators.Group.List.Basic
import Mathlib.Algebra.Ring.Nat
import UchiPulse.Hub.LoadedConfig
import UchiPulse.Hub.Responses

/-! The size of a response with a configuration. The order of what an array holds does not
matter for it, so a configuration takes as many bytes as its normal form. -/
namespace UchiPulse.Hub
open Common Json

theorem writeArray_size {α : Type} (write : α → List UInt8) (items : List α) :
    (writeArray write items).length = arraySize (items.map fun item => (write item).length) := by
  rw [← writeItems_size]
  simp only [writeArray,List.length_cons,List.length_append,List.length_nil]

/-- What an array takes depends on its items up to their order. -/
theorem writeArray_perm {α : Type} (write : α → List UInt8) {items items' : List α}
    (perm : (items.map fun item => (write item).length).Perm (items'.map fun item => (write item).length)) :
    (writeArray write items).length = (writeArray write items').length := by
  rw [writeArray_size,writeArray_size,arraySize,arraySize,(perm.map (· + 1)).sum_nat]

theorem writeObject_congr {entries entries' : List (String × List UInt8)}
    (same : List.Forall₂ (fun entry entry' => entry.1 = entry'.1 ∧ entry.2.length = entry'.2.length)
      entries entries') : (writeObject entries).length = (writeObject entries').length := by
  have sizes : (entries.map fun entry => (entry.1,entry.2.length)) =
      entries'.map fun entry => (entry.1,entry.2.length) := by
    induction same with
    | nil => rfl
    | cons first others ih => rw [List.map_cons,List.map_cons,ih,first.1,first.2]
  rw [writeObject_size,writeObject_size,sizes]

theorem ActionConfig.write_normaliseAction (action : ActionConfig) :
    (normaliseAction action).write.length = action.write.length := by
  have targets := writeArray_perm writeU32
    ((List.perm_insertionSort (fun a b => a ≤ b) action.notificationTargets).map fun id => (writeU32 id).length)
  have changes := writeArray_perm StateChangeConfig.write
    ((List.perm_insertionSort (fun a b => stateTypeToStr a.stateType ≤ stateTypeToStr b.stateType)
      action.stateChanges).map fun change => change.write.length)
  refine writeObject_congr ?_
  refine .cons ⟨rfl,rfl⟩ <| .cons ⟨rfl,rfl⟩ <| .cons ⟨rfl,rfl⟩ <| .cons ⟨rfl,rfl⟩ <| .cons ⟨rfl,rfl⟩ <|
    .cons ⟨rfl,targets⟩ <| .cons ⟨rfl,changes⟩ <| .cons ⟨rfl,rfl⟩ <| .cons ⟨rfl,rfl⟩ <| .cons ⟨rfl,rfl⟩ .nil

/-- What is loaded takes as many bytes as what was saved. -/
theorem ParentConfig.write_normalise (config : ParentConfig) :
    (normalise config).write.length = config.write.length := by
  have actions : (writeArray ActionConfig.write (normalise config).actions).length =
      (writeArray ActionConfig.write config.actions).length := by
    apply writeArray_perm
    simp only [normalise,List.map_map,Function.comp_def,ActionConfig.write_normaliseAction]
    exact (List.perm_insertionSort _ _).map _
  have families := writeArray_perm FamilyConfig.write
    ((List.perm_insertionSort (fun a b => a.familyId ≤ b.familyId) config.families).map fun family =>
      family.write.length)
  have destinations := writeArray_perm FamilyNotificationDestinationConfig.write
    ((List.perm_insertionSort (fun a b => a.familyId ≤ b.familyId) config.familyNotificationDestinations).map
      fun destination => destination.write.length)
  exact writeObject_congr (.cons ⟨rfl,actions⟩ <| .cons ⟨rfl,families⟩ <| .cons ⟨rfl,destinations⟩ .nil)

/-- The members around a configuration and an identifier take 49 bytes. -/
theorem Response.write_config_length (requestId : RequestId) (config : ParentConfig) :
    (Response.write (responseOk requestId (.config config))).length =
      (compactText requestId.val).length + config.write.length + 49 := by
  have version : (writeNat cdcProtocolVersion.toNat).length = 1 := by decide
  have status : (compactText CdcStatus.ok.name).length = 4 := by decide
  rw [Response.write]
  simp only [responseOk,CdcResponse.success,Response.outcome,Option.map_some,Option.map_none,Option.toList_some,
    Option.toList_none,List.append_nil,writeObject_size,List.map_cons,List.map_nil,version,status,
    ResponseData.write,CdcResponse.success_size]
  omega

end UchiPulse.Hub
