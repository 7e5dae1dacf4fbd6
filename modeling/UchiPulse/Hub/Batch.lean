import UchiPulse.Hub.Action
import UchiPulse.Lib.Entries

/-! Batches of state changes. A batch is refused exactly when it names a state type twice;
otherwise its changes are entries of distinct keys, whose order does not matter. -/
namespace UchiPulse.Hub
open Common Db

namespace ActionStateManager

/-- What a change writes. -/
def entry (scope : ActionStateScope) (change : ActionStateChangeRecord) : ActionStateKey × StateValue :=
  ({ scope,stateType := change.stateType },change.stateValue)

/-- No state type is named twice. -/
def Distinct (changes : List ActionStateChangeRecord) : Prop := (changes.map (·.stateType)).Nodup

section
variable {scope : ActionStateScope} {changes changes' : List ActionStateChangeRecord}

theorem insert_update (values : ActionStateKey → Option StateValue) (key : ActionStateKey) (value : StateValue) :
    insert values key value = Function.update values key (some value) := by
  funext other
  rw [insert,Function.update_apply]

theorem applyChanges_write (self : ActionStateManager) (scope : ActionStateScope)
    (changes : List ActionStateChangeRecord) :
    (self.applyChanges scope changes).values = Entries.write self.values (changes.map (entry scope)) := by
  simp only [applyChanges,Entries.write,List.foldl_map,insert_update,entry]

theorem entry_keys (scope : ActionStateScope) (changes : List ActionStateChangeRecord) :
    (changes.map (entry scope)).map Prod.fst =
      changes.map fun change => { scope,stateType := change.stateType } := by
  rw [List.map_map]
  rfl

theorem entries_nodup (distinct : Distinct changes) :
    ((changes.map (entry scope)).map Prod.fst).Nodup := by
  rw [entry_keys]
  refine List.Nodup.of_map ActionStateKey.stateType ?_
  rwa [List.map_map]

/-- Different scopes share no key. -/
theorem entries_disjoint {other : ActionStateScope} (apart : other ≠ scope) (distinct : Distinct changes)
    (distinct' : Distinct changes') :
    ((changes.map (entry scope) ++ changes'.map (entry other)).map Prod.fst).Nodup := by
  rw [List.map_append]
  refine List.nodup_append.mpr ⟨entries_nodup distinct,entries_nodup distinct',?_⟩
  rw [entry_keys,entry_keys]
  rintro _ left _ right rfl
  obtain ⟨change,-,rfl⟩ := List.mem_map.mp left
  obtain ⟨change',-,same⟩ := List.mem_map.mp right
  exact apart (ActionStateKey.mk.inj same).1

/-! ### What a batch does -/

/-- The loop gets to its end only past types that are new. -/
theorem distinct_of_stage {values staged : ActionStateKey → Option StateValue} {seen : List StateType}
    (ok : stage scope values seen changes = .ok staged) :
    (∀ change ∈ changes, change.stateType ∉ seen) ∧ Distinct changes := by
  induction changes generalizing values seen with
  | nil => exact ⟨fun change member => (by cases member),List.nodup_nil⟩
  | cons change changes ih =>
    rw [stage] at ok
    split at ok
    next => cases ok
    next new =>
      obtain ⟨later,distinct⟩ := ih ok
      simp only [List.mem_append,List.mem_singleton,not_or] at later
      refine ⟨List.forall_mem_cons.mpr ⟨new,fun other member => (later other member).1⟩,?_⟩
      refine List.nodup_cons.mpr ⟨fun again => ?_,distinct⟩
      obtain ⟨other,member,same⟩ := List.mem_map.mp again
      exact (later other member).2 same

/-- A batch with a repeated type leaves the map. -/
theorem applyBatch_repeats (self : ActionStateManager) (scope : ActionStateScope) (repeats : ¬ Distinct changes) :
    ∃ error, self.applyBatch scope changes = (.error error,self) := by
  unfold applyBatch
  cases staged : stage scope self.values [] changes with
  | ok values => exact absurd (distinct_of_stage staged).2 repeats
  | error error => exact ⟨error,rfl⟩

theorem applyBatch_ok_iff (self : ActionStateManager) :
    (self.applyBatch scope changes).1 = .ok () ↔ Distinct changes := by
  refine ⟨fun ok => ?_,fun distinct => by rw [applyBatch_nodup self scope changes distinct]⟩
  by_contra repeats
  obtain ⟨error,refused⟩ := self.applyBatch_repeats scope repeats
  rw [refused] at ok
  cases ok

theorem applyChanges_get (self : ActionStateManager) (distinct : Distinct changes)
    {change : ActionStateChangeRecord} (member : change ∈ changes) :
    (self.applyChanges scope changes).get scope change.stateType = some change.stateValue := by
  rw [get,applyChanges_write]
  exact Entries.write_of_mem (entries_nodup distinct) (List.mem_map_of_mem member)

theorem applyChanges_perm (self : ActionStateManager) (distinct : Distinct changes)
    (same : changes.Perm changes') : self.applyChanges scope changes = self.applyChanges scope changes' := by
  have values : (self.applyChanges scope changes).values = (self.applyChanges scope changes').values := by
    rw [applyChanges_write,applyChanges_write]
    exact Entries.write_perm (entries_nodup distinct) (same.map (entry scope)) self.values
  exact congrArg ActionStateManager.mk values

theorem applyChanges_comm (self : ActionStateManager) {other : ActionStateScope} (apart : other ≠ scope)
    (distinct : Distinct changes) (distinct' : Distinct changes') :
    (self.applyChanges scope changes).applyChanges other changes' =
      (self.applyChanges other changes').applyChanges scope changes := by
  have values : ((self.applyChanges scope changes).applyChanges other changes').values =
      ((self.applyChanges other changes').applyChanges scope changes).values := by
    simp only [applyChanges_write]
    exact Entries.write_comm (entries_disjoint apart distinct distinct') self.values
  exact congrArg ActionStateManager.mk values

end

end ActionStateManager

/-- A batch fails exactly when a state type occurs twice, and then changes nothing. Otherwise
every listed type has its listed value and every other key the one it had. The order of a
batch does not matter, nor does that of two batches for different scopes. -/
theorem batch_atomic_exact (self : ActionStateManager) (scope : ActionStateScope)
    (changes : List ActionStateChangeRecord) :
    let result := self.applyBatch scope changes
    ((∃ error, result.1 = .error error) ↔ ¬ (changes.map (·.stateType)).Nodup) ∧
    ((∃ error, result.1 = .error error) → result.2 = self) ∧
    (result.1 = .ok () →
      (∀ change ∈ changes, result.2.get scope change.stateType = some change.stateValue) ∧
      ∀ other stateType, (other = scope → ∀ change ∈ changes, change.stateType ≠ stateType) →
        result.2.get other stateType = self.get other stateType) ∧
    (∀ changes', changes.Perm changes' →
      let result' := self.applyBatch scope changes'
      (result.1 = .ok () ↔ result'.1 = .ok ()) ∧ result.2 = result'.2) ∧
    ∀ other changes', other ≠ scope →
      let result' := self.applyBatch other changes'
      result.1 = .ok () → result'.1 = .ok () →
        result.2.applyBatch other changes' = result'.2.applyBatch scope changes := by
  intro result
  by_cases distinct : ActionStateManager.Distinct changes
  · have applied : result = (.ok (),self.applyChanges scope changes) :=
      self.applyBatch_nodup scope changes distinct
    have passed : ¬ ∃ error, result.1 = .error error := by
      rw [applied]
      rintro ⟨error,⟨⟩⟩
    refine ⟨iff_of_false passed (not_not.mpr distinct),fun failed => absurd failed passed,fun _ => ?_,?_,?_⟩
    · rw [applied]
      refine ⟨fun change member => self.applyChanges_get distinct member,fun other stateType apart => ?_⟩
      exact self.applyChanges_get_of_not changes fun change member same => apart same.symm change member
    · intro changes' same result'
      have distinct' : ActionStateManager.Distinct changes' := (same.map _).nodup_iff.mp distinct
      rw [applied,show result' = _ from self.applyBatch_nodup scope changes' distinct']
      exact ⟨Iff.rfl,self.applyChanges_perm distinct same⟩
    · intro other changes' apart result' _ ok'
      have distinct' := self.applyBatch_ok_iff.mp ok'
      rw [applied,show result' = _ from self.applyBatch_nodup other changes' distinct',
        ActionStateManager.applyBatch_nodup _ other changes' distinct',
        ActionStateManager.applyBatch_nodup _ scope changes distinct,self.applyChanges_comm apart distinct distinct']
  · obtain ⟨error,refused⟩ := self.applyBatch_repeats scope distinct
    have failed : result = (.error error,self) := refused
    have stopped : ¬ result.1 = .ok () := by
      rw [failed]
      rintro ⟨⟩
    refine ⟨iff_of_true ⟨error,by rw [failed]⟩ distinct,fun _ => by rw [failed],fun ok => absurd ok stopped,?_,?_⟩
    · intro changes' same result'
      have repeats' : ¬ ActionStateManager.Distinct changes' := fun distinct' =>
        distinct ((same.map _).nodup_iff.mpr distinct')
      obtain ⟨error',refused'⟩ := self.applyBatch_repeats scope repeats'
      have failed' : result' = (.error error',self) := refused'
      rw [failed']
      refine ⟨iff_of_false stopped (by rintro ⟨⟩),?_⟩
      rw [failed]
    · exact fun other changes' apart ok => absurd ok stopped

end UchiPulse.Hub
