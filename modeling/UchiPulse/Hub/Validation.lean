import UchiPulse.Hub.Processing

/-! The checks of an action. They only read; on an undisturbed connection they are a
function of the tables. -/
namespace UchiPulse.Hub
open Common Db Sql

def targetFrom (action : ActionRecord) (tables : Tables) : Except ActionError ActionStateScope :=
  match action.targetType,action.targetFamilyId with
  | .family,some familyId =>
    (Except.ok (tables.family familyId) : Except ActionError _) >>= fun family =>
      (if family = none then .error (.targetFamilyNotFound action.actionId familyId) else .ok ()) >>= fun () =>
        .ok (.family familyId)
  | .family,none => .error (.familyTargetMissing action.actionId)
  | .common,some _ => .error (.commonTargetHasFamily action.actionId)
  | .common,none => .ok .common

def validatedFrom (actionId : ActionId) (tables : Tables) : Except ActionError ValidatedAction :=
  (optional rowToAction (tables.action actionId)).mapError .database >>= fun found =>
    match found with
    | none => .error (.notFound actionId)
    | some action =>
      (if action.enabled = false then .error (.disabled actionId) else .ok ()) >>= fun () =>
        targetFrom action tables >>= fun scope =>
          ((tables.stateChangesOf actionId).mapM rowToStateChange).mapError .database >>= fun stateChanges =>
            .ok { action,scope,stateChanges }

section
variable {env : Env} {γ : Type} {part : Tables → γ}

theorem reads_failIf (condition : Prop) [Decidable condition] (error : ActionError) :
    Reads env (Program.failIf condition error : ActionEngine.Validation Unit)
      fun _ => if condition then .error error else .ok () := by
  unfold Program.failIf
  split
  · exact reads_fail error
  · exact reads_pure ()

theorem reads_validateTarget (quiet : Quiet env) (action : ActionRecord) :
    Reads env (ActionEngine.validateTarget action) (targetFrom action) := by
  unfold ActionEngine.validateTarget targetFrom
  cases action.targetType with
  | family =>
    cases action.targetFamilyId with
    | none => exact reads_fail _
    | some familyId =>
      exact reads_bind (reads_zoom _ (reads_query quiet _)) fun _ =>
        reads_bind (reads_failIf _ _) fun _ => reads_pure _
  | common =>
    cases action.targetFamilyId with
    | none => exact reads_pure _
    | some familyId => exact reads_fail _

theorem reads_validateEvent (quiet : Quiet env) (actionId : ActionId) :
    Reads env (ActionEngine.validateEvent actionId) (validatedFrom actionId) := by
  refine reads_bind (reads_zoom _ (reads_query quiet _)) fun found => ?_
  cases found with
  | none => exact reads_fail _
  | some action =>
    exact reads_bind (reads_failIf _ _) fun _ => reads_bind (reads_validateTarget quiet action) fun _ =>
      reads_bind (reads_zoom _ (reads_query quiet _)) fun _ => reads_pure _

/-! ### The engine along a relation -/

section
variable {R : Connection → Connection → Prop} (refl : ∀ self, R self self) (trans : ∀ a b c, R a b → R b c → R a c)
  (reads : ∀ {α : Type} (read : Tables → Except SqliteError α), Program.Moves env R (query read))
include refl trans reads

theorem along_validateEvent (actionId : ActionId) : Program.Moves env R (ActionEngine.validateEvent actionId) := by
  have database {α : Type} (read : Tables → Except SqliteError α) :
      Program.Moves env R (ActionEngine.database (query read)) :=
    Program.moves_zoom (reads read) fun _ _ => id
  have target (action : ActionRecord) : Program.Moves env R (ActionEngine.validateTarget action) := by
    unfold ActionEngine.validateTarget
    split
    · exact Program.moves_bind trans (database _) fun _ => Program.moves_bind trans
        (Program.moves_failIf refl _ _) fun _ => refl
    all_goals exact refl
  refine Program.moves_bind trans (database _) fun found => ?_
  cases found with
  | none => exact refl
  | some action =>
    exact Program.moves_bind trans (Program.moves_failIf refl _ _) fun _ =>
      Program.moves_bind trans (target action) fun _ => Program.moves_bind trans (database _) fun _ => refl

/-- The engine only reads. -/
theorem along_validates (engine : ActionEngine) (actionId : ActionId) :
    Program.Moves env R (ActionEngine.handler.validateEvent engine actionId) :=
  Program.moves_bind trans (along_validateEvent refl trans reads actionId) fun _ => refl

theorem along_handles (event : EventContext) :
    Program.Moves env (fun before after => R before.1 after.1) (ActionEngine.handler.handleEvent event) := by
  have trans' (a b c : Connection × ActionEngine) (first : R a.1 b.1) (second : R b.1 c.1) : R a.1 c.1 :=
    trans _ _ _ first second
  have refl' (a : Connection × ActionEngine) : R a.1 a.1 := refl a.1
  refine Program.moves_bind trans' ?_ fun _ => refl'
  refine Program.moves_bind trans' (Program.moves_zoom (along_validateEvent refl trans reads event.actionId)
    fun _ _ => id) fun plan => Program.moves_bind trans' refl' fun ⟨connection,engine⟩ => ?_
  rcases applied : engine.state.applyBatch plan.scope plan.stateChanges with ⟨error | value,state⟩ <;>
    simp only [applied]
  · exact refl'
  · refine Program.moves_bind trans' ?_ fun _ => refl'
    rintro ⟨connection,engine⟩
    exact refl connection

end

theorem keeps_handler (stable : Stable env part) : ActionEngine.handler.Keeps part env where
  validates := along_validates unmoved_refl unmoved_trans (moves_query stable)
  handles := along_handles unmoved_refl unmoved_trans (moves_query stable)

end

end UchiPulse.Hub
