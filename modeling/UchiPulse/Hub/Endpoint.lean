import UchiPulse.Hub.Cdc
import UchiPulse.Lib.Transaction

/-! What a line does to the endpoint's connection: it runs at most one command. -/
namespace UchiPulse.Hub
open Common Db Sql

variable {V : Type} {decoding : Decoding V} {env : Env} {self after : Connection}

theorem respond_run {α : Type} (requestId : RequestId) (code : CdcErrorCode) (data : α → ResponseData)
    (command : Program Env Connection String α) :
    respond requestId code data command env self =
      (.ok (match (command env self).1 with
        | .ok value => responseOk requestId (data value)
        | .error error => responseError requestId code error),(command env self).2) := by
  simp only [respond,Program.bind_run,Program.attempt_run]
  cases (command env self).1 <;> rfl

theorem setConfig_run (params : V) :
    setConfig decoding params env self =
      match decoding.config params with
      | .error error => (.error s!"invalid parent configuration: {error}",self)
      | .ok config =>
        match saveConfig decoding.display config env self with
        | (.ok (),next) => (.ok config,next)
        | (.error error,next) => (.error error,next) := by
  unfold setConfig
  cases decoding.config params with
  | error error => rfl
  | ok config =>
    change (saveConfig decoding.display config >>= fun _ => pure config) env self =
      match saveConfig decoding.display config env self with
      | (.ok (),next) => (.ok config,next)
      | (.error error,next) => (.error error,next)
    rw [Program.bind_run]
    rcases saveConfig decoding.display config env self with ⟨error | ⟨⟨⟩⟩,next⟩ <;> rfl

theorem handleLine_set {line : String} {request : CdcRequest V} (decoded : decoding.request line = .ok request)
    (supported : request.version = cdcProtocolVersion) (sets : request.command.val = "set_config") :
    handleLine decoding line =
      respond request.requestId .invalidConfig .config (setConfig decoding request.params) := by
  have command : handleRequest decoding request =
      respond request.requestId .invalidConfig .config (setConfig decoding request.params) := by
    unfold handleRequest
    rw [sets]
    rfl
  simp only [handleLine,decoded,supported,ne_eq,not_true_eq_false,if_false,command]

/-- The endpoint answers a `set_config` of this configuration with ok. -/
def Accepts (decoding : Decoding V) (line : String) (env : Env) (self : Connection) (config : ParentConfig) : Prop :=
  ∃ request response, decoding.request line = .ok request ∧ request.command.val = "set_config" ∧
    decoding.config request.params = .ok config ∧ (handleLine decoding line env self).1 = .ok response ∧
    response.status = .ok

/-- The one command of a line. -/
inductive LineEffect (decoding : Decoding V) (line : String) (env : Env) (self : Connection) : Connection → Prop
  | nothing : LineEffect decoding line env self self
  | loads : LineEffect decoding line env self (loadConfig decoding.display env self).2
  | looks : LineEffect decoding line env self (reporting decoding.display schemaVersion env self).2
  | resets : LineEffect decoding line env self (saveConfig decoding.display {} env self).2
  | sets (config : ParentConfig)
      (accepted : (saveConfig decoding.display config env self).1 = .ok () → Accepts decoding line env self config) :
      LineEffect decoding line env self (saveConfig decoding.display config env self).2

theorem handleRequest_effect {line : String} {request : CdcRequest V} (other : ¬ request.command.val = "set_config") :
    LineEffect decoding line env self (handleRequest decoding request env self).2 := by
  generalize ran : handleRequest decoding request = command
  unfold handleRequest at ran
  split at ran <;> subst ran
  · exact .nothing
  · rw [respond_run]
    exact .loads
  next sets => exact absurd sets other
  · rw [respond_run]
    exact .resets
  · rw [respond_run]
    exact .looks
  all_goals exact .nothing

theorem handleLine_effect (decoding : Decoding V) (line : String) (env : Env) (self : Connection) :
    LineEffect decoding line env self (handleLine decoding line env self).2 := by
  cases decoded : decoding.request line with
  | error error =>
    simp only [handleLine,decoded]
    exact .nothing
  | ok request =>
    by_cases supported : request.version = cdcProtocolVersion
    · by_cases sets : request.command.val = "set_config"
      · have ran := handleLine_set decoded supported sets
        cases found : decoding.config request.params with
        | error error =>
          simp only [ran,respond_run,setConfig_run,found]
          exact .nothing
        | ok config =>
          have after : (handleLine decoding line env self).2 = (saveConfig decoding.display config env self).2 := by
            simp only [ran,respond_run,setConfig_run,found]
            rcases saveConfig decoding.display config env self with ⟨error | ⟨⟨⟩⟩,next⟩ <;> rfl
          rw [after]
          refine .sets config fun saved => ?_
          refine ⟨request,responseOk request.requestId (.config config),decoded,sets,found,?_,rfl⟩
          simp only [ran,respond_run,setConfig_run,found]
          rcases stored : saveConfig decoding.display config env self with ⟨error | ⟨⟨⟩⟩,next⟩
          · rw [stored] at saved
            cases saved
          · rfl
      · have ran : handleLine decoding line = handleRequest decoding request := by
          simp only [handleLine,decoded,supported,ne_eq,not_true_eq_false,if_false]
        rw [ran]
        exact handleRequest_effect sets
    · simp only [handleLine,decoded,ne_eq,supported,not_false_eq_true,if_true]
      exact .nothing

end UchiPulse.Hub
