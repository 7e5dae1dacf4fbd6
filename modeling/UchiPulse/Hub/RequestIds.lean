import UchiPulse.Common.IdentifiedLine
import UchiPulse.Hub.Responses

/-! The identifier of the hub's responses. A line that is no request is answered under a
fixed identifier, whatever identifier it states. -/
namespace UchiPulse.Hub
open Common Db Sql Json

/-- What a request needs besides its identifier; `holds` are the values that can be decoded. -/
structure IsRequest (holds : List UInt8 → Prop) (object : ObjectText) : Prop where
  version : ∃ version : UInt8, object.States "version" (writeNat version.toNat)
  command : ∃ (command : CommandName) (raw : List UInt8), Quoted raw command.val.toList ∧
    object.States "command" (quote :: (raw ++ [quote]))
  params : ∃ params, holds params ∧ object.States "params" params

/-- The decoder takes the line exactly when it is a request, with the identifier it states. -/
structure Decodes {V : Type} (decoding : Decoding V) (holds : List UInt8 → Prop) (line : IdentifiedLine)
    (text : String) : Prop where
  bytes : Utf8.bytes text = line.text
  request : (∃ request, decoding.request text = .ok request) ↔ IsRequest holds line.object
  requestId : ∀ request, decoding.request text = .ok request → request.requestId = line.id

variable {V : Type} {env : Env} {self : Connection}

/-- Whatever the command does, there is a response with this identifier. -/
def Responds (env : Env) (self : Connection) (requestId : RequestId)
    (command : Program Env Connection String Response) : Prop :=
  ∃ response after, command env self = (.ok response,after) ∧ response.requestId = requestId

theorem responds_pure {response : Response} : Responds env self response.requestId (pure response) :=
  ⟨response,self,rfl,rfl⟩

theorem responds_respond {α : Type} (requestId : RequestId) (code : CdcErrorCode) (data : α → ResponseData)
    (command : Program Env Connection String α) :
    Responds env self requestId (respond requestId code data command) := by
  have first : (Program.attempt command : Program Env Connection String (Except String α)) env self =
      (.ok (command env self).1,(command env self).2) := Program.attempt_run command
  cases outcome : (command env self).1 with
  | ok value =>
    rw [outcome] at first
    exact ⟨responseOk requestId (data value),_,Program.bind_eq_ok.mpr ⟨_,_,first,rfl⟩,rfl⟩
  | error error =>
    rw [outcome] at first
    exact ⟨responseError requestId code error,_,Program.bind_eq_ok.mpr ⟨_,_,first,rfl⟩,rfl⟩

theorem responds_handleRequest (decoding : Decoding V) (request : CdcRequest V) :
    Responds env self request.requestId (handleRequest decoding request) := by
  unfold handleRequest
  split
  · exact responds_pure
  · exact responds_respond _ _ _ _
  · exact responds_respond _ _ _ _
  · exact responds_respond _ _ _ _
  · exact responds_respond _ _ _ _
  all_goals exact responds_pure

/-- A request is answered under its own identifier, any other line under the fixed one. -/
theorem handleLine_requestId (env : Env) (self : Connection) (decoding : Decoding V) (text : String) : ∃ response after,
    handleLine decoding text env self = (.ok response,after) ∧
      match decoding.request text with
      | .ok request => response.requestId = request.requestId
      | .error _ => response.requestId.val = "unknown" := by
  unfold handleLine
  cases decoding.request text with
  | error error => exact ⟨_,_,rfl,rfl⟩
  | ok request =>
    by_cases supported : request.version = cdcProtocolVersion
    · simp only [if_neg (not_not.mpr supported)]
      exact responds_handleRequest decoding request
    · simp only [if_pos supported]
      exact ⟨_,_,rfl,rfl⟩

theorem Response.write_eq (self : Response) : ∃ rest,
    Response.write self = [openBrace] ++ writeEntry ("version",writeNat self.version.toNat) ++ [comma] ++
      writeEntry ("request_id",compactText self.requestId.val) ++ [comma] ++ rest :=
  ⟨writeEntry ("status",compactText self.status.name) ++ writeRest writeEntry (Response.outcome self) ++ [closeBrace],
    by simp only [Response.write,writeObject,writeItems,writeRest_cons,List.append_assoc,List.cons_append,
      List.nil_append]⟩

/-- A client finds a plain identifier in what was written. -/
theorem Response.write_requestId {left right : Response} (first : Plain left.requestId.val)
    (second : Plain right.requestId.val) (same : Response.write left = Response.write right) :
    left.requestId.val = right.requestId.val := by
  obtain ⟨leftRest,leftShape⟩ := Response.write_eq left
  obtain ⟨rightRest,rightShape⟩ := Response.write_eq right
  rw [leftShape,rightShape] at same
  simp only [writeEntry,List.append_assoc,List.cons_append,List.nil_append,List.append_cancel_left_eq,
    List.cons.injEq,true_and] at same
  obtain ⟨-,same⟩ := writeNat_append_inj same
  simp only [List.append_cancel_left_eq,List.cons.injEq,true_and] at same
  rw [compactText_of_plain first,compactText_of_plain second] at same
  obtain ⟨identifier,-⟩ := writeText_append_inj same
  rwa [escape_of_plain first,escape_of_plain second] at identifier

/-- The hub's response is under the line's identifier. -/
def AnswersLine (decoding : Decoding V) (env : Env) (self : Connection) (line : IdentifiedLine)
    (text : String) : Prop :=
  ∃ response after, handleLine decoding text env self = (.ok response,after) ∧
    Answers Response.write line.id (Response.line response)

theorem answersLine_iff {decoding : Decoding V} {holds : List UInt8 → Prop} {line : IdentifiedLine}
    {text : String} (decodes : Decodes decoding holds line text) :
    AnswersLine decoding env self line text ↔ IsRequest holds line.object ∨ line.id.val = "unknown" := by
  obtain ⟨response,after,ran,requestId⟩ := handleLine_requestId env self decoding text
  have known : AnswersLine decoding env self line text ↔ response.requestId = line.id := by
    constructor
    · rintro ⟨response',after',ran',other,written,-,identifier⟩
      rw [ran] at ran'
      cases ran'
      have bytes := List.append_cancel_right written
      have plain : Plain response.requestId.val := by
        cases decoded : decoding.request text with
        | ok request =>
          rw [decoded] at requestId
          rw [requestId,decodes.requestId request decoded]
          exact line.plain
        | error error =>
          rw [decoded] at requestId
          rw [requestId]
          decide
      have same := Response.write_requestId plain (identifier ▸ line.plain) bytes
      exact Text.ext (same.trans (congrArg Text.val identifier))
    · intro same
      exact ⟨response,after,ran,response,rfl,Response.write_oneLine response,same⟩
  rw [known,← decodes.request]
  cases decoded : decoding.request text with
  | ok request =>
    rw [decoded] at requestId
    exact iff_of_true (requestId.trans (decodes.requestId request decoded)) (.inl ⟨request,rfl⟩)
  | error error =>
    rw [decoded] at requestId
    simp only [reduceCtorEq,exists_false,false_or]
    constructor
    · rintro same
      exact same ▸ requestId
    · intro same
      exact Text.ext (requestId.trans same.symm)

end UchiPulse.Hub
