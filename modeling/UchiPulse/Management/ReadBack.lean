import UchiPulse.Control.Protocol
import UchiPulse.Hub.LineDecoder
import UchiPulse.Hub.ResponseSize

/-! What the hub stores for a client, and whether the client can read it back. The limit of
the control app is on the hub's text of the configuration, not on the client's. -/
namespace UchiPulse.Management
open Common Db Sql Json Hub

variable {V : Type} {decoding : Decoding V} {env : Env} {self after : Connection}

/-! ### The two commands -/

/-- A `get_config` is answered with what is loaded. -/
theorem handleLine_loaded {line : String} {request : CdcRequest V}
    (decoded : decoding.request line = .ok request) (supported : request.version = cdcProtocolVersion)
    (gets : request.command.val = "get_config") :
    handleLine decoding line =
      respond request.requestId .operationFailed .config (loadConfig decoding.display) := by
  have command : handleRequest decoding request =
      respond request.requestId .operationFailed .config (loadConfig decoding.display) := by
    unfold handleRequest
    rw [gets]
    rfl
  simp only [handleLine,decoded,supported,ne_eq,not_true_eq_false,if_false,command]

/-- A `set_config` that is answered with ok has saved the configuration. -/
theorem handleLine_stored {line : String} {request : CdcRequest V} {response : Response}
    (decoded : decoding.request line = .ok request) (sets : request.command.val = "set_config")
    (ran : handleLine decoding line env self = (.ok response,after)) (ok : response.status = .ok) :
    ∃ config, decoding.config request.params = .ok config ∧
      saveConfig decoding.display config env self = (.ok (),after) := by
  by_cases supported : request.version = cdcProtocolVersion
  · rw [handleLine_set decoded supported sets,respond_run,setConfig_run] at ran
    cases found : decoding.config request.params with
    | error error =>
      rw [found] at ran
      cases ran
      cases ok
    | ok config =>
      simp only [found] at ran
      rcases saved : saveConfig decoding.display config env self with ⟨error | ⟨⟨⟩⟩,between⟩
      · rw [saved] at ran
        cases ran
        cases ok
      · rw [saved] at ran
        cases ran
        exact ⟨config,rfl,saved⟩
  · simp only [handleLine,decoded,ne_eq,supported,not_false_eq_true,if_true] at ran
    cases ran
    cases ok

/-! ### Reading back -/

/-- The control app takes the response as one line, with all that was sent. -/
def Delivers (display : List UInt8 → String) (pieces : List (List UInt8)) (response : Response) : Prop :=
  ∃ text, (Control.LineDecoder.initial.feedAll display pieces).2 = [.ok text] ∧
    Utf8.bytes text = Response.write response

theorem delivers_iff {display : List UInt8 → String} {pieces : List (List UInt8)} {response : Response}
    (whole : pieces.flatten = Response.line response) :
    Delivers display pieces response ↔ (Response.write response).length < Control.maxCdcLineSize := by
  obtain ⟨⟨text,decoded⟩,free⟩ := Response.write_oneLine response
  have ending : (Response.write response).getLast? = some closeBrace := by
    simp only [Response.write,writeObject]
    exact List.getLast?_concat ..
  have kept : Control.stripSuffix 13 (Response.write response) = Response.write response := by
    rw [Control.stripSuffix,ending]
    exact if_neg (by decide)
  rw [Delivers,Control.LineDecoder.feedAll_line pieces _ free whole,kept,Control.responseText,decoded]
  by_cases fits : (Response.write response).length < Control.maxCdcLineSize
  · simp only [fits,iff_true]
    exact ⟨text,rfl,Utf8.decode_eq_some.mp decoded⟩
  · simp only [fits,iff_false]
    rintro ⟨_,same,-⟩
    cases same

/-- The hub's text of the configuration leaves room for the identifier and 49 more bytes. -/
def Fits (config : ParentConfig) (requestId : RequestId) : Prop :=
  (compactText requestId.val).length + config.write.length + 49 < Control.maxCdcLineSize

/-- A failure is short. -/
theorem failure_fits (requestId : RequestId) (code : CdcErrorCode) (message : String) :
    (Response.write (responseError requestId code message)).length < Control.maxCdcLineSize := by
  have limit : Control.maxCdcLineSize = 65536 := rfl
  have version : (writeEntry ("version",writeNat cdcProtocolVersion.toNat)).length = 11 := by decide
  have status : (writeEntry ("status",compactText CdcStatus.error.name)).length = 16 := by decide
  have requestKey : (Utf8.bytes "request_id").length = 10 := by decide
  have errorKey : (Utf8.bytes "error").length = 5 := by decide
  have codeKey : (Utf8.bytes "code").length = 4 := by decide
  have messageKey : (Utf8.bytes "message").length = 7 := by decide
  have name : (compactText code.name).length ≤ 21 := by cases code <;> decide
  have identifier := compactText_length requestId.val
  have fits := requestId.fits
  have failed (short : Text 128) : (Response.write (.failure cdcProtocolVersion requestId code short)).length <
      Control.maxCdcLineSize := by
    have text := compactText_length short.val
    have fits' := short.fits
    simp only [Response.write,CdcResponse.failure,Response.outcome,Option.map_some,Option.map_none,
      Option.toList_some,Option.toList_none,List.nil_append,writeObject,writeItems,writeRest_cons,
      List.length_cons,List.length_append,List.length_nil,version,status]
    simp only [writeEntry,writeError,writeObject,writeItems,writeRest,List.flatMap_cons,List.flatMap_nil,
      List.length_cons,List.length_append,List.length_nil,requestKey,errorKey,codeKey,messageKey]
    simp only [requestIdCapacity] at fits
    omega
  exact failed _

/-- After a save, an undisturbed load is answered with the normal form. -/
theorem loaded_answer {config : ParentConfig} {getLine : String} {asked : CdcRequest V} {env' : Env}
    (quiet : Quiet env') (committed : saveConfig decoding.display config env self = (.ok (),after))
    (get : decoding.request getLine = .ok asked) (supported : asked.version = cdcProtocolVersion)
    (getConfig : asked.command.val = "get_config") : ∃ next,
      handleLine decoding getLine env' after =
        (.ok (responseOk asked.requestId (.config (normalise config))),next) := by
  obtain ⟨passed,closed,written⟩ := saveConfig_ok committed
  have view : after.view = Hub.written config (self.tick env).committed := by
    simpa [Connection.view,closed] using written
  obtain ⟨clock,found⟩ := loadConfig_written quiet decoding.display (valid_of_validateConfig passed) after _ view
  rw [handleLine_loaded get supported getConfig,respond_run,found]
  exact ⟨_,rfl⟩

/-- A successful `set_config` stores a configuration that a later `get_config` delivers to
the control app when it fits, unless others write to the configuration meanwhile; when no
statement fails, only then. -/
theorem stored_config_is_delivered (decoding : Decoding V) (display : List UInt8 → String)
    {setLine getLine : String} {stored asked : CdcRequest V} {env env' : Env} {self after next : Connection}
    {response answer : Response} (set : decoding.request setLine = .ok stored)
    (setConfig : stored.command.val = "set_config")
    (saved : handleLine decoding setLine env self = (.ok response,after)) (ok : response.status = .ok)
    (get : decoding.request getLine = .ok asked) (supported : asked.version = cdcProtocolVersion)
    (getConfig : asked.command.val = "get_config") (stable : Stable env' configTables)
    (loaded : handleLine decoding getLine env' after = (.ok answer,next)) :
    ∃ config, decoding.config stored.params = .ok config ∧
      ∀ pieces, pieces.flatten = Response.line answer →
        (Fits config asked.requestId → Delivers display pieces answer) ∧
        (Quiet env' → Delivers display pieces answer → Fits config asked.requestId) := by
  obtain ⟨config,decoded,committed⟩ := handleLine_stored set setConfig saved ok
  refine ⟨config,decoded,fun pieces whole => ?_⟩
  rw [delivers_iff whole]
  have size : (Response.write (responseOk asked.requestId (.config (normalise config)))).length <
      Control.maxCdcLineSize ↔ Fits config asked.requestId := by
    rw [Response.write_config_length,ParentConfig.write_normalise,Fits]
  constructor
  · intro fits
    obtain ⟨passed,closed,written⟩ := saveConfig_ok committed
    rw [handleLine_loaded get supported getConfig,respond_run] at loaded
    obtain ⟨same,-⟩ := Prod.mk.inj loaded
    cases same
    rcases loadConfig_found stable decoding.display (valid_of_validateConfig passed) closed written
      Prod.mk.eta.symm with found | ⟨error,failed⟩
    · rw [found]
      exact size.mpr fits
    · rw [failed]
      exact failure_fits _ _ _
  · intro quiet
    obtain ⟨next',answered⟩ := loaded_answer quiet committed get supported getConfig
    rw [answered] at loaded
    cases loaded
    exact size.mp

/-! ### A family with a long name -/

def repeated (n : Nat) : String := String.ofList (List.replicate n 'a')

theorem repeated_bytes (n : Nat) : Utf8.bytes (repeated n) = List.replicate n 97 := by
  rw [repeated,Utf8.bytes_ofList]
  induction n with
  | zero => rfl
  | succ n ih =>
    rw [List.replicate_succ,List.flatMap_cons,ih]
    rfl

theorem repeated_plain (n : Nat) : Plain (repeated n) := by
  intro char member
  rw [repeated,String.toList_ofList] at member
  rw [List.eq_of_mem_replicate member]
  decide

def oneFamily (name : String) : ParentConfig where
  families := [{ familyId := 1,displayName := name,enabled := true }]

/-- The longest identifier. -/
def longId : RequestId := ⟨repeated 64,by rw [repeated_bytes,List.length_replicate]; decide⟩

def setFront : String :=
  "\x7b\"version\":1,\"request_id\":\"1\",\"command\":\"set_config\",\"params\":\x7b\"families\":[\x7b" ++
    "\"family_id\":1,\"display_name\":\""

def setBack : String := "\",\"enabled\":true\x7d],\"actions\":[],\"family_notification_destinations\":[]\x7d\x7d"

def setLine (name : String) : String := setFront ++ name ++ setBack

def getFront : String := "\x7b\"version\":1,\"request_id\":\""
def getBack : String := "\",\"command\":\"get_config\",\"params\":\x7b\x7d\x7d"

def getLine : String := getFront ++ longId.val ++ getBack

theorem setLine_length (name : String) : (Utf8.bytes (setLine name)).length = (Utf8.bytes name).length + 177 := by
  have front : (Utf8.bytes setFront).length = 106 := by decide +kernel
  have back : (Utf8.bytes setBack).length = 71 := by decide +kernel
  simp only [setLine,Utf8.bytes_append,List.length_append,front,back]
  omega

theorem getLine_length : (Utf8.bytes getLine).length = 128 := by
  have front : (Utf8.bytes getFront).length = 27 := by decide +kernel
  have back : (Utf8.bytes getBack).length = 37 := by decide +kernel
  simp only [getLine,longId,Utf8.bytes_append,List.length_append,front,back,repeated_bytes,List.length_replicate]

theorem setLine_ne (name : String) : setLine name ≠ getLine := by
  intro same
  have size := setLine_length name
  rw [same,getLine_length] at size
  omega

/-- A line without line feed, and with another ending than a carriage return, is delivered as it is. -/
theorem port_delivers (line : String) (free : lineFeed ∉ Utf8.bytes line)
    (ending : ∃ front last, line = front ++ String.singleton last ∧ last ≠ '\r')
    (fits : (Utf8.bytes line).length ≤ Hub.maxCdcLineSize) :
    (Hub.LineDecoder.initial.feedAll [Utf8.bytes line ++ [lineFeed]]).2 = [line] := by
  obtain ⟨front,last,shape,other⟩ := ending
  have kept : trimEndMatches '\r' line = line := by
    have chars : line.toList = front.toList ++ [last] := by rw [shape,String.toList_append,String.toList_singleton]
    rw [trimEndMatches,chars,List.rdropWhile_concat_neg,← chars,String.ofList_toList]
    simpa using other
  rw [Hub.LineDecoder.feedAll_line _ (Utf8.bytes line) free (by simp),if_pos fits,Utf8.lossy_bytes,kept]

def storing (name : String) : CdcRequest ParentConfig where
  version := 1
  requestId := firstRequestId
  command := setConfigCommand
  params := oneFamily name

def asking : CdcRequest ParentConfig where
  version := 1
  requestId := longId
  command := ⟨"get_config",by decide⟩
  params := {}

/-- What the decoder makes of the two lines. -/
def familyDecoding (name : String) : Decoding ParentConfig where
  request line := .ok (if line = getLine then asking else storing name)
  config params := .ok params
  display _ := "error"

theorem familyDecoding_set (name : String) :
    (familyDecoding name).request (setLine name) = .ok (storing name) := by
  simp only [familyDecoding,if_neg (setLine_ne name)]

theorem familyDecoding_get (name : String) : (familyDecoding name).request getLine = .ok asking := by
  simp only [familyDecoding,if_true]

/-- A family that is stored is answered with ok. -/
theorem setLine_answered (name : String)
    (saved : (saveConfig (fun _ => "error") (oneFamily name) Env.quiet (.opened Tables.empty)).1 = .ok ()) :
    ∃ response after, handleLine (familyDecoding name) (setLine name) Env.quiet (.opened Tables.empty) =
      (.ok response,after) ∧ response.status = .ok := by
  have set : setConfig (familyDecoding name) (oneFamily name) Env.quiet (.opened Tables.empty) =
      (.ok (oneFamily name),(saveConfig (fun _ => "error") (oneFamily name) Env.quiet (.opened Tables.empty)).2) := by
    have done : saveConfig (familyDecoding name).display (oneFamily name) Env.quiet (.opened Tables.empty) =
        (.ok (),(saveConfig (fun _ => "error") (oneFamily name) Env.quiet (.opened Tables.empty)).2) :=
      Program.result_eq saved
    rw [setConfig_run,show (familyDecoding name).config (oneFamily name) = .ok (oneFamily name) from rfl]
    simp only [done]
  have ran : handleLine (familyDecoding name) (setLine name) Env.quiet (.opened Tables.empty) =
      (.ok (responseOk (storing name).requestId (.config (oneFamily name))),
        (saveConfig (fun _ => "error") (oneFamily name) Env.quiet (.opened Tables.empty)).2) := by
    rw [handleLine_set (familyDecoding_set name) rfl rfl,respond_run,
      show (storing name).params = oneFamily name from rfl,set]
  exact ⟨_,_,ran,rfl⟩

/-- The hub takes and stores the name; the control app does not get it back. -/
def longName : String := repeated 65350

theorem oneFamily_length (name : String) :
    (oneFamily name).write.length = (compactText name).length + 112 := by
  have actions : (writeEntry ("actions",writeArray ActionConfig.write [])).length = 12 := by decide
  have key : (Utf8.bytes "display_name").length = 12 := by decide
  have enabled : (writeEntry ("enabled",writeBool true)).length = 14 := by decide
  have familyId : (writeEntry ("family_id",writeU32 1)).length = 13 := by decide
  have families : (Utf8.bytes "families").length = 8 := by decide
  have destinations : (writeEntry ("family_notification_destinations",
      writeArray FamilyNotificationDestinationConfig.write [])).length = 37 := by decide
  have name : (FamilyConfig.write { familyId := 1,displayName := name,enabled := true }).length =
      (compactText name).length + 46 := by
    simp only [FamilyConfig.write,writeObject,writeItems,writeRest,List.flatMap_cons,List.flatMap_nil,
      List.length_cons,List.length_append,List.length_nil,enabled,familyId]
    simp only [writeEntry,List.length_cons,List.length_append,key]
    omega
  simp only [ParentConfig.write,oneFamily,writeObject,writeItems,writeRest,List.flatMap_cons,List.flatMap_nil,
    List.length_cons,List.length_append,List.length_nil,actions,destinations]
  simp only [writeEntry,writeArray,writeItems,writeRest,List.flatMap_nil,List.length_cons,List.length_append,
    List.length_nil,families,name]
  omega

/-- A short name is read back. -/
theorem stored_config_is_delivered_short : ∃ answer next, handleLine (familyDecoding "A") getLine Env.quiet
      (handleLine (familyDecoding "A") (setLine "A") Env.quiet (.opened Tables.empty)).2 = (.ok answer,next) ∧
    Delivers (fun _ => "invalid utf-8 sequence") [Response.line answer] answer := by
  obtain ⟨response,after,saved,ok⟩ := setLine_answered "A" (by decide +kernel)
  obtain ⟨answer,next,loaded⟩ : ∃ answer next,
      handleLine (familyDecoding "A") getLine Env.quiet after = (.ok answer,next) := by
    rw [handleLine_loaded (familyDecoding_get "A") rfl rfl,respond_run]
    exact ⟨_,_,rfl⟩
  obtain ⟨config,decoded,delivered⟩ := stored_config_is_delivered (familyDecoding "A")
    (fun _ => "invalid utf-8 sequence") (familyDecoding_set "A") rfl saved ok (familyDecoding_get "A") rfl rfl
    (stable_of_alone fun _ => rfl) loaded
  cases decoded
  refine ⟨answer,next,by rw [saved,loaded],(delivered [Response.line answer] (by simp)).1 ?_⟩
  change (compactText longId.val).length + (oneFamily "A").write.length + 49 < Control.maxCdcLineSize
  decide +kernel

/-- The hub takes the line with the long name and stores it; the control app never gets it back. -/
theorem stored_config_is_delivered_overlong :
    (Hub.LineDecoder.initial.feedAll [Utf8.bytes (setLine longName) ++ [lineFeed]]).2 = [setLine longName] ∧
    ∃ response after answer next,
      handleLine (familyDecoding longName) (setLine longName) Env.quiet (.opened Tables.empty) =
        (.ok response,after) ∧ response.status = .ok ∧
      handleLine (familyDecoding longName) getLine Env.quiet after = (.ok answer,next) ∧
      ¬ Delivers (fun _ => "invalid utf-8 sequence") [Response.line answer] answer := by
  constructor
  · let inner := String.ofList setBack.toList.dropLast
    have back : setBack = inner ++ String.singleton '}' := by decide +kernel
    refine port_delivers _ ?_ ⟨setFront ++ longName ++ inner,'}',?_,by decide⟩ ?_
    · have front : lineFeed ∉ Utf8.bytes setFront := by decide +kernel
      have ending : lineFeed ∉ Utf8.bytes setBack := by decide +kernel
      simp only [setLine,Utf8.bytes_append,List.mem_append,longName,repeated_bytes,List.mem_replicate]
      rintro ((inFront | ⟨-,same⟩) | inBack)
      · exact front inFront
      · exact absurd same (by decide)
      · exact ending inBack
    · rw [String.append_assoc,← back,setLine]
    · rw [setLine_length,longName,repeated_bytes,List.length_replicate]
      decide
  · obtain ⟨response,after,saved,ok⟩ := setLine_answered longName (by decide +kernel)
    obtain ⟨config,decoded,committed⟩ := handleLine_stored (familyDecoding_set longName) rfl saved ok
    cases decoded
    obtain ⟨next,loaded⟩ := loaded_answer (Env.quiet_quiet _ _) committed (familyDecoding_get longName) rfl rfl
    refine ⟨response,after,_,next,saved,ok,loaded,fun delivered => ?_⟩
    have size := (delivers_iff (by simp)).mp delivered
    have plain (n : Nat) : (compactText (repeated n)).length = n + 2 := by
      rw [compactText_of_plain (repeated_plain n),writeText,escape_of_plain (repeated_plain n),repeated_bytes]
      simp
    rw [Response.write_config_length,ParentConfig.write_normalise,
      show (storing longName).params = oneFamily longName from rfl,oneFamily_length,longName,plain,
      show asking.requestId.val = repeated 64 from rfl,plain] at size
    exact absurd size (by decide)

end UchiPulse.Management
