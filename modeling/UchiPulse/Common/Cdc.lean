import UchiPulse.Common.Types
import UchiPulse.Lib.JsonSize

/-! The management protocol that hub and nodes speak over USB CDC. -/
namespace UchiPulse.Common
open Json

def cdcProtocolVersion : UInt8 := 1

structure CdcRequest (P : Type) where
  version : UInt8
  requestId : RequestId
  command : CommandName
  params : P

/-- A client counts its requests. -/
def firstRequestId : RequestId := ⟨"1",by decide⟩

def setConfigCommand : CommandName := ⟨"set_config",by decide⟩

inductive CdcStatus where
  | ok | error
deriving DecidableEq

inductive CdcErrorCode where
  | invalidJson | unsupportedVersion | invalidCommand | invalidParameter | invalidConfig
  | saveFailed | operationFailed | notSupported
deriving DecidableEq

structure CdcError where
  code : CdcErrorCode
  message : Text 128
deriving DecidableEq

structure CdcResponse (D : Type) where
  version : UInt8
  requestId : RequestId
  status : CdcStatus
  data : Option D
  error : Option CdcError
deriving DecidableEq

variable {D : Type}

def CdcResponse.success (version : UInt8) (requestId : RequestId) (data : D) : CdcResponse D where
  version := version
  requestId := requestId
  status := .ok
  data := some data
  error := none

def CdcResponse.failure (version : UInt8) (requestId : RequestId) (code : CdcErrorCode)
    (message : Text 128) : CdcResponse D where
  version := version
  requestId := requestId
  status := .error
  data := none
  error := some { code,message }

/-! ### JSON -/

def CdcRequest.fields {P : Type} (params : Codec P) :
    Fields ["version","request_id","command","params"] (CdcRequest P) :=
  ((Fields.required "version" .u8).both <| (Fields.required "request_id" (.text _)).both <|
    (Fields.required "command" (.text _)).both <| Fields.required "params" params).iso
    (fun (version,requestId,command,params) => { version,requestId,command,params })
    fun self => (self.version,self.requestId,self.command,self.params)

def CdcRequest.codec {P : Type} (skip : Reader Unit) (params : Codec P) : Codec (CdcRequest P) :=
  .object skip (fields params)

def CdcStatus.name : CdcStatus → String
  | .ok => "ok"
  | .error => "error"

def CdcErrorCode.name : CdcErrorCode → String
  | .invalidJson => "INVALID_JSON"
  | .unsupportedVersion => "UNSUPPORTED_VERSION"
  | .invalidCommand => "INVALID_COMMAND"
  | .invalidParameter => "INVALID_PARAMETER"
  | .invalidConfig => "INVALID_CONFIG"
  | .saveFailed => "SAVE_FAILED"
  | .operationFailed => "OPERATION_FAILED"
  | .notSupported => "NOT_SUPPORTED"

def CdcError.write (self : CdcError) : List UInt8 :=
  writeObject [("code",writeText self.code.name),("message",writeText self.message.val)]

/-- The members behind the status; absent ones are not written. -/
def CdcResponse.outcome (data : D → List UInt8) (self : CdcResponse D) : List (String × List UInt8) :=
  (self.data.map fun value => ("data",data value)).toList ++
    (self.error.map fun error => ("error",error.write)).toList

def CdcResponse.write (data : D → List UInt8) (self : CdcResponse D) : List UInt8 :=
  writeObject (("version",writeNat self.version.toNat) :: ("request_id",writeText self.requestId.val) ::
    ("status",writeText self.status.name) :: self.outcome data)

theorem CdcResponse.write_eq (data : D → List UInt8) (self : CdcResponse D) : ∃ rest,
    self.write data = [openBrace] ++ writeEntry ("version",writeNat self.version.toNat) ++ [comma] ++
      writeEntry ("request_id",writeText self.requestId.val) ++ [comma] ++
      writeEntry ("status",writeText self.status.name) ++ rest :=
  ⟨writeRest writeEntry (self.outcome data) ++ [closeBrace],by
    simp only [CdcResponse.write,writeObject,writeItems,writeRest_cons,List.append_assoc,List.cons_append,
      List.nil_append]⟩

/-- The members of a success around its identifier and its data take 49 bytes. -/
theorem CdcResponse.success_size (identifier data : Nat) :
    objectSize [("version",1),("request_id",identifier),("status",4),("data",data)] = data + identifier + 49 := by
  have keys : ["version","request_id","status","data"].map String.utf8ByteSize = [7,10,6,4] := rfl
  simp only [List.map_cons,List.map_nil,List.cons.injEq,and_true] at keys
  obtain ⟨version,requestId,status,data⟩ := keys
  simp only [objectSize,arraySize,List.map_cons,List.map_nil,List.sum_cons,List.sum_nil,version,requestId,status,data]
  omega

theorem CdcStatus.name_inj {left right : CdcStatus} (same : escape left.name = escape right.name) :
    left = right := by
  revert same
  cases left <;> cases right <;> decide

/-- A client finds the status and the identifier in what was written. -/
theorem CdcResponse.write_determines {data : D → List UInt8} {left right : CdcResponse D}
    (same : left.write data = right.write data) :
    left.version = right.version ∧ escape left.requestId.val = escape right.requestId.val ∧
      left.status = right.status := by
  obtain ⟨leftRest,leftShape⟩ := left.write_eq data
  obtain ⟨rightRest,rightShape⟩ := right.write_eq data
  rw [leftShape,rightShape] at same
  simp only [writeEntry,List.append_assoc,List.cons_append,List.nil_append,List.append_cancel_left_eq,
    List.cons.injEq,true_and] at same
  obtain ⟨version,same⟩ := writeNat_append_inj same
  simp only [List.append_cancel_left_eq,List.cons.injEq,true_and] at same
  obtain ⟨identifier,same⟩ := writeText_append_inj same
  simp only [List.append_cancel_left_eq,List.cons.injEq,true_and] at same
  obtain ⟨status,-⟩ := writeText_append_inj same
  exact ⟨UInt8.toNat_inj.mp version,identifier,CdcStatus.name_inj status⟩

end UchiPulse.Common
