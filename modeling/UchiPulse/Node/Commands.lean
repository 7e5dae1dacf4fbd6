import UchiPulse.Node.Cdc

/-! Runs of the node's CDC endpoint over storage in memory whose writes and clears may
fail. Memory and record are in step: both change with a successful command, or neither. -/
namespace UchiPulse.Node
open Common Json

def MemoryConfigStorage.record (self : MemoryConfigStorage) : List UInt8 := self.bytes.take self.len

namespace MemoryConfigStorage

theorem write_ok {self next : MemoryConfigStorage} {data : List UInt8}
    (written : self.write data = (next,.ok ())) : next.record = data := by
  unfold write at written
  split_ifs at written
  · cases written
  · cases written
  · cases written
    exact List.take_left

theorem write_error {self next : MemoryConfigStorage} {data : List UInt8} {error : MemoryStorageError}
    (failed : self.write data = (next,.error error)) : next.record = self.record := by
  unfold write at failed
  split_ifs at failed <;> cases failed <;> rfl

theorem clear_ok {self next : MemoryConfigStorage} (cleared : self.clear = (next,.ok ())) :
    next.record = [] := by
  unfold clear at cleared
  split_ifs at cleared
  · cases cleared
  · cases cleared
    exact List.take_zero

theorem clear_error {self next : MemoryConfigStorage} {error : MemoryStorageError}
    (failed : self.clear = (next,.error error)) : next.record = self.record := by
  unfold clear at failed
  split_ifs at failed <;> cases failed
  rfl

end MemoryConfigStorage

/-- A save that fails leaves the record and the active configuration. -/
theorem ConfigManager.setConfig_error {skip : Reader Unit} {self next : ConfigManager MemoryConfigStorage}
    {config : PersistedNodeConfig} {error : ConfigManagerError MemoryStorageError}
    (failed : self.setConfig skip MemoryConfigStorage.device config = (next,.error error)) :
    next.config = self.config ∧ next.storage.record = self.storage.record := by
  unfold ConfigManager.setConfig at failed
  split at failed
  next => cases failed; exact ⟨rfl,rfl⟩
  next =>
    split at failed
    next => cases failed; exact ⟨rfl,rfl⟩
    next =>
      split at failed
      next written =>
        cases failed
        exact ⟨rfl,MemoryConfigStorage.write_error written⟩
      next => cases failed

/-- One line, with what fails while it is handled. -/
structure LineCall where
  line : List UInt8
  ipAddress : Option Ipv4Text
  hubEndpoint : Option (Text 64)
  failWrite : Bool
  failClear : Bool

namespace NodeCdcHandler

abbrev InMemory := NodeCdcHandler MemoryConfigStorage

def failing (self : InMemory) (call : LineCall) : InMemory where
  manager := { self.manager with storage := { self.manager.storage with
    failWrite := call.failWrite,failClear := call.failClear } }

def receive (skip : Reader Unit) (self : InMemory) (call : LineCall) :
    InMemory × Except CdcHandlerError CdcHandleResult :=
  (self.failing call).handleLineWithStatus skip MemoryConfigStorage.device call.line maxCdcLineSize
    call.ipAddress call.hubEndpoint

def receiveAll (skip : Reader Unit) (self : InMemory) (calls : List LineCall) : InMemory :=
  calls.foldl (fun handler call => (handler.receive skip call).1) self

/-- The active configuration and the stored record. -/
def settings (self : InMemory) : PersistedNodeConfig × List UInt8 :=
  (self.manager.config,self.manager.storage.record)

def encoding (skip : Reader Unit) (config : PersistedNodeConfig) : List UInt8 :=
  (StorageEnvelope.codec skip).write { version := configStorageFormatVersion,config }

/-- The line is a request of the supported version for this command. -/
def Asks (skip : Reader Unit) (line : List UInt8) (name : String) (request : CdcRequest NodeCdcParams) : Prop :=
  decodeRequest skip line = .ok request ∧ request.version = cdcProtocolVersion ∧ request.command.val = name

/-- The line was answered, with this status. -/
def Answered (skip : Reader Unit) (status : CdcStatus) (outcome : Except CdcHandlerError CdcHandleResult) : Prop :=
  ∃ result, ∃ response : CdcResponse NodeCdcData, outcome = .ok result ∧ response.status = status ∧
    result.response = response.write (NodeCdcData.write skip) ++ [lineFeed]

variable {skip : Reader Unit}

/-- An answer has one status. -/
theorem Answered.unique {left right : CdcStatus} {outcome : Except CdcHandlerError CdcHandleResult}
    (first : Answered skip left outcome) (second : Answered skip right outcome) : left = right := by
  obtain ⟨result,response,rfl,rfl,written⟩ := first
  obtain ⟨result',response',same,rfl,written'⟩ := second
  cases same
  rw [written] at written'
  exact (CdcResponse.write_determines (List.append_cancel_right written')).2.2

theorem encoded_ok {reply : NodeReply} {destination : Nat} {result : CdcHandleResult} :
    reply.encoded skip destination = .ok result ↔
      (reply.response.write (NodeCdcData.write skip)).length < destination ∧
      result = { response := reply.response.write (NodeCdcData.write skip) ++ [lineFeed],action := reply.action } := by
  unfold NodeReply.encoded encodeLine
  by_cases fits : (reply.response.write (NodeCdcData.write skip)).length < destination
  · simp [fits,eq_comm]
  · simp [fits]

theorem answered_encoded {reply : NodeReply} {destination : Nat} {status : CdcStatus}
    (answered : Answered skip status (reply.encoded skip destination)) : reply.response.status = status := by
  obtain ⟨result,response,outcome,rfl,written⟩ := answered
  obtain ⟨-,rfl⟩ := encoded_ok.mp outcome
  exact (CdcResponse.write_determines (List.append_cancel_right written)).2.2

/-- The answer to a command without data always fits. -/
theorem encoded_empty (skip : Reader Unit) (requestId : RequestId) (action : CdcAction) : ∃ result,
    ({ NodeReply.ok requestId .empty with action } : NodeReply).encoded skip maxCdcLineSize = .ok result := by
  refine ⟨_,encoded_ok.mpr ⟨?_,rfl⟩⟩
  have identifier := textSize_le requestId.val
  have fits := requestId.fits
  have version : (writeNat cdcProtocolVersion.toNat).length = 1 := by decide
  have status : (writeText CdcStatus.ok.name).length = 4 := by decide
  have data : (writeObject []).length = 2 := rfl
  simp only [NodeReply.ok,CdcResponse.success,CdcResponse.write,CdcResponse.outcome,Option.map_some,Option.map_none,
    Option.toList_some,Option.toList_none,List.append_nil,NodeCdcData.write,writeObject_size (_ :: _),List.map_cons,
    List.map_nil,version,status,data,writeText_size requestId.val,CdcResponse.success_size]
  simp only [requestIdCapacity,maxCdcLineSize] at fits ⊢
  omega

/-! ### One line -/

/-- The command failed and changed nothing. -/
def Failed (self : InMemory) (answer : InMemory × NodeReply) : Prop :=
  answer.2.response.status = .error ∧ answer.2.action = .none ∧ answer.1.settings = self.settings

/-- A save stores the record and takes the configuration, or leaves both. -/
theorem setConfig_cases (skip : Reader Unit) (self : InMemory) (requestId : RequestId) (params : NodeCdcParams) :
    let answer := self.setConfig skip MemoryConfigStorage.device requestId params
    let config := answer.1.manager.config
    (answer.2 = .ok requestId .empty ∧ params = .ofConfig config ∧ config.validate = .ok () ∧
      answer.1.manager.storage.record = encoding skip config) ∨ self.Failed answer := by
  cases parsed : params.intoConfig with
  | error error =>
    refine .inr ?_
    cases error <;> simp only [setConfig,parsed] <;> exact ⟨rfl,rfl,rfl⟩
  | ok config =>
    obtain ⟨stated,valid⟩ := NodeCdcParams.intoConfig_ok.mp parsed
    rcases saved : self.manager.setConfig skip MemoryConfigStorage.device config with ⟨manager,outcome⟩
    cases outcome with
    | ok =>
      obtain ⟨-,active,written,-⟩ := ConfigManager.setConfig_ok saved
      simp only [setConfig,parsed,saved]
      refine .inl ⟨trivial,by rw [active]; exact stated,by rw [active]; exact valid,?_⟩
      rw [MemoryConfigStorage.write_ok written,active,encoding]
    | error error =>
      obtain ⟨config,record⟩ := ConfigManager.setConfig_error saved
      refine .inr ?_
      cases error <;> simp only [setConfig,parsed,saved] <;> exact ⟨rfl,rfl,Prod.ext config record⟩

/-- A reset empties the record, or leaves it. -/
theorem factoryReset_cases (self : InMemory) (requestId : RequestId) :
    let answer := self.factoryReset MemoryConfigStorage.device requestId
    (answer.2 = .ok requestId .empty ∧ answer.1.settings = (self.manager.config,[])) ∨ self.Failed answer := by
  rcases cleared : MemoryConfigStorage.clear self.manager.storage with ⟨storage,outcome⟩
  cases outcome with
  | ok =>
    simp only [factoryReset,ConfigManager.factoryReset,MemoryConfigStorage.device,cleared]
    exact .inl ⟨trivial,Prod.ext rfl (MemoryConfigStorage.clear_ok cleared)⟩
  | error error =>
    simp only [factoryReset,ConfigManager.factoryReset,MemoryConfigStorage.device,cleared]
    exact .inr ⟨rfl,rfl,Prod.ext rfl (MemoryConfigStorage.clear_error cleared)⟩

/-- Every other command leaves the settings. -/
theorem command_cases (skip : Reader Unit) (self : InMemory) (request : CdcRequest NodeCdcParams) (ipAddress : Option Ipv4Text)
    (hubEndpoint : Option (Text 64)) :
    let answer := self.command skip MemoryConfigStorage.device request ipAddress hubEndpoint
    (request.command.val = "set_config" ∧
      answer = self.setConfig skip MemoryConfigStorage.device request.requestId request.params) ∨
    (request.command.val = "factory_reset" ∧
      answer = self.factoryReset MemoryConfigStorage.device request.requestId) ∨
    (request.command.val ≠ "set_config" ∧ request.command.val ≠ "factory_reset" ∧ answer.1 = self ∧
      (answer.2.action = .reboot → request.command.val = "reboot")) := by
  intro answer
  have other {reply : NodeReply} (same : answer = (self,reply)) (notSet : request.command.val ≠ "set_config")
      (notReset : request.command.val ≠ "factory_reset")
      (reboots : reply.action = .reboot → request.command.val = "reboot") :
      request.command.val ≠ "set_config" ∧ request.command.val ≠ "factory_reset" ∧ answer.1 = self ∧
        (answer.2.action = .reboot → request.command.val = "reboot") := by
    rw [same]
    exact ⟨notSet,notReset,rfl,reboots⟩
  by_cases saves : request.command.val = "set_config"
  · exact .inl ⟨saves,by simp only [answer,command,saves]⟩
  by_cases resets : request.command.val = "factory_reset"
  · exact .inr (.inl ⟨resets,by simp only [answer,command,resets]⟩)
  by_cases reboots : request.command.val = "reboot"
  · exact .inr (.inr (other (by simp only [answer,command,reboots]; rfl) saves resets fun _ => reboots))
  refine .inr (.inr ?_)
  obtain ⟨reply,same,action⟩ : ∃ reply : NodeReply, answer = (self,reply) ∧ reply.action = .none := by
    simp only [answer,command]
    split <;> first | exact ⟨_,rfl,rfl⟩ | contradiction
  exact other same saves resets fun restarts => by rw [action] at restarts; cases restarts

theorem answered_of_encoded {reply : NodeReply} {destination : Nat} {result : CdcHandleResult}
    (encoded : reply.encoded skip destination = .ok result) :
    result.action = reply.action ∧ Answered skip reply.response.status (.ok result) := by
  obtain ⟨-,rfl⟩ := encoded_ok.mp encoded
  exact ⟨rfl,_,reply.response,rfl,rfl,rfl⟩

/-- An error is never taken for a success. -/
theorem not_answered_ok {reply : NodeReply} {destination : Nat} (failed : reply.response.status = .error) :
    ¬ Answered skip .ok (reply.encoded skip destination) := by
  intro answered
  have status := answered_encoded answered
  rw [failed] at status
  cases status

/-- The line stored the configuration it states. -/
def Saves (skip : Reader Unit) (call : LineCall)
    (after : InMemory × Except CdcHandlerError CdcHandleResult) : Prop :=
  ∃ request, Asks skip call.line "set_config" request ∧
    request.params = .ofConfig after.1.manager.config ∧ after.1.manager.config.validate = .ok () ∧
    after.1.manager.storage.record = encoding skip after.1.manager.config ∧
    Answered skip .ok after.2 ∧ ∀ result, after.2 = .ok result → result.action = .none

/-- The line emptied the record. -/
def Resets (skip : Reader Unit) (self : InMemory) (call : LineCall)
    (after : InMemory × Except CdcHandlerError CdcHandleResult) : Prop :=
  ∃ request, Asks skip call.line "factory_reset" request ∧
    after.1.settings = (self.manager.config,[]) ∧
    Answered skip .ok after.2 ∧ ∀ result, after.2 = .ok result → result.action = .none

/-- The line left both, and neither a save nor a reset succeeded. -/
def Leaves (skip : Reader Unit) (self : InMemory) (call : LineCall)
    (after : InMemory × Except CdcHandlerError CdcHandleResult) : Prop :=
  after.1.settings = self.settings ∧
    (∀ request, Asks skip call.line "set_config" request ∨ Asks skip call.line "factory_reset" request →
      ¬ Answered skip .ok after.2) ∧
    ∀ result, after.2 = .ok result → result.action = .reboot →
      ∃ request, Asks skip call.line "reboot" request

/-- What one line can do. -/
theorem receive_cases (skip : Reader Unit) (self : InMemory) (call : LineCall) :
    let after := self.receive skip call
    Saves skip call after ∨ Resets skip self call after ∨ Leaves skip self call after := by
  intro after
  set answer := (self.failing call).reply skip MemoryConfigStorage.device call.line call.ipAddress
    call.hubEndpoint with shape
  have first : after.1 = answer.1 := rfl
  have second : after.2 = answer.2.encoded skip maxCdcLineSize := rfl
  have quiet {result : CdcHandleResult} (encoded : after.2 = .ok result) : result.action = answer.2.action :=
    (answered_of_encoded (second ▸ encoded)).1
  unfold reply at shape
  cases decoded : decodeRequest skip call.line with
  | error error =>
    rw [decoded] at shape
    refine .inr (.inr ⟨by rw [first,shape]; rfl,?_,fun result encoded restarts => ?_⟩)
    · rintro request (⟨asked,-⟩ | ⟨asked,-⟩) <;> rw [decoded] at asked <;> cases asked
    · rw [quiet encoded,shape] at restarts
      cases restarts
  | ok request =>
    have only {name : String} {other : CdcRequest NodeCdcParams} (asked : Asks skip call.line name other) :
        request.version = cdcProtocolVersion ∧ request.command.val = name := by
      obtain ⟨same,version,command⟩ := asked
      rw [decoded] at same
      cases same
      exact ⟨version,command⟩
    simp only [decoded] at shape
    by_cases known : request.version = cdcProtocolVersion
    · rw [if_neg (not_not.mpr known)] at shape
      have empty (reply : answer.2 = .ok request.requestId .empty) : Answered skip .ok after.2 ∧
          ∀ result, after.2 = .ok result → result.action = .none := by
        obtain ⟨result,encoded⟩ := encoded_empty skip request.requestId .none
        refine ⟨?_,fun result encoded => by rw [quiet encoded,reply]; rfl⟩
        rw [second,reply,show NodeReply.encoded skip (.ok request.requestId .empty) _ = .ok result from encoded]
        exact (answered_of_encoded encoded).2
      have unchanged (failed : (self.failing call).Failed answer) : Leaves skip self call after := by
        obtain ⟨status,action,settings⟩ := failed
        refine ⟨settings,fun _ _ => second ▸ not_answered_ok status,fun result encoded restarts => ?_⟩
        rw [quiet encoded,action] at restarts
        cases restarts
      have commands := command_cases skip (self.failing call) request call.ipAddress call.hubEndpoint
      rw [← shape] at commands
      rcases commands with ⟨name,same⟩ | ⟨name,same⟩ | ⟨notSet,notReset,same,reboots⟩
      · have saved := setConfig_cases skip (self.failing call) request.requestId request.params
        rw [← same] at saved
        rcases saved with ⟨reply,params,valid,record⟩ | failed
        · exact .inl ⟨request,⟨decoded,known,name⟩,params,valid,record,empty reply⟩
        · exact .inr (.inr (unchanged failed))
      · have reset := factoryReset_cases (self.failing call) request.requestId
        rw [← same] at reset
        rcases reset with ⟨reply,settings⟩ | failed
        · exact .inr (.inl ⟨request,⟨decoded,known,name⟩,settings,empty reply⟩)
        · exact .inr (.inr (unchanged failed))
      · refine .inr (.inr ⟨by rw [first,same]; rfl,?_,fun result encoded restarts => ?_⟩)
        · rintro other (asked | asked)
          · exact absurd (only asked).2 notSet
          · exact absurd (only asked).2 notReset
        · exact ⟨request,decoded,known,reboots (quiet encoded ▸ restarts)⟩
    · rw [if_pos known] at shape
      refine .inr (.inr ⟨by rw [first,shape]; rfl,?_,fun result encoded restarts => ?_⟩)
      · rintro other (asked | asked) <;> exact absurd (only asked).1 known
      · rw [quiet encoded,shape] at restarts
        cases restarts

/-! ### Runs -/

/-- A line asks for one thing. -/
theorem Asks.unique {line : List UInt8} {name name' : String} {request request' : CdcRequest NodeCdcParams}
    (first : Asks skip line name request) (second : Asks skip line name' request') :
    name = name' ∧ request = request' := by
  obtain ⟨decoded,-,command⟩ := first
  obtain ⟨decoded',-,command'⟩ := second
  rw [decoded] at decoded'
  cases decoded'
  exact ⟨command.symm.trans command',rfl⟩

theorem receive_valid (self : InMemory) (call : LineCall) (valid : self.manager.config.validate = .ok ()) :
    (self.receive skip call).1.manager.config.validate = .ok () := by
  rcases self.receive_cases skip call with ⟨-,-,-,checked,-⟩ | ⟨-,-,settings,-⟩ | ⟨settings,-⟩
  · exact checked
  · rwa [show (self.receive skip call).1.manager.config = self.manager.config from congrArg Prod.fst settings]
  · rwa [show (self.receive skip call).1.manager.config = self.manager.config from congrArg Prod.fst settings]

theorem receiveAll_valid (self : InMemory) (calls : List LineCall)
    (valid : self.manager.config.validate = .ok ()) :
    (self.receiveAll skip calls).manager.config.validate = .ok () := by
  induction calls generalizing self with
  | nil => exact valid
  | cons call calls ih => exact ih _ (receive_valid self call valid)

end NodeCdcHandler

open NodeCdcHandler in
/-- At every point of a run: the settings stay valid and change with a successful save,
which takes exactly what the line states, or a successful reset, which empties the record.
An error changes nothing, and only a reboot command asks for a reboot. -/
theorem settings_change_only_on_success (skip : Reader Unit) (handler : InMemory) (calls : List LineCall)
    (call : LineCall) :
    let before := handler.receiveAll skip calls
    let after := before.receive skip call
    (handler.manager.config.validate = .ok () →
      before.manager.config.validate = .ok () ∧ after.1.manager.config.validate = .ok ()) ∧
    (after.1.settings ≠ before.settings → Answered skip .ok after.2 ∧ ∃ request,
      Asks skip call.line "set_config" request ∨ Asks skip call.line "factory_reset" request) ∧
    (∀ request, Asks skip call.line "set_config" request → Answered skip .ok after.2 →
      request.params = .ofConfig after.1.manager.config ∧
      after.1.manager.storage.record = encoding skip after.1.manager.config) ∧
    (∀ request, Asks skip call.line "factory_reset" request → Answered skip .ok after.2 →
      after.1.settings = (before.manager.config,[])) ∧
    (Answered skip .error after.2 ∨ (∃ error, after.2 = .error error) → after.1.settings = before.settings) ∧
    ∀ result, after.2 = .ok result → result.action = .reboot →
      ∃ request, Asks skip call.line "reboot" request := by
  intro before after
  refine ⟨fun valid => ⟨receiveAll_valid handler calls valid,
    receive_valid before call (receiveAll_valid handler calls valid)⟩,?_⟩
  have successful (done : Answered skip .ok after.2) :
      ¬ (Answered skip .error after.2 ∨ ∃ error, after.2 = .error error) := by
    rintro (failed | ⟨error,failed⟩)
    · cases done.unique failed
    · obtain ⟨result,-,ok,-⟩ := done
      rw [failed] at ok
      cases ok
  rcases before.receive_cases skip call with
    ⟨request,asked,params,-,record,done,action⟩ | ⟨request,asked,settings,done,action⟩ | ⟨same,neither,reboots⟩
  · refine ⟨fun _ => ⟨done,request,.inl asked⟩,fun other asks _ => ?_,fun other asks _ => ?_,
      fun failed => absurd failed (successful done),fun result ok restarts => ?_⟩
    · obtain ⟨-,rfl⟩ := asked.unique asks
      exact ⟨params,record⟩
    · exact absurd (asked.unique asks).1 (by decide)
    · rw [action result ok] at restarts
      cases restarts
  · refine ⟨fun _ => ⟨done,request,.inr asked⟩,fun other asks _ => ?_,fun _ _ _ => settings,
      fun failed => absurd failed (successful done),fun result ok restarts => ?_⟩
    · exact absurd (asked.unique asks).1 (by decide)
    · rw [action result ok] at restarts
      cases restarts
  · exact ⟨fun changed => absurd same changed,fun other asks ok => absurd ok (neither other (.inl asks)),
      fun other asks ok => absurd ok (neither other (.inr asks)),fun _ => same,reboots⟩

end UchiPulse.Node
