import UchiPulse.Node.CdcTask
import UchiPulse.Node.RequestIds

/-! The node's answers to a client's lines. Each line that states a command other than
`get_config` has its answer, in the order of the lines. -/
namespace UchiPulse.Node
open Common Json

/-- A line that states its command as well as its identifier. -/
structure AskedLine extends IdentifiedLine where
  command : CommandName
  commandPlain : Plain command.val
  asks : object.Holds "command" (unescaped command.val)

/-! ### The command of a request -/

/-- The command in the draft of a request. -/
def CdcRequest.draftCommand {P : Type} (params : Codec P) : (CdcRequest.fields params).Draft → Option CommandName :=
  fun (draft : Option UInt8 × Option RequestId × Option CommandName × Option P) => draft.2.2.1

theorem CdcRequest.tracks_command {P : Type} (params : Codec P) :
    (CdcRequest.fields params).Tracks "command" (.text commandNameCapacity) (draftCommand params) :=
  Fields.both_tracks_right (Fields.both_tracks_right (Fields.both_tracks_left
    (Fields.one_tracks (.text commandNameCapacity) "command" none) (by decide) _ (by decide)) _ (by decide) (by decide))
    _ (by decide) (by decide)

/-- A finished request has the command of its draft. -/
theorem CdcRequest.finish_command {P : Type} (params : Codec P) {draft : (CdcRequest.fields params).Draft}
    {request : CdcRequest P} (finished : (CdcRequest.fields params).finish draft = some request) :
    draftCommand params draft = some request.command := by
  obtain ⟨version,requestId,command,body⟩ := draft
  obtain ⟨⟨_,_,_,_⟩,parts,rfl⟩ := Option.map_eq_some_iff.mp finished
  obtain ⟨_,-,parts⟩ := Option.bind_eq_some_iff.mp parts
  obtain ⟨⟨_,_,_⟩,rest,same⟩ := Option.map_eq_some_iff.mp parts
  cases same
  obtain ⟨_,-,others⟩ := Option.bind_eq_some_iff.mp rest
  obtain ⟨⟨_,_⟩,last,same⟩ := Option.map_eq_some_iff.mp others
  cases same
  obtain ⟨_,asked,others⟩ := Option.bind_eq_some_iff.mp last
  obtain ⟨_,-,same⟩ := Option.map_eq_some_iff.mp others
  cases same
  exact Option.or_none.symm.trans asked

/-- A line that is a request asks for the command it states. -/
theorem decodeRequest_command {skip : Reader Unit} (skips : Skips skip) (line : AskedLine)
    {request : CdcRequest NodeCdcParams}
    (decoded : NodeCdcHandler.decodeRequest skip line.bytes = .ok request) : request.command = line.command := by
  have params := NodeCdcParams.aligned skips
  have aligned : (CdcRequest.fields (NodeCdcParams.codec skip)).Aligned :=
    Fields.iso_aligned (Fields.both_aligned (Fields.one_aligned Codec.u8_aligned _ _)
      (Fields.both_aligned (Fields.one_aligned (Codec.text_aligned _) _ _)
        (Fields.both_aligned (Fields.one_aligned (Codec.text_aligned _) _ _)
          (Fields.one_aligned params _ _) (by decide)) (by decide)) (by decide)) _ _
  rw [NodeCdcHandler.decodeRequest,decodeLine_bytes,decode] at decoded
  split at decoded
  next => cases decoded
  next found used whole =>
    simp only [fromSlice] at whole
    split at whole
    next value left read =>
      obtain ⟨-,last,visited,finished⟩ :=
        Codec.object_visited aligned skips _ line.object line.spaceBefore read
      obtain ⟨member,text,rest,left',listed,spelled,closes,taken,tracked⟩ :=
        visited.tracked (CdcRequest.tracks_command _) (by decide) line.asks
      have spaced := (line.object.spaced member listed).2.2
      have known : readText commandNameCapacity (member.input rest) =
          some (line.command,member.value.after ++ rest) := by
        rw [Member.input,spelled]
        exact readText_unescaped line.command line.commandPlain spaced.1 _
      have same := taken.symm.trans known
      cases same
      have asked := (CdcRequest.finish_command _ finished).symm.trans tracked
      split at whole
      · cases whole
        split at decoded
        · cases decoded
          exact Option.some.inj asked
        · cases decoded
      · cases whole
    next => cases whole

/-! ### Responses without a configuration are short -/

theorem textSize_capacity {n : Nat} (value : Text n) : textSize value.val ≤ 2 + 6 * n :=
  (textSize_le value.val).trans (Nat.add_le_add_left (Nat.mul_le_mul_left 6 value.fits) 2)

theorem optionText_capacity {n : Nat} (few : 4 ≤ 2 + 6 * n) (value : Option (Text n)) :
    optionSize (fun value : Text n => textSize value.val) value ≤ 2 + 6 * n := by
  cases value with
  | none => exact few
  | some value => exact textSize_capacity value

theorem NodeCdcStatus.write_length (skip : Reader Unit) (self : NodeCdcStatus) :
    ((NodeCdcStatus.codec skip).write self).length ≤ 912 := by
  have size : ((NodeCdcStatus.codec skip).write self).length = objectSize [("device_id",textSize self.deviceId.val),
      ("ip_address",optionSize (fun value : Ipv4Text => textSize value.val) self.ipAddress),
      ("hub_endpoint",optionSize (fun value : Text 64 => textSize value.val) self.hubEndpoint)] := by
    simp [NodeCdcStatus.codec,NodeCdcStatus.fields,Fields.iso,Fields.both,Fields.required,Fields.optional,Fields.one]
  have deviceId : textSize self.deviceId.val ≤ 386 := textSize_capacity self.deviceId
  have ipAddress := optionText_capacity (by decide) self.ipAddress
  have hubEndpoint := optionText_capacity (by decide) self.hubEndpoint
  rw [size]
  exact objectSize_le [("device_id",386),("ip_address",2 + 6 * ipv4TextCapacity),("hub_endpoint",2 + 6 * 64)]
    (.cons ⟨rfl,deviceId⟩ <| .cons ⟨rfl,ipAddress⟩ <| .cons ⟨rfl,hubEndpoint⟩ .nil) (by decide)

theorem writeError_length (error : CdcError) : error.write.length ≤ 815 := by
  have code : textSize error.code.name ≤ 21 := by
    cases error.code <;> decide
  have message : textSize error.message.val ≤ 770 := textSize_capacity error.message
  simp only [CdcError.write,writeObject_size,List.map_cons,List.map_nil,writeText_size]
  exact objectSize_le [("code",21),("message",770)]
    (.cons ⟨rfl,code⟩ <| .cons ⟨rfl,message⟩ .nil) (by decide)

/-- Without a configuration a response leaves room in the line's buffer. -/
theorem response_short (skip : Reader Unit) (response : CdcResponse NodeCdcData)
    (other : ∀ config, response.data ≠ some (.config config)) :
    (response.write (NodeCdcData.write skip)).length < maxCdcLineSize := by
  have version : natSize response.version.toNat ≤ 3 :=
    natSize_le (by decide) (Nat.lt_of_lt_of_le response.version.toNat_lt (by decide))
  have requestId : textSize response.requestId.val ≤ 386 := textSize_capacity response.requestId
  have status : textSize response.status.name ≤ 7 := by
    cases response.status <;> decide
  have data (data : NodeCdcData) (among : response.data = some data) : (data.write skip).length ≤ 912 := by
    cases data with
    | config found => exact absurd among (other found)
    | status found => exact NodeCdcStatus.write_length skip found
    | empty => exact (by decide : (writeObject []).length ≤ 912)
  apply Nat.lt_of_le_of_lt (m := 2200)
  · simp only [CdcResponse.write,CdcResponse.outcome,writeObject_size]
    cases found : response.data with
    | none =>
      cases response.error with
      | none =>
        simp only [Option.map_none,Option.toList_none,List.append_nil,List.map_cons,List.map_nil,writeText_size,
          writeNat_size]
        exact objectSize_le [("version",3),("request_id",386),("status",7)]
          (.cons ⟨rfl,version⟩ <| .cons ⟨rfl,requestId⟩ <| .cons ⟨rfl,status⟩ .nil) (by decide)
      | some error =>
        simp only [Option.map_none,Option.map_some,Option.toList_none,Option.toList_some,List.nil_append,List.map_cons,
          List.map_nil,writeText_size,writeNat_size]
        exact objectSize_le [("version",3),("request_id",386),("status",7),("error",815)]
          (.cons ⟨rfl,version⟩ <| .cons ⟨rfl,requestId⟩ <| .cons ⟨rfl,status⟩ <|
          .cons ⟨rfl,writeError_length error⟩ .nil) (by decide)
    | some found' =>
      cases response.error with
      | none =>
        simp only [Option.map_none,Option.map_some,Option.toList_none,Option.toList_some,List.append_nil,List.map_cons,
          List.map_nil,writeText_size,writeNat_size]
        exact objectSize_le [("version",3),("request_id",386),("status",7),("data",912)]
          (.cons ⟨rfl,version⟩ <| .cons ⟨rfl,requestId⟩ <| .cons ⟨rfl,status⟩ <|
          .cons ⟨rfl,data found' found⟩ .nil) (by decide)
      | some error =>
        simp only [Option.map_some,Option.toList_some,List.singleton_append,List.map_cons,
          List.map_nil,writeText_size,writeNat_size]
        exact objectSize_le [("version",3),("request_id",386),("status",7),("data",912),("error",815)]
          (.cons ⟨rfl,version⟩ <| .cons ⟨rfl,requestId⟩ <| .cons ⟨rfl,status⟩ <|
          .cons ⟨rfl,data found' found⟩ <| .cons ⟨rfl,writeError_length error⟩ .nil) (by decide)
  · decide

namespace NodeCdcHandler
variable {S ε : Type} {skip : Reader Unit} (device : ConfigStorage S ε) (self : NodeCdcHandler S)

theorem setConfig_data (requestId : RequestId) (params : NodeCdcParams) (config : PersistedNodeConfig) :
    (self.setConfig skip device requestId params).2.response.data ≠ some (.config config) := by
  unfold setConfig
  split
  · exact nofun
  · exact nofun
  · split <;> exact nofun

theorem factoryReset_data (requestId : RequestId) (config : PersistedNodeConfig) :
    (self.factoryReset device requestId).2.response.data ≠ some (.config config) := by
  unfold factoryReset
  split <;> exact nofun

/-- Only `get_config` is answered with a configuration. -/
theorem command_data (request : CdcRequest NodeCdcParams) (other : request.command.val ≠ "get_config")
    (ipAddress : Option Ipv4Text) (hubEndpoint : Option (Text 64)) (config : PersistedNodeConfig) :
    (self.command skip device request ipAddress hubEndpoint).2.response.data ≠ some (.config config) := by
  unfold command
  split
  next asked => exact absurd asked other
  · exact nofun
  · exact setConfig_data device self _ _ config
  · exact factoryReset_data device self _ config
  all_goals exact nofun

theorem reply_data (skips : Skips skip) (line : AskedLine) (other : line.command.val ≠ "get_config")
    (ipAddress : Option Ipv4Text) (hubEndpoint : Option (Text 64)) (config : PersistedNodeConfig) :
    (self.reply skip device line.bytes ipAddress hubEndpoint).2.response.data ≠ some (.config config) := by
  unfold reply
  split
  · exact nofun
  next request decoded =>
    split
    · exact nofun
    · exact command_data device self request (decodeRequest_command skips line decoded ▸ other) _ _ config

/-- A response is the answer to its line, within the line's buffer; and only `get_config`
may go without. -/
theorem handleLine_answers (skips : Skips skip) (line : AskedLine) (ipAddress : Option Ipv4Text)
    (hubEndpoint : Option (Text 64)) :
    (∀ result, (self.handleLineWithStatus skip device line.bytes maxCdcLineSize ipAddress hubEndpoint).2 = .ok result →
      Answers (CdcResponse.write (NodeCdcData.write skip)) line.id result.response ∧
        result.response.length ≤ maxCdcLineSize) ∧
    (line.command.val ≠ "get_config" → ∃ result,
      (self.handleLineWithStatus skip device line.bytes maxCdcLineSize ipAddress hubEndpoint).2 = .ok result) := by
  have named := self.reply_requestId device skips line.toIdentifiedLine ipAddress hubEndpoint
  have data := self.reply_data device skips line
  unfold handleLineWithStatus
  constructor
  · intro result encoded
    simp only [NodeReply.encoded,encodeLine] at encoded
    split at encoded
    · cases encoded
    next written fits =>
      split at fits
      next room =>
        cases fits
        cases encoded
        refine ⟨⟨_,rfl,response_oneLine skip _,named⟩,?_⟩
        rw [List.length_append,List.length_singleton]
        exact room
      next => cases fits
  · intro other
    have short := response_short skip _ (data other ipAddress hubEndpoint)
    simp only [NodeReply.encoded,encodeLine,if_pos short]
    exact ⟨_,rfl⟩

end NodeCdcHandler

/-! ### The answers to some lines -/

theorem forall₂_right {α β : Type} {related : α → β → Prop} {first : List α} {second : List β}
    (all : List.Forall₂ related first second) {item : β} (among : item ∈ second) : ∃ other ∈ first, related other item := by
  induction all with
  | nil => cases among
  | cons here rest ih =>
    rcases List.mem_cons.mp among with rfl | later
    · exact ⟨_,List.mem_cons_self,here⟩
    · obtain ⟨other,listed,holds⟩ := ih later
      exact ⟨other,List.mem_cons_of_mem _ listed,holds⟩

/-- The lines handled are the first ones, and all of them while the node runs; those answered
are among them, with their responses in order. -/
structure Answering {S : Type} (skip : Reader Unit) (before after : Served S) (lines : List AskedLine)
    (handled answered : List AskedLine) (responses : List (List UInt8)) : Prop where
  front : handled <+: lines
  record : after.lines = before.lines ++ handled.map (·.bytes)
  complete : after.rebooting = false → handled = lines
  among : answered.Sublist handled
  written : after.responses = before.responses ++ responses
  answers : List.Forall₂ (fun (line : AskedLine) response =>
    Answers (CdcResponse.write (NodeCdcData.write skip)) line.id response ∧ response.length ≤ maxCdcLineSize)
    answered responses
  all : ∀ line ∈ handled, line.command.val ≠ "get_config" → line ∈ answered

theorem answering_nothing {S : Type} {skip : Reader Unit} (served : Served S) (lines : List AskedLine)
    (stopped : served.rebooting = false → lines = []) : Answering skip served served lines [] [] [] where
  front := List.nil_prefix
  record := (List.append_nil _).symm
  complete running := (stopped running).symm
  among := List.Sublist.slnil
  written := (List.append_nil _).symm
  answers := .nil
  all := List.forall_mem_nil _

/-- Whatever the lines ask for. -/
theorem Served.answering {S ε : Type} {skip : Reader Unit} (skips : Skips skip) (device : ConfigStorage S ε)
    (world : PortWorld) (self : Served S) (lines : List AskedLine) : ∃ handled answered responses,
      Answering skip self (self.all skip device world (lines.map (·.bytes))) lines handled answered responses := by
  induction lines generalizing self with
  | nil => exact ⟨[],[],[],answering_nothing self [] fun _ => rfl⟩
  | cons line lines ih =>
    by_cases rebooting : self.rebooting = true
    · rw [all_rebooting rebooting]
      exact ⟨[],[],[],answering_nothing self _ fun off => absurd (rebooting.symm.trans off) (by decide)⟩
    · have running : self.rebooting = false := Bool.eq_false_iff.mpr rebooting
      let status := world.status self.lines.length
      obtain ⟨fits,short⟩ :=
        self.handler.handleLine_answers device skips line status.ipAddress status.hubEndpoint
      obtain ⟨handled,answered,responses,rest⟩ := ih (self.next skip device world line.bytes)
      rw [List.map_cons,all,List.foldl_cons]
      cases result : (self.handler.handleLineWithStatus skip device line.bytes maxCdcLineSize status.ipAddress
          status.hubEndpoint).2 with
      | error error =>
        have next : (self.next skip device world line.bytes).lines = self.lines ++ [line.bytes] ∧
            (self.next skip device world line.bytes).responses = self.responses := by
          simp only [Served.next,running,Bool.false_eq_true,if_false,status] at result ⊢
          rw [result]
          exact ⟨rfl,rfl⟩
        refine ⟨line :: handled,answered,responses,?_⟩
        exact {
          front := List.cons_prefix_cons.mpr ⟨rfl,rest.front⟩
          record := by
            refine rest.record.trans ?_
            rw [next.1,List.map_cons,List.append_assoc,List.singleton_append]
          complete := fun off => by rw [rest.complete off]
          among := rest.among.cons _
          written := rest.written.trans (by rw [next.2])
          answers := rest.answers
          all := by
            refine List.forall_mem_cons.mpr ⟨fun other => ?_,rest.all⟩
            obtain ⟨found,ok⟩ := short other
            rw [result] at ok
            cases ok }
      | ok found =>
        have next : (self.next skip device world line.bytes).lines = self.lines ++ [line.bytes] ∧
            (self.next skip device world line.bytes).responses = self.responses ++ [found.response] := by
          simp only [Served.next,running,Bool.false_eq_true,if_false,status] at result ⊢
          rw [result]
          exact ⟨rfl,rfl⟩
        refine ⟨line :: handled,line :: answered,found.response :: responses,?_⟩
        exact {
          front := List.cons_prefix_cons.mpr ⟨rfl,rest.front⟩
          record := by
            refine rest.record.trans ?_
            rw [next.1,List.map_cons,List.append_assoc,List.singleton_append]
          complete := fun off => by rw [rest.complete off]
          among := rest.among.cons_cons _
          written := by
            refine rest.written.trans ?_
            rw [next.2,List.append_assoc,List.singleton_append]
          answers := .cons (fits found result) rest.answers
          all := List.forall_mem_cons.mpr ⟨fun _ => List.mem_cons_self,fun other among asked =>
            List.mem_cons_of_mem _ (rest.all other among asked)⟩ }

end UchiPulse.Node
