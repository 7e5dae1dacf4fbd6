import UchiPulse.Common.IdentifiedLine
import UchiPulse.Node.Cdc

/-! The identifier of a node's response. A line that is an object with a plain identifier
is answered under it, whether or not the rest of the line is a request. -/
namespace UchiPulse.Node
open Common Json

/-! ### The codecs of a request keep their places -/

section
variable {skip : Reader Unit} (skips : Skips skip)
include skips

theorem GpioInputConfig.aligned : Aligned (GpioInputConfig.codec skip).read :=
  Codec.object_aligned (Fields.iso_aligned (Fields.both_aligned (Fields.one_aligned Codec.u8_aligned _ _)
    (Fields.both_aligned (Fields.one_aligned Codec.bool_aligned _ _)
      (Fields.one_aligned Codec.u16_aligned _ _) _) _) _ _) skips _

theorem InputMapping.aligned : Aligned (InputMapping.codec skip).read :=
  Codec.object_aligned (Fields.iso_aligned (Fields.both_aligned (Fields.one_aligned Codec.u8_aligned _ _)
    (Fields.both_aligned (Fields.one_aligned (Codec.names_aligned _ _) _ _)
      (Fields.both_aligned (Fields.one_aligned Codec.u32_aligned _ _)
        (Fields.one_aligned Codec.bool_aligned _ _) _) _) _) _ _) skips _

theorem WifiConfig.aligned : Aligned (WifiConfig.codec skip).read :=
  Codec.object_aligned (Fields.iso_aligned (Fields.both_aligned (Fields.one_aligned (Codec.text_aligned _) _ _)
    (Fields.one_aligned (Codec.text_aligned _) _ _) _) _ _) skips _

theorem StaticIpv4Config.aligned : Aligned (StaticIpv4Config.codec skip).read :=
  Codec.object_aligned (Fields.iso_aligned (Fields.both_aligned (Fields.one_aligned (Codec.text_aligned _) _ _)
    (Fields.both_aligned (Fields.one_aligned Codec.u8_aligned _ _)
      (Fields.both_aligned (Fields.one_aligned (Codec.text_aligned _) _ _)
        (Fields.one_aligned (Codec.text_aligned _) _ _) _) _) _) _ _) skips _

theorem NetworkConfig.aligned : Aligned (NetworkConfig.codec skip).read :=
  Codec.object_aligned (Fields.iso_aligned (Fields.both_aligned (Fields.one_aligned (Codec.names_aligned _ _) _ _)
    (Fields.one_aligned (Codec.option_aligned (StaticIpv4Config.aligned skips) _) _ _) _) _ _) skips _

theorem NodeCdcParams.aligned : Aligned (NodeCdcParams.codec skip).read := by
  have text (n : Nat) := Codec.option_aligned (Codec.text_aligned n) fun _ => by nofun
  have u32 := Codec.option_aligned Codec.u32_aligned fun _ => writeNat_ne_null _
  have u8 := Codec.option_aligned Codec.u8_aligned fun _ => writeNat_ne_null _
  refine Codec.object_aligned (Fields.iso_aligned ?_ _ _) skips _
  refine Fields.both_aligned (Fields.one_aligned (text _) _ _) ?_ _
  refine Fields.both_aligned (Fields.one_aligned (Codec.option_aligned (WifiConfig.aligned skips) _) _ _) ?_ _
  refine Fields.both_aligned (Fields.one_aligned (Codec.option_aligned (NetworkConfig.aligned skips) _) _ _) ?_ _
  refine Fields.both_aligned (Fields.one_aligned
    (Codec.option_aligned (Codec.vec_aligned (GpioInputConfig.aligned skips) _) _) _ _) ?_ _
  refine Fields.both_aligned (Fields.one_aligned
    (Codec.option_aligned (Codec.vec_aligned (InputMapping.aligned skips) _) _) _ _) ?_ _
  refine Fields.both_aligned (Fields.one_aligned u32 _ _) ?_ _
  refine Fields.both_aligned (Fields.one_aligned u32 _ _) ?_ _
  refine Fields.both_aligned (Fields.one_aligned u32 _ _) ?_ _
  exact Fields.both_aligned (Fields.one_aligned u8 _ _) (Fields.one_aligned u32 _ _) _

end

/-! ### What a response writes stays on one line -/

section
variable (skip : Reader Unit)

theorem GpioInputConfig.oneLine : (GpioInputConfig.codec skip).OneLine :=
  Codec.object_oneLine (Fields.iso_oneLine (Fields.both_oneLine (Fields.one_oneLine Codec.u8_oneLine _ _)
    (Fields.both_oneLine (Fields.one_oneLine Codec.bool_oneLine _ _)
      (Fields.one_oneLine Codec.u16_oneLine _ _) _) _) _ _) skip _

theorem InputMapping.oneLine : (InputMapping.codec skip).OneLine :=
  Codec.object_oneLine (Fields.iso_oneLine (Fields.both_oneLine (Fields.one_oneLine Codec.u8_oneLine _ _)
    (Fields.both_oneLine (Fields.one_oneLine (Codec.names_oneLine _ _) _ _)
      (Fields.both_oneLine (Fields.one_oneLine Codec.u32_oneLine _ _)
        (Fields.one_oneLine Codec.bool_oneLine _ _) _) _) _) _ _) skip _

theorem WifiConfig.oneLine : (WifiConfig.codec skip).OneLine :=
  Codec.object_oneLine (Fields.iso_oneLine (Fields.both_oneLine (Fields.one_oneLine (Codec.text_oneLine _) _ _)
    (Fields.one_oneLine (Codec.text_oneLine _) _ _) _) _ _) skip _

theorem StaticIpv4Config.oneLine : (StaticIpv4Config.codec skip).OneLine :=
  Codec.object_oneLine (Fields.iso_oneLine (Fields.both_oneLine (Fields.one_oneLine (Codec.text_oneLine _) _ _)
    (Fields.both_oneLine (Fields.one_oneLine Codec.u8_oneLine _ _)
      (Fields.both_oneLine (Fields.one_oneLine (Codec.text_oneLine _) _ _)
        (Fields.one_oneLine (Codec.text_oneLine _) _ _) _) _) _) _ _) skip _

theorem NetworkConfig.oneLine : (NetworkConfig.codec skip).OneLine :=
  Codec.object_oneLine (Fields.iso_oneLine (Fields.both_oneLine (Fields.one_oneLine (Codec.names_oneLine _ _) _ _)
    (Fields.one_oneLine (Codec.option_oneLine (StaticIpv4Config.oneLine skip) _) _ _) _) _ _) skip _

theorem PersistedNodeConfig.oneLine : (PersistedNodeConfig.codec skip).OneLine := by
  refine Codec.object_oneLine (Fields.iso_oneLine ?_ _ _) skip _
  refine Fields.both_oneLine (Fields.one_oneLine (Codec.text_oneLine _) _ _) ?_ _
  refine Fields.both_oneLine (Fields.one_oneLine (WifiConfig.oneLine skip) _ _) ?_ _
  refine Fields.both_oneLine (Fields.one_oneLine (NetworkConfig.oneLine skip) _ _) ?_ _
  refine Fields.both_oneLine (Fields.one_oneLine (Codec.vec_oneLine (GpioInputConfig.oneLine skip) _) _ _) ?_ _
  refine Fields.both_oneLine (Fields.one_oneLine (Codec.vec_oneLine (InputMapping.oneLine skip) _) _ _) ?_ _
  refine Fields.both_oneLine (Fields.one_oneLine Codec.u32_oneLine _ _) ?_ _
  refine Fields.both_oneLine (Fields.one_oneLine Codec.u32_oneLine _ _) ?_ _
  refine Fields.both_oneLine (Fields.one_oneLine Codec.u32_oneLine _ _) ?_ _
  exact Fields.both_oneLine (Fields.one_oneLine Codec.u8_oneLine _ _) (Fields.one_oneLine Codec.u32_oneLine _ _) _

theorem NodeCdcStatus.oneLine : (NodeCdcStatus.codec skip).OneLine :=
  Codec.object_oneLine (Fields.iso_oneLine (Fields.both_oneLine (Fields.one_oneLine (Codec.text_oneLine _) _ _)
    (Fields.both_oneLine (Fields.one_oneLine (Codec.option_oneLine (Codec.text_oneLine _) _) _ _)
      (Fields.one_oneLine (Codec.option_oneLine (Codec.text_oneLine _) _) _ _) _) _) _ _) skip _

theorem NodeCdcData.oneLine (data : NodeCdcData) : OneLine (data.write skip) := by
  cases data with
  | config found => exact PersistedNodeConfig.oneLine skip found
  | status found => exact NodeCdcStatus.oneLine skip found
  | empty => exact (by decide : OneLine (writeObject []))

end

/-! ### The identifier among the members -/

/-- A plain text is read back from its member. -/
theorem readText_unescaped {n : Nat} (id : Text n) (plain : Plain id.val) {before : List UInt8}
    (space : Space before) (rest : List UInt8) :
    readText n (before ++ (unescaped id.val ++ rest)) = some (id,rest) := by
  have written := readText_writeText n id.val rest
  rw [writeText,escape_of_plain plain,Text.ofString?_eq_some.mpr (show id.val = id.val from rfl)] at written
  have shape : unescaped id.val ++ rest = quote :: Utf8.bytes id.val ++ [quote] ++ rest := by simp [unescaped]
  have front : skipSpace (before ++ (unescaped id.val ++ rest)) = skipSpace (unescaped id.val ++ rest) :=
    skipSpace_space space _
  simp only [readText,readString,front]
  rw [shape]
  exact written

theorem readOption_unescaped {n : Nat} (id : Text n) (plain : Plain id.val)
    (solid : ∀ value : Text n, ((Codec.text n).write value).head? ≠ some 110) {before : List UInt8}
    (space : Space before) (rest : List UInt8) :
    ((Codec.text n).option solid).read (before ++ (unescaped id.val ++ rest)) = some (some id,rest) := by
  have front : skipSpace (before ++ (unescaped id.val ++ rest)) =
      quote :: (Utf8.bytes id.val ++ [quote] ++ rest) := by
    rw [skipSpace_space space,unescaped,List.cons_append]
    exact skipSpace_cons _ (by decide)
  have inner : (Codec.text n).read (before ++ (unescaped id.val ++ rest)) = some (id,rest) :=
    readText_unescaped id plain space rest
  simp only [Codec.option,front,inner,quote]
  rfl

/-- The identifier in the draft of a request. -/
def CdcRequest.draftId {P : Type} (params : Codec P) : (CdcRequest.fields params).Draft → Option RequestId :=
  fun (draft : Option UInt8 × Option RequestId × Option CommandName × Option P) => draft.2.1

theorem CdcRequest.tracks_requestId {P : Type} (params : Codec P) :
    (CdcRequest.fields params).Tracks "request_id" (.text requestIdCapacity) (draftId params) :=
  Fields.both_tracks_right (Fields.both_tracks_left (Fields.one_tracks (.text requestIdCapacity) "request_id" none)
    (by decide) _ (by decide)) _ (by decide) (by decide)

/-- A finished request has the identifier of its draft. -/
theorem CdcRequest.finish_requestId {P : Type} (params : Codec P) {draft : (CdcRequest.fields params).Draft}
    {request : CdcRequest P} (finished : (CdcRequest.fields params).finish draft = some request) :
    draftId params draft = some request.requestId := by
  obtain ⟨version,requestId,command,body⟩ := draft
  obtain ⟨⟨_,_,_,_⟩,parts,rfl⟩ := Option.map_eq_some_iff.mp finished
  obtain ⟨_,-,parts⟩ := Option.bind_eq_some_iff.mp parts
  obtain ⟨⟨_,_,_⟩,rest,same⟩ := Option.map_eq_some_iff.mp parts
  cases same
  obtain ⟨_,identifier,others⟩ := Option.bind_eq_some_iff.mp rest
  obtain ⟨_,-,same⟩ := Option.map_eq_some_iff.mp others
  cases same
  exact Option.or_none.symm.trans identifier

section
variable {skip : Reader Unit} (skips : Skips skip) (line : IdentifiedLine)

theorem decodeLine_bytes {α : Type} (codec : Codec α) : decodeLine codec line.bytes = decode codec line.text := by
  simp [decodeLine,IdentifiedLine.bytes]

include skips

/-- A line that is a request has the identifier it states. -/
theorem decodeRequest_requestId {request : CdcRequest NodeCdcParams}
    (decoded : NodeCdcHandler.decodeRequest skip line.bytes = .ok request) : request.requestId = line.id := by
  have params := NodeCdcParams.aligned skips
  have aligned : (CdcRequest.fields (NodeCdcParams.codec skip)).Aligned :=
    Fields.iso_aligned (Fields.both_aligned (Fields.one_aligned Codec.u8_aligned _ _)
      (Fields.both_aligned (Fields.one_aligned (Codec.text_aligned _) _ _)
        (Fields.both_aligned (Fields.one_aligned (Codec.text_aligned _) _ _)
          (Fields.one_aligned params _ _) (by decide)) (by decide)) (by decide)) _ _
  rw [NodeCdcHandler.decodeRequest,decodeLine_bytes,decode] at decoded
  split at decoded
  next => cases decoded
  next found used whole =>
    simp only [fromSlice] at whole
    split at whole
    next value left read =>
      obtain ⟨-,last,visited,finished⟩ :=
        Codec.object_visited aligned skips _ line.object line.spaceBefore read
      obtain ⟨member,text,rest,left',listed,spelled,closes,taken,tracked⟩ :=
        visited.tracked (CdcRequest.tracks_requestId _) (by decide) line.holds
      have spaced := (line.object.spaced member listed).2.2
      have known : readText requestIdCapacity (member.input rest) = some (line.id,member.value.after ++ rest) := by
        rw [Member.input,spelled]
        exact readText_unescaped line.id line.plain spaced.1 _
      have same := taken.symm.trans known
      cases same
      have identifier := (CdcRequest.finish_requestId _ finished).symm.trans tracked
      split at whole
      · cases whole
        split at decoded
        · cases decoded
          exact Option.some.inj identifier
        · cases decoded
      · cases whole
    next => cases whole

/-- A line that is no request is recovered under the identifier it states. -/
theorem recoverRequestId_eq : NodeCdcHandler.recoverRequestId skip line.bytes = line.id := by
  obtain ⟨front,member,back,split,key,text,only⟩ := line.holds
  have spaced := line.object.spaced
  have keys := line.object.keys
  have values := line.object.values
  rw [split] at spaced keys values
  have other {others : List Member} (among : ∀ other ∈ others, other ∈ front ++ back) :
      ∀ other ∈ others, ∀ key, Utf8.decode other.key = some key → key ∉ ["request_id"] := by
    intro other listed key keyed
    have inside : other ∈ front ++ member :: back := by
      rcases List.mem_append.mp (among other listed) with inFront | inBack
      · exact List.mem_append_left _ inFront
      · exact List.mem_append_right _ (List.mem_cons_of_mem _ inBack)
    obtain ⟨spelled,named⟩ := keys other inside
    rw [List.mem_singleton]
    exact Member.key_ne (by decide) named (only other (among other listed)) keyed
  have inFront (other : Member) (listed : other ∈ front) : other ∈ front ++ member :: back :=
    List.mem_append_left _ listed
  have inBack (other : Member) (listed : other ∈ back) : other ∈ front ++ member :: back :=
    List.mem_append_right _ (List.mem_cons_of_mem _ listed)
  have passes : Passes (RequestIdOnly.fields.visitor skip) RequestIdOnly.fields.start line.object.members
      (some (some line.id)) := by
    rw [split]
    refine (Fields.passes_unknown skips _ front (fun other listed => spaced other (inFront other listed))
      (fun other listed => keys other (inFront other listed))
      (fun other listed => values other (inFront other listed)) (other fun _ => List.mem_append_left _)).append ?_
    have keyed : Utf8.decode member.key = some "request_id" := by rw [key,Utf8.decode_bytes]
    refine .cons keyed (fun tail closes => ?_)
      (Fields.passes_unknown skips _ back (fun other listed => spaced other (inBack other listed))
        (fun other listed => keys other (inBack other listed))
        (fun other listed => values other (inBack other listed)) (other fun _ => List.mem_append_right _))
    have memberSpaced := (spaced member (by simp)).2.2
    refine ⟨member.value.after ++ tail,?_,skipSpace_space memberSpaced.2 tail⟩
    have taken := readOption_unescaped line.id line.plain (fun _ same => by cases same) memberSpaced.1
      (member.value.after ++ tail)
    rw [← text] at taken
    refine (Fields.one_visitor _ "request_id" (some none) skip "request_id" none (member.input tail)).trans ?_
    rw [if_pos rfl,Member.input,taken]
    rfl
  have read : (RequestIdOnly.codec skip).read line.text = some ({ requestId := some line.id },line.after) :=
    (Codec.object_passes (by decide) line.object passes line.spaceBefore line.after).trans rfl
  have decoded : decodeLine (RequestIdOnly.codec skip) line.bytes = .ok { requestId := some line.id } := by
    have nothing : skipSpace line.after = [] := by
      have spaces := skipSpace_space line.spaceAfter []
      rwa [List.append_nil] at spaces
    have whole : fromSlice (RequestIdOnly.codec skip).read line.text =
        some ({ requestId := some line.id },line.text.length) := by
      simp only [fromSlice,read,nothing,if_true]
    rw [decodeLine_bytes,decode,whole]
    exact if_pos rfl
  rw [NodeCdcHandler.recoverRequestId,decoded]
  rfl

end

/-! ### Every branch keeps the identifier -/

namespace NodeCdcHandler
variable {S ε : Type} {skip : Reader Unit} (device : ConfigStorage S ε) (self : NodeCdcHandler S)

theorem setConfig_requestId (requestId : RequestId) (params : NodeCdcParams) :
    (self.setConfig skip device requestId params).2.response.requestId = requestId := by
  unfold setConfig
  split
  · rfl
  · rfl
  · split <;> rfl

theorem factoryReset_requestId (requestId : RequestId) :
    (self.factoryReset device requestId).2.response.requestId = requestId := by
  unfold factoryReset
  split <;> rfl

theorem command_requestId (request : CdcRequest NodeCdcParams) (ipAddress : Option Ipv4Text)
    (hubEndpoint : Option (Text 64)) :
    (self.command skip device request ipAddress hubEndpoint).2.response.requestId = request.requestId := by
  unfold command
  split
  · rfl
  · rfl
  · exact setConfig_requestId device self _ _
  · exact factoryReset_requestId device self _
  all_goals rfl

theorem reply_requestId (skips : Skips skip) (line : IdentifiedLine) (ipAddress : Option Ipv4Text)
    (hubEndpoint : Option (Text 64)) :
    (self.reply skip device line.bytes ipAddress hubEndpoint).2.response.requestId = line.id := by
  unfold reply
  split
  next => exact recoverRequestId_eq skips line
  next request decoded =>
    have same := decodeRequest_requestId skips line decoded
    split
    · exact same
    · exact (command_requestId device self request ipAddress hubEndpoint).trans same

end NodeCdcHandler

theorem response_oneLine (skip : Reader Unit) (response : CdcResponse NodeCdcData) :
    OneLine (response.write (NodeCdcData.write skip)) := by
  refine writeObject_oneLine fun entry member => ?_
  simp only [List.mem_cons] at member
  rcases member with rfl | rfl | rfl | member
  · exact entry_oneLine (by decide) (writeNat_oneLine _)
  · exact entry_oneLine (by decide) (writeText_oneLine _)
  · exact entry_oneLine (by decide) (writeText_oneLine _)
  · rcases List.mem_append.mp member with inData | inError
    · obtain ⟨data,-,rfl⟩ := by simpa using inData
      exact entry_oneLine (by decide) (NodeCdcData.oneLine skip data)
    · obtain ⟨error,-,rfl⟩ := by simpa using inError
      exact entry_oneLine (by decide) (writeObject_oneLine fun entry member => by
        simp only [List.mem_cons,List.not_mem_nil,or_false] at member
        rcases member with rfl | rfl
        · exact entry_oneLine (by decide) (writeText_oneLine _)
        · exact entry_oneLine (by decide) (writeText_oneLine _))

/-- With room for it there is a response, and it is under the line's identifier. -/
def NodeCdcHandler.AnswersLine {S ε : Type} (skip : Reader Unit) (device : ConfigStorage S ε)
    (self : NodeCdcHandler S) (line : IdentifiedLine) (ipAddress : Option Ipv4Text)
    (hubEndpoint : Option (Text 64)) : Prop :=
  ∃ size, ∀ destination, size ≤ destination → ∃ result,
    (self.handleLineWithStatus skip device line.bytes destination ipAddress hubEndpoint).2 = .ok result ∧
    Answers (CdcResponse.write (NodeCdcData.write skip)) line.id result.response

theorem NodeCdcHandler.answersLine {S ε : Type} {skip : Reader Unit} (skips : Skips skip)
    (device : ConfigStorage S ε) (self : NodeCdcHandler S) (line : IdentifiedLine)
    (ipAddress : Option Ipv4Text) (hubEndpoint : Option (Text 64)) :
    self.AnswersLine skip device line ipAddress hubEndpoint := by
  let reply := (self.reply skip device line.bytes ipAddress hubEndpoint).2
  refine ⟨(reply.response.write (NodeCdcData.write skip)).length + 1,fun destination enough => ?_⟩
  have encoded : reply.encoded skip destination = .ok {
      response := reply.response.write (NodeCdcData.write skip) ++ [lineFeed],action := reply.action } := by
    simp only [NodeReply.encoded,encodeLine,if_pos (show _ < destination from enough)]
  exact ⟨_,encoded,reply.response,rfl,response_oneLine skip _,
    self.reply_requestId device skips line ipAddress hubEndpoint⟩

end UchiPulse.Node
