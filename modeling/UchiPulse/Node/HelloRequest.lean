import UchiPulse.Common.UdpGrammar
import UchiPulse.Lib.Skipper

/-! The discovery request of the hub. It is told from the messages by its type alone, and takes
no other key, so that no datagram is both. -/
namespace UchiPulse.Node
open Common Json

structure HelloRequest where
  messageType : Text 16

/-- A key that is not a field is an error. -/
def denyUnknown : Reader Unit := fun _ => none

def HelloRequest.fields : Fields ["type"] HelloRequest :=
  (Fields.required "type" (.text 16)).iso (fun messageType => { messageType }) (·.messageType)

def HelloRequest.codec : Codec HelloRequest := .object denyUnknown fields

def isHelloRequest (payload : List UInt8) : Bool :=
  match decode HelloRequest.codec payload with
  | .ok request => request.messageType.val = "HELLO_REQUEST"
  | .error _ => false

/-- What was decoded was read. -/
theorem decode_read {α : Type} {codec : Codec α} {payload : List UInt8} {value : α}
    (decoded : decode codec payload = .ok value) : ∃ left, codec.read payload = some (value,left) := by
  unfold decode fromSlice at decoded
  rcases ran : codec.read payload with _ | ⟨found,left⟩
  · simp [ran] at decoded
  · simp only [ran] at decoded
    by_cases last : skipSpace left = []
    · simp only [if_pos last,if_true] at decoded
      cases decoded
      exact ⟨left,rfl⟩
    · simp only [if_neg last] at decoded
      cases decoded

/-- One key and its value. -/
def HelloRequest.visit (key : String) (draft : Option (Text 16)) : Reader (Option (Text 16)) :=
  (fields.visit key draft).getD fun input => (denyUnknown input).map fun (_,left) => (draft,left)

theorem HelloRequest.visit_iff {key : String} {draft after : Option (Text 16)} {input behind : List UInt8} :
    visit key draft input = some (after,behind) ↔ key = "type" ∧ draft = none ∧
      ∃ messageType, readText 16 input = some (messageType,behind) ∧ after = some messageType := by
  simp only [visit,fields,Fields.iso,Fields.required,Fields.one,denyUnknown,Codec.text]
  by_cases isType : key = "type"
  · rw [if_pos isType,Option.getD_some]
    cases draft with
    | some messageType => simp
    | none =>
      rcases readText 16 input with _ | ⟨messageType,left⟩
      · simp
      · simp only [Option.some.injEq,Prod.mk.injEq,isType,true_and]
        constructor
        · rintro ⟨rfl,rfl⟩
          exact ⟨messageType,⟨rfl,rfl⟩,rfl⟩
        · rintro ⟨_,⟨rfl,rfl⟩,rfl⟩
          exact ⟨rfl,rfl⟩
  · simp [isType]

/-- A request begins with its type, which is all it has. -/
theorem helloRequest_first {payload left : List UInt8} {request : HelloRequest}
    (read : HelloRequest.codec.read payload = some (request,left)) :
    ∃ value behind, firstEntry payload = some ("type",value) ∧
      readText 16 value = some (request.messageType,behind) := by
  simp only [HelloRequest.codec,Codec.object] at read
  split at read
  next draft last visited =>
    have ran : readObject HelloRequest.visit none payload = some (draft,last) := visited
    obtain ⟨_,finished,same⟩ := Option.map_eq_some_iff.mp read
    cases same
    obtain ⟨messageType,found,rfl⟩ := Option.map_eq_some_iff.mp finished
    obtain rfl : draft = some messageType := by
      cases draft with
      | none => cases found
      | some _ => exact found
    rcases readObject_first ran with none' | ⟨key,value,after,fuel,behind,first,took,rest⟩
    · cases none'
    · obtain ⟨rfl,-,messageType',text,rfl⟩ := HelloRequest.visit_iff.mp took
      have final (key : String) (input : List UInt8) : HelloRequest.visit key (some messageType') input = none := by
        rw [Option.eq_none_iff_forall_ne_some]
        rintro ⟨after,behind⟩ again
        cases (HelloRequest.visit_iff.mp again).2.1
      cases readEntries_final final rest
      exact ⟨value,behind,first,text⟩
  next => cases read

/-- A message whose first key is its type names one of the four types there. -/
theorem udpMessage_first {skip : Reader Unit} {payload left value : List UInt8} {message : UdpMessage}
    (read : UdpMessage.read skip payload = some (message,left)) (first : firstEntry payload = some ("type",value)) :
    ∃ found, readName MessageType.ofName value = some found := by
  unfold UdpMessage.read at read
  rcases ran : readObject (visit skip) {} payload with _ | ⟨draft,last⟩
  · simp [ran] at read
  · simp only [ran] at read
    rcases readObject_first ran with rfl | ⟨key,value',after,fuel,behind,first',took,rest⟩
    · cases read
    · rw [first] at first'
      cases first'
      rw [visit_type] at took
      obtain ⟨found,typed,-⟩ := Option.map_eq_some_iff.mp took
      exact ⟨found,typed⟩

/-- No datagram is a message and a discovery request. -/
theorem message_or_request (skip : Reader Unit) (payload : List UInt8) {message : UdpMessage}
    (decoded : decode (UdpMessage.codec skip) payload = .ok message) : isHelloRequest payload = false := by
  obtain ⟨_,read⟩ := decode_read decoded
  unfold isHelloRequest
  cases requested : decode HelloRequest.codec payload with
  | error error => rfl
  | ok request =>
    obtain ⟨_,read'⟩ := decode_read requested
    obtain ⟨value,behind,first,text⟩ := helloRequest_first read'
    obtain ⟨found,named⟩ := udpMessage_first read first
    simp only [readText] at text
    split at text
    next string left' raw =>
      obtain ⟨_,short,same⟩ := Option.map_eq_some_iff.mp text
      cases same
      rw [readName_string MessageType.ofName raw] at named
      obtain ⟨messageType,known,-⟩ := Option.map_eq_some_iff.mp named
      have val := Text.ofString?_eq_some.mp short
      simp only [decide_eq_false_iff_not,val]
      rintro rfl
      simp [MessageType.ofName] at known
    next => cases text

/-- The visitor accepts its grammar and nothing else, and returns what the last entries say. The
order of entries with different keys and entries with unknown keys make no difference. Every text
of an object denotes entries, and a datagram that is one, between spaces, is decoded to what the
visitor makes of them. No datagram is a discovery request too. -/
theorem decoder_accepts_grammar (entries : List JsonEntry) :
    ((visitMap entries).isSome ↔ (∀ entry ∈ entries, WellTyped entry) ∧ Occurs "device_id" entries ∧
      ∃ value, lastValue "type" entries = some value ∧ ∃ messageType : MessageType,
        value.Names messageType.name ∧
          messageType.Takes (Occurs "event_id" entries) (Occurs "action_id" entries)) ∧
    (∀ message, visitMap entries = some message → lastDraft entries = message.draft) ∧
    (∀ entries', (∀ key, entries.filter (·.1 = key) = entries'.filter (·.1 = key)) →
      visitMap entries = visitMap entries') ∧
    (∀ front entry back, entries = front ++ entry :: back → entry.1 ∉ knownKeys →
      visitMap entries = visitMap (front ++ back)) ∧
    (∀ object : ObjectText, ∃ entries, Denotes (.object entries) object.bytes) ∧
    (∀ skip, Skips skip → ∀ before text after, Space before → Denotes (.object entries) text → Space after →
      ∀ message, decode (UdpMessage.codec skip) (before ++ (text ++ after)) = .ok message ↔
        visitMap entries = some message) ∧
    ∀ skip payload, ¬ ((∃ message, decode (UdpMessage.codec skip) payload = .ok message) ∧
      isHelloRequest payload = true) := by
  refine ⟨visitMap_isSome,fun message found => (visitMap_iff.mp found).2,fun entries' same => ?_,?_,
    ObjectText.denoted,?_,?_⟩
  · exact visitMap_congr fun key _ => same key
  · rintro front entry back rfl unknown
    refine visitMap_congr fun key known => ?_
    have other : entry.1 ≠ key := fun same => unknown (same ▸ known)
    simp [other]
  · intro skip skips before text after front denotes back message
    exact decode_denoted skips denotes front back message
  · rintro skip payload ⟨⟨message,decoded⟩,request⟩
    rw [message_or_request skip payload decoded] at request
    cases request

/-- A type in its object form. -/
def taggedHello : List JsonEntry := [("type",.object [("HELLO",.null)]),("device_id",.string "n")]

/-- The visitor and the decoder take a type that is not a string. -/
theorem decoder_accepts_grammar_tagged :
    (visitMap taggedHello).isSome ∧ (∃ entry ∈ taggedHello, entry.1 = "type" ∧ ∀ name, entry.2 ≠ .string name) ∧
    ∃ message, decode (UdpMessage.codec skipValue)
      (Utf8.bytes "\x7b\"type\":\x7b\"HELLO\":null\x7d,\"device_id\":\"n\"\x7d") = .ok message := by
  refine ⟨rfl,⟨("type",.object [("HELLO",.null)]),List.mem_cons_self,rfl,by simp⟩,.hello ⟨"n",by decide⟩,?_⟩
  decide +kernel

end UchiPulse.Node
