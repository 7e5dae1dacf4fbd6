import Mathlib.Data.List.Induction
import Mathlib.Algebra.Ring.Int.Defs
import UchiPulse.Common.Udp
import UchiPulse.Lib.Denotes

/-! The grammar of UDP messages. The visitor runs over the entries of an object, whatever they
hold; it accepts those whose known keys have values of their types and whose last ones make
up a message. -/
namespace UchiPulse.Common
open Json

def toMessageType (value : JsonValue) : Option MessageType := value.toName MessageType.ofName

def toU32 (value : JsonValue) : Option UInt32 := (value.toFin UInt32.size).map UInt32.ofFin

/-- One round of the visitor's loop. -/
def visitEntry (draft : Draft) (entry : JsonEntry) : Option Draft :=
  visitField (toMessageType entry.2) (entry.2.toText deviceIdCapacity) (entry.2.toText eventIdCapacity)
    (toU32 entry.2) (some ()) (Field.ofKey entry.1) draft

/-- The visitor over the entries of an object. -/
def visitMap (entries : List JsonEntry) : Option UdpMessage := do
  let draft ← entries.foldlM visitEntry {}
  draft.finish

/-! ### The grammar -/

/-- The value of a known key has the key's type. -/
structure WellTyped (entry : JsonEntry) : Prop where
  messageType : entry.1 = "type" → ∃ messageType : MessageType, entry.2.Names messageType.name
  deviceId : entry.1 = "device_id" → ∃ text, entry.2 = .string text ∧ (Utf8.bytes text).length ≤ 64
  eventId : entry.1 = "event_id" → ∃ text, entry.2 = .string text ∧ (Utf8.bytes text).length ≤ 128
  actionId : entry.1 = "action_id" → ∃ value, entry.2 = .integer value ∧ 0 ≤ value ∧ value < 2 ^ 32

def Occurs (key : String) (entries : List JsonEntry) : Prop := ∃ entry ∈ entries, entry.1 = key

/-- The value under the last occurrence of a key. -/
def lastValue (key : String) (entries : List JsonEntry) : Option JsonValue :=
  (entries.reverse.find? (·.1 = key)).map (·.2)

/-- What the last occurrences of the known keys say. -/
def lastDraft (entries : List JsonEntry) : Draft where
  messageType := (lastValue "type" entries).bind toMessageType
  deviceId := (lastValue "device_id" entries).bind (JsonValue.toText deviceIdCapacity)
  eventId := (lastValue "event_id" entries).bind (JsonValue.toText eventIdCapacity)
  actionId := (lastValue "action_id" entries).bind toU32

/-- The draft of a message. -/
def UdpMessage.draft : UdpMessage → Draft
  | .hello deviceId => { messageType := some .hello,deviceId := some deviceId }
  | .heartbeat deviceId => { messageType := some .heartbeat,deviceId := some deviceId }
  | .event deviceId eventId actionId => {
    messageType := some .event,deviceId := some deviceId,eventId := some eventId,actionId := some actionId }
  | .ack deviceId eventId => { messageType := some .ack,deviceId := some deviceId,eventId := some eventId }

theorem finish_iff {draft : Draft} {message : UdpMessage} : draft.finish = some message ↔ draft = message.draft := by
  obtain ⟨messageType,deviceId,eventId,actionId⟩ := draft
  constructor
  · intro finished
    unfold Draft.finish at finished
    split at finished
    · cases finished
    · cases finished
    · next someType someDevice =>
      simp only at someType someDevice
      subst someType someDevice
      split at finished <;> simp_all [UdpMessage.draft]
      all_goals
        subst finished
        rfl
  · intro same
    rw [same]
    cases message <;> rfl

/-! ### One entry -/

theorem MessageType.ofName_iff {text : String} {messageType : MessageType} :
    MessageType.ofName text = some messageType ↔ text = messageType.name := by
  constructor
  · intro found
    unfold MessageType.ofName at found
    split at found
    all_goals first
      | cases found
        rfl
      | cases found
  · rintro rfl
    cases messageType <;> rfl

theorem toMessageType_iff {value : JsonValue} {messageType : MessageType} :
    toMessageType value = some messageType ↔ value.Names messageType.name := by
  rw [toMessageType,JsonValue.toName_eq_some]
  constructor
  · rintro ⟨name,named,found⟩
    rwa [← MessageType.ofName_iff.mp found]
  · exact fun named => ⟨messageType.name,named,MessageType.ofName_iff.mpr rfl⟩

theorem toMessageType_isSome {value : JsonValue} :
    (toMessageType value).isSome ↔ ∃ messageType : MessageType, value.Names messageType.name := by
  simp only [Option.isSome_iff_exists,toMessageType_iff]

theorem toText_isSome {n : Nat} {value : JsonValue} :
    (value.toText n).isSome ↔ ∃ text, value = .string text ∧ (Utf8.bytes text).length ≤ n := by
  cases value with
  | string text =>
    rw [JsonValue.toText,← Option.ne_none_iff_isSome,Ne,Text.ofString?_eq_none,Nat.not_lt]
    simp
  | _ => simp [JsonValue.toText]

theorem toU32_isSome {value : JsonValue} :
    (toU32 value).isSome ↔ ∃ number, value = .integer number ∧ 0 ≤ number ∧ number < 2 ^ 32 := by
  cases value with
  | integer number =>
    have size : (UInt32.size : Int) = 2 ^ 32 := by decide
    rw [toU32,Option.isSome_map,JsonValue.toFin]
    by_cases range : 0 ≤ number ∧ number < UInt32.size
    · rw [dif_pos range]
      rw [size] at range
      exact iff_of_true rfl ⟨number,rfl,range⟩
    · rw [dif_neg range]
      rw [size] at range
      refine iff_of_false Bool.false_ne_true ?_
      rintro ⟨_,same,inside⟩
      cases same
      exact range inside
  | _ => simp [toU32,JsonValue.toFin]

/-- An entry overwrites what an earlier one under its key has said. -/
def Draft.noted (draft : Draft) (entry : JsonEntry) : Draft where
  messageType := if entry.1 = "type" then toMessageType entry.2 else draft.messageType
  deviceId := if entry.1 = "device_id" then entry.2.toText deviceIdCapacity else draft.deviceId
  eventId := if entry.1 = "event_id" then entry.2.toText eventIdCapacity else draft.eventId
  actionId := if entry.1 = "action_id" then toU32 entry.2 else draft.actionId

/-- The keys that are not ignored. -/
def knownKeys : List String := ["type","device_id","event_id","action_id"]

theorem ofKey_unknown {key : String} (unknown : key ∉ knownKeys) :
    Field.ofKey key = .ignore := by
  unfold Field.ofKey
  split <;> simp_all [knownKeys]

theorem wellTyped_iff {entry : JsonEntry} : WellTyped entry ↔
    (entry.1 = "type" → (toMessageType entry.2).isSome) ∧
    (entry.1 = "device_id" → (entry.2.toText deviceIdCapacity).isSome) ∧
    (entry.1 = "event_id" → (entry.2.toText eventIdCapacity).isSome) ∧
    (entry.1 = "action_id" → (toU32 entry.2).isSome) := by
  simp only [toMessageType_isSome,toText_isSome,toU32_isSome]
  exact ⟨fun typed => ⟨typed.messageType,typed.deviceId,typed.eventId,typed.actionId⟩,
    fun ⟨messageType,deviceId,eventId,actionId⟩ => ⟨messageType,deviceId,eventId,actionId⟩⟩

/-- A read that sets one field. -/
theorem read_iff {α : Type} (read : Option α) (set : Option α → Draft) {next : Draft} :
    (do let value ← read; return set (some value)) = some next ↔ read.isSome ∧ next = set read := by
  cases read <;> simp [eq_comm]

theorem visitEntry_iff {draft next : Draft} {entry : JsonEntry} :
    visitEntry draft entry = some next ↔ WellTyped entry ∧ next = draft.noted entry := by
  obtain ⟨key,value⟩ := entry
  rw [wellTyped_iff]
  by_cases isType : key = "type"
  · subst isType
    refine (read_iff (toMessageType value) fun found => { draft with messageType := found }).trans ?_
    simp [Draft.noted]
  by_cases isDevice : key = "device_id"
  · subst isDevice
    refine (read_iff (value.toText deviceIdCapacity) fun found => { draft with deviceId := found }).trans ?_
    simp [Draft.noted]
  by_cases isEvent : key = "event_id"
  · subst isEvent
    refine (read_iff (value.toText eventIdCapacity) fun found => { draft with eventId := found }).trans ?_
    simp [Draft.noted]
  by_cases isAction : key = "action_id"
  · subst isAction
    refine (read_iff (toU32 value) fun found => { draft with actionId := found }).trans ?_
    simp [Draft.noted]
  have unknown : Field.ofKey key = .ignore := ofKey_unknown (by simp [knownKeys,isType,isDevice,isEvent,isAction])
  have same : draft.noted (key,value) = draft := by simp [Draft.noted,isType,isDevice,isEvent,isAction]
  rw [same]
  simp only [visitEntry,unknown,visitField,isType,isDevice,isEvent,isAction,false_implies,and_self,true_and]
  simp [eq_comm]

/-! ### All entries -/

theorem lastValue_concat (key : String) (entries : List JsonEntry) (entry : JsonEntry) :
    lastValue key (entries ++ [entry]) = if entry.1 = key then some entry.2 else lastValue key entries := by
  by_cases same : entry.1 = key <;> simp [lastValue,same]

theorem lastDraft_concat (entries : List JsonEntry) (entry : JsonEntry) :
    lastDraft (entries ++ [entry]) = (lastDraft entries).noted entry := by
  simp only [lastDraft,Draft.noted,lastValue_concat]
  split_ifs <;> rfl

theorem foldlM_visitEntry {entries : List JsonEntry} {draft : Draft} :
    entries.foldlM visitEntry {} = some draft ↔ (∀ entry ∈ entries, WellTyped entry) ∧ draft = lastDraft entries := by
  induction entries using List.reverseRecOn generalizing draft with
  | nil =>
    have start : lastDraft [] = {} := rfl
    simp [start,eq_comm]
  | append_singleton entries entry ih =>
    rw [List.foldlM_append,lastDraft_concat]
    simp only [List.forall_mem_append,List.forall_mem_singleton]
    constructor
    · intro visited
      obtain ⟨before,front,last⟩ := Option.bind_eq_some_iff.mp visited
      rw [List.foldlM_cons] at last
      obtain ⟨after,step,done⟩ := Option.bind_eq_some_iff.mp last
      cases done
      obtain ⟨typed,rfl⟩ := ih.mp front
      obtain ⟨here,rfl⟩ := visitEntry_iff.mp step
      exact ⟨⟨typed,here⟩,rfl⟩
    · rintro ⟨⟨typed,here⟩,rfl⟩
      refine Option.bind_eq_some_iff.mpr ⟨_,ih.mpr ⟨typed,rfl⟩,?_⟩
      rw [List.foldlM_cons]
      exact Option.bind_eq_some_iff.mpr ⟨_,visitEntry_iff.mpr ⟨here,rfl⟩,rfl⟩

/-- The visitor returns what the last entries say, if all entries have their types. -/
theorem visitMap_iff {entries : List JsonEntry} {message : UdpMessage} :
    visitMap entries = some message ↔
      (∀ entry ∈ entries, WellTyped entry) ∧ lastDraft entries = message.draft := by
  refine Option.bind_eq_some_iff.trans ?_
  simp only [foldlM_visitEntry,finish_iff]
  constructor
  · rintro ⟨draft,⟨typed,rfl⟩,same⟩
    exact ⟨typed,same⟩
  · exact fun ⟨typed,same⟩ => ⟨_,⟨typed,rfl⟩,same⟩

/-! ### Presence -/

/-- Whether the other identifiers go with a type. -/
def MessageType.Takes (messageType : MessageType) (eventId actionId : Prop) : Prop :=
  match messageType with
  | .hello => ¬ eventId ∧ ¬ actionId
  | .heartbeat => ¬ eventId ∧ ¬ actionId
  | .event => eventId ∧ actionId
  | .ack => eventId ∧ ¬ actionId

theorem exists_message (draft : Draft) : (∃ message : UdpMessage, draft = message.draft) ↔
    draft.deviceId.isSome ∧ ∃ messageType, draft.messageType = some messageType ∧
      messageType.Takes draft.eventId.isSome draft.actionId.isSome := by
  obtain ⟨messageType,deviceId,eventId,actionId⟩ := draft
  constructor
  · rintro ⟨message,same⟩
    rw [same]
    cases message <;> simp [UdpMessage.draft,MessageType.Takes]
  · rintro ⟨named,messageType,rfl,takes⟩
    obtain ⟨deviceId,rfl⟩ := Option.isSome_iff_exists.mp named
    cases messageType with
    | hello =>
      simp only [MessageType.Takes,Option.not_isSome_iff_eq_none] at takes
      obtain ⟨rfl,rfl⟩ := takes
      exact ⟨.hello deviceId,rfl⟩
    | heartbeat =>
      simp only [MessageType.Takes,Option.not_isSome_iff_eq_none] at takes
      obtain ⟨rfl,rfl⟩ := takes
      exact ⟨.heartbeat deviceId,rfl⟩
    | event =>
      obtain ⟨⟨eventId,rfl⟩,actionId,rfl⟩ := takes.imp Option.isSome_iff_exists.mp Option.isSome_iff_exists.mp
      exact ⟨.event deviceId eventId actionId,rfl⟩
    | ack =>
      simp only [MessageType.Takes,Option.not_isSome_iff_eq_none] at takes
      obtain ⟨present,rfl⟩ := takes
      obtain ⟨eventId,rfl⟩ := Option.isSome_iff_exists.mp present
      exact ⟨.ack deviceId eventId,rfl⟩

theorem lastValue_filter (key : String) (entries : List JsonEntry) :
    lastValue key entries = (entries.filter (·.1 = key)).getLast?.map (·.2) := by
  rw [lastValue,← List.head?_filter,List.filter_reverse,List.head?_reverse]

theorem lastValue_isSome {key : String} {entries : List JsonEntry} :
    (lastValue key entries).isSome ↔ Occurs key entries := by
  simp [lastValue,Occurs,List.find?_isSome]

theorem lastValue_mem {key : String} {entries : List JsonEntry} {value : JsonValue}
    (last : lastValue key entries = some value) : (key,value) ∈ entries := by
  obtain ⟨entry,found,rfl⟩ := Option.map_eq_some_iff.mp last
  have same := List.find?_some found
  rw [← of_decide_eq_true same]
  exact List.mem_reverse.mp (List.mem_of_find?_eq_some found)

/-- With its type, the last value under a key is read whenever the key occurs. -/
theorem read_isSome {α : Type} {key : String} {entries : List JsonEntry} {read : JsonValue → Option α}
    (typed : ∀ entry ∈ entries, entry.1 = key → (read entry.2).isSome) :
    ((lastValue key entries).bind read).isSome ↔ Occurs key entries := by
  rw [← lastValue_isSome]
  cases last : lastValue key entries with
  | none => rfl
  | some value => exact iff_of_true (typed (key,value) (lastValue_mem last) rfl) rfl

theorem visitMap_isSome {entries : List JsonEntry} : (visitMap entries).isSome ↔
    (∀ entry ∈ entries, WellTyped entry) ∧ Occurs "device_id" entries ∧
      ∃ value, lastValue "type" entries = some value ∧ ∃ messageType : MessageType,
        value.Names messageType.name ∧
          messageType.Takes (Occurs "event_id" entries) (Occurs "action_id" entries) := by
  rw [Option.isSome_iff_exists]
  simp only [visitMap_iff,exists_and_left,exists_message]
  refine and_congr_right fun typed => ?_
  have each := fun entry member => wellTyped_iff.mp (typed entry member)
  have device : (lastDraft entries).deviceId.isSome ↔ Occurs "device_id" entries :=
    read_isSome fun entry member => (each entry member).2.1
  have event : (lastDraft entries).eventId.isSome ↔ Occurs "event_id" entries :=
    read_isSome fun entry member => (each entry member).2.2.1
  have action : (lastDraft entries).actionId.isSome ↔ Occurs "action_id" entries :=
    read_isSome fun entry member => (each entry member).2.2.2
  have messageType (messageType : MessageType) : (lastDraft entries).messageType = some messageType ↔
      ∃ value, lastValue "type" entries = some value ∧ value.Names messageType.name := by
    simp only [lastDraft,Option.bind_eq_some_iff,toMessageType_iff]
  simp only [device,event,action,messageType]
  refine and_congr_right fun _ => ?_
  constructor
  · rintro ⟨messageType,⟨value,last,names⟩,takes⟩
    exact ⟨value,last,messageType,names,takes⟩
  · rintro ⟨value,last,messageType,names,takes⟩
    exact ⟨messageType,⟨value,last,names⟩,takes⟩

/-! ### The order of the entries -/

theorem wellTyped_unknown {entry : JsonEntry} (unknown : entry.1 ∉ knownKeys) : WellTyped entry := by
  have other {key : String} (known : key ∈ knownKeys) : entry.1 ≠ key := fun same => unknown (same ▸ known)
  exact ⟨fun same => absurd same (other (by decide)),fun same => absurd same (other (by decide)),
    fun same => absurd same (other (by decide)),fun same => absurd same (other (by decide))⟩

/-- Only the entries under each known key matter, in their order. -/
theorem visitMap_congr {entries entries' : List JsonEntry}
    (same : ∀ key ∈ knownKeys, entries.filter (·.1 = key) = entries'.filter (·.1 = key)) :
    visitMap entries = visitMap entries' := by
  have typed (entries : List JsonEntry) : (∀ entry ∈ entries, WellTyped entry) ↔
      ∀ key ∈ knownKeys, ∀ entry ∈ entries.filter (·.1 = key), WellTyped entry := by
    constructor
    · exact fun all key _ entry member => all entry (List.mem_of_mem_filter member)
    · intro all entry member
      by_cases known : entry.1 ∈ knownKeys
      · exact all entry.1 known entry (List.mem_filter.mpr ⟨member,decide_eq_true rfl⟩)
      · exact wellTyped_unknown known
  have last (key : String) (known : key ∈ knownKeys) : lastValue key entries = lastValue key entries' := by
    rw [lastValue_filter,lastValue_filter,same key known]
  have drafts : lastDraft entries = lastDraft entries' := by
    unfold lastDraft
    rw [last "type" (by decide),last "device_id" (by decide),last "event_id" (by decide),last "action_id" (by decide)]
  refine Option.ext fun message => ?_
  rw [visitMap_iff,visitMap_iff,typed entries,typed entries',drafts]
  refine and_congr_left fun _ => forall₂_congr fun key known => ?_
  rw [same key known]

/-! ### The bytes of an object -/

theorem u32_offers : Offers Codec.u32.read toU32 := by
  refine (readFin_offers UInt32.size).map UInt32.ofFin (fun input => ?_) fun value => rfl
  simp only [Codec.u32,Codec.iso,Codec.fin]
  cases readFin UInt32.size input <;> rfl

/-- Whatever the key, the visitor of the bytes makes of a text what the visitor of the entries
makes of its value. -/
theorem visit_offers {skip : Reader Unit} (skips : Skips skip) (key : String) (draft : Draft) :
    Offers (visit skip key draft) fun value => visitEntry draft (key,value) := by
  by_cases isType : key = "type"
  · subst isType
    refine (readName_offers MessageType.ofName).map (fun value => { draft with messageType := some value })
      (visit_type draft) fun value => ?_
    change (value.toName MessageType.ofName).bind _ = _
    cases value.toName MessageType.ofName <;> rfl
  by_cases isDevice : key = "device_id"
  · subst isDevice
    refine (readText_offers deviceIdCapacity).map (fun value => { draft with deviceId := some value })
      (visit_device draft) fun value => ?_
    change (value.toText deviceIdCapacity).bind _ = _
    cases value.toText deviceIdCapacity <;> rfl
  by_cases isEvent : key = "event_id"
  · subst isEvent
    refine (readText_offers eventIdCapacity).map (fun value => { draft with eventId := some value })
      (visit_event draft) fun value => ?_
    change (value.toText eventIdCapacity).bind _ = _
    cases value.toText eventIdCapacity <;> rfl
  by_cases isAction : key = "action_id"
  · subst isAction
    refine u32_offers.map (fun value => { draft with actionId := some value }) (visit_action draft) fun value => ?_
    change (toU32 value).bind _ = _
    cases toU32 value <;> rfl
  have unknown : Field.ofKey key = .ignore := ofKey_unknown (by simp [knownKeys,isType,isDevice,isEvent,isAction])
  refine skips.offers.map (fun _ => draft) (fun input => ?_) fun value => ?_
  · rw [visit,unknown]
    change (skip input).bind _ = _
    cases skip input <;> rfl
  · rw [visitEntry,unknown]
    rfl

/-- What is read of a text of an object is what the visitor makes of the object's entries. -/
theorem UdpMessage.read_denoted {skip : Reader Unit} (skips : Skips skip) {entries : List JsonEntry}
    {text before : List UInt8} (denotes : Denotes (.object entries) text) (space : Space before)
    (rest : List UInt8) :
    UdpMessage.read skip (before ++ (text ++ rest)) = (visitMap entries).map (·,rest) := by
  rw [UdpMessage.read,readObject_denoted (visit_offers skips) denotes space,visitMap]
  cases entries.foldlM visitEntry {} <;> rfl

/-- A datagram that is a text of an object is decoded to what the visitor returns. -/
theorem decode_denoted {skip : Reader Unit} (skips : Skips skip) {entries : List JsonEntry}
    {text before after : List UInt8} (denotes : Denotes (.object entries) text) (front : Space before)
    (back : Space after) (message : UdpMessage) :
    decode (UdpMessage.codec skip) (before ++ (text ++ after)) = .ok message ↔ visitMap entries = some message := by
  have nothing : skipSpace after = [] := by
    have passed := skipSpace_space back []
    rwa [List.append_nil] at passed
  have read : (UdpMessage.codec skip).read (before ++ (text ++ after)) = (visitMap entries).map (·,after) :=
    UdpMessage.read_denoted skips denotes front after
  unfold decode fromSlice
  rw [read]
  cases visitMap entries with
  | none => simp
  | some found => simp [nothing]

end UchiPulse.Common
