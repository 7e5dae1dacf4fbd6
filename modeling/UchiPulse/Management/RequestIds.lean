import UchiPulse.Hub.RequestIds
import UchiPulse.Lib.Skipper
import UchiPulse.Node.Commands
import UchiPulse.Node.RequestIds

/-! Responses and their requests. The node finds the identifier of any line that states
one; the hub finds it only in a request. -/
namespace UchiPulse.Management
open Common Db Json Node

variable {V S ε : Type} {skip : Reader Unit}

/-- Both endpoints answer a line under its identifier exactly when the rest of it is a
request, or the identifier is the one the hub uses for any other line. The node always does. -/
theorem responses_name_requests (skips : Skips skip) (device : ConfigStorage S ε) (handler : NodeCdcHandler S)
    (ipAddress : Option Ipv4Text) (hubEndpoint : Option (Text 64)) (decoding : Hub.Decoding V)
    (holds : List UInt8 → Prop) (line : IdentifiedLine) (text : String)
    (decodes : Hub.Decodes decoding holds line text) (env : Env) (self : Connection) :
    handler.AnswersLine skip device line ipAddress hubEndpoint ∧
    (handler.AnswersLine skip device line ipAddress hubEndpoint ∧ Hub.AnswersLine decoding env self line text ↔
      Hub.IsRequest holds line.object ∨ line.id.val = "unknown") := by
  have node := handler.answersLine skips device line ipAddress hubEndpoint
  exact ⟨node,(and_iff_right node).trans (Hub.answersLine_iff decodes)⟩

/-! ### Two lines -/

def entry (name : String) (text : List UInt8) : Member where
  before := []
  key := Utf8.bytes name
  between := []
  value := { before := [],text,after := [] }

theorem entry_spaced (name : String) (text : List UInt8) : (entry name text).Spaced := by
  have nothing : Space [] := by nofun
  exact ⟨nothing,nothing,nothing,nothing⟩

theorem entry_named {name : String} (plain : Plain name) (text : List UInt8) : (entry name text).Named name :=
  quoted_plain plain

theorem entry_not_named {name other : String} (plain : backslash ∉ Utf8.bytes name) (text : List UInt8)
    (different : name ≠ other) : ¬ (entry name text).Named other := by
  intro named
  have same := Quoted.plain named plain
  rw [← Utf8.bytes_toList] at same
  exact different (Utf8.bytes_injective same)

theorem value_unescaped {text : String} (plain : Plain text) : Value (unescaped text) :=
  .string (quoted_plain plain)

theorem value_one : Value (writeNat 1) := by
  have whole : Whole (writeNat 1) := .inr ⟨⟨by decide,List.all_eq_true.mp (by decide)⟩,by decide⟩
  exact .number false whole (.inl rfl) (.inl rfl)

theorem value_empty : Value (writeObject []) := .object [] [] nofun nofun nofun nofun

/-- `{"version":1,"request_id":"7","command":"get_info"` and more members. -/
def lineWith (more : List Member) (spaced : ∀ member ∈ more, member.Spaced)
    (keys : ∀ member ∈ more, ∃ name, member.Named name) (values : ∀ member ∈ more, Value member.value.text)
    (others : ∀ member ∈ more, ¬ member.Named "request_id") : IdentifiedLine where
  object := {
    members := [entry "version" (writeNat 1),entry "request_id" (unescaped "7"),
      entry "command" (unescaped "get_info")] ++ more
    closing := []
    space := nofun
    spaced := by
      simp only [List.cons_append,List.nil_append,List.forall_mem_cons]
      exact ⟨entry_spaced _ _,entry_spaced _ _,entry_spaced _ _,spaced⟩
    keys := by
      simp only [List.cons_append,List.nil_append,List.forall_mem_cons]
      exact ⟨⟨_,entry_named (by decide) _⟩,⟨_,entry_named (by decide) _⟩,⟨_,entry_named (by decide) _⟩,keys⟩
    values := by
      simp only [List.cons_append,List.nil_append,List.forall_mem_cons]
      exact ⟨value_one,value_unescaped (by decide),value_unescaped (by decide),values⟩ }
  id := ⟨"7",by decide⟩
  before := []
  after := []
  plain := by decide
  holds := by
    refine ⟨[_],_,_ :: more,rfl,rfl,rfl,?_⟩
    simp only [List.singleton_append,List.forall_mem_cons]
    exact ⟨entry_not_named (by decide) _ (by decide),entry_not_named (by decide) _ (by decide),others⟩
  spaceBefore := nofun
  spaceAfter := nofun

def withoutParams : IdentifiedLine := lineWith [] nofun nofun nofun nofun

def withParams : IdentifiedLine :=
  lineWith [entry "params" (writeObject [])] (by simp [entry_spaced])
    (by simpa using ⟨_,entry_named (by decide : Plain "params") _⟩) (by simpa [entry] using value_empty)
    (by simpa using entry_not_named (by decide) _ (by decide))

def incomplete : String := "\x7b\"version\":1,\"request_id\":\"7\",\"command\":\"get_info\"\x7d"

def complete : String := "\x7b\"version\":1,\"request_id\":\"7\",\"command\":\"get_info\",\"params\":\x7b\x7d\x7d"

/-- What the decoder makes of the two. -/
def paramsMissing : Hub.Decoding Unit where
  request line :=
    if line = incomplete then
      .error "missing field `params` at line 1 column 51"
    else .ok { version := 1,requestId := withParams.id,command := ⟨"get_info",by decide⟩,params := () }
  config _ := .error "invalid type: null"
  display _ := "unused"

theorem withoutParams_decodes (holds : List UInt8 → Prop) : Hub.Decodes paramsMissing holds withoutParams
    incomplete where
  bytes := by decide
  request := by
    constructor
    · rintro ⟨request,decoded⟩
      cases decoded
    · rintro ⟨-,-,params,-,front,member,back,split,named,-,-⟩
      have listed : member ∈ withoutParams.object.members := by rw [split]; simp
      simp only [withoutParams,lineWith,List.append_nil,List.mem_cons,List.not_mem_nil,or_false] at listed
      rcases listed with rfl | rfl | rfl
      · exact absurd named (entry_not_named (by decide) _ (by decide))
      · exact absurd named (entry_not_named (by decide) _ (by decide))
      · exact absurd named (entry_not_named (by decide) _ (by decide))
  requestId := by
    intro request decoded
    cases decoded

theorem withParams_isRequest : Hub.IsRequest (· = writeObject []) withParams.object where
  version := by
    refine ⟨1,[],_,[_,_,_],rfl,entry_named (by decide) _,rfl,?_⟩
    simp only [List.nil_append,List.forall_mem_cons]
    exact ⟨entry_not_named (by decide) _ (by decide),entry_not_named (by decide) _ (by decide),
      entry_not_named (by decide) _ (by decide),nofun⟩
  command := by
    refine ⟨⟨"get_info",by decide⟩,Utf8.bytes "get_info",quoted_plain (by decide),[_,_],_,[_],rfl,
      entry_named (by decide) _,rfl,?_⟩
    simp only [List.nil_append,List.cons_append,List.forall_mem_cons]
    exact ⟨entry_not_named (by decide) _ (by decide),entry_not_named (by decide) _ (by decide),
      entry_not_named (by decide) _ (by decide),nofun⟩
  params := by
    refine ⟨_,rfl,[_,_,_],_,[],rfl,entry_named (by decide) _,rfl,?_⟩
    simp only [List.append_nil,List.forall_mem_cons]
    exact ⟨entry_not_named (by decide) _ (by decide),entry_not_named (by decide) _ (by decide),
      entry_not_named (by decide) _ (by decide),nofun⟩

theorem withParams_decodes : Hub.Decodes paramsMissing (· = writeObject []) withParams
    complete where
  bytes := by decide
  request := iff_of_true ⟨_,rfl⟩ withParams_isRequest
  requestId := by
    intro request decoded
    cases decoded
    rfl

def booted : NodeCdcHandler MemoryConfigStorage where
  manager := { storage := .empty configStorageSize,config := .defaults }

/-- Both answer the complete line under its identifier, and not both the other one. -/
theorem responses_name_requests_seven :
    (booted.AnswersLine skipValue MemoryConfigStorage.device withParams none none ∧
      Hub.AnswersLine paramsMissing Env.quiet (.opened Tables.empty) withParams complete) ∧
    ¬ (booted.AnswersLine skipValue MemoryConfigStorage.device withoutParams none none ∧
      Hub.AnswersLine paramsMissing Env.quiet (.opened Tables.empty) withoutParams incomplete) := by
  constructor
  · exact (responses_name_requests skipValue_skips MemoryConfigStorage.device booted none none paramsMissing
      (· = writeObject []) withParams complete withParams_decodes _ _).2.mpr (.inl withParams_isRequest)
  · intro both
    rcases (responses_name_requests skipValue_skips MemoryConfigStorage.device booted none none paramsMissing
      (fun _ => True) withoutParams incomplete (withoutParams_decodes _) _ _).2.mp both with request | unknown
    · obtain ⟨_,decoded⟩ := (withoutParams_decodes _).request.mpr request
      cases decoded
    · exact absurd unknown (by decide)

/-- The hub forgets the identifier of a line without parameters. -/
theorem responses_name_requests_unknown :
    Hub.Decodes paramsMissing (fun _ => True) withoutParams incomplete ∧ withoutParams.id.val = "7" ∧
    ¬ Hub.AnswersLine paramsMissing Env.quiet (.opened Tables.empty) withoutParams incomplete := by
  refine ⟨withoutParams_decodes _,rfl,fun answered => ?_⟩
  rcases (Hub.answersLine_iff (withoutParams_decodes fun _ => True)).mp answered with request | unknown
  · obtain ⟨_,decoded⟩ := (withoutParams_decodes _).request.mpr request
    cases decoded
  · exact absurd unknown (by decide)

end UchiPulse.Management
