import UchiPulse.Lib.Aligned

/-! Visitors on the members of a well-formed object. Each member is visited where it
stands, so that one member's value is found whatever the other members hold. -/
namespace UchiPulse.Json
variable {α β : Type} {visit : String → β → Reader β}

/-- Nothing is visited behind a byte that begins a value. -/
theorem readEntries_stuck {fuel : Nat} {draft : β} {byte : UInt8} {tail : List UInt8} (opening : Opening byte) :
    readEntries visit fuel false draft (byte :: tail) = none := by
  obtain ⟨solid,notComma,notBrace,-⟩ := opening
  cases fuel with
  | zero => rfl
  | succ fuel => simp only [readEntries,skipSpace_cons _ solid,if_neg notBrace,if_neg notComma,
      Bool.false_eq_true,if_false]

theorem readEntries_congr {fuel : Nat} {first : Bool} {draft : β} {input input' : List UInt8}
    (same : skipSpace input = skipSpace input') :
    readEntries visit fuel first draft input = readEntries visit fuel first draft input' := by
  cases fuel with
  | zero => rfl
  | succ fuel => simp only [readEntries,same]

theorem readEntries_close {fuel : Nat} {first : Bool} {draft : β} {closing : List UInt8} (space : Space closing)
    (rest : List UInt8) :
    readEntries visit (fuel + 1) first draft (closing ++ closeBrace :: rest) = some (draft,rest) := by
  have front : skipSpace (closing ++ closeBrace :: rest) = closeBrace :: rest := by
    rw [skipSpace_space space]
    exact skipSpace_cons _ (by decide)
  simp only [readEntries,front,if_true]

/-- A member is visited under the text between its key's quotes. -/
theorem readEntries_member {fuel : Nat} {first : Bool} {draft : β} {member : Member} (spaced : member.Spaced)
    {name : String} (named : member.Named name) {key : String} (keyed : Utf8.decode member.key = some key)
    (tail : List UInt8) :
    readEntries visit (fuel + 1) first draft (separated first (member.bytes ++ tail)) =
      (visit key draft (member.input tail)).bind fun found => readEntries visit fuel false found.1 found.2 := by
  have front : skipSpace (member.before ++ quote ::
      (member.key ++ quote :: (member.between ++ colon :: member.input tail))) =
      quote :: (member.key ++ quote :: (member.between ++ colon :: member.input tail)) := by
    rw [skipSpace_space spaced.1]
    exact skipSpace_cons _ (by decide)
  have entry : readEntry visit draft
      (quote :: (member.key ++ quote :: (member.between ++ colon :: member.input tail))) =
      visit key draft (member.input tail) := by
    have text := readString_quoted named [] (by simp [Space])
      (member.between ++ colon :: member.input tail)
    rw [List.nil_append,keyed,Option.map_some] at text
    simp only [readEntry,text,Member.colon_front spaced,if_true]
  have notClose : comma ≠ closeBrace := by decide
  have notBrace : quote ≠ closeBrace := by decide
  rw [Member.bytes_append]
  cases first with
  | true =>
    simp only [readEntries,separated,if_true,front,if_neg notBrace,entry]
    cases visit key draft (member.input tail) <;> rfl
  | false =>
    simp only [readEntries,separated,Bool.false_eq_true,if_false,if_true,skipSpace_comma,if_neg notClose,
      afterComma,front,if_neg notBrace,entry]
    cases visit key draft (member.input tail) <;> rfl

/-! ### Successful visits -/

/-- The visits of the members one after the other. -/
inductive Visited (visit : String → β → Reader β) : β → List Member → β → Prop
  | nil (draft : β) : Visited visit draft [] draft
  | cons {draft middle last : β} {member : Member} {members : List Member} {key : String}
      {tail left : List UInt8} (keyed : Utf8.decode member.key = some key) (closes : Closes tail)
      (reads : visit key draft (member.input tail) = some (middle,left))
      (more : Visited visit middle members last) : Visited visit draft (member :: members) last

/-- The members and spaces of an object's text. -/
structure ObjectText where
  members : List Member
  closing : List UInt8
  space : Space closing
  spaced : ∀ member ∈ members, member.Spaced
  keys : ∀ member ∈ members, ∃ name, member.Named name
  values : ∀ member ∈ members, Value member.value.text

def ObjectText.bytes (self : ObjectText) : List UInt8 :=
  openBrace :: (writeItems Member.bytes self.members ++ self.closing ++ [closeBrace])

theorem ObjectText.value (self : ObjectText) : Value self.bytes :=
  .object self.members self.closing self.space self.spaced self.keys self.values

theorem readEntries_visited (aligned : ∀ key draft, Aligned (visit key draft)) (members : List Member)
    (spaced : ∀ member ∈ members, member.Spaced) (keys : ∀ member ∈ members, ∃ name, member.Named name)
    (values : ∀ member ∈ members, Value member.value.text) {closing rest left : List UInt8}
    (space : Space closing) {fuel : Nat} (first : Bool) {draft last : β}
    (success : readEntries visit fuel first draft
      ((if first then writeItems Member.bytes members else writeRest Member.bytes members) ++
        (closing ++ closeBrace :: rest)) = some (last,left)) :
    left = rest ∧ Visited visit draft members last := by
  induction members generalizing fuel first draft with
  | nil =>
    cases fuel with
    | zero => cases success
    | succ fuel =>
      have nothing : (if first then writeItems Member.bytes [] else writeRest Member.bytes []) = [] := by
        cases first <;> rfl
      rw [nothing,List.nil_append,readEntries_close space] at success
      cases success
      exact ⟨rfl,.nil _⟩
  | cons member members ih =>
    cases fuel with
    | zero => cases success
    | succ fuel =>
      obtain ⟨memberSpaced,othersSpaced⟩ := List.forall_mem_cons.mp spaced
      obtain ⟨⟨name,named⟩,othersKeys⟩ := List.forall_mem_cons.mp keys
      obtain ⟨value,othersValues⟩ := List.forall_mem_cons.mp values
      obtain ⟨key,keyed⟩ := named.text
      have tail := closes_writeRest Member.bytes members space (.inl rfl) rest
      have shape : (if first then writeItems Member.bytes (member :: members)
          else writeRest Member.bytes (member :: members)) ++ (closing ++ closeBrace :: rest) =
          separated first (member.bytes ++ (writeRest Member.bytes members ++ (closing ++ closeBrace :: rest))) := by
        cases first <;> simp [writeItems,writeRest_cons,separated]
      rw [shape,readEntries_member memberSpaced named keyed] at success
      obtain ⟨⟨middle,left'⟩,reads,success⟩ := Option.bind_eq_some_iff.mp success
      rcases aligned key draft _ value _ _ memberSpaced.2.2.1 (tail.after memberSpaced.2.2.2) middle left' reads with
        place | ⟨stuck,others,rfl,opening⟩
      · rw [readEntries_congr (place.trans (skipSpace_space memberSpaced.2.2.2 _))] at success
        obtain ⟨same,visited⟩ := ih othersSpaced othersKeys othersValues false (by simpa using success)
        exact ⟨same,.cons keyed tail reads visited⟩
      · rw [readEntries_stuck opening] at success
        cases success

theorem Visited.split {draft last : β} {front back : List Member} {member : Member}
    (visited : Visited visit draft (front ++ member :: back) last) :
    ∃ middle, Visited visit draft front middle ∧ Visited visit middle (member :: back) last := by
  induction front generalizing draft with
  | nil => exact ⟨draft,.nil draft,visited⟩
  | cons first front ih =>
    cases visited with
    | cons keyed closes reads more =>
      obtain ⟨middle,before,after⟩ := ih more
      exact ⟨middle,.cons keyed closes reads before,after⟩

/-- What no visit of the members changes. -/
theorem Visited.keeps {γ : Type} (part : β → γ) {draft last : β} {members : List Member}
    (visited : Visited visit draft members last)
    (same : ∀ member ∈ members, ∀ key, Utf8.decode member.key = some key →
      ∀ draft middle input left, visit key draft input = some (middle,left) → part middle = part draft) :
    part last = part draft := by
  induction visited with
  | nil => rfl
  | cons keyed closes reads more ih =>
    rw [ih fun member listed => same member (by simp [listed]),same _ (by simp) _ keyed _ _ _ _ reads]

/-! ### Visits that cannot fail -/

/-- Every member is taken, whatever is behind it. -/
inductive Passes (visit : String → β → Reader β) : β → List Member → β → Prop
  | nil (draft : β) : Passes visit draft [] draft
  | cons {draft middle last : β} {member : Member} {members : List Member} {key : String}
      (keyed : Utf8.decode member.key = some key)
      (reads : ∀ tail, Closes tail → ∃ left, visit key draft (member.input tail) = some (middle,left) ∧
        skipSpace left = skipSpace tail)
      (more : Passes visit middle members last) : Passes visit draft (member :: members) last

theorem Passes.append {draft middle last : β} {front back : List Member} (first : Passes visit draft front middle)
    (second : Passes visit middle back last) : Passes visit draft (front ++ back) last := by
  induction first with
  | nil => exact second
  | cons keyed reads more ih => exact .cons keyed reads (ih second)

theorem readEntries_passes {draft last : β} {members : List Member} (passes : Passes visit draft members last)
    (spaced : ∀ member ∈ members, member.Spaced) (keys : ∀ member ∈ members, ∃ name, member.Named name)
    {closing : List UInt8} (space : Space closing) (rest : List UInt8) (first : Bool) {fuel : Nat}
    (enough : members.length < fuel) :
    readEntries visit fuel first draft
      ((if first then writeItems Member.bytes members else writeRest Member.bytes members) ++
        (closing ++ closeBrace :: rest)) = some (last,rest) := by
  induction passes generalizing fuel first with
  | nil draft =>
    obtain ⟨fuel,rfl⟩ : ∃ k, fuel = k + 1 := ⟨fuel - 1,by simp at enough; omega⟩
    cases first <;> exact readEntries_close space rest
  | @cons draft middle last member members key keyed reads more ih =>
    obtain ⟨fuel,rfl⟩ : ∃ k, fuel = k + 1 := ⟨fuel - 1,by simp at enough; omega⟩
    obtain ⟨memberSpaced,othersSpaced⟩ := List.forall_mem_cons.mp spaced
    obtain ⟨⟨name,named⟩,othersKeys⟩ := List.forall_mem_cons.mp keys
    simp only [List.length_cons,Nat.add_lt_add_iff_right] at enough
    obtain ⟨left,taken,place⟩ := reads _ (closes_writeRest Member.bytes members space (.inl rfl) rest)
    have shape : (if first then writeItems Member.bytes (member :: members)
        else writeRest Member.bytes (member :: members)) ++ (closing ++ closeBrace :: rest) =
        separated first (member.bytes ++ (writeRest Member.bytes members ++ (closing ++ closeBrace :: rest))) := by
      cases first <;> simp [writeItems,writeRest_cons,separated]
    rw [shape,readEntries_member memberSpaced named keyed,taken,Option.bind_some,readEntries_congr place]
    simpa using ih othersSpaced othersKeys false enough

/-! ### Records -/

section
variable {leftNames rightNames : List String}

/-- Every reader a visitor answers with keeps its place. -/
def Fields.Aligned {names : List String} (fields : Fields names α) : Prop :=
  ∀ key draft read, fields.visit key draft = some read → Json.Aligned read

theorem Fields.one_aligned {codec : Codec α} (aligned : Json.Aligned codec.read) (name : String)
    (absent : Option α) : (Fields.one name codec absent).Aligned := by
  intro key draft read visited
  simp only [Fields.one] at visited
  split at visited
  · cases visited
    refine aligned.follows fun input value left success => ?_
    split at success
    · cases success
    · split at success
      next found left' inner =>
        cases success
        exact ⟨found,inner⟩
      next => cases success
  · cases visited

theorem Fields.both_aligned {left : Fields leftNames α} {right : Fields rightNames β} (first : left.Aligned)
    (second : right.Aligned) (disjoint : ∀ name ∈ rightNames, name ∉ leftNames) :
    (left.both right disjoint).Aligned := by
  intro key draft read visited
  simp only [Fields.both,Fields.visitBoth] at visited
  split at visited
  next inner inLeft =>
    cases visited
    refine (first key draft.1 inner inLeft).follows fun input value left success => ?_
    obtain ⟨⟨part,_⟩,taken,same⟩ := Option.map_eq_some_iff.mp success
    cases same
    exact ⟨part,taken⟩
  next =>
    obtain ⟨inner,inRight,rfl⟩ := Option.map_eq_some_iff.mp visited
    refine (second key draft.2 inner inRight).follows fun input value left success => ?_
    obtain ⟨⟨part,_⟩,taken,same⟩ := Option.map_eq_some_iff.mp success
    cases same
    exact ⟨part,taken⟩

theorem Fields.iso_aligned {fields : Fields leftNames α} (aligned : fields.Aligned) (pack : α → β)
    (unpack : β → α) : (fields.iso pack unpack).Aligned := aligned

/-- A record's visitor, which skips the keys it does not know. -/
def Fields.visitor {names : List String} (fields : Fields names α) (skip : Reader Unit) (key : String)
    (draft : fields.Draft) : Reader fields.Draft :=
  (fields.visit key draft).getD fun input => (skip input).map fun (_,left) => (draft,left)

theorem Fields.one_visitor (codec : Codec α) (name : String) (absent : Option α) (skip : Reader Unit)
    (key : String) (draft : Option α) (input : List UInt8) :
    (Fields.one name codec absent).visitor skip key draft input =
      if key = name then
        match draft with
        | some _ => none
        | none => (codec.read input).map fun (value,left) => (some value,left)
      else (skip input).map fun (_,left) => (draft,left) := by
  by_cases known : key = name
  · simp only [Fields.visitor,Fields.one,if_pos known,Option.getD_some]
    cases draft with
    | some value => rfl
    | none => cases codec.read input <;> rfl
  · simp only [Fields.visitor,Fields.one,if_neg known,Option.getD_none]

theorem Fields.both_visitor (left : Fields leftNames α) (right : Fields rightNames β)
    (disjoint : ∀ name ∈ rightNames, name ∉ leftNames) (skip : Reader Unit) (key : String)
    (draft : left.Draft × right.Draft) (input : List UInt8) :
    (left.both right disjoint).visitor skip key draft input =
      if key ∈ leftNames then
        (left.visitor skip key draft.1 input).map fun (part,rest) => ((part,draft.2),rest)
      else (right.visitor skip key draft.2 input).map fun (part,rest) => ((draft.1,part),rest) := by
  have leftNone := left.visit_none key draft.1
  simp only [Fields.visitor,Fields.both,Fields.visitBoth]
  cases visited : left.visit key draft.1 with
  | some read =>
    have known : key ∈ leftNames := by
      by_contra unknown
      rw [leftNone.mpr unknown] at visited
      cases visited
    rw [if_pos known]
    rfl
  | none =>
    rw [if_neg (leftNone.mp visited)]
    cases right.visit key draft.2 with
    | some read => rfl
    | none =>
      simp only [Option.map_none,Option.getD_none,Option.map_map]
      rfl

/-- A part of the draft that takes the value of one key and keeps it under the others. -/
def Fields.Tracks {γ : Type} {names : List String} (fields : Fields names α) (name : String) (codec : Codec γ)
    (part : fields.Draft → Option γ) : Prop :=
  ∀ skip key draft middle input left, fields.visitor skip key draft input = some (middle,left) →
    (key ≠ name → part middle = part draft) ∧
    (key = name → ∃ found, codec.read input = some (found,left) ∧ part middle = some found)

theorem Fields.one_tracks (codec : Codec α) (name : String) (absent : Option α) :
    (Fields.one name codec absent).Tracks name codec fun draft => draft := by
  intro skip key draft middle input left visited
  have success := (Fields.one_visitor codec name absent skip key draft input).symm.trans visited
  split at success
  next known =>
    refine ⟨fun other => absurd known other,fun _ => ?_⟩
    split at success
    · cases success
    · obtain ⟨⟨found,_⟩,read,same⟩ := Option.map_eq_some_iff.mp success
      cases same
      exact ⟨found,read,rfl⟩
  next unknown =>
    obtain ⟨_,-,same⟩ := Option.map_eq_some_iff.mp success
    cases same
    exact ⟨fun _ => rfl,fun known => absurd known unknown⟩

theorem Fields.both_tracks_left {γ : Type} {left : Fields leftNames α} {name : String} {codec : Codec γ}
    {part : left.Draft → Option γ} (tracks : left.Tracks name codec part) (known : name ∈ leftNames)
    (right : Fields rightNames β) (disjoint : ∀ name ∈ rightNames, name ∉ leftNames) :
    (left.both right disjoint).Tracks name codec fun draft => part draft.1 := by
  intro skip key draft middle input after reached
  have success := (Fields.both_visitor left right disjoint skip key draft input).symm.trans reached
  split at success
  next =>
    obtain ⟨⟨inner,_⟩,visited,same⟩ := Option.map_eq_some_iff.mp success
    cases same
    exact tracks skip key draft.1 inner input after visited
  next other =>
    obtain ⟨⟨inner,_⟩,-,same⟩ := Option.map_eq_some_iff.mp success
    cases same
    exact ⟨fun _ => rfl,fun same => absurd (same ▸ known) other⟩

theorem Fields.both_tracks_right {γ : Type} {right : Fields rightNames β} {name : String} {codec : Codec γ}
    {part : right.Draft → Option γ} (tracks : right.Tracks name codec part) (left : Fields leftNames α)
    (unknown : name ∉ leftNames) (disjoint : ∀ name ∈ rightNames, name ∉ leftNames) :
    (left.both right disjoint).Tracks name codec fun draft => part draft.2 := by
  intro skip key draft middle input after reached
  have success := (Fields.both_visitor left right disjoint skip key draft input).symm.trans reached
  split at success
  next other =>
    obtain ⟨⟨inner,_⟩,-,same⟩ := Option.map_eq_some_iff.mp success
    cases same
    exact ⟨fun _ => rfl,fun same => absurd (same ▸ other) unknown⟩
  next =>
    obtain ⟨⟨inner,_⟩,visited,same⟩ := Option.map_eq_some_iff.mp success
    cases same
    exact tracks skip key draft.2 inner input after visited

/-- Members under other names are skipped. -/
theorem Fields.passes_unknown {names : List String} {fields : Fields names α} {skip : Reader Unit}
    (skips : Skips skip) (draft : fields.Draft) (members : List Member)
    (spaced : ∀ member ∈ members, member.Spaced) (keys : ∀ member ∈ members, ∃ name, member.Named name)
    (values : ∀ member ∈ members, Value member.value.text)
    (unknown : ∀ member ∈ members, ∀ key, Utf8.decode member.key = some key → key ∉ names) :
    Passes (fields.visitor skip) draft members draft := by
  induction members with
  | nil => exact .nil draft
  | cons member members ih =>
    obtain ⟨memberSpaced,othersSpaced⟩ := List.forall_mem_cons.mp spaced
    obtain ⟨⟨name,named⟩,othersKeys⟩ := List.forall_mem_cons.mp keys
    obtain ⟨value,othersValues⟩ := List.forall_mem_cons.mp values
    obtain ⟨passed,othersPassed⟩ := List.forall_mem_cons.mp unknown
    obtain ⟨key,keyed⟩ := named.text
    refine .cons keyed (fun tail closes => ?_) (ih othersSpaced othersKeys othersValues othersPassed)
    obtain ⟨left,skipped,place⟩ := skips _ value _ _ memberSpaced.2.2.1 (closes.after memberSpaced.2.2.2)
    refine ⟨left,?_,place.trans (skipSpace_space memberSpaced.2.2.2 tail)⟩
    rw [Fields.visitor,(fields.visit_none key draft).mpr (passed key keyed),Option.getD_none,Member.input,skipped]
    rfl

theorem Fields.visitor_aligned {names : List String} {fields : Fields names α} {skip : Reader Unit}
    (aligned : fields.Aligned) (skips : Skips skip) (key : String) (draft : fields.Draft) :
    Json.Aligned (fields.visitor skip key draft) := by
  unfold Fields.visitor
  cases visited : fields.visit key draft with
  | some read => exact aligned key draft read visited
  | none =>
    refine skips.aligned.follows fun input value left success => ?_
    obtain ⟨⟨_,_⟩,taken,same⟩ := Option.map_eq_some_iff.mp success
    cases same
    exact ⟨(),taken⟩

/-- A record read off an object's text has visited all members and stands behind it. -/
theorem Codec.object_visited {fields : Fields leftNames α} {skip : Reader Unit} (aligned : fields.Aligned)
    (skips : Skips skip) (plain : ∀ name ∈ leftNames, Plain name) (object : ObjectText) {before : List UInt8}
    (space : Space before) {rest left : List UInt8} {value : α}
    (success : (Codec.object skip fields plain).read (before ++ (object.bytes ++ rest)) = some (value,left)) :
    left = rest ∧ ∃ last, Visited (fields.visitor skip) fields.start object.members last ∧
      fields.finish last = some value := by
  have front : skipSpace (before ++ (object.bytes ++ rest)) =
      openBrace :: (writeItems Member.bytes object.members ++ (object.closing ++ closeBrace :: rest)) := by
    rw [skipSpace_space space]
    simp only [ObjectText.bytes,List.cons_append,List.append_assoc,List.nil_append]
    exact skipSpace_cons _ (by decide)
  simp only [Codec.object,readObject,front,if_true] at success
  split at success
  next last left' inner =>
    obtain ⟨found,finished,same⟩ := Option.map_eq_some_iff.mp success
    cases same
    obtain ⟨place,visited⟩ := readEntries_visited (fields.visitor_aligned aligned skips)
      object.members object.spaced object.keys object.values object.space true inner
    exact ⟨place,last,visited,finished⟩
  next => cases success

/-- An object all of whose members pass is read. -/
theorem Codec.object_passes {fields : Fields leftNames α} {skip : Reader Unit}
    (plain : ∀ name ∈ leftNames, Plain name) (object : ObjectText) {last : fields.Draft}
    (passes : Passes (fields.visitor skip) fields.start object.members last) {before : List UInt8}
    (space : Space before) (rest : List UInt8) :
    (Codec.object skip fields plain).read (before ++ (object.bytes ++ rest)) =
      (fields.finish last).map (·,rest) := by
  have front : skipSpace (before ++ (object.bytes ++ rest)) =
      openBrace :: (writeItems Member.bytes object.members ++ (object.closing ++ closeBrace :: rest)) := by
    rw [skipSpace_space space]
    simp only [ObjectText.bytes,List.cons_append,List.append_assoc,List.nil_append]
    exact skipSpace_cons _ (by decide)
  have enough : object.members.length ≤ (writeItems Member.bytes object.members).length := by
    cases object.members with
    | nil => simp
    | cons member members =>
      have tail := length_le_writeRest Member.bytes members
      simp only [writeItems,Member.bytes,List.length_append,List.length_cons]
      omega
  have inner := readEntries_passes passes object.spaced object.keys object.space rest true
    (show object.members.length < (writeItems Member.bytes object.members ++
      (object.closing ++ closeBrace :: rest)).length + 1 by simp only [List.length_append]; omega)
  simp only [if_true] at inner
  simp only [Codec.object,readObject,front,if_true]
  rw [show (fun key draft => (fields.visit key draft).getD fun input => (skip input).map fun (_,left) => (draft,left)) =
    fields.visitor skip from rfl,inner]

theorem Codec.object_aligned {fields : Fields leftNames α} {skip : Reader Unit} (aligned : fields.Aligned)
    (skips : Skips skip) (plain : ∀ name ∈ leftNames, Plain name) :
    Json.Aligned (Codec.object skip fields plain).read := by
  intro text value before rest space closes found left success
  obtain ⟨byte,tail,rfl,kind⟩ := value.kind
  have front := kind.front space rest
  cases kind with
  | object inside =>
    obtain ⟨members,closing,closingSpace,spaced,keys,values,rfl⟩ := inside
    let object : ObjectText := { members,closing,space := closingSpace,spaced,keys,values }
    obtain ⟨rfl,-⟩ := Codec.object_visited aligned skips plain object space success
    exact .inl rfl
  | number digit =>
    simp only [Codec.object,readObject,front] at success
    rw [if_neg (by rintro rfl; exact absurd digit (by decide))] at success
    cases success
  | _ =>
    simp only [Codec.object,readObject,front] at success
    simp [quote,openBracket,openBrace] at success

end

/-! ### One member by its name -/

/-- The object has one member of this name; its key is spelled without an escape. -/
def ObjectText.Holds (self : ObjectText) (name : String) (text : List UInt8) : Prop :=
  ∃ front member back, self.members = front ++ member :: back ∧ member.key = Utf8.bytes name ∧
    member.value.text = text ∧ ∀ other ∈ front ++ back, ¬ other.Named name

/-- The object has one member of this name, however its key is spelled. -/
def ObjectText.States (self : ObjectText) (name : String) (text : List UInt8) : Prop :=
  ∃ front member back, self.members = front ++ member :: back ∧ member.Named name ∧
    member.value.text = text ∧ ∀ other ∈ front ++ back, ¬ other.Named name

/-- A key that is not the name's is not read as the name. -/
theorem Member.key_ne {member : Member} {name spelled key : String} (plain : backslash ∉ Utf8.bytes name)
    (named : member.Named spelled) (other : ¬ member.Named name) (keyed : Utf8.decode member.key = some key) :
    key ≠ name := by
  rintro rfl
  have bytes := Utf8.decode_eq_some.mp keyed
  have same := Quoted.plain named (bytes ▸ plain)
  rw [← Utf8.bytes_toList,← bytes] at same
  rw [Utf8.bytes_injective same] at other
  exact other named

/-- What a tracked part holds behind the last member is what the member of its name holds. -/
theorem Visited.tracked {γ : Type} {names : List String} {fields : Fields names α} {name : String}
    {codec : Codec γ} {part : fields.Draft → Option γ} (tracks : fields.Tracks name codec part)
    {skip : Reader Unit} (plain : backslash ∉ Utf8.bytes name) {object : ObjectText} {text : List UInt8}
    (holds : object.Holds name text) {draft last : fields.Draft}
    (visited : Visited (fields.visitor skip) draft object.members last) :
    ∃ member found rest left, member ∈ object.members ∧ member.value.text = text ∧ Closes rest ∧
      codec.read (member.input rest) = some (found,left) ∧ part last = some found := by
  obtain ⟨front,member,back,split,key,value,only⟩ := holds
  have listed : member ∈ object.members := by rw [split]; simp
  have keys := object.keys
  rw [split] at visited keys
  obtain ⟨middle,-,later⟩ := visited.split
  cases later with
  | @cons _ next _ _ _ key' tail left keyed closes reads more =>
    have name' : key' = name := by
      rw [key,Utf8.decode_bytes] at keyed
      exact (Option.some.inj keyed).symm
    obtain ⟨found,read,took⟩ := (tracks skip key' middle next _ left reads).2 name'
    refine ⟨member,found,tail,left,listed,value,closes,read,?_⟩
    rw [more.keeps part fun other inBack key keyed draft middle input left success => ?_,took]
    obtain ⟨spelled,named⟩ := keys other (by simp [inBack])
    exact (tracks skip key draft middle input left success).1
      (Member.key_ne plain named (only other (by simp [inBack])) keyed)

end UchiPulse.Json
