import UchiPulse.Lib.Codec

/-! JSON objects read by visitors. A visitor gets each key in turn and reads the value
behind it into a draft; the values of keys it does not know are skipped, in a way left
as the parameter `skip`. Drafts of several fields combine, so that a record's codec is
assembled from the codecs of its fields. -/
namespace UchiPulse.Json

/-! ### Entries -/

/-- One key, a colon and the value the visitor reads. -/
def readEntry {β : Type} (visit : String → β → Reader β) (draft : β) : Reader β := fun input =>
  match readString input with
  | none => none
  | some (key,left) =>
    match skipSpace left with
    | [] => none
    | byte :: value => if byte = colon then visit key draft value else none

/-- Each entry takes a byte, so the length of the input is enough fuel. -/
def readEntries {β : Type} (visit : String → β → Reader β) : Nat → Bool → β → Reader β
  | 0, _, _, _ => none
  | fuel + 1, first, draft, input =>
    match skipSpace input with
    | [] => none
    | byte :: rest =>
      if byte = closeBrace then some (draft,rest)
      else
        match (if first then some (byte :: rest)
          else if byte = comma then afterComma closeBrace rest else none) with
        | none => none
        | some start =>
          match readEntry visit draft start with
          | none => none
          | some (draft,left) => readEntries visit fuel false draft left

/-- An object's draft, between its braces. -/
def readObject {β : Type} (visit : String → β → Reader β) (start : β) : Reader β := fun input =>
  match skipSpace input with
  | [] => none
  | byte :: rest =>
    if byte = openBrace then readEntries visit (rest.length + 1) true start rest else none

/-- Keys are written as they stand. -/
def writeEntry (entry : String × List UInt8) : List UInt8 :=
  quote :: Utf8.bytes entry.1 ++ quote :: colon :: entry.2

def writeObject (entries : List (String × List UInt8)) : List UInt8 :=
  openBrace :: writeItems writeEntry entries ++ [closeBrace]

/-- Visiting the written entries from one draft leads to another draft, or to an error. -/
inductive Accepts {β : Type} (visit : String → β → Reader β) :
    β → List (String × List UInt8) → Option β → Prop
  | done (draft : β) : Accepts visit draft [] (some draft)
  | next {draft after : β} {key : String} {value : List UInt8}
      {entries : List (String × List UInt8)} {out : Option β}
      (reads : ∀ rest, Delimited rest → visit key draft (value ++ rest) = some (after,rest))
      (more : Accepts visit after entries out) : Accepts visit draft ((key,value) :: entries) out
  | fail {draft : β} {key : String} {value : List UInt8} {entries : List (String × List UInt8)}
      (reads : ∀ rest, Delimited rest → visit key draft (value ++ rest) = none) :
      Accepts visit draft ((key,value) :: entries) none

theorem readString_key (key : String) (plain : Plain key) (rest : List UInt8) :
    readString (quote :: Utf8.bytes key ++ quote :: rest) = some (key,rest) := by
  have written := readString_writeText key rest
  rw [writeText,escape_eq_self_iff.mpr plain] at written
  simpa using written

variable {β : Type} {visit : String → β → Reader β}

theorem readEntry_writeEntry (key : String) (plain : Plain key) (value rest : List UInt8) (draft : β) :
    readEntry visit draft (writeEntry (key,value) ++ rest) = visit key draft (value ++ rest) := by
  have text := readString_key key plain (colon :: (value ++ rest))
  have front : skipSpace (colon :: (value ++ rest)) = colon :: (value ++ rest) :=
    skipSpace_cons _ (by decide)
  simp only [writeEntry,List.cons_append,List.append_assoc] at text ⊢
  simp only [readEntry,text,front,if_true]

theorem skipSpace_comma (rest : List UInt8) : skipSpace (comma :: rest) = comma :: rest :=
  skipSpace_cons _ (by decide)

theorem skipSpace_closeBrace (rest : List UInt8) : skipSpace (closeBrace :: rest) = closeBrace :: rest :=
  skipSpace_cons _ (by decide)

/-- A comma goes unnoticed in front of a further entry. -/
theorem afterComma_writeEntry (entry : String × List UInt8) (rest : List UInt8) :
    afterComma closeBrace (writeEntry entry ++ rest) = some (writeEntry entry ++ rest) := by
  have front : skipSpace (writeEntry entry ++ rest) = writeEntry entry ++ rest :=
    skipSpace_cons _ (by decide)
  have notClose : quote ≠ closeBrace := by decide
  simp only [afterComma,front]
  simp only [writeEntry,List.cons_append,if_neg notClose]

theorem readEntries_writeRest {draft : β} {entries : List (String × List UInt8)} {out : Option β}
    (accepts : Accepts visit draft entries out) (plain : ∀ entry ∈ entries, Plain entry.1)
    (fuel : Nat) (rest : List UInt8) (enough : entries.length < fuel) :
    readEntries visit fuel false draft (writeRest writeEntry entries ++ closeBrace :: rest) =
      out.map (·,rest) := by
  have notClose : comma ≠ closeBrace := by decide
  induction accepts generalizing fuel with
  | done draft =>
    obtain ⟨fuel,rfl⟩ : ∃ k, fuel = k + 1 := ⟨fuel - 1,by simp at enough; omega⟩
    simp [readEntries,writeRest,skipSpace_closeBrace]
  | @next draft after key value entries out reads more ih =>
    obtain ⟨fuel,rfl⟩ : ∃ k, fuel = k + 1 := ⟨fuel - 1,by simp at enough; omega⟩
    simp only [List.length_cons] at enough
    have found := reads _ (delimited_writeRest writeEntry entries closeBrace rest (by decide))
    rw [writeRest_cons,List.cons_append,List.append_assoc]
    simp only [readEntries,skipSpace_comma,if_neg notClose,Bool.false_eq_true,if_false,if_true,
      afterComma_writeEntry,readEntry_writeEntry key (plain (key,value) (by simp)),found]
    exact ih (fun entry member => plain entry (by simp [member])) fuel (by omega)
  | @fail draft key value entries reads =>
    obtain ⟨fuel,rfl⟩ : ∃ k, fuel = k + 1 := ⟨fuel - 1,by simp at enough; omega⟩
    have found := reads _ (delimited_writeRest writeEntry entries closeBrace rest (by decide))
    rw [writeRest_cons,List.cons_append,List.append_assoc]
    simp only [readEntries,skipSpace_comma,if_neg notClose,Bool.false_eq_true,if_false,if_true,
      afterComma_writeEntry,readEntry_writeEntry key (plain (key,value) (by simp)),found,Option.map_none]

/-- The first entry has no comma in front, and is read as if it had one. -/
theorem readEntries_writeItems (draft : β) (entries : List (String × List UInt8)) (fuel : Nat)
    (rest : List UInt8) :
    readEntries visit (fuel + 1) true draft (writeItems writeEntry entries ++ closeBrace :: rest) =
      readEntries visit (fuel + 1) false draft (writeRest writeEntry entries ++ closeBrace :: rest) := by
  cases entries with
  | nil => simp only [readEntries,writeItems,writeRest,List.flatMap_nil,List.nil_append,
      skipSpace_closeBrace,if_true]
  | cons entry entries =>
    have notClose : comma ≠ closeBrace := by decide
    have notQuote : quote ≠ closeBrace := by decide
    have front : skipSpace (writeEntry entry ++ (writeRest writeEntry entries ++ closeBrace :: rest)) =
        writeEntry entry ++ (writeRest writeEntry entries ++ closeBrace :: rest) :=
      skipSpace_cons _ (by decide)
    rw [writeRest_cons,writeItems,List.append_assoc,List.cons_append,List.append_assoc]
    simp only [readEntries,skipSpace_comma,if_neg notClose,Bool.false_eq_true,if_false,if_true,
      afterComma_writeEntry,front]
    simp only [writeEntry,List.cons_append,if_neg notQuote]

/-- What a visitor makes of a written object is what it makes of the entries. -/
theorem readObject_writeObject {draft : β} {entries : List (String × List UInt8)} {out : Option β}
    (accepts : Accepts visit draft entries out) (plain : ∀ entry ∈ entries, Plain entry.1)
    (rest : List UInt8) :
    readObject visit draft (writeObject entries ++ rest) = out.map (·,rest) := by
  have front : skipSpace (writeObject entries ++ rest) =
      openBrace :: (writeItems writeEntry entries ++ closeBrace :: rest) := by
    simp only [writeObject,List.cons_append,List.append_assoc]
    exact skipSpace_cons _ (by decide)
  have enough : entries.length ≤ (writeItems writeEntry entries).length := by
    cases entries with
    | nil => simp
    | cons entry entries =>
      have tail := length_le_writeRest writeEntry entries
      simp only [writeItems,writeEntry,List.length_append,List.length_cons]
      omega
  simp only [readObject,front,if_true]
  rw [readEntries_writeItems]
  apply readEntries_writeRest accepts plain
  simp only [List.length_append,List.length_cons]
  omega

/-- An entry whose value one codec wrote and reads. -/
theorem Accepts.value {γ : Type} {draft : β} {key : String} {entries : List (String × List UInt8)}
    (codec : Codec γ) (value : γ) (set : γ → β) (out : γ → Option β)
    (visits : ∀ input, visit key draft input = (codec.read input).map fun (value,left) => (set value,left))
    (more : ∀ found, codec.image value = some found → Accepts visit (set found) entries (out found)) :
    Accepts visit draft ((key,codec.write value) :: entries) ((codec.image value).bind out) := by
  cases image : codec.image value with
  | none => exact .fail fun rest ends => by rw [visits,codec.reads value rest ends,image]; rfl
  | some found =>
    refine .next (fun rest ends => ?_) (more found image)
    rw [visits,codec.reads value rest ends,image]
    rfl

/-! ### Records -/

/-- Some fields of a record. `visit` answers the keys it knows, `finish` the draft once
the object is closed. -/
structure Fields (names : List String) (α : Type) where
  Draft : Type
  start : Draft
  visit : String → Draft → Option (Reader Draft)
  finish : Draft → Option α
  entries : α → List (String × List UInt8)
  image : α → Option α
  visit_none : ∀ key draft, visit key draft = none ↔ key ∉ names
  entries_names : ∀ value, ∀ entry ∈ entries value, entry.1 ∈ names
  accepts : ∀ (other : String → Draft → Reader Draft) value, ∃ out,
    Accepts (fun key draft => (visit key draft).getD (other key draft)) start (entries value) out ∧
      out.bind finish = image value

/-- A field met twice is an error, and a missing one is `absent`. -/
def Fields.one {α : Type} (name : String) (codec : Codec α) (absent : Option α) : Fields [name] α where
  Draft := Option α
  start := none
  visit key draft :=
    if key = name then
      some fun input =>
        match draft with
        | some _ => none
        | none =>
          match codec.read input with
          | some (value,left) => some (some value,left)
          | none => none
    else none
  finish draft := draft.or absent
  entries value := [(name,codec.write value)]
  image := codec.image
  visit_none key draft := by
    split <;> simp_all
  entries_names value entry member := by
    simp only [List.mem_singleton] at member ⊢
    rw [member]
  accepts other value := by
    refine ⟨_,.value codec value some (fun found => some (some found)) (fun input => ?_)
      fun _ _ => .done _,?_⟩
    · simp only [if_true,Option.getD_some]
      cases codec.read input <;> rfl
    · cases codec.image value <;> rfl

/-- A field its type does not allow to miss. -/
def Fields.required {α : Type} (name : String) (codec : Codec α) : Fields [name] α :=
  .one name codec none

/-- A field that may be left out. -/
def Fields.optional {α : Type} (name : String) (codec : Codec (Option α)) :
    Fields [name] (Option α) :=
  .one name codec (some none)

/-- Entries of one visitor, met while the other one's draft stands by. -/
theorem Accepts.lift {β γ : Type} {visit : String → β → Reader β} {draft : β}
    {entries : List (String × List UInt8)} {out : Option β} (wide : String → γ → Reader γ)
    (place : β → γ) (accepts : Accepts visit draft entries out)
    (same : ∀ entry ∈ entries, ∀ draft input, wide entry.1 (place draft) input =
      (visit entry.1 draft input).map fun (draft,left) => (place draft,left)) :
    Accepts wide (place draft) entries (out.map place) := by
  induction accepts with
  | done draft => exact .done _
  | @next draft after key value entries out reads more ih =>
    refine .next (fun rest ends => ?_) (ih fun entry member => same entry (by simp [member]))
    rw [same (key,value) (by simp),reads rest ends]
    rfl
  | @fail draft key value entries reads =>
    refine .fail fun rest ends => ?_
    rw [same (key,value) (by simp),reads rest ends]
    rfl

theorem Accepts.append {β : Type} {visit : String → β → Reader β} {draft middle : β}
    {front back : List (String × List UInt8)} {out : Option β}
    (first : Accepts visit draft front (some middle)) (second : Accepts visit middle back out) :
    Accepts visit draft (front ++ back) out := by
  generalize reached : some middle = stop at first
  induction first with
  | done draft => cases reached; exact second
  | next reads more ih => exact .next reads (ih reached)
  | fail => cases reached

theorem Accepts.append_none {β : Type} {visit : String → β → Reader β} {draft : β}
    {front : List (String × List UInt8)} (back : List (String × List UInt8))
    (first : Accepts visit draft front none) : Accepts visit draft (front ++ back) none := by
  generalize reached : (none : Option β) = stop at first
  induction first with
  | done draft => cases reached
  | next reads more ih => exact .next reads (ih reached)
  | fail reads => exact .fail reads

section
variable {α β : Type} {leftNames rightNames : List String}

/-- The left visitor is asked first. -/
def Fields.visitBoth (left : Fields leftNames α) (right : Fields rightNames β) (key : String)
    (draft : left.Draft × right.Draft) : Option (Reader (left.Draft × right.Draft)) :=
  match left.visit key draft.1 with
  | some read => some fun input => (read input).map fun (part,rest) => ((part,draft.2),rest)
  | none =>
    (right.visit key draft.2).map fun read input =>
      (read input).map fun (part,rest) => ((draft.1,part),rest)

theorem Fields.visitBoth_left (left : Fields leftNames α) (right : Fields rightNames β) {key : String}
    (known : key ∈ leftNames) (draft : left.Draft × right.Draft)
    (other : Reader (left.Draft × right.Draft)) (old : Reader left.Draft) (input : List UInt8) :
    (left.visitBoth right key draft).getD other input =
      ((left.visit key draft.1).getD old input).map fun (part,rest) => ((part,draft.2),rest) := by
  cases visited : left.visit key draft.1 with
  | none => exact absurd known ((left.visit_none key draft.1).mp visited)
  | some read => simp [Fields.visitBoth,visited]

theorem Fields.visitBoth_right (left : Fields leftNames α) (right : Fields rightNames β) {key : String}
    (unknown : key ∉ leftNames) (known : key ∈ rightNames) (draft : left.Draft × right.Draft)
    (other : Reader (left.Draft × right.Draft)) (old : Reader right.Draft) (input : List UInt8) :
    (left.visitBoth right key draft).getD other input =
      ((right.visit key draft.2).getD old input).map fun (part,rest) => ((draft.1,part),rest) := by
  have passed := (left.visit_none key draft.1).mpr unknown
  cases visited : right.visit key draft.2 with
  | none => exact absurd known ((right.visit_none key draft.2).mp visited)
  | some read => simp [Fields.visitBoth,passed,visited]

def Fields.both (left : Fields leftNames α) (right : Fields rightNames β)
    (disjoint : ∀ name ∈ rightNames, name ∉ leftNames := by decide) :
    Fields (leftNames ++ rightNames) (α × β) where
  Draft := left.Draft × right.Draft
  start := (left.start,right.start)
  visit := left.visitBoth right
  finish draft := (left.finish draft.1).bind fun first => (right.finish draft.2).map (first,·)
  entries value := left.entries value.1 ++ right.entries value.2
  image value := (left.image value.1).bind fun first => (right.image value.2).map (first,·)
  visit_none key draft := by
    have leftNone := left.visit_none key draft.1
    have rightNone := right.visit_none key draft.2
    unfold Fields.visitBoth
    cases visited : left.visit key draft.1 <;> simp_all
  entries_names value entry member := by
    rcases List.mem_append.mp member with inLeft | inRight
    · exact List.mem_append_left _ (left.entries_names _ _ inLeft)
    · exact List.mem_append_right _ (right.entries_names _ _ inRight)
  accepts other value := by
    obtain ⟨leftOut,leftAccepts,leftFinish⟩ := left.accepts (fun _ _ _ => none) value.1
    obtain ⟨rightOut,rightAccepts,rightFinish⟩ := right.accepts (fun _ _ _ => none) value.2
    have leftSide := leftAccepts.lift
      (fun key draft => (left.visitBoth right key draft).getD (other key draft))
      (fun part => (part,right.start)) fun entry member draft input =>
        left.visitBoth_left right (left.entries_names _ _ member) (draft,right.start) _ _ input
    rw [← leftFinish,← rightFinish]
    cases leftOut with
    | none => exact ⟨none,leftSide.append_none _,rfl⟩
    | some middle =>
      have rightSide := rightAccepts.lift
        (fun key draft => (left.visitBoth right key draft).getD (other key draft))
        (fun part => (middle,part)) fun entry member draft input =>
          have known := right.entries_names _ _ member
          left.visitBoth_right right (disjoint _ known) known (middle,draft) _ _ input
      refine ⟨_,leftSide.append rightSide,?_⟩
      cases rightOut with
      | none => cases finished : left.finish middle <;> simp [finished]
      | some last => rfl

def Fields.iso (fields : Fields leftNames α) (pack : α → β) (unpack : β → α) : Fields leftNames β where
  Draft := fields.Draft
  start := fields.start
  visit := fields.visit
  finish draft := (fields.finish draft).map pack
  entries value := fields.entries (unpack value)
  image value := (fields.image (unpack value)).map pack
  visit_none := fields.visit_none
  entries_names value := fields.entries_names (unpack value)
  accepts other value := by
    obtain ⟨out,accepts,finish⟩ := fields.accepts other (unpack value)
    refine ⟨out,accepts,?_⟩
    rw [← finish]
    cases out <;> rfl

/-- The codec of a record whose unknown keys are skipped. -/
def Codec.object (skip : Reader Unit) (fields : Fields leftNames α)
    (plain : ∀ name ∈ leftNames, Plain name := by decide) : Codec α where
  write value := writeObject (fields.entries value)
  read input :=
    match readObject (fun key draft => (fields.visit key draft).getD fun input =>
        (skip input).map fun (_,left) => (draft,left)) fields.start input with
    | some (draft,left) => (fields.finish draft).map (·,left)
    | none => none
  image := fields.image
  opens value := ⟨openBrace,_,rfl,by decide⟩
  reads value rest _ := by
    obtain ⟨out,accepts,finish⟩ := fields.accepts
      (fun _ draft input => (skip input).map fun (_,left) => (draft,left)) value
    rw [readObject_writeObject accepts fun entry member =>
      plain _ (fields.entries_names value entry member)]
    rw [← finish]
    cases out <;> rfl

end

section
variable {α β : Type} {leftNames rightNames : List String}

@[simp] theorem Fields.required_image (name : String) (codec : Codec α) (value : α) :
    (Fields.required name codec).image value = codec.image value := rfl

@[simp] theorem Fields.optional_image (name : String) (codec : Codec (Option α)) (value : Option α) :
    (Fields.optional name codec).image value = codec.image value := rfl

@[simp] theorem Fields.both_image (left : Fields leftNames α) (right : Fields rightNames β)
    (disjoint : ∀ name ∈ rightNames, name ∉ leftNames) (value : α × β) :
    (left.both right disjoint).image value =
      (left.image value.1).bind fun first => (right.image value.2).map (first,·) := rfl

@[simp] theorem Fields.iso_image (fields : Fields leftNames α) (pack : α → β) (unpack : β → α)
    (value : β) : (fields.iso pack unpack).image value = (fields.image (unpack value)).map pack := rfl

@[simp] theorem Codec.object_image (skip : Reader Unit) (fields : Fields leftNames α)
    (plain : ∀ name ∈ leftNames, Plain name) (value : α) :
    (Codec.object skip fields plain).image value = fields.image value := rfl

end

/-! ### The first entry -/

/-- The key of an entry, and what stands behind its colon. -/
def entryAt (input : List UInt8) : Option (String × List UInt8) :=
  match readString input with
  | none => none
  | some (key,left) =>
    match skipSpace left with
    | [] => none
    | byte :: value => if byte = colon then some (key,value) else none

/-- The first entry of an object. -/
def firstEntry (input : List UInt8) : Option (String × List UInt8) :=
  match skipSpace input with
  | [] => none
  | _ :: rest => entryAt (skipSpace rest)

section
variable {β : Type} {visit : String → β → Reader β} {start draft : β} {input left : List UInt8}

theorem readEntry_entryAt (read : readEntry visit start input = some (draft,left)) :
    ∃ key value, entryAt input = some (key,value) ∧ visit key start value = some (draft,left) := by
  unfold readEntry at read
  unfold entryAt
  rcases keyed : readString input with _ | ⟨key,behind⟩
  · simp [keyed] at read
  · simp only [keyed] at read ⊢
    rcases marked : skipSpace behind with _ | ⟨byte,value⟩
    · simp [marked] at read
    · simp only [marked] at read ⊢
      by_cases isColon : byte = colon
      · rw [if_pos isColon] at read ⊢
        exact ⟨key,value,rfl,read⟩
      · rw [if_neg isColon] at read
        cases read

/-- An object is empty, or its first entry is visited first. -/
theorem readObject_first (read : readObject visit start input = some (draft,left)) :
    draft = start ∨ ∃ key value after fuel behind, firstEntry input = some (key,value) ∧
      visit key start value = some (after,behind) ∧ readEntries visit fuel false after behind = some (draft,left) := by
  unfold readObject at read
  unfold firstEntry
  rcases opened : skipSpace input with _ | ⟨byte,rest⟩
  · simp [opened] at read
  · simp only [opened] at read ⊢
    by_cases isOpen : byte = openBrace
    · rw [if_pos isOpen,readEntries] at read
      rcases front : skipSpace rest with _ | ⟨next,more⟩
      · simp [front] at read
      · simp only [front] at read ⊢
        by_cases isClose : next = closeBrace
        · rw [if_pos isClose] at read
          cases read
          exact .inl rfl
        · rw [if_neg isClose,if_pos trivial] at read
          simp only at read
          rcases visited : readEntry visit start (next :: more) with _ | ⟨after,behind⟩
          · simp [visited] at read
          · simp only [visited] at read
            obtain ⟨key,value,found,took⟩ := readEntry_entryAt visited
            exact .inr ⟨key,value,after,_,behind,found,took,read⟩
    · rw [if_neg isOpen] at read
      cases read

/-- A draft that no key may follow is the last one. -/
theorem readEntries_final {fuel : Nat} (final : ∀ key input, visit key start input = none)
    (read : readEntries visit fuel false start input = some (draft,left)) : draft = start := by
  have failed (input : List UInt8) : readEntry visit start input = none := by
    rcases visited : readEntry visit start input with _ | ⟨after,behind⟩
    · rfl
    · obtain ⟨key,value,-,took⟩ := readEntry_entryAt visited
      rw [final] at took
      cases took
  cases fuel with
  | zero => cases read
  | succ fuel =>
    rw [readEntries] at read
    rcases front : skipSpace input with _ | ⟨byte,rest⟩
    · simp [front] at read
    · simp only [front] at read
      by_cases isClose : byte = closeBrace
      · rw [if_pos isClose] at read
        cases read
        rfl
      · rw [if_neg isClose,if_neg Bool.false_ne_true] at read
        split at read
        · cases read
        · rw [failed] at read
          cases read

end

/-! ### Slices -/

/-- Write a value into a buffer of `size` bytes, or fail when it does not fit. -/
def toSlice {α : Type} (codec : Codec α) (value : α) (size : Nat) : Option (List UInt8) :=
  if (codec.write value).length ≤ size then some (codec.write value) else none

/-- Read one value; only whitespace may follow it. Returns the bytes used. -/
def fromSlice {α : Type} (read : Reader α) (input : List UInt8) : Option (α × Nat) :=
  match read input with
  | some (value,left) => if skipSpace left = [] then some (value,input.length) else none
  | none => none

theorem fromSlice_write {α : Type} (codec : Codec α) (value : α) :
    fromSlice codec.read (codec.write value) =
      (codec.image value).map (·,(codec.write value).length) := by
  have whole := codec.reads value [] delimited_nil
  rw [List.append_nil] at whole
  simp only [fromSlice,whole]
  cases codec.image value <;> simp [skipSpace]

end UchiPulse.Json
