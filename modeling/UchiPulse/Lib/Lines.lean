import UchiPulse.Lib.Object

/-! Writers that stay on one line. A line feed inside a text is escaped, and nothing else
that is written holds one. -/
namespace UchiPulse.Json
variable {α β : Type}

/-- A text without a line feed. -/
def OneLine (bytes : List UInt8) : Prop := (∃ text, Utf8.decode bytes = some text) ∧ lineFeed ∉ bytes

theorem oneLine_iff {bytes : List UInt8} : OneLine bytes ↔ (Utf8.decode bytes).isSome = true ∧ lineFeed ∉ bytes := by
  rw [OneLine,Option.isSome_iff_exists]

instance (bytes : List UInt8) : Decidable (OneLine bytes) := decidable_of_iff' _ oneLine_iff

theorem OneLine.append {front back : List UInt8} (first : OneLine front) (second : OneLine back) :
    OneLine (front ++ back) := by
  obtain ⟨⟨text,decoded⟩,free⟩ := first
  obtain ⟨⟨more,decoded'⟩,free'⟩ := second
  refine ⟨⟨String.ofList (text.toList ++ more.toList),?_⟩,?_⟩
  · rw [Utf8.decode_eq_some,Utf8.bytes_ofList,List.flatMap_append,← Utf8.bytes_toList,← Utf8.bytes_toList,
      Utf8.decode_eq_some.mp decoded,Utf8.decode_eq_some.mp decoded']
  · intro member
    rcases List.mem_append.mp member with inFront | inBack
    · exact free inFront
    · exact free' inBack

theorem oneLine_chars {chars : List Char} (free : ∀ char ∈ chars, char.toNat ≠ 10) :
    OneLine (chars.flatMap String.utf8EncodeChar) := by
  refine ⟨⟨String.ofList chars,Utf8.decode_eq_some.mpr (Utf8.bytes_ofList chars)⟩,fun member => ?_⟩
  obtain ⟨char,listed,inside⟩ := List.mem_flatMap.mp member
  exact free char listed (mem_utf8EncodeChar inside (by decide)).symm

theorem escapeChar_free (char : Char) : ∀ found ∈ escapeChar char, found.toNat ≠ 10 := by
  have hex : ∀ value < 16, (escapeChar.hexDigit value).toNat ≠ 10 := by decide
  have fixed {chars : List Char} (free : chars.all (·.toNat ≠ 10) = true) : ∀ found ∈ chars, found.toNat ≠ 10 :=
    fun found member => of_decide_eq_true (List.all_eq_true.mp free found member)
  unfold escapeChar
  split_ifs with h₁ h₂ h₃ h₄ h₅ h₆ h₇ h₈
  · exact fixed (by decide)
  · exact fixed (by decide)
  · exact fixed (by decide)
  · exact fixed (by decide)
  · exact fixed (by decide)
  · exact fixed (by decide)
  · have front : ∀ found ∈ ['\\','u','0','0'], found.toNat ≠ 10 := fixed (by decide)
    intro found member
    simp only [List.mem_cons,List.not_mem_nil,or_false] at front member
    rcases member with rfl | rfl | rfl | rfl | rfl | rfl
    · exact front _ (by simp)
    · exact front _ (by simp)
    · exact front _ (by simp)
    · exact front _ (by simp)
    · exact hex _ (by omega)
    · exact hex _ (by omega)
  · exact fixed (by decide)
  · simpa using h₄

theorem writeText_oneLine (text : String) : OneLine (writeText text) := by
  have inside : OneLine (Utf8.bytes (escape text)) := by
    rw [escape,Utf8.bytes_ofList]
    refine oneLine_chars fun found member => ?_
    obtain ⟨char,-,escaped⟩ := List.mem_flatMap.mp member
    exact escapeChar_free char found escaped
  have quotes : OneLine [quote] := by decide
  exact quotes.append (inside.append quotes)

theorem plain_oneLine {text : String} (plain : Plain text) : OneLine (Utf8.bytes text) := by
  rw [Utf8.bytes_toList]
  refine oneLine_chars fun char member => ?_
  exact escapeChar_free char char (by rw [plain char member]; simp)

theorem writeNat_oneLine (value : Nat) : OneLine (writeNat value) := by
  rw [writeNat_eq]
  refine oneLine_chars fun char member => ?_
  have range := Char.isDigit_iff_toNat.mp
    (Nat.isDigit_of_mem_toDigits (b := 10) (n := value) (by decide) (by decide) member)
  have low : 48 ≤ char.toNat := range.1
  omega

theorem writeRest_oneLine {write : α → List UInt8} {items : List α} (each : ∀ item ∈ items, OneLine (write item)) :
    OneLine (writeRest write items) := by
  induction items with
  | nil => exact (by decide : OneLine [])
  | cons item items ih =>
    obtain ⟨first,others⟩ := List.forall_mem_cons.mp each
    have separates : OneLine [comma] := by decide
    exact separates.append (first.append (ih others))

theorem writeItems_oneLine {write : α → List UInt8} {items : List α} (each : ∀ item ∈ items, OneLine (write item)) :
    OneLine (writeItems write items) := by
  cases items with
  | nil => exact (by decide : OneLine [])
  | cons item items =>
    obtain ⟨first,others⟩ := List.forall_mem_cons.mp each
    exact first.append (writeRest_oneLine others)

theorem writeObject_oneLine {entries : List (String × List UInt8)}
    (each : ∀ entry ∈ entries, Plain entry.1 ∧ OneLine entry.2) : OneLine (writeObject entries) := by
  have entry (entry : String × List UInt8) (listed : entry ∈ entries) : OneLine (writeEntry entry) := by
    obtain ⟨key,value⟩ := each entry listed
    have quotes : OneLine [quote] := by decide
    have separates : OneLine [quote,colon] := by decide
    exact quotes.append ((plain_oneLine key).append (separates.append value))
  have opens : OneLine [openBrace] := by decide
  exact opens.append ((writeItems_oneLine entry).append (by decide : OneLine [closeBrace]))

/-- An entry for `writeObject_oneLine`. -/
theorem entry_oneLine {name : String} (plain : Plain name) {value : List UInt8} (line : OneLine value) :
    Plain (name,value).1 ∧ OneLine (name,value).2 := ⟨plain,line⟩

/-! ### Codecs -/

def Codec.OneLine (codec : Codec α) : Prop := ∀ value, Json.OneLine (codec.write value)

theorem Codec.text_oneLine (n : Nat) : (Codec.text n).OneLine := fun value => writeText_oneLine value.val

theorem Codec.fin_oneLine (size : Nat) : (Codec.fin size).OneLine := fun value => writeNat_oneLine value

theorem Codec.iso_oneLine {codec : Codec α} (inner : codec.OneLine) (pack : α → β) (unpack : β → α) :
    (codec.iso pack unpack).OneLine := fun value => inner (unpack value)

theorem Codec.u8_oneLine : Codec.u8.OneLine := Codec.iso_oneLine (Codec.fin_oneLine _) _ _
theorem Codec.u16_oneLine : Codec.u16.OneLine := Codec.iso_oneLine (Codec.fin_oneLine _) _ _
theorem Codec.u32_oneLine : Codec.u32.OneLine := Codec.iso_oneLine (Codec.fin_oneLine _) _ _

theorem Codec.bool_oneLine : Codec.bool.OneLine := fun value => by cases value <;> decide

theorem Codec.names_oneLine (name : α → String) (ofName : String → Option α) : (Codec.names name ofName).OneLine :=
  fun value => writeText_oneLine (name value)

theorem Codec.option_oneLine {codec : Codec α} (inner : codec.OneLine)
    (solid : ∀ value, (codec.write value).head? ≠ some 110) : (codec.option solid).OneLine := by
  intro value
  cases value with
  | none => exact (by decide : Json.OneLine [110,117,108,108])
  | some value => exact inner value

theorem Codec.vec_oneLine {codec : Codec α} (inner : codec.OneLine) (n : Nat) : (codec.vec n).OneLine := by
  intro value
  have opens : Json.OneLine [openBracket] := by decide
  exact opens.append ((writeItems_oneLine fun item _ => inner item).append (by decide : Json.OneLine [closeBracket]))

section
variable {names leftNames rightNames : List String}

def Fields.OneLine (fields : Fields names α) : Prop :=
  ∀ value, ∀ entry ∈ fields.entries value, Json.OneLine entry.2

theorem Fields.one_oneLine {codec : Codec α} (inner : codec.OneLine) (name : String) (absent : Option α) :
    (Fields.one name codec absent).OneLine := by
  intro value entry member
  rw [List.mem_singleton.mp member]
  exact inner value

theorem Fields.both_oneLine {left : Fields leftNames α} {right : Fields rightNames β} (first : left.OneLine)
    (second : right.OneLine) (disjoint : ∀ name ∈ rightNames, name ∉ leftNames) :
    (left.both right disjoint).OneLine := by
  intro value entry member
  rcases List.mem_append.mp member with inLeft | inRight
  · exact first value.1 entry inLeft
  · exact second value.2 entry inRight

theorem Fields.iso_oneLine {fields : Fields names α} (inner : fields.OneLine) (pack : α → β) (unpack : β → α) :
    (fields.iso pack unpack).OneLine := fun value => inner (unpack value)

theorem Codec.object_oneLine {fields : Fields names α} (inner : fields.OneLine) (skip : Reader Unit)
    (plain : ∀ name ∈ names, Plain name) : (Codec.object skip fields plain).OneLine :=
  fun value => writeObject_oneLine fun entry member =>
    ⟨plain _ (fields.entries_names value entry member),inner value entry member⟩

end

end UchiPulse.Json
