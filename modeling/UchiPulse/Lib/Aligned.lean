import UchiPulse.Lib.Grammar
import UchiPulse.Lib.Object

/-! Readers on well-formed texts. A codec that succeeds on a value has read all of it, or
has stopped at a byte nothing takes; so members keep their places, whatever their values. -/
namespace UchiPulse.Json
variable {α β : Type}

/-! ### Places -/

theorem skipSpace_space {before : List UInt8} (space : Space before) (rest : List UInt8) :
    skipSpace (before ++ rest) = skipSpace rest := by
  induction before with
  | nil => rfl
  | cons byte before ih =>
    obtain ⟨first,others⟩ := List.forall_mem_cons.mp space
    rw [List.cons_append,skipSpace,List.dropWhile_cons_of_pos first]
    exact ih others

/-- What follows a value inside an array or an object. -/
def Closes (rest : List UInt8) : Prop :=
  ∃ byte tail, skipSpace rest = byte :: tail ∧ (byte = comma ∨ byte = closeBrace ∨ byte = closeBracket)

/-- The reader stands behind the value, or at a byte that neither closes nor separates. -/
def Lands (left rest : List UInt8) : Prop :=
  skipSpace left = skipSpace rest ∨ ∃ byte tail, left = byte :: tail ∧ Opening byte

/-- Whatever the value, a success lands behind it. -/
def Aligned (read : Reader α) : Prop :=
  ∀ text, Value text → ∀ before rest, Space before → Closes rest →
    ∀ value left, read (before ++ (text ++ rest)) = some (value,left) → Lands left rest

/-- Every value is skipped. -/
def Skips (skip : Reader Unit) : Prop :=
  ∀ text, Value text → ∀ before rest, Space before → Closes rest →
    ∃ left, skip (before ++ (text ++ rest)) = some ((),left) ∧ skipSpace left = skipSpace rest

theorem Skips.aligned {skip : Reader Unit} (skips : Skips skip) : Aligned skip := by
  intro text value before rest space closes found left read
  obtain ⟨left',skipped,same⟩ := skips text value before rest space closes
  rw [read] at skipped
  cases skipped
  exact .inl same

theorem Closes.not_opening {rest : List UInt8} (closes : Closes rest) {byte : UInt8} {tail : List UInt8}
    (same : rest = byte :: tail) : ¬ Opening byte := by
  rintro ⟨solid,notComma,notBrace,notBracket⟩
  obtain ⟨first,others,skipped,closing⟩ := closes
  rw [same,skipSpace_cons _ solid] at skipped
  cases skipped
  rcases closing with rfl | rfl | rfl
  · exact notComma rfl
  · exact notBrace rfl
  · exact notBracket rfl

/-! ### Values by their first byte -/

theorem whole_head {text : List UInt8} (whole : Whole text) :
    ∃ byte tail, text = byte :: tail ∧ isDigit byte = true := by
  rcases whole with rfl | ⟨⟨filled,digits⟩,-⟩
  · exact ⟨48,[],rfl,by decide⟩
  · cases text with
    | nil => exact absurd rfl filled
    | cons byte tail => exact ⟨byte,tail,rfl,digits byte (by simp)⟩

/-- What holds of each of the ten digits. -/
theorem of_digit {property : UInt8 → Prop} (all : ∀ code : Fin 10, property (UInt8.ofNat (48 + code))) {byte : UInt8}
    (digit : isDigit byte = true) : property byte := by
  simp only [isDigit,Bool.and_eq_true,decide_eq_true_eq] at digit
  have low : 48 ≤ byte.toNat := UInt8.le_iff_toNat_le.mp digit.1
  have high : byte.toNat ≤ 57 := UInt8.le_iff_toNat_le.mp digit.2
  have known := all ⟨byte.toNat - 48,by omega⟩
  rwa [show 48 + (byte.toNat - 48) = byte.toNat by omega,UInt8.ofNat_toNat] at known

theorem digit_opening {byte : UInt8} (digit : isDigit byte = true) : Opening byte := of_digit (by decide) digit

/-- The inside of an array. -/
def ArrayTail (tail : List UInt8) : Prop :=
  ∃ elements closing, Space closing ∧ (∀ element ∈ elements, element.Spaced) ∧
    (∀ element ∈ elements, Value element.text) ∧
    tail = writeItems Padded.bytes elements ++ closing ++ [closeBracket]

/-- The inside of an object. -/
def ObjectTail (tail : List UInt8) : Prop :=
  ∃ members closing, Space closing ∧ (∀ member ∈ members, member.Spaced) ∧
    (∀ member ∈ members, ∃ name, member.Named name) ∧ (∀ member ∈ members, Value member.value.text) ∧
    tail = writeItems Member.bytes members ++ closing ++ [closeBrace]

/-- The kinds of values, by the first byte and what is behind it. -/
inductive Kind : UInt8 → List UInt8 → Prop
  | null : Kind 110 [117,108,108]
  | yes : Kind 116 [114,117,101]
  | no : Kind 102 [97,108,115,101]
  | negative (tail : List UInt8) : Kind 45 tail
  | number {byte : UInt8} {tail whole fraction exponent : List UInt8} (digit : isDigit byte = true)
      (first : Whole whole) (second : Fraction fraction) (third : Exponent exponent)
      (shape : byte :: tail = whole ++ (fraction ++ exponent)) : Kind byte tail
  | string {raw : List UInt8} {chars : List Char} (quoted : Quoted raw chars) : Kind quote (raw ++ [quote])
  | array {tail : List UInt8} (inside : ArrayTail tail) : Kind openBracket tail
  | object {tail : List UInt8} (inside : ObjectTail tail) : Kind openBrace tail

theorem Value.kind {text : List UInt8} (value : Value text) : ∃ byte tail, text = byte :: tail ∧ Kind byte tail := by
  cases value with
  | null => exact ⟨_,_,rfl,.null⟩
  | bool value =>
    cases value
    · exact ⟨_,_,rfl,.no⟩
    · exact ⟨_,_,rfl,.yes⟩
  | number negative first second third =>
    cases negative with
    | true => exact ⟨_,_,rfl,.negative _⟩
    | false =>
      obtain ⟨byte,tail,rfl,digit⟩ := whole_head first
      exact ⟨byte,_,rfl,.number digit first second third rfl⟩
  | string quoted => exact ⟨_,_,rfl,.string quoted⟩
  | array elements closing space spaced values =>
    exact ⟨_,_,rfl,.array ⟨elements,closing,space,spaced,values,rfl⟩⟩
  | object members closing space spaced keys values =>
    exact ⟨_,_,rfl,.object ⟨members,closing,space,spaced,keys,values,rfl⟩⟩

theorem Kind.opening {byte : UInt8} {tail : List UInt8} (kind : Kind byte tail) : Opening byte := by
  cases kind with
  | number digit => exact digit_opening digit
  | _ => decide

theorem Value.opening {text : List UInt8} (value : Value text) :
    ∃ byte tail, text = byte :: tail ∧ Opening byte := by
  obtain ⟨byte,tail,rfl,kind⟩ := value.kind
  exact ⟨byte,tail,rfl,kind.opening⟩

/-- The reader's input without the spaces in front. -/
theorem Kind.front {byte : UInt8} {tail before : List UInt8} (kind : Kind byte tail) (space : Space before)
    (rest : List UInt8) : skipSpace (before ++ (byte :: tail ++ rest)) = byte :: (tail ++ rest) := by
  rw [skipSpace_space space,List.cons_append,skipSpace_cons _ kind.opening.1]

/-! ### Texts -/

/-- A text is read to its closing quote. -/
theorem readString_quoted {raw : List UInt8} {chars : List Char} (quoted : Quoted raw chars)
    (before : List UInt8) (space : Space before) (rest : List UInt8) :
    readString (before ++ quote :: (raw ++ quote :: rest)) = (Utf8.decode raw).map (·,rest) := by
  have front : skipSpace (before ++ quote :: (raw ++ quote :: rest)) = 34 :: (raw ++ quote :: rest) := by
    rw [skipSpace_space space]
    exact skipSpace_cons _ (by decide)
  simp only [readString,front,quoted.readRaw]

theorem readString_aligned : Aligned readString := by
  intro text value before rest space closes found left read
  obtain ⟨byte,tail,rfl,kind⟩ := value.kind
  have front := kind.front space rest
  cases kind with
  | @string raw chars quoted =>
    rw [show before ++ (quote :: (raw ++ [quote]) ++ rest) = before ++ quote :: (raw ++ quote :: rest) by simp,
      readString_quoted quoted before space] at read
    obtain ⟨text,-,same⟩ := Option.map_eq_some_iff.mp read
    cases same
    exact .inl rfl
  | number digit =>
    simp only [readString,front] at read
    split at read
    next same =>
      cases same
      exact absurd digit (by decide)
    next => cases read
  | _ =>
    simp only [readString,front] at read
    cases read

/-- A reader that keeps the place of an aligned one. -/
theorem Aligned.follows {inner : Reader α} {outer : Reader β} (aligned : Aligned inner)
    (follows : ∀ input value left, outer input = some (value,left) → ∃ found, inner input = some (found,left)) :
    Aligned outer := by
  intro text value before rest space closes found left read
  obtain ⟨found,inside⟩ := follows _ _ _ read
  exact aligned text value before rest space closes found left inside

theorem Codec.text_aligned (n : Nat) : Aligned (Codec.text n).read := by
  refine readString_aligned.follows fun input value left read => ?_
  simp only [Codec.text,readText] at read
  split at read
  next text left' inner =>
    obtain ⟨_,-,same⟩ := Option.map_eq_some_iff.mp read
    cases same
    exact ⟨text,inner⟩
  next => cases read

theorem Codec.iso_aligned {codec : Codec α} (aligned : Aligned codec.read) (pack : α → β) (unpack : β → α) :
    Aligned (codec.iso pack unpack).read := by
  refine aligned.follows fun input value left read => ?_
  simp only [Codec.iso] at read
  split at read
  next found left' inner =>
    cases read
    exact ⟨found,inner⟩
  next => cases read

/-! ### Names of variants -/

/-- The input a visitor gets for a member in front of a tail. -/
def Member.input (self : Member) (tail : List UInt8) : List UInt8 :=
  self.value.before ++ (self.value.text ++ (self.value.after ++ tail))

theorem Member.bytes_append (self : Member) (tail : List UInt8) : self.bytes ++ tail =
    self.before ++ quote :: (self.key ++ quote :: (self.between ++ colon :: self.input tail)) := by
  simp only [Member.bytes,Member.input,Padded.bytes,List.append_assoc,List.cons_append]

theorem Member.colon_front {member : Member} (spaced : member.Spaced) (tail : List UInt8) :
    skipSpace (member.between ++ colon :: member.input tail) = colon :: member.input tail := by
  rw [skipSpace_space spaced.2.1]
  exact skipSpace_cons _ (by decide)

theorem closeObject_eq_some {input left : List UInt8} :
    closeObject input = some left ↔ skipSpace input = closeBrace :: left := by
  unfold closeObject
  constructor
  · intro closed
    split at closed
    next stops =>
      cases closed
      exact stops
    next => cases closed
  · intro stops
    rw [stops]
    rfl

/-- Behind `null` a variant ends with its object. -/
theorem closeVariant_null {member : Member} (spaced : member.Spaced)
    (null : member.value.text = [110,117,108,108]) (tail : List UInt8) :
    closeVariant (member.between ++ colon :: member.input tail) = closeObject tail := by
  have front : skipSpace (member.input tail) = 110 :: 117 :: 108 :: 108 :: (member.value.after ++ tail) := by
    rw [Member.input,null,skipSpace_space spaced.2.2.1]
    exact skipSpace_cons _ (by decide)
  have colonFront : skipSpace (member.between ++ colon :: member.input tail) = 58 :: member.input tail :=
    Member.colon_front spaced tail
  simp only [closeVariant,colonFront,front,closeObject,skipSpace_space spaced.2.2.2]

/-- A variant has no data but `null`. -/
theorem closeVariant_other {member : Member} (spaced : member.Spaced) (value : Value member.value.text)
    (other : member.value.text ≠ [110,117,108,108]) (tail : List UInt8) :
    closeVariant (member.between ++ colon :: member.input tail) = none := by
  obtain ⟨byte,text,same,kind⟩ := value.kind
  have colonFront : skipSpace (member.between ++ colon :: member.input tail) = 58 :: member.input tail :=
    Member.colon_front spaced tail
  have front : skipSpace (member.input tail) = byte :: (text ++ (member.value.after ++ tail)) := by
    rw [Member.input,same]
    exact kind.front spaced.2.2.1 _
  simp only [closeVariant,colonFront,front]
  cases kind with
  | null => exact absurd same other
  | number digit =>
    split
    next starts =>
      cases (List.cons.inj starts).1
      exact absurd digit (by decide)
    next => rfl
  | _ => rfl

/-- A variant ends at the brace behind its `null`. -/
theorem closeVariant_member {member : Member} (spaced : member.Spaced) (value : Value member.value.text)
    {tail left : List UInt8} (closed : closeVariant (member.between ++ colon :: member.input tail) = some left) :
    skipSpace tail = closeBrace :: left := by
  by_cases null : member.value.text = [110,117,108,108]
  · rw [closeVariant_null spaced null] at closed
    exact closeObject_eq_some.mp closed
  · rw [closeVariant_other spaced value null] at closed
    cases closed

theorem readString_closing {closing : List UInt8} (space : Space closing) (rest : List UInt8) :
    readString (closing ++ closeBrace :: rest) = none := by
  have front : skipSpace (closing ++ closeBrace :: rest) = closeBrace :: rest := by
    rw [skipSpace_space space]
    exact skipSpace_cons _ (by decide)
  simp only [readString,front]
  rfl

/-- The key of a member. -/
theorem readString_member {member : Member} (spaced : member.Spaced) {name : String} (named : member.Named name)
    (tail : List UInt8) : readString (member.bytes ++ tail) =
      (Utf8.decode member.key).map (·,member.between ++ colon :: member.input tail) := by
  rw [Member.bytes_append,readString_quoted named _ spaced.1]

/-- What is behind the brace of an object. -/
theorem writeItems_append {write : β → List UInt8} (item : β) (items : List β) (closing rest : List UInt8) :
    writeItems write (item :: items) ++ closing ++ [closeBrace] ++ rest =
      write item ++ (writeRest write items ++ (closing ++ closeBrace :: rest)) := by
  simp only [writeItems,List.append_assoc,List.singleton_append]

/-- The only member of an object is taken with the object. -/
theorem readName_object {ofName : String → Option α} {tail rest left : List UInt8} {found : α}
    (inside : ObjectTail tail) (read : (match readString (tail ++ rest) with
      | some (text,left) => do
        let value ← ofName text
        let left ← closeVariant left
        return (value,left)
      | none => none) = some (found,left)) : left = rest := by
  obtain ⟨members,closing,space,spaced,keys,values,rfl⟩ := inside
  cases members with
  | nil =>
    rw [writeItems,List.nil_append,List.append_assoc,List.singleton_append,readString_closing space] at read
    cases read
  | cons member members =>
    obtain ⟨memberSpaced,-⟩ := List.forall_mem_cons.mp spaced
    obtain ⟨⟨name,named⟩,-⟩ := List.forall_mem_cons.mp keys
    obtain ⟨value,-⟩ := List.forall_mem_cons.mp values
    rw [writeItems_append,readString_member memberSpaced named] at read
    split at read
    next text left' keyed =>
      obtain ⟨_,-,same⟩ := Option.map_eq_some_iff.mp keyed
      cases same
      obtain ⟨_,-,rest'⟩ := Option.bind_eq_some_iff.mp read
      obtain ⟨_,closed,same⟩ := Option.bind_eq_some_iff.mp rest'
      cases same
      have stops := closeVariant_member memberSpaced value closed
      cases members with
      | nil =>
        rw [writeRest,List.flatMap_nil,List.nil_append,skipSpace_space space,
          skipSpace_cons _ (by decide)] at stops
        exact (List.cons.inj stops).2.symm
      | cons other members =>
        rw [writeRest_cons,List.cons_append,skipSpace_cons _ (by decide)] at stops
        cases (List.cons.inj stops).1
    next => cases read

theorem Codec.names_aligned (name : α → String) (ofName : String → Option α) :
    Aligned (Codec.names name ofName).read := by
  intro text value before rest space closes found left read
  have whole := value
  obtain ⟨byte,tail,rfl,kind⟩ := value.kind
  have front := kind.front space rest
  simp only [Codec.names,readName,front] at read
  cases kind with
  | string quoted =>
    simp only [quote] at read
    split at read
    next name left' inner =>
      obtain ⟨_,-,same⟩ := Option.map_eq_some_iff.mp read
      cases same
      exact readString_aligned _ whole before rest space closes name left inner
    next => cases read
  | object inside => exact .inl (congrArg skipSpace (readName_object inside read))
  | number digit =>
    split at read
    next same =>
      cases (List.cons.inj same).1
      exact absurd digit (by decide)
    next same =>
      cases (List.cons.inj same).1
      exact absurd digit (by decide)
    next => cases read
  | _ => cases read

/-! ### Numbers -/

theorem readDigits_left {size value number : Nat} {input left : List UInt8}
    (read : readDigits size value input = some (number,left)) : left = input.dropWhile isDigit := by
  induction input generalizing value with
  | nil =>
    cases read
    rfl
  | cons byte input ih =>
    simp only [readDigits] at read
    by_cases digit : isDigit byte = true
    · rw [if_pos digit] at read
      split at read
      · rw [List.dropWhile_cons_of_pos digit]
        exact ih read
      · cases read
    · rw [if_neg digit] at read
      cases read
      rw [List.dropWhile_cons_of_neg digit]

theorem Closes.not_digit {rest : List UInt8} (closes : Closes rest) (byte : UInt8) (tail : List UInt8)
    (same : rest = byte :: tail) : isDigit byte = false := by
  by_contra digit
  exact closes.not_opening same (digit_opening (by simpa using digit))

/-- A fraction or an exponent begins with a byte that nothing takes. -/
theorem stuck_number {fraction exponent : List UInt8} (second : Fraction fraction) (third : Exponent exponent)
    (broken : fraction ≠ [] ∨ exponent ≠ []) (rest : List UInt8) :
    ∃ byte tail, fraction ++ (exponent ++ rest) = byte :: tail ∧ Opening byte ∧ isDigit byte = false := by
  rcases second with rfl | ⟨decimals,-,rfl⟩
  · rcases third with rfl | ⟨letter,sign,decimals,letters,-,-,rfl⟩
    · simp at broken
    · refine ⟨letter,_,rfl,?_⟩
      rcases letters with rfl | rfl <;> decide
  · exact ⟨46,_,rfl,by decide⟩

/-- Behind the digits a number ends or goes on with a byte that nothing takes. -/
theorem lands_number {fraction exponent rest : List UInt8} (second : Fraction fraction)
    (third : Exponent exponent) (closes : Closes rest) :
    Lands (fraction ++ (exponent ++ rest)) rest ∧
      ∀ byte tail, fraction ++ (exponent ++ rest) = byte :: tail → isDigit byte = false := by
  by_cases broken : fraction ≠ [] ∨ exponent ≠ []
  · obtain ⟨byte,tail,shape,opening,notDigit⟩ := stuck_number second third broken rest
    refine ⟨.inr ⟨byte,tail,shape,opening⟩,fun other others same => ?_⟩
    rw [shape] at same
    cases same
    exact notDigit
  · simp only [ne_eq,not_or,not_not] at broken
    obtain ⟨rfl,rfl⟩ := broken
    exact ⟨.inl rfl,closes.not_digit⟩

theorem dropWhile_digits {digits rest : List UInt8} (all : ∀ byte ∈ digits, isDigit byte = true)
    (stops : ∀ byte tail, rest = byte :: tail → isDigit byte = false) :
    (digits ++ rest).dropWhile isDigit = rest := by
  induction digits with
  | nil =>
    cases rest with
    | nil => rfl
    | cons byte tail =>
      rw [List.nil_append,List.dropWhile_cons_of_neg]
      simp [stops byte tail rfl]
  | cons byte digits ih =>
    obtain ⟨first,others⟩ := List.forall_mem_cons.mp all
    rw [List.cons_append,List.dropWhile_cons_of_pos first]
    exact ih others

theorem readNat_aligned (size : Nat) : Aligned (readNat size) := by
  intro text value before rest space closes found left read
  obtain ⟨byte,tail,rfl,kind⟩ := value.kind
  have front := kind.front space rest
  simp only [readNat,front] at read
  cases kind with
  | @number byte tail whole fraction exponent digit first second third shape =>
    obtain ⟨lands,stops⟩ := lands_number second third closes
    rcases first with rfl | ⟨⟨filled,digits⟩,leading⟩
    · obtain ⟨rfl,rfl⟩ := List.cons.inj shape
      rw [if_pos rfl] at read
      cases read
      simpa using lands
    · obtain ⟨lead,digits',rfl⟩ : ∃ lead digits', whole = lead :: digits' := by
        cases whole with
        | nil => exact absurd rfl filled
        | cons lead digits' => exact ⟨lead,digits',rfl⟩
      obtain ⟨rfl,behind⟩ := List.cons.inj shape
      have behind : tail = digits' ++ (fraction ++ exponent) := behind
      subst behind
      rw [if_neg (by simpa using leading),if_pos digit] at read
      have place := readDigits_left read
      rw [List.append_assoc,dropWhile_digits (fun byte member => digits byte (by simp [member]))
        (by simpa using stops)] at place
      rw [place]
      simpa using lands
  | _ => simp [isDigit,quote,openBracket,openBrace] at read

theorem Codec.fin_aligned (size : Nat) : Aligned (Codec.fin size).read := by
  refine (readNat_aligned size).follows fun input value left read => ?_
  simp only [Codec.fin,readFin] at read
  split at read
  next => cases read
  next number left' inner =>
    split at read
    · cases read
      exact ⟨number,inner⟩
    · cases read

theorem Codec.u8_aligned : Aligned Codec.u8.read := Codec.iso_aligned (Codec.fin_aligned _) _ _
theorem Codec.u16_aligned : Aligned Codec.u16.read := Codec.iso_aligned (Codec.fin_aligned _) _ _
theorem Codec.u32_aligned : Aligned Codec.u32.read := Codec.iso_aligned (Codec.fin_aligned _) _ _

theorem Codec.bool_aligned : Aligned Codec.bool.read := by
  intro text value before rest space closes found left read
  obtain ⟨byte,tail,rfl,kind⟩ := value.kind
  have front := kind.front space rest
  simp only [Codec.bool,readBool,front] at read
  cases kind with
  | yes =>
    cases read
    exact .inl rfl
  | no =>
    cases read
    exact .inl rfl
  | number digit =>
    split at read
    next same =>
      cases (List.cons.inj same).1
      exact absurd digit (by decide)
    next same =>
      cases (List.cons.inj same).1
      exact absurd digit (by decide)
    next => cases read
  | _ => cases read

/-- A value behind the test for `null`. -/
theorem Aligned.lands_some {read : Reader α} (aligned : Aligned read) {text before rest left : List UInt8}
    {found : Option α} (value : Value text) (space : Space before) (closes : Closes rest)
    (same : (match read (before ++ (text ++ rest)) with
      | some (value,left) => some (some value,left)
      | none => none) = some (found,left)) : Lands left rest := by
  split at same
  next inside left' readInside =>
    cases same
    exact aligned text value before rest space closes inside left readInside
  next => cases same

theorem Codec.option_aligned {codec : Codec α} (aligned : Aligned codec.read)
    (solid : ∀ value, (codec.write value).head? ≠ some 110) : Aligned (codec.option solid).read := by
  intro text value before rest space closes found left read
  have whole := value
  obtain ⟨byte,tail,rfl,kind⟩ := value.kind
  have front := kind.front space rest
  simp only [Codec.option,front] at read
  cases kind with
  | null =>
    cases read
    exact .inl rfl
  | number digit =>
    split at read
    next same =>
      cases (List.cons.inj same).1
      exact absurd digit (by decide)
    next same =>
      cases (List.cons.inj same).1
      exact absurd digit (by decide)
    next => exact aligned.lands_some whole space closes read
  | _ => exact aligned.lands_some whole space closes read

/-! ### Arrays -/

theorem readItems_congr {read : Reader α} {cap fuel : Nat} {first : Bool} {items : List α}
    {input input' : List UInt8} (same : skipSpace input = skipSpace input') :
    readItems read cap fuel first items input = readItems read cap fuel first items input' := by
  cases fuel with
  | zero => rfl
  | succ fuel => simp only [readItems,same]

/-- Nothing is read on from a byte that begins a value. -/
theorem readItems_stuck {read : Reader α} {cap fuel : Nat} {items : List α} {byte : UInt8} {tail : List UInt8}
    (opening : Opening byte) : readItems read cap fuel false items (byte :: tail) = none := by
  obtain ⟨solid,notComma,-,notBracket⟩ := opening
  cases fuel with
  | zero => rfl
  | succ fuel => simp only [readItems,skipSpace_cons _ solid,if_neg notBracket,if_neg notComma,
      Bool.false_eq_true,if_false]

/-- What is behind an element: further ones or the closing bracket. -/
theorem closes_writeRest (write : α → List UInt8) (items : List α) {closing : List UInt8} (space : Space closing)
    {stop : UInt8} (stops : stop = closeBrace ∨ stop = closeBracket) (rest : List UInt8) :
    Closes (writeRest write items ++ (closing ++ stop :: rest)) := by
  cases items with
  | nil =>
    refine ⟨stop,rest,?_,.inr stops⟩
    rw [writeRest,List.flatMap_nil,List.nil_append,skipSpace_space space]
    rcases stops with rfl | rfl <;> exact skipSpace_cons _ (by decide)
  | cons item items => exact ⟨comma,_,skipSpace_cons _ (by decide),.inl rfl⟩

theorem Closes.after {rest space : List UInt8} (closes : Closes rest) (spaced : Space space) :
    Closes (space ++ rest) := by
  rw [Closes,skipSpace_space spaced]
  exact closes

/-- The separator of an element or a member. -/
def separated (first : Bool) (input : List UInt8) : List UInt8 := if first then input else comma :: input

theorem Value.front {text : List UInt8} (value : Value text) {before : List UInt8} (space : Space before)
    (rest : List UInt8) : skipSpace (before ++ (text ++ rest)) = text ++ rest := by
  obtain ⟨byte,tail,rfl,opening⟩ := value.opening
  rw [skipSpace_space space]
  exact skipSpace_cons _ opening.1

/-- One element of an array, read to where the next one stands. -/
theorem readItems_element {read : Reader α} (aligned : Aligned read) {cap fuel : Nat} (first : Bool)
    {items found : List α} {element : Padded} (spaced : element.Spaced) (value : Value element.text)
    {tail left : List UInt8} (closes : Closes tail)
    (success : readItems read cap (fuel + 1) first items (separated first (element.bytes ++ tail)) =
      some (found,left)) :
    ∃ item, readItems read cap fuel false (items ++ [item]) tail = some (found,left) := by
  have shape : element.bytes ++ tail = element.before ++ (element.text ++ (element.after ++ tail)) := by
    simp only [Padded.bytes,List.append_assoc]
  have front := value.front spaced.1 (element.after ++ tail)
  rw [shape] at success
  obtain ⟨byte,others,same,opening⟩ := value.opening
  have started : (readItems read cap (fuel + 1) first items
      (separated first (element.before ++ (element.text ++ (element.after ++ tail))))) =
      (read (element.text ++ (element.after ++ tail))).bind fun taken =>
        if items.length < cap then readItems read cap fuel false (items ++ [taken.1]) taken.2 else none := by
    obtain ⟨solid,notComma,-,notBracket⟩ := opening
    have notClose : comma ≠ closeBracket := by decide
    rw [same] at front ⊢
    simp only [List.cons_append] at front ⊢
    cases first with
    | true =>
      simp only [readItems,separated,if_true,front,if_neg notBracket,if_neg notComma,
        beq_eq_false_iff_ne.mpr notComma,Bool.and_false]
      cases read (byte :: (others ++ (element.after ++ tail))) <;> rfl
    | false =>
      simp only [readItems,separated,Bool.false_eq_true,if_false,if_true,skipSpace_comma,if_neg notClose,
        afterComma,front,if_neg notBracket,Bool.false_and]
      cases read (byte :: (others ++ (element.after ++ tail))) <;> rfl
  rw [started] at success
  obtain ⟨⟨item,left'⟩,inner,success⟩ := Option.bind_eq_some_iff.mp success
  split at success
  · refine ⟨item,?_⟩
    rcases aligned element.text value [] _ (by simp [Space]) (closes.after spaced.2) item left' inner with
      place | ⟨stuck,others,rfl,opening⟩
    · rwa [readItems_congr (place.trans (skipSpace_space spaced.2 tail))] at success
    · rw [readItems_stuck opening] at success
      cases success
  · cases success

theorem readItems_close {read : Reader α} {cap fuel : Nat} {first : Bool} {items found : List α}
    {closing rest left : List UInt8} (space : Space closing)
    (success : readItems read cap fuel first items (closing ++ closeBracket :: rest) = some (found,left)) :
    left = rest := by
  have front : skipSpace (closing ++ closeBracket :: rest) = closeBracket :: rest := by
    rw [skipSpace_space space]
    exact skipSpace_cons _ (by decide)
  cases fuel with
  | zero => cases success
  | succ fuel =>
    simp only [readItems,front,if_true] at success
    cases success
    rfl

theorem readItems_left {read : Reader α} (aligned : Aligned read) {cap : Nat} (elements : List Padded)
    (spaced : ∀ element ∈ elements, element.Spaced) (values : ∀ element ∈ elements, Value element.text)
    {closing rest left : List UInt8} (space : Space closing) {fuel : Nat} {items found : List α}
    (success : readItems read cap fuel false items
      (writeRest Padded.bytes elements ++ (closing ++ closeBracket :: rest)) = some (found,left)) :
    left = rest := by
  induction elements generalizing fuel items with
  | nil => exact readItems_close space success
  | cons element elements ih =>
    cases fuel with
    | zero => cases success
    | succ fuel =>
      obtain ⟨elementSpaced,othersSpaced⟩ := List.forall_mem_cons.mp spaced
      obtain ⟨value,others⟩ := List.forall_mem_cons.mp values
      rw [writeRest_cons,List.cons_append,List.append_assoc] at success
      obtain ⟨item,next⟩ := readItems_element aligned false elementSpaced value
        (closes_writeRest Padded.bytes elements space (.inr rfl) rest) success
      exact ih othersSpaced others next

theorem Codec.vec_aligned {codec : Codec α} (aligned : Aligned codec.read) (n : Nat) :
    Aligned (codec.vec n).read := by
  intro text value before rest space closes found left read
  obtain ⟨byte,tail,rfl,kind⟩ := value.kind
  have front := kind.front space rest
  simp only [Codec.vec,front] at read
  cases kind with
  | array inside =>
    obtain ⟨elements,closing,closingSpace,spaced,values,rfl⟩ := inside
    rw [if_pos rfl] at read
    split at read
    next items left' inner =>
      obtain ⟨_,-,same⟩ := Option.map_eq_some_iff.mp read
      cases same
      refine .inl (congrArg skipSpace ?_)
      simp only [List.append_assoc,List.singleton_append] at inner
      cases elements with
      | nil => exact readItems_close closingSpace inner
      | cons element elements =>
        obtain ⟨elementSpaced,othersSpaced⟩ := List.forall_mem_cons.mp spaced
        obtain ⟨first,others⟩ := List.forall_mem_cons.mp values
        rw [writeItems,List.append_assoc] at inner
        obtain ⟨item,next⟩ := readItems_element aligned true elementSpaced first
          (closes_writeRest Padded.bytes elements closingSpace (.inr rfl) rest) inner
        exact readItems_left aligned elements othersSpaced others closingSpace next
    next => cases read
  | number digit =>
    rw [if_neg (by rintro rfl; exact absurd digit (by decide))] at read
    cases read
  | _ => simp [quote,openBracket,openBrace] at read

end UchiPulse.Json
