import UchiPulse.Lib.Members

/-! JSON values and the texts that denote them. A reader offers a function of values when it
makes of each text what the function makes of its value; a visitor that does so for every key
runs over the text of an object as it runs over the object's entries. -/
namespace UchiPulse.Json
variable {α β : Type}

/-- A JSON value as a deserializer offers it. A string is what stands between its quotes. A
number is an integer, or has a fraction, an exponent or a sign in front of zero. -/
inductive JsonValue where
  | null
  | bool (value : Bool)
  | integer (value : Int)
  | decimal (literal : List UInt8)
  | string (text : String)
  | array (items : List JsonValue)
  | object (entries : List (String × JsonValue))

abbrev JsonEntry := String × JsonValue

/-- The number that digits write. -/
def digitsValue (digits : List UInt8) : Nat :=
  digits.foldl (fun value byte => 10 * value + (byte.toNat - 48)) 0

/-- The texts of a value. -/
inductive Denotes : JsonValue → List UInt8 → Prop
  | null : Denotes .null [110,117,108,108]
  | bool (value : Bool) : Denotes (.bool value) (writeBool value)
  | natural {whole : List UInt8} (first : Whole whole) : Denotes (.integer (digitsValue whole)) whole
  | negative {whole : List UInt8} (first : Whole whole) (nonzero : digitsValue whole ≠ 0) :
      Denotes (.integer (-digitsValue whole)) (45 :: whole)
  | decimal (negative : Bool) {whole fraction exponent : List UInt8} (first : Whole whole)
      (second : Fraction fraction) (third : Exponent exponent)
      (broken : (negative = true ∧ digitsValue whole = 0) ∨ fraction ≠ [] ∨ exponent ≠ []) :
      Denotes (.decimal ((if negative then [45] else []) ++ (whole ++ (fraction ++ exponent))))
        ((if negative then [45] else []) ++ (whole ++ (fraction ++ exponent)))
  | string {raw : List UInt8} {chars : List Char} {text : String} (quoted : Quoted raw chars)
      (decoded : Utf8.decode raw = some text) : Denotes (.string text) (quote :: raw ++ [quote])
  | array (written : List (JsonValue × Padded)) (closing : List UInt8) (space : Space closing)
      (spaced : ∀ item ∈ written, item.2.Spaced) (values : ∀ item ∈ written, Denotes item.1 item.2.text) :
      Denotes (.array (written.map (·.1)))
        (openBracket :: (writeItems Padded.bytes (written.map (·.2)) ++ closing ++ [closeBracket]))
  | object (written : List (JsonEntry × Member)) (closing : List UInt8) (space : Space closing)
      (spaced : ∀ item ∈ written, item.2.Spaced)
      (keys : ∀ item ∈ written, (∃ name, item.2.Named name) ∧ Utf8.decode item.2.key = some item.1.1)
      (values : ∀ item ∈ written, Denotes item.1.2 item.2.value.text) :
      Denotes (.object (written.map (·.1)))
        (openBrace :: (writeItems Member.bytes (written.map (·.2)) ++ closing ++ [closeBrace]))

theorem Denotes.value {value : JsonValue} {text : List UInt8} (denotes : Denotes value text) : Value text := by
  induction denotes with
  | null => exact .null
  | bool value => exact .bool value
  | @natural whole first => simpa using Value.number false first (.inl rfl) (.inl rfl)
  | @negative whole first => simpa using Value.number true first (.inl rfl) (.inl rfl)
  | decimal negative first second third => exact .number negative first second third
  | string quoted => exact .string quoted
  | array written closing space spaced values ih =>
    refine .array _ closing space ?_ ?_
    · simpa using fun element value member => spaced (value,element) member
    · simpa using fun element value member => ih (value,element) member
  | object written closing space spaced keys values ih =>
    refine .object _ closing space ?_ ?_ ?_
    · simpa using fun member key value listed => spaced ((key,value),member) listed
    · simpa using fun member key value listed => (keys ((key,value),member) listed).1
    · simpa using fun member key value listed => ih ((key,value),member) listed

theorem exists_paired {γ δ : Type} {related : γ → δ → Prop} (items : List δ)
    (each : ∀ item ∈ items, ∃ value, related value item) :
    ∃ written : List (γ × δ), written.map (·.2) = items ∧ ∀ pair ∈ written, related pair.1 pair.2 := by
  induction items with
  | nil => exact ⟨[],rfl,by simp⟩
  | cons item items ih =>
    obtain ⟨⟨value,first⟩,others⟩ := List.forall_mem_cons.mp each
    obtain ⟨written,rfl,rest⟩ := ih others
    exact ⟨(value,item) :: written,rfl,List.forall_mem_cons.mpr ⟨first,rest⟩⟩

/-- Every text of a value denotes one. -/
theorem Value.denoted {text : List UInt8} (value : Value text) : ∃ meaning, Denotes meaning text := by
  induction value with
  | null => exact ⟨_,.null⟩
  | bool value => exact ⟨_,.bool value⟩
  | @number negative whole fraction exponent first second third =>
    by_cases broken : (negative = true ∧ digitsValue whole = 0) ∨ fraction ≠ [] ∨ exponent ≠ []
    · exact ⟨_,.decimal negative first second third broken⟩
    · simp only [not_or,not_and,ne_eq,not_not] at broken
      obtain ⟨sign,rfl,rfl⟩ := broken
      cases negative with
      | false => exact ⟨_,by simpa using Denotes.natural first⟩
      | true => exact ⟨_,by simpa using Denotes.negative first (sign rfl)⟩
  | string quoted =>
    obtain ⟨text,decoded⟩ := quoted.text
    exact ⟨_,.string quoted decoded⟩
  | array elements closing space spaced values ih =>
    have each : ∀ element ∈ elements, ∃ meaning, Denotes meaning element.text := ih
    obtain ⟨written,rfl,meanings⟩ := exists_paired elements each
    exact ⟨_,.array written closing space (fun item listed => spaced _ (List.mem_map_of_mem listed)) meanings⟩
  | object members closing space spaced keys values ih =>
    have each : ∀ member ∈ members, ∃ entry : JsonEntry,
        Utf8.decode member.key = some entry.1 ∧ Denotes entry.2 member.value.text := by
      intro member listed
      obtain ⟨name,named⟩ := keys member listed
      obtain ⟨key,keyed⟩ := Quoted.text named
      obtain ⟨meaning,denotes⟩ := ih member listed
      exact ⟨(key,meaning),keyed,denotes⟩
    obtain ⟨written,rfl,meanings⟩ := exists_paired members each
    exact ⟨_,.object written closing space (fun item listed => spaced _ (List.mem_map_of_mem listed))
      (fun item listed => ⟨keys _ (List.mem_map_of_mem listed),(meanings item listed).1⟩)
      fun item listed => (meanings item listed).2⟩

/-! ### First bytes -/

/-- A byte that a value's text may begin with. -/
def JsonValue.Begins : JsonValue → UInt8 → Prop
  | .null, byte => byte = 110
  | .bool _, byte => byte = 116 ∨ byte = 102
  | .integer value, byte => isDigit byte = true ∨ (byte = 45 ∧ value < 0)
  | .decimal _, byte => isDigit byte = true ∨ byte = 45
  | .string _, byte => byte = quote
  | .array _, byte => byte = openBracket
  | .object _, byte => byte = openBrace

theorem Denotes.begins {value : JsonValue} {text : List UInt8} (denotes : Denotes value text) :
    ∃ byte tail, text = byte :: tail ∧ value.Begins byte := by
  cases denotes with
  | null => exact ⟨_,_,rfl,rfl⟩
  | bool value =>
    cases value
    · exact ⟨_,_,rfl,.inr rfl⟩
    · exact ⟨_,_,rfl,.inl rfl⟩
  | natural first =>
    obtain ⟨byte,tail,rfl,digit⟩ := whole_head first
    exact ⟨byte,tail,rfl,.inl digit⟩
  | negative first nonzero => exact ⟨45,_,rfl,.inr ⟨rfl,by omega⟩⟩
  | decimal negative first =>
    cases negative with
    | true => exact ⟨45,_,rfl,.inr rfl⟩
    | false =>
      obtain ⟨byte,tail,rfl,digit⟩ := whole_head first
      exact ⟨byte,_,rfl,.inl digit⟩
  | string => exact ⟨_,_,rfl,rfl⟩
  | array => exact ⟨_,_,rfl,rfl⟩
  | object => exact ⟨_,_,rfl,rfl⟩

/-! ### Offers -/

/-- A reader's result in front of `rest` where a value was to be taken: behind the value's text, or
without a value none, unless the reader stopped at a byte that nothing takes. -/
structure Meets (result : Option (α × List UInt8)) (taken : Option α) (rest : List UInt8) : Prop where
  read : ∀ found, taken = some found → ∃ left, result = some (found,left) ∧ skipSpace left = skipSpace rest
  refused : taken = none → ∀ found left, result = some (found,left) →
    ∃ byte tail, left = byte :: tail ∧ Opening byte

/-- What a reader makes of a text is what the function makes of its value. -/
def Offers (read : Reader α) (take : JsonValue → Option α) : Prop :=
  ∀ value text, Denotes value text → ∀ before rest, Space before → Closes rest →
    Meets (read (before ++ (text ++ rest))) (take value) rest

theorem meets_exact (taken : Option α) (rest : List UInt8) : Meets (taken.map (·,rest)) taken rest where
  read found same := ⟨rest,by rw [same]; rfl,rfl⟩
  refused nothing found left read := by
    rw [nothing] at read
    cases read

theorem Meets.map {result : Option (α × List UInt8)} {taken : Option α} {rest : List UInt8}
    (meets : Meets result taken rest) (f : α → β) :
    Meets (result.map fun (value,left) => (f value,left)) (taken.map f) rest where
  read found same := by
    obtain ⟨inner,inside,rfl⟩ := Option.map_eq_some_iff.mp same
    obtain ⟨left,read,place⟩ := meets.read inner inside
    exact ⟨left,by rw [read]; rfl,place⟩
  refused nothing found left read := by
    obtain ⟨⟨inner,left'⟩,read,shape⟩ := Option.map_eq_some_iff.mp read
    cases shape
    exact meets.refused (Option.map_eq_none_iff.mp nothing) inner left read

theorem Offers.map {read : Reader α} {take : JsonValue → Option α} (offers : Offers read take) (f : α → β)
    {outer : Reader β} {outerTake : JsonValue → Option β}
    (reads : ∀ input, outer input = (read input).map fun (value,left) => (f value,left))
    (takes : ∀ value, outerTake value = (take value).map f) : Offers outer outerTake := by
  intro value text denotes before rest space closes
  rw [reads,takes]
  exact (offers value text denotes before rest space closes).map f

theorem Skips.offers {skip : Reader Unit} (skips : Skips skip) : Offers skip fun _ => some () := by
  intro value text denotes before rest space closes
  obtain ⟨left,skipped,place⟩ := skips text denotes.value before rest space closes
  refine ⟨fun found _ => ⟨left,skipped,place⟩,fun nothing => ?_⟩
  cases nothing

/-! ### Texts and names -/

def JsonValue.toText (n : Nat) : JsonValue → Option (Text n)
  | .string text => Text.ofString? n text
  | _ => none

/-- A name is written as a text, or as the only key of an object with `null` behind it. -/
def JsonValue.toName (ofName : String → Option α) : JsonValue → Option α
  | .string text => ofName text
  | .object [(text,.null)] => ofName text
  | _ => none

/-- The values that name a variant. -/
def JsonValue.Names (value : JsonValue) (name : String) : Prop :=
  value = .string name ∨ value = .object [(name,.null)]

theorem JsonValue.toName_eq_some {ofName : String → Option α} {value : JsonValue} {found : α} :
    value.toName ofName = some found ↔ ∃ name, value.Names name ∧ ofName name = some found := by
  constructor
  · intro taken
    unfold JsonValue.toName at taken
    split at taken
    next name => exact ⟨name,.inl rfl,taken⟩
    next name => exact ⟨name,.inr rfl,taken⟩
    next => cases taken
  · rintro ⟨name,rfl | rfl,taken⟩ <;> exact taken

theorem JsonValue.Begins.string {value : JsonValue} (begins : value.Begins quote) : ∃ text, value = .string text := by
  cases value with
  | string text => exact ⟨text,rfl⟩
  | bool => exact absurd begins (by simp [JsonValue.Begins,quote])
  | integer => exact absurd begins (by simp [JsonValue.Begins,quote,isDigit])
  | decimal => exact absurd begins (by simp [JsonValue.Begins,quote,isDigit])
  | _ => exact absurd begins (by simp [JsonValue.Begins,quote,openBracket,openBrace])

theorem JsonValue.Begins.object {value : JsonValue} (begins : value.Begins openBrace) :
    ∃ entries, value = .object entries := by
  cases value with
  | object entries => exact ⟨entries,rfl⟩
  | bool => exact absurd begins (by simp [JsonValue.Begins,openBrace])
  | integer => exact absurd begins (by simp [JsonValue.Begins,openBrace,isDigit])
  | decimal => exact absurd begins (by simp [JsonValue.Begins,openBrace,isDigit])
  | _ => exact absurd begins (by simp [JsonValue.Begins,quote,openBracket,openBrace])

theorem ObjectText.denoted (object : ObjectText) : ∃ entries, Denotes (.object entries) object.bytes := by
  obtain ⟨meaning,denotes⟩ := object.value.denoted
  obtain ⟨byte,tail,shape,begins⟩ := denotes.begins
  cases (List.cons.inj shape).1
  obtain ⟨entries,rfl⟩ := begins.object
  exact ⟨entries,denotes⟩

/-- The text of a string is read to its closing quote. -/
theorem Denotes.readString {text : String} {written : List UInt8} (denotes : Denotes (.string text) written)
    {before : List UInt8} (space : Space before) (rest : List UInt8) :
    readString (before ++ (written ++ rest)) = some (text,rest) := by
  cases denotes with
  | @string raw chars text quoted decoded =>
    have shape : before ++ (quote :: raw ++ [quote] ++ rest) = before ++ quote :: (raw ++ quote :: rest) := by
      simp only [List.cons_append,List.append_assoc,List.nil_append]
    rw [shape,readString_quoted quoted before space,decoded,Option.map_some]

theorem readString_other {input tail : List UInt8} {byte : UInt8} (front : skipSpace input = byte :: tail)
    (other : byte ≠ quote) : readString input = none := by
  unfold readString
  split
  next rest starts =>
    rw [front] at starts
    exact absurd (List.cons.inj starts).1 other
  next => rfl

theorem readText_offers (n : Nat) : Offers (readText n) (JsonValue.toText n) := by
  intro value text denotes before rest space closes
  suffices same : readText n (before ++ (text ++ rest)) = (value.toText n).map (·,rest) by
    rw [same]
    exact meets_exact _ rest
  obtain ⟨byte,tail,shape,begins⟩ := denotes.begins
  by_cases quoted : byte = quote
  · obtain ⟨string,rfl⟩ := (quoted ▸ begins).string
    simp only [readText,denotes.readString space,JsonValue.toText]
  · have front := denotes.value.front space rest
    rw [shape,List.cons_append] at front
    rw [readText,shape,List.cons_append,readString_other front quoted]
    cases value with
    | string => exact absurd begins quoted
    | _ => rfl

theorem Denotes.null_iff {value : JsonValue} {text : List UInt8} (denotes : Denotes value text) :
    text = [110,117,108,108] ↔ value = .null := by
  constructor
  · rintro rfl
    obtain ⟨byte,tail,shape,begins⟩ := denotes.begins
    cases (List.cons.inj shape).1
    cases value with
    | null => rfl
    | bool => exact absurd begins (by simp [JsonValue.Begins])
    | integer => exact absurd begins (by simp [JsonValue.Begins,isDigit])
    | decimal => exact absurd begins (by simp [JsonValue.Begins,isDigit])
    | _ => exact absurd begins (by simp [JsonValue.Begins,quote,openBracket,openBrace])
  · rintro rfl
    cases denotes
    rfl

/-- A name in an object. -/
theorem readName_denoted (ofName : String → Option α) {entries : List JsonEntry} {text before : List UInt8}
    (denotes : Denotes (.object entries) text) (space : Space before) (rest : List UInt8) :
    readName ofName (before ++ (text ++ rest)) = (JsonValue.toName ofName (.object entries)).map (·,rest) := by
  have front := denotes.value.front space rest
  cases denotes with
  | object written closing closingSpace spaced keys values =>
    have start : skipSpace (before ++ (openBrace ::
        (writeItems Member.bytes (written.map (·.2)) ++ closing ++ [closeBrace]) ++ rest)) =
        123 :: (writeItems Member.bytes (written.map (·.2)) ++ closing ++ [closeBrace] ++ rest) := front
    simp only [readName,start]
    cases written with
    | nil =>
      rw [List.map_nil,writeItems,List.nil_append,List.append_assoc,List.singleton_append,
        readString_closing closingSpace]
      rfl
    | cons item others =>
      obtain ⟨itemSpaced,-⟩ := List.forall_mem_cons.mp spaced
      obtain ⟨⟨⟨name,named⟩,keyed⟩,-⟩ := List.forall_mem_cons.mp keys
      obtain ⟨denoted,-⟩ := List.forall_mem_cons.mp values
      obtain ⟨⟨key,value⟩,member⟩ := item
      rw [List.map_cons,writeItems_append,readString_member itemSpaced named,keyed]
      simp only [Option.map_some]
      by_cases null : value = .null
      · subst null
        rw [closeVariant_null itemSpaced (denoted.null_iff.mpr rfl)]
        cases others with
        | nil =>
          have closed : closeObject (closing ++ closeBrace :: rest) = some rest := by
            rw [closeObject_eq_some,skipSpace_space closingSpace]
            exact skipSpace_cons _ (by decide)
          rw [List.map_nil,writeRest,List.flatMap_nil,List.nil_append,closed]
          change _ = (ofName key).map (·,rest)
          cases ofName key <;> rfl
        | cons other others =>
          have more (tail : List UInt8) : closeObject (comma :: tail) = none := rfl
          rw [List.map_cons,writeRest_cons,List.cons_append,more]
          change _ = none
          cases ofName key <;> rfl
      · rw [closeVariant_other itemSpaced denoted.value (mt denoted.null_iff.mp null)]
        have nothing : JsonValue.toName ofName (.object (((key,value) :: others.map (·.1)))) = none := by
          cases others <;> cases value <;> first | rfl | exact absurd rfl null
        simp only [List.map_cons,nothing]
        cases ofName key <;> rfl

theorem readName_offers (ofName : String → Option α) : Offers (readName ofName) (JsonValue.toName ofName) := by
  intro value text denotes before rest space closes
  suffices same : readName ofName (before ++ (text ++ rest)) = (value.toName ofName).map (·,rest) by
    rw [same]
    exact meets_exact _ rest
  obtain ⟨byte,tail,shape,begins⟩ := denotes.begins
  by_cases quoted : byte = quote
  · obtain ⟨string,rfl⟩ := (quoted ▸ begins).string
    exact readName_string ofName (denotes.readString space rest)
  by_cases braced : byte = openBrace
  · obtain ⟨entries,rfl⟩ := (braced ▸ begins).object
    exact readName_denoted ofName denotes space rest
  · have front := denotes.value.front space rest
    rw [shape,List.cons_append] at front
    have nothing : JsonValue.toName ofName value = none := by
      cases value with
      | string => exact absurd begins quoted
      | object => exact absurd begins braced
      | _ => rfl
    rw [nothing,readName,shape,List.cons_append,front]
    split
    next same => exact absurd (List.cons.inj same).1 quoted
    next same => exact absurd (List.cons.inj same).1 braced
    next => rfl

/-! ### Numbers -/

def JsonValue.toFin (size : Nat) : JsonValue → Option (Fin size)
  | .integer value =>
    if small : 0 ≤ value ∧ value < size then some ⟨value.toNat,by omega⟩ else none
  | _ => none

theorem le_foldl_digits (digits : List UInt8) (value : Nat) :
    value ≤ digits.foldl (fun value byte => 10 * value + (byte.toNat - 48)) value := by
  induction digits generalizing value with
  | nil => exact Nat.le_refl _
  | cons byte digits ih =>
    have := ih (10 * value + (byte.toNat - 48))
    rw [List.foldl_cons]
    omega

/-- Digits are read up to a bound. -/
theorem readDigits_foldl (size : Nat) {digits rest : List UInt8} (value : Nat)
    (all : ∀ byte ∈ digits, isDigit byte = true)
    (stops : ∀ byte tail, rest = byte :: tail → isDigit byte = false) :
    let number := digits.foldl (fun value byte => 10 * value + (byte.toNat - 48)) value
    readDigits size value (digits ++ rest) = (if digits = [] ∨ number < size then some (number,rest) else none) := by
  induction digits generalizing value with
  | nil =>
    cases rest with
    | nil => rfl
    | cons byte tail => simp [readDigits,stops byte tail rfl]
  | cons byte digits ih =>
    obtain ⟨first,others⟩ := List.forall_mem_cons.mp all
    have below := le_foldl_digits digits (10 * value + (byte.toNat - 48))
    simp only [List.cons_append,readDigits,first,if_true,List.foldl_cons,ih _ others,reduceCtorEq,false_or]
    by_cases small : 10 * value + (byte.toNat - 48) < size
    · rw [if_pos small]
      cases digits with
      | nil => simp [small]
      | cons other digits =>
        simp only [List.foldl_cons,reduceCtorEq,false_or]
        exact if_congr Iff.rfl rfl rfl
    · rw [if_neg small,if_neg (by omega)]

theorem readFin_whole (size : Nat) {whole before rest : List UInt8} (first : Whole whole) (space : Space before)
    (stops : ∀ byte tail, rest = byte :: tail → isDigit byte = false) :
    readFin size (before ++ (whole ++ rest)) =
      if small : digitsValue whole < size then some (⟨digitsValue whole,small⟩,rest) else none := by
  obtain ⟨byte,tail,shape,digit⟩ := whole_head first
  have front : skipSpace (before ++ (whole ++ rest)) = byte :: (tail ++ rest) := by
    rw [shape,skipSpace_space space,List.cons_append,skipSpace_cons _ (digit_opening digit).1]
  simp only [readFin,readNat,front]
  rcases first with rfl | ⟨⟨-,digits⟩,leading⟩
  · cases shape
    rfl
  · subst shape
    have others := fun other listed => digits other (List.mem_cons_of_mem byte listed)
    have value : digitsValue (byte :: tail) =
        tail.foldl (fun value byte => 10 * value + (byte.toNat - 48)) (byte.toNat - 48) := by
      simp [digitsValue]
    rw [if_neg (by simpa using leading),if_pos digit,readDigits_foldl size _ others stops,value]
    by_cases read : tail = [] ∨ tail.foldl (fun value byte => 10 * value + (byte.toNat - 48)) (byte.toNat - 48) < size
    · simp only [if_pos read]
    · simp only [if_neg read,dif_neg (not_or.mp read).2]

theorem readNat_other {size : Nat} {input tail : List UInt8} {byte : UInt8} (front : skipSpace input = byte :: tail)
    (other : isDigit byte = false) : readNat size input = none := by
  have notZero : byte ≠ 48 := by
    rintro rfl
    exact absurd other (by decide)
  simp only [readNat,front,if_neg notZero,other,Bool.false_eq_true,if_false]

theorem readFin_offers (size : Nat) : Offers (readFin size) (JsonValue.toFin size) := by
  intro value text denotes before rest space closes
  obtain ⟨byte,tail,shape,begins⟩ := denotes.begins
  have front := denotes.value.front space rest
  rw [shape,List.cons_append] at front
  have failed (other : isDigit byte = false) : readFin size (before ++ (text ++ rest)) = none := by
    rw [readFin,shape,List.cons_append,readNat_other front other]
  cases denotes with
  | natural first =>
    rw [readFin_whole size first space closes.not_digit,JsonValue.toFin]
    by_cases small : digitsValue text < size
    · rw [dif_pos small,dif_pos (by omega)]
      exact meets_exact (some _) rest
    · rw [dif_neg small,dif_neg (by omega)]
      exact meets_exact none rest
  | negative first nonzero =>
    cases (List.cons.inj shape).1
    rw [failed (by decide),JsonValue.toFin,dif_neg (by omega)]
    exact meets_exact none rest
  | @decimal negative whole fraction exponent first second third broken =>
    cases negative with
    | true =>
      cases (List.cons.inj shape).1
      rw [failed (by decide)]
      exact meets_exact none rest
    | false =>
      -- the digits are read, and the reader stops at the point or the letter
      obtain ⟨stuck,others,behind,opening,notDigit⟩ :=
        stuck_number second third (broken.resolve_left (by simp)) rest
      have stops : ∀ other tail, fraction ++ (exponent ++ rest) = other :: tail → isDigit other = false := by
        intro other tail same
        rw [behind] at same
        cases same
        exact notDigit
      simp only [Bool.false_eq_true,if_false,List.nil_append,List.append_assoc]
      rw [readFin_whole size first space stops]
      refine ⟨fun found taken => ?_,fun _ found left read => ?_⟩
      · cases taken
      · split at read
        · cases read
          exact ⟨stuck,others,behind,opening⟩
        · cases read
  | bool value =>
    rw [failed (by rcases begins with rfl | rfl <;> decide)]
    exact meets_exact none rest
  | _ =>
    cases begins
    rw [failed (by decide)]
    exact meets_exact none rest

/-! ### Objects -/

section
variable {visit : String → β → Reader β} {step : β → JsonEntry → Option β}

/-- What is visited of the members is the run over their entries. -/
theorem readEntries_denoted (offers : ∀ key draft, Offers (visit key draft) fun value => step draft (key,value))
    (written : List (JsonEntry × Member)) (spaced : ∀ item ∈ written, item.2.Spaced)
    (keys : ∀ item ∈ written, (∃ name, item.2.Named name) ∧ Utf8.decode item.2.key = some item.1.1)
    (values : ∀ item ∈ written, Denotes item.1.2 item.2.value.text) {closing : List UInt8} (space : Space closing)
    (rest : List UInt8) (first : Bool) {fuel : Nat} (enough : written.length < fuel) (draft : β) :
    readEntries visit fuel first draft
      ((if first then writeItems Member.bytes (written.map (·.2)) else writeRest Member.bytes (written.map (·.2))) ++
        (closing ++ closeBrace :: rest)) = ((written.map (·.1)).foldlM step draft).map (·,rest) := by
  induction written generalizing fuel first draft with
  | nil =>
    obtain ⟨fuel,rfl⟩ : ∃ k, fuel = k + 1 := ⟨fuel - 1,by simp at enough; omega⟩
    cases first <;> exact readEntries_close space rest
  | cons item written ih =>
    obtain ⟨fuel,rfl⟩ : ∃ k, fuel = k + 1 := ⟨fuel - 1,by simp at enough; omega⟩
    obtain ⟨itemSpaced,othersSpaced⟩ := List.forall_mem_cons.mp spaced
    obtain ⟨⟨⟨name,named⟩,keyed⟩,othersKeys⟩ := List.forall_mem_cons.mp keys
    obtain ⟨denotes,othersValues⟩ := List.forall_mem_cons.mp values
    obtain ⟨⟨key,value⟩,member⟩ := item
    simp only [List.length_cons,Nat.add_lt_add_iff_right] at enough
    have closes := closes_writeRest Member.bytes (written.map (·.2)) space (.inl rfl) rest
    have shape : (if first then writeItems Member.bytes ((((key,value),member) :: written).map (·.2))
        else writeRest Member.bytes ((((key,value),member) :: written).map (·.2))) ++ (closing ++ closeBrace :: rest) =
        separated first (member.bytes ++
          (writeRest Member.bytes (written.map (·.2)) ++ (closing ++ closeBrace :: rest))) := by
      cases first <;> simp [writeItems,writeRest_cons,separated]
    have meets := offers key draft value _ denotes _ _ itemSpaced.2.2.1 (closes.after itemSpaced.2.2.2)
    rw [shape,readEntries_member itemSpaced named keyed,List.map_cons,List.foldlM_cons]
    cases taken : step draft (key,value) with
    | some next =>
      obtain ⟨left,read,place⟩ := meets.read next taken
      have same := @readEntries_congr _ visit fuel false next _ _
        (place.trans (skipSpace_space itemSpaced.2.2.2 _))
      rw [Member.input,read,Option.bind_some,same]
      simpa using ih othersSpaced othersKeys othersValues false enough next
    | none =>
      change _ = none
      rw [Option.bind_eq_none_iff]
      rintro ⟨found,left⟩ read
      obtain ⟨byte,tail,rfl,opening⟩ := meets.refused taken found left read
      exact readEntries_stuck opening

theorem readObject_denoted (offers : ∀ key draft, Offers (visit key draft) fun value => step draft (key,value))
    {entries : List JsonEntry} {text : List UInt8} (denotes : Denotes (.object entries) text)
    {before : List UInt8} (space : Space before) (rest : List UInt8) (draft : β) :
    readObject visit draft (before ++ (text ++ rest)) = (entries.foldlM step draft).map (·,rest) := by
  have front := denotes.value.front space rest
  cases denotes with
  | object written closing closingSpace spaced keys values =>
    have enough : written.length ≤ (writeItems Member.bytes (written.map (·.2))).length := by
      cases written with
      | nil => simp
      | cons item written =>
        have tail := length_le_writeRest Member.bytes (written.map (·.2))
        simp only [List.map_cons,writeItems,Member.bytes,List.length_append,List.length_cons,
          List.length_map] at tail ⊢
        omega
    have inner := readEntries_denoted offers written spaced keys values closingSpace rest true
      (show written.length < (writeItems Member.bytes (written.map (·.2)) ++
        (closing ++ closeBrace :: rest)).length + 1 by simp only [List.length_append]; omega) draft
    simp only [List.cons_append,List.append_assoc,List.nil_append] at front
    simp only [List.cons_append,List.append_assoc,List.nil_append,readObject,front,if_true]
    simpa using inner

end

end UchiPulse.Json
