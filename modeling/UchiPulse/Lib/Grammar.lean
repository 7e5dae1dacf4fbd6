import UchiPulse.Lib.Codec

/-! The grammar of JSON texts over bytes, and a skipper of values that only counts
brackets. Every text of a value passes it. -/
namespace UchiPulse.Json

def Space (input : List UInt8) : Prop := ∀ byte ∈ input, isSpace byte = true

def hexValue (byte : UInt8) : Option Nat :=
  let code := byte.toNat
  if 48 ≤ code ∧ code ≤ 57 then some (code - 48)
  else if 65 ≤ code ∧ code ≤ 70 then some (code - 55)
  else if 97 ≤ code ∧ code ≤ 102 then some (code - 87)
  else none

/-- The code unit of four hexadecimal digits. -/
def codeUnit (a b c d : UInt8) : Option Nat := do
  return 4096 * (← hexValue a) + 256 * (← hexValue b) + 16 * (← hexValue c) + (← hexValue d)

/-- The letters behind a backslash that stand for one character. -/
def shortEscapes : List (UInt8 × Char) :=
  [(34,'"'),(92,'\\'),(47,'/'),(98,'\x08'),(102,'\x0c'),(110,'\n'),(114,'\r'),(116,'\t')]

/-- The bytes between quotes that stand for a character. -/
inductive Spells : List UInt8 → Char → Prop
  | plain (char : Char) (notQuote : char ≠ '"') (notBackslash : char ≠ '\\') (printed : 32 ≤ char.toNat) :
      Spells (String.utf8EncodeChar char) char
  | short (letter : UInt8) (char : Char) (known : (letter,char) ∈ shortEscapes) :
      Spells [backslash,letter] char
  | unicode (a b c d : UInt8) (char : Char) (unit : codeUnit a b c d = some char.toNat) :
      Spells [backslash,117,a,b,c,d] char
  | surrogates (a b c d a' b' c' d' : UInt8) (high low : Nat) (char : Char)
      (first : codeUnit a b c d = some high) (second : codeUnit a' b' c' d' = some low)
      (highRange : 0xd800 ≤ high ∧ high < 0xdc00) (lowRange : 0xdc00 ≤ low ∧ low < 0xe000)
      (code : char.toNat = 0x10000 + 1024 * (high - 0xd800) + (low - 0xdc00)) :
      Spells [backslash,117,a,b,c,d,backslash,117,a',b',c',d'] char

/-- The bytes between the quotes of a text. -/
inductive Quoted : List UInt8 → List Char → Prop
  | nil : Quoted [] []
  | cons {bytes rest : List UInt8} {char : Char} {chars : List Char} (spells : Spells bytes char)
      (more : Quoted rest chars) : Quoted (bytes ++ rest) (char :: chars)

def Digits (text : List UInt8) : Prop := text ≠ [] ∧ ∀ byte ∈ text, isDigit byte = true

/-- A number without sign, fraction and exponent. No digit follows a leading zero. -/
def Whole (text : List UInt8) : Prop := text = [48] ∨ (Digits text ∧ text.head? ≠ some 48)

def Fraction (text : List UInt8) : Prop := text = [] ∨ ∃ digits, Digits digits ∧ text = 46 :: digits

def Exponent (text : List UInt8) : Prop :=
  text = [] ∨ ∃ letter sign digits, (letter = 101 ∨ letter = 69) ∧ sign ∈ [[],[43],[45]] ∧ Digits digits ∧
    text = letter :: (sign ++ digits)

/-- A value, or a member's value, between spaces. -/
structure Padded where
  before : List UInt8
  text : List UInt8
  after : List UInt8
deriving DecidableEq

def Padded.bytes (self : Padded) : List UInt8 := self.before ++ self.text ++ self.after

def Padded.Spaced (self : Padded) : Prop := Space self.before ∧ Space self.after

/-- A member with its key as it is written between the quotes. -/
structure Member where
  before : List UInt8
  key : List UInt8
  between : List UInt8
  value : Padded
deriving DecidableEq

def Member.bytes (self : Member) : List UInt8 :=
  self.before ++ quote :: self.key ++ quote :: self.between ++ colon :: self.value.bytes

def Member.Spaced (self : Member) : Prop :=
  Space self.before ∧ Space self.between ∧ self.value.Spaced

/-- The name a member's key spells. -/
def Member.Named (self : Member) (name : String) : Prop := Quoted self.key name.toList

/-- The texts of values. -/
inductive Value : List UInt8 → Prop
  | null : Value [110,117,108,108]
  | bool (value : Bool) : Value (writeBool value)
  | number (negative : Bool) {whole fraction exponent : List UInt8} (first : Whole whole)
      (second : Fraction fraction) (third : Exponent exponent) :
      Value ((if negative then [45] else []) ++ (whole ++ (fraction ++ exponent)))
  | string {raw : List UInt8} {chars : List Char} (quoted : Quoted raw chars) :
      Value (quote :: raw ++ [quote])
  | array (elements : List Padded) (closing : List UInt8) (space : Space closing)
      (spaced : ∀ element ∈ elements, element.Spaced) (values : ∀ element ∈ elements, Value element.text) :
      Value (openBracket :: (writeItems Padded.bytes elements ++ closing ++ [closeBracket]))
  | object (members : List Member) (closing : List UInt8) (space : Space closing)
      (spaced : ∀ member ∈ members, member.Spaced)
      (keys : ∀ member ∈ members, ∃ name, member.Named name)
      (values : ∀ member ∈ members, Value member.value.text) :
      Value (openBrace :: (writeItems Member.bytes members ++ closing ++ [closeBrace]))

/-! ### Texts between quotes -/

theorem ascii_encoded {byte : UInt8} (ascii : byte.toNat < 128) :
    [byte] = String.utf8EncodeChar (Char.ofNat byte.toNat) := by
  have all : ∀ code < 128, String.utf8EncodeChar (Char.ofNat code) = [UInt8.ofNat code] := by decide
  rw [all byte.toNat ascii,UInt8.ofNat_toNat]

theorem hexValue_ascii {byte : UInt8} {value : Nat} (digit : hexValue byte = some value) :
    byte.toNat < 128 ∧ byte ≠ quote ∧ byte ≠ backslash := by
  have quoteCode : quote.toNat = 34 := rfl
  have backslashCode : backslash.toNat = 92 := rfl
  simp only [hexValue] at digit
  refine ⟨?_,?_,?_⟩
  · split_ifs at digit <;> omega
  · rintro rfl
    rw [quoteCode] at digit
    simp at digit
  · rintro rfl
    rw [backslashCode] at digit
    simp at digit

theorem codeUnit_digits {a b c d : UInt8} {value : Nat} (unit : codeUnit a b c d = some value) :
    ∀ byte ∈ [a,b,c,d], byte.toNat < 128 ∧ byte ≠ quote ∧ byte ≠ backslash := by
  simp only [codeUnit,Option.bind_eq_bind,Option.bind_eq_some_iff] at unit
  obtain ⟨_,first,_,second,_,third,_,fourth,-⟩ := unit
  intro byte member
  simp only [List.mem_cons,List.not_mem_nil,or_false] at member
  rcases member with rfl | rfl | rfl | rfl
  · exact hexValue_ascii first
  · exact hexValue_ascii second
  · exact hexValue_ascii third
  · exact hexValue_ascii fourth

theorem shortEscape_ascii {letter : UInt8} {char : Char} (known : (letter,char) ∈ shortEscapes) :
    letter.toNat < 128 := by
  have all : shortEscapes.all (fun (letter,_) => letter.toNat < 128) = true := by decide
  exact of_decide_eq_true (List.all_eq_true.mp all _ known)

/-- ASCII bytes are the encoding of a text. -/
theorem ascii_text {bytes : List UInt8} (ascii : ∀ byte ∈ bytes, byte.toNat < 128) :
    ∃ chars : List Char, bytes = chars.flatMap String.utf8EncodeChar := by
  induction bytes with
  | nil => exact ⟨[],rfl⟩
  | cons byte bytes ih =>
    obtain ⟨first,others⟩ := List.forall_mem_cons.mp ascii
    obtain ⟨chars,rfl⟩ := ih others
    refine ⟨Char.ofNat byte.toNat :: chars,?_⟩
    rw [List.flatMap_cons,← ascii_encoded first]
    rfl

/-- What stands for a character is itself a text. -/
theorem Spells.text {bytes : List UInt8} {char : Char} (spells : Spells bytes char) :
    ∃ chars : List Char, bytes = chars.flatMap String.utf8EncodeChar := by
  have slash : backslash.toNat < 128 := by decide
  have letter : (117 : UInt8).toNat < 128 := by decide
  cases spells with
  | plain => exact ⟨[char],by simp⟩
  | short letter _ known =>
    have ascii := shortEscape_ascii known
    exact ascii_text (by simp [slash,ascii])
  | unicode a b c d _ unit =>
    have digits := codeUnit_digits unit
    exact ascii_text (by simp_all)
  | surrogates a b c d a' b' c' d' _ _ _ first second =>
    have high := codeUnit_digits first
    have low := codeUnit_digits second
    exact ascii_text (by simp_all)

theorem Quoted.text {raw : List UInt8} {chars : List Char} (quoted : Quoted raw chars) :
    ∃ text, Utf8.decode raw = some text := by
  have encoded : ∃ chars : List Char, raw = chars.flatMap String.utf8EncodeChar := by
    induction quoted with
    | nil => exact ⟨[],rfl⟩
    | cons spells more ih =>
      obtain ⟨first,rfl⟩ := spells.text
      obtain ⟨rest,rfl⟩ := ih
      exact ⟨first ++ rest,by rw [List.flatMap_append]⟩
  obtain ⟨chars,rfl⟩ := encoded
  exact ⟨String.ofList chars,Utf8.decode_eq_some.mpr (Utf8.bytes_ofList chars)⟩

/-- The bytes for one character are passed over in front of the closing quote. -/
theorem Spells.readRaw {bytes : List UInt8} {char : Char} (spells : Spells bytes char) (rest : List UInt8) :
    readRaw false (bytes ++ rest) = (readRaw false rest).map fun (raw,left) => (bytes ++ raw,left) := by
  have escaped (byte : UInt8) (rest : List UInt8) : Json.readRaw false (backslash :: byte :: rest) =
      (Json.readRaw false rest).map fun (raw,left) => (backslash :: byte :: raw,left) := by
    have first : backslash ≠ quote := by decide
    simp [Json.readRaw,first,Option.map_map]
    rfl
  have digits {a b c d : UInt8} {value : Nat} (unit : codeUnit a b c d = some value) (rest : List UInt8) :
      Json.readRaw false ([backslash,117,a,b,c,d] ++ rest) =
        (Json.readRaw false rest).map fun (raw,left) => ([backslash,117,a,b,c,d] ++ raw,left) := by
    have ordinary := readRaw_ordinary [a,b,c,d] rest fun byte member => (codeUnit_digits unit byte member).2
    have front := escaped 117 ([a,b,c,d] ++ rest)
    rw [ordinary,Option.map_map] at front
    simpa [Function.comp_def] using front
  cases spells with
  | plain _ notQuote notBackslash =>
    apply readRaw_ordinary
    intro byte member
    constructor
    · rintro rfl
      exact notQuote (Char.toNat_inj.mp (mem_utf8EncodeChar member (by decide)).symm)
    · rintro rfl
      exact notBackslash (Char.toNat_inj.mp (mem_utf8EncodeChar member (by decide)).symm)
  | short letter => exact escaped letter rest
  | unicode a b c d _ unit => exact digits unit rest
  | surrogates a b c d a' b' c' d' _ _ _ first second =>
    have front := digits first ([backslash,117,a',b',c',d'] ++ rest)
    rw [digits second,Option.map_map] at front
    simpa [Function.comp_def] using front

theorem Quoted.readRaw {raw : List UInt8} {chars : List Char} (quoted : Quoted raw chars) (rest : List UInt8) :
    readRaw false (raw ++ quote :: rest) = some (raw,rest) := by
  induction quoted with
  | nil => simp [Json.readRaw]
  | cons spells more ih =>
    rw [List.append_assoc,spells.readRaw,ih]
    rfl

/-- Without a backslash the bytes are those of the text. -/
theorem Quoted.plain {raw : List UInt8} {chars : List Char} (quoted : Quoted raw chars)
    (unescaped : backslash ∉ raw) : raw = chars.flatMap String.utf8EncodeChar := by
  induction quoted with
  | nil => rfl
  | cons spells more ih =>
    simp only [List.mem_append,not_or] at unescaped
    rw [List.flatMap_cons,← ih unescaped.2]
    cases spells with
    | plain => rfl
    | short => simp at unescaped
    | unicode => simp at unescaped
    | surrogates => simp at unescaped

/-- A plain text spells itself. -/
theorem quoted_plain {text : String} (plain : Plain text) : Quoted (Utf8.bytes text) text.toList := by
  have spelled {char : Char} (same : escapeChar char = [char]) : Spells (String.utf8EncodeChar char) char := by
    rcases escapeChar_cases char with ⟨-,notQuote,notBackslash⟩ | long
    · refine .plain char notQuote notBackslash (Nat.le_of_not_lt fun control => ?_)
      have escaped := congrArg List.length same
      unfold escapeChar at escaped
      split_ifs at escaped
      all_goals simp at escaped
    · rw [same] at long
      simp at long
  have each (chars : List Char) (same : ∀ char ∈ chars, escapeChar char = [char]) :
      Quoted (chars.flatMap String.utf8EncodeChar) chars := by
    induction chars with
    | nil => exact .nil
    | cons char chars ih =>
      obtain ⟨first,others⟩ := List.forall_mem_cons.mp same
      exact .cons (spelled first) (ih others)
  rw [Utf8.bytes_toList]
  exact each text.toList plain

end UchiPulse.Json
