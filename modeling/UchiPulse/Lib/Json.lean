import Mathlib.Data.List.Basic
import Mathlib.Data.Option.Basic
import UchiPulse.Lib.Utf8

/-! JSON texts as a small embedded serializer reads and writes them. The writer
escapes quotes, backslashes and control characters; the type-directed reader stores
the bytes between the quotes as they stand, without unescaping, up to a capacity. -/
namespace UchiPulse.Json

/-- A text owned in a buffer of `n` bytes. -/
structure Text (n : Nat) where
  val : String
  fits : (Utf8.bytes val).length ≤ n
deriving DecidableEq

/-- A list owned in a buffer of `n` elements. -/
structure Vec (α : Type) (n : Nat) where
  items : List α
  fits : items.length ≤ n
deriving DecidableEq

@[ext] theorem Text.ext {n : Nat} {left right : Text n} (same : left.val = right.val) : left = right := by
  cases left; cases right; cases same; rfl

@[ext] theorem Vec.ext {α : Type} {n : Nat} {left right : Vec α n} (same : left.items = right.items) :
    left = right := by
  cases left; cases right; cases same; rfl

def Text.ofString? (n : Nat) (text : String) : Option (Text n) :=
  if fits : (Utf8.bytes text).length ≤ n then some ⟨text,fits⟩ else none

def Vec.ofList? {α : Type} (n : Nat) (items : List α) : Option (Vec α n) :=
  if fits : items.length ≤ n then some ⟨items,fits⟩ else none

def Text.empty (n : Nat) : Text n := ⟨"",Nat.zero_le n⟩

theorem Text.ofString?_eq_some {n : Nat} {text : String} {value : Text n} :
    Text.ofString? n text = some value ↔ value.val = text := by
  unfold Text.ofString?
  constructor
  · intro built
    split at built
    · cases built; rfl
    · cases built
  · rintro rfl
    rw [dif_pos value.fits]

theorem Text.ofString?_eq_none {n : Nat} {text : String} :
    Text.ofString? n text = none ↔ n < (Utf8.bytes text).length := by
  unfold Text.ofString?
  split
  next fits => simp only [reduceCtorEq, false_iff]; omega
  next long => simp only [true_iff]; omega

@[simp] theorem Vec.ofList?_items {α : Type} {n : Nat} (value : Vec α n) :
    Vec.ofList? n value.items = some value := by
  simp [Vec.ofList?,value.fits]

/-! ### Bytes with a meaning -/

def quote : UInt8 := 34
def backslash : UInt8 := 92
def comma : UInt8 := 44
def colon : UInt8 := 58
def openBrace : UInt8 := 123
def closeBrace : UInt8 := 125
def openBracket : UInt8 := 91
def closeBracket : UInt8 := 93
def lineFeed : UInt8 := 10

def isDigit (byte : UInt8) : Bool := 48 ≤ byte && byte ≤ 57
def isSpace (byte : UInt8) : Bool := byte == 32 || byte == 10 || byte == 9 || byte == 13

/-- What the writer puts in place of one character of a text. -/
def escapeChar (char : Char) : List Char :=
  if char = '\\' then ['\\','\\']
  else if char.toNat = 8 then ['\\','b']
  else if char.toNat = 9 then ['\\','t']
  else if char.toNat = 10 then ['\\','n']
  else if char.toNat = 12 then ['\\','f']
  else if char.toNat = 13 then ['\\','r']
  else if char.toNat < 32 then
    ['\\','u','0','0',hexDigit (char.toNat / 16),hexDigit (char.toNat % 16)]
  else if char = '"' then ['\\','"']
  else [char]
where
  /-- Upper-case digits. -/
  hexDigit (value : Nat) : Char :=
    if value < 10 then Char.ofNat (48 + value) else Char.ofNat (55 + value)

/-- The text found between the quotes once `text` has been written. -/
def escape (text : String) : String := String.ofList (text.toList.flatMap escapeChar)

/-- No character of the text needs an escape. -/
def Plain (text : String) : Prop := ∀ char ∈ text.toList, escapeChar char = [char]

instance (text : String) : Decidable (Plain text) := List.decidableBAll _ text.toList

def writeText (text : String) : List UInt8 := quote :: Utf8.bytes (escape text) ++ [quote]

def writeNat (value : Nat) : List UInt8 := Utf8.bytes (Nat.repr value)

/-- A character that needs no escape is neither a quote nor a backslash. -/
theorem escapeChar_cases (char : Char) :
    (escapeChar char = [char] ∧ char ≠ '"' ∧ char ≠ '\\') ∨ 2 ≤ (escapeChar char).length := by
  unfold escapeChar
  split_ifs with h₁ h₂ h₃ h₄ h₅ h₆ h₇ h₈
  case neg => exact .inl ⟨rfl,h₈,h₁⟩
  all_goals exact .inr (by simp)

theorem escapeChar_ne_nil (char : Char) : 1 ≤ (escapeChar char).length := by
  rcases escapeChar_cases char with ⟨same,-⟩ | long
  · simp [same]
  · omega

theorem length_le_flatMap_escapeChar (chars : List Char) :
    chars.length ≤ (chars.flatMap escapeChar).length := by
  induction chars with
  | nil => simp
  | cons char chars ih =>
    have := escapeChar_ne_nil char
    simp only [List.length_cons,List.flatMap_cons,List.length_append]
    omega

/-- Escaping adds a character as soon as there is one to escape. -/
theorem plain_of_length_le {text : String} (size : (escape text).toList.length ≤ text.toList.length) :
    Plain text := by
  have all (chars : List Char) (size : (chars.flatMap escapeChar).length ≤ chars.length) :
      ∀ char ∈ chars, escapeChar char = [char] := by
    induction chars with
    | nil => simp
    | cons char chars ih =>
      have grows := length_le_flatMap_escapeChar chars
      simp only [List.flatMap_cons,List.length_append,List.length_cons] at size
      rcases escapeChar_cases char with ⟨plain,-⟩ | long
      · rw [plain,List.length_singleton] at size
        exact List.forall_mem_cons.mpr ⟨plain,ih (by omega)⟩
      · omega
  apply all
  rwa [escape,String.toList_ofList] at size

theorem escape_of_plain {text : String} (plain : Plain text) : escape text = text := by
  have same (chars : List Char) (each : ∀ char ∈ chars, escapeChar char = [char]) :
      chars.flatMap escapeChar = chars := by
    induction chars with
    | nil => rfl
    | cons char chars ih =>
      rw [List.flatMap_cons,each char (by simp),ih fun c mem => each c (by simp [mem])]
      rfl
  rw [escape,same _ plain,String.ofList_toList]

theorem escape_eq_self_iff {text : String} : escape text = text ↔ Plain text :=
  ⟨fun same => plain_of_length_le (by simp [same]),escape_of_plain⟩

theorem escapeChar_escapes {char : Char} (escaped : escapeChar char ≠ [char]) :
    '\\' ∈ escapeChar char := by
  unfold escapeChar at escaped ⊢
  split_ifs at escaped ⊢ <;> simp_all

/-- Two hexadecimal digits behind `\u00` take six bytes. -/
theorem unicode_length {high low : Char} (first : (String.utf8EncodeChar high).length = 1)
    (second : (String.utf8EncodeChar low).length = 1) :
    (['\\','u','0','0',high,low].flatMap String.utf8EncodeChar).length = 6 := by
  have front : (['\\','u','0','0'].flatMap String.utf8EncodeChar).length = 4 := by decide
  rw [show ['\\','u','0','0',high,low] = ['\\','u','0','0'] ++ [high,low] from rfl,List.flatMap_append,
    List.length_append,front]
  simp only [List.flatMap_cons,List.flatMap_nil,List.append_nil,List.length_append,first,second]

theorem escapeChar_length (char : Char) : ((escapeChar char).flatMap String.utf8EncodeChar).length ≤
    6 * (String.utf8EncodeChar char).length := by
  have hex : ∀ value < 16, (String.utf8EncodeChar (escapeChar.hexDigit value)).length = 1 := by decide
  have positive : 0 < (String.utf8EncodeChar char).length := by
    rw [String.length_utf8EncodeChar]
    exact char.utf8Size_pos
  have pair (letter : Char) (ascii : (String.utf8EncodeChar letter).length = 1) :
      (['\\',letter].flatMap String.utf8EncodeChar).length ≤ 6 * (String.utf8EncodeChar char).length := by
    have backslash : (String.utf8EncodeChar '\\').length = 1 := by decide
    simp only [List.flatMap_cons,List.flatMap_nil,List.append_nil,List.length_append,backslash,ascii]
    omega
  unfold escapeChar
  split_ifs with h₁ h₂ h₃ h₄ h₅ h₆ h₇ h₈
  · exact pair '\\' (by decide)
  · exact pair 'b' (by decide)
  · exact pair 't' (by decide)
  · exact pair 'n' (by decide)
  · exact pair 'f' (by decide)
  · exact pair 'r' (by decide)
  · rw [unicode_length (hex (char.toNat / 16) (by omega)) (hex (char.toNat % 16) (by omega))]
    omega
  · exact pair '"' (by decide)
  · simp only [List.flatMap_cons,List.flatMap_nil,List.append_nil]
    omega

theorem flatMap_length_le {write : Char → List Char}
    (one : ∀ char, ((write char).flatMap String.utf8EncodeChar).length ≤ 6 * (String.utf8EncodeChar char).length)
    (text : String) :
    (Utf8.bytes (String.ofList (text.toList.flatMap write))).length ≤ 6 * (Utf8.bytes text).length := by
  rw [Utf8.bytes_ofList,Utf8.bytes_toList]
  induction text.toList with
  | nil => simp
  | cons char chars ih =>
    have first := one char
    simp only [List.flatMap_cons,List.flatMap_append,List.length_append] at ih ⊢
    omega

/-- An escape takes at most six bytes. -/
theorem escape_length (text : String) : (Utf8.bytes (escape text)).length ≤ 6 * (Utf8.bytes text).length :=
  flatMap_length_le escapeChar_length text

/-- Nothing that needs an escape becomes plain by it. -/
theorem plain_of_plain_escape {text : String} (plain : Plain (escape text)) : Plain text := by
  intro char member
  by_contra escaped
  have backslash : '\\' ∈ (escape text).toList := by
    rw [escape,String.toList_ofList]
    exact List.mem_flatMap.mpr ⟨char,member,escapeChar_escapes escaped⟩
  exact absurd (plain '\\' backslash) (by decide)

/-- Two escapes do not make up for each other. -/
theorem escape_escape_eq_self_iff {text : String} : escape (escape text) = text ↔ Plain text := by
  constructor
  · intro same
    have grows := length_le_flatMap_escapeChar (escape text).toList
    have size := congrArg (·.toList.length) same
    simp only [escape,String.toList_ofList] at grows size
    apply plain_of_length_le
    simp only [escape,String.toList_ofList]
    omega
  · intro plain
    rw [escape_of_plain plain,escape_of_plain plain]

/-! ### Reading -/

/-- A value read off the front of the input, with the bytes left. -/
abbrev Reader := StateT (List UInt8) Option

def skipSpace (input : List UInt8) : List UInt8 := input.dropWhile isSpace

/-- The bytes up to the closing quote. A quote after an odd number of backslashes
does not close the text; `escaped` is the parity of the backslashes just read. -/
def readRaw : Bool → List UInt8 → Option (List UInt8 × List UInt8)
  | _, [] => none
  | escaped, byte :: rest =>
    if byte = quote ∧ escaped = false then some ([],rest)
    else (readRaw (byte == backslash && !escaped) rest).map fun (raw,left) => (byte :: raw,left)

/-- A text as the reader stores it: the raw bytes, which must be UTF-8. -/
def readString : Reader String := fun input =>
  match skipSpace input with
  | 34 :: rest =>
    match readRaw false rest with
    | some (raw,left) => (Utf8.decode raw).map (·,left)
    | none => none
  | _ => none

def readText (n : Nat) : Reader (Text n) := fun input =>
  match readString input with
  | some (text,left) => (Text.ofString? n text).map (·,left)
  | none => none

theorem mem_utf8EncodeChar {char : Char} {byte : UInt8} (member : byte ∈ String.utf8EncodeChar char)
    (ascii : byte.toNat < 128) : byte.toNat = char.toNat := by
  have same : char.toNat = char.val.toNat := rfl
  simp only [String.utf8EncodeChar] at member
  split_ifs at member
  all_goals simp only [List.mem_cons,List.not_mem_nil,or_false] at member
  · subst member
    simp only [UInt8.toNat_ofNat']
    omega
  · rcases member with rfl | rfl <;> simp only [UInt8.toNat_ofNat'] at ascii <;> omega
  · rcases member with rfl | rfl | rfl <;> simp only [UInt8.toNat_ofNat'] at ascii <;> omega
  · rcases member with rfl | rfl | rfl | rfl <;> simp only [UInt8.toNat_ofNat'] at ascii <;> omega

/-- Bytes without quotes and backslashes are passed over one by one. -/
theorem readRaw_ordinary (ordinary rest : List UInt8)
    (free : ∀ byte ∈ ordinary, byte ≠ quote ∧ byte ≠ backslash) :
    readRaw false (ordinary ++ rest) =
      (readRaw false rest).map fun (raw,left) => (ordinary ++ raw,left) := by
  induction ordinary with
  | nil => simp
  | cons byte ordinary ih =>
    obtain ⟨notQuote,notBackslash⟩ := free byte (by simp)
    have tail := ih fun b mem => free b (by simp [mem])
    simp only [List.cons_append,readRaw,notQuote,false_and,if_false]
    rw [beq_false_of_ne notBackslash,Bool.false_and,tail,Option.map_map]
    rfl

theorem hexDigit_ordinary (value : Nat) (small : value < 16) :
    ∀ byte ∈ String.utf8EncodeChar (escapeChar.hexDigit value), byte ≠ quote ∧ byte ≠ backslash := by
  have all : ∀ value < 16, (String.utf8EncodeChar (escapeChar.hexDigit value)).all
      (fun byte => byte ≠ quote ∧ byte ≠ backslash) = true := by
    decide
  intro byte member
  exact of_decide_eq_true (List.all_eq_true.mp (all value small) byte member)

/-- One character of the text, as written, is read back as the bytes written for it. -/
theorem readRaw_escapeChar (char : Char) (rest : List UInt8) :
    readRaw false ((escapeChar char).flatMap String.utf8EncodeChar ++ rest) =
      (readRaw false rest).map fun (raw,left) =>
        ((escapeChar char).flatMap String.utf8EncodeChar ++ raw,left) := by
  have pair (byte : UInt8) (notBackslash : byte ≠ backslash) (rest : List UInt8) :
      readRaw false (backslash :: byte :: rest) =
        (readRaw false rest).map fun (raw,left) => (backslash :: byte :: raw,left) := by
    have first : backslash ≠ quote := by decide
    simp only [readRaw,first,false_and,if_false,beq_self_eq_true,Bool.not_false,Bool.and_self,
      Bool.true_eq_false,and_false,Bool.not_true,Bool.and_false,Option.map_map]
    rfl
  have double (rest : List UInt8) : readRaw false (backslash :: backslash :: rest) =
        (readRaw false rest).map fun (raw,left) => (backslash :: backslash :: raw,left) := by
    have first : backslash ≠ quote := by decide
    simp only [readRaw,first,false_and,if_false,beq_self_eq_true,Bool.not_false,Bool.and_self,
      Bool.not_true,Bool.and_false,Option.map_map]
    rfl
  unfold escapeChar
  split_ifs with h₁ h₂ h₃ h₄ h₅ h₆ h₇ h₈
  · exact double rest
  · exact pair 98 (by decide) rest
  · exact pair 116 (by decide) rest
  · exact pair 110 (by decide) rest
  · exact pair 102 (by decide) rest
  · exact pair 114 (by decide) rest
  · have digits := readRaw_ordinary
      ([48,48] ++ String.utf8EncodeChar (escapeChar.hexDigit (char.toNat / 16)) ++
        String.utf8EncodeChar (escapeChar.hexDigit (char.toNat % 16))) rest (by
        intro byte member
        simp only [List.mem_append,List.mem_cons,List.not_mem_nil,or_false] at member
        rcases member with ((rfl | rfl) | high) | low
        · decide
        · decide
        · exact hexDigit_ordinary _ (by omega) _ high
        · exact hexDigit_ordinary _ (by omega) _ low)
    have unicode := pair 117 (by decide)
      ([48,48] ++ String.utf8EncodeChar (escapeChar.hexDigit (char.toNat / 16)) ++
        String.utf8EncodeChar (escapeChar.hexDigit (char.toNat % 16)) ++ rest)
    rw [digits,Option.map_map] at unicode
    simpa [String.utf8EncodeChar,backslash,Function.comp_def] using unicode
  · exact pair 34 (by decide) rest
  · apply readRaw_ordinary
    intro byte member
    simp only [List.flatMap_cons,List.flatMap_nil,List.append_nil] at member
    constructor
    · rintro rfl
      have same := mem_utf8EncodeChar member (by decide)
      exact h₈ (Char.toNat_inj.mp same.symm)
    · rintro rfl
      have same := mem_utf8EncodeChar member (by decide)
      exact h₁ (Char.toNat_inj.mp same.symm)

/-- The bytes of an escaped text are found again in front of its closing quote. -/
theorem readRaw_escape (text : String) (rest : List UInt8) :
    readRaw false (Utf8.bytes (escape text) ++ quote :: rest) = some (Utf8.bytes (escape text),rest) := by
  rw [escape,Utf8.bytes_ofList]
  induction text.toList with
  | nil => simp [readRaw]
  | cons char chars ih =>
    simp only [List.flatMap_cons,List.flatMap_append,List.append_assoc]
    rw [readRaw_escapeChar,ih]
    rfl

theorem readString_writeText (text : String) (rest : List UInt8) :
    readString (writeText text ++ rest) = some (escape text,rest) := by
  have shape : writeText text ++ rest = 34 :: (Utf8.bytes (escape text) ++ quote :: rest) := by
    simp [writeText,quote]
  have noSpace : skipSpace (34 :: (Utf8.bytes (escape text) ++ quote :: rest)) =
      34 :: (Utf8.bytes (escape text) ++ quote :: rest) := rfl
  rw [shape]
  simp only [readString,noSpace,readRaw_escape,Utf8.decode_bytes,Option.map_some]

/-- A text and what follows it can be told from the bytes. -/
theorem writeText_append_inj {left right : String} {front back : List UInt8}
    (same : writeText left ++ front = writeText right ++ back) : escape left = escape right ∧ front = back := by
  have texts := congrArg readString same
  rw [readString_writeText,readString_writeText] at texts
  exact Prod.mk.inj (Option.some.inj texts)

theorem readText_writeText (n : Nat) (text : String) (rest : List UInt8) :
    readText n (writeText text ++ rest) = (Text.ofString? n (escape text)).map (·,rest) := by
  simp only [readText,readString_writeText]

/-! ### Numbers -/

/-- Digits after the first. The value stays below `size` or the read fails. -/
def readDigits (size : Nat) : Nat → List UInt8 → Option (Nat × List UInt8)
  | value, [] => some (value,[])
  | value, byte :: rest =>
    if isDigit byte then
      if 10 * value + (byte.toNat - 48) < size then
        readDigits size (10 * value + (byte.toNat - 48)) rest
      else none
    else some (value,byte :: rest)

/-- An unsigned number below `size`. No digit follows a leading zero. -/
def readNat (size : Nat) : Reader Nat := fun input =>
  match skipSpace input with
  | [] => none
  | byte :: rest =>
    if byte = 48 then some (0,rest)
    else if isDigit byte then readDigits size (byte.toNat - 48) rest
    else none

/-- What follows a value ends a number. -/
def Delimited (rest : List UInt8) : Prop := ∀ byte ∈ rest.head?, isDigit byte = false

theorem delimited_nil : Delimited [] := by simp [Delimited]

theorem delimited_cons {byte : UInt8} (rest : List UInt8) (ends : isDigit byte = false) :
    Delimited (byte :: rest) := by
  simpa [Delimited] using ends

theorem digit_byte {char : Char} (digit : char.isDigit = true) :
    String.utf8EncodeChar char = [UInt8.ofNat char.toNat] ∧
      (UInt8.ofNat char.toNat).toNat = char.toNat ∧ isDigit (UInt8.ofNat char.toNat) = true := by
  have range := Char.isDigit_iff_toNat.mp digit
  have low : 48 ≤ char.toNat := range.1
  have high : char.toNat ≤ 57 := range.2
  have toNat : (UInt8.ofNat char.toNat).toNat = char.toNat := by
    simp only [UInt8.toNat_ofNat']
    omega
  refine ⟨?_,toNat,?_⟩
  · have same : char.val.toNat = char.toNat := rfl
    simp only [String.utf8EncodeChar,same]
    rw [if_pos (by omega)]
  · simp only [isDigit,UInt8.le_iff_toNat_le,toNat,Bool.and_eq_true,decide_eq_true_eq]
    exact ⟨low,high⟩

theorem le_ofDigitChars (chars : List Char) (init : Nat) : init ≤ Nat.ofDigitChars 10 chars init := by
  induction chars generalizing init with
  | nil => simp
  | cons char chars ih =>
    rw [Nat.ofDigitChars_cons]
    have := ih (10 * init + (char.toNat - '0'.toNat))
    omega

theorem readDigits_digits (size : Nat) (chars : List Char) (value : Nat) (rest : List UInt8)
    (digits : ∀ char ∈ chars, char.isDigit = true) (small : Nat.ofDigitChars 10 chars value < size)
    (ends : Delimited rest) :
    readDigits size value (chars.flatMap String.utf8EncodeChar ++ rest) =
      some (Nat.ofDigitChars 10 chars value,rest) := by
  induction chars generalizing value with
  | nil =>
    cases rest with
    | nil => rfl
    | cons byte rest =>
      have stop : isDigit byte = false := ends byte rfl
      simp [readDigits,stop]
  | cons char chars ih =>
    obtain ⟨encoded,toNat,isDigit⟩ := digit_byte (digits char (by simp))
    rw [Nat.ofDigitChars_cons] at small ⊢
    have step := le_ofDigitChars chars (10 * value + (char.toNat - '0'.toNat))
    have bound : 10 * value + (char.toNat - 48) < size := Nat.lt_of_le_of_lt step small
    simp only [List.flatMap_cons,encoded,List.cons_append,readDigits,isDigit,
      if_true,toNat,if_pos bound]
    exact ih _ (fun c mem => digits c (by simp [mem])) small

/-- Only zero is written with a leading zero. -/
theorem toDigits_head (value : Nat) : ∃ char chars, Nat.toDigits 10 value = char :: chars ∧
    (char = '0' → value = 0 ∧ chars = []) := by
  induction value using Nat.strongRecOn with
  | _ value ih =>
    rw [Nat.toDigits_eq_if (by decide)]
    split
    next small =>
      refine ⟨_,_,rfl,fun zero => ⟨?_,rfl⟩⟩
      have all : ∀ value < 10, Nat.digitChar value = '0' → value = 0 := by decide
      exact all value small zero
    next large =>
      obtain ⟨char,chars,shape,leading⟩ := ih (value / 10) (by omega)
      refine ⟨char,chars ++ [Nat.digitChar (value % 10)],by rw [shape,List.cons_append],fun zero => ?_⟩
      have := (leading zero).1
      omega

theorem writeNat_eq (value : Nat) :
    writeNat value = (Nat.toDigits 10 value).flatMap String.utf8EncodeChar := by
  rw [writeNat,Nat.repr_eq_ofList_toDigits,Utf8.bytes_ofList]

/-- A number takes a byte for each digit. -/
theorem writeNat_length (value : Nat) : (writeNat value).length = (Nat.toDigits 10 value).length := by
  have bytes (chars : List Char) (digits : ∀ char ∈ chars, char.isDigit = true) :
      (chars.flatMap String.utf8EncodeChar).length = chars.length := by
    induction chars with
    | nil => rfl
    | cons char chars ih =>
      obtain ⟨first,rest⟩ := List.forall_mem_cons.mp digits
      rw [List.flatMap_cons,List.length_append,ih rest,(digit_byte first).1,List.length_singleton,
        List.length_cons,Nat.add_comm]
  rw [writeNat_eq]
  exact bytes _ fun char member => Nat.isDigit_of_mem_toDigits (by decide) (by decide) member

theorem readNat_writeNat (size value : Nat) (rest : List UInt8) (small : value < size)
    (ends : Delimited rest) : readNat size (writeNat value ++ rest) = some (value,rest) := by
  obtain ⟨char,chars,shape,leading⟩ := toDigits_head value
  have digits : ∀ c ∈ char :: chars, c.isDigit = true := fun c member =>
    Nat.isDigit_of_mem_toDigits (by decide) (by decide) (shape ▸ member)
  have read : Nat.ofDigitChars 10 (char :: chars) 0 = value := by
    rw [← shape,Nat.ofDigitChars_ten_toDigits]
  obtain ⟨encoded,toNat,isDigit⟩ := digit_byte (digits char (by simp))
  have noSpace : isSpace (UInt8.ofNat char.toNat) = false := by
    have range := Char.isDigit_iff_toNat.mp (digits char (by simp))
    have low : 48 ≤ char.toNat := range.1
    have differs (k : UInt8) (lt : k.toNat < 48) : UInt8.ofNat char.toNat ≠ k := by
      rintro same
      rw [← same,toNat] at lt
      omega
    simp only [isSpace,beq_false_of_ne (differs 32 (by decide)),beq_false_of_ne (differs 10 (by decide)),
      beq_false_of_ne (differs 9 (by decide)),beq_false_of_ne (differs 13 (by decide)),Bool.or_false]
  rw [writeNat_eq,shape,List.flatMap_cons,encoded,List.append_assoc,List.singleton_append]
  simp only [readNat,skipSpace,List.dropWhile_cons,noSpace,Bool.false_eq_true,if_false]
  split
  next zero =>
    have isZero : char = '0' := by
      apply Char.toNat_inj.mp
      rw [← toNat,zero]
      rfl
    obtain ⟨rfl,rfl⟩ := leading isZero
    rfl
  next =>
    rw [toNat]
    rw [Nat.ofDigitChars_cons,Nat.mul_zero,Nat.zero_add] at read
    change readDigits size (char.toNat - '0'.toNat) _ = _
    rw [readDigits_digits size chars _ rest (fun c mem => digits c (by simp [mem])) (by omega) ends,read]

/-- A number and what follows it can be told from the bytes. -/
theorem writeNat_append_inj {left right : Nat} {front back : List UInt8}
    (same : writeNat left ++ comma :: front = writeNat right ++ comma :: back) : left = right ∧ front = back := by
  have ends (rest : List UInt8) : Delimited (comma :: rest) := delimited_cons rest (by decide)
  have numbers := congrArg (readNat (left + right + 1)) same
  rw [readNat_writeNat _ left _ (by omega) (ends front),readNat_writeNat _ right _ (by omega) (ends back)] at numbers
  obtain ⟨value,rest⟩ := Prod.mk.inj (Option.some.inj numbers)
  exact ⟨value,List.tail_eq_of_cons_eq rest⟩

end UchiPulse.Json
