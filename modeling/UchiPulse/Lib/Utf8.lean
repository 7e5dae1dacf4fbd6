import Mathlib.Data.List.Basic

/-! UTF-8 texts as byte lists. `decode` reads one scalar value at a time with the
core decoder and recurses on the bytes left, so it evaluates on concrete bytes. -/
namespace UchiPulse.Utf8

/-- The bytes of a text, in order. -/
def bytes (text : String) : List UInt8 := text.toByteArray.data.toList

/-- The fuel is a bound on the scalar values still to be read. -/
def decodeChars : Nat → List UInt8 → Option (List Char)
  | _, [] => some []
  | 0, _ :: _ => none
  | fuel + 1, input =>
    match input.toByteArray.utf8DecodeChar? 0 with
    | none => none
    | some char => (decodeChars fuel (input.drop char.utf8Size)).map (char :: ·)

/-- The text whose bytes are exactly the input; `none` when the input is not UTF-8. -/
def decode (input : List UInt8) : Option String :=
  (decodeChars input.length input).map String.ofList

@[simp] theorem bytes_ofList (chars : List Char) :
    bytes (String.ofList chars) = chars.flatMap String.utf8EncodeChar := by
  simp [bytes, List.utf8Encode]

theorem bytes_toList (text : String) : bytes text = text.toList.flatMap String.utf8EncodeChar := by
  rw [← bytes_ofList, String.ofList_toList]

theorem bytes_append (left right : String) : bytes (left ++ right) = bytes left ++ bytes right := by
  rw [bytes_toList, String.toList_append, List.flatMap_append, ← bytes_toList, ← bytes_toList]

theorem bytes_injective {left right : String} (same : bytes left = bytes right) : left = right := by
  apply String.toByteArray_inj.mp
  apply ByteArray.ext
  exact Array.ext' same

theorem decodeChars_encode (chars : List Char) (fuel : Nat)
    (enough : (chars.flatMap String.utf8EncodeChar).length ≤ fuel) :
    decodeChars fuel (chars.flatMap String.utf8EncodeChar) = some chars := by
  induction chars generalizing fuel with
  | nil => cases fuel <;> rfl
  | cons char chars ih =>
    have positive : 0 < char.utf8Size := Char.utf8Size_pos char
    simp only [List.flatMap_cons, List.length_append, String.length_utf8EncodeChar] at enough ⊢
    obtain ⟨fuel, rfl⟩ : ∃ k, fuel = k + 1 := ⟨fuel - 1, by omega⟩
    have head : (String.utf8EncodeChar char ++ chars.flatMap String.utf8EncodeChar).toByteArray.utf8DecodeChar? 0 =
        some char := by
      rw [List.toByteArray_append]
      exact ByteArray.utf8DecodeChar?_utf8EncodeChar_append
    have tail : (String.utf8EncodeChar char ++ chars.flatMap String.utf8EncodeChar).drop char.utf8Size =
        chars.flatMap String.utf8EncodeChar :=
      List.drop_left' (String.length_utf8EncodeChar char)
    obtain ⟨byte, rest, shape⟩ : ∃ byte rest,
        String.utf8EncodeChar char ++ chars.flatMap String.utf8EncodeChar = byte :: rest := by
      cases shape : String.utf8EncodeChar char with
      | nil => exact absurd shape String.utf8EncodeChar_ne_nil
      | cons byte rest => exact ⟨byte, _, rfl⟩
    rw [shape] at head tail ⊢
    simp only [decodeChars, head, tail, ih fuel (by omega), Option.map_some]

theorem encode_of_decodeChars (fuel : Nat) (input : List UInt8) (chars : List Char)
    (decoded : decodeChars fuel input = some chars) : chars.flatMap String.utf8EncodeChar = input := by
  induction fuel generalizing input chars with
  | zero =>
    cases input with
    | nil => cases decoded; rfl
    | cons byte rest => cases decoded
  | succ fuel ih =>
    cases input with
    | nil => cases decoded; rfl
    | cons byte rest =>
      simp only [decodeChars] at decoded
      split at decoded
      · cases decoded
      · next char head =>
        obtain ⟨tail, read, rfl⟩ := Option.map_eq_some_iff.mp decoded
        obtain ⟨left, split⟩ := ByteArray.exists_of_utf8DecodeChar?_eq_some head
        have listSplit : byte :: rest = String.utf8EncodeChar char ++ left.data.toList := by
          have lists := congrArg (fun b : ByteArray => b.data.toList) split
          simpa [List.utf8Encode] using lists
        rw [List.flatMap_cons, ih _ _ read, listSplit,
          List.drop_left' (String.length_utf8EncodeChar char)]

@[simp] theorem decode_bytes (text : String) : decode (bytes text) = some text := by
  unfold decode
  rw [bytes_toList, decodeChars_encode _ _ (Nat.le_refl _), Option.map_some, String.ofList_toList]

/-- Decoding succeeds exactly on the bytes of a text, and returns that text. -/
theorem decode_eq_some {input : List UInt8} {text : String} :
    decode input = some text ↔ bytes text = input := by
  constructor
  · intro decoded
    obtain ⟨chars, read, rfl⟩ := Option.map_eq_some_iff.mp decoded
    rw [bytes_ofList]
    exact encode_of_decodeChars _ _ _ read
  · rintro rfl
    exact decode_bytes text

example : decode [0xe5, 0xae, 0xb6] = some "家" := by decide
example : decode [0xe5, 0xae] = none := by decide

/-! ### Decoding with replacements -/

/-- Which second byte may follow a first byte of a sequence of three or four. -/
def secondOk (first second : UInt8) : Bool :=
  let (low,high) : Nat × Nat :=
    if first = 0xE0 then (0xA0,0xBF)
    else if first = 0xED then (0x80,0x9F)
    else if first = 0xF0 then (0x90,0xBF)
    else if first = 0xF4 then (0x80,0x8F)
    else (0x80,0xBF)
  low ≤ second.toNat && second.toNat ≤ high

/-- How much of a bad start is replaced at once: what could still have been completed. -/
def invalidSize : List UInt8 → Nat
  | first :: second :: rest =>
    if first.toNat < 0xE0 || 0xF4 < first.toNat || !secondOk first second then 1
    else
      match rest with
      | third :: _ => if 0xF0 ≤ first.toNat && 0x80 ≤ third.toNat && third.toNat < 0xC0 then 3 else 2
      | [] => 2
  | _ => 1

def lossyChars : Nat → List UInt8 → List Char
  | _, [] => []
  | 0, _ :: _ => []
  | fuel + 1, input =>
    match input.toByteArray.utf8DecodeChar? 0 with
    | none => '\uFFFD' :: lossyChars fuel (input.drop (invalidSize input))
    | some char => char :: lossyChars fuel (input.drop char.utf8Size)

/-- The text of any bytes, with a replacement character for each bad start. -/
def lossy (input : List UInt8) : String := String.ofList (lossyChars input.length input)

theorem lossyChars_of_decodeChars (fuel : Nat) (input : List UInt8) (chars : List Char)
    (decoded : decodeChars fuel input = some chars) : lossyChars fuel input = chars := by
  induction fuel generalizing input chars with
  | zero =>
    cases input with
    | nil => cases decoded; rfl
    | cons byte rest => cases decoded
  | succ fuel ih =>
    cases input with
    | nil => cases decoded; rfl
    | cons byte rest =>
      simp only [decodeChars] at decoded
      split at decoded
      · cases decoded
      · next char head =>
        obtain ⟨tail, read, rfl⟩ := Option.map_eq_some_iff.mp decoded
        simp only [lossyChars, head, ih _ _ read]

/-- Nothing is replaced in a text. -/
@[simp] theorem lossy_bytes (text : String) : lossy (bytes text) = text := by
  obtain ⟨chars, read, same⟩ := Option.map_eq_some_iff.mp (decode_bytes text)
  rw [lossy, lossyChars_of_decodeChars _ _ _ read, same]

example : lossy [0x61, 0xe5, 0xae, 0x62, 0xff] = "a\uFFFDb\uFFFD" := by decide

end UchiPulse.Utf8
