import UchiPulse.Lib.Lines

/-! Texts as a second writer escapes them: like the first one, but with hexadecimal
digits in lower case. -/
namespace UchiPulse.Json

def compactChar (char : Char) : List Char :=
  if (escapeChar char).length = 6 then
    ['\\','u','0','0',hexDigit (char.toNat / 16),hexDigit (char.toNat % 16)]
  else escapeChar char
where
  /-- Lower-case digits. -/
  hexDigit (value : Nat) : Char :=
    if value < 10 then Char.ofNat (48 + value) else Char.ofNat (87 + value)

def compact (text : String) : String := String.ofList (text.toList.flatMap compactChar)

def compactText (text : String) : List UInt8 := quote :: Utf8.bytes (compact text) ++ [quote]

theorem escapeChar_control {char : Char} (long : (escapeChar char).length = 6) : char.toNat < 32 := by
  unfold escapeChar at long
  split_ifs at long with h₁ h₂ h₃ h₄ h₅ h₆ h₇ h₈
  all_goals first | exact h₇ | simp at long

theorem compactChar_free (char : Char) : ∀ found ∈ compactChar char, found.toNat ≠ 10 := by
  have hex : ∀ value < 16, (compactChar.hexDigit value).toNat ≠ 10 := by decide
  have front : List.all ['\\','u','0','0'] (fun found => found.toNat ≠ 10) = true := by decide
  unfold compactChar
  split_ifs with long
  · have control := escapeChar_control long
    intro found member
    rcases List.mem_append.mp (show found ∈ ['\\','u','0','0'] ++ _ from member) with fixed | digit
    · exact of_decide_eq_true (List.all_eq_true.mp front found fixed)
    · simp only [List.mem_cons,List.not_mem_nil,or_false] at digit
      rcases digit with rfl | rfl
      · exact hex _ (by omega)
      · exact hex _ (by omega)
  · exact escapeChar_free char

theorem compactText_oneLine (text : String) : OneLine (compactText text) := by
  have inside : OneLine (Utf8.bytes (compact text)) := by
    rw [compact,Utf8.bytes_ofList]
    refine oneLine_chars fun found member => ?_
    obtain ⟨char,-,escaped⟩ := List.mem_flatMap.mp member
    exact compactChar_free char found escaped
  have quotes : OneLine [quote] := by decide
  exact quotes.append (inside.append quotes)

/-- Both writers leave the same texts as they stand. -/
theorem compact_of_plain {text : String} (plain : Plain text) : compact text = text := by
  have same : text.toList.flatMap compactChar = text.toList := by
    rw [List.flatMap_congr fun char member => ?_,List.flatMap_singleton']
    rw [compactChar,plain char member]
    exact if_neg (by simp)
  rw [compact,same,String.ofList_toList]

theorem compactText_of_plain {text : String} (plain : Plain text) : compactText text = writeText text := by
  rw [compactText,writeText,compact_of_plain plain,escape_of_plain plain]

theorem compactChar_length (char : Char) : ((compactChar char).flatMap String.utf8EncodeChar).length ≤
    6 * (String.utf8EncodeChar char).length := by
  have hex : ∀ value < 16, (String.utf8EncodeChar (compactChar.hexDigit value)).length = 1 := by decide
  have positive : 0 < (String.utf8EncodeChar char).length := by
    rw [String.length_utf8EncodeChar]
    exact char.utf8Size_pos
  unfold compactChar
  split_ifs with long
  · have control := escapeChar_control long
    rw [unicode_length (hex (char.toNat / 16) (by omega)) (hex (char.toNat % 16) (by omega))]
    omega
  · exact escapeChar_length char

theorem compactText_length (text : String) : (compactText text).length ≤ 6 * (Utf8.bytes text).length + 2 := by
  have inside := flatMap_length_le compactChar_length text
  simp only [compactText,compact,List.length_append,List.length_cons,List.length_nil]
  omega

end UchiPulse.Json
