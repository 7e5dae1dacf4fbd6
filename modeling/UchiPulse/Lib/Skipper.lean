import UchiPulse.Lib.Aligned

/-! A skipper of values. It counts brackets, goes over texts between quotes, and stops in
front of the byte that closes or separates; every value is skipped by it. -/
namespace UchiPulse.Json

/-- The depth of the open brackets, whether inside a text, and whether behind a backslash. -/
def scan : Nat → Bool → Bool → List UInt8 → Option (List UInt8)
  | _, _, _, [] => none
  | depth, true, escaped, byte :: rest =>
    if byte = quote ∧ escaped = false then scan depth false false rest
    else scan depth true (byte == backslash && !escaped) rest
  | depth, false, _, byte :: rest =>
    if byte = quote then scan depth true false rest
    else if byte = openBracket ∨ byte = openBrace then scan (depth + 1) false false rest
    else if byte = closeBracket ∨ byte = closeBrace then
      if depth = 0 then some (byte :: rest) else scan (depth - 1) false false rest
    else if byte = comma ∧ depth = 0 then some (byte :: rest)
    else scan depth false false rest

def skipValue : Reader Unit := fun input => (scan 0 false false input).map ((),·)

/-- Bytes that leave the depth as it is, at any depth. -/
def Passed (bytes : List UInt8) : Prop :=
  ∀ depth rest, scan depth false false (bytes ++ rest) = scan depth false false rest

/-- A byte without a meaning to the scanner. -/
def Idle (byte : UInt8) : Prop :=
  byte ≠ quote ∧ byte ≠ openBracket ∧ byte ≠ openBrace ∧ byte ≠ closeBracket ∧ byte ≠ closeBrace ∧ byte ≠ comma

instance (byte : UInt8) : Decidable (Idle byte) := by unfold Idle; infer_instance

theorem passed_idle {bytes : List UInt8} (idle : ∀ byte ∈ bytes, Idle byte) : Passed bytes := by
  intro depth rest
  induction bytes with
  | nil => rfl
  | cons byte bytes ih =>
    obtain ⟨⟨first,second,third,fourth,fifth,sixth⟩,others⟩ := List.forall_mem_cons.mp idle
    rw [List.cons_append,scan]
    simp only [first,second,third,fourth,fifth,sixth,or_self,false_and,if_false]
    exact ih others

theorem passed_all {bytes : List UInt8} (idle : bytes.all (fun byte => decide (Idle byte)) = true) : Passed bytes :=
  passed_idle fun byte listed => of_decide_eq_true (List.all_eq_true.mp idle byte listed)

theorem Passed.append {front back : List UInt8} (first : Passed front) (second : Passed back) :
    Passed (front ++ back) := by
  intro depth rest
  rw [List.append_assoc,first,second]

theorem passed_space {bytes : List UInt8} (space : Space bytes) : Passed bytes := by
  apply passed_idle
  intro byte member
  have spaced := space byte member
  simp only [isSpace,Bool.or_eq_true,beq_iff_eq] at spaced
  rcases spaced with ((rfl | rfl) | rfl) | rfl <;> decide

/-- Inside a text the scanner follows the reader of texts. -/
theorem scan_text {escaped : Bool} {input raw left : List UInt8} (read : readRaw escaped input = some (raw,left))
    (depth : Nat) : scan depth true escaped input = scan depth false false left := by
  induction input generalizing escaped raw with
  | nil => cases read
  | cons byte input ih =>
    simp only [readRaw] at read
    rw [scan]
    split at read
    next ends =>
      rw [if_pos ends]
      cases read
      rfl
    next goes =>
      rw [if_neg goes]
      obtain ⟨⟨raw,left'⟩,inner,same⟩ := Option.map_eq_some_iff.mp read
      cases same
      exact ih inner

theorem passed_quoted {raw : List UInt8} {chars : List Char} (quoted : Quoted raw chars) :
    Passed (quote :: raw ++ [quote]) := by
  intro depth rest
  have shape : quote :: raw ++ [quote] ++ rest = quote :: (raw ++ quote :: rest) := by simp
  rw [shape,scan,if_pos rfl]
  exact scan_text (quoted.readRaw rest) depth

theorem idle_digit {byte : UInt8} (digit : isDigit byte = true) : Idle byte := of_digit (by decide) digit

theorem passed_number {negative : Bool} {whole fraction exponent : List UInt8} (first : Whole whole)
    (second : Fraction fraction) (third : Exponent exponent) :
    Passed ((if negative then [45] else []) ++ (whole ++ (fraction ++ exponent))) := by
  have digits {text : List UInt8} (all : ∀ byte ∈ text, isDigit byte = true) : Passed text :=
    passed_idle fun byte member => idle_digit (all byte member)
  have single {byte : UInt8} (idle : Idle byte) : Passed [byte] := passed_idle (by simpa using idle)
  refine .append ?_ (.append ?_ (.append ?_ ?_))
  · cases negative
    · exact fun _ _ => rfl
    · exact single (by decide)
  · rcases first with rfl | ⟨⟨-,all⟩,-⟩
    · exact single (by decide)
    · exact digits all
  · rcases second with rfl | ⟨decimals,⟨-,all⟩,rfl⟩
    · exact fun _ _ => rfl
    · exact (single (by decide)).append (digits all)
  · rcases third with rfl | ⟨letter,sign,decimals,letters,signs,⟨-,all⟩,rfl⟩
    · exact fun _ _ => rfl
    · have signPassed : Passed sign := by
        simp only [List.mem_cons,List.not_mem_nil,or_false] at signs
        rcases signs with rfl | rfl | rfl
        · exact fun _ _ => rfl
        · exact single (by decide)
        · exact single (by decide)
      have letterPassed : Passed [letter] := single (by rcases letters with rfl | rfl <;> decide)
      exact letterPassed.append (signPassed.append (digits all))

/-- Below an open bracket the separators pass, too. -/
theorem passed_inside {α : Type} {write : α → List UInt8} {items : List α}
    (passed : ∀ item ∈ items, Passed (write item)) (depth : Nat) (rest : List UInt8) :
    scan (depth + 1) false false (writeItems write items ++ rest) = scan (depth + 1) false false rest := by
  have others (items : List α) (passed : ∀ item ∈ items, Passed (write item)) (rest : List UInt8) :
      scan (depth + 1) false false (writeRest write items ++ rest) = scan (depth + 1) false false rest := by
    induction items with
    | nil => rfl
    | cons item items ih =>
      obtain ⟨first,more⟩ := List.forall_mem_cons.mp passed
      have separates (rest : List UInt8) :
          scan (depth + 1) false false (comma :: rest) = scan (depth + 1) false false rest := by
        simp [scan,comma,quote,openBracket,openBrace,closeBracket,closeBrace]
      rw [writeRest_cons,List.cons_append,separates,List.append_assoc,first,ih more]
  cases items with
  | nil => rfl
  | cons item items =>
    obtain ⟨first,more⟩ := List.forall_mem_cons.mp passed
    rw [writeItems,List.append_assoc,first,others items more]

theorem passed_bracketed {inside : List UInt8} {opening closing : UInt8}
    (begins : opening = openBracket ∨ opening = openBrace) (ends : closing = closeBracket ∨ closing = closeBrace)
    (passes : ∀ depth rest, scan (depth + 1) false false (inside ++ rest) = scan (depth + 1) false false rest) :
    Passed (opening :: (inside ++ [closing])) := by
  intro depth rest
  have notQuote : opening ≠ quote := by rcases begins with rfl | rfl <;> decide
  have closes (rest : List UInt8) :
      scan (depth + 1) false false (closing :: rest) = scan depth false false rest := by
    rcases ends with rfl | rfl <;> simp [scan,quote,openBracket,openBrace,closeBracket,closeBrace]
  rw [List.cons_append,scan,if_neg notQuote,if_pos begins,List.append_assoc,passes,List.singleton_append,closes]

theorem Value.passed {text : List UInt8} (value : Value text) : Passed text := by
  induction value with
  | null => exact passed_all (by decide)
  | bool value => cases value <;> exact passed_all (by decide)
  | number negative first second third => exact passed_number first second third
  | string quoted => exact passed_quoted quoted
  | array elements closing space spaced values ih =>
    refine passed_bracketed (.inl rfl) (.inl rfl) fun depth rest => ?_
    rw [List.append_assoc,passed_inside,passed_space space]
    exact fun element listed => ((passed_space (spaced element listed).1).append (ih element listed)).append
      (passed_space (spaced element listed).2)
  | object members closing space spaced keys values ih =>
    refine passed_bracketed (.inr rfl) (.inr rfl) fun depth rest => ?_
    rw [List.append_assoc,passed_inside,passed_space space]
    intro member listed
    obtain ⟨beforeSpace,betweenSpace,valueSpaced⟩ := spaced member listed
    obtain ⟨name,named⟩ := keys member listed
    have colonPassed : Passed [colon] := passed_all (by decide)
    have valuePassed := ((passed_space valueSpaced.1).append (ih member listed)).append (passed_space valueSpaced.2)
    have whole := (passed_space beforeSpace).append ((passed_quoted named).append
      ((passed_space betweenSpace).append (colonPassed.append valuePassed)))
    simpa [Member.bytes,Padded.bytes] using whole

/-- Every value is skipped, whatever its shape. -/
theorem skipValue_skips : Skips skipValue := by
  intro text value before rest space closes
  obtain ⟨byte,tail,front,closing⟩ := closes
  have stops : scan 0 false false (byte :: tail) = some (byte :: tail) := by
    rcases closing with rfl | rfl | rfl <;>
      simp [scan,quote,comma,openBracket,openBrace,closeBracket,closeBrace]
  have solid : isSpace byte = false := by rcases closing with rfl | rfl | rfl <;> decide
  have skipped : scan 0 false false rest = some (byte :: tail) := by
    have split : rest = rest.takeWhile isSpace ++ (byte :: tail) := by
      rw [← front,skipSpace,List.takeWhile_append_dropWhile]
    have spaces : Space (rest.takeWhile isSpace) := fun byte member =>
      List.all_eq_true.mp List.all_takeWhile byte member
    rw [split,passed_space spaces,stops]
  refine ⟨byte :: tail,?_,?_⟩
  · rw [skipValue,passed_space space,value.passed,skipped]
    rfl
  · rw [front,skipSpace_cons _ solid]

end UchiPulse.Json
