import Mathlib.Data.List.Forall2
import UchiPulse.Node.Config

/-! The addresses the node accepts. The standard library reads a byte also behind a plus
sign, so there are addresses that are accepted and are not dotted decimal. -/
namespace UchiPulse.Node

/-! ### The loop on its array -/

inductive Panic where
  | indexOutOfBounds (index : Nat)
deriving DecidableEq

/-- A store that panics outside the array. -/
def store (octets : List UInt8) (index : Nat) (octet : UInt8) : Except Panic (List UInt8) :=
  if index < octets.length then .ok (octets.set index octet) else .error (.indexOutOfBounds index)

/-- The loop over the parts, with the array of octets and the number of those stored. -/
def storeParts : List UInt8 → Nat → List (List Char) → Except Panic (Option (List UInt8))
  | octets, count, [] => .ok (if count = 4 then some octets else none)
  | octets, count, part :: parts =>
    if count = 4 ∨ part = [] then .ok none
    else
      match parseByte part with
      | none => .ok none
      | some octet =>
        match store octets count octet with
        | .error panic => .error panic
        | .ok octets => storeParts octets (count + 1) parts

theorem storeParts_eq {octets : List UInt8} {count : Nat} (size : octets.length = 4) (room : count ≤ 4)
    (parts : List (List Char)) :
    storeParts octets count parts = .ok (parseParts (octets.take count) parts) := by
  induction parts generalizing octets count with
  | nil =>
    simp only [storeParts,parseParts,List.length_take,size,Nat.min_eq_left room]
    by_cases full : count = 4
    · rw [if_pos full,if_pos full,List.take_of_length_le (by omega)]
    · rw [if_neg full,if_neg full]
  | cons part parts ih =>
    simp only [storeParts,parseParts,List.length_take,size,Nat.min_eq_left room]
    by_cases stops : count = 4 ∨ part = []
    · rw [if_pos stops,if_pos stops]
    · have inside : count < octets.length := by omega
      rw [if_neg stops,if_neg stops]
      cases parseByte part with
      | none => rfl
      | some octet =>
        have stored : (octets.set count octet).take (count + 1) = octets.take count ++ [octet] := by
          rw [List.take_add_one,List.take_set_of_le (Nat.le_refl count),List.getElem?_set_self inside]
          rfl
        simp only [store,if_pos inside]
        rw [ih (by simpa using size) (by omega),stored]

/-- The array is never left, and the octets come out as they are listed one after the other. -/
theorem storeParts_parseIpv4 (value : String) :
    storeParts [0,0,0,0] 0 (value.toList.splitOn '.') = .ok (parseIpv4 value) :=
  storeParts_eq rfl (Nat.zero_le 4) _

/-! ### One part -/

/-- A run of decimal digits with the value of a byte. -/
structure Decimal (digits : List Char) (octet : UInt8) : Prop where
  nonempty : digits ≠ []
  digit : ∀ char ∈ digits, char.isDigit = true
  value : Nat.ofDigitChars 10 digits 0 = octet.toNat

def dropPlus : List Char → List Char
  | '+' :: digits => digits
  | digits => digits

theorem ofDigitChars_ge (digits : List Char) (start : Nat) : start ≤ Nat.ofDigitChars 10 digits start := by
  induction digits generalizing start with
  | nil => simp
  | cons char digits ih =>
    rw [Nat.ofDigitChars_cons]
    have later := ih (10 * start + (char.toNat - '0'.toNat))
    omega

theorem parseDigits_eq_some {digits : List Char} {start found : Nat} (small : start < UInt8.size) :
    parseDigits start digits = some found ↔
      (∀ char ∈ digits, char.isDigit = true) ∧ Nat.ofDigitChars 10 digits start = found ∧ found < UInt8.size := by
  induction digits generalizing start with
  | nil =>
    simp only [parseDigits,Option.some.injEq,List.not_mem_nil,false_implies,implies_true,true_and,
      Nat.ofDigitChars_nil]
    exact ⟨fun same => ⟨same,same ▸ small⟩,And.left⟩
  | cons char digits ih =>
    have value : Nat.ofDigitChars 10 (char :: digits) start =
        Nat.ofDigitChars 10 digits (10 * start + (char.toNat - 48)) := Nat.ofDigitChars_cons
    simp only [parseDigits,List.forall_mem_cons]
    by_cases digit : char.isDigit = true
    · rw [if_pos digit]
      by_cases fits : 10 * start + (char.toNat - 48) < UInt8.size
      · rw [if_pos fits,ih fits,value]
        simp only [digit,true_and]
      · have later := ofDigitChars_ge digits (10 * start + (char.toNat - 48))
        rw [if_neg fits,value]
        simp only [reduceCtorEq,false_iff]
        rintro ⟨-,rfl,bound⟩
        omega
    · rw [if_neg digit]
      simp [digit]

theorem parseByte_eq_some {part : List Char} {octet : UInt8} :
    parseByte part = some octet ↔ Decimal (dropPlus part) octet := by
  have digits {digits : List Char} (nonempty : digits ≠ []) :
      (parseDigits 0 digits).map UInt8.ofNat = some octet ↔ Decimal digits octet := by
    rw [Option.map_eq_some_iff]
    constructor
    · rintro ⟨found,parsed,rfl⟩
      obtain ⟨digit,value,fits⟩ := (parseDigits_eq_some (by decide)).mp parsed
      refine ⟨nonempty,digit,?_⟩
      rw [value,UInt8.toNat_ofNat_of_lt' fits]
    · rintro ⟨-,digit,value⟩
      exact ⟨octet.toNat,(parseDigits_eq_some (by decide)).mpr ⟨digit,value,octet.toNat_lt⟩,UInt8.ofNat_toNat⟩
  unfold parseByte
  split
  next =>
    simp only [dropPlus,reduceCtorEq,false_iff]
    exact fun decimal => decimal.nonempty rfl
  next =>
    simp only [dropPlus,reduceCtorEq,false_iff]
    exact fun decimal => decimal.nonempty rfl
  next rest other => exact digits fun empty => other (by rw [empty])
  next notEmpty notSign notPlus =>
    have same : dropPlus part = part := by
      unfold dropPlus
      split
      next rest => exact absurd rfl (notPlus rest)
      next => rfl
    rw [same]
    exact digits notEmpty

/-! ### The whole address -/

/-- Four parts between single dots. -/
def Parts (value : String) (parts : List (List Char)) : Prop :=
  value.toList = ['.'].intercalate parts ∧ parts.length = 4

/-- Dotted decimal. -/
def Dotted (value : String) (octets : List UInt8) : Prop :=
  ∃ parts, Parts value parts ∧ List.Forall₂ Decimal parts octets

/-- An address with a plus sign in front of some of its parts. -/
def Signed (value : String) : Prop :=
  ∃ parts octets, Parts value parts ∧ List.Forall₂ (fun part octet => Decimal (dropPlus part) octet) parts octets ∧
    ∃ part ∈ parts, part.head? = some '+'

theorem parseParts_eq_some {octets found : List UInt8} {parts : List (List Char)} :
    parseParts octets parts = some found ↔ ∃ rest, found = octets ++ rest ∧ found.length = 4 ∧
      List.Forall₂ (fun part octet => Decimal (dropPlus part) octet) parts rest := by
  induction parts generalizing octets with
  | nil =>
    simp only [parseParts,List.forall₂_nil_left_iff]
    by_cases full : octets.length = 4
    · rw [if_pos full]
      constructor
      · rintro ⟨⟩
        exact ⟨[],by simp,full,rfl⟩
      · rintro ⟨rest,rfl,-,rfl⟩
        simp
    · rw [if_neg full]
      simp only [reduceCtorEq,false_iff]
      rintro ⟨rest,rfl,size,rfl⟩
      exact full (by simpa using size)
  | cons part parts ih =>
    simp only [parseParts,List.forall₂_cons_left_iff]
    by_cases stops : octets.length = 4 ∨ part = []
    · rw [if_pos stops]
      simp only [reduceCtorEq,false_iff]
      rintro ⟨-,rfl,size,octet,rest,decimal,-,rfl⟩
      rcases stops with full | empty
      · simp only [List.length_append,List.length_cons] at size
        omega
      · rw [empty] at decimal
        exact decimal.nonempty rfl
    · rw [if_neg stops]
      cases read : parseByte part with
      | none =>
        simp only [reduceCtorEq,false_iff]
        rintro ⟨-,-,-,octet,-,decimal,-⟩
        rw [parseByte_eq_some.mpr decimal] at read
        cases read
      | some octet =>
        simp only
        rw [ih]
        constructor
        · rintro ⟨rest,rfl,size,all⟩
          exact ⟨octet :: rest,by simp,size,octet,rest,parseByte_eq_some.mp read,all,rfl⟩
        · rintro ⟨-,rfl,size,first,rest,decimal,all,rfl⟩
          rw [parseByte_eq_some.mpr decimal,Option.some.injEq] at read
          exact ⟨rest,by simp [read],size,all⟩

theorem noDot_of_decimal {part : List Char} {octet : UInt8} (decimal : Decimal (dropPlus part) octet) :
    '.' ∉ part := by
  intro dot
  have among : '.' ∈ dropPlus part := by
    unfold dropPlus
    split
    next => simpa using dot
    next => exact dot
  exact absurd (decimal.digit _ among) (by decide)

theorem forall₂_left {α β : Type} {holds : α → β → Prop} {front : List α} {back : List β}
    (all : List.Forall₂ holds front back) {item : α} (listed : item ∈ front) : ∃ other, holds item other := by
  induction all with
  | nil => cases listed
  | cons here later ih =>
    rcases List.mem_cons.mp listed with rfl | among
    · exact ⟨_,here⟩
    · exact ih among

/-- The parts are where the text is split. -/
theorem splitOn_parts {value : String} {parts : List (List Char)} {octets : List UInt8} (spelled : Parts value parts)
    (all : List.Forall₂ (fun part octet => Decimal (dropPlus part) octet) parts octets) :
    value.toList.splitOn '.' = parts := by
  have free (part : List Char) (listed : part ∈ parts) : '.' ∉ part := by
    obtain ⟨octet,decimal⟩ := forall₂_left all listed
    exact noDot_of_decimal decimal
  rw [spelled.1]
  apply List.splitOn_intercalate '.' free
  rintro rfl
  cases spelled.2

/-- What is accepted: four parts, each of them a byte, perhaps behind a plus sign. -/
theorem parseIpv4_eq_some {value : String} {octets : List UInt8} :
    parseIpv4 value = some octets ↔
      ∃ parts, Parts value parts ∧ List.Forall₂ (fun part octet => Decimal (dropPlus part) octet) parts octets := by
  rw [parseIpv4,parseParts_eq_some]
  constructor
  · rintro ⟨rest,rfl,size,all⟩
    exact ⟨_,⟨(List.intercalate_splitOn '.').symm,all.length_eq.trans size⟩,all⟩
  · rintro ⟨parts,spelled,all⟩
    refine ⟨octets,rfl,all.length_eq.symm.trans spelled.2,?_⟩
    rw [splitOn_parts spelled all]
    exact all

theorem dropPlus_unsigned {part : List Char} (unsigned : part.head? ≠ some '+') : dropPlus part = part := by
  unfold dropPlus
  split
  next => exact absurd rfl unsigned
  next => rfl

theorem Decimal.unsigned {part : List Char} {octet : UInt8} (decimal : Decimal part octet) :
    part.head? ≠ some '+' := by
  intro signed
  exact absurd (decimal.digit '+' (List.mem_of_mem_head? signed)) (by decide)

theorem Dotted.accepted {value : String} {octets : List UInt8} (dotted : Dotted value octets) :
    parseIpv4 value = some octets := by
  obtain ⟨parts,spelled,all⟩ := dotted
  refine parseIpv4_eq_some.mpr ⟨parts,spelled,all.imp fun part octet decimal => ?_⟩
  rw [dropPlus_unsigned decimal.unsigned]
  exact decimal

theorem dotted_of_unsigned {value : String} {octets : List UInt8} (unsigned : ¬ Signed value)
    (accepted : parseIpv4 value = some octets) : Dotted value octets := by
  obtain ⟨parts,spelled,all⟩ := parseIpv4_eq_some.mp accepted
  have plain (part : List Char) (listed : part ∈ parts) : dropPlus part = part := by
    apply dropPlus_unsigned
    intro signed
    exact unsigned ⟨parts,octets,spelled,all,part,listed,signed⟩
  have same : parts.map dropPlus = parts := by
    conv_rhs => rw [← List.map_id parts]
    exact List.map_congr_left plain
  refine ⟨parts,spelled,?_⟩
  rw [← same,List.forall₂_map_left_iff]
  exact all

/-- A signed address is accepted although it is not dotted decimal. -/
theorem Signed.accepted {value : String} (signed : Signed value) :
    ∃ octets, parseIpv4 value = some octets ∧ ¬ Dotted value octets := by
  obtain ⟨parts,octets,spelled,all,part,listed,plus⟩ := signed
  refine ⟨octets,parseIpv4_eq_some.mpr ⟨parts,spelled,all⟩,?_⟩
  rintro ⟨others,spelled',decimals⟩
  have unsigned : List.Forall₂ (fun part octet => Decimal (dropPlus part) octet) others octets :=
    decimals.imp fun part octet decimal => by rwa [dropPlus_unsigned decimal.unsigned]
  have same : others = parts := (splitOn_parts spelled' unsigned).symm.trans (splitOn_parts spelled all)
  rw [same] at decimals
  obtain ⟨octet,decimal⟩ := forall₂_left decimals listed
  exact decimal.unsigned plus

/-- The store stays inside the array for every text. The addresses accepted are those in
dotted decimal, unless the text is one with a plus sign. -/
theorem parseIpv4_dotted_iff (value : String) :
    storeParts [0,0,0,0] 0 (value.toList.splitOn '.') = .ok (parseIpv4 value) ∧
      ((∀ octets, parseIpv4 value = some octets ↔ Dotted value octets) ↔ ¬ Signed value) := by
  refine ⟨storeParts_parseIpv4 value,?_⟩
  constructor
  · intro exact' signed
    obtain ⟨octets,accepted,notDotted⟩ := signed.accepted
    exact notDotted ((exact' octets).mp accepted)
  · intro unsigned octets
    exact ⟨dotted_of_unsigned unsigned,Dotted.accepted⟩

/-- A plus sign in front of the first octet. -/
theorem signed_address : Signed "+192.168.0.10" := by
  refine ⟨[['+','1','9','2'],['1','6','8'],['0'],['1','0']],[192,168,0,10],⟨by decide,rfl⟩,?_,['+','1','9','2'],by simp,rfl⟩
  exact .cons ⟨by decide,by simp [dropPlus],by decide⟩ <| .cons ⟨by decide,by simp [dropPlus],by decide⟩ <|
    .cons ⟨by decide,by simp [dropPlus],by decide⟩ <| .cons ⟨by decide,by simp [dropPlus],by decide⟩ .nil

theorem signed_address_accepted :
    ¬ ∀ value octets, parseIpv4 value = some octets ↔ Dotted value octets := by
  intro dotted
  obtain ⟨octets,accepted,notDotted⟩ := signed_address.accepted
  exact notDotted ((dotted _ octets).mp accepted)

end UchiPulse.Node
