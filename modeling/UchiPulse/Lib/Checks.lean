import Mathlib.Data.List.Basic
import Mathlib.Data.List.Induction
import Mathlib.Data.List.Nodup

/-! Checks that end in the first error they find. -/
namespace UchiPulse
variable {ε α : Type}

/-- An early return. -/
def failIf (condition : Prop) [Decidable condition] (error : ε) : Except ε Unit :=
  if condition then .error error else .ok ()

theorem failIf_ok {condition : Prop} [Decidable condition] {error : ε} {value : Unit} :
    failIf condition error = .ok value ↔ ¬ condition := by
  unfold failIf
  split <;> simp [*]

theorem then_ok {first second : Except ε Unit} :
    (do first; second) = .ok () ↔ first = .ok () ∧ second = .ok () := by
  cases first with
  | error error => simp [bind,Except.bind]
  | ok value => simp [bind,Except.bind]

theorem bind_ok {β : Type} {first : Except ε α} {next : α → Except ε β} {value : β} :
    first >>= next = .ok value ↔ ∃ middle, first = .ok middle ∧ next middle = .ok value := by
  cases first <;> simp [bind,Except.bind]

/-- One check after the other. -/
theorem forM_ok {items : List α} {check : α → Except ε Unit} :
    items.forM check = .ok () ↔ ∀ item ∈ items, check item = .ok () := by
  induction items with
  | nil => simp [List.forM,pure,Except.pure]
  | cons item items ih =>
    change (do check item; items.forM check) = .ok () ↔ _
    rw [then_ok,ih,List.forall_mem_cons]

theorem mapM_ok {β : Type} {items : List α} {check : α → Except ε β} {result : α → β}
    (all : ∀ item ∈ items, check item = .ok (result item)) : items.mapM check = .ok (items.map result) := by
  induction items with
  | nil => rfl
  | cons item items ih =>
    obtain ⟨first,rest⟩ := List.forall_mem_cons.mp all
    rw [List.mapM_cons,first,ih rest]
    rfl

/-- All succeed when each does. -/
theorem mapM_ok_iff {β : Type} {items : List α} {check : α → Except ε β} :
    (∃ results, items.mapM check = .ok results) ↔ ∀ item ∈ items, ∃ result, check item = .ok result := by
  induction items with
  | nil => exact iff_of_true ⟨[],rfl⟩ fun item member => absurd member List.not_mem_nil
  | cons item items ih =>
    rw [List.forall_mem_cons,← ih,List.mapM_cons]
    constructor
    · rintro ⟨results,ok⟩
      obtain ⟨result,first,ok⟩ := bind_ok.mp ok
      obtain ⟨rest,others,-⟩ := bind_ok.mp ok
      exact ⟨⟨result,first⟩,rest,others⟩
    · rintro ⟨⟨result,first⟩,rest,others⟩
      rw [first,others]
      exact ⟨_,rfl⟩

/-- Each result comes of an item. -/
theorem mapM_mem {β : Type} {items : List α} {check : α → Except ε β} {results : List β}
    (ok : items.mapM check = .ok results) : ∀ result ∈ results, ∃ item ∈ items, check item = .ok result := by
  induction items generalizing results with
  | nil =>
    cases ok
    simp
  | cons item items ih =>
    rw [List.mapM_cons] at ok
    obtain ⟨first,checked,ok⟩ := bind_ok.mp ok
    obtain ⟨rest,others,ok⟩ := bind_ok.mp ok
    cases ok
    refine List.forall_mem_cons.mpr ⟨⟨item,by simp,checked⟩,fun result member => ?_⟩
    obtain ⟨source,among,same⟩ := ih others result member
    exact ⟨source,List.mem_cons_of_mem _ among,same⟩

/-- What each step keeps is kept by all. -/
theorem mapM_map {β γ : Type} {items : List α} {check : α → Except ε β} {results : List β}
    {before : α → γ} {after : β → γ} (ok : items.mapM check = .ok results)
    (keeps : ∀ item result, check item = .ok result → after result = before item) :
    results.map after = items.map before := by
  induction items generalizing results with
  | nil =>
    cases ok
    rfl
  | cons item items ih =>
    rw [List.mapM_cons] at ok
    obtain ⟨result,first,ok⟩ := bind_ok.mp ok
    obtain ⟨rest,others,ok⟩ := bind_ok.mp ok
    cases ok
    rw [List.map_cons,List.map_cons,keeps item result first,ih others]

/-- Collect items into a set, and stop at the first that is there already. -/
def insertAll [DecidableEq α] (error : α → ε) : List α → List α → Except ε (List α)
  | set, [] => .ok set
  | set, item :: items =>
    if item ∈ set then .error (error item) else insertAll error (set ++ [item]) items

theorem insertAll_ok [DecidableEq α] {error : α → ε} {set items result : List α} :
    insertAll error set items = .ok result ↔
      result = set ++ items ∧ items.Nodup ∧ ∀ item ∈ items, item ∉ set := by
  induction items generalizing set with
  | nil => simp [insertAll,eq_comm]
  | cons item items ih =>
    simp only [insertAll]
    split
    next known => simp [known]
    next new =>
      rw [ih,List.append_assoc,List.singleton_append,List.nodup_cons,List.forall_mem_cons]
      constructor
      · rintro ⟨rfl,nodup,fresh⟩
        simp only [List.mem_append,List.mem_singleton,not_or] at fresh
        exact ⟨rfl,⟨fun again => (fresh item again).2 rfl,nodup⟩,new,fun other member => (fresh other member).1⟩
      · rintro ⟨rfl,⟨other,nodup⟩,-,fresh⟩
        refine ⟨rfl,nodup,fun later member => ?_⟩
        simp only [List.mem_append,List.mem_singleton,not_or]
        exact ⟨fresh later member,fun same => other (same ▸ member)⟩

/-- The first item of a list that is there already. -/
theorem exists_repeat {items : List α} (repeats : ¬ items.Nodup) :
    ∃ front item back, items = front ++ item :: back ∧ front.Nodup ∧ item ∈ front := by
  induction items using List.reverseRecOn with
  | nil => exact absurd List.nodup_nil repeats
  | append_singleton items item ih =>
    by_cases nodup : items.Nodup
    · refine ⟨items,item,[],rfl,nodup,?_⟩
      by_contra fresh
      exact repeats (List.nodup_append.mpr ⟨nodup,List.nodup_singleton item,fun other member _ last same =>
        fresh ((same.trans (List.mem_singleton.mp last)) ▸ member)⟩)
    · obtain ⟨front,again,back,rfl,distinct,member⟩ := ih nodup
      exact ⟨front,again,back ++ [item],by simp,distinct,member⟩

end UchiPulse
