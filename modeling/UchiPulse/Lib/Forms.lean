import Mathlib.Data.List.Basic

/-! Forms that are edited and saved, time and again. A save writes what the form shows, and
meets a world of its own. -/
namespace UchiPulse.Form

inductive Act (φ ω : Type) where
  | edit (field : φ)
  | save (world : ω)

/-- `form` is empty while no form is open. -/
structure Editor (σ φ ω ν : Type) where
  edit : σ → φ → σ
  save : ω → σ → σ
  /-- Whether the save goes through. -/
  stores : ω → σ → Bool
  form : σ → Option ν

namespace Editor
variable {σ φ ω ν : Type} (editor : Editor σ φ ω ν)

def act (state : σ) : Act φ ω → σ
  | .edit field => editor.edit state field
  | .save world => editor.save world state

def run (state : σ) (acts : List (Act φ ω)) : σ := acts.foldl editor.act state

/-- Every save of the run goes through. -/
def Stores : σ → List (Act φ ω) → Prop
  | _,[] => True
  | state,.edit field :: acts => Stores (editor.edit state field) acts
  | state,.save world :: acts => editor.stores world state = true ∧ Stores (editor.save world state) acts

/-- What the saves of the run write, the earliest first. -/
def saved : σ → List (Act φ ω) → List ν
  | _,[] => []
  | state,.edit field :: acts => saved (editor.edit state field) acts
  | state,.save world :: acts => (editor.form state).toList ++ saved (editor.save world state) acts

instance decidableStores (acts : List (Act φ ω)) (state : σ) : Decidable (editor.Stores state acts) :=
  match acts with
  | [] => inferInstanceAs (Decidable True)
  | .edit field :: acts => decidableStores acts (editor.edit state field)
  | .save world :: acts =>
    have := decidableStores acts (editor.save world state)
    inferInstanceAs (Decidable (editor.stores world state = true ∧ editor.Stores (editor.save world state) acts))

variable {editor}

/-- What every edit keeps and every save extends by what it writes, the run extends by all
that it writes. -/
theorem run_keeps (Holds : List ν → σ → Prop) {Fair : ω → Prop}
    (edits : ∀ values state field, Holds values state → Holds values (editor.edit state field))
    (saves : ∀ values state world, Fair world → editor.stores world state = true → Holds values state →
      Holds (values ++ (editor.form state).toList) (editor.save world state))
    {values : List ν} {state : σ} {acts : List (Act φ ω)} (fair : ∀ world, .save world ∈ acts → Fair world)
    (stores : editor.Stores state acts) (holds : Holds values state) :
    Holds (values ++ editor.saved state acts) (editor.run state acts) := by
  induction acts generalizing values state with
  | nil =>
    rw [saved,List.append_nil]
    exact holds
  | cons act acts ih =>
    have later : ∀ world, .save world ∈ acts → Fair world := fun world member =>
      fair world (List.mem_cons_of_mem _ member)
    cases act with
    | edit field => exact ih later stores (edits values state field holds)
    | save world =>
      obtain ⟨now,stores⟩ := stores
      rw [saved,← List.append_assoc]
      exact ih later stores (saves values state world (fair world List.mem_cons_self) now holds)

/-- A form that is always open is written by every save. -/
theorem saved_eq_nil_iff (shown : ∀ state, (editor.form state).isSome) {state : σ} {acts : List (Act φ ω)} :
    editor.saved state acts = [] ↔ ∀ world, .save world ∉ acts := by
  induction acts generalizing state with
  | nil => simp [saved]
  | cons act acts ih =>
    cases act with
    | edit field =>
      rw [saved,ih]
      exact ⟨fun none world member => none world ((List.mem_cons.mp member).resolve_left nofun),
        fun none world member => none world (List.mem_cons_of_mem _ member)⟩
    | save world =>
      obtain ⟨value,same⟩ := Option.isSome_iff_exists.mp (shown state)
      rw [saved,same]
      exact ⟨nofun,fun none => absurd List.mem_cons_self (none world)⟩

end Editor

end UchiPulse.Form
