import Mathlib.Data.List.Basic

/-! Machines whose calls belong to channels that do not interfere. A call sees and changes
the view of its own channel only, so that a channel's replies are those of its own calls,
however the calls of the others are interleaved with them. -/
namespace UchiPulse.Channels
variable {σ κ ρ ι ν : Type}

/-- The replies to one call after the other. -/
def run (step : σ → κ → ρ × σ) : σ → List κ → List ρ × σ
  | state, [] => ([],state)
  | state, call :: calls =>
    let (reply,next) := step state call
    let (replies,last) := run step next calls
    (reply :: replies,last)

/-- The replies to the calls of one channel. -/
def repliesOn [DecidableEq ι] (channel : κ → ι) (own : ι) (calls : List κ) (replies : List ρ) : List ρ :=
  ((calls.zip replies).filter fun entry => channel entry.1 = own).map (·.2)

/-- What a call returns and does to its channel depends on its channel alone, and it leaves
the others. -/
structure Independent (step : σ → κ → ρ × σ) (channel : κ → ι) (view : ι → σ → ν) : Prop where
  own : ∀ state state' call, view (channel call) state = view (channel call) state' →
    (step state call).1 = (step state' call).1 ∧
      view (channel call) (step state call).2 = view (channel call) (step state' call).2
  other : ∀ state call i, i ≠ channel call → view i (step state call).2 = view i state

section
variable [DecidableEq ι] {step : σ → κ → ρ × σ} {channel : κ → ι} {view : ι → σ → ν}

/-- States with the same view of a channel answer its calls alike, with or without the
calls of the other channels. -/
theorem repliesOn_run_of_view (independent : Independent step channel view) {own : ι} (calls : List κ)
    {state state' : σ} (same : view own state = view own state') :
    repliesOn channel own calls (run step state calls).1 =
      (run step state' (calls.filter fun call => channel call = own)).1 := by
  induction calls generalizing state state' with
  | nil => rfl
  | cons call calls ih =>
    by_cases mine : channel call = own
    · subst mine
      obtain ⟨reply,next⟩ := independent.own state state' call same
      have later := ih next
      simp only [repliesOn] at later
      simp only [run,repliesOn,List.zip_cons_cons,List.filter_cons,decide_true,if_true,List.map_cons]
      rw [reply,later]
    · have unchanged := independent.other state call own (Ne.symm mine)
      have later := ih (unchanged.trans same)
      simp only [repliesOn] at later
      simpa only [run,repliesOn,List.zip_cons_cons,List.filter_cons,mine,decide_false,Bool.false_eq_true,
        if_false] using later

/-- A channel's replies are those of a replay of its own calls. -/
theorem repliesOn_run (independent : Independent step channel view) (own : ι) (calls : List κ) (state : σ) :
    repliesOn channel own calls (run step state calls).1 =
      (run step state (calls.filter fun call => channel call = own)).1 :=
  repliesOn_run_of_view independent calls rfl

/-- Two interleavings of the same calls of a channel get the same replies on it. -/
theorem repliesOn_run_congr (independent : Independent step channel view) (own : ι) {calls calls' : List κ}
    (state : σ)
    (same : (calls.filter fun call => channel call = own) = calls'.filter fun call => channel call = own) :
    repliesOn channel own calls (run step state calls).1 =
      repliesOn channel own calls' (run step state calls').1 := by
  rw [repliesOn_run independent,repliesOn_run independent,same]

end

end UchiPulse.Channels
