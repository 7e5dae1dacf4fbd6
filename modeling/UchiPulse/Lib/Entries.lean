import Mathlib.Data.List.Nodup
import Mathlib.Logic.Function.Basic

/-! Maps written entry by entry. Entries of distinct keys do not see each other, so that
their order makes no difference. -/
namespace UchiPulse.Entries
variable {κ ν : Type} [DecidableEq κ]

/-- A later value of a key replaces an earlier one. -/
def write (values : κ → Option ν) (entries : List (κ × ν)) : κ → Option ν :=
  entries.foldl (fun values entry => Function.update values entry.1 (some entry.2)) values

variable {values : κ → Option ν} {entries entries' : List (κ × ν)} {key : κ} {value : ν}

theorem write_cons (values : κ → Option ν) (entry : κ × ν) (entries : List (κ × ν)) :
    write values (entry :: entries) = write (Function.update values entry.1 (some entry.2)) entries := rfl

theorem write_append (values : κ → Option ν) (entries entries' : List (κ × ν)) :
    write values (entries ++ entries') = write (write values entries) entries' :=
  List.foldl_append

theorem write_of_not_mem (absent : key ∉ entries.map Prod.fst) : write values entries key = values key := by
  induction entries generalizing values with
  | nil => rfl
  | cons entry entries ih =>
    rw [List.map_cons,List.mem_cons,not_or] at absent
    rw [write_cons,ih absent.2]
    exact Function.update_of_ne absent.1 _ _

theorem write_of_mem (distinct : (entries.map Prod.fst).Nodup) (member : (key,value) ∈ entries) :
    write values entries key = some value := by
  induction entries generalizing values with
  | nil => cases member
  | cons entry entries ih =>
    rw [List.map_cons,List.nodup_cons] at distinct
    rw [write_cons]
    rcases List.mem_cons.mp member with rfl | later
    · rw [write_of_not_mem distinct.1]
      exact Function.update_self _ _ _
    · exact ih distinct.2 later

/-- Two entries of one list with distinct keys may be written in either order. -/
theorem update_swap (distinct : (entries.map Prod.fst).Nodup) {first second : κ × ν} (left : first ∈ entries)
    (right : second ∈ entries) (values : κ → Option ν) :
    Function.update (Function.update values first.1 (some first.2)) second.1 (some second.2) =
      Function.update (Function.update values second.1 (some second.2)) first.1 (some first.2) := by
  by_cases same : first.1 = second.1
  · rw [List.inj_on_of_nodup_map distinct left right same]
  · exact Function.update_comm same _ _ _

theorem write_perm (distinct : (entries.map Prod.fst).Nodup) (same : entries.Perm entries')
    (values : κ → Option ν) : write values entries = write values entries' :=
  same.foldl_eq' (fun _ left _ right values => update_swap distinct left right values) values

/-- Lists that share no key may be written in either order. -/
theorem write_comm (distinct : ((entries ++ entries').map Prod.fst).Nodup) (values : κ → Option ν) :
    write (write values entries) entries' = write (write values entries') entries := by
  rw [← write_append,← write_append]
  exact write_perm distinct List.perm_append_comm values

end UchiPulse.Entries
