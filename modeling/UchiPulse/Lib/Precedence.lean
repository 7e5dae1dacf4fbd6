import Mathlib.Data.List.Nodup
import Mathlib.Data.List.Perm.Basic

/-! The order in which entries came into a log. -/
namespace UchiPulse
variable {α : Type} {log : List α} {first second entry : α}

/-- No occurrence of the first is behind one of the second. -/
def NotBehind (log : List α) (first second : α) : Prop :=
  log.Pairwise fun older newer => ¬ (older = second ∧ newer = first)

/-- What is not in the log yet comes behind. -/
theorem notBehind_of_new (new : second ∉ log) : NotBehind log first second :=
  List.pairwise_of_forall_mem_list fun _ among _ _ same => new (same.1 ▸ among)

theorem NotBehind.concat (before : NotBehind log first second) (other : entry ≠ first) :
    NotBehind (log ++ [entry]) first second := by
  refine List.pairwise_append.mpr ⟨before,List.pairwise_singleton _ _,fun older _ newer last same => ?_⟩
  rw [List.mem_singleton] at last
  exact other (last.symm.trans same.2)

theorem NotBehind.sublist {fewer : List α} (before : NotBehind log first second) (among : fewer.Sublist log) :
    NotBehind fewer first second :=
  List.Pairwise.sublist among before

/-- A log without repetitions is in its own order. -/
theorem pairwise_notBehind (distinct : log.Nodup) : log.Pairwise (NotBehind log) := by
  induction log with
  | nil => exact List.Pairwise.nil
  | cons entry log ih =>
    obtain ⟨new,distinct⟩ := List.nodup_cons.mp distinct
    refine List.pairwise_cons.mpr ⟨fun other among => ?_,?_⟩
    · have later : ∀ newer ∈ log, newer ≠ entry := fun newer listed same => new (same ▸ listed)
      refine List.pairwise_cons.mpr ⟨fun newer listed same => later newer listed same.2,?_⟩
      exact List.pairwise_of_forall_mem_list fun _ _ newer listed same => later newer listed same.2
    · refine (ih distinct).imp_of_mem fun {first second} _ among before => ?_
      exact List.pairwise_cons.mpr ⟨fun _ _ same => new (same.1 ▸ among),before⟩

theorem eq_of_notBehind (among : first ∈ log) (known : second ∈ log) (before : NotBehind log first second)
    (after : NotBehind log second first) : first = second := by
  obtain ⟨front,back,rfl⟩ := List.append_of_mem among
  rcases List.mem_append.mp known with older | rest
  · obtain ⟨-,-,across⟩ := List.pairwise_append.mp before
    exact absurd ⟨rfl,rfl⟩ (across second older first List.mem_cons_self)
  · rcases List.mem_cons.mp rest with same | newer
    · exact same.symm
    · obtain ⟨-,behind,-⟩ := List.pairwise_append.mp after
      exact absurd ⟨rfl,rfl⟩ ((List.pairwise_cons.mp behind).1 second newer)

/-- Entries that never came out of order are in the log in their order. -/
theorem filter_of_notBehind [BEq α] [LawfulBEq α] {order : List α} (distinct : log.Nodup) (apart : order.Nodup)
    (ordered : order.Pairwise (NotBehind log)) : log.filter (· ∈ order) = order.filter (· ∈ log) := by
  have among : ∀ entry, entry ∈ log.filter (· ∈ order) ↔ entry ∈ order.filter (· ∈ log) := by
    simp [and_comm]
  have known {entry : α} (listed : entry ∈ log.filter (· ∈ order)) : entry ∈ log := (List.mem_filter.mp listed).1
  have same := (List.perm_ext_iff_of_nodup (distinct.filter _) (apart.filter _)).mpr among
  have inLog : (log.filter (· ∈ order)).Pairwise (NotBehind log) :=
    (pairwise_notBehind distinct).sublist List.filter_sublist
  have inOrder : (order.filter (· ∈ log)).Pairwise (NotBehind log) := ordered.sublist List.filter_sublist
  refine same.eq_of_pairwise (fun first second one other => ?_) inLog inOrder
  exact eq_of_notBehind (known one) (known ((among second).mpr other))

end UchiPulse
