import Mathlib.Data.List.Sort
import Mathlib.Data.List.Nodup

/-! Rows scattered over tables by a key, and collected again key by key. -/
namespace UchiPulse
variable {α β κ : Type}

/-- The rows written for one of many items are found by its key. -/
theorem filter_flatMap_of_nodup [DecidableEq κ] {key : α → κ} {tag : β → κ} {rows : α → List β}
    {items : List α} {item : α} (tagged : ∀ item, ∀ row ∈ rows item, tag row = key item)
    (nodup : (items.map key).Nodup) (member : item ∈ items) :
    (items.flatMap rows).filter (tag · = key item) = rows item := by
  induction items with
  | nil => cases member
  | cons first items ih =>
    obtain ⟨fresh,nodup⟩ := List.nodup_cons.mp nodup
    rw [List.flatMap_cons,List.filter_append]
    rcases List.mem_cons.mp member with rfl | later
    · have own : (rows item).filter (tag · = key item) = rows item :=
        List.filter_eq_self.mpr fun row rowMember => by simpa using tagged item row rowMember
      have others : (items.flatMap rows).filter (tag · = key item) = [] := by
        refine List.filter_eq_nil_iff.mpr fun row rowMember => ?_
        obtain ⟨other,otherMember,rowMember⟩ := List.mem_flatMap.mp rowMember
        simp only [tagged other row rowMember,decide_eq_true_eq]
        exact fun same => fresh (List.mem_map.mpr ⟨other,otherMember,same⟩)
      rw [own,others,List.append_nil]
    · have none : (rows first).filter (tag · = key item) = [] := by
        refine List.filter_eq_nil_iff.mpr fun row rowMember => ?_
        simp only [tagged first row rowMember,decide_eq_true_eq]
        exact fun same => fresh (List.mem_map.mpr ⟨item,later,same.symm⟩)
      rw [none,List.nil_append,ih nodup later]

/-- Of items with distinct keys, at most one has a given key. -/
theorem length_filter_le_one {key : α → κ} {items : List α} {p : α → Bool} {k : κ}
    (only : ∀ item, p item = true → key item = k) (nodup : (items.map key).Nodup) :
    (items.filter p).length ≤ 1 := by
  have keys : (items.filter p).map key = List.replicate (items.filter p).length k :=
    List.map_eq_replicate_iff.mpr fun item member => only item (List.mem_filter.mp member).2
  have distinct : ((items.filter p).map key).Nodup := nodup.sublist (List.filter_sublist.map key)
  rw [keys] at distinct
  exact List.nodup_replicate.mp distinct

/-- The one item with its key. -/
theorem filter_eq_singleton {key : α → κ} {items : List α} {p : α → Bool} {item : α}
    (only : ∀ other, p other = true → key other = key item) (nodup : (items.map key).Nodup)
    (member : item ∈ items) (holds : p item = true) : items.filter p = [item] := by
  have among : item ∈ items.filter p := List.mem_filter.mpr ⟨member,holds⟩
  have short := length_filter_le_one only nodup
  obtain ⟨one,found⟩ : ∃ one, items.filter p = [one] :=
    List.length_eq_one_iff.mp (le_antisymm short (List.length_pos_of_mem among))
  rw [found] at among ⊢
  rw [List.mem_singleton.mp among]

section
variable {r : α → α → Prop} [DecidableRel r] {item : α}

theorem orderedInsert_append_of_not (front back : List α) (before : ∀ other ∈ front, ¬ r item other) :
    (front ++ back).orderedInsert r item = front ++ back.orderedInsert r item := by
  induction front with
  | nil => rfl
  | cons first front ih =>
    obtain ⟨head,tail⟩ := List.forall_mem_cons.mp before
    rw [List.cons_append,List.orderedInsert_of_not_le _ _ head,ih tail,List.cons_append]

theorem orderedInsert_of_forall (items : List α) (before : ∀ other ∈ items, r item other) :
    items.orderedInsert r item = item :: items := by
  cases items with
  | nil => rfl
  | cons first items => exact List.orderedInsert_cons_of_le _ _ (before first (by simp))

theorem filter_orderedInsert [IsTrans α r] (p : α → Bool) (items : List α) (sorted : items.Pairwise r) :
    (items.orderedInsert r item).filter p =
      if p item then (items.filter p).orderedInsert r item else items.filter p := by
  induction items with
  | nil => cases held : p item <;> simp [held]
  | cons first items ih =>
    obtain ⟨least,sorted'⟩ := List.pairwise_cons.mp sorted
    by_cases before : r item first
    · have all : ∀ other ∈ (first :: items).filter p, r item other := fun other member => by
        rcases List.mem_cons.mp (List.mem_filter.mp member).1 with rfl | later
        · exact before
        · exact IsTrans.trans _ _ _ before (least other later)
      rw [List.orderedInsert_cons_of_le _ _ before,List.filter_cons,orderedInsert_of_forall _ all]
    · rw [List.orderedInsert_of_not_le _ _ before,List.filter_cons,List.filter_cons,ih sorted']
      cases held : p item <;> cases held' : p first <;> simp [before]

end

section
variable [LE κ] [DecidableLE κ]

/-- A map that keeps the key commutes with sorting by it. -/
theorem insertionSort_map_key (key : α → κ) (key' : β → κ) {f : α → β} (same : ∀ item, key' (f item) = key item)
    (items : List α) : ((items.map f).insertionSort fun a b => key' a ≤ key' b) =
      (items.insertionSort fun a b => key a ≤ key b).map f :=
  (List.map_insertionSort (fun a b => key a ≤ key b) (fun a b => key' a ≤ key' b) f items
    fun _ _ _ _ => by rw [same,same]).symm

variable [Std.IsLinearOrder κ]

theorem pairwise_insertionSort_key (key : α → κ) (items : List α) :
    (items.insertionSort fun a b => key a ≤ key b).Pairwise fun a b => key a ≤ key b :=
  have : Std.Total fun a b : α => key a ≤ key b := ⟨fun _ _ => Std.le_total⟩
  have : IsTrans α fun a b => key a ≤ key b := ⟨fun _ _ _ => Std.le_trans⟩
  List.pairwise_insertionSort _ items

/-- Sorting and selecting can be done in either order. -/
theorem filter_insertionSort_key (key : α → κ) (p : α → Bool) (items : List α) :
    (items.insertionSort fun a b => key a ≤ key b).filter p =
      (items.filter p).insertionSort fun a b => key a ≤ key b := by
  have transitive : IsTrans α fun a b => key a ≤ key b := ⟨fun _ _ _ => Std.le_trans⟩
  induction items with
  | nil => rfl
  | cons item items ih =>
    rw [List.insertionSort_cons,filter_orderedInsert p _ (pairwise_insertionSort_key key items),ih,List.filter_cons]
    split <;> simp

/-- Sorting once more changes nothing. -/
theorem insertionSort_insertionSort_key (key : α → κ) (items : List α) :
    ((items.insertionSort fun a b => key a ≤ key b).insertionSort fun a b => key a ≤ key b) =
      items.insertionSort fun a b => key a ≤ key b :=
  (pairwise_insertionSort_key key items).insertionSort_eq

/-- Distinct keys are in strict order once they are sorted. -/
theorem ascending_insertionSort_key (key : α → κ) (items : List α) (nodup : (items.map key).Nodup) :
    ((items.insertionSort fun a b => key a ≤ key b).map key).Pairwise fun a b => ¬ b ≤ a := by
  have distinct : ((items.insertionSort fun a b => key a ≤ key b).map key).Nodup :=
    ((List.perm_insertionSort _ items).map key).nodup_iff.mpr nodup
  have sorted : ((items.insertionSort fun a b => key a ≤ key b).map key).Pairwise (· ≤ ·) :=
    List.pairwise_map.mpr (pairwise_insertionSort_key key items)
  refine (sorted.and distinct).imp fun ⟨le,ne⟩ ge => ne (Std.le_antisymm le ge)

end

/-- Collecting the items of each key, keys ascending, is a stable sort by the key. -/
theorem flatMap_filter_eq_insertionSort [DecidableEq κ] [LE κ] [DecidableLE κ] [Std.IsLinearOrder κ]
    (key : α → κ) (keys : List κ) (ascending : keys.Pairwise fun a b => ¬ b ≤ a) (items : List α)
    (covered : ∀ item ∈ items, key item ∈ keys) :
    (keys.flatMap fun k => items.filter (key · = k)) = items.insertionSort fun a b => key a ≤ key b := by
  induction items with
  | nil => simp
  | cons item items ih =>
    obtain ⟨head,tail⟩ := List.forall_mem_cons.mp covered
    obtain ⟨lower,upper,rfl⟩ := List.append_of_mem head
    obtain ⟨-,above,across⟩ := List.pairwise_append.mp ascending
    obtain ⟨above,-⟩ := List.pairwise_cons.mp above
    have same (part : List κ) (apart : ∀ k ∈ part, k ≠ key item) :
        (part.flatMap fun k => (item :: items).filter (key · = k)) =
          part.flatMap fun k => items.filter (key · = k) := by
      refine List.flatMap_congr fun k member => ?_
      rw [List.filter_cons_of_neg]
      simpa using (apart k member).symm
    have below : ∀ k ∈ lower, ¬ key item ≤ k := fun k member => across k member _ (by simp)
    have low := same lower fun k member equal => below k member (equal ▸ Std.le_refl k)
    have high := same upper fun k member equal => above k member (equal ▸ Std.le_refl k)
    rw [List.insertionSort_cons,← ih tail,List.flatMap_append,List.flatMap_cons,List.flatMap_append,
      List.flatMap_cons,low,high,List.filter_cons_of_pos (by simp),orderedInsert_append_of_not,
      orderedInsert_of_forall,List.cons_append]
    · intro other member
      rcases List.mem_append.mp member with own | later
      · rw [of_decide_eq_true (List.mem_filter.mp own).2]
        exact Std.le_refl _
      · obtain ⟨k,above',found⟩ := List.mem_flatMap.mp later
        rw [of_decide_eq_true (List.mem_filter.mp found).2]
        exact (Std.le_total (a := key item) (b := k)).resolve_right (above k above')
    · intro other member
      obtain ⟨k,below',found⟩ := List.mem_flatMap.mp member
      rw [of_decide_eq_true (List.mem_filter.mp found).2]
      exact below k below'

/-! ### First occurrences -/

section
variable [DecidableEq κ] (key : α → κ)

/-- Take an item in, unless one with its key is there already. -/
def takeNew (firsts : List α) (item : α) : List α :=
  if ∃ old ∈ firsts, key old = key item then firsts else firsts ++ [item]

/-- The first item of each key, in their order. -/
def firstsOf (items : List α) : List α := items.foldl (takeNew key) []

variable {key}

theorem takeNew_known {firsts : List α} {item : α} (known : ∃ old ∈ firsts, key old = key item) :
    takeNew key firsts item = firsts := if_pos known

theorem takeNew_new {firsts : List α} {item : α} (new : ¬ ∃ old ∈ firsts, key old = key item) :
    takeNew key firsts item = firsts ++ [item] := if_neg new

theorem nodup_takeNew {firsts : List α} (nodup : (firsts.map key).Nodup) (item : α) :
    ((takeNew key firsts item).map key).Nodup := by
  by_cases known : ∃ old ∈ firsts, key old = key item
  · rwa [takeNew_known known]
  · rw [takeNew_new known,List.map_append]
    refine nodup.append (List.nodup_singleton _) fun other old new => known ?_
    obtain ⟨first,member,rfl⟩ := List.mem_map.mp old
    exact ⟨first,member,by simpa using new⟩

/-- The firsts have distinct keys. -/
theorem nodup_firstsOf (items : List α) : ((firstsOf key items).map key).Nodup := by
  have run (firsts : List α) (nodup : (firsts.map key).Nodup) :
      ((items.foldl (takeNew key) firsts).map key).Nodup := by
    induction items generalizing firsts with
    | nil => exact nodup
    | cons item items ih => exact ih _ (nodup_takeNew nodup item)
  exact run [] List.nodup_nil

end

/-! ### Rows replaced by their key -/

section
variable [DecidableEq κ] {rows : List α} {k : κ} (key : α → κ) (other : κ)

/-- An update under a key leaves the keys as they are. -/
theorem exists_key_replace (change : α → α) (changes : ∀ old, key old = k → key (change old) = k) :
    (∃ row ∈ rows.map fun old => if key old = k then change old else old, key row = other) ↔
      ∃ row ∈ rows, key row = other := by
  have same (old : α) : key (if key old = k then change old else old) = key old := by
    by_cases own : key old = k
    · rw [if_pos own,changes old own,own]
    · rw [if_neg own]
  constructor
  · rintro ⟨row,member,keyed⟩
    obtain ⟨old,among,rfl⟩ := List.mem_map.mp member
    exact ⟨old,among,(same old).symm.trans keyed⟩
  · rintro ⟨row,member,keyed⟩
    exact ⟨_,List.mem_map_of_mem member,(same row).trans keyed⟩

/-- An update, or an insertion where the key is new. -/
theorem exists_key_upsert (change : α → α) (new : α) {known : Prop} [Decidable known]
    (changes : ∀ old, key old = k → key (change old) = k) (keyed : key new = k)
    (found : known ↔ ∃ row ∈ rows, key row = k) :
    (∃ row ∈ if known then rows.map (fun old => if key old = k then change old else old) else rows ++ [new],
      key row = other) ↔ other = k ∨ ∃ row ∈ rows, key row = other := by
  by_cases present : known
  · rw [if_pos present,exists_key_replace key other change changes]
    constructor
    · exact .inr
    · rintro (rfl | kept)
      · exact found.mp present
      · exact kept
  · rw [if_neg present]
    simp only [List.mem_append,List.mem_singleton,or_and_right,exists_or,exists_eq_left,keyed]
    exact or_comm.trans (or_congr_left eq_comm)

/-- The other rows of an update or an insertion. -/
theorem filter_upsert_other (new : α) (keyed : key new = k) {known : Prop} [Decidable known] :
    (if known then rows.map (fun old => if key old = k then new else old) else rows ++ [new]).filter (key · ≠ k) =
      rows.filter (key · ≠ k) := by
  split
  · induction rows with
    | nil => rfl
    | cons row rows ih =>
      rw [List.map_cons,List.filter_cons,List.filter_cons,ih]
      by_cases own : key row = k <;> simp [own,keyed]
  · rw [List.filter_append]
    simp [keyed]

/-- The row of an update or an insertion is the new one, if its key was there once at most. -/
theorem filter_upsert (new : α) (keyed : key new = k) (distinct : (rows.map key).Nodup) {known : Prop}
    [Decidable known] (found : known ↔ ∃ row ∈ rows, key row = k) :
    (if known then rows.map (fun old => if key old = k then new else old) else rows ++ [new]).filter (key · = k) =
      [new] := by
  have same (row : α) : (key (if key row = k then new else row) = k) ↔ key row = k := by
    by_cases own : key row = k <;> simp [own,keyed]
  by_cases present : known
  · obtain ⟨row,member,own⟩ := found.mp present
    have one : rows.filter (key · = k) = [row] :=
      filter_eq_singleton (fun other holds => (of_decide_eq_true holds).trans own.symm) distinct member
        (decide_eq_true own)
    simp only [if_pos present,List.filter_map,Function.comp_def,same,one,List.map_singleton,own,if_true]
  · have none : rows.filter (key · = k) = [] :=
      List.filter_eq_nil_iff.mpr fun row member holds => present (found.mpr ⟨row,member,of_decide_eq_true holds⟩)
    rw [if_neg present,List.filter_append,none]
    simp [keyed]

/-- Rows deleted by their key and written anew are the new ones. -/
theorem filter_rewritten {new : List α} (own : ∀ row ∈ new, key row = k) :
    (rows.filter (key · ≠ k) ++ new).filter (key · = k) = new := by
  have stale : (rows.filter (key · ≠ k)).filter (key · = k) = [] :=
    List.filter_eq_nil_iff.mpr fun row member => by simpa using (List.mem_filter.mp member).2
  rw [List.filter_append,stale,List.nil_append]
  exact List.filter_eq_self.mpr fun row member => decide_eq_true (own row member)

theorem filter_rewritten_others {new : List α} (own : ∀ row ∈ new, key row = k) :
    (rows.filter (key · ≠ k) ++ new).filter (key · ≠ k) = rows.filter (key · ≠ k) := by
  have gone : new.filter (key · ≠ k) = [] :=
    List.filter_eq_nil_iff.mpr fun row member => by simp [own row member]
  rw [List.filter_append,gone,List.append_nil,List.filter_filter]
  simp only [Bool.and_self]

/-- The rows of another key stay. -/
theorem filter_rewritten_other {new : List α} (own : ∀ row ∈ new, key row = k) (apart : other ≠ k) :
    (rows.filter (key · ≠ k) ++ new).filter (key · = other) = rows.filter (key · = other) := by
  have foreign : new.filter (key · = other) = [] :=
    List.filter_eq_nil_iff.mpr fun row member => by simp [own row member,apart.symm]
  rw [List.filter_append,foreign,List.append_nil,List.filter_filter]
  exact List.filter_congr fun row _ => by
    by_cases same : key row = other
    · simp [same,apart]
    · simp [same]

end

theorem nodup_concat {key : α → κ} {rows : List α} (row : α) (apart : (rows.map key).Nodup)
    (fresh : ¬ ∃ old ∈ rows, key old = key row) : ((rows ++ [row]).map key).Nodup := by
  rw [List.map_append,List.map_singleton]
  refine List.Nodup.append apart (List.nodup_singleton _) fun value among same => ?_
  obtain ⟨old,listed,rfl⟩ := List.mem_map.mp among
  exact fresh ⟨old,listed,List.mem_singleton.mp same⟩

section
variable [DecidableEq κ] (key : α → κ) (own : κ) (put : α → α) {rows : List α} {row : α}

theorem map_replace (same : ∀ row ∈ rows, key row = own → key (put row) = own) :
    (rows.map fun row => if key row = own then put row else row).map key = rows.map key := by
  rw [List.map_map]
  refine List.map_congr_left fun row among => ?_
  by_cases here : key row = own
  · rw [Function.comp_apply,if_pos here,same row among here,here]
  · rw [Function.comp_apply,if_neg here]

variable {key own put} in
/-- Of the rows after an update each is a changed one or one from before. -/
theorem mem_replace (among : row ∈ rows.map fun old => if key old = own then put old else old) :
    (∃ old ∈ rows, key old = own ∧ row = put old) ∨ row ∈ rows := by
  obtain ⟨old,listed,same⟩ := List.mem_map.mp among
  by_cases here : key old = own
  · rw [if_pos here] at same
    exact .inl ⟨old,listed,here,same.symm⟩
  · rw [if_neg here] at same
    exact .inr (same ▸ listed)

/-- The keys of an update or an insertion: still distinct, and none is lost. -/
theorem map_upsert (new : α) {known : Prop} [Decidable known] (same : ∀ row, key row = own → key (put row) = own)
    (keyed : key new = own) (found : known ↔ ∃ row ∈ rows, key row = own) (apart : (rows.map key).Nodup) :
    ((if known then rows.map (fun old => if key old = own then put old else old) else rows ++ [new]).map key).Nodup ∧
      rows.map key ⊆
        (if known then rows.map (fun old => if key old = own then put old else old) else rows ++ [new]).map key := by
  by_cases present : known
  · rw [if_pos present,map_replace key own put fun row _ => same row]
    exact ⟨apart,List.Subset.refl _⟩
  · rw [if_neg present]
    refine ⟨nodup_concat new apart ?_,?_⟩
    · rwa [keyed,← found]
    · rw [List.map_append]
      exact List.subset_append_left _ _

end

end UchiPulse
