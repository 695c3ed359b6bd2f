import GridStore.Store.Call
import Mathlib.Algebra.Order.Floor.Div

/-!
# Lists divided into batches

Batches are the list in its order, cut after every `max size 1` items (`batches_partition`). A loop
that takes them off the list one by one ends with them, as it makes progress if its size is not
zero; with a size of zero it ends only if there are no items (`Batching.exists_ends_iff`).
-/

namespace GridStore

variable {α : Type}

/-! ## Items -/

theorem flatten_batches (size : Nat) (as : List α) : (batches size as).flatten = as := by
  fun_induction batches size as with
  | case1 => rfl
  | case2 a as ih => rw [List.flatten_cons, ih, List.cons_append, List.take_append_drop]

theorem mem_of_mem_batches {size : Nat} {as batch : List α} {a : α}
    (hbatch : batch ∈ batches size as) (ha : a ∈ batch) : a ∈ as := by
  rw [← flatten_batches size as]
  exact List.mem_flatten_of_mem hbatch ha

theorem mem_of_mem_zipIdx_batches {size : Nat} {as : List α} {x : List α × Nat} {a : α}
    (hx : x ∈ (batches size as).zipIdx) (ha : a ∈ x.1) : a ∈ as :=
  mem_of_mem_batches (List.fst_mem_of_mem_zipIdx hx) ha

theorem batches_map {β : Type} (g : α → β) (size : Nat) (as : List α) :
    batches size (as.map g) = (batches size as).map (List.map g) := by
  fun_induction batches size as with
  | case1 => rw [List.map_nil, batches, List.map_nil]
  | case2 a as ih =>
    rw [List.map_cons, batches, ← List.map_take, ← List.map_drop, ih]
    rfl

theorem batches_singleton (size : Nat) (a : α) : batches size [a] = [[a]] := by
  rw [batches, List.take_nil, List.drop_nil, batches]

/-! ## Sizes -/

theorem nil_notMem_batches (size : Nat) (as : List α) : [] ∉ batches size as := by
  fun_induction batches size as with
  | case1 => exact List.not_mem_nil
  | case2 a as ih => exact List.not_mem_cons_of_ne_of_not_mem (List.cons_ne_nil _ _).symm ih

theorem length_le_of_mem_batches {size : Nat} {as : List α} :
    ∀ batch ∈ batches size as, batch.length ≤ max size 1 := by
  fun_induction batches size as with
  | case1 => exact List.forall_mem_nil _
  | case2 a as ih =>
    rw [List.forall_mem_cons, List.length_cons, List.length_take]
    exact ⟨by omega, ih⟩

/-- Where a batch is not the last one, items are left after it. -/
theorem length_of_mem_dropLast_batches {size : Nat} {as : List α} :
    ∀ batch ∈ (batches size as).dropLast, batch.length = max size 1 := by
  fun_induction batches size as with
  | case1 => exact List.forall_mem_nil _
  | case2 a as ih =>
    rcases hrest : as.drop (size - 1) with _ | ⟨b, rest⟩
    · rw [batches, List.dropLast_singleton]
      exact List.forall_mem_nil _
    · have hlong : size - 1 < as.length := by
        rw [← Nat.not_le, ← List.drop_eq_nil_iff, hrest]
        exact List.cons_ne_nil _ _
      have hne : batches size (b :: rest) ≠ [] := by
        rw [batches]
        exact List.cons_ne_nil _ _
      rw [hrest] at ih
      rw [List.dropLast_cons_of_ne_nil hne, List.forall_mem_cons, List.length_cons,
        List.length_take]
      exact ⟨by omega, ih⟩

theorem length_batches (size : Nat) (as : List α) :
    (batches size as).length = as.length ⌈/⌉ max size 1 := by
  have hpos : 0 < max size 1 := by omega
  fun_induction batches size as with
  | case1 => rw [List.length_nil, List.length_nil, zero_ceilDiv]
  | case2 a as ih =>
    rw [List.length_cons, ih, List.length_drop, List.length_cons, Nat.ceilDiv_eq_add_pred_div,
      Nat.ceilDiv_eq_add_pred_div]
    have hnext : as.length + 1 + max size 1 - 1 = as.length + max size 1 := by omega
    rw [hnext, Nat.add_div_right _ hpos]
    by_cases hlong : size - 1 ≤ as.length
    · have hrest : as.length - (size - 1) + max size 1 - 1 = as.length := by omega
      rw [hrest]
    · have hrest : as.length - (size - 1) + max size 1 - 1 < max size 1 := by omega
      rw [Nat.div_eq_of_lt hrest, Nat.div_eq_of_lt (show as.length < max size 1 by omega)]

/-! ## Taking batches off a list -/

theorem batches_of_ne_nil {size : Nat} (hsize : 0 < size) {as : List α} (h : as ≠ []) :
    batches size as = as.take size :: batches size (as.drop size) := by
  obtain ⟨a, as, rfl⟩ := List.exists_cons_of_ne_nil h
  obtain ⟨size, rfl⟩ := Nat.exists_eq_succ_of_ne_zero (Nat.ne_of_gt hsize)
  rw [batches]
  rfl

/-- A size of zero acts as one. -/
theorem batches_max_one (size : Nat) (as : List α) : batches (max size 1) as = batches size as := by
  have hsize : max size 1 - 1 = size - 1 := by omega
  fun_induction batches size as with
  | case1 => rw [batches]
  | case2 a as ih => rw [batches, hsize, ih]

/-- Where a loop that makes batches is: those that it has made, and the items that are left. -/
structure Batching (α : Type) where
  made : List (List α)
  left : List α

namespace Batching

/-- A turn of the loop, if items are left: the first ones, up to a size, are a batch. -/
def turn? (size : Nat) (b : Batching α) : Option (Batching α) :=
  if b.left.isEmpty then none
  else some { made := b.made ++ [b.left.take size], left := b.left.drop size }

/-- Whether the loop ends, and the batches that it has made then. -/
inductive Ends (size : Nat) : Batching α → List (List α) → Prop
  | done {b : Batching α} (h : b.turn? size = none) : Ends size b b.made
  | turn {b next : Batching α} {made : List (List α)} (h : b.turn? size = some next)
      (hrest : Ends size next made) : Ends size b made

variable {size : Nat} {b next : Batching α} {made : List (List α)}

theorem turn?_eq_none_iff : b.turn? size = none ↔ b.left = [] := by
  rw [turn?, ite_eq_left_iff]
  simp

theorem turn?_eq_some_iff : b.turn? size = some next ↔
    b.left ≠ [] ∧ next = ⟨b.made ++ [b.left.take size], b.left.drop size⟩ := by
  rw [turn?, Option.ite_none_left_eq_some, List.isEmpty_iff, Option.some.injEq, eq_comm (b := next)]

/-- A turn leaves what is made in the end as it was. -/
theorem made_append_batches_of_turn? (hsize : 0 < size) (h : b.turn? size = some next) :
    next.made ++ batches size next.left = b.made ++ batches size b.left := by
  obtain ⟨hleft, rfl⟩ := turn?_eq_some_iff.1 h
  rw [batches_of_ne_nil hsize hleft, List.append_assoc, List.singleton_append]

/-- A turn makes progress, unless batches are to have no items. -/
theorem length_left_of_turn? (hsize : 0 < size) (h : b.turn? size = some next) :
    next.left.length < b.left.length := by
  obtain ⟨hleft, rfl⟩ := turn?_eq_some_iff.1 h
  have hpos := List.length_pos_of_ne_nil hleft
  rw [List.length_drop]
  omega

theorem ends_of_pos (hsize : 0 < size) (b : Batching α) : ∃ made, Ends size b made := by
  cases h : b.turn? size with
  | none => exact ⟨b.made, .done h⟩
  | some next =>
    obtain ⟨made, hmade⟩ := ends_of_pos hsize next
    exact ⟨made, .turn h hmade⟩
termination_by b.left.length
decreasing_by exact length_left_of_turn? hsize h

theorem Ends.eq_append_batches (hsize : 0 < size) (h : Ends size b made) :
    made = b.made ++ batches size b.left := by
  induction h with
  | done h => rw [turn?_eq_none_iff.1 h, batches, List.append_nil]
  | turn h _ ih => rw [ih, made_append_batches_of_turn? hsize h]

/-- The loop ends with the batches of the items. -/
theorem ends_iff (hsize : 0 < size) : Ends size b made ↔ made = b.made ++ batches size b.left := by
  refine ⟨Ends.eq_append_batches hsize, ?_⟩
  rintro rfl
  obtain ⟨made, hmade⟩ := ends_of_pos hsize b
  exact hmade.eq_append_batches hsize ▸ hmade

/-- With a size of zero the loop takes nothing off the items, so it ends only if there are none. -/
theorem exists_ends_iff : (∃ made, Ends size b made) ↔ 0 < size ∨ b.left = [] := by
  constructor
  · rintro ⟨made, h⟩
    rcases Nat.eq_zero_or_pos size with rfl | hsize
    · right
      induction h with
      | done h => exact turn?_eq_none_iff.1 h
      | turn h _ ih =>
        obtain ⟨-, rfl⟩ := turn?_eq_some_iff.1 h
        exact ih
    · exact .inl hsize
  · rintro (hsize | hleft)
    · exact ends_of_pos hsize b
    · exact ⟨b.made, .done (turn?_eq_none_iff.2 hleft)⟩

end Batching

/-- Batches are a partition that keeps the order. The loop that takes batches off a list, of at
least one item each, ends with the list's batches and no others. Together they are the list; none
is empty, all but the last have the size, a size of zero counting as one, and the last has at most
that; and there are as many as the length divided by it, rounded up. -/
theorem batches_partition (size : Nat) (as : List α) :
    (∀ made, Batching.Ends (max size 1) ⟨[], as⟩ made ↔ made = batches size as) ∧
    (batches size as).flatten = as ∧
    [] ∉ batches size as ∧
    (∀ batch ∈ (batches size as).dropLast, batch.length = max size 1) ∧
    (∀ batch ∈ (batches size as).getLast?, batch.length ≤ max size 1) ∧
    (batches size as).length = as.length ⌈/⌉ max size 1 := by
  refine ⟨fun made => ?_, flatten_batches size as, nil_notMem_batches size as,
    length_of_mem_dropLast_batches, fun batch hlast => ?_, length_batches size as⟩
  · rw [Batching.ends_iff (by omega), List.nil_append, batches_max_one]
  · exact length_le_of_mem_batches batch (List.mem_of_getLast? hlast)

/-- Five items make two batches of two and one of one. -/
theorem batches_partition_five :
    let bs := batches 2 [1, 2, 3, 4, 5]
    bs = [[1, 2], [3, 4], [5]] ∧ Batching.Ends 2 ⟨[], [1, 2, 3, 4, 5]⟩ bs ∧
      [3, 4] ∈ bs.dropLast ∧ [3, 4].length = 2 ∧ [5] ∈ bs.getLast? ∧ [5].length ≤ 2 ∧
      bs.length = 5 ⌈/⌉ 2 := by
  intro bs
  have hbs : bs = [[1, 2], [3, 4], [5]] := by simp [bs, batches]
  obtain ⟨hends, -, -, hfull, hlast, hcount⟩ := batches_partition 2 [1, 2, 3, 4, 5]
  have hinner : [3, 4] ∈ bs.dropLast := by rw [hbs]; decide
  have hend : [5] ∈ bs.getLast? := by rw [hbs]; rfl
  exact ⟨hbs, (hends _).2 rfl, hinner, hfull _ hinner, hend, hlast _ hend, hcount⟩

end GridStore
