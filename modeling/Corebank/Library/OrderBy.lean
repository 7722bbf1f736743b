import Mathlib.Data.List.Perm.Basic
import Mathlib.Data.List.Pairwise
import Mathlib.Data.List.Sort
import Mathlib.Data.Prod.Lex
import Mathlib.Order.OrderDual

/-! # Answers of an ORDER BY -/

namespace Corebank.Library.OrderBy

variable {α β ι κ : Type*} [LinearOrder ι] [LinearOrder κ]

/-- The rows ordered by a column. Rows with equal values may stand in any order. -/
structure Orders (column : α → ι) (rows answer : List α) : Prop where
  perm : answer.Perm rows
  sorted : answer.Pairwise fun x y => column x ≤ column y

theorem orders_mergeSort (column : α → ι) (rows : List α) :
    Orders column rows (rows.mergeSort fun x y => column x ≤ column y) where
  perm := List.mergeSort_perm rows _
  sorted := by
    have sorted : (rows.mergeSort fun x y => column x ≤ column y).Pairwise
        fun x y => decide (column x ≤ column y) := List.pairwise_mergeSort
      (fun x y z xy yz => by
        rw [decide_eq_true_eq] at *
        exact le_trans xy yz)
      (fun x y => by
        rw [Bool.or_eq_true, decide_eq_true_eq, decide_eq_true_eq]
        exact le_total _ _) rows
    exact sorted.imp of_decide_eq_true

omit [LinearOrder κ] in
theorem Orders.congr {f g : α → ι} {rows answer : List α} (same : ∀ x ∈ rows, f x = g x)
    (orders : Orders f rows answer) : Orders g rows answer := by
  refine ⟨orders.perm, (List.Pairwise.and_mem.mp orders.sorted).imp fun {x y} ⟨hx, hy, le⟩ => ?_⟩
  rwa [← same x (orders.perm.subset hx), ← same y (orders.perm.subset hy)]

theorem orders_map_iff {f : α → β} {column : β → ι} {rows : List α} {answer : List β} :
    Orders column (rows.map f) answer ↔
      ∃ rows', Orders (fun x => column (f x)) rows rows' ∧ answer = rows'.map f := by
  constructor
  · rintro ⟨perm, sorted⟩
    obtain ⟨rows', rfl, same⟩ := (congrFun₂ (List.eq_map_comp_perm f) answer rows).mpr perm
    rw [List.pairwise_map] at sorted
    exact ⟨rows', ⟨same, sorted⟩, rfl⟩
  · rintro ⟨rows', ⟨perm, sorted⟩, rfl⟩
    exact ⟨perm.map f, List.pairwise_map.mpr sorted⟩

theorem eq_of_map_eq {f : α → β} {rows answer : List α}
    (apart : ∀ x ∈ rows, ∀ y ∈ answer, f x = f y → x = y) (same : rows.map f = answer.map f) :
    rows = answer := by
  induction rows generalizing answer with
  | nil => exact (List.map_eq_nil_iff.mp same.symm).symm
  | cons x rows ih =>
      cases answer with
      | nil => cases same
      | cons y answer =>
          rw [List.map_cons, List.map_cons, List.cons.injEq] at same
          rw [apart x List.mem_cons_self y List.mem_cons_self same.1]
          rw [ih (fun x hx y hy => apart x (List.mem_cons_of_mem _ hx) y (List.mem_cons_of_mem _ hy))
            same.2]

/-- Every answer increases in `value` as long as the column increases with it. -/
theorem orders_increasing_iff {column : α → ι} {value : α → κ} {rows : List α}
    (distinct : rows.Pairwise fun x y => value x ≠ value y) :
    (∀ answer, Orders column rows answer → answer.Pairwise fun x y => value x < value y) ↔
      ∀ x ∈ rows, ∀ y ∈ rows, value x < value y → column x < column y := by
  constructor
  · intro increasing x hx y hy earlier
    by_contra behind
    rw [not_lt] at behind
    -- ties are broken against `value`
    let both (x : α) : ι ×ₗ κᵒᵈ := toLex (column x, OrderDual.toDual (value x))
    obtain ⟨perm, sorted⟩ := orders_mergeSort both rows
    have order {x y : α} (le : both x ≤ both y) :
        column x < column y ∨ column x = column y ∧ value y ≤ value x := Prod.Lex.toLex_le_toLex.mp le
    have rising := increasing _ ⟨perm, sorted.imp fun le => (order le).elim le_of_lt fun e => e.1.le⟩
    let placed (x y : α) : Prop := both x ≤ both y ∧ value x < value y
    have symm : Std.Symm fun x y => placed x y ∨ placed y x := ⟨fun _ _ => Or.symm⟩
    have either : (rows.mergeSort fun x y => both x ≤ both y).Pairwise
        fun x y => placed x y ∨ placed y x := (sorted.and rising).imp Or.inl
    have apart : x ≠ y := fun e => earlier.ne (congrArg value e)
    rcases either.forall (perm.symm.subset hx) (perm.symm.subset hy) apart with ⟨le, -⟩ | ⟨-, later⟩
    · rcases order le with before | ⟨-, later⟩
      · exact behind.not_gt before
      · exact later.not_gt earlier
    · exact later.not_gt earlier
  · intro follows answer orders
    have apart := orders.perm.symm.pairwise distinct fun ne => ne.symm
    have within := List.Pairwise.and_mem.mp (orders.sorted.and apart)
    refine within.imp fun {x y} ⟨hx, hy, le, ne⟩ => lt_of_le_of_ne (not_lt.mp fun later => ?_) ne
    exact le.not_gt (follows y (orders.perm.subset hy) x (orders.perm.subset hx) later)

end Corebank.Library.OrderBy
