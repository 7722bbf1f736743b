import Corebank.Operations
import Mathlib.Algebra.Order.BigOperators.Group.List

/-! # The analytical queries -/

namespace Corebank
open Library

section
variable [Collation]

/-! ## Branches by staff and accounts -/

def staffOf (db : Db) (b : Branch) : List Employee :=
  (db .employee).filter fun e => key b.branchId = key e.branchId

def accountsAt (db : Db) (b : Branch) : List Account :=
  (db .account).filter fun a => key b.branchId = key a.branchId

/-- The row a branch is due: its own counts, when they reach the thresholds. -/
def conditionsOf (db : Db) (minEmployees minAccounts : Int) (b : Branch) :
    Option BranchConditions :=
  if minEmployees < (staffOf db b).length ∧ minAccounts ≤ (accountsAt db b).length then
    some ⟨b.branchName, (staffOf db b).length, (accountsAt db b).length⟩
  else none

def branchRows (db : Db) (b : Branch) : List ((Branch × Option Employee) × Option Account) :=
  Relational.leftJoin
    (Relational.leftJoin [b] (db .employee) fun b e => key b.branchId = key e.branchId)
    (db .account) fun p a => key p.1.branchId = key a.branchId

theorem conditionRows_eq (db : Db) :
    Branches.conditionRows db = (db .branch).flatMap (branchRows db) := by
  rw [Branches.conditionRows, Relational.leftJoin_single (db .branch), Relational.leftJoin_flatMap]
  rfl

theorem branchRows_branch {db : Db} {b : Branch} {p : (Branch × Option Employee) × Option Account}
    (mem : p ∈ branchRows db b) : p.1.1 = b :=
  List.mem_singleton.mp (Relational.leftJoin_left (Relational.leftJoin_left mem))

theorem branchRows_employee {db : Db} {b : Branch} {e : Employee} :
    (∃ p ∈ branchRows db b, p.1.2 = some e) ↔ e ∈ staffOf db b := by
  simp only [staffOf, List.mem_filter, decide_eq_true_eq]
  constructor
  · rintro ⟨⟨⟨b', o⟩, a⟩, mem, rfl⟩
    have left := Relational.leftJoin_left mem
    obtain ⟨own, found, same⟩ := Relational.mem_leftJoin.mp left
    rw [List.mem_singleton.mp own] at same
    exact ⟨found, of_decide_eq_true same⟩
  · rintro ⟨found, same⟩
    have left : (b, some e) ∈ Relational.leftJoin [b] (db .employee) fun b e =>
        key b.branchId = key e.branchId :=
      Relational.mem_leftJoin.mpr ⟨List.mem_singleton_self b, found, decide_eq_true same⟩
    obtain ⟨a, mem⟩ := Relational.exists_leftJoin (db .account)
      (fun p a => key p.1.branchId = key a.branchId) left
    exact ⟨_, mem, rfl⟩

theorem branchRows_account {db : Db} {b : Branch} {a : Account} :
    (∃ p ∈ branchRows db b, p.2 = some a) ↔ a ∈ accountsAt db b := by
  simp only [accountsAt, List.mem_filter, decide_eq_true_eq]
  constructor
  · rintro ⟨⟨p, o⟩, mem, rfl⟩
    obtain ⟨left, found, same⟩ := Relational.mem_leftJoin.mp mem
    have own := List.mem_singleton.mp (Relational.leftJoin_left left)
    rw [own] at same
    exact ⟨found, of_decide_eq_true same⟩
  · rintro ⟨found, same⟩
    obtain ⟨o, left⟩ := Relational.exists_leftJoin (db .employee)
      (fun b e => key b.branchId = key e.branchId) (List.mem_singleton_self b)
    exact ⟨((b, o), some a), Relational.mem_leftJoin.mpr ⟨left, found, decide_eq_true same⟩, rfl⟩

theorem branchRows_ne_nil (db : Db) (b : Branch) : branchRows db b ≠ [] := by
  obtain ⟨o, left⟩ := Relational.exists_leftJoin (db .employee)
    (fun b e => key b.branchId = key e.branchId) (List.mem_singleton_self b)
  obtain ⟨a, mem⟩ := Relational.exists_leftJoin (db .account)
    (fun p a => key p.1.branchId = key a.branchId) left
  exact List.ne_nil_of_mem mem

theorem filter_keys_nodup {db : Db} (valid : db.Valid) {t : Table} (p : Row t → Bool) :
    (((db t).filter p).map (rowKey t)).Nodup :=
  (valid.ids t).sublist (List.filter_sublist.map _)

theorem count_employees {db : Db} (valid : db.Valid) (b : Branch) :
    Relational.countDistinct (fun p => p.1.2.map fun e => key e.employeeId) (branchRows db b) =
      (staffOf db b).length := by
  have nodup : ((staffOf db b).map (rowKey .employee)).Nodup := filter_keys_nodup valid _
  rw [Relational.countDistinct_eq nodup, List.length_map]
  intro k
  simp only [List.mem_map, ← branchRows_employee, Option.map_eq_some_iff]
  constructor
  · rintro ⟨p, mem, e, found, same⟩
    exact ⟨e, ⟨p, mem, found⟩, same⟩
  · rintro ⟨e, ⟨p, mem, found⟩, same⟩
    exact ⟨p, mem, e, found, same⟩

theorem count_accounts {db : Db} (valid : db.Valid) (b : Branch) :
    Relational.countDistinct (fun p => p.2.map fun a => key a.accountId) (branchRows db b) =
      (accountsAt db b).length := by
  have nodup : ((accountsAt db b).map (rowKey .account)).Nodup := filter_keys_nodup valid _
  rw [Relational.countDistinct_eq nodup, List.length_map]
  intro k
  simp only [List.mem_map, ← branchRows_account, Option.map_eq_some_iff]
  constructor
  · rintro ⟨p, mem, a, found, same⟩
    exact ⟨a, ⟨p, mem, found⟩, same⟩
  · rintro ⟨a, ⟨p, mem, found⟩, same⟩
    exact ⟨p, mem, a, found, same⟩

theorem withConditions_exact {db : Db} (valid : db.Valid) (minEmployees minAccounts : Int) :
    ∃ rows, (Branches.withConditions minEmployees minAccounts).run db = .ok (rows, db) ∧
      rows.Perm ((db .branch).filterMap (conditionsOf db minEmployees minAccounts)) := by
  refine ⟨_, rfl, List.Perm.of_eq ?_⟩
  rw [conditionRows_eq, Relational.filterMap_groupBy
    (valid.uniques .branch Branch.branchName (by simp [uniques]))
    (fun b _ p mem => by rw [branchRows_branch mem]) _ (by simp)]
  apply List.filterMap_congr
  intro b _
  rw [count_employees valid, count_accounts valid, conditionsOf]
  cases rows : branchRows db b with
  | nil => exact absurd rows (branchRows_ne_nil db b)
  | cons p ps =>
      have own : p.1.1 = b := branchRows_branch (by rw [rows]; exact List.mem_cons_self)
      simp only [List.head?_cons, Option.map_some, own]

/-! ## Customers by the money they move -/

def accountsOf (db : Db) (c : Customer) : List Account :=
  (db .account).filter fun a => key c.customerId = key a.customerId

/-- The ledger rows with an account of the customer on a side. -/
def ledgerOf (db : Db) (c : Customer) : List Transaction :=
  (db .transaction).filter fun t => (accountsOf db c).any fun a => Transactions.names a.accountId t

def internal (db : Db) (c : Customer) (t : Transaction) : Bool :=
  (accountsOf db c).any fun a => (accountsOf db c).any fun b =>
    key a.accountId ≠ key b.accountId && key t.fromAccountId = key a.accountId &&
      t.toAccountId.any fun receiver => key receiver = key b.accountId

def internalOf (db : Db) (c : Customer) : List Transaction :=
  (db .transaction).filter (internal db c)

def amounts (ledger : List Transaction) : Int := (ledger.map Transaction.amount).sum

/-- The row a customer is due: every ledger row counts once. -/
def highValueOf (db : Db) (minimum : Decimal) (c : Customer) : Option HighValue :=
  if ledgerOf db c ≠ [] ∧ minimum.ltCents (amounts (ledgerOf db c)) then
    some ⟨c.customerId, c.firstName, c.lastName, amounts (ledgerOf db c)⟩
  else none

def reportedOf (db : Db) (minimum : Decimal) (c : Customer) : Option HighValue :=
  let total := amounts (ledgerOf db c) + amounts (internalOf db c)
  if ledgerOf db c ≠ [] ∧ minimum.ltCents total then
    some ⟨c.customerId, c.firstName, c.lastName, total⟩
  else none

def customerBlock (db : Db) (c : Customer) : List ((Customer × Account) × Transaction) :=
  Relational.join (Relational.join [c] (db .account) fun c a => key c.customerId = key a.customerId)
    (db .transaction) fun p t => Transactions.names p.2.accountId t

theorem customerRows_eq (db : Db) :
    Transactions.customerRows db = (db .customer).flatMap (customerBlock db) := by
  rw [Transactions.customerRows, Relational.join_single (db .customer), Relational.join_flatMap]
  rfl

theorem mem_customerBlock {db : Db} {c : Customer} {p : (Customer × Account) × Transaction} :
    p ∈ customerBlock db c ↔ p.1.1 = c ∧ p.1.2 ∈ accountsOf db c ∧ p.2 ∈ db .transaction ∧
      Transactions.names p.1.2.accountId p.2 = true := by
  simp only [customerBlock, Relational.mem_join, List.mem_singleton, accountsOf, List.mem_filter]
  constructor
  · rintro ⟨⟨rfl, found, same⟩, rest⟩
    exact ⟨rfl, ⟨found, same⟩, rest⟩
  · rintro ⟨rfl, ⟨found, same⟩, rest⟩
    exact ⟨⟨rfl, found, same⟩, rest⟩

theorem ledgerOf_eq_nil {db : Db} {c : Customer} : ledgerOf db c = [] ↔ customerBlock db c = [] := by
  rw [List.eq_nil_iff_forall_not_mem, List.eq_nil_iff_forall_not_mem]
  simp only [ledgerOf, List.mem_filter, List.any_eq_true, mem_customerBlock]
  constructor
  · rintro none ⟨⟨c', a⟩, t⟩ ⟨-, own, mem, names⟩
    exact none t ⟨mem, a, own, names⟩
  · rintro none t ⟨mem, a, own, names⟩
    exact none ⟨⟨c, a⟩, t⟩ ⟨rfl, own, mem, names⟩

theorem names_iff_sides {id : String} {t : Transaction} : Transactions.names id t = true ↔
    key t.fromAccountId = key id ∨ ∃ receiver, t.toAccountId = some receiver ∧
      key receiver = key id := by
  simp [Transactions.names, Option.any_eq_true]

theorem internal_iff {db : Db} {c : Customer} {t : Transaction} : internal db c t = true ↔
    ∃ a ∈ accountsOf db c, ∃ b ∈ accountsOf db c, key a.accountId ≠ key b.accountId ∧
      key t.fromAccountId = key a.accountId ∧
      ∃ receiver, t.toAccountId = some receiver ∧ key receiver = key b.accountId := by
  simp [internal, Option.any_eq_true, and_assoc]

def joinedTo (db : Db) (c : Customer) (t : Transaction) : List Account :=
  (accountsOf db c).filter fun a => Transactions.names a.accountId t

theorem mem_joinedTo {db : Db} {c : Customer} {t : Transaction} {a : Account} :
    a ∈ joinedTo db c t ↔ a ∈ accountsOf db c ∧ (key t.fromAccountId = key a.accountId ∨
      ∃ receiver, t.toAccountId = some receiver ∧ key receiver = key a.accountId) := by
  rw [joinedTo, List.mem_filter, names_iff_sides]

section
variable {db : Db} {c : Customer} {t : Transaction}

theorem joinedTo_two {a b : Account} (ha : a ∈ joinedTo db c t) (hb : b ∈ joinedTo db c t)
    (ne : key a.accountId ≠ key b.accountId) : internal db c t = true ∧
      ∀ d ∈ joinedTo db c t,
        key d.accountId = key a.accountId ∨ key d.accountId = key b.accountId := by
  obtain ⟨ownA, sideA⟩ := mem_joinedTo.mp ha
  obtain ⟨ownB, sideB⟩ := mem_joinedTo.mp hb
  have third {d : Account} (hd : d ∈ joinedTo db c t) := (mem_joinedTo.mp hd).2
  rcases sideA with fromA | ⟨r, toA, sameA⟩ <;> rcases sideB with fromB | ⟨r', toB, sameB⟩
  · exact absurd (fromA.symm.trans fromB) ne
  · refine ⟨internal_iff.mpr ⟨a, ownA, b, ownB, ne, fromA, r', toB, sameB⟩, fun d hd => ?_⟩
    rcases third hd with fromD | ⟨r, toD, sameD⟩
    · exact Or.inl (fromD.symm.trans fromA)
    · obtain rfl : r = r' := Option.some.inj (toD.symm.trans toB)
      exact Or.inr (sameD.symm.trans sameB)
  · refine ⟨internal_iff.mpr ⟨b, ownB, a, ownA, ne.symm, fromB, r, toA, sameA⟩, fun d hd => ?_⟩
    rcases third hd with fromD | ⟨r', toD, sameD⟩
    · exact Or.inr (fromD.symm.trans fromB)
    · obtain rfl : r = r' := Option.some.inj (toA.symm.trans toD)
      exact Or.inl (sameD.symm.trans sameA)
  · obtain rfl : r = r' := Option.some.inj (toA.symm.trans toB)
    exact absurd (sameA.symm.trans sameB) ne

theorem joinedTo_internal (between : internal db c t = true) :
    ∃ a ∈ joinedTo db c t, ∃ b ∈ joinedTo db c t, key a.accountId ≠ key b.accountId := by
  obtain ⟨a, ownA, b, ownB, ne, sent, received⟩ := internal_iff.mp between
  exact ⟨a, mem_joinedTo.mpr ⟨ownA, Or.inl sent⟩, b, mem_joinedTo.mpr ⟨ownB, Or.inr received⟩, ne⟩

/-- A ledger row is joined to two accounts of a customer at most, and to two only when it is
internal. -/
theorem count_sides (valid : db.Valid) (c : Customer) (t : Transaction) :
    (joinedTo db c t).length =
      (if (accountsOf db c).any fun a => Transactions.names a.accountId t then 1 else 0) +
        if internal db c t then 1 else 0 := by
  have nodup : ((joinedTo db c t).map (rowKey .account)).Nodup :=
    (filter_keys_nodup valid _).sublist (List.filter_sublist.map _)
  have any : ((accountsOf db c).any fun a => Transactions.names a.accountId t) =
      !(joinedTo db c t).isEmpty := by
    rw [Bool.eq_iff_iff]
    simp [joinedTo]
  have two {a b : Account} := @joinedTo_two _ db c t a b
  have one := @joinedTo_internal _ db c t
  rw [any]
  generalize joinedTo db c t = rows at *
  rcases rows with _ | ⟨a, _ | ⟨b, _ | ⟨d, rest⟩⟩⟩
  · have none : internal db c t = false := by
      rw [Bool.eq_false_iff]
      intro between
      obtain ⟨a, mem, -⟩ := one between
      cases mem
    simp [none]
  · have none : internal db c t = false := by
      rw [Bool.eq_false_iff]
      intro between
      obtain ⟨a', mem, b, mem', ne⟩ := one between
      rw [List.mem_singleton.mp mem, List.mem_singleton.mp mem'] at ne
      exact ne rfl
    simp [none]
  · have ne : rowKey .account a ≠ rowKey .account b := by simpa using nodup
    simp [(two (by simp) (by simp) ne).1]
  · simp only [List.map_cons, List.nodup_cons, List.mem_cons, not_or] at nodup
    rcases (two (by simp) (by simp) nodup.1.1).2 d (by simp) with same | same
    · exact absurd same.symm nodup.1.2.1
    · exact absurd same.symm nodup.2.1.1

end

theorem customerBlock_sum {db : Db} (valid : db.Valid) (c : Customer) :
    ((customerBlock db c).map fun p => p.2.amount).sum =
      amounts (ledgerOf db c) + amounts (internalOf db c) := by
  rw [customerBlock, Relational.sum_join _ _ _ Transaction.amount, amounts, amounts, ledgerOf,
    internalOf, Relational.sum_filter, Relational.sum_filter, ← List.sum_map_add]
  congr 1
  apply List.map_congr_left
  intro t _
  have rows : ((Relational.join [c] (db .account) fun c a =>
      key c.customerId = key a.customerId).filter fun p => Transactions.names p.2.accountId t).length =
        (joinedTo db c t).length := by
    simp [Relational.join, joinedTo, accountsOf, List.filter_map, Function.comp_def]
  rw [rows, count_sides valid c t]
  by_cases any : (accountsOf db c).any fun a => Transactions.names a.accountId t <;>
    by_cases between : internal db c t <;> simp [any, between, two_mul]

omit [Collation] in
theorem byTotal_sorted (rows : List HighValue) :
    ((rows.mergeSort fun r s => s.totalTransaction ≤ r.totalTransaction).map
      HighValue.totalTransaction).Pairwise (· ≥ ·) := by
  rw [List.pairwise_map]
  have sorted : (rows.mergeSort fun r s => s.totalTransaction ≤ r.totalTransaction).Pairwise
      fun r s => decide (s.totalTransaction ≤ r.totalTransaction) := List.pairwise_mergeSort
    (fun a b c hab hbc => by simp only [decide_eq_true_eq] at *; omega)
    (fun a b => by simp only [Bool.or_eq_true, decide_eq_true_eq]; omega) rows
  exact sorted.imp fun h => of_decide_eq_true h

theorem highTransactions_run {db : Db} (valid : db.Valid) (minimum : Decimal) :
    ∃ rows, (Transactions.customersWithHighTransactions minimum).run db = .ok (rows, db) ∧
      rows.Perm ((db .customer).filterMap (reportedOf db minimum)) ∧
      (rows.map HighValue.totalTransaction).Pairwise (· ≥ ·) := by
  refine ⟨_, rfl, ?_, ?_⟩
  · refine (List.mergeSort_perm _ _).trans (List.Perm.of_eq ?_)
    have labels : ((db .customer).map fun c =>
        (key c.customerId, key c.firstName, key c.lastName)).Nodup := by
      have ids : ((db .customer).map fun c => key c.customerId).Nodup := valid.ids .customer
      exact List.Nodup.of_map Prod.fst (by simpa [List.map_map, Function.comp_def] using ids)
    rw [customerRows_eq, Relational.filterMap_groupBy labels
      (fun c _ p mem => by rw [(mem_customerBlock.mp mem).1]) _ (by simp)]
    apply List.filterMap_congr
    intro c _
    rw [customerBlock_sum valid, reportedOf]
    cases rows : customerBlock db c with
    | nil => simp [ledgerOf_eq_nil.mpr rows]
    | cons p ps =>
        have own : p.1.1 = c := (mem_customerBlock.mp (by rw [rows]; exact List.mem_cons_self)).1
        have takesPart : ledgerOf db c ≠ [] := by
          rw [Ne, ledgerOf_eq_nil, rows]
          exact List.cons_ne_nil p ps
        simp [own, takesPart]
  · exact byTotal_sorted _

/-- The customers the query is for, each with the sum of its distinct ledger rows, by falling
sums. -/
def HighValueLaw (db : Db) (minimum : Decimal) : Prop :=
  ∃ rows, (Transactions.customersWithHighTransactions minimum).run db = .ok (rows, db) ∧
    rows.Perm ((db .customer).filterMap (highValueOf db minimum)) ∧
    (rows.map HighValue.totalTransaction).Pairwise (· ≥ ·)

omit [Collation] in
theorem ltCents_mono {x : Decimal} {c d : Int} (le : c ≤ d) (lt : x.ltCents c = true) :
    x.ltCents d = true := by
  unfold Decimal.ltCents at lt ⊢
  split at lt <;> rename_i h
  · rw [if_pos h]
    exact decide_eq_true (lt_of_lt_of_le (of_decide_eq_true lt) le)
  · rw [if_neg h]
    have power : (0 : Int) ≤ 10 ^ (-(x.exponent + 2)).toNat := Int.pow_nonneg (by decide)
    have scaled := Int.mul_le_mul_of_nonneg_right le power
    exact decide_eq_true (lt_of_lt_of_le (of_decide_eq_true lt) scaled)

theorem amounts_pos {db : Db} (valid : db.Valid) {ledger : List Transaction}
    (sub : ∀ t ∈ ledger, t ∈ db .transaction) (filled : ledger ≠ []) : 0 < amounts ledger := by
  apply List.sum_pos
  · intro amount mem
    obtain ⟨t, found, rfl⟩ := List.mem_map.mp mem
    exact of_decide_eq_true (valid.checks .transaction t (sub t found))
  · simpa using filled

theorem internalOf_ledger {db : Db} {c : Customer} (empty : ledgerOf db c = []) :
    internalOf db c = [] := by
  rw [List.eq_nil_iff_forall_not_mem] at empty ⊢
  intro t mem
  obtain ⟨mem, between⟩ := List.mem_filter.mp mem
  obtain ⟨a, own, b, -, -, sent, -⟩ := internal_iff.mp between
  exact empty t (List.mem_filter.mpr ⟨mem, List.any_eq_true.mpr
    ⟨a, own, names_iff_sides.mpr (Or.inl sent)⟩⟩)

theorem reportedOf_iff {db : Db} (valid : db.Valid) (minimum : Decimal) (c : Customer) :
    reportedOf db minimum c = highValueOf db minimum c ↔ internalOf db c = [] ∨
      minimum.ltCents (amounts (ledgerOf db c) + amounts (internalOf db c)) = false := by
  by_cases external : internalOf db c = []
  · have zero : amounts (internalOf db c) = 0 := by
      rw [external]
      rfl
    simp only [reportedOf, highValueOf, zero, add_zero, true_iff]
    exact Or.inl external
  have takesPart : ledgerOf db c ≠ [] := fun empty => external (internalOf_ledger empty)
  have positive : 0 < amounts (internalOf db c) :=
    amounts_pos valid (fun t mem => (List.mem_filter.mp mem).1) external
  have mono := ltCents_mono (x := minimum) (show amounts (ledgerOf db c) ≤
    amounts (ledgerOf db c) + amounts (internalOf db c) by omega)
  rw [reportedOf, highValueOf]
  cases above : minimum.ltCents (amounts (ledgerOf db c) + amounts (internalOf db c)) with
  | false =>
      have below : minimum.ltCents (amounts (ledgerOf db c)) = false := by
        rw [Bool.eq_false_iff]
        intro h
        rw [mono h] at above
        cases above
      simp [below]
  | true =>
      simp only [takesPart, external, ne_eq, not_false_eq_true, true_and, if_true, false_or, reduceCtorEq,
        iff_false]
      split
      · intro same
        have totals := congrArg HighValue.totalTransaction (Option.some.inj same)
        simp only at totals
        omega
      · exact Option.some_ne_none _

theorem highTransactions_iff {db : Db} (valid : db.Valid) (minimum : Decimal) :
    HighValueLaw db minimum ↔ ∀ c ∈ db .customer, internalOf db c = [] ∨
      minimum.ltCents (amounts (ledgerOf db c) + amounts (internalOf db c)) = false := by
  obtain ⟨rows, run, reported, sorted⟩ := highTransactions_run valid minimum
  have labelled (c : Customer) (r : HighValue) :
      (reportedOf db minimum c = some r → key r.customerId = rowKey .customer c) ∧
        (highValueOf db minimum c = some r → key r.customerId = rowKey .customer c) := by
    constructor
    · intro h
      rw [reportedOf] at h
      split at h <;> cases h
      rfl
    · intro h
      rw [highValueOf] at h
      split at h <;> cases h
      rfl
  have pointwise := Relational.filterMap_perm_iff (valid.ids .customer)
    (fun c _ r => (labelled c r).1) (fun c _ r => (labelled c r).2)
  simp only [← reportedOf_iff valid minimum]
  rw [← pointwise]
  constructor
  · rintro ⟨rows', run', due, -⟩
    rw [run] at run'
    cases run'
    exact reported.symm.trans due
  · exact fun due => ⟨rows, run, reported.trans due, sorted⟩

/-! ## Query 3: the top resolvers -/

/-- The row the query has of an employee, one of `employees`, when each solved `count` tickets. -/
def topOf (employees : List Employee) (count : Employee → Nat) (e : Employee) : Option TopResolver :=
  if 0 < count e ∧ ∀ other ∈ employees, count other ≤ count e then
    some ⟨e.employeeId, e.firstName, e.lastName, count e⟩
  else none

def tallyOf (count : Employee → Nat) (e : Employee) : Option TopResolver :=
  if 0 < count e then some ⟨e.employeeId, e.firstName, e.lastName, count e⟩ else none

def resolvedBy (tickets : List Ticket) (e : Employee) : List Ticket :=
  tickets.filter fun t => key e.employeeId = key t.employeeId && t.status = .resolved

theorem resolvedTickets_eq {db : Db} (ids : ((db .employee).map (rowKey .employee)).Nodup) :
    SupportTickets.resolvedTickets db = (db .employee).filterMap
      (tallyOf fun e => (resolvedBy (db .customerSupport) e).length) := by
  have labels : ((db .employee).map fun e =>
      (key e.employeeId, key e.firstName, key e.lastName)).Nodup := by
    have keys : ((db .employee).map fun e => key e.employeeId).Nodup := ids
    exact List.Nodup.of_map Prod.fst (by simpa [List.map_map, Function.comp_def] using keys)
  have rows : (Relational.join (db .employee) (db .customerSupport) fun e t =>
      key e.employeeId = key t.employeeId).filter (fun p => p.2.status = .resolved) =
      (db .employee).flatMap fun e =>
        (resolvedBy (db .customerSupport) e).map fun t => (e, t) :=
    Relational.join_filter _ _ _ fun t : Ticket => t.status = .resolved
  rw [SupportTickets.resolvedTickets, rows]
  refine (Relational.filterMap_groupBy labels ?_ _ rfl).trans ?_
  · intro e _ p mem
    obtain ⟨t, _, rfl⟩ := List.mem_map.mp mem
    rfl
  · apply List.filterMap_congr
    intro e _
    rw [tallyOf]
    cases resolvedBy (db .customerSupport) e with
    | nil => rfl
    | cons t ts => simp

omit [Collation] in
theorem tallyOf_max {employees : List Employee} {count : Employee → Nat} {e : Employee}
    (mem : e ∈ employees) (some_solved : 0 < count e) :
    some (count e) = ((employees.filterMap (tallyOf count)).map (·.resolvedTickets)).max? ↔
      ∀ other ∈ employees, count other ≤ count e := by
  have tallied {n : Nat} : n ∈ (employees.filterMap (tallyOf count)).map (·.resolvedTickets) ↔
      ∃ other ∈ employees, 0 < count other ∧ count other = n := by
    simp only [List.mem_map, List.mem_filterMap, tallyOf]
    constructor
    · intro found
      obtain ⟨r, ⟨other, mem, found⟩, rfl⟩ := found
      split at found
      · cases found
        exact ⟨other, mem, ‹_›, rfl⟩
      · cases found
    · intro found
      obtain ⟨other, mem, positive, rfl⟩ := found
      exact ⟨_, ⟨other, mem, if_pos positive⟩, rfl⟩
  rw [eq_comm, List.max?_eq_some_iff]
  constructor
  · intro most other mem'
    by_cases positive : 0 < count other
    · exact most.2 _ (tallied.mpr ⟨other, mem', positive, rfl⟩)
    · omega
  · intro most
    refine ⟨tallied.mpr ⟨e, mem, some_solved, rfl⟩, fun n found => ?_⟩
    obtain ⟨other, mem', -, rfl⟩ := tallied.mp found
    exact most other mem'

theorem topResolvers_run {db : Db} (ids : ((db .employee).map (rowKey .employee)).Nodup) :
    SupportTickets.topResolvers.run db = .ok ((db .employee).filterMap (topOf (db .employee) fun e =>
      (resolvedBy (db .customerSupport) e).length), db) := by
  simp only [SupportTickets.topResolvers, Sql.run, resolvedTickets_eq ids, List.filter_filterMap]
  congr 2
  apply List.filterMap_congr
  intro e mem
  rw [topOf]
  by_cases positive : 0 < (resolvedBy (db .customerSupport) e).length
  · have most := @tallyOf_max _ (fun e => (resolvedBy (db .customerSupport) e).length) e mem positive
    have row : tallyOf (fun e => (resolvedBy (db .customerSupport) e).length) e = some
        ⟨e.employeeId, e.firstName, e.lastName, (resolvedBy (db .customerSupport) e).length⟩ :=
      if_pos positive
    rw [row, Option.filter_some]
    simp only [most, positive, true_and, decide_eq_true_eq]
  · rw [tallyOf, if_neg positive, if_neg fun top => positive top.1, Option.filter_none]

end

/-! ## Runs of the queries -/

section
attribute [local instance] foldCase clearText

theorem withConditions_opened : ∃ rows,
    (Branches.withConditions (-1) 2).run opened = .ok (rows, opened) ∧
      rows.Perm ((opened .branch).filterMap (conditionsOf opened (-1) 2)) :=
  withConditions_exact reachable_opened.valid (-1) 2

/-- Ann moves 30.00 from her account to her other one. -/
def savedUp : Db :=
  replay [(.createAccount "ann" .savings "north", noon "a-2"),
    (.transfer ann "a-1" "a-2" ⟨30, 0⟩, noon "t-1")] opened

/-- And pays Bob 20.00. -/
def paidOut : Db := replay [(.transfer ann "a-1" "b-1" ⟨20, 0⟩, noon "t-2")] savedUp

/-- Of the 80.00 that are reported for Ann, 50.00 are hers. -/
theorem highTransactions_paidOut : Reachable paidOut ∧
    HighValueLaw paidOut ⟨80, 0⟩ ∧ ¬HighValueLaw paidOut ⟨40, 0⟩ := by
  have reached : Reachable paidOut := (reachable_opened.replay _).replay _
  refine ⟨reached, ?_, ?_⟩
  · rw [highTransactions_iff reached.valid]
    decide +kernel
  · rw [highTransactions_iff reached.valid]
    decide +kernel

/-- The 30.00 count twice, so Ann is above 40.00. -/
theorem internal_counts_twice : Reachable savedUp ∧ ¬HighValueLaw savedUp ⟨40, 0⟩ ∧
    (savedUp .customer).filterMap (highValueOf savedUp ⟨40, 0⟩) = [] ∧
    ∃ rows, (Transactions.customersWithHighTransactions ⟨40, 0⟩).run savedUp = .ok (rows, savedUp) ∧
      rows.Perm [⟨"ann", "Ann", "Ann", 6000⟩] := by
  have reached : Reachable savedUp := reachable_opened.replay _
  have due : (savedUp .customer).filterMap (highValueOf savedUp ⟨40, 0⟩) = [] := by decide +kernel
  have counted : (savedUp .customer).filterMap (reportedOf savedUp ⟨40, 0⟩) =
      [⟨"ann", "Ann", "Ann", 6000⟩] := by decide +kernel
  obtain ⟨rows, run, reported, -⟩ := highTransactions_run reached.valid ⟨40, 0⟩
  rw [counted] at reported
  refine ⟨reached, ?_, due, rows, run, reported⟩
  rintro ⟨rows', run', same, -⟩
  rw [run] at run'
  cases run'
  rw [due] at same
  exact absurd (reported.symm.trans same) (by simp)

end

end Corebank
