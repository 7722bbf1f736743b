import Corebank.Proof.ReadIsolation

/-! # Collection and item endpoints -/

namespace Corebank
open Library

section
variable [Collation]

/-- The item endpoints answer with the rows the collection endpoints list, and no others. -/
def ListsAgree (actor : Actor) (db : Db) : Prop :=
  ∃ accounts, ((AccountService.listForActor actor).run db).1 = .ok accounts ∧
    (∀ id a, ((AccountService.get id actor).run db).1 = .ok a ↔
      a ∈ accounts ∧ key a.accountId = key id) ∧
    ∀ id t, ((TransactionService.get id actor).run db).1 = .ok t ↔
      key t.transactionId = key id ∧ ∃ a ∈ accounts, ∃ rows,
        ((TransactionService.listByAccount a.accountId actor).run db).1 = .ok rows ∧ t ∈ rows

def Transaction.sides (t : Transaction) : List String := t.fromAccountId :: t.toAccountId.toList

/-- The database's comparison of the actor's customer id, and of the ids of its accounts, tells
no more than Python's. -/
structure SpelledAsOwned (actor : Actor) (db : Db) : Prop where
  owners : ∀ c, actor.customerId = some c → ∀ a ∈ db .account, key a.customerId = key c →
    a.customerId = c ∧ c ≠ ""
  /-- A ledger row of the actor names an account of the actor by an id that is not empty. -/
  sides : ∀ t ∈ db .transaction,
    (∃ id ∈ t.sides, ∃ a, db.find .account id = some a ∧ actor.customerId = some a.customerId) →
    ∃ id ∈ t.sides, id ≠ "" ∧
      ∃ a, db.find .account id = some a ∧ actor.customerId = some a.customerId

/-! ## The four endpoints -/

variable {actor : Actor} (notAdmin : actor.role ≠ .admin) {db : Db} (valid : db.Valid)

theorem listForActor_run : ((AccountService.listForActor actor).run db).1 =
    .ok (if actor.role = .admin then db .account
      else (db .account).filter fun a => actor.customerId.any fun c => key a.customerId = key c) := by
  by_cases admin : actor.role = .admin
  · rw [AccountService.listForActor, if_pos admin, if_pos admin]
    rfl
  · rw [AccountService.listForActor, if_neg admin, if_neg admin]
    rfl

include notAdmin in
omit [Collation] in
theorem ensureOwner_iff (id : String) : ensureOwnerOrAdmin actor (some id) = .ok () ↔
    actor.customerId = some id ∧ id ≠ "" := by
  unfold ensureOwnerOrAdmin
  rw [if_neg notAdmin]
  split
  · rename_i refused
    simp only [Option.some.injEq, reduceCtorEq, false_or] at refused
    simp
    tauto
  · rename_i passed
    simp only [Option.some.injEq, reduceCtorEq, false_or, not_or, not_not] at passed
    simp [passed]

include notAdmin in
theorem getAccount_iff {id : String} {a : Account} :
    ((AccountService.get id actor).run db).1 = .ok a ↔
      db.find .account id = some a ∧ actor.customerId = some a.customerId ∧ a.customerId ≠ "" := by
  rw [AccountService.get, Accounts.get, fetchOwned_run]
  cases db.find .account id with
  | none => simp
  | some r =>
      have owner := ensureOwner_iff notAdmin r.customerId
      cases passed : ensureOwnerOrAdmin actor (some r.customerId) with
      | ok _ =>
          have own := owner.mp passed
          simp only [passed, Except.map, Except.ok.injEq, Option.some.injEq]
          constructor
          · rintro rfl
            exact ⟨rfl, own⟩
          · exact And.left
      | error e =>
          simp only [passed, Except.map, reduceCtorEq, false_iff, Option.some.injEq]
          rintro ⟨rfl, own⟩
          rw [owner.mpr own] at passed
          cases passed

include notAdmin in
theorem listByAccount_iff {id : String} {rows : List Transaction} :
    ((TransactionService.listByAccount id actor).run db).1 = .ok rows ↔
      rows = Transactions.newestFirst ((db .transaction).filter (Transactions.names id)) ∧
      ∃ a, db.find .account id = some a ∧ actor.customerId = some a.customerId ∧
        a.customerId ≠ "" := by
  rw [listByAccount_run]
  cases db.find .account id with
  | none => simp
  | some r =>
      have owner := ensureOwner_iff notAdmin r.customerId
      cases passed : ensureOwnerOrAdmin actor (some r.customerId) with
      | ok _ =>
          have own := owner.mp passed
          simp only [passed, Except.map, Except.ok.injEq]
          constructor
          · rintro rfl
            exact ⟨rfl, r, rfl, own⟩
          · exact fun h => h.1.symm
      | error e =>
          simp only [passed, Except.map, reduceCtorEq, false_iff]
          rintro ⟨-, a, ⟨⟩, own⟩
          rw [owner.mpr own] at passed
          cases passed

theorem names_iff {id : String} {t : Transaction} :
    Transactions.names id t = true ↔ ∃ side ∈ t.sides, key side = key id := by
  cases receiver : t.toAccountId with
  | none => simp [Transactions.names, Transaction.sides, receiver]
  | some receiverId => simp [Transactions.names, Transaction.sides, receiver]

theorem any_ownSide {t : Transaction} :
    [some t.fromAccountId, t.toAccountId].any (ownSide actor db) = true ↔
      ∃ id ∈ t.sides, id ≠ "" ∧
        ∃ a, db.find .account id = some a ∧ actor.customerId = some a.customerId := by
  have own (id : String) : ownSide actor db (some id) = true ↔ id ≠ "" ∧
      ∃ a, db.find .account id = some a ∧ actor.customerId = some a.customerId := by
    cases found : db.find .account id with
    | none => simp [ownSide, found]
    | some a =>
        have turned : some a.customerId = actor.customerId ↔ actor.customerId = some a.customerId :=
          eq_comm
        simp [ownSide, found, turned]
  have absent : ownSide actor db none = false := rfl
  cases receiver : t.toAccountId with
  | none => simp [Transaction.sides, receiver, own, absent]
  | some receiverId => simp [Transaction.sides, receiver, own]

include notAdmin in
theorem getTransaction_iff {id : String} {t : Transaction} :
    ((TransactionService.get id actor).run db).1 = .ok t ↔
      db.find .transaction id = some t ∧ ∃ side ∈ t.sides, side ≠ "" ∧
        ∃ a, db.find .account side = some a ∧ actor.customerId = some a.customerId := by
  rw [getTransaction_run notAdmin, ← any_ownSide]
  cases db.find .transaction id with
  | none => simp
  | some txn =>
      by_cases sees : [some txn.fromAccountId, txn.toAccountId].any (ownSide actor db) = true
      · simp only [sees, if_true, Except.ok.injEq, Option.some.injEq]
        constructor
        · rintro rfl
          exact ⟨rfl, sees⟩
        · exact And.left
      · simp only [sees, if_false, reduceCtorEq, false_iff, Option.some.injEq]
        rintro ⟨rfl, seen⟩
        exact sees seen

/-! ## When they agree -/

def mine (actor : Actor) (a : Account) : Bool := actor.customerId.any fun c => key a.customerId = key c

theorem mine_iff {a : Account} :
    mine actor a = true ↔ ∃ c, actor.customerId = some c ∧ key a.customerId = key c := by
  cases named : actor.customerId <;> simp [mine, named]

theorem mine_of_own {a : Account} (own : actor.customerId = some a.customerId) :
    mine actor a = true :=
  mine_iff.mpr ⟨_, own, rfl⟩

theorem mem_newestFirst {id : String} {t : Transaction} :
    t ∈ Transactions.newestFirst ((db .transaction).filter (Transactions.names id)) ↔
      t ∈ db .transaction ∧ ∃ side ∈ t.sides, key side = key id := by
  rw [Transactions.newestFirst, List.mem_mergeSort, List.mem_filter, names_iff]

include notAdmin valid

theorem listsAgree_of_spelled (spelled : SpelledAsOwned actor db) : ListsAgree actor db := by
  have owned {a : Account} (mem : a ∈ db .account) (chosen : mine actor a = true) :
      actor.customerId = some a.customerId ∧ a.customerId ≠ "" := by
    obtain ⟨c, named, same⟩ := mine_iff.mp chosen
    obtain ⟨rfl, filled⟩ := spelled.owners c named a mem same
    exact ⟨named, filled⟩
  refine ⟨(db .account).filter (mine actor), ?_, ?_, ?_⟩
  · rw [listForActor_run, if_neg notAdmin]
    rfl
  · intro id a
    rw [getAccount_iff notAdmin, List.mem_filter]
    constructor
    · rintro ⟨found, own, -⟩
      exact ⟨⟨Db.find_mem found, mine_of_own own⟩, Db.find_key found⟩
    · rintro ⟨⟨mem, chosen⟩, same⟩
      exact ⟨valid.find_of_mem mem same.symm, owned mem chosen⟩
  · intro id t
    rw [getTransaction_iff notAdmin]
    constructor
    · rintro ⟨found, side, among, -, a, account, own⟩
      have mem := Db.find_mem account
      refine ⟨Db.find_key found, a, List.mem_filter.mpr ⟨mem, mine_of_own own⟩, _,
        (listByAccount_iff notAdmin).mpr ⟨rfl, a, valid.find_of_mem mem rfl, own,
          (owned mem (mine_of_own own)).2⟩, ?_⟩
      exact mem_newestFirst.mpr ⟨Db.find_mem found, side, among, (Db.find_key account).symm⟩
    · rintro ⟨same, a, mem, rows, listed, present⟩
      obtain ⟨rfl, a', account, own, -⟩ := (listByAccount_iff notAdmin).mp listed
      obtain ⟨ledger, side, among, named⟩ := mem_newestFirst.mp present
      refine ⟨valid.find_of_mem ledger same.symm, spelled.sides t ledger ⟨side, among, a', ?_, own⟩⟩
      rw [db.find_congr .account named, account]

theorem spelled_of_listsAgree (agree : ListsAgree actor db) : SpelledAsOwned actor db := by
  obtain ⟨accounts, listed, items, rows⟩ := agree
  rw [listForActor_run, if_neg notAdmin] at listed
  cases listed
  have owned {a : Account} (mem : a ∈ db .account) (chosen : mine actor a = true) :
      actor.customerId = some a.customerId ∧ a.customerId ≠ "" :=
    ((getAccount_iff notAdmin).mp ((items a.accountId a).mpr
      ⟨List.mem_filter.mpr ⟨mem, chosen⟩, rfl⟩)).2
  refine ⟨fun c named a mem same => ?_, ?_⟩
  · obtain ⟨own, filled⟩ := owned mem (mine_iff.mpr ⟨c, named, same⟩)
    obtain rfl : c = a.customerId := Option.some.inj (named.symm.trans own)
    exact ⟨rfl, filled⟩
  · rintro t ledger ⟨side, among, a, account, own⟩
    have mem := Db.find_mem account
    have chosen := mine_of_own own
    exact ((getTransaction_iff notAdmin).mp ((rows t.transactionId t).mpr
      ⟨rfl, a, List.mem_filter.mpr ⟨mem, chosen⟩, _,
        (listByAccount_iff notAdmin).mpr ⟨rfl, a, valid.find_of_mem mem rfl, owned mem chosen⟩,
        mem_newestFirst.mpr ⟨ledger, side, among, (Db.find_key account).symm⟩⟩)).2

end

section
variable [Collation] [Werkzeug]

theorem listsAgree_iff {db : Db} (reached : Reachable db) {actor : Actor}
    (notAdmin : actor.role ≠ .admin) : ListsAgree actor db ↔ SpelledAsOwned actor db :=
  ⟨spelled_of_listsAgree notAdmin reached.valid, listsAgree_of_spelled notAdmin reached.valid⟩

end

/-! ## A user row with another spelling -/

attribute [local instance] foldCase clearText

/-- The user row of Ann calls her customer `ANN`, which the foreign key takes for `ann`. -/
def respelled : Db :=
  replay [(.createUser ⟨"ann", "secret", .user, some "ANN"⟩, noon "u-1")] opened

theorem reachable_respelled : Reachable respelled := reachable_opened.replay _

theorem listsAgree_iff_ann : ListsAgree ann opened ↔ SpelledAsOwned ann opened :=
  listsAgree_iff reachable_opened (by decide)

/-- She lists an account that she may not open. -/
theorem lists_disagree : Reachable respelled ∧ ∃ actor : Actor,
    ((AuthService.authenticate "ann" "secret").run respelled).1 = .ok actor ∧
      actor.role ≠ .admin ∧ ¬ListsAgree actor respelled ∧
      ((AccountService.listForActor actor).run respelled).1.map (·.map Account.accountId) =
        .ok ["a-1"] ∧
      ((AccountService.get "a-1" actor).run respelled).1 =
        .error (.app .forbidden "You do not have access to this resource") := by
  refine ⟨reachable_respelled, ⟨"u-1", .user, some "ANN"⟩, by decide +kernel, by decide, ?_,
    by decide +kernel, by decide +kernel⟩
  intro agree
  have spelled := spelled_of_listsAgree (by decide) reachable_respelled.valid agree
  have other : ∃ a ∈ respelled .account, key a.customerId = key "ANN" ∧ a.customerId ≠ "ANN" := by
    decide +kernel
  obtain ⟨a, mem, same, ne⟩ := other
  exact ne (spelled.owners "ANN" rfl a mem same).1

end Corebank
