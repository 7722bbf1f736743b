import Corebank.Proof.Transfer

/-!
# Spellings of an id

The database compares ids by their weights, `transfer` compares them as strings.
-/

namespace Corebank
open Library TransactionService

section
variable [Collation]

/-- The id as the row it denotes has it. -/
def Db.stored (db : Db) (id : String) : String :=
  ((db.find .account id).map Account.accountId).getD id

theorem stored_of_find {db : Db} {id : String} {r : Account} (found : db.find .account id = some r) :
    db.stored id = r.accountId := by
  simp [Db.stored, found]

theorem find_stored (db : Db) (id : String) :
    db.find .account (db.stored id) = db.find .account id := by
  cases found : db.find .account id with
  | none => simp [Db.stored, found]
  | some r =>
      rw [stored_of_find found, ← found]
      exact db.find_congr .account (Db.find_key found)

theorem stored_stored (db : Db) (id : String) : db.stored (db.stored id) = db.stored id := by
  conv_lhs => rw [Db.stored, find_stored]
  cases found : db.find .account id with
  | none => rfl
  | some r => simp [Db.stored, found]

theorem stored_eq {db : Db} {s r : String} (h : db.stored s = db.stored r) (ne : s ≠ r) :
    ∃ a, db.find .account s = some a ∧ db.find .account r = some a := by
  have same : db.find .account s = db.find .account r := by
    rw [← find_stored db s, h, find_stored]
  cases found : db.find .account s with
  | some a => exact ⟨a, rfl, same ▸ found⟩
  | none =>
      have missing := same ▸ found
      simp only [Db.stored, found, missing, Option.map_none, Option.getD_none] at h
      exact absurd h ne

/-! ## The locks of a transfer -/

def accountLock (a : Option Account) : List (Table × String) :=
  (a.map fun a => (Table.account, a.accountId)).toList

def lockOrder (db : Db) (s r : String) : List (Table × String) :=
  if s ≤ r then accountLock (db.find .account s) ++ accountLock (db.find .account r)
  else accountLock (db.find .account r) ++ accountLock (db.find .account s)

omit [Collation] in
theorem eraseDups_append_of_subset {α : Type} [BEq α] [LawfulBEq α] {xs ys : List α} (h : ys ⊆ xs) :
    (xs ++ ys).eraseDups = xs.eraseDups := by
  have nothing : ys.removeAll xs = [] := by
    rw [List.removeAll, List.filter_eq_nil_iff]
    intro y mem
    simpa using h mem
  rw [List.eraseDups_append, nothing]
  simp

theorem updateRow_locks {db : Db} {id : String} {change : AccountChange} {α : Type}
    (next : Nat → Sql α) :
    (updateRow .account id change >>= next).locks db = accountLock (db.find .account id) ++
      match (Statement.update .account id change).exec db with
      | .ok (n, db') => (next n).locks db'
      | .error _ => [] := by
  simp only [updateRow, Sql.execute_bind, Sql.done_bind, Sql.locks, Statement.locks]
  rfl

theorem accountLock_withBalance {db : Db} {id : String} {a : Account}
    (found : db.find .account id = some a) (balance : Int) (id' : String) :
    accountLock ((db.withBalance a balance).find .account id') =
      accountLock (db.find .account id') := by
  rw [withBalance_find found]
  split
  · rename_i same
    rw [db.find_congr .account same, found]
    rfl
  · rfl

theorem move_locks {db : Db} (valid : db.Valid) {env : Env} {s r : String} {amount : Int}
    {sender : Account} (found : db.find .account s = some sender) (positive : 0 < amount) :
    (move env s r amount).locks db ⊆
      accountLock (db.find .account s) ++ accountLock (db.find .account r) := by
  have ledger (db : Db) : (do
      let record := ledgerRecord env s r amount
      Transactions.insert record
      return record : Sql Transaction).locks db = [] := by
    simp only [Transactions.insert, insertRow, Sql.execute_bind, Sql.locks, Statement.locks,
      List.nil_append]
    split <;> rfl
  rw [move, Accounts.debit, updateRow_locks, exec_debit valid found positive]
  refine List.append_subset.mpr ⟨List.subset_append_left _ _, ?_⟩
  by_cases enough : amount ≤ sender.balance
  · simp only [enough, if_true, ne_eq, not_true_eq_false, if_false, Accounts.credit]
    rw [updateRow_locks, accountLock_withBalance found]
    refine List.append_subset.mpr ⟨List.subset_append_right _ _, ?_⟩
    split
    · rw [ledger]
      exact List.nil_subset _
    · exact List.nil_subset _
  · simp [enough, Sql.throw, Sql.locks]

theorem transferBody_locks {db : Db} (valid : db.Valid) {env : Env} {actor : Actor} {s r : String}
    {amount : Int} (ne : s ≠ r) (positive : 0 < amount) :
    ((transferBody env actor s r amount).locks db).eraseDups = (lockOrder db s r).eraseDups := by
  have rest : (transferBody env actor s r amount).locks db = lockOrder db s r ++
      (Sql.ofExcept (authorize actor (db.find .account s) (db.find .account r)) >>= fun _ =>
        move env s r amount).locks db := by
    by_cases le : s ≤ r
    · simp [transferBody, Accounts.lock, le, ne.symm, Sql.locks, lockOrder, accountLock, rowId]
    · simp [transferBody, Accounts.lock, le, ne, Sql.locks, lockOrder, accountLock, rowId]
  rw [rest]
  apply eraseDups_append_of_subset
  cases access : authorize actor (db.find .account s) (db.find .account r) with
  | error e => exact List.nil_subset _
  | ok _ =>
      obtain ⟨sender, receiver, hs, hr, -⟩ := authorize_ok access
      intro lock mem
      have mem := move_locks valid hs positive mem
      unfold lockOrder
      split
      · exact mem
      · simpa [or_comm] using mem

theorem transfer_locks {db : Db} (valid : db.Valid) {env : Env} {actor : Actor} {s r : String}
    {amount : Decimal} {cents : Int} (rounded : quantize amount = .ok cents) (positive : 0 < cents)
    (ne : s ≠ r) :
    (transfer env actor s r amount).locks db = (lockOrder db s r).eraseDups := by
  rw [transfer, rounded]
  simp only [Service.ofExcept, Service.done_bind, Int.not_le.mpr positive, ne, if_false, unitOfWork,
    Service.locks, transferBody_locks valid ne positive]
  split <;> simp

/-! ## What the spelling decides -/

structure SameOutcome (db : Db) (op op' : Service Transaction) : Prop where
  result : (op.run db).1.map (fun _ => ()) = (op'.run db).1.map (fun _ => ())
  accounts : (op.run db).2 .account = (op'.run db).2 .account
  ledger : ((op.run db).2 .transaction).length = ((op'.run db).2 .transaction).length
  locks : op.locks db = op'.locks db

/-- The spelled ids are of different rows, sort like the stored ones and fit the ledger's columns
whenever those do. -/
structure Interchangeable (db : Db) (env : Env) (actor : Actor) (s r : String) (cents : Int) :
    Prop where
  apart : db.stored s ≠ db.stored r
  sorted : (db.find .account s).isSome → (db.find .account r).isSome →
    (s ≤ r ↔ db.stored s ≤ db.stored r)
  fits : ∀ sender receiver, db.find .account s = some sender →
    db.find .account r = some receiver →
    (actor.role = .admin ∨ actor.customerId = some sender.customerId) →
    cents ≤ sender.balance → receiver.balance + cents < (10 ^ 15 : Int) →
      misfit .transaction (ledgerRecord env s r cents) =
        misfit .transaction (ledgerRecord env (db.stored s) (db.stored r) cents)

theorem lockOrder_eq_iff {db : Db} {s r : String} (apart : db.stored s ≠ db.stored r) :
    (lockOrder db s r).eraseDups = (lockOrder db (db.stored s) (db.stored r)).eraseDups ↔
      ((db.find .account s).isSome → (db.find .account r).isSome →
        (s ≤ r ↔ db.stored s ≤ db.stored r)) := by
  simp only [lockOrder, find_stored]
  cases hs : db.find .account s with
  | none => simp [accountLock]
  | some a =>
      cases hr : db.find .account r with
      | none => simp [accountLock]
      | some b =>
          rw [stored_of_find hs, stored_of_find hr] at apart ⊢
          by_cases le : s ≤ r <;> by_cases le' : a.accountId ≤ b.accountId <;>
            simp [accountLock, le, le', List.eraseDups_cons, apart, apart.symm]

theorem transferBody_settle {db : Db} (valid : db.Valid) (env : Env) {actor : Actor}
    {s r : String} {cents : Int} (positive : 0 < cents) (ne : s ≠ r)
    (apart : db.stored s ≠ db.stored r) {sender receiver : Account}
    (hs : db.find .account s = some sender) (hr : db.find .account r = some receiver)
    (owner : actor.role = .admin ∨ actor.customerId = some sender.customerId) :
    (transferBody env actor s r cents).run db =
      db.settle sender receiver (ledgerRecord env s r cents) := by
  have access : authorize actor (some sender) (some receiver) = .ok () := by
    rw [authorize, if_neg (by tauto)]
  have other : key r ≠ key s := by
    intro same
    rw [stored_of_find hs, stored_of_find hr] at apart
    rw [db.find_congr .account same, hs] at hr
    exact apart (by rw [Option.some.inj hr])
  have kept : (db.withBalance sender (sender.balance - cents)).find .account r = some receiver := by
    rw [withBalance_find hs, if_neg other, hr]
  rw [transferBody_run ne, hs, hr, access]
  exact move_run valid hs kept positive

theorem transfer_run_body {db : Db} {env : Env} {actor : Actor} {s r : String} {amount : Decimal}
    {cents : Int} (rounded : quantize amount = .ok cents) (positive : 0 < cents) (ne : s ≠ r) :
    (transfer env actor s r amount).run db =
      match (transferBody env actor s r cents).run db with
      | .ok (txn, db') => (.ok txn, db')
      | .error e => (.error e, db) := by
  rw [transfer_run, rounded]
  exact (if_neg (Int.not_le.mpr positive)).trans (if_neg ne)

omit [Collation] in
theorem misfit_not_duplicate (t : Transaction) : misfit .transaction t ≠ some (mysqlError 1062) := by
  intro h
  simpa [mysqlError] using misfit_columnError .transaction t _ h

theorem settle_reached {db : Db} {sender receiver : Account} {txn : Transaction}
    (funds : txn.amount ≤ sender.balance) (range : receiver.balance + txn.amount < (10 ^ 15 : Int)) :
    db.settle sender receiver txn =
      match misfit .transaction txn with
      | some e => .error (.driver e)
      | none =>
          if (db.find .transaction txn.transactionId).isSome then
            .error (.driver (mysqlError 1062))
          else .ok (txn, db.transferred sender receiver txn) := by
  rewrite [Db.settle, if_neg (Int.not_lt.mpr funds), if_pos range]
  cases misfit .transaction txn with
  | none => rfl
  | some e => rfl

theorem settle_alike (db : Db) (sender receiver : Account) (txn txn' : Transaction)
    (amount : txn'.amount = txn.amount) (id : txn'.transactionId = txn.transactionId)
    (fits : txn.amount ≤ sender.balance → receiver.balance + txn.amount < (10 ^ 15 : Int) →
      misfit .transaction txn = misfit .transaction txn') :
    (∃ e, db.settle sender receiver txn = .error e ∧ db.settle sender receiver txn' = .error e) ∨
    db.settle sender receiver txn = .ok (txn, db.transferred sender receiver txn) ∧
      db.settle sender receiver txn' = .ok (txn', db.transferred sender receiver txn') := by
  by_cases poor : sender.balance < txn.amount
  · exact Or.inl ⟨_, if_pos poor, if_pos (amount ▸ poor)⟩
  by_cases range : receiver.balance + txn.amount < (10 ^ 15 : Int)
  · have funds := Int.not_lt.mp poor
    rw [settle_reached funds range, settle_reached (by rwa [amount]) (by rwa [amount]),
      ← fits funds range, id]
    cases misfit .transaction txn with
    | some e => exact Or.inl ⟨_, rfl, rfl⟩
    | none =>
        cases (db.find .transaction txn.transactionId).isSome with
        | true => exact Or.inl ⟨_, rfl, rfl⟩
        | false => exact Or.inr ⟨rfl, rfl⟩
  · refine Or.inl ⟨.driver (mysqlError 1264), ?_, ?_⟩
    · rw [Db.settle, if_neg poor, if_neg range]
    · rw [Db.settle, amount, if_neg poor, if_neg range]

theorem transferred_alike (db : Db) (sender receiver : Account) (txn txn' : Transaction)
    (amount : txn'.amount = txn.amount) :
    db.transferred sender receiver txn .account = db.transferred sender receiver txn' .account ∧
      (db.transferred sender receiver txn .transaction).length =
        (db.transferred sender receiver txn' .transaction).length := by
  simp only [Db.transferred, Db.record, amount]
  constructor
  · rw [Db.set_other _ _ (by decide), Db.set_other _ _ (by decide)]
  · simp [withBalance_other]

section
variable {db : Db} (valid : db.Valid) {env : Env} {actor : Actor} {s r : String} {amount : Decimal}
  {cents : Int} (rounded : quantize amount = .ok cents) (positive : 0 < cents) (ne : s ≠ r)
include valid rounded positive ne

theorem not_sameOutcome_of_together (together : db.stored s = db.stored r) :
    ¬SameOutcome db (transfer env actor s r amount)
      (transfer env actor (db.stored s) (db.stored r) amount) := by
  intro same
  obtain ⟨a, hs, hr⟩ := stored_eq together ne
  have locks := same.locks
  rw [transfer_locks valid rounded positive ne, lockOrder, hs, hr] at locks
  have refused : (transfer env actor (db.stored s) (db.stored r) amount).locks db = [] := by
    simp [transfer, rounded, Service.ofExcept, together, raise, Int.not_le.mpr positive,
      Service.locks]
  simp [refused, accountLock, List.eraseDups_cons] at locks

theorem sameOutcome_iff_of_apart (apart : db.stored s ≠ db.stored r) :
    SameOutcome db (transfer env actor s r amount)
        (transfer env actor (db.stored s) (db.stored r) amount) ↔
      Interchangeable db env actor s r cents := by
  have apart' : db.stored (db.stored s) ≠ db.stored (db.stored r) := by
    rwa [stored_stored, stored_stored]
  constructor
  · intro same
    refine ⟨apart, (lockOrder_eq_iff apart).mp ?_, fun sender receiver hs hr owner funds range => ?_⟩
    · rw [← transfer_locks valid rounded positive ne, same.locks,
        transfer_locks valid rounded positive apart]
    · have result := same.result
      rw [transfer_run_body rounded positive ne, transfer_run_body rounded positive apart,
        transferBody_settle valid env positive ne apart hs hr owner,
        transferBody_settle valid env positive apart apart' (by rwa [find_stored])
          (by rwa [find_stored]) owner,
        settle_reached funds range, settle_reached funds range] at result
      have duplicate := misfit_not_duplicate (ledgerRecord env s r cents)
      have duplicate' := misfit_not_duplicate (ledgerRecord env (db.stored s) (db.stored r) cents)
      generalize misfit .transaction (ledgerRecord env s r cents) = m at *
      generalize misfit .transaction (ledgerRecord env (db.stored s) (db.stored r) cents) = m' at *
      rw [show (ledgerRecord env (db.stored s) (db.stored r) cents).transactionId =
        (ledgerRecord env s r cents).transactionId from rfl] at result
      generalize (db.find .transaction (ledgerRecord env s r cents).transactionId).isSome = taken at *
      cases m <;> cases m' <;> cases taken <;> simp_all [Except.map]
  · intro same
    have locks : (transfer env actor s r amount).locks db =
        (transfer env actor (db.stored s) (db.stored r) amount).locks db := by
      rw [transfer_locks valid rounded positive ne, transfer_locks valid rounded positive apart]
      exact (lockOrder_eq_iff apart).mpr same.sorted
    cases access : authorize actor (db.find .account s) (db.find .account r) with
    | error e =>
        constructor <;> try exact locks
        all_goals
          rw [transfer_run_body rounded positive ne, transfer_run_body rounded positive apart,
            transferBody_run ne, transferBody_run apart]
          simp only [find_stored, access]
    | ok _ =>
        obtain ⟨sender, receiver, hs, hr, owner⟩ := authorize_ok access
        have body := transferBody_settle valid env positive ne apart hs hr owner
        have body' := transferBody_settle valid env positive apart apart'
          ((find_stored db s).trans hs) ((find_stored db r).trans hr) owner
        have alike := transferred_alike db sender receiver (ledgerRecord env s r cents)
          (ledgerRecord env (db.stored s) (db.stored r) cents) rfl
        rcases settle_alike db sender receiver (ledgerRecord env s r cents)
          (ledgerRecord env (db.stored s) (db.stored r) cents) rfl rfl
          (same.fits sender receiver hs hr owner) with ⟨e, h, h'⟩ | ⟨h, h'⟩
        all_goals
          constructor <;> try exact locks
          all_goals
            rw [transfer_run_body rounded positive ne, transfer_run_body rounded positive apart,
              body, body', h, h']
        · rfl
        · exact alike.1
        · exact alike.2

end

theorem spelling_irrelevant_iff {db : Db} (valid : db.Valid) (env : Env) (actor : Actor)
    (s r : String) (amount : Decimal) :
    SameOutcome db (transfer env actor s r amount)
        (transfer env actor (db.stored s) (db.stored r) amount) ↔
      ∀ cents, quantize amount = .ok cents → 0 < cents →
        s = r ∨ Interchangeable db env actor s r cents := by
  by_cases equal : s = r
  · subst equal
    refine iff_of_true ?_ fun _ _ _ => Or.inl rfl
    cases rounded : quantize amount with
    | error e => constructor <;> simp [transfer, rounded, Service.ofExcept, Service.run, Service.locks]
    | ok cents =>
        by_cases low : cents ≤ 0 <;> constructor <;>
          simp [transfer, rounded, Service.ofExcept, Service.run, Service.locks, low, raise]
  · cases rounded : quantize amount with
    | error e =>
        refine iff_of_true ?_ fun _ h => by cases h
        constructor <;> simp [transfer, rounded, Service.ofExcept, Service.run, Service.locks]
    | ok cents =>
        by_cases positive : 0 < cents
        · by_cases together : db.stored s = db.stored r
          · refine iff_of_false (not_sameOutcome_of_together valid rounded positive equal together) ?_
            intro h
            rcases h cents rfl positive with h | h
            · exact equal h
            · exact h.apart together
          · rw [sameOutcome_iff_of_apart valid rounded positive equal together]
            constructor
            · rintro h cents' ⟨⟩ -
              exact Or.inr h
            · intro h
              exact (h cents rfl positive).resolve_left equal
        · refine iff_of_true ?_ ?_
          · constructor <;>
              simp [transfer, rounded, Service.ofExcept, Service.run, Service.locks, raise,
                Int.not_lt.mp positive]
          · rintro cents' ⟨⟩ h
            exact absurd h positive

end

attribute [local instance] foldCase clearText

theorem spelling_irrelevant_opened :
    SameOutcome opened (transfer (noon "t-1") ann "A-1" "b-1" ⟨40, 0⟩)
        (transfer (noon "t-1") ann (opened.stored "A-1") (opened.stored "b-1") ⟨40, 0⟩) ↔
      ∀ cents, quantize ⟨40, 0⟩ = .ok cents → 0 < cents →
        "A-1" = "b-1" ∨ Interchangeable opened (noon "t-1") ann "A-1" "b-1" cents :=
  spelling_irrelevant_iff reachable_opened.valid _ _ _ _ _

/-- Ann pays herself, and two transfers over one pair of rows lock it in opposite orders. -/
theorem spelling_matters : Reachable opened ∧ opened.stored "A-1" = opened.stored "a-1" ∧
    ((transfer (noon "t-1") ann "a-1" "A-1" ⟨40, 0⟩).run opened).1.isOk ∧
    ¬SameOutcome opened (transfer (noon "t-1") ann "a-1" "A-1" ⟨40, 0⟩)
      (transfer (noon "t-1") ann (opened.stored "a-1") (opened.stored "A-1") ⟨40, 0⟩) ∧
    (transfer (noon "t-1") ann "a-1" "B-1" ⟨40, 0⟩).locks opened =
      [(.account, "b-1"), (.account, "a-1")] ∧
    (transfer (noon "t-2") bob "b-1" "a-1" ⟨40, 0⟩).locks opened =
      [(.account, "a-1"), (.account, "b-1")] := by
  refine ⟨reachable_opened, by decide +kernel, by decide +kernel, fun same => ?_, by decide +kernel,
    by decide +kernel⟩
  have locks := same.locks
  revert locks
  decide +kernel

end Corebank
